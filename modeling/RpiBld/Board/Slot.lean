/-
RpiBld/Board/Slot.lean

An SD memory card that keeps to its specification, and the registers of the host
it is plugged into.

What a card does with a command depends on the state it is in (`MemoryCard.reply`).
It knows two kinds of commands, those that follow a CMD55 being of the second
kind.  A command that its state does not provide for, or that is meant for another
card, has no answer.  Nor has one that does not get to the card: the host has to
power the bus, to clock it at a rate the card can follow, and to expect the answer
that the card gives (`Format`).
-/
import RpiBld.Sd.Controller

namespace RpiBld

/-! ### Commands -/

/-- What the host has to write to `CMDTM` for a command, beside its index. -/
structure Format where
  response : BitVec 2
  data : Bool
  multi : Bool
  deriving DecidableEq, Repr

/-- No response, one of 136 bits, of 48 bits, and of 48 bits with the card busy afterwards. -/
def Format.of (app : Bool) (idx : BitVec 6) : Format :=
  if idx = 0 then ⟨0, false, false⟩
  else if app then ⟨2, idx = 51, false⟩
  else if idx = 2 then ⟨1, false, false⟩
  else if idx = 7 then ⟨3, false, false⟩
  else if idx = 17 then ⟨2, true, false⟩
  else if idx = 18 then ⟨2, true, true⟩
  else ⟨2, false, false⟩

/-- The direction of a transfer is from the card to the host, and that of several blocks is
counted. -/
def Format.fits (f : Format) (cmdtm : Word) : Bool :=
  cmdtm.extractLsb' 16 2 = f.response ∧ cmdtm.getLsbD 21 = f.data ∧ cmdtm.getLsbD 4 = f.data ∧
    cmdtm.getLsbD 5 = f.multi ∧ cmdtm.getLsbD 1 = f.multi ∧ cmdtm.extractLsb' 2 2 = 0

/-! ### The card -/

/-- What does not change of a card.  `powerUp` is how often it is still busy with starting when it
is asked to start; until it has started, `ocr` says neither that it has nor what its capacity
is. -/
structure MemoryCard where
  medium : Medium
  rca : BitVec 16
  cid : Word
  ocr : Word
  scr : BitVec 64
  powerUp : Nat
  voltage : ocr &&& ocrVdd2v7To3v6 = ocrVdd2v7To3v6
  busy : ocr &&& ocrCardPowerUpStatus = 0
  unknown : ocr &&& ocrCardCapacityStatus = 0

/-- What changes: `starting` counts down, `app` says that the next command is an application
command, and `wide` that four data lines are in use. -/
structure CardRegs where
  state : CardState
  starting : Nat
  app : Bool
  wide : Bool
  deriving DecidableEq, Repr

/-- A state, as it is in the card status; an inactive card answers nothing. -/
def CardState.code : CardState → Word
  | .inactive => 0
  | .idle => 0
  | .ready => 1
  | .identification => 2
  | .standby => 3
  | .transfer => 4
  | .sendingData => 5
  | .receiveData => 6
  | .programming => 7
  | .disconnect => 8

/-- The card status: ready for data, and no error. -/
def CardRegs.status (c : CardRegs) (app : Bool) : Word :=
  c.state.code <<< 9 ||| bit 8 ||| if app then bit 5 else 0

/-- The card was given its address. -/
def CardRegs.addressed (c : CardRegs) : Bool := c.state = .standby ∨ c.state = .transfer

/-- The fastest clock, in Hz. -/
def CardRegs.clockLimit (c : CardRegs) : Nat := if c.addressed then 25000000 else 400000

namespace MemoryCard

variable (K : MemoryCard)

/-- After CMD0. -/
def idle : CardRegs := ⟨.idle, K.powerUp, false, false⟩

/-- The command is for this card. -/
def meant (c : CardRegs) (arg : Word) : Bool :=
  arg.extractLsb' 16 16 = if c.addressed then K.rca else 0

/-- `OCR` once the card has started. -/
def startedOcr : Word :=
  K.ocr ||| ocrCardPowerUpStatus ||| if K.medium.blockAddressed then ocrCardCapacityStatus else 0

/-- The host can drive the card: it offers a voltage that the card takes, and it knows cards of
high capacity where the card is one. -/
def takes (arg : Word) : Bool :=
  arg &&& K.ocr &&& ocrVdd2v7To3v6 ≠ 0 ∧
    (K.medium.blockAddressed → arg &&& acmd41HostCapacitySupport ≠ 0)

/-- ACMD41: an inquiry, or to start. -/
def start (c : CardRegs) (arg : Word) : Option (Word × CardRegs) :=
  if arg &&& ocrVdd2v7To3v6 = 0 then some (K.ocr, c)
  else if K.takes arg then
    match c.starting with
    | 0 => some (K.startedOcr, { c with state := .ready })
    | n + 1 => some (K.ocr, { c with starting := n })
  else none

/-- The response to a command that follows a CMD55. -/
def replyApp (c : CardRegs) (idx : BitVec 6) (arg : Word) : Option (Word × CardRegs) :=
  if idx = 41 ∧ c.state = .idle then K.start c arg
  else if idx = 6 ∧ c.state = .transfer ∧ (arg = 0 ∨ arg = 2 ∧ K.scr.getLsbD 50) then
    some (c.status true, { c with wide := arg = 2 })
  else if idx = 51 ∧ c.state = .transfer then some (c.status true, c)
  else none

/-- The response to another command. -/
def replyBasic (c : CardRegs) (idx : BitVec 6) (arg : Word) : Option (Word × CardRegs) :=
  if idx = 8 ∧ c.state = .idle ∧ arg.extractLsb' 8 4 = 1 then some (arg &&& 0xfff, c)
  else if idx = 55 ∧ K.meant c arg then some (c.status true, { c with app := true })
  else if idx = 2 ∧ c.state = .ready then some (K.cid, { c with state := .identification })
  else if idx = 3 ∧ c.state = .identification then
    some (K.rca ++ ((c.status false).setWidth 16 &&& 0x1fff), { c with state := .standby })
  else if idx = 7 ∧ c.state = .standby ∧ K.meant c arg then
    some (c.status false, { c with state := .transfer })
  else if idx = 13 ∧ c.addressed ∧ K.meant c arg then some (c.status false, c)
  else if (idx = 17 ∨ idx = 18 ∨ idx = 23 ∧ K.scr.getLsbD 33) ∧ c.state = .transfer then
    some (c.status false, c)
  else none

/-- What a card does with a command; CMD0 has no response, and works in every state. -/
def reply (c : CardRegs) (idx : BitVec 6) (arg : Word) : Option (Word × CardRegs) :=
  if idx = 0 then some (0, K.idle)
  else if c.app then K.replyApp { c with app := false } idx arg
  else K.replyBasic c idx arg

/-- The words of the SCR, as `DATA` delivers them: its bytes come most significant first. -/
def scrWord (k : Nat) : Word :=
  bswap32 (if k = 0 then K.scr.extractLsb' 32 32 else K.scr.extractLsb' 0 32)

end MemoryCard

/-! ### The host -/

/-- The registers of the host that the driver sets up. -/
structure HostPort where
  control0 : Word
  control1 : Word
  irptMask : Word
  deriving DecidableEq, Repr

namespace HostPort

/-- After a reset of the host, which is still going on. -/
def resetting : HostPort := ⟨0, control1SwResetHc, 0⟩

/-- What the hardware does on its own: a reset ends, and a clock that was turned on becomes
stable. -/
def settle (h : HostPort) : HostPort :=
  let v := h.control1 &&& ~~~control1SwResetHc
  { h with control1 := if v &&& control1IntClkEn = 0 then v else v ||| control1IntClkStable }

/-- The bits of `CONTROL1` that a stable clock depends on. -/
def clockBits : Word := control1IntClkEn ||| control1ClkFreqSel

/-- `CONTROL1` after it was written: the clock stays stable where it goes on as it was. -/
def writeControl1 (h : HostPort) (v : Word) : HostPort :=
  if v &&& control1SwResetHc ≠ 0 then resetting
  else { h with control1 := (v &&& ~~~control1IntClkStable) |||
    if v &&& clockBits = h.control1 &&& clockBits then h.control1 &&& control1IntClkStable else 0 }

/-- The rate of the card's clock, of that of its base clock. -/
def rate (h : HostPort) (base : Nat) : Nat := base / max 1 (2 * (h.control1.extractLsb' 8 8).toNat)

/-- Commands get to a card that can follow a clock of this rate: it has 3.3 V, and the clock is
stable, on, and not faster. -/
def reaches (h : HostPort) (base limit : Nat) : Bool :=
  h.control0 &&& 0xf00 = 0xf00 ∧ h.control1 &&& 0x1000007 = 7 ∧ h.rate base ≤ limit

/-- Four data lines are in use. -/
def wide (h : HostPort) : Bool := h.control0.getLsbD 1

end HostPort

end RpiBld
