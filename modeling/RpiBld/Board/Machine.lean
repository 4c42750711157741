/-
RpiBld/Board/Machine.lean

A board on which everything works, as a `Device`: the controller of
`Sd.Controller` with the host's other registers, a card that has yet to be
initialised, and a VideoCore that answers messages.

What the hardware does on its own it does between two register accesses, when the
schedule `raises` says so: the controller raises flags, a reset of the host ends,
its clock becomes stable, and the VideoCore takes a message and answers it.  A
poll timer runs out only while there is nothing left to be done.  So the schedule
stands for how long everything takes.

The driver has to earn what it gets: a command is lost unless the host reaches the
card with it and the card's state provides for it, flags show only where they are
unmasked, and data comes only where both sides use as many data lines.  Registers
of no concern here (`noise`) read as anything.
-/
import RpiBld.Board.Firmware
import RpiBld.Board.Slot

namespace RpiBld

open Traced

/-! ### The mailbox -/

/-- `full` says that the VideoCore has yet to take earlier messages. -/
@[ext]
structure Mailbox where
  full : Bool
  posted : Option Word
  answered : Option Word
  deriving DecidableEq, Repr

/-- The VideoCore takes the messages, and answers. -/
def Mailbox.settle (m : Mailbox) : Mailbox :=
  match m.posted with
  | some v => ⟨false, none, some v⟩
  | none => { m with full := false }

/-! ### The board -/

/-- What does not change. -/
structure Bench where
  card : MemoryCard
  firmware : Firmware
  raises : Nat → Nat
  noise : Nat → Reg → Word

/-- The card status in the transfer state. -/
def transferStatus : Word := (⟨.transfer, 0, false, false⟩ : CardRegs).status false

/-- The controller with a card that is in the transfer state. -/
def Bench.setup (B : Bench) : Setup where
  medium := B.card.medium
  raises := B.raises
  cardStatus := transferStatus
  cardStatus_ok := by decide

/-- The rate of the base clock, in Hz. -/
def Bench.baseClock (B : Bench) : Nat := (B.firmware.clockRate clkEmmc2).toNat

/-- The state of the board; `register` says that the card sends a register and no blocks. -/
structure Board (B : Bench) where
  ctl : Controller B.setup
  host : HostPort
  card : CardRegs
  resp0 : Word
  register : Bool
  mail : Mailbox

namespace Board

variable {B : Bench}

/-- The board with its controller in another state. -/
def withCtl (b : Board B) (c : Controller B.setup) : Board B := { b with ctl := c }

section WithCtl

variable (b : Board B) (c c' : Controller B.setup)

@[simp] theorem ctl_withCtl : (b.withCtl c).ctl = c := rfl
@[simp] theorem host_withCtl : (b.withCtl c).host = b.host := rfl
@[simp] theorem card_withCtl : (b.withCtl c).card = b.card := rfl
@[simp] theorem resp0_withCtl : (b.withCtl c).resp0 = b.resp0 := rfl
@[simp] theorem register_withCtl : (b.withCtl c).register = b.register := rfl
@[simp] theorem mail_withCtl : (b.withCtl c).mail = b.mail := rfl
@[simp] theorem withCtl_withCtl : (b.withCtl c).withCtl c' = b.withCtl c' := rfl

end WithCtl

/-- What the hardware does on its own before a register access. -/
def tick (b : Board B) : Board B :=
  if B.raises b.ctl.now = 0 then b.withCtl b.ctl.tick
  else { b.withCtl b.ctl.tick with host := b.host.settle, mail := b.mail.settle }

/-- There is something left to be done; a card that is idle has yet to start. -/
def pending (b : Board B) : Bool :=
  b.ctl.phase.raise.isSome ∨ b.host.settle ≠ b.host ∨ b.mail.settle ≠ b.mail ∨
    b.card.state = .idle

/-- A read of `DATA`; the SCR has two words. -/
def drain (b : Board B) : Word × Board B :=
  if b.register then
    match b.ctl.phase with
    | .draining n k todo =>
      (B.card.scrWord k,
        if k = 0 then b.withCtl { b.ctl with phase := .draining n 1 todo }
        else { b.withCtl { b.ctl with phase := .afterBlock todo } with register := false })
    | _ => (0, b)
  else (b.ctl.drain.1, b.withCtl b.ctl.drain.2)

/-- A command with data needs the same data lines on both sides. -/
def linesAgree (b : Board B) (f : Format) : Bool := f.data → b.host.wide = b.card.wide

/-- The controller once it was given a command that gets to the card.  The SCR is a block of
eight bytes. -/
def carryOut (b : Board B) (v : Word) : Controller B.setup :=
  if b.card.app ∧ v.extractLsb' 24 6 = 51#6 then
    { b.ctl with
      preset := none
      phase := .sent (if b.ctl.blkSize = 8 ∧ b.ctl.blkCount = 1 then [0] else []) }
  else b.ctl.accept v

/-- A write of `CMDTM`. -/
def accept (b : Board B) (v : Word) : Board B :=
  let idx : BitVec 6 := v.extractLsb' 24 6
  let f := Format.of b.card.app idx
  if f.fits v ∧ b.host.reaches B.baseClock b.card.clockLimit ∧ b.linesAgree f then
    match B.card.reply b.card idx b.ctl.arg1 with
    | some (resp, card) =>
      { b.withCtl (b.carryOut v) with
        card := card
        resp0 := resp
        register := b.card.app ∧ idx = 51#6 }
    | none => b
  else b

/-- A write of `CONTROL1`; a reset of the host stops what the controller is doing. -/
def setControl1 (b : Board B) (v : Word) : Board B :=
  if v &&& control1SwResetHc ≠ 0 then
    { b.withCtl { b.ctl with irpt := 0, preset := none, phase := .idle } with
      host := b.host.writeControl1 v
      register := false }
  else { b with host := b.host.writeControl1 v }

/-- A write of `MBOX1`, which gets lost where the mailbox is full. -/
def post (b : Board B) (v : Word) : Board B :=
  if b.mail.full then b else { b with mail := { b.mail with posted := some v } }

end Board

instance (B : Bench) : Device (Board B) where
  get r b :=
    let b := b.tick
    match r with
    | .sd .interrupt => (b.ctl.irpt &&& b.host.irptMask, b)
    | .sd .resp0 => (b.resp0, b)
    | .sd .status => (b.ctl.status, b)
    | .sd .data => b.drain
    | .sd .control0 => (b.host.control0, b)
    | .sd .control1 => (b.host.control1, b)
    | .sd .irptMask => (b.host.irptMask, b)
    | .vcmailbox .mbox0Status => (if b.mail.answered = none then mbox0StatusEmpty else 0, b)
    | .vcmailbox .mbox0Read =>
      (b.mail.answered.getD 0, { b with mail := { b.mail with answered := none } })
    | .vcmailbox .mbox1Status => (if b.mail.full then mbox1StatusFull else 0, b)
    | r => (B.noise b.ctl.now r, b)
  set r v b :=
    let b := b.tick
    match r with
    | .sd .interrupt => b.withCtl (b.ctl.ack v)
    | .sd .arg1 => b.withCtl { b.ctl with arg1 := v }
    | .sd .blksizecnt => b.withCtl { b.ctl with blksizecnt := v }
    | .sd .cmdtm => b.accept v
    | .sd .control0 => { b with host := { b.host with control0 := v } }
    | .sd .control1 => b.setControl1 v
    | .sd .irptMask => { b with host := { b.host with irptMask := v } }
    | .vcmailbox .mbox1Write => b.post v
    | _ => b
  timerStart _ b := (0, b)
  timerDone _ b := (!b.pending, b)
  sleep _ b := b
  videocore ram b :=
    match b.mail.answered with
    | some v => (B.firmware.process ram (v &&& ~~~channelBits), b)
    | none => (ram, b)

section Videocore

variable {B : Bench} {b : Board B}

theorem Board.videocore_none (h : b.mail.answered = none) (ram : Ram) :
    Device.videocore ram b = (ram, b) := by
  show (match b.mail.answered with
    | some v => (B.firmware.process ram (v &&& ~~~channelBits), b)
    | none => (ram, b)) = _
  rw [h]

theorem Board.videocore_some {v : Word} (h : b.mail.answered = some v) (ram : Ram) :
    Device.videocore ram b = (B.firmware.process ram (v &&& ~~~channelBits), b) := by
  show (match b.mail.answered with
    | some v => (B.firmware.process ram (v &&& ~~~channelBits), b)
    | none => (ram, b)) = _
  rw [h]

/-- The VideoCore of the board writes to the heap only. -/
theorem board_answersOnHeap (B : Bench) : AnswersOnHeap (Board B) := by
  intro ram b
  cases h : b.mail.answered with
  | none =>
    rw [Board.videocore_none h]
    exact Agree.refl
  | some v =>
    rw [Board.videocore_some h]
    exact Firmware.process_agree _ _

end Videocore

end RpiBld
