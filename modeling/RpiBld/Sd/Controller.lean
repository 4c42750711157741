/-
RpiBld/Sd/Controller.lean

An SD controller with an error-free card in it, as a `Device`.

Between two register accesses of the driver the controller may get on with the
command it was given: it raises `CMD_COMPLETE`, then for each block, once the
block before it was drained, `READ_READY`, and after the last block
`TRANSFER_COMPLETE`.  How far it gets before the `k`-th access is `raises k`, so
quantifying over `raises` is quantifying over every interleaving of the driver
with the controller.  `INTERRUPT` is write-1-to-clear.  The poll timer runs out
only while there is nothing left to be raised: every flag comes soon enough.

The controller counts register accesses (`now`) and remembers the blocks it has
delivered (`served`) and the flags that were cleared, write by write (`acked`).
-/
import RpiBld.Sd.Card

namespace RpiBld

open Traced

/-! ### The card -/

/-- What a card is and holds.  An SDHC or SDXC card is addressed in blocks, an SDSC card
in bytes. -/
structure Medium where
  blockAddressed : Bool
  block : Nat → Nat → Byte

namespace Medium

variable (M : Medium)

/-- The number of blocks that 32-bit addresses reach. -/
def capacity : Nat := if M.blockAddressed then 2 ^ 32 else 2 ^ 23

/-- The block an address stands for. -/
def blockAt (a : Word) : Nat := if M.blockAddressed then a.toNat else a.toNat / sdBlksz

/-- `n` consecutive blocks. -/
def blocksFrom (b n : Nat) : List Nat := (List.range n).map fun i => (b + i) % M.capacity

/-- Byte `j` of what is stored from block `b` on. -/
def byteFrom (b j : Nat) : Byte := M.block ((b + j / sdBlksz) % M.capacity) (j % sdBlksz)

/-- The `k`-th word of a block, as `DATA` delivers it. -/
def word (b k : Nat) : Word := leWord fun i => M.block b (4 * k + i)

end Medium

/-- What does not change: the card, the schedule, and the card status of every R1
response. -/
structure Setup where
  medium : Medium
  raises : Nat → Nat
  cardStatus : Word
  cardStatus_ok : sdCardStatusErrorBitSet cardStatus = false

/-- A card status without any bit set. -/
theorem sdCardStatusErrorBitSet_zero : sdCardStatusErrorBitSet 0 = false := by decide

/-! ### The controller -/

/-- What the controller is doing; `todo` are the blocks still to be read from the card. -/
inductive Phase
  | idle
  | sent (todo : List Nat)
  | fetching (b : Nat) (todo : List Nat)
  | draining (b word : Nat) (todo : List Nat)
  | finishing
  deriving DecidableEq, Repr

/-- The flag the controller raises next, without waiting for the driver, and what it does
then. -/
def Phase.raise : Phase → Option (Word × Phase)
  | .sent [] => some (interruptCmdComplete, .idle)
  | .sent (b :: todo) => some (interruptCmdComplete, .fetching b todo)
  | .fetching b todo => some (interruptReadReady, .draining b 0 todo)
  | .finishing => some (interruptTransferComplete, .idle)
  | .idle | .draining _ _ _ => none

/-- What the controller does after a block was drained. -/
def Phase.afterBlock : List Nat → Phase
  | [] => .finishing
  | b :: todo => .fetching b todo

/-- The state of the controller; `preset` is the block count of a CMD23. -/
structure Controller (S : Setup) where
  now : Nat
  irpt : Word
  arg1 : Word
  blksizecnt : Word
  preset : Option Nat
  phase : Phase
  served : List Nat
  acked : List Word

namespace Controller

variable {S : Setup}

/-- Raise one flag, where there is one to be raised. -/
def advance (c : Controller S) : Controller S :=
  match c.phase.raise with
  | none => c
  | some (f, p) => { c with irpt := c.irpt ||| f, phase := p }

/-- What the controller does on its own before a register access. -/
def tick (c : Controller S) : Controller S :=
  { advance^[S.raises c.now] c with now := c.now + 1 }

/-- A write of `INTERRUPT`. -/
def ack (v : Word) (c : Controller S) : Controller S :=
  { c with irpt := c.irpt &&& ~~~v, acked := c.acked ++ [c.irpt &&& v] }

/-- A read of `DATA`. -/
def drain (c : Controller S) : Word × Controller S :=
  match c.phase with
  | .draining b k todo =>
    (S.medium.word b k,
      if k + 1 = sdBlksz / 4 then
        { c with phase := .afterBlock todo, served := c.served ++ [b] }
      else { c with phase := .draining b (k + 1) todo })
  | _ => (0, c)

/-- The block size and count the driver has set. -/
def blkSize (c : Controller S) : Nat := (c.blksizecnt.extractLsb' 0 10).toNat
def blkCount (c : Controller S) : BitVec 16 := c.blksizecnt.extractLsb' 16 16

/-- The blocks of a CMD18.  A card reads on until it is stopped unless CMD23 has set the
count, and the host has to expect as many blocks. -/
def multiBlocks (c : Controller S) : List Nat :=
  match c.preset with
  | some n =>
    if c.blkCount = BitVec.ofNat 16 n then S.medium.blocksFrom (S.medium.blockAt c.arg1) n else []
  | none => []

/-- The blocks a command asks for. -/
def blocksAsked (c : Controller S) (idx : BitVec 6) : List Nat :=
  if c.blkSize ≠ sdBlksz then []
  else if idx = 17 then [S.medium.blockAt c.arg1]
  else if idx = 18 then c.multiBlocks
  else []

/-- A write of `CMDTM`. -/
def accept (v : Word) (c : Controller S) : Controller S :=
  let idx : BitVec 6 := v.extractLsb' 24 6
  { c with
    preset := if idx = 23 then some c.arg1.toNat else none
    phase := .sent (c.blocksAsked idx) }

/-- `STATUS`: both lines are in use until the controller is done. -/
def status (c : Controller S) : Word :=
  if c.phase = .idle then 0 else statusCommandInhibitCmd ||| statusCommandInhibitDat

end Controller

instance (S : Setup) : Device (Controller S) where
  get r c :=
    match r with
    | .sd .interrupt => (c.tick.irpt, c.tick)
    | .sd .resp0 => (S.cardStatus, c.tick)
    | .sd .status => (c.tick.status, c.tick)
    | .sd .data => c.tick.drain
    | _ => (0, c.tick)
  set r v c :=
    match r with
    | .sd .interrupt => c.tick.ack v
    | .sd .arg1 => { c.tick with arg1 := v }
    | .sd .blksizecnt => { c.tick with blksizecnt := v }
    | .sd .cmdtm => c.tick.accept v
    | _ => c.tick
  timerStart _ c := (0, c)
  timerDone _ c := (c.phase.raise.isNone, c)
  sleep _ c := c
  videocore ram c := (ram, c)

/-! ### Schedules -/

namespace Setup

variable (S : Setup)

/-- The controller never pauses for as many register accesses as a poll loop has rounds. -/
def Prompt (polls : Nat) : Prop := ∀ k, ∃ j, k ≤ j ∧ j < k + polls ∧ S.raises j ≠ 0

/-- From access `n` on, at most one flag is raised between two accesses. -/
def SteadyFrom (n : Nat) : Prop := ∀ k, n ≤ k → S.raises k ≤ 1

/-- At most one flag is raised between two accesses once a command may be there: four accesses
come before one, `BLKSIZECNT`, `STATUS`, `ARG1` and `CMDTM`. -/
def Steady : Prop := S.SteadyFrom 4

/-- From access `k` on, the controller raises one flag only when it first raises any. -/
def Calm (k : Nat) : Prop :=
  ∀ j, k ≤ j → (∀ i, k ≤ i → i < j → S.raises i = 0) → S.raises j ≤ 1

variable {S}

theorem SteadyFrom.steady (h : S.SteadyFrom 0) : S.Steady := fun k _ => h k (Nat.zero_le k)

theorem Steady.calm (h : S.Steady) (k : Nat) : S.Calm (k + 4) :=
  fun j hj _ => h j (Nat.le_of_add_left_le hj)

/-- A pause of as many accesses is not prompt. -/
theorem not_prompt {polls k : Nat} (h : ∀ i < polls, S.raises (k + i) = 0) : ¬ S.Prompt polls := by
  intro hprompt
  obtain ⟨j, hj, hlt, hne⟩ := hprompt k
  apply hne
  have hi := h (j - k) (by omega)
  rwa [Nat.add_sub_cancel' hj] at hi

theorem calm_of_zero {k : Nat} (h : S.raises k = 0) : S.Calm k ↔ S.Calm (k + 1) := by
  constructor
  · intro hk j hj hz
    apply hk j (by omega)
    intro i hi hij
    rcases Nat.eq_or_lt_of_le hi with rfl | hlt
    · exact h
    · exact hz i hlt hij
  · intro hk j hj hz
    rcases Nat.eq_or_lt_of_le hj with rfl | hlt
    · omega
    · exact hk j hlt fun i hi hij => hz i (by omega) hij

theorem calm_of_ne_zero {k : Nat} (h : S.raises k ≠ 0) : S.Calm k ↔ S.raises k = 1 := by
  constructor
  · intro hk
    have := hk k (Nat.le_refl k) fun i hi hik => absurd hik (by omega)
    omega
  · intro hone j hj hz
    rcases Nat.eq_or_lt_of_le hj with rfl | hlt
    · omega
    · exact absurd (hz k (Nat.le_refl k) hlt) h

end Setup

/-! ### What a tick does -/

namespace Controller

variable {S : Setup} {c : Controller S}

/-- The controller at another time, with other flags and doing something else. -/
def into (c : Controller S) (now : Nat) (irpt : Word) (phase : Phase) : Controller S :=
  { c with now := now, irpt := irpt, phase := phase }

section Into

variable (c) (n k : Nat) (f g : Word) (p q : Phase)

@[simp] theorem now_into : (c.into n f p).now = n := rfl
@[simp] theorem irpt_into : (c.into n f p).irpt = f := rfl
@[simp] theorem phase_into : (c.into n f p).phase = p := rfl
@[simp] theorem served_into : (c.into n f p).served = c.served := rfl
@[simp] theorem acked_into : (c.into n f p).acked = c.acked := rfl
@[simp] theorem into_into : (c.into n f p).into k g q = c.into k g q := rfl

end Into

theorem advance_quiet (h : c.phase.raise = none) : c.advance = c := by
  rw [advance, h]

theorem iterate_advance_quiet (h : c.phase.raise = none) (n : Nat) : advance^[n] c = c := by
  induction n with
  | zero => rfl
  | succ n ih => rw [Function.iterate_succ_apply, advance_quiet h, ih]

/-- A controller that waits for the driver only gets older. -/
theorem tick_quiet (h : c.phase.raise = none) : c.tick = c.into (c.now + 1) c.irpt c.phase := by
  rw [tick, iterate_advance_quiet h]
  rfl

theorem tick_zero (h : S.raises c.now = 0) : c.tick = c.into (c.now + 1) c.irpt c.phase := by
  rw [tick, h]
  rfl

variable {f f' : Word} {p p' : Phase}

theorem advance_some (h : c.phase.raise = some (f, p)) :
    c.advance = c.into c.now (c.irpt ||| f) p := by
  rw [advance, h]
  rfl

/-- One flag is raised, and the controller then waits for the driver. -/
theorem tick_raise (h : c.phase.raise = some (f, p)) (hp : p.raise = none)
    (hpos : S.raises c.now ≠ 0) : c.tick = c.into (c.now + 1) (c.irpt ||| f) p := by
  obtain ⟨n, hn⟩ := Nat.exists_eq_succ_of_ne_zero hpos
  rw [tick, hn, Function.iterate_succ_apply, advance_some h, iterate_advance_quiet hp]
  rfl

theorem Phase.raise_ne_zero {q : Phase} (h : q.raise = some (f, p)) : f ≠ 0 := by
  cases q with
  | sent todo => cases todo <;> cases h <;> decide
  | fetching b todo => cases h; decide
  | finishing => cases h; decide
  | idle => cases h
  | draining b k todo => cases h

/-- A pending flag stays until it is acknowledged. -/
theorem irpt_advance_ne_zero (h : c.irpt ≠ 0) (n : Nat) : (advance^[n] c).irpt ≠ 0 := by
  induction n generalizing c with
  | zero => exact h
  | succ n ih =>
    rw [Function.iterate_succ_apply]
    apply ih
    cases hraise : c.phase.raise with
    | none => rwa [advance_quiet hraise]
    | some fp =>
      rw [advance_some hraise, irpt_into]
      exact fun h0 => h (BitVec.or_eq_zero_iff.mp h0).1

/-- Exactly one flag is raised. -/
theorem tick_one (h : c.phase.raise = some (f, p)) (hone : S.raises c.now = 1) :
    c.tick = c.into (c.now + 1) (c.irpt ||| f) p := by
  rw [tick, hone, Function.iterate_one, advance_some h]
  rfl

/-- Two flags are raised at once, and the controller then waits for the driver. -/
theorem tick_two (h : c.phase.raise = some (f, p)) (hp : p.raise = some (f', p'))
    (hp' : p'.raise = none) (htwo : 2 ≤ S.raises c.now) :
    c.tick = c.into (c.now + 1) (c.irpt ||| f ||| f') p' := by
  obtain ⟨n, hn⟩ : ∃ n, S.raises c.now = n + 1 + 1 := ⟨S.raises c.now - 2, by omega⟩
  rw [tick, hn, Function.iterate_succ_apply, Function.iterate_succ_apply, advance_some h,
    advance_some (c := c.into c.now (c.irpt ||| f) p) hp, iterate_advance_quiet hp']
  rfl

end Controller

end RpiBld
