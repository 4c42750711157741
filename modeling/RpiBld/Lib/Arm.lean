/-
RpiBld/Lib/Arm.lean

A core that executes A32 instructions: those that start-up code and exception
handlers are made of.

Registers are banked.  A state maps the registers that exist, the `Cell`s, to
what they hold, and which cell an instruction means by a register number is up
to the mode the core is in (`Mode.cell`).  Instructions are words in memory:
`step` fetches the word at the program counter, decodes and executes it.  So what
runs is what the memory holds, and code that was copied runs where the copy is.

The core is in the non-secure state, and no interrupt is routed to Hyp mode.  `step`
is `none` where the architecture leaves the outcome open, and for what is not
modelled: Thumb, big-endian data, conditional execution, the abort at a word that is
not aligned, and user mode for the instructions that are privileged.
Two cases that the architecture leaves open do have an outcome here, the one
that start-up code counts on: `SPSR_hyp` can be written from Hyp mode, and r15
reads as the address of the instruction plus 8 also in `msr`.

* `decode_encode` -- an instruction is decoded from its encoding;
* `Core.Runs.reaches` -- straight-line code runs as the fold of its instructions;
* `Placed` -- code at an address, of which only the words matter.
-/
import RpiBld.Lib.Memory
import Mathlib.Computability.StateTransition
import Mathlib.Data.BitVec

namespace Arm

open Traced

/-! ### Modes and registers -/

/-- The modes of the non-secure state. -/
inductive Mode
  | usr | fiq | irq | svc | abt | hyp | und | sys
  deriving DecidableEq, Repr

/-- The mode field of a status register. -/
def Mode.bits : Mode → BitVec 5
  | usr => 0b10000
  | fiq => 0b10001
  | irq => 0b10010
  | svc => 0b10011
  | abt => 0b10111
  | hyp => 0b11010
  | und => 0b11011
  | sys => 0b11111

/-- The mode a field stands for, if any. -/
def Mode.ofBits (b : BitVec 5) : Option Mode :=
  [usr, fiq, irq, svc, abt, hyp, und, sys].find? fun m => m.bits = b

@[simp] theorem Mode.ofBits_bits (m : Mode) : Mode.ofBits m.bits = some m := by
  cases m <;> rfl

/-- The registers that exist. -/
inductive Cell
  | gpr (n : BitVec 4)
  | fiqGpr (n : BitVec 4)
  | sp (m : Mode)
  | lr (m : Mode)
  | spsr (m : Mode)
  | pc | cpsr | elrHyp | hvbar | vbar | scr | sctlr | hsctlr
  deriving DecidableEq, Repr

/-- The mode whose `sp` a mode uses. -/
def Mode.stackBank : Mode → Mode
  | sys => usr
  | m => m

/-- The mode whose `lr` a mode uses. -/
def Mode.linkBank : Mode → Mode
  | sys => usr
  | hyp => usr
  | m => m

/-! ### Register numbers -/

def r0 : BitVec 4 := 0
def r1 : BitVec 4 := 1
def r2 : BitVec 4 := 2
def r3 : BitVec 4 := 3
def r4 : BitVec 4 := 4
def r12 : BitVec 4 := 12
def sp : BitVec 4 := 13
def lr : BitVec 4 := 14
def pc : BitVec 4 := 15

/-- The register that a mode calls `n`. -/
def Mode.cell (m : Mode) (n : BitVec 4) : Cell :=
  if n = 15 then .pc
  else if n = 14 then .lr m.linkBank
  else if n = 13 then .sp m.stackBank
  else if m = .fiq ∧ 8 ≤ n then .fiqGpr n
  else .gpr n

theorem Mode.cell_ne_pc {m : Mode} {n : BitVec 4} (h : n ≠ 15) : m.cell n ≠ .pc := by
  unfold Mode.cell
  split_ifs <;> simp_all

theorem Mode.cell_ne_cpsr {m : Mode} {n : BitVec 4} : m.cell n ≠ .cpsr := by
  unfold Mode.cell
  split_ifs <;> simp

/-! ### Status registers -/

/-- What `mrs` reads of the CPSR: the execution state bits read as zero. -/
def statusBits : BitVec 32 := 0xf8ff03df

/-- A status word with another mode. -/
def withMode (status : BitVec 32) (m : Mode) : BitVec 32 :=
  (status &&& ~~~0x1f) ||| m.bits.setWidth 32

/-- The mode of a status word. -/
def modeOf (status : BitVec 32) : Option Mode := Mode.ofBits (status.extractLsb' 0 5)

/-- The status words of a core that executes A32 instructions on little-endian data. -/
def A32 (status : BitVec 32) : Prop := status &&& 0x01000220 = 0#32

instance (status : BitVec 32) : Decidable (A32 status) := by
  unfold A32; infer_instance

/-- The bits of the CPSR that `msr` may write, by its field mask. -/
def fieldBits (mask : BitVec 4) : BitVec 32 :=
  (if mask.getLsbD 3 then 0xf8000000 else 0) |||
  (if mask.getLsbD 2 then 0x000f0000 else 0) |||
  (if mask.getLsbD 1 then 0x00000300 else 0) |||
  (if mask.getLsbD 0 then 0x000000df else 0)

/-- `x` with the bits of `mask` taken from `y`. -/
def merge (mask x y : BitVec 32) : BitVec 32 := (x &&& ~~~mask) ||| (y &&& mask)

/-! ### Instructions -/

/-- The data-processing operations. -/
inductive Op
  | sub | orr | mov | bic | mvn
  deriving DecidableEq, Repr

def Op.bits : Op → BitVec 4
  | sub => 0b0010
  | orr => 0b1100
  | mov => 0b1101
  | bic => 0b1110
  | mvn => 0b1111

def Op.eval : Op → BitVec 32 → BitVec 32 → BitVec 32
  | sub, x, y => x - y
  | orr, x, y => x ||| y
  | mov, _, y => y
  | bic, x, y => x &&& ~~~y
  | mvn, _, y => ~~~y

/-- The instructions.  `data` is data processing with an immediate operand, `subsPc` the
exception return `subs pc, rn, #imm`, `msrBanked` writes `ELR_hyp` or, with `spsr`, `SPSR_hyp`. -/
inductive Instr
  | data (op : Op) (rd rn : BitVec 4) (imm : BitVec 12)
  | subsPc (rn : BitVec 4) (imm : BitVec 12)
  | mrs (rd : BitVec 4)
  | msr (mask rn : BitVec 4)
  | msrBanked (spsr : BitVec 1) (rn : BitVec 4)
  | mcr (opc1 : BitVec 3) (rt crn crm : BitVec 4) (opc2 : BitVec 3)
  | eret
  | hvc (imm : BitVec 16)
  | nop
  | bl (imm : BitVec 24)
  | bx (rm : BitVec 4)
  | ldr (rt rn : BitVec 4) (imm : BitVec 12)
  | push (regs : BitVec 16)
  | pop (regs : BitVec 16)
  deriving DecidableEq, Repr

/-- The encoding of an instruction that is always executed. -/
def encode : Instr → BitVec 32
  | .data op rd rn imm => 0b1110001#7 ++ op.bits ++ 0#1 ++ rn ++ rd ++ imm
  | .subsPc rn imm => 0b1110001#7 ++ Op.sub.bits ++ 1#1 ++ rn ++ 15#4 ++ imm
  | .mrs rd => 0b1110000#7 ++ 0b10000#5 ++ 15#4 ++ rd ++ 0x000#12
  | .msr mask rn => 0b1110000#7 ++ 0b10010#5 ++ mask ++ 15#4 ++ 0x00#8 ++ rn
  | .msrBanked spsr rn =>
    0b1110000#7 ++ 0b10#2 ++ spsr ++ 0b10#2 ++ 0b1110#4 ++ 15#4 ++ 0x30#8 ++ rn
  | .mcr opc1 rt crn crm opc2 =>
    0b1110111#7 ++ 0#1 ++ opc1 ++ 0#1 ++ crn ++ rt ++ 15#4 ++ opc2 ++ 1#1 ++ crm
  | .eret => 0xe160006e
  | .hvc imm => 0b1110000#7 ++ 0b10100#5 ++ imm.extractLsb' 4 12 ++ 7#4 ++ imm.extractLsb' 0 4
  | .nop => 0xe320f000
  | .bl imm => 0b1110101#7 ++ 1#1 ++ imm
  | .bx rm => 0b1110000#7 ++ 0b10010#5 ++ 0xfff#12 ++ 1#4 ++ rm
  | .ldr rt rn imm => 0b1110010#7 ++ 0b11001#5 ++ rn ++ rt ++ imm
  | .push regs => 0b1110100#7 ++ 0b10010#5 ++ 13#4 ++ regs
  | .pop regs => 0b1110100#7 ++ 0b01011#5 ++ 13#4 ++ regs

/-- The operation of four bits. -/
def Op.ofBits (b : BitVec 4) : Option Op := [sub, orr, mov, bic, mvn].find? fun op => op.bits = b

@[simp] theorem Op.ofBits_bits (op : Op) : Op.ofBits op.bits = some op := by
  cases op <;> rfl

/-- The instructions with an immediate operand, and `nop`. -/
def decodeImmediate (w : BitVec 32) : Option Instr :=
  if w.extractLsb' 20 1 = 0 then
    if w.extractLsb' 21 4 = 0b1001 then
      if w.extractLsb' 0 20 = 0x0f000 then some .nop else none
    else
      (Op.ofBits (w.extractLsb' 21 4)).map fun op =>
        .data op (w.extractLsb' 12 4) (w.extractLsb' 16 4) (w.extractLsb' 0 12)
  else if w.extractLsb' 21 4 = Op.sub.bits ∧ w.extractLsb' 12 4 = 15 then
    some (.subsPc (w.extractLsb' 16 4) (w.extractLsb' 0 12))
  else none

/-- The instructions that move status registers, branch to a register, call the hypervisor and
return from it. -/
def decodeMiscellaneous (w : BitVec 32) : Option Instr :=
  if w.extractLsb' 4 4 = 0 then
    if w.extractLsb' 20 2 = 0 then
      if w.extractLsb' 22 3 = 0b100 ∧ w.extractLsb' 16 4 = 15 ∧ w.extractLsb' 0 12 = 0 then
        some (.mrs (w.extractLsb' 12 4))
      else none
    else if w.extractLsb' 20 2 = 0b10 ∧ w.extractLsb' 12 4 = 15 then
      if w.extractLsb' 4 8 = 0x00 then
        if w.extractLsb' 22 3 = 0b100 then some (.msr (w.extractLsb' 16 4) (w.extractLsb' 0 4))
        else none
      else if w.extractLsb' 4 8 = 0x30 ∧ w.extractLsb' 23 2 = 0b10 ∧
          w.extractLsb' 16 4 = 0b1110 then
        some (.msrBanked (w.extractLsb' 22 1) (w.extractLsb' 0 4))
      else none
    else none
  else if w.extractLsb' 4 4 = 1 then
    if w.extractLsb' 20 5 = 0b10010 ∧ w.extractLsb' 8 12 = 0xfff then
      some (.bx (w.extractLsb' 0 4))
    else none
  else if w.extractLsb' 4 4 = 7 then
    if w.extractLsb' 20 5 = 0b10100 then some (.hvc (w.extractLsb' 8 12 ++ w.extractLsb' 0 4))
    else none
  else if w.extractLsb' 0 25 = 0x160006e then some .eret
  else none

/-- The instruction a word stands for, if it is one of those above. -/
def decode (w : BitVec 32) : Option Instr :=
  if w.extractLsb' 25 7 = 0b1110001 then decodeImmediate w
  else if w.extractLsb' 25 7 = 0b1110000 then decodeMiscellaneous w
  else if w.extractLsb' 25 7 = 0b1110101 then
    if w.extractLsb' 24 1 = 1 then some (.bl (w.extractLsb' 0 24)) else none
  else if w.extractLsb' 25 7 = 0b1110010 then
    if w.extractLsb' 20 5 = 0b11001 then
      some (.ldr (w.extractLsb' 12 4) (w.extractLsb' 16 4) (w.extractLsb' 0 12))
    else none
  else if w.extractLsb' 25 7 = 0b1110111 then
    if w.extractLsb' 24 1 = 0 ∧ w.extractLsb' 20 1 = 0 ∧ w.extractLsb' 8 4 = 15 ∧
        w.extractLsb' 4 1 = 1 then
      some (.mcr (w.extractLsb' 21 3) (w.extractLsb' 12 4) (w.extractLsb' 16 4)
        (w.extractLsb' 0 4) (w.extractLsb' 5 3))
    else none
  else if w.extractLsb' 25 7 = 0b1110100 then
    if w.extractLsb' 20 5 = 0b10010 ∧ w.extractLsb' 16 4 = 13 then
      some (.push (w.extractLsb' 0 16))
    else if w.extractLsb' 20 5 = 0b01011 ∧ w.extractLsb' 16 4 = 13 then
      some (.pop (w.extractLsb' 0 16))
    else none
  else none

/-- **An instruction is decoded from its encoding.** -/
theorem decode_encode (i : Instr) : decode (encode i) = some i := by
  cases i with
  | data op rd rn imm =>
    cases op <;>
    · simp (disch := decide) only [decode, decodeImmediate, encode, Op.bits, ↓reduceIte,
        Nat.reduceSub, BitVec.reduceEq, BitVec.extractLsb'_eq_self,
        BitVec.extractLsb'_append_eq_of_add_le, BitVec.extractLsb'_append_eq_of_le]
      rfl
  | subsPc rn imm =>
    simp (disch := decide) only [decode, decodeImmediate, encode, Op.bits, ↓reduceIte,
      Nat.reduceSub, BitVec.reduceEq, BitVec.extractLsb'_eq_self, and_self,
      BitVec.extractLsb'_append_eq_of_add_le, BitVec.extractLsb'_append_eq_of_le]
  | hvc imm =>
    have himm : imm.extractLsb' 4 12 ++ imm.extractLsb' 0 4 = imm :=
      BitVec.extractLsb'_append_extractLsb'
    simp (disch := decide) only [decode, decodeMiscellaneous, encode, ↓reduceIte,
      Nat.reduceSub, BitVec.reduceEq, BitVec.extractLsb'_eq_self, himm,
      BitVec.extractLsb'_append_eq_of_add_le, BitVec.extractLsb'_append_eq_of_le]
  | eret => rfl
  | nop => rfl
  | _ =>
    simp (disch := decide) only [decode, decodeMiscellaneous, encode, ↓reduceIte,
      Nat.reduceSub, BitVec.reduceEq, BitVec.reduceExtractLsb', BitVec.extractLsb'_eq_self,
      and_self, and_true, BitVec.extractLsb'_append_eq_of_add_le,
      BitVec.extractLsb'_append_eq_of_le]

/-! ### Execution -/

/-- A core and its memory. -/
structure Core where
  cells : Cell → BitVec 32
  mem : BitVec 32 → BitVec 8

namespace Core

variable {s : Core} {c c' : Cell} {v : BitVec 32}

/-- Write a register. -/
def set (s : Core) (c : Cell) (v : BitVec 32) : Core :=
  { s with cells := Function.update s.cells c v }

@[simp] theorem set_mem : (s.set c v).mem = s.mem := rfl

@[simp] theorem set_cells : (s.set c v).cells c' = if c' = c then v else s.cells c' :=
  Function.update_apply _ _ _ _

theorem set_cells_of_ne (h : c' ≠ c) : (s.set c v).cells c' = s.cells c' :=
  Function.update_of_ne h _ _

/-- What an instruction reads as register `n`. -/
def read (s : Core) (m : Mode) (n : BitVec 4) : BitVec 32 :=
  if n = 15 then s.cells .pc + 8 else s.cells (m.cell n)

@[simp] theorem read_pc (s : Core) (m : Mode) : s.read m Arm.pc = s.cells .pc + 8 := rfl

theorem read_of_ne {s : Core} {m : Mode} {n : BitVec 4} (h : n ≠ 15) :
    s.read m n = s.cells (m.cell n) := if_neg h

/-- Go on with the next instruction. -/
def next (s : Core) : Core := s.set .pc (s.cells .pc + 4)

@[simp] theorem next_mem : s.next.mem = s.mem := rfl

@[simp] theorem next_cells : s.next.cells c = if c = .pc then s.cells .pc + 4 else s.cells c :=
  set_cells

/-- Branch to an address that says in bit 0 whether there is Thumb code. -/
def interwork (s : Core) (a : BitVec 32) : Option Core :=
  if a.getLsbD 0 then
    some ((s.set .cpsr (s.cells .cpsr ||| 0x20)).set .pc (a &&& ~~~1))
  else if a.getLsbD 1 then none
  else some (s.set .pc a)

/-- Return from an exception to the code that had this status. -/
def returnTo (s : Core) (status a : BitVec 32) : Core :=
  (s.set .cpsr status).set .pc (if status.getLsbD 5 then a &&& ~~~1 else a &&& ~~~3)

end Core

/-- The value of an immediate field: eight bits, rotated right by an even amount. -/
def expandImm (imm : BitVec 12) : BitVec 32 :=
  ((imm.extractLsb' 0 8).setWidth 32).rotateRight (2 * (imm.extractLsb' 8 4).toNat)

/-- The immediate field of a value, with the least rotation. -/
def immField (v : BitVec 32) : BitVec 12 :=
  match (List.range 16).find? fun r => v.rotateLeft (2 * r) < 256 with
  | some r => BitVec.ofNat 4 r ++ (v.rotateLeft (2 * r)).setWidth 8
  | none => 0

/-- The target of a branch. -/
def branchTarget (pc : BitVec 32) (imm : BitVec 24) : BitVec 32 :=
  pc + 8 + (imm ++ 0#2).signExtend 32

/-- The field of a branch from one address to another. -/
def branchField (pc target : BitVec 32) : BitVec 24 := (target - (pc + 8)).extractLsb' 2 24

/-- The registers of a list, lowest first. -/
def regList (regs : BitVec 16) : List (BitVec 4) :=
  ((List.range 16).filter fun i => regs.getLsbD i).map (BitVec.ofNat 4)

/-- Store words one after the other. -/
def writeWords (mem : BitVec 32 → BitVec 8) (a : BitVec 32) :
    List (BitVec 32) → BitVec 32 → BitVec 8
  | [] => mem
  | v :: vs => writeWords (store32 mem a v) (a + 4) vs

/-- Load registers from words one after the other. -/
def Core.loadRegs (s : Core) (m : Mode) (a : BitVec 32) : List (BitVec 4) → Core
  | [] => s
  | n :: ns => (s.set (m.cell n) (load32 s.mem a)).loadRegs m (a + 4) ns

/-- The status with which the code of an exception starts: execution state and masks as the
control register and the caller say. -/
def exceptionStatus (status : BitVec 32) (m : Mode) (masks control : BitVec 32) : BitVec 32 :=
  withMode ((status &&& ~~~0x0700fe20) ||| masks ||| (if control.getLsbD 30 then 0x20 else 0) |||
    (if control.getLsbD 25 then 0x200 else 0)) m

/-- The interrupts that are masked on the way to Hyp mode, but for those that are taken to
Monitor mode. -/
def hypMasks (scr : BitVec 32) : BitVec 32 :=
  (if scr.getLsbD 1 then 0 else 0x80) ||| (if scr.getLsbD 2 then 0 else 0x40) |||
    (if scr.getLsbD 3 then 0 else 0x100)

/-- Take an exception to Hyp mode. -/
def Core.takeHyp (s : Core) (ret offset : BitVec 32) : Core :=
  let status := s.cells .cpsr
  let s := (s.set (.spsr .hyp) status).set .elrHyp ret
  (s.set .cpsr (exceptionStatus status .hyp (hypMasks (s.cells .scr)) (s.cells .hsctlr))).set .pc
    (s.cells .hvbar + offset)

/-- Take an interrupt, where one is taken to IRQ mode and not to Monitor mode (bit 1 of the `scr`)
or to Hyp mode. -/
def Core.takeIrq (s : Core) : Option Core :=
  let status := s.cells .cpsr
  if status.getLsbD 7 ∨ (s.cells .sctlr).getLsbD 13 ∨ (s.cells .scr).getLsbD 1 ∨
      modeOf status = some .hyp then none
  else
    let s := (s.set (.spsr .irq) status).set (.lr .irq) (s.cells .pc + 4)
    some ((s.set .cpsr (exceptionStatus status .irq 0x180 (s.cells .sctlr))).set .pc
      (s.cells .vbar + 0x18))

/-- Execute an instruction in a mode. -/
def exec (m : Mode) (s : Core) : Instr → Option Core
  | .data op rd rn imm =>
    if rd = 15 then none
    else some (s.set (m.cell rd) (op.eval (s.read m rn) (expandImm imm))).next
  | .subsPc rn imm =>
    if m = .usr ∨ m = .sys ∨ m = .hyp ∨ modeOf (s.cells (.spsr m)) = none ∨
        modeOf (s.cells (.spsr m)) = some .hyp then none
    else some (s.returnTo (s.cells (.spsr m)) (s.read m rn - expandImm imm))
  | .mrs rd =>
    if m = .usr ∨ rd = 15 then none
    else some (s.set (m.cell rd) (s.cells .cpsr &&& statusBits)).next
  | .msr mask rn =>
    let status := merge (fieldBits mask) (s.cells .cpsr) (s.read m rn)
    -- Hyp mode is entered and left by exceptions only
    if m = .usr ∨ modeOf status = none ∨ (m = .hyp ↔ modeOf status ≠ some .hyp) then none
    else some (s.set .cpsr status).next
  | .msrBanked spsr rn =>
    if m = .hyp then
      some (s.set (if spsr = 1 then .spsr .hyp else .elrHyp) (s.read m rn)).next
    else none
  | .mcr opc1 rt crn crm opc2 =>
    if crn = 12 ∧ crm = 0 ∧ opc2 = 0 ∧ rt ≠ 15 then
      if opc1 = 4 ∧ m = .hyp then some (s.set .hvbar (s.read m rt &&& ~~~0x1f)).next
      else if opc1 = 0 ∧ m ≠ .usr then some (s.set .vbar (s.read m rt &&& ~~~0x1f)).next
      else none
    else none
  | .eret =>
    if m = .hyp then
      if modeOf (s.cells (.spsr .hyp)) = none then none
      else some (s.returnTo (s.cells (.spsr .hyp)) (s.cells .elrHyp))
    else if m = .usr ∨ m = .sys ∨ modeOf (s.cells (.spsr m)) = none ∨
        modeOf (s.cells (.spsr m)) = some .hyp then none
    else some (s.returnTo (s.cells (.spsr m)) (s.read m 14))
  | .hvc _ =>
    if m = .usr ∨ (s.cells .scr).getLsbD 8 = false then none
    else some (s.takeHyp (s.cells .pc + 4) (if m = .hyp then 0x08 else 0x14))
  | .nop => some s.next
  | .bl imm =>
    some ((s.set (m.cell 14) (s.cells .pc + 4)).set .pc (branchTarget (s.cells .pc) imm))
  | .bx rm => s.interwork (s.read m rm)
  | .ldr rt rn imm =>
    let a := s.read m rn + imm.setWidth 32
    if a.extractLsb' 0 2 ≠ 0#2 then none
    else if rt = 15 then s.interwork (load32 s.mem a)
    else some (s.set (m.cell rt) (load32 s.mem a)).next
  | .push regs =>
    let ns := regList regs
    if 13 ∈ ns ∨ 15 ∈ ns ∨ (s.read m 13).extractLsb' 0 2 ≠ 0#2 then none
    else
      let a := s.read m 13 - BitVec.ofNat 32 (4 * ns.length)
      let mem := writeWords s.mem a (ns.map fun n => s.read m n)
      some (({ s with mem := mem } : Core).set (m.cell 13) a).next
  | .pop regs =>
    let ns := regList regs
    if 13 ∈ ns ∨ 15 ∈ ns ∨ (s.read m 13).extractLsb' 0 2 ≠ 0#2 then none
    else
      let a := s.read m 13
      some ((s.loadRegs m a ns).set (m.cell 13) (a + BitVec.ofNat 32 (4 * ns.length))).next

/-- Execute an instruction. -/
def execute (s : Core) (i : Instr) : Option Core :=
  if A32 (s.cells .cpsr) then (modeOf (s.cells .cpsr)).bind fun m => exec m s i else none

/-- One step of the core. -/
def step (s : Core) : Option Core :=
  (decode (load32 s.mem (s.cells .pc))).bind fun i => execute s i

/-! ### Status words -/

section Status

variable {x y : BitVec 32} {m : Mode}

@[simp] theorem modeOf_withMode (x : BitVec 32) (m : Mode) : modeOf (withMode x m) = some m := by
  have hx : (x &&& ~~~0x1f).extractLsb' 0 5 = 0#5 := by
    rw [BitVec.extractLsb'_and]
    exact BitVec.and_zero
  have hm : (m.bits.setWidth 32).extractLsb' 0 5 = m.bits := by
    cases m <;> rfl
  rw [modeOf, withMode, BitVec.extractLsb'_or, hx, hm, BitVec.zero_or, Mode.ofBits_bits]

/-- Setting the mode leaves the other bits alone. -/
theorem withMode_and (x : BitVec 32) (m : Mode) {k : BitVec 32} (hk : k &&& 0x1f = 0#32) :
    withMode x m &&& k = x &&& k := by
  have hm : m.bits.setWidth 32 &&& 0x1f = m.bits.setWidth 32 := by
    cases m <;> rfl
  have hbits : m.bits.setWidth 32 &&& k = 0#32 := by
    rw [← hm, BitVec.and_assoc, BitVec.and_comm 0x1f k, hk, BitVec.and_zero]
  have hrest : ~~~0x1f &&& k = k := by
    calc ~~~0x1f &&& k = (~~~0x1f &&& k) ||| (k &&& 0x1f) := by rw [hk, BitVec.or_zero]
      _ = k &&& (~~~0x1f ||| 0x1f) := by rw [BitVec.and_or_distrib_left, BitVec.and_comm]
      _ = k := BitVec.and_allOnes
  rw [withMode, BitVec.and_or_distrib_right, BitVec.and_assoc, hrest, hbits, BitVec.or_zero]

theorem a32_withMode_iff : A32 (withMode x m) ↔ A32 x := by
  rw [A32, A32, withMode_and x m (by decide)]

theorem withMode_withMode (x : BitVec 32) (m m' : Mode) :
    withMode (withMode x m) m' = withMode x m' := by
  rw [withMode, withMode_and x m (by decide), ← withMode]

/-- No Thumb code. -/
theorem A32.thumb (h : A32 x) : x.getLsbD 5 = false := by
  have hbit : (x &&& 0x01000220).getLsbD 5 = false := by rw [h]; rfl
  simpa using hbit

/-- `mrs` leaves out execution state bits only. -/
theorem a32_and_statusBits (h : A32 x) : A32 (x &&& statusBits) := by
  rw [A32, BitVec.and_assoc, BitVec.and_comm statusBits, ← BitVec.and_assoc, h, BitVec.zero_and]

/-- `msr cpsr, rn` after the mode field of what `mrs` read was replaced. -/
theorem merge_withMode (x : BitVec 32) (m : Mode) :
    merge (fieldBits 0b1001) x (withMode (x &&& statusBits) m) = withMode x m := by
  have hfields : fieldBits 0b1001 = 0xf80000df := rfl
  have hold : x &&& ~~~0xf80000df = withMode x m &&& ~~~0xf80000df :=
    (withMode_and x m (by decide)).symm
  have hnew : withMode (x &&& statusBits) m &&& 0xf80000df = withMode x m &&& 0xf80000df := by
    rw [withMode, withMode, BitVec.and_or_distrib_right, BitVec.and_or_distrib_right,
      BitVec.and_assoc, BitVec.and_assoc, BitVec.and_assoc]
    rfl
  rw [merge, hfields, hold, hnew, ← BitVec.and_or_distrib_left, BitVec.or_comm]
  exact BitVec.and_allOnes

end Status

/-! ### Where code is -/

/-- The memory holds these words from `a` on. -/
def Placed (mem : BitVec 32 → BitVec 8) (a : BitVec 32) : List (BitVec 32) → Prop
  | [] => True
  | w :: ws => load32 mem a = w ∧ Placed mem (a + 4) ws

section Placed

variable {mem mem' : BitVec 32 → BitVec 8} {a b : BitVec 32} {ws ws' : List (BitVec 32)}

theorem placed_append : Placed mem a (ws ++ ws') ↔
    Placed mem a ws ∧ Placed mem (a + BitVec.ofNat 32 (4 * ws.length)) ws' := by
  induction ws generalizing a with
  | nil => simp [Placed]
  | cons w ws ih =>
    have hnext : a + 4 + BitVec.ofNat 32 (4 * ws.length) =
        a + BitVec.ofNat 32 (4 * (w :: ws).length) := by
      rw [List.length_cons, Nat.mul_succ, Nat.add_comm, BitVec.ofNat_add, BitVec.add_assoc]
      rfl
    rw [List.cons_append, Placed, ih, hnext, Placed, and_assoc]

/-- A copy of the code holds the same words. -/
theorem Placed.copy (h : Placed mem a ws)
    (hcopy : ∀ i < 4 * ws.length, mem' (b + BitVec.ofNat 32 i) = mem (a + BitVec.ofNat 32 i)) :
    Placed mem' b ws := by
  induction ws generalizing a b with
  | nil => trivial
  | cons w ws ih =>
    have hnext : ∀ (x : BitVec 32) (i : Nat),
        x + 4 + BitVec.ofNat 32 i = x + BitVec.ofNat 32 (4 + i) := by
      intro x i
      rw [BitVec.ofNat_add, BitVec.add_assoc]
      rfl
    rw [List.length_cons] at hcopy
    refine ⟨?_, ih h.2 fun i hi => ?_⟩
    · rw [← h.1]
      exact leWord_congr fun i hi => hcopy i (by omega)
    · rw [hnext, hnext]
      exact hcopy (4 + i) (by omega)

/-- Storing elsewhere does not change the code. -/
theorem Placed.agree {x lo hi : Nat} (h : Placed mem (BitVec.ofNat 32 x) ws)
    (hagree : Agree mem mem' lo hi) (hlo : lo ≤ x) (hhi : x + 4 * ws.length ≤ hi) :
    Placed mem' (BitVec.ofNat 32 x) ws := by
  apply h.copy
  intro i hi'
  rw [← BitVec.ofNat_add]
  exact hagree (x + i) (by omega) (by omega)

/-- The words that were stored are there. -/
theorem placed_writeWords (mem : BitVec 32 → BitVec 8) {x : Nat} (hx : x + 4 * ws.length ≤ 2 ^ 32) :
    Placed (writeWords mem (BitVec.ofNat 32 x) ws) (BitVec.ofNat 32 x) ws ∧
      Agree mem (writeWords mem (BitVec.ofNat 32 x) ws) 0 x := by
  induction ws generalizing mem x with
  | nil => exact ⟨trivial, Agree.refl⟩
  | cons w ws ih =>
    rw [List.length_cons] at hx
    have hnext : BitVec.ofNat 32 x + 4 = BitVec.ofNat 32 (x + 4) := by
      rw [BitVec.ofNat_add]
      rfl
    obtain ⟨hplaced, hagree⟩ := ih (store32 mem (BitVec.ofNat 32 x) w) (x := x + 4) (by omega)
    rw [writeWords, hnext]
    refine ⟨⟨?_, by rwa [hnext]⟩, ?_⟩
    · rw [hagree.load32 (Nat.zero_le x) (Nat.le_refl _), load32_store32 (by decide)]
    · exact (agree_overlay (by omega) (by omega) (.inl (Nat.le_refl x))).trans
        (hagree.mono (Nat.le_refl 0) (by omega))

end Placed

/-! ### Modes -/

/-- The core executes A32 instructions in this mode. -/
structure Core.In (s : Core) (m : Mode) : Prop where
  a32 : A32 (s.cells .cpsr)
  mode : modeOf (s.cells .cpsr) = some m

theorem Core.In.execute {s : Core} {m : Mode} (h : s.In m) (i : Instr) :
    Arm.execute s i = exec m s i := by
  rw [Arm.execute, if_pos h.a32, h.mode]
  rfl

theorem Core.In.of_cpsr {s s' : Core} {m : Mode} (h : s.In m)
    (hcpsr : s'.cells .cpsr = s.cells .cpsr) : s'.In m :=
  ⟨by rw [hcpsr]; exact h.a32, by rw [hcpsr]; exact h.mode⟩

theorem Core.In.set {s : Core} {m : Mode} (h : s.In m) {c : Cell} (hc : c ≠ .cpsr)
    (v : BitVec 32) : (s.set c v).In m :=
  h.of_cpsr (Core.set_cells_of_ne hc.symm)

theorem Core.In.next {s : Core} {m : Mode} (h : s.In m) : s.next.In m := h.set (by decide) _

/-! ### Straight-line code -/

/-- What is executed is what the memory holds. -/
theorem step_of_load32 {s : Core} {i : Instr} (h : load32 s.mem (s.cells .pc) = encode i) :
    step s = execute s i := by
  rw [step, h, decode_encode]
  rfl

/-- The instructions after which the next one is executed. -/
def Instr.Straight : Instr → Prop
  | .data _ _ _ _ | .mrs _ | .msr _ _ | .msrBanked _ _ | .mcr _ _ _ _ _ | .nop => True
  | _ => False

instance (i : Instr) : Decidable i.Straight := by
  cases i <;> unfold Instr.Straight <;> infer_instance

/-- Writing another register does not change where the next instruction is. -/
theorem Core.set_next {s s' : Core} {c : Cell} {v : BitVec 32} (hc : c ≠ .pc)
    (h : some (s.set c v).next = some s') :
    s'.cells .pc = s.cells .pc + 4 ∧ s'.mem = s.mem := by
  obtain rfl := Option.some.inj h
  refine ⟨?_, rfl⟩
  simp [hc.symm]

theorem exec_straight {m : Mode} {s s' : Core} {i : Instr} (hi : i.Straight)
    (h : exec m s i = some s') : s'.cells .pc = s.cells .pc + 4 ∧ s'.mem = s.mem := by
  cases i with
  | data op rd rn imm =>
    simp only [exec] at h
    split_ifs at h with hrd
    exact Core.set_next (Mode.cell_ne_pc hrd) h
  | mrs rd =>
    simp only [exec] at h
    split_ifs at h with hrd
    exact Core.set_next (Mode.cell_ne_pc (not_or.mp hrd).2) h
  | msr mask rn =>
    simp only [exec] at h
    split_ifs at h
    exact Core.set_next (by decide) h
  | msrBanked spsr rn =>
    simp only [exec] at h
    split_ifs at h
    · exact Core.set_next (by decide) h
    · exact Core.set_next (by decide) h
  | mcr opc1 rt crn crm opc2 =>
    simp only [exec] at h
    split_ifs at h
    · exact Core.set_next (by decide) h
    · exact Core.set_next (by decide) h
  | nop =>
    obtain rfl := Option.some.inj h
    exact ⟨by simp, rfl⟩
  | _ => exact hi.elim

/-- The instructions can be executed one after the other, and `Q` holds after them. -/
def Core.Runs (s : Core) (is : List Instr) (Q : Core → Prop) : Prop :=
  ∃ s', is.foldlM execute s = some s' ∧ Q s'

namespace Core.Runs

variable {s s₁ : Core} {i : Instr} {is js : List Instr} {P Q : Core → Prop}

theorem nil (h : Q s) : s.Runs [] Q := ⟨s, rfl, h⟩

theorem cons (hi : execute s i = some s₁) (h : s₁.Runs is Q) : s.Runs (i :: is) Q := by
  obtain ⟨s', hrun, hQ⟩ := h
  exact ⟨s', by rw [List.foldlM_cons, hi]; exact hrun, hQ⟩

theorem mono (h : s.Runs is P) (hPQ : ∀ s', P s' → Q s') : s.Runs is Q := by
  obtain ⟨s', hrun, hP⟩ := h
  exact ⟨s', hrun, hPQ s' hP⟩

theorem append (h : s.Runs is P) (h' : ∀ s', P s' → s'.Runs js Q) : s.Runs (is ++ js) Q := by
  obtain ⟨s₁, hrun, hP⟩ := h
  obtain ⟨s₂, hrun', hQ⟩ := h' s₁ hP
  exact ⟨s₂, by rw [List.foldlM_append, hrun]; exact hrun', hQ⟩

/-! The rules for single instructions hand the mode on. -/

variable {m : Mode} {rd rn : BitVec 4}

theorem data (h : s.In m) (hrd : rd ≠ 15) (hrn : rn ≠ 15) {op : Op} {imm : BitVec 12}
    (hrest : ∀ s₁, s₁ = (s.set (m.cell rd) (op.eval (s.cells (m.cell rn)) (expandImm imm))).next →
      s₁.In m → s₁.Runs is Q) : s.Runs (.data op rd rn imm :: is) Q := by
  refine cons ?_ (hrest _ rfl (h.set Mode.cell_ne_cpsr _).next)
  rw [h.execute]
  simp only [exec]
  rw [if_neg hrd, Core.read_of_ne hrn]

theorem mrs (h : s.In m) (hm : m ≠ .usr) (hrd : rd ≠ 15)
    (hrest : ∀ s₁, s₁ = (s.set (m.cell rd) (s.cells .cpsr &&& statusBits)).next →
      s₁.In m → s₁.Runs is Q) : s.Runs (.mrs rd :: is) Q := by
  refine cons ?_ (hrest _ rfl (h.set Mode.cell_ne_cpsr _).next)
  rw [h.execute]
  exact if_neg (not_or.mpr ⟨hm, hrd⟩)

/-- A change of the mode, between modes other than Hyp mode. -/
theorem msr (h : s.In m) (hm : m ≠ .usr ∧ m ≠ .hyp) (hrn : rn ≠ 15) {m' : Mode} (hm' : m' ≠ .hyp)
    (hv : s.cells (m.cell rn) = withMode (s.cells .cpsr &&& statusBits) m')
    (hrest : ∀ s₁, s₁ = (s.set .cpsr (withMode (s.cells .cpsr) m')).next →
      s₁.In m' → s₁.Runs is Q) : s.Runs (.msr 0b1001 rn :: is) Q := by
  have hin : (s.set .cpsr (withMode (s.cells .cpsr) m')).In m' := by
    refine ⟨?_, ?_⟩
    · simpa using a32_withMode_iff.mpr h.a32
    · simp
  refine cons ?_ (hrest _ rfl hin.next)
  rw [h.execute]
  simp only [exec]
  rw [Core.read_of_ne hrn, hv, merge_withMode, modeOf_withMode, if_neg]
  simp [hm, hm']

theorem msrBanked (h : s.In .hyp) {spsr : BitVec 1}
    (hrest : ∀ s₁, s₁ = (s.set (if spsr = 1 then .spsr .hyp else .elrHyp) (s.read .hyp rn)).next →
      s₁.In .hyp → s₁.Runs is Q) : s.Runs (.msrBanked spsr rn :: is) Q := by
  have hne : (if spsr = 1 then Cell.spsr .hyp else .elrHyp) ≠ .cpsr := by
    split_ifs <;> simp
  refine cons ?_ (hrest _ rfl (h.set hne _).next)
  rw [h.execute]
  rfl

/-- The base of the vectors for Hyp mode. -/
theorem mcrHvbar (h : s.In .hyp) (hrn : rn ≠ 15)
    (hrest : ∀ s₁, s₁ = (s.set .hvbar (s.cells (Mode.hyp.cell rn) &&& ~~~0x1f)).next →
      s₁.In .hyp → s₁.Runs is Q) : s.Runs (.mcr 4 rn 12 0 0 :: is) Q := by
  refine cons ?_ (hrest _ rfl (h.set (by decide) _).next)
  rw [h.execute]
  simp only [exec]
  rw [if_pos ⟨trivial, trivial, trivial, hrn⟩, if_pos ⟨trivial, trivial⟩,
    Core.read_of_ne hrn]

end Core.Runs

/-- **Straight-line code runs as the fold of its instructions.**  What the memory holds is all
that counts: nothing is said about where the code is. -/
theorem Core.Runs.reaches {is : List Instr} {s : Core} {Q : Core → Prop} (h : s.Runs is Q)
    (hcode : Placed s.mem (s.cells .pc) (is.map encode)) (hs : ∀ i ∈ is, i.Straight) :
    ∃ s', StateTransition.Reaches step s s' ∧
      s'.cells .pc = s.cells .pc + BitVec.ofNat 32 (4 * is.length) ∧ s'.mem = s.mem ∧ Q s' := by
  obtain ⟨s', hrun, hQ⟩ := h
  refine ⟨s', ?_⟩
  induction is generalizing s with
  | nil =>
    obtain rfl := Option.some.inj hrun
    exact ⟨Relation.ReflTransGen.refl, by simp, rfl, hQ⟩
  | cons i is ih =>
    rw [List.foldlM_cons] at hrun
    obtain ⟨s₁, hs₁, hrest⟩ := Option.bind_eq_some_iff.mp hrun
    have hstraight : s₁.cells .pc = s.cells .pc + 4 ∧ s₁.mem = s.mem := by
      simp only [execute] at hs₁
      split_ifs at hs₁
      obtain ⟨m, -, hm⟩ := Option.bind_eq_some_iff.mp hs₁
      exact exec_straight (hs i List.mem_cons_self) hm
    obtain ⟨hpc, hmem⟩ := hstraight
    have hplaced : Placed s₁.mem (s₁.cells .pc) (is.map encode) := by
      rw [hpc, hmem]
      exact hcode.2
    obtain ⟨hreach, hpc', hmem', -⟩ :=
      ih hplaced (fun j hj => hs j (List.mem_cons_of_mem i hj)) hrest
    have hstep : step s = some s₁ := (step_of_load32 hcode.1).trans hs₁
    refine ⟨hreach.head hstep, ?_, hmem'.trans hmem, hQ⟩
    rw [hpc', hpc, BitVec.add_assoc, List.length_cons, Nat.mul_succ, Nat.add_comm, BitVec.ofNat_add]
    rfl

/-! ### Branches -/

/-- A branch gets to its target, where that is in its range. -/
theorem branchTarget_branchField {pc target : BitVec 32}
    (hlow : (target - (pc + 8)).extractLsb' 0 2 = 0#2)
    (hmin : -2 ^ 25 ≤ (target - (pc + 8)).toInt) (hmax : (target - (pc + 8)).toInt < 2 ^ 25) :
    branchTarget pc (branchField pc target) = target := by
  generalize hd : target - (pc + 8) = d at hlow hmin hmax
  have hjoin : d.extractLsb' 2 24 ++ 0#2 = d.setWidth 26 := by
    rw [← hlow, BitVec.extractLsb'_append_extractLsb'_eq_extractLsb' (by decide),
      BitVec.setWidth_eq_extractLsb' (by decide)]
  have hext : (d.setWidth 26).signExtend 32 = d := by
    apply BitVec.eq_of_toInt_eq
    have hmod : Int.bmod d.toNat (2 ^ 26) = Int.bmod d.toInt (2 ^ 26) := by
      rw [BitVec.toInt_eq_toNat_bmod, Int.bmod_bmod_of_dvd (by decide)]
    rw [BitVec.toInt_signExtend_of_le (by decide), BitVec.toInt_setWidth, hmod]
    exact Int.bmod_eq_of_le (by omega) (by omega)
  rw [branchTarget, branchField, hd, hjoin, hext, ← hd, BitVec.add_comm, BitVec.sub_add_cancel]

section Step

variable {s : Core} {m : Mode}

theorem step_bl (h : s.In m) {imm : BitVec 24}
    (hcode : load32 s.mem (s.cells .pc) = encode (.bl imm)) :
    step s = some ((s.set (m.cell lr) (s.cells .pc + 4)).set .pc
      (branchTarget (s.cells .pc) imm)) := by
  rw [step_of_load32 hcode, h.execute]
  rfl

/-- The return from Hyp mode. -/
theorem step_eret (h : s.In .hyp) (hcode : load32 s.mem (s.cells .pc) = encode .eret)
    {m : Mode} (ha32 : A32 (s.cells (.spsr .hyp))) (hm : modeOf (s.cells (.spsr .hyp)) = some m) :
    step s = some ((s.set .cpsr (s.cells (.spsr .hyp))).set .pc (s.cells .elrHyp &&& ~~~3)) := by
  have hnone : modeOf (s.cells (.spsr .hyp)) ≠ none := by simp [hm]
  rw [step_of_load32 hcode, h.execute]
  simp only [exec]
  rw [if_pos trivial, if_neg hnone, Core.returnTo, ha32.thumb]
  rfl

/-- The call of the hypervisor from a mode below it. -/
theorem step_hvc (h : s.In m) (hm : m ≠ .usr ∧ m ≠ .hyp) {imm : BitVec 16}
    (hcode : load32 s.mem (s.cells .pc) = encode (.hvc imm))
    (hhce : (s.cells .scr).getLsbD 8 = true) :
    step s = some (s.takeHyp (s.cells .pc + 4) 0x14) := by
  rw [step_of_load32 hcode, h.execute]
  simp only [exec]
  rw [hhce, if_neg (by simp [hm.1]), if_neg hm.2]

/-- A branch to ARM code, by the address that a register holds. -/
theorem interwork_eq {a : BitVec 32} (ha : a.extractLsb' 0 2 = 0#2) :
    s.interwork a = some (s.set .pc a) := by
  have h0 : a.getLsbD 0 = false := by
    have := congrArg (fun b : BitVec 2 => b.getLsbD 0) ha
    simpa using this
  have h1 : a.getLsbD 1 = false := by
    have := congrArg (fun b : BitVec 2 => b.getLsbD 1) ha
    simpa using this
  rw [Core.interwork, h0, h1]
  rfl

theorem step_bx (h : s.In m) (rm : BitVec 4) (hrm : rm ≠ 15)
    (hcode : load32 s.mem (s.cells .pc) = encode (.bx rm))
    (ha : (s.cells (m.cell rm)).extractLsb' 0 2 = 0#2) :
    step s = some (s.set .pc (s.cells (m.cell rm))) := by
  rw [step_of_load32 hcode, h.execute]
  simp only [exec]
  rw [Core.read_of_ne hrm, interwork_eq ha]

/-- A branch to the address that a word in memory holds. -/
theorem step_ldr (h : s.In m) (imm : BitVec 12)
    (hcode : load32 s.mem (s.cells .pc) = encode (.ldr pc pc imm))
    (haligned : (s.cells .pc + 8 + imm.setWidth 32).extractLsb' 0 2 = 0#2)
    {a : BitVec 32} (hload : load32 s.mem (s.cells .pc + 8 + imm.setWidth 32) = a)
    (ha : a.extractLsb' 0 2 = 0#2) : step s = some (s.set .pc a) := by
  rw [step_of_load32 hcode, h.execute]
  simp only [exec]
  rw [Core.read_pc, if_neg (not_not.mpr haligned), if_pos (by decide), hload, interwork_eq ha]

end Step

/-! ### Exceptions -/

section Exceptions

variable {s : Core}

/-- The code of an exception is A32 code on little-endian data where the control register says
so. -/
theorem a32_exceptionStatus {status masks control : BitVec 32} {m : Mode}
    (hthumb : control.getLsbD 30 = false) (hbig : control.getLsbD 25 = false)
    (hmasks : masks &&& 0x01000220 = 0#32) : A32 (exceptionStatus status m masks control) := by
  rw [exceptionStatus, a32_withMode_iff, hthumb, hbig, A32]
  have hclear : status &&& ~~~0x0700fe20 &&& 0x01000220 = 0#32 := by
    rw [BitVec.and_assoc]
    exact BitVec.and_zero
  rw [if_neg (by decide), if_neg (by decide), BitVec.and_or_distrib_right,
    BitVec.and_or_distrib_right, BitVec.and_or_distrib_right, hclear, hmasks]
  rfl

/-- What is masked stays masked. -/
theorem exceptionStatus_and {status masks control k : BitVec 32} {m : Mode} (hk : k &&& 0x1f = 0#32)
    (hmasks : masks &&& k = k) : exceptionStatus status m masks control &&& k = k := by
  rw [exceptionStatus, withMode_and _ _ hk]
  apply BitVec.eq_of_getLsbD_eq
  intro i _
  have hi := congrArg (fun x : BitVec 32 => x.getLsbD i) hmasks
  simp only [BitVec.getLsbD_and, BitVec.getLsbD_or] at hi ⊢
  cases hki : k.getLsbD i with
  | false => simp
  | true =>
    rw [hki, Bool.and_true] at hi
    simp [hi]

theorem takeHyp_in (s : Core) (ret offset : BitVec 32)
    (hthumb : (s.cells .hsctlr).getLsbD 30 = false)
    (hbig : (s.cells .hsctlr).getLsbD 25 = false) : (s.takeHyp ret offset).In .hyp := by
  have hmasks : hypMasks (s.cells .scr) &&& 0x01000220 = 0#32 := by
    unfold hypMasks
    split_ifs <;> rfl
  refine ⟨?_, ?_⟩
  · simpa [Core.takeHyp] using a32_exceptionStatus hthumb hbig hmasks
  · simp [Core.takeHyp, exceptionStatus]

end Exceptions

end Arm
