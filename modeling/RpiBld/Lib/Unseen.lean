/-
RpiBld/Lib/Unseen.lean

Code that does not look at some of the memory and of the registers.

Two cores are `Like` each other if they differ only in registers `hidden` and memory
`unseen`.  An instruction that reads neither does the same on both, so a core can be
changed there behind the back of the code it runs.

* `step_like` -- one instruction on two cores.
-/
import RpiBld.Lib.Interrupt

namespace Arm

open Traced

/-- Two cores that differ in the registers `hidden` and the memory `unseen` only. -/
structure Like (hidden : List Cell) (unseen : BitVec 32 → Prop) (s t : Core) : Prop where
  cells : ∀ c, c ∉ hidden → t.cells c = s.cells c
  mem : ∀ x, ¬ unseen x → t.mem x = s.mem x

/-- The memory that an instruction reads as data. -/
def Instr.reads (s : Core) (m : Mode) : Instr → BitVec 32 → Prop
  | .ldr _ rn imm => Region (s.read m rn + imm.setWidth 32) 4
  | .pop regs => Region (s.read m 13) (4 * (regList regs).length)
  | _ => fun _ => False

/-- The registers that the instructions of a mode never look at. -/
structure HiddenFrom (hidden : List Cell) (m : Mode) : Prop where
  cell : ∀ n, m.cell n ∉ hidden
  spsr : .spsr m ∉ hidden
  pc : .pc ∉ hidden
  cpsr : .cpsr ∉ hidden
  elrHyp : .elrHyp ∉ hidden
  spsrHyp : .spsr .hyp ∉ hidden
  scr : .scr ∉ hidden
  hsctlr : .hsctlr ∉ hidden
  hvbar : .hvbar ∉ hidden

section Like

variable {hidden : List Cell} {unseen : BitVec 32 → Prop} {s t : Core} {m : Mode}

theorem Like.refl : Like hidden unseen s s := ⟨fun _ _ => rfl, fun _ _ => rfl⟩

theorem Like.symm (h : Like hidden unseen s t) : Like hidden unseen t s :=
  ⟨fun c hc => (h.cells c hc).symm, fun x hx => (h.mem x hx).symm⟩

theorem Like.trans {u : Core} (h : Like hidden unseen s t) (h' : Like hidden unseen t u) :
    Like hidden unseen s u :=
  ⟨fun c hc => (h'.cells c hc).trans (h.cells c hc), fun x hx => (h'.mem x hx).trans (h.mem x hx)⟩

theorem Like.set (h : Like hidden unseen s t) (c : Cell) (v : BitVec 32) :
    Like hidden unseen (s.set c v) (t.set c v) where
  cells c' hc' := by rw [Core.set_cells, Core.set_cells, h.cells c' hc']
  mem := h.mem

theorem Like.next (h : Like hidden unseen s t) (hpc : .pc ∉ hidden) :
    Like hidden unseen s.next t.next := by
  rw [Core.next, Core.next, h.cells _ hpc]
  exact h.set _ _

theorem Like.read (h : Like hidden unseen s t) (hm : HiddenFrom hidden m) (n : BitVec 4) :
    t.read m n = s.read m n := by
  rw [Core.read, Core.read, h.cells _ hm.pc, h.cells _ (hm.cell n)]

theorem Like.interwork (h : Like hidden unseen s t) (hcpsr : .cpsr ∉ hidden) (a : BitVec 32) :
    Option.Rel (Like hidden unseen) (s.interwork a) (t.interwork a) := by
  rw [Core.interwork, Core.interwork, h.cells _ hcpsr]
  split_ifs
  · exact .some ((h.set _ _).set _ _)
  · exact .none
  · exact .some (h.set _ _)

theorem Like.returnTo (h : Like hidden unseen s t) (status a : BitVec 32) :
    Like hidden unseen (s.returnTo status a) (t.returnTo status a) := (h.set _ _).set _ _

theorem Like.takeHyp (h : Like hidden unseen s t) (hm : HiddenFrom hidden m)
    (ret offset : BitVec 32) :
    Like hidden unseen (s.takeHyp ret offset) (t.takeHyp ret offset) := by
  simp only [Core.takeHyp]
  rw [h.cells _ hm.cpsr]
  have h' := (h.set (.spsr .hyp) (s.cells .cpsr)).set .elrHyp ret
  rw [h'.cells _ hm.scr, h'.cells _ hm.hsctlr, h'.cells _ hm.hvbar]
  exact (h'.set _ _).set _ _

/-- A word that is seen. -/
theorem Like.load32 (h : Like hidden unseen s t) {a : BitVec 32}
    (hseen : ∀ x, Region a 4 x → ¬ unseen x) : Traced.load32 t.mem a = Traced.load32 s.mem a :=
  leWord_congr fun _ hi => h.mem _ (hseen _ (Region.of_offset hi (by decide)))

theorem Like.writeWords (h : Like hidden unseen s t) (a : BitVec 32) (ws : List (BitVec 32)) :
    Like hidden unseen { s with mem := Arm.writeWords s.mem a ws }
      { t with mem := Arm.writeWords t.mem a ws } := by
  induction ws generalizing s t a with
  | nil => exact h
  | cons w ws ih =>
    have hstore : Like hidden unseen { s with mem := store32 s.mem a w }
        { t with mem := store32 t.mem a w } := by
      refine ⟨h.cells, fun x hx => ?_⟩
      simp only [store32, overlay]
      rw [h.mem x hx]
    exact ih hstore (a + 4)

theorem Like.loadRegs (h : Like hidden unseen s t) (a : BitVec 32) (ns : List (BitVec 4))
    (hseen : ∀ x, Region a (4 * ns.length) x → ¬ unseen x) :
    Like hidden unseen (s.loadRegs m a ns) (t.loadRegs m a ns) := by
  induction ns generalizing s t a with
  | nil => exact h
  | cons n ns ih =>
    rw [List.length_cons] at hseen
    have hword : Traced.load32 t.mem a = Traced.load32 s.mem a := by
      refine h.load32 fun x hx => hseen x ?_
      unfold Region at hx ⊢
      omega
    rw [Core.loadRegs, Core.loadRegs, hword]
    refine ih (h.set _ _) (a + 4) fun x hx => hseen x ?_
    have hsub : x - a = x - (a + 4) + 4 := by bv_omega
    unfold Region at hx ⊢
    rw [hsub, BitVec.toNat_add]
    have h4 : (4 : BitVec 32).toNat = 4 := rfl
    omega

/-- **An instruction does the same on both cores**, if it reads what both have in common. -/
theorem exec_like (h : Like hidden unseen s t) (hm : HiddenFrom hidden m) (i : Instr)
    (hseen : ∀ x, i.reads s m x → ¬ unseen x) :
    Option.Rel (Like hidden unseen) (exec m s i) (exec m t i) := by
  cases i with
  | data op rd rn imm =>
    simp only [exec]
    rw [h.read hm]
    split_ifs
    · exact .none
    · exact .some ((h.set _ _).next hm.pc)
  | subsPc rn imm =>
    simp only [exec]
    rw [h.read hm, h.cells _ hm.spsr]
    split_ifs
    · exact .none
    · exact .some (h.returnTo _ _)
  | mrs rd =>
    simp only [exec]
    rw [h.cells _ hm.cpsr]
    split_ifs
    · exact .none
    · exact .some ((h.set _ _).next hm.pc)
  | msr mask rn =>
    simp only [exec]
    rw [h.read hm, h.cells _ hm.cpsr]
    split_ifs
    · exact .none
    · exact .some ((h.set _ _).next hm.pc)
  | msrBanked spsr rn =>
    simp only [exec]
    rw [h.read hm]
    split_ifs
    · exact .some ((h.set _ _).next hm.pc)
    · exact .some ((h.set _ _).next hm.pc)
    · exact .none
  | mcr opc1 rt crn crm opc2 =>
    simp only [exec]
    rw [h.read hm]
    split_ifs
    · exact .some ((h.set _ _).next hm.pc)
    · exact .some ((h.set _ _).next hm.pc)
    · exact .none
    · exact .none
  | eret =>
    simp only [exec]
    rw [h.read hm, h.cells _ hm.spsr, h.cells _ hm.spsrHyp, h.cells _ hm.elrHyp]
    split_ifs
    · exact .none
    · exact .some (h.returnTo _ _)
    · exact .none
    · exact .some (h.returnTo _ _)
  | hvc imm =>
    simp only [exec]
    rw [h.cells _ hm.scr, h.cells _ hm.pc]
    split_ifs
    · exact .none
    · exact .some (h.takeHyp hm _ _)
    · exact .some (h.takeHyp hm _ _)
  | nop => exact .some (h.next hm.pc)
  | bl imm =>
    simp only [exec]
    rw [h.cells _ hm.pc]
    exact .some ((h.set _ _).set _ _)
  | bx rm =>
    simp only [exec]
    rw [h.read hm]
    exact h.interwork hm.cpsr _
  | ldr rt rn imm =>
    simp only [exec]
    rw [h.read hm, h.load32 hseen]
    split_ifs
    · exact .none
    · exact h.interwork hm.cpsr _
    · exact .some ((h.set _ _).next hm.pc)
  | push regs =>
    have hwords : ((regList regs).map fun n => t.read m n) =
        (regList regs).map fun n => s.read m n :=
      List.map_congr_left fun n _ => h.read hm n
    simp only [exec]
    rw [h.read hm, hwords]
    split_ifs
    · exact .none
    · exact .some (((h.writeWords _ _).set _ _).next hm.pc)
  | pop regs =>
    simp only [exec]
    rw [h.read hm]
    split_ifs
    · exact .none
    · exact .some (((h.loadRegs _ _ hseen).set _ _).next hm.pc)

/-- The next instruction reads no memory that is `unseen`. -/
structure Core.Blind (unseen : BitVec 32 → Prop) (m : Mode) (s : Core) : Prop where
  code : ∀ x, Region (s.cells .pc) 4 x → ¬ unseen x
  data : ∀ i, decode (Traced.load32 s.mem (s.cells .pc)) = some i →
    ∀ x, i.reads s m x → ¬ unseen x

/-- **A step on two cores that are alike.** -/
theorem step_like (h : Like hidden unseen s t) (hmode : modeOf (s.cells .cpsr) = some m)
    (hm : HiddenFrom hidden m) (hblind : s.Blind unseen m) :
    Option.Rel (Like hidden unseen) (step s) (step t) := by
  rw [step, step, h.cells _ hm.pc, h.load32 hblind.code]
  cases hdecode : decode (Traced.load32 s.mem (s.cells .pc)) with
  | none => exact .none
  | some i =>
    simp only [Option.bind_some, execute]
    rw [h.cells _ hm.cpsr, hmode]
    split_ifs
    · exact exec_like h hm i (hblind.data i hdecode)
    · exact .none

end Like

end Arm
