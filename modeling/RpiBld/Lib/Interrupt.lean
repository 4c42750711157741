/-
RpiBld/Lib/Interrupt.lean

Interrupts on the core: how one is taken, how its code saves and restores
registers, and how it returns.

* `Core.takeIrq_of_unmasked` -- the interrupt is taken to IRQ mode, with the
  address to return to and the status in registers of that mode;
* `execute_push`, `execute_pop` -- registers that were pushed are popped again;
* `step_subsPc` -- the return, with the status from before.
-/
import RpiBld.Lib.Arm

namespace Arm

open Traced

/-! ### Words one after the other -/

section Words

variable {ws : List (BitVec 32)}

/-- Nothing above the words is stored. -/
theorem agree_writeWords_above (mem : BitVec 32 → BitVec 8) {x : Nat}
    (hx : x + 4 * ws.length ≤ 2 ^ 32) :
    Agree mem (writeWords mem (BitVec.ofNat 32 x) ws) (x + 4 * ws.length) (2 ^ 32) := by
  induction ws generalizing mem x with
  | nil => exact Agree.refl
  | cons w ws ih =>
    rw [List.length_cons] at hx ⊢
    have hnext : BitVec.ofNat 32 x + 4 = BitVec.ofNat 32 (x + 4) := by
      rw [BitVec.ofNat_add]
      rfl
    have hword : Agree mem (store32 mem (BitVec.ofNat 32 x) w) (x + 4 * (ws.length + 1)) (2 ^ 32) :=
      agree_overlay (by omega) (Nat.le_refl _) (.inr (by omega))
    rw [writeWords, hnext]
    exact hword.trans ((ih _ (x := x + 4) (by omega)).mono (by omega) (Nat.le_refl _))

/-- Where `n` bytes below an address start. -/
theorem exists_below (v : BitVec 32) {n : Nat} (h : n ≤ v.toNat) :
    ∃ x, v.toNat = x + n ∧ v = BitVec.ofNat 32 (x + n) ∧
      v - BitVec.ofNat 32 n = BitVec.ofNat 32 x := by
  obtain ⟨x, hx⟩ : ∃ x, v.toNat = x + n := ⟨v.toNat - n, by omega⟩
  have hv : v = BitVec.ofNat 32 (x + n) := by
    rw [← hx, BitVec.ofNat_toNat, BitVec.setWidth_eq]
  refine ⟨x, hx, hv, ?_⟩
  rw [hv, BitVec.ofNat_add, BitVec.add_sub_cancel]

/-- What is outside of an area is below or above it. -/
theorem eq_of_not_region {mem mem' : BitVec 32 → BitVec 8} {x n : Nat} (hx : x + n ≤ 2 ^ 32)
    (hbelow : Agree mem mem' 0 x) (habove : Agree mem mem' (x + n) (2 ^ 32)) {y : BitVec 32}
    (hy : ¬ Region (BitVec.ofNat 32 x) n y) : mem' y = mem y := by
  have hy' : BitVec.ofNat 32 y.toNat = y := by rw [BitVec.ofNat_toNat, BitVec.setWidth_eq]
  rw [← hy', region_ofNat_iff hx y.isLt] at hy
  rw [← hy']
  rcases Nat.lt_or_ge y.toNat x with hlt | hge
  · exact hbelow _ (Nat.zero_le _) hlt
  · exact habove _ (by omega) y.isLt

variable {s : Core} {m : Mode} {a : BitVec 32} {ns : List (BitVec 4)}

@[simp] theorem Core.loadRegs_mem : (s.loadRegs m a ns).mem = s.mem := by
  induction ns generalizing s a with
  | nil => rfl
  | cons n ns ih => exact ih

/-- Registers are loaded from the words that hold them. -/
theorem Core.loadRegs_cells {f : Cell → BitVec 32}
    (h : Placed s.mem a (ns.map fun n => f (m.cell n))) (c : Cell) :
    (s.loadRegs m a ns).cells c = if c ∈ ns.map m.cell then f c else s.cells c := by
  induction ns generalizing s a with
  | nil => rfl
  | cons n ns ih =>
    obtain ⟨hword, hrest⟩ := h
    have hrest' : Placed (s.set (m.cell n) (load32 s.mem a)).mem (a + 4)
        (ns.map fun n => f (m.cell n)) := hrest
    have hcell : (s.set (m.cell n) (load32 s.mem a)).cells c =
        if c = m.cell n then f c else s.cells c := by
      rw [Core.set_cells, hword]
      split_ifs with hc
      · rw [hc]
      · rfl
    rw [Core.loadRegs, ih hrest', hcell]
    by_cases hc : c = m.cell n
    · simp [hc]
    · simp [hc]

end Words

/-! ### Instructions -/

section Step

variable {s : Core} {m : Mode}

/-- The registers of a list are neither the stack pointer nor the program counter, and the words
on the stack are aligned. -/
theorem not_regs {regs : BitVec 16} (hsp : m.cell sp ∉ (regList regs).map m.cell)
    (hpc : .pc ∉ (regList regs).map m.cell)
    (haligned : (s.cells (m.cell sp)).extractLsb' 0 2 = 0#2) :
    ¬ (13 ∈ regList regs ∨ 15 ∈ regList regs ∨ (s.read m 13).extractLsb' 0 2 ≠ 0#2) := by
  rintro (h | h | h)
  · exact hsp (List.mem_map_of_mem h)
  · exact hpc (List.mem_map_of_mem h)
  · rw [Core.read_of_ne (by decide)] at h
    exact h haligned

/-- Registers are pushed to the words below the stack pointer. -/
theorem execute_push (h : s.In m) (regs : BitVec 16)
    (hsp : m.cell sp ∉ (regList regs).map m.cell) (hpc : .pc ∉ (regList regs).map m.cell)
    (haligned : (s.cells (m.cell sp)).extractLsb' 0 2 = 0#2) {x : Nat}
    (hx : s.cells (m.cell sp) = BitVec.ofNat 32 (x + 4 * (regList regs).length))
    (hlt : x + 4 * (regList regs).length ≤ 2 ^ 32) :
    ∃ s', execute s (.push regs) = some s' ∧ s'.In m ∧ s'.cells .pc = s.cells .pc + 4 ∧
      s'.cells (m.cell sp) = BitVec.ofNat 32 x ∧
      Placed s'.mem (BitVec.ofNat 32 x) ((regList regs).map fun n => s.cells (m.cell n)) ∧
      Agree s.mem s'.mem 0 x ∧
      (∀ y, ¬ Region (BitVec.ofNat 32 x) (4 * (regList regs).length) y → s'.mem y = s.mem y) ∧
      ∀ c, c ∉ [.pc, m.cell sp] → s'.cells c = s.cells c := by
  have hnot := not_regs hsp hpc haligned
  have hbase : s.read m 13 - BitVec.ofNat 32 (4 * (regList regs).length) = BitVec.ofNat 32 x := by
    have hread : s.read m 13 = s.cells (m.cell sp) := Core.read_of_ne (by decide)
    rw [hread, hx, BitVec.ofNat_add, BitVec.add_sub_cancel]
  have hwords : ((regList regs).map fun n => s.read m n) =
      (regList regs).map fun n => s.cells (m.cell n) := by
    apply List.map_congr_left
    intro n hn
    apply Core.read_of_ne
    rintro rfl
    exact hnot (.inr (.inl hn))
  have hlength : ((regList regs).map fun n => s.cells (m.cell n)).length = (regList regs).length :=
    List.length_map _
  have hexec : execute s (.push regs) = some (((({ s with
      mem := writeWords s.mem (BitVec.ofNat 32 x)
        ((regList regs).map fun n => s.cells (m.cell n)) } : Core).set
          (m.cell sp) (BitVec.ofNat 32 x)).next)) := by
    rw [h.execute]
    simp only [exec]
    rw [if_neg hnot, hbase, hwords]
    rfl
  have hfit : x + 4 * ((regList regs).map fun n => s.cells (m.cell n)).length ≤ 2 ^ 32 := by
    rwa [hlength]
  obtain ⟨hplaced, hbelow⟩ := placed_writeWords s.mem hfit
  have habove := agree_writeWords_above s.mem hfit
  rw [hlength] at habove
  have hpcsp : m.cell sp ≠ .pc := Mode.cell_ne_pc (by decide)
  refine ⟨_, hexec, ?_, ?_, ?_, hplaced, hbelow,
    fun y hy => eq_of_not_region hlt hbelow habove hy, ?_⟩
  · exact h.of_cpsr (by simp [Mode.cell_ne_cpsr.symm])
  · simp [hpcsp.symm]
  · simp [hpcsp]
  · intro c hc
    simp at hc
    simp [hc]

/-- Registers are popped from the words that hold them. -/
theorem execute_pop (h : s.In m) (regs : BitVec 16)
    (hsp : m.cell sp ∉ (regList regs).map m.cell) (hpc : .pc ∉ (regList regs).map m.cell)
    (hcpsr : .cpsr ∉ (regList regs).map m.cell)
    (haligned : (s.cells (m.cell sp)).extractLsb' 0 2 = 0#2) {f : Cell → BitVec 32}
    (hsaved : Placed s.mem (s.cells (m.cell sp)) ((regList regs).map fun n => f (m.cell n))) :
    ∃ s', execute s (.pop regs) = some s' ∧ s'.In m ∧ s'.mem = s.mem ∧
      s'.cells .pc = s.cells .pc + 4 ∧
      s'.cells (m.cell sp) =
        s.cells (m.cell sp) + BitVec.ofNat 32 (4 * (regList regs).length) ∧
      (∀ c ∈ (regList regs).map m.cell, s'.cells c = f c) ∧
      ∀ c, c ∉ [.pc, m.cell sp] → c ∉ (regList regs).map m.cell → s'.cells c = s.cells c := by
  have hread : s.read m 13 = s.cells (m.cell sp) := Core.read_of_ne (by decide)
  have hexec : execute s (.pop regs) = some (((s.loadRegs m (s.cells (m.cell sp))
      (regList regs)).set (m.cell sp)
        (s.cells (m.cell sp) + BitVec.ofNat 32 (4 * (regList regs).length))).next) := by
    rw [h.execute]
    simp only [exec]
    rw [if_neg (not_regs hsp hpc haligned), hread]
    rfl
  have hpcsp : m.cell sp ≠ .pc := Mode.cell_ne_pc (by decide)
  have hcells := Core.loadRegs_cells hsaved
  refine ⟨_, hexec, ?_, ?_, ?_, ?_, ?_, ?_⟩
  · exact h.of_cpsr (by simp [Mode.cell_ne_cpsr.symm, hcells, hcpsr])
  · simp
  · simp [hpcsp.symm, hcells, hpc]
  · simp [hpcsp]
  · intro c hc
    have h₁ : c ≠ .pc := fun h => hpc (h ▸ hc)
    have h₂ : c ≠ m.cell sp := fun h => hsp (h ▸ hc)
    simp [h₁, h₂, hcells, hc]
  · intro c hc hc'
    simp at hc
    simp [hc, hcells, hc']

/-- The return from an exception, to the code with the saved status. -/
theorem step_subsPc (h : s.In m) (hm : m ≠ .usr ∧ m ≠ .sys ∧ m ≠ .hyp) {rn : BitVec 4}
    {imm : BitVec 12} (hcode : load32 s.mem (s.cells .pc) = encode (.subsPc rn imm))
    (hrn : rn ≠ 15) (ha32 : A32 (s.cells (.spsr m))) {m' : Mode}
    (hm' : modeOf (s.cells (.spsr m)) = some m') (hhyp : m' ≠ .hyp) :
    step s = some ((s.set .cpsr (s.cells (.spsr m))).set .pc
      ((s.cells (m.cell rn) - expandImm imm) &&& ~~~3)) := by
  rw [step_of_load32 hcode, h.execute]
  simp only [exec]
  rw [if_neg (by simp [hm, hm', hhyp]), Core.returnTo, ha32.thumb, Core.read_of_ne hrn]
  rfl

/-- A change of the status that leaves the mode alone. -/
theorem execute_msr (h : s.In m) (hm : m ≠ .usr) {mask rn : BitVec 4} (hrn : rn ≠ 15)
    {status : BitVec 32}
    (hstatus : merge (fieldBits mask) (s.cells .cpsr) (s.cells (m.cell rn)) = status)
    (hmode : modeOf status = some m) :
    execute s (.msr mask rn) = some (s.set .cpsr status).next := by
  rw [h.execute]
  simp only [exec]
  rw [Core.read_of_ne hrn, hstatus, hmode, if_neg (by simp [hm])]

end Step

/-! ### Addresses of A32 code -/

/-- An address of A32 code has no low bits to clear. -/
theorem and_of_aligned {x : BitVec 32} (h : x.extractLsb' 0 2 = 0#2) : x &&& ~~~3 = x := by
  have hjoin : x.extractLsb' 2 30 ++ 0#2 = x := by
    rw [← h]
    exact BitVec.extractLsb'_append_extractLsb'
  have hmask : ~~~(3 : BitVec 32) = BitVec.allOnes 30 ++ 0#2 := rfl
  rw [hmask, ← hjoin, BitVec.and_append, BitVec.and_allOnes, BitVec.and_self]

/-- The next instruction of A32 code is aligned, as any that is a number of words away. -/
theorem aligned_add {x k : BitVec 32} (hx : x.extractLsb' 0 2 = 0#2)
    (hk : k.extractLsb' 0 2 = 0#2) :
    (x + k).extractLsb' 0 2 = 0#2 := by
  have hx' := congrArg BitVec.toNat hx
  have hk' := congrArg BitVec.toNat hk
  rw [BitVec.extractLsb'_toNat] at hx' hk'
  apply BitVec.eq_of_toNat_eq
  rw [BitVec.extractLsb'_toNat, BitVec.toNat_add]
  simp at hx' hk' ⊢
  omega

/-! ### Masking interrupts -/

section Masks

variable {x k : BitVec 32}

/-- Bits outside the mode can be cleared and set. -/
theorem modeOf_and (hk : k.extractLsb' 0 5 = BitVec.allOnes 5) : modeOf (x &&& k) = modeOf x := by
  rw [modeOf, BitVec.extractLsb'_and, hk, BitVec.and_allOnes, modeOf]

theorem modeOf_or (hk : k.extractLsb' 0 5 = 0#5) : modeOf (x ||| k) = modeOf x := by
  rw [modeOf, BitVec.extractLsb'_or, hk, BitVec.or_zero, modeOf]

end Masks

/-! ### Taking an interrupt -/

/-- An interrupt that is not masked is taken to IRQ mode, where further ones are masked. -/
theorem Core.takeIrq_of_unmasked {s : Core} {m : Mode} (h : s.In m) (hm : m ≠ .hyp)
    (hmask : (s.cells .cpsr).getLsbD 7 = false) (hlow : (s.cells .sctlr).getLsbD 13 = false)
    (hmonitor : (s.cells .scr).getLsbD 1 = false)
    (hthumb : (s.cells .sctlr).getLsbD 30 = false) (hbig : (s.cells .sctlr).getLsbD 25 = false) :
    ∃ s', s.takeIrq = some s' ∧ s'.In .irq ∧ s'.mem = s.mem ∧
      s'.cells .pc = s.cells .vbar + 0x18 ∧ s'.cells (.lr .irq) = s.cells .pc + 4 ∧
      s'.cells (.spsr .irq) = s.cells .cpsr ∧ s'.cells .cpsr &&& 0x80 = 0x80 ∧
      ∀ c, c ∉ [.pc, .cpsr, .lr .irq, .spsr .irq] → s'.cells c = s.cells c := by
  have htake : s.takeIrq = some ((((s.set (.spsr .irq) (s.cells .cpsr)).set (.lr .irq)
      (s.cells .pc + 4)).set .cpsr
        (exceptionStatus (s.cells .cpsr) .irq 0x180 (s.cells .sctlr))).set .pc
          (s.cells .vbar + 0x18)) := by
    have hnot : ¬ ((s.cells .cpsr).getLsbD 7 ∨ (s.cells .sctlr).getLsbD 13 ∨
        (s.cells .scr).getLsbD 1 ∨ modeOf (s.cells .cpsr) = some .hyp) := by
      rw [hmask, hlow, hmonitor, h.mode]
      simp [hm]
    simp only [Core.takeIrq]
    rw [if_neg hnot]
    simp
  refine ⟨_, htake, ⟨?_, ?_⟩, rfl, ?_, ?_, ?_, ?_, ?_⟩
  · simpa using a32_exceptionStatus hthumb hbig (by decide)
  · simp [exceptionStatus]
  · simp
  · simp
  · simp
  · simpa using exceptionStatus_and (k := 0x80) (by decide) (by decide)
  · intro c hc
    simp at hc
    simp [hc]

end Arm
