/-
RpiBld/InterruptMask.lean

Where the bootloader can be interrupted (`int.c`).

The firmware enters the bootloader with interrupts masked, and `asm_entry` leaves the
mask alone.  The C code installs the vector table and calls `enable_interrupts`, which
changes one bit of the status.  From then on, until `disable_interrupts`, the core is
`Interruptible` wherever it is in the C code.

Main result:
* `enableInterrupts_interruptible` -- from the firmware to the first interrupt.
-/
import RpiBld.Interrupts

namespace RpiBld

open Traced Arm

/-! ### `int.c` -/

/-- `CPSR_I`. -/
def cpsrI : Word := bit 7

/-- The assembly code of both functions, which differ in one operation. -/
def changeMask (op : Op) : List Instr :=
  [.push 0x10,
   .mrs r4,
   .data op r4 r4 (immField cpsrI),
   .msr 0b0001 r4,
   .pop 0x10]

/-- `enable_interrupts`. -/
def enableInterrupts : List Instr := changeMask .bic

/-- `disable_interrupts`. -/
def disableInterrupts : List Instr := changeMask .orr

/-- The operations that change the mask. -/
def ChangesMask (op : Op) : Prop := op = .bic ∨ op = .orr

section Mask

variable {op : Op} {x : Word}

/-- `msr cpsr_c` writes back what `mrs` has read, but for the mask. -/
theorem merge_mask (hop : ChangesMask op) :
    merge (fieldBits 0b0001) x (op.eval (x &&& statusBits) cpsrI) = op.eval x cpsrI := by
  have hfields : fieldBits 0b0001 = 0xdf := rfl
  rcases hop with rfl | rfl
  · simp only [Op.eval]
    rw [merge, hfields, BitVec.and_assoc, BitVec.and_assoc, ← BitVec.and_or_distrib_left]
    rfl
  · simp only [Op.eval]
    have hones : ~~~(0xdf : Word) ||| (statusBits &&& 0xdf) = BitVec.allOnes 32 := rfl
    rw [merge, hfields, BitVec.and_or_distrib_right, ← BitVec.or_assoc, BitVec.and_assoc,
      ← BitVec.and_or_distrib_left, hones, BitVec.and_allOnes]
    rfl

theorem modeOf_mask (hop : ChangesMask op) : modeOf (op.eval x cpsrI) = modeOf x := by
  rcases hop with rfl | rfl
  · exact modeOf_and (by decide)
  · exact modeOf_or (by decide)

theorem a32_mask (hop : ChangesMask op) (h : A32 x) : A32 (op.eval x cpsrI) := by
  rcases hop with rfl | rfl
  · simp only [Op.eval]
    rw [A32, BitVec.and_assoc, BitVec.and_comm (~~~cpsrI), ← BitVec.and_assoc, h,
      BitVec.zero_and]
  · simp only [Op.eval]
    rw [A32, BitVec.and_or_distrib_right, h]
    rfl

end Mask

theorem cell_r4 (m : Mode) : m.cell r4 = .gpr r4 := by
  cases m <;> rfl

/-- The instructions between the `push` and the `pop`. -/
theorem changeStatus_runs {op : Op} (hop : ChangesMask op) {m : Mode} (hm : m ≠ .usr) {s : Core}
    (h : s.In m) :
    s.Runs [.mrs r4, .data op r4 r4 (immField cpsrI), .msr 0b0001 r4] fun s' =>
      s'.In m ∧ s'.mem = s.mem ∧ s'.cells .pc = s.cells .pc + 12 ∧
      s'.cells .cpsr = op.eval (s.cells .cpsr) cpsrI ∧
      ∀ c, c ∉ [.pc, .cpsr, .gpr r4] → s'.cells c = s.cells c := by
  have hr4 := cell_r4 m
  have himm : expandImm (immField cpsrI) = cpsrI := by decide
  have hmode : modeOf (op.eval (s.cells .cpsr) cpsrI) = some m := by
    rw [modeOf_mask hop, h.mode]
  have ha32 := a32_mask hop h.a32
  refine .mrs h hm (by decide) fun s₁ e₁ h => ?_
  refine .data h (by decide) (by decide) fun s₂ e₂ h => ?_
  have hcpsr : s₂.cells .cpsr = s.cells .cpsr := by simp [e₂, e₁, hr4]
  have hread : s₂.cells (m.cell r4) = op.eval (s.cells .cpsr &&& statusBits) cpsrI := by
    simp [e₂, e₁, hr4, himm]
  have hmsr := execute_msr h hm (show r4 ≠ 15 by decide)
    (by rw [hcpsr, hread, merge_mask hop]) hmode
  refine .cons hmsr (.nil ⟨⟨?_, ?_⟩, ?_, ?_, ?_, ?_⟩)
  · simpa using ha32
  · simpa using hmode
  · simp [e₂, e₁]
  · simp [e₂, e₁, hr4, BitVec.add_assoc]
  · simp
  · intro c hc
    simp at hc
    simp [e₂, e₁, hr4, hc]

/-- The mask was changed, and nothing else: the core is behind the instructions, the other
registers are as they were, and of the memory only the word below the stack pointer was used. -/
structure MaskChanged (op : Op) (m : Mode) (s s' : Core) : Prop where
  pc : s'.cells .pc = s.cells .pc + 20
  status : s'.cells .cpsr = op.eval (s.cells .cpsr) cpsrI
  cells : ∀ c, c ∉ [.pc, .cpsr] → s'.cells c = s.cells c
  mem : ∀ x, ¬ Region (s.cells (m.cell sp) - 4) 4 x → s'.mem x = s.mem x

/-- **Changing the mask changes nothing else.** -/
theorem changeMask_runs {op : Op} (hop : ChangesMask op) {m : Mode} (hm : m ≠ .usr) {s : Core}
    (h : s.In m) (haligned : (s.cells (m.cell sp)).extractLsb' 0 2 = 0#2)
    (hstack : 4 ≤ (s.cells (m.cell sp)).toNat) :
    s.Runs (changeMask op) (MaskChanged op m s) := by
  have hregs : (regList 0x10).map m.cell = [.gpr r4] := by
    cases m <;> decide
  have hsp : m.cell sp ∉ [.gpr r4] := by
    cases m <;> decide
  have hpc : m.cell sp ≠ .pc := Mode.cell_ne_pc (by decide)
  have hcpsr : m.cell sp ≠ .cpsr := Mode.cell_ne_cpsr
  have hlength : 4 * (regList 0x10).length = 4 := by decide
  have hlt := (s.cells (m.cell sp)).isLt
  obtain ⟨x, hx, hstack, hbase⟩ := exists_below (s.cells (m.cell sp)) hstack
  -- `r4` is saved
  obtain ⟨s₁, hpush, hin₁, hpc₁, hsp₁, hsaved, -, hmem₁, hrest₁⟩ :=
    execute_push (x := x) h 0x10 (by rwa [hregs]) (by rw [hregs]; decide) haligned
      (by rw [hlength, ← hstack]) (by omega)
  refine .cons hpush ?_
  show s₁.Runs ([.mrs r4, .data op r4 r4 (immField cpsrI), .msr 0b0001 r4] ++ [.pop 0x10]) _
  refine (changeStatus_runs hop hm hin₁).append ?_
  rintro s₂ ⟨hin₂, hmem₂, hpc₂, hcpsr₂, hrest₂⟩
  have hsp₂ : s₂.cells (m.cell sp) = BitVec.ofNat 32 x := by
    rw [hrest₂ _ (by simpa [hpc, hcpsr] using hsp), hsp₁]
  -- `r4` is restored
  have haligned₂ : (s₂.cells (m.cell sp)).extractLsb' 0 2 = 0#2 := by
    rw [hsp₂, ← hbase, BitVec.sub_eq_add_neg]
    exact aligned_add haligned (by decide)
  have hsaved₂ : Placed s₂.mem (s₂.cells (m.cell sp))
      ((regList 0x10).map fun n => s.cells (m.cell n)) := by
    rwa [hmem₂, hsp₂]
  obtain ⟨s₃, hpop, -, hmem₃, hpc₃, hsp₃, hr4₃, hrest₃⟩ :=
    execute_pop hin₂ 0x10 (by rwa [hregs]) (by rw [hregs]; decide) (by rw [hregs]; decide)
      haligned₂ hsaved₂
  rw [hregs] at hr4₃ hrest₃
  refine .cons hpop (.nil ?_)
  constructor
  · rw [hpc₃, hpc₂, hpc₁]
    simp [BitVec.add_assoc]
  · rw [hrest₃ _ (by simp [hcpsr.symm]) (by decide), hcpsr₂, hrest₁ _ (by simp [hcpsr.symm])]
  · intro c hc
    by_cases hc4 : c = .gpr r4
    · rw [hc4]
      exact hr4₃ _ (by decide)
    by_cases hcsp : c = m.cell sp
    · rw [hcsp, hsp₃, hsp₂, hlength, hstack, BitVec.ofNat_add]
    simp at hc
    rw [hrest₃ c (by simp [hc, hcsp]) (by simp [hc4]), hrest₂ c (by simp [hc, hc4]),
      hrest₁ c (by simp [hc, hcsp])]
  · intro y hy
    rw [hmem₃, hmem₂]
    exact hmem₁ y (by rwa [hlength, ← hbase])

/-! ### From the firmware to the first interrupt -/

/-- What the firmware leaves in the registers for the exceptions below Hyp mode: the vectors are
at the start of RAM, and they are A32 code on little-endian data. -/
structure LowVectors (s : Core) : Prop where
  vbar : s.cells .vbar = 0
  low : (s.cells .sctlr).getLsbD 13 = false
  thumb : (s.cells .sctlr).getLsbD 30 = false
  big : (s.cells .sctlr).getLsbD 25 = false

/-- They are about two registers only. -/
theorem LowVectors.of_cells {s s' : Core} (h : LowVectors s) (hvbar : s'.cells .vbar = s.cells .vbar)
    (hsctlr : s'.cells .sctlr = s.cells .sctlr) : LowVectors s' := by
  obtain ⟨hbase, hlow, hthumb, hbig⟩ := h
  constructor <;> simp only [hvbar, hsctlr] <;> assumption

/-- A state of the C code that was entered in `s₁`, after `install_vector_table`: up to the end
of the section `.init` it has not written to anything else, and the registers for exceptions
are as they were. -/
structure VectorsInstalled (s₁ s : Core) : Prop where
  svc : s.In .svc
  aligned : (s.cells .pc).extractLsb' 0 2 = 0#2
  vbar : s.cells .vbar = s₁.cells .vbar
  sctlr : s.cells .sctlr = s₁.cells .sctlr
  scr : s.cells .scr = s₁.cells .scr
  irqStack : s.cells (.sp .irq) = s₁.cells (.sp .irq)
  mem : ∀ x : Word, x.toNat < initLabels.vectorTablePoolEnd.toNat →
    s.mem x = mcopy s₁.mem initLabels.vectorTable 0
      (initLabels.vectorTablePoolEnd - initLabels.vectorTable).toInt.toNat x

/-- Interrupts are not masked. -/
def IrqUnmasked (s : Core) : Prop := (s.cells .cpsr).getLsbD 7 = false

/-- The stack of the C code has words that are aligned, and room for one above the assembly
code. -/
structure StackRoom (s : Core) : Prop where
  aligned : (s.cells (.sp .svc)).extractLsb' 0 2 = 0#2
  above : initLabels.vectorTablePoolEnd.toNat + 4 ≤ (s.cells (.sp .svc)).toNat

section VectorsInstalled

variable {externs : Externs} {s₁ s : Core}

theorem VectorsInstalled.placed (h : VectorsInstalled s₁ s)
    (hinit : Placed s₁.mem ramOrigin (initSection externs)) :
    Placed s.mem 0 vectorTable ∧ Placed s.mem ramOrigin (initSection externs) := by
  have hsize : (initLabels.vectorTablePoolEnd - initLabels.vectorTable).toInt.toNat = 40 := by
    decide
  have hmem := h.mem
  rw [hsize] at hmem
  refine placed_init_of_low hmem (placed_installed hinit) (hinit.copy fun i hi => ?_)
  have hi148 : i < 148 := hi
  have horigin : ramOrigin.toNat = 0x8000 := rfl
  have haddr : (ramOrigin + BitVec.ofNat 32 i).toNat = 0x8000 + i := by
    rw [BitVec.toNat_add, BitVec.toNat_ofNat]
    omega
  apply mcopy_of_not_region _ _ _ (by decide)
  rw [region_iff (by decide), haddr]
  have hzero : (0 : Word).toNat = 0 := rfl
  omega

/-- The C code is interruptible where interrupts are not masked. -/
theorem VectorsInstalled.interruptible (h : VectorsInstalled s₁ s) (hunmasked : IrqUnmasked s)
    {ram : Ram} (hin : InC externs ram s₁) (hinit : Placed ram ramOrigin (initSection externs))
    (hlow : LowVectors s₁) (hstub : ArmStub s₁) : Interruptible externs .svc s := by
  obtain ⟨htable, hinit⟩ := h.placed (by rw [hin.mem]; exact hinit)
  exact {
    mode := h.svc
    notHyp := by decide
    unmasked := hunmasked
    aligned := h.aligned
    vbar := h.vbar.trans hlow.vbar
    low := by rw [h.sctlr]; exact hlow.low
    thumb := by rw [h.sctlr]; exact hlow.thumb
    big := by rw [h.sctlr]; exact hlow.big
    monitor := by rw [h.scr]; exact hstub.irq
    stackAligned := by rw [h.irqStack, hin.irqStack]; decide
    stack := by rw [h.irqStack, hin.irqStack]; decide
    table := htable
    init := hinit }

/-- Changing the mask does not change what is installed. -/
theorem VectorsInstalled.of_maskChanged {op : Op} (hop : ChangesMask op) {s' : Core}
    (h : VectorsInstalled s₁ s) (hroom : StackRoom s) (h' : MaskChanged op .svc s s') :
    VectorsInstalled s₁ s' := by
  have hsp : Mode.svc.cell sp = .sp .svc := rfl
  exact {
    svc := ⟨by rw [h'.status]; exact a32_mask hop h.svc.a32, by
      rw [h'.status, modeOf_mask hop, h.svc.mode]⟩
    aligned := by rw [h'.pc]; exact aligned_add h.aligned (by decide)
    vbar := (h'.cells _ (by decide)).trans h.vbar
    sctlr := (h'.cells _ (by decide)).trans h.sctlr
    scr := (h'.cells _ (by decide)).trans h.scr
    irqStack := (h'.cells _ (by decide)).trans h.irqStack
    mem := by
      intro x hx
      rw [← h.mem x hx]
      apply h'.mem
      have habove := hroom.above
      have hbase : (s.cells (.sp .svc) - 4).toNat = (s.cells (.sp .svc)).toNat - 4 := by
        have hlt := (s.cells (.sp .svc)).isLt
        rw [BitVec.toNat_sub]
        simp
        omega
      rw [hsp, region_iff (by rw [hbase]; omega), hbase]
      omega }

end VectorsInstalled

/-- **Interrupts are enabled**: the bootloader gets from the firmware to its C code, and where
that calls `enable_interrupts`, after `install_vector_table`, this clears the mask and changes
nothing else.  As long as the C code does not mask interrupts again, it can be interrupted. -/
theorem enableInterrupts_interruptible {externs : Externs} (hentry : Linked externs.cEntry 4)
    {s : Core} (hs : FirmwareEnters externs s) (hlow : LowVectors s) :
    ∃ s₁, StateTransition.Reaches step s s₁ ∧ InC externs s.mem s₁ ∧
      (∀ s₂, VectorsInstalled s₁ s₂ → StackRoom s₂ →
        s₂.Runs enableInterrupts fun s₃ =>
          s₃.cells .cpsr = s₂.cells .cpsr &&& ~~~cpsrI ∧ MaskChanged .bic .svc s₂ s₃ ∧
          VectorsInstalled s₁ s₃ ∧ IrqUnmasked s₃) ∧
      ∀ s₃, VectorsInstalled s₁ s₃ → IrqUnmasked s₃ → Interruptible externs .svc s₃ := by
  obtain ⟨s₁, hreach, hin, hcontrol⟩ := hs.reachesC hentry
  have hlow₁ : LowVectors s₁ := hlow.of_cells (hcontrol _ (by decide)) (hcontrol _ (by decide))
  have hstub₁ : ArmStub s₁ :=
    hs.stub.of_cells (hcontrol _ (by decide)) (hcontrol _ (by decide))
  refine ⟨s₁, hreach, hin, ?_, ?_⟩
  · intro s₂ h₂ hroom
    have hsp : Mode.svc.cell sp = .sp .svc := rfl
    have habove := hroom.above
    have hruns : s₂.Runs enableInterrupts (MaskChanged .bic .svc s₂) :=
      changeMask_runs (.inl rfl) (by decide) h₂.svc hroom.aligned (by rw [hsp]; omega)
    refine hruns.mono fun s₃ h₃ => ⟨h₃.status, h₃, h₂.of_maskChanged (.inl rfl) hroom h₃, ?_⟩
    rw [IrqUnmasked, h₃.status]
    simp [Op.eval, cpsrI, bit]
  · intro s₃ h₃ hunmasked
    exact h₃.interruptible hunmasked hin hs.init hlow₁ hstub₁

/-- The board of `Handover.lean`, whose C code does nothing before and after
`install_vector_table`. -/
theorem enableInterrupts_interruptible_small :
    ∃ s₁ s₂ s₃, StateTransition.Reaches step stubCore s₁ ∧ VectorsInstalled s₁ s₂ ∧
      enableInterrupts.foldlM execute s₂ = some s₃ ∧ Interruptible smallExterns .svc s₃ := by
  have hentry : Linked smallExterns.cEntry 4 := ⟨by decide, by decide, by decide⟩
  have hlow : LowVectors stubCore := ⟨rfl, rfl, rfl, rfl⟩
  obtain ⟨s₁, hreach, hin, hruns, hinterruptible⟩ :=
    enableInterrupts_interruptible hentry firmwareEnters_small hlow
  let s₂ : Core :=
    { s₁ with
      mem := mcopy s₁.mem initLabels.vectorTable 0
        (initLabels.vectorTablePoolEnd - initLabels.vectorTable).toInt.toNat }
  have h₂ : VectorsInstalled s₁ s₂ :=
    ⟨⟨hin.svc.a32, hin.svc.mode⟩, by show (s₁.cells .pc).extractLsb' 0 2 = _; rw [hin.pc]; decide,
      rfl, rfl, rfl, rfl, fun _ _ => rfl⟩
  have hstack : s₂.cells (.sp .svc) = svcStackStartAddr := hin.svcStack
  have hroom : StackRoom s₂ := ⟨by rw [hstack]; decide, by rw [hstack]; decide⟩
  obtain ⟨s₃, hrun, -, -, h₃, hunmasked⟩ := hruns s₂ h₂ hroom
  exact ⟨s₁, s₂, s₃, hreach, h₂, hrun, hinterruptible s₃ h₃ hunmasked⟩

end RpiBld
