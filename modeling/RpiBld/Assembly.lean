/-
RpiBld/Assembly.lean

The assembly code (`entry.S`, and what `boot_kernel` of `boot.c` is made of).

The code is a listing of instructions, and the section `.init` the words they are
encoded as, at the address where `boot.ld` puts them.  What is proved is about the
words: the core fetches them from memory, so the vector table may as well be run
from a copy.

Main results:
* `asmEntry_entersC` -- from the firmware in Hyp mode to the C code in supervisor mode;
* `bootKernelAsm_entersKernel` -- from `boot_kernel` through the copied vector table
  to the kernel in Hyp mode.

`msr elr_hyp, pc` reads the program counter as the address of the instruction plus
8, which is what follows the `eret`.
-/
import RpiBld.Lib.Arm
import RpiBld.Entry

namespace RpiBld

open Traced Arm

/-! ### The code -/

/-- `ORIGIN` of `boot.ld`: where the firmware loads the bootloader, and where the section
`.init` starts. -/
def ramOrigin : Word := 0x8000

/-- `LENGTH` of `boot.ld`. -/
def ramLength : Word := 0x1cf8000

/-- `CPSR_MODE`. -/
def cpsrMode : Word := bits 4 0

/-- `CPSR_MODE_IRQ`. -/
def cpsrModeIrq : Word := 0b10010

/-- `CPSR_MODE_SVC`. -/
def cpsrModeSvc : Word := 0b10011

/-- `VBAR`. -/
def vectorBaseAddr : Word := 0x0

/-- Where the linker put the C functions that the assembly code calls, and the assembly code of
`boot_kernel`. -/
structure Externs where
  cEntry : Word
  icIrqExceptionHandler : Word
  bootKernelAsm : Word

/-- `mov rd, #v`. -/
def mov (rd : BitVec 4) (v : Word) : Instr := .data .mov rd 0 (immField v)

/-- `bic rd, rn, #v`. -/
def bic (rd rn : BitVec 4) (v : Word) : Instr := .data .bic rd rn (immField v)

/-- `orr rd, rn, #v`. -/
def orr (rd rn : BitVec 4) (v : Word) : Instr := .data .orr rd rn (immField v)

/-- The macro `set_stack`. -/
def setStack (mode stackStartAddr : Word) : List Instr :=
  [.mrs r0,
   bic r0 r0 cpsrMode,
   orr r0 r0 mode,
   .msr 0b1001 r0,
   mov sp stackStartAddr]

/-- `asm_entry` up to the `eret`. -/
def asmEntryDrop : List Instr :=
  [mov r0 vectorBaseAddr,
   .mcr 4 r0 12 0 0,
   .mrs r0,
   bic r0 r0 cpsrMode,
   orr r0 r0 cpsrModeSvc,
   .msrBanked 1 r0,
   .msrBanked 0 pc]

/-- `asm_entry` between the `eret` and the `bl`. -/
def asmEntryStacks : List Instr :=
  setStack cpsrModeIrq irqStackStartAddr ++ setStack cpsrModeSvc svcStackStartAddr

/-- `asm_entry`. -/
def asmEntry (externs : Externs) : List Instr :=
  asmEntryDrop ++ .eret :: asmEntryStacks ++ [.bl (branchField (ramOrigin + 0x48) externs.cEntry)]

/-- `_boot_kernel`; the assembler writes a move of all ones as an `mvn` of zero. -/
def bootKernelStub : List Instr :=
  [mov r0 0,
   .data .mvn r1 0 (immField 0),
   mov r2 dtbRamAddr]

/-- The address of `_boot_kernel`. -/
def bootKernelAddr : Word := ramOrigin + 0x4c

/-- The assembly code of `boot_kernel`. -/
def bootKernelAsm : List Instr := [mov r3 kernRamAddr, .hvc 0]

/-- `irq_exception_handler`; the register list is `r0`-`r3`, `r12` and `lr`. -/
def irqExceptionHandler (externs : Externs) : List Instr :=
  [.push 0x500f,
   .bl (branchField (ramOrigin + 0x60) externs.icIrqExceptionHandler),
   .pop 0x500f,
   .subsPc lr (immField 4)]

/-- The address of `irq_exception_handler`. -/
def irqExceptionHandlerAddr : Word := ramOrigin + 0x5c

/-- `vector_table`, with the pool that its loads refer to relative to the program counter. -/
def vectorTable : List Word :=
  [.nop, .nop, .nop, .nop, .nop, .ldr pc pc 4, .ldr pc pc 4, .nop].map encode ++
    [bootKernelAddr, irqExceptionHandlerAddr]

/-- The section `.init`. -/
def initSection (externs : Externs) : List Word :=
  (asmEntry externs ++ (bootKernelStub ++ [Instr.bx r3]) ++
    irqExceptionHandler externs).map encode ++ vectorTable

/-- The labels of the vector table. -/
def initLabels : Labels where
  vectorTable := ramOrigin + 0x6c
  vectorTablePoolEnd := ramOrigin + 0x94

/-! ### Encodings of the operands -/

section Operands

theorem expandImm_vectorBaseAddr : expandImm (immField vectorBaseAddr) = 0 := by decide

theorem expandImm_cpsrMode : expandImm (immField cpsrMode) = 0x1f := by decide

theorem expandImm_cpsrModeSvc :
    expandImm (immField cpsrModeSvc) = Mode.svc.bits.setWidth 32 := by decide

theorem expandImm_cpsrModeIrq :
    expandImm (immField cpsrModeIrq) = Mode.irq.bits.setWidth 32 := by decide

theorem expandImm_svcStackStartAddr :
    expandImm (immField svcStackStartAddr) = svcStackStartAddr := by decide

theorem expandImm_irqStackStartAddr :
    expandImm (immField irqStackStartAddr) = irqStackStartAddr := by decide

theorem cell_r0 (m : Mode) : m.cell r0 = .gpr r0 := by
  cases m <;> rfl

theorem expandImm_kernRamAddr : expandImm (immField kernRamAddr) = kernRamAddr := by decide

theorem expandImm_dtbRamAddr : expandImm (immField dtbRamAddr) = dtbRamAddr := by decide

end Operands

/-! ### From Hyp mode to the C code -/

/-- The modes that have an `sp` of their own and are left without an exception return. -/
def Stacked (m : Mode) : Prop := m = .svc ∨ m = .irq

theorem setStack_runs {s : Core} {m m' : Mode} (h : s.In m) (hm : Stacked m) (hm' : Stacked m')
    {mode a : Word} (hmode : expandImm (immField mode) = m'.bits.setWidth 32)
    (ha : expandImm (immField a) = a) :
    s.Runs (setStack mode a) fun s' =>
      s'.cells .cpsr = withMode (s.cells .cpsr) m' ∧ s'.cells (.sp m') = a ∧
      ∀ c, c ≠ .pc → c ≠ .gpr r0 → c ≠ .cpsr → c ≠ .sp m' → s'.cells c = s.cells c := by
  have hr0 : m.cell r0 = .gpr r0 := cell_r0 m
  have hsp : m'.cell sp = .sp m' := by
    rcases hm' with rfl | rfl <;> rfl
  have hne : m ≠ .usr ∧ m ≠ .hyp := by
    rcases hm with rfl | rfl <;> decide
  have hne' : m' ≠ .hyp := by
    rcases hm' with rfl | rfl <;> decide
  refine .mrs h hne.1 (by decide) fun s₁ e₁ h => ?_
  refine .data h (by decide) (by decide) fun s₂ e₂ h => ?_
  refine .data h (by decide) (by decide) fun s₃ e₃ h => ?_
  refine .msr h hne (by decide) hne' ?_ fun s₄ e₄ h => ?_
  · simp [e₃, e₂, e₁, hr0, Op.eval, expandImm_cpsrMode, hmode, withMode]
  refine .data h (by decide) (by decide) fun s₅ e₅ h => .nil ⟨?_, ?_, ?_⟩
  · simp [e₅, e₄, e₃, e₂, e₁, hr0, hsp]
  · simp [e₅, hsp, Op.eval, ha]
  · intro c h1 h2 h3 h4
    simp [e₅, e₄, e₃, e₂, e₁, hr0, hsp, h1, h2, h3, h4]

/-- The status the C code starts with. -/
def svcStatus (status : Word) : Word := withMode (status &&& statusBits) .svc

theorem asmEntryDrop_runs {s : Core} (h : s.In .hyp) :
    s.Runs asmEntryDrop fun s' =>
      s'.In .hyp ∧ s'.cells .hvbar = 0 ∧ s'.cells (.spsr .hyp) = svcStatus (s.cells .cpsr) ∧
      s'.cells .elrHyp = s.cells .pc + 32 ∧
      ∀ c, c ∉ [.pc, .gpr r0, .hvbar, .spsr .hyp, .elrHyp] → s'.cells c = s.cells c := by
  have hr0 : Mode.hyp.cell r0 = .gpr r0 := cell_r0 _
  refine .data h (by decide) (by decide) fun s₁ e₁ h => ?_
  refine .mcrHvbar h (by decide) fun s₂ e₂ h => ?_
  refine .mrs h (by decide) (by decide) fun s₃ e₃ h => ?_
  refine .data h (by decide) (by decide) fun s₄ e₄ h => ?_
  refine .data h (by decide) (by decide) fun s₅ e₅ h => ?_
  refine .msrBanked h fun s₆ e₆ h => ?_
  have hread : s₅.read .hyp r0 = s₅.cells (.gpr r0) := rfl
  refine .msrBanked h fun s₇ e₇ h => .nil ⟨h, ?_, ?_, ?_, ?_⟩
  · simp [e₇, e₆, e₅, e₄, e₃, e₂, e₁, hr0, Op.eval, expandImm_vectorBaseAddr]
  · simp [e₇, e₆, hread]
    simp [e₅, e₄, e₃, e₂, e₁, hr0, Op.eval, expandImm_cpsrMode, expandImm_cpsrModeSvc, svcStatus,
      withMode]
  · simp [e₇, e₆, e₅, e₄, e₃, e₂, e₁, hr0, BitVec.add_assoc]
  · intro c hc
    simp at hc
    simp [e₇, e₆, e₅, e₄, e₃, e₂, e₁, hr0, hc]

/-- The linker puts `n` bytes of code into the bootloader's part of RAM. -/
structure Linked (a : Word) (n : Nat) : Prop where
  aligned : a.toNat % 4 = 0
  origin : ramOrigin.toNat ≤ a.toNat
  limit : a.toNat + n ≤ ramOrigin.toNat + ramLength.toNat

/-- The assembly code can branch to every function. -/
theorem Linked.branchTarget {a : Word} {n : Nat} (h : Linked a n) (off : Nat) (hoff : off < 0x100)
    (halign : off % 4 = 0) :
    let here := ramOrigin + BitVec.ofNat 32 off
    Arm.branchTarget here (branchField here a) = a := by
  intro here
  have hhere : (here + 8).toNat = 0x8008 + off := by
    simp [here, ramOrigin]
    omega
  obtain ⟨haligned, horigin, hlimit⟩ := h
  have h1 : ramOrigin.toNat = 0x8000 := rfl
  have h2 : ramLength.toNat = 0x1cf8000 := rfl
  have hdist : (a - (here + 8)).toInt = a.toNat - (0x8008 + off) := by
    have hlt : a.toInt = a.toNat := BitVec.toInt_eq_toNat_of_lt (by omega)
    have hlt' : (here + 8).toInt = (here + 8).toNat := BitVec.toInt_eq_toNat_of_lt (by omega)
    rw [BitVec.toInt_sub, hlt, hlt', hhere]
    exact Int.bmod_eq_of_le (by omega) (by omega)
  apply branchTarget_branchField
  · apply BitVec.eq_of_toNat_eq
    rw [BitVec.extractLsb'_toNat, BitVec.toNat_sub, hhere]
    simp
    omega
  · rw [hdist]
    omega
  · rw [hdist]
    omega

/-- The parts of the section `.init`, where they are. -/
structure Loaded (externs : Externs) (mem : Ram) : Prop where
  drop : Placed mem ramOrigin (asmEntryDrop.map encode)
  eret : load32 mem (ramOrigin + 0x1c) = encode .eret
  setStacks : Placed mem (ramOrigin + 0x20) (asmEntryStacks.map encode)
  bl : load32 mem (ramOrigin + 0x48) =
    encode (.bl (branchField (ramOrigin + 0x48) externs.cEntry))
  stub : Placed mem bootKernelAddr (bootKernelStub.map encode)
  bx : load32 mem (bootKernelAddr + 0xc) = encode (.bx r3)
  irq : Placed mem irqExceptionHandlerAddr ((irqExceptionHandler externs).map encode)
  table : Placed mem initLabels.vectorTable vectorTable

theorem loaded_of_placed {externs : Externs} {mem : Ram}
    (h : Placed mem ramOrigin (initSection externs)) : Loaded externs mem := by
  simp only [initSection, asmEntry, List.map_append, List.map_cons, List.append_assoc,
    List.cons_append, List.nil_append, placed_append, Placed] at h
  obtain ⟨hdrop, heret, hstacks, hbl, hstub, hbx, hirq, htable⟩ := h
  exact ⟨hdrop, heret, hstacks, hbl, hstub, hbx, hirq, htable⟩

/-- The two stacks, after the return from Hyp mode. -/
theorem asmEntryStacks_runs {s : Core} (h : s.In .svc) :
    s.Runs asmEntryStacks fun s' =>
      s'.cells .cpsr = withMode (s.cells .cpsr) .svc ∧
      s'.cells (.sp .svc) = svcStackStartAddr ∧ s'.cells (.sp .irq) = irqStackStartAddr ∧
      ∀ c, c ∉ [.pc, .gpr r0, .cpsr, .sp .irq, .sp .svc] → s'.cells c = s.cells c := by
  refine (setStack_runs h (.inl rfl) (.inr rfl) expandImm_cpsrModeIrq
    expandImm_irqStackStartAddr).append ?_
  rintro s₁ ⟨hcpsr, hsp, hrest⟩
  have hin : s₁.In .irq := by
    refine ⟨?_, ?_⟩
    · rw [hcpsr]
      exact a32_withMode_iff.mpr h.a32
    · rw [hcpsr, modeOf_withMode]
  refine (setStack_runs hin (.inr rfl) (.inl rfl) expandImm_cpsrModeSvc
    expandImm_svcStackStartAddr).mono ?_
  rintro s₂ ⟨hcpsr', hsp', hrest'⟩
  refine ⟨?_, hsp', ?_, ?_⟩
  · rw [hcpsr', hcpsr, withMode_withMode]
  · rw [hrest' _ (by decide) (by decide) (by decide) (by decide), hsp]
  · intro c hc
    simp at hc
    rw [hrest' c (by simp [hc]) (by simp [hc]) (by simp [hc]) (by simp [hc]),
      hrest c (by simp [hc]) (by simp [hc]) (by simp [hc]) (by simp [hc])]

/-- **The assembly code enters the C code** in supervisor mode, with both stacks set up and the
vectors of Hyp mode at the start of RAM, and changes nothing else. -/
theorem asmEntry_entersC {externs : Externs} (hlinked : Linked externs.cEntry 4) {s : Core}
    (h : s.In .hyp) (hpc : s.cells .pc = ramOrigin)
    (hplaced : Placed s.mem ramOrigin (initSection externs)) :
    ∃ s', StateTransition.Reaches step s s' ∧ s'.mem = s.mem ∧ s'.In .svc ∧
      s'.cells .pc = externs.cEntry ∧ s'.cells (.lr .svc) = bootKernelAddr ∧
      s'.cells .cpsr = svcStatus (s.cells .cpsr) ∧ s'.cells .hvbar = 0 ∧
      s'.cells (.sp .svc) = svcStackStartAddr ∧ s'.cells (.sp .irq) = irqStackStartAddr ∧
      ∀ c, c ∉ [.pc, .cpsr, .gpr r0, .hvbar, .spsr .hyp, .elrHyp, .sp .irq, .sp .svc, .lr .svc] →
        s'.cells c = s.cells c := by
  have hcode := loaded_of_placed hplaced
  -- up to the `eret`
  obtain ⟨s₁, hreach₁, hpc₁, hmem₁, hin₁, hhvbar, hspsr, helr, hrest₁⟩ :=
    (asmEntryDrop_runs h).reaches (by rw [hpc]; exact hcode.drop) (by decide)
  rw [hpc] at hpc₁ helr
  have hstatus : A32 (s₁.cells (.spsr .hyp)) := by
    rw [hspsr]
    exact a32_withMode_iff.mpr (a32_and_statusBits h.a32)
  have hsvc : modeOf (s₁.cells (.spsr .hyp)) = some .svc := by
    rw [hspsr]
    exact modeOf_withMode _ _
  -- the `eret`
  have heret := step_eret hin₁ (by rw [hpc₁, hmem₁]; exact hcode.eret) hstatus hsvc
  generalize hs₂ : (s₁.set .cpsr (s₁.cells (.spsr .hyp))).set .pc (s₁.cells .elrHyp &&& ~~~3) = s₂
    at heret
  have hpc₂ : s₂.cells .pc = ramOrigin + 0x20 := by
    rw [← hs₂, Core.set_cells, if_pos rfl, helr]
    decide
  have hmem₂ : s₂.mem = s.mem := by
    rw [← hs₂]
    exact hmem₁
  have hcpsr₂ : s₂.cells .cpsr = svcStatus (s.cells .cpsr) := by simp [← hs₂, hspsr]
  have hin₂ : s₂.In .svc := by
    refine ⟨?_, ?_⟩
    · rwa [hcpsr₂, ← hspsr]
    · rwa [hcpsr₂, ← hspsr]
  -- the stacks
  obtain ⟨s₃, hreach₃, hpc₃, hmem₃, hcpsr₃, hsvcStack, hirqStack, hrest₃⟩ :=
    (asmEntryStacks_runs hin₂).reaches (by rw [hpc₂, hmem₂]; exact hcode.setStacks) (by decide)
  have hcpsr : s₃.cells .cpsr = svcStatus (s.cells .cpsr) := by
    rw [hcpsr₃, hcpsr₂, svcStatus, withMode_withMode]
  have hin₃ : s₃.In .svc := hin₂.of_cpsr (by rw [hcpsr, hcpsr₂])
  have hpc₃' : s₃.cells .pc = ramOrigin + 0x48 := by rw [hpc₃, hpc₂]; decide
  -- the call
  have hbl := step_bl hin₃ (by rw [hpc₃', hmem₃, hmem₂]; exact hcode.bl)
  have htarget : branchTarget (ramOrigin + 0x48)
      (branchField (ramOrigin + 0x48) externs.cEntry) = externs.cEntry :=
    hlinked.branchTarget 0x48 (by decide) (by decide)
  rw [hpc₃', htarget] at hbl
  generalize hs₄ : (s₃.set (Mode.svc.cell lr) (ramOrigin + 0x48 + 4)).set .pc externs.cEntry = s₄
    at hbl
  have hlr : Mode.svc.cell lr = .lr .svc := rfl
  rw [hlr] at hs₄
  refine ⟨s₄, ((hreach₁.tail heret).trans hreach₃).tail hbl, ?_, ?_, ?_, ?_, ?_, ?_, ?_, ?_, ?_⟩
  · rw [← hs₄]
    exact hmem₃.trans hmem₂
  · exact hin₃.of_cpsr (by simp [← hs₄])
  · simp [← hs₄]
  · simp [← hs₄, bootKernelAddr, BitVec.add_assoc]
  · simp [← hs₄, hcpsr]
  · simp [← hs₄, hrest₃, ← hs₂, hhvbar]
  · simp [← hs₄, hsvcStack]
  · simp [← hs₄, hirqStack]
  · intro c hc
    simp at hc
    simp [← hs₄, hc, hrest₃, ← hs₂, hrest₁]

/-! ### From the C code to the kernel -/

/-- What the ARM stub of the firmware leaves in the control registers: the hypervisor can be
called, interrupts are taken in the non-secure state, and Hyp mode runs A32 code on
little-endian data. -/
structure ArmStub (s : Core) : Prop where
  hce : (s.cells .scr).getLsbD 8 = true
  irq : (s.cells .scr).getLsbD 1 = false
  fiq : (s.cells .scr).getLsbD 2 = false
  abort : (s.cells .scr).getLsbD 3 = false
  thumb : (s.cells .hsctlr).getLsbD 30 = false
  big : (s.cells .hsctlr).getLsbD 25 = false

/-- It is about two registers only. -/
theorem ArmStub.of_cells {s s' : Core} (h : ArmStub s) (hscr : s'.cells .scr = s.cells .scr)
    (hhsctlr : s'.cells .hsctlr = s.cells .hsctlr) : ArmStub s' := by
  obtain ⟨hce, hirq, hfiq, habort, hthumb, hbig⟩ := h
  constructor <;> simp only [hscr, hhsctlr] <;> assumption

/-- `_boot_kernel`, up to the `bx`. -/
theorem bootKernelStub_runs {s : Core} (h : s.In .hyp) :
    s.Runs bootKernelStub fun s' =>
      s'.cells (.gpr r0) = 0 ∧ s'.cells (.gpr r1) = BitVec.allOnes 32 ∧
      s'.cells (.gpr r2) = dtbRamAddr ∧
      ∀ c, c ∉ [.pc, .gpr r0, .gpr r1, .gpr r2] → s'.cells c = s.cells c := by
  have hr0 : Mode.hyp.cell r0 = .gpr r0 := rfl
  have hr1 : Mode.hyp.cell r1 = .gpr r1 := rfl
  have hr2 : Mode.hyp.cell r2 = .gpr r2 := rfl
  have h0 : expandImm (immField 0#32) = 0#32 := by decide
  have h01 : r0 ≠ r1 := by decide
  have h02 : r0 ≠ r2 := by decide
  have h12 : r1 ≠ r2 := by decide
  refine .data h (by decide) (by decide) fun s₁ e₁ h => ?_
  refine .data h (by decide) (by decide) fun s₂ e₂ h => ?_
  refine .data h (by decide) (by decide) fun s₃ e₃ h => .nil ⟨?_, ?_, ?_, ?_⟩
  · simp [e₃, e₂, e₁, hr0, hr1, hr2, h01, h02, Op.eval, h0]
  · simp [e₃, e₂, hr1, hr2, h12, Op.eval, h0]
  · simp [e₃, hr2, Op.eval, expandImm_dtbRamAddr]
  · intro c hc
    simp at hc
    simp [e₃, e₂, e₁, hr0, hr1, hr2, hc]

/-- **The C code enters the kernel** through the vector table at the start of RAM, in Hyp mode,
with all interrupts masked and the registers that the kernel expects, and changes no RAM. -/
theorem bootKernelAsm_entersKernel {externs : Externs} {s : Core} (h : s.In .svc)
    (hstub : ArmStub s) (hhvbar : s.cells .hvbar = 0)
    (hcode : Placed s.mem (s.cells .pc) (bootKernelAsm.map encode))
    (htable : Placed s.mem 0 vectorTable) (hinit : Placed s.mem ramOrigin (initSection externs)) :
    ∃ s', StateTransition.Reaches step s s' ∧ s'.mem = s.mem ∧ s'.In .hyp ∧
      s'.cells .pc = kernRamAddr ∧ s'.cells (.gpr r0) = 0 ∧
      s'.cells (.gpr r1) = BitVec.allOnes 32 ∧ s'.cells (.gpr r2) = dtbRamAddr ∧
      s'.cells .cpsr &&& 0x1c0 = 0x1c0 := by
  have hloaded := loaded_of_placed hinit
  -- the address, and the call
  have hr3 : Mode.svc.cell r3 = .gpr r3 := rfl
  have hmov : s.Runs [mov r3 kernRamAddr] fun s' => s'.In .svc ∧ s'.cells (.gpr r3) = kernRamAddr ∧
      ∀ c, c ∉ [.pc, .gpr r3] → s'.cells c = s.cells c := by
    refine .data h (by decide) (by decide) fun s₁ e₁ h => .nil ⟨h, ?_, ?_⟩
    · simp [e₁, hr3, Op.eval, expandImm_kernRamAddr]
    · intro c hc
      simp at hc
      simp [e₁, hr3, hc]
  obtain ⟨s₁, hreach₁, hpc₁, hmem₁, hin₁, hkern, hrest₁⟩ :=
    hmov.reaches ⟨hcode.1, trivial⟩ (by decide)
  have hhvc := step_hvc hin₁ (by decide) (by rw [hpc₁, hmem₁]; exact hcode.2.1)
    (by rw [hrest₁ _ (by decide)]; exact hstub.hce)
  have hscr : s₁.cells .scr = s.cells .scr := hrest₁ _ (by decide)
  have hctl : s₁.cells .hsctlr = s.cells .hsctlr := hrest₁ _ (by decide)
  have hin₂ := takeHyp_in s₁ (s₁.cells .pc + 4) 0x14 (by rw [hctl]; exact hstub.thumb)
    (by rw [hctl]; exact hstub.big)
  have hmasked : (s₁.takeHyp (s₁.cells .pc + 4) 0x14).cells .cpsr &&& 0x1c0 = 0x1c0 := by
    have hmasks : hypMasks (s₁.cells .scr) &&& 0x1c0 = 0x1c0 := by
      rw [hscr, hypMasks, hstub.irq, hstub.fiq, hstub.abort]
      rfl
    simpa [Core.takeHyp] using exceptionStatus_and (by decide) hmasks
  have hpc₂ : (s₁.takeHyp (s₁.cells .pc + 4) 0x14).cells .pc = 0x14 := by
    simp [Core.takeHyp, hrest₁, hhvbar]
  have hkern₂ : (s₁.takeHyp (s₁.cells .pc + 4) 0x14).cells (.gpr r3) = kernRamAddr := by
    simp [Core.takeHyp, hkern]
  have hmem₂ : (s₁.takeHyp (s₁.cells .pc + 4) 0x14).mem = s.mem := hmem₁
  generalize s₁.takeHyp (s₁.cells .pc + 4) 0x14 = s₂ at hhvc hin₂ hmasked hpc₂ hkern₂ hmem₂
  -- the vector, and its word behind the table
  obtain ⟨-, -, -, -, -, hvector, -, -, hword, -⟩ := htable
  have hload : load32 s₂.mem (s₂.cells .pc + 8 + BitVec.setWidth 32 (4 : BitVec 12)) =
      bootKernelAddr := by
    rw [hpc₂, hmem₂]
    exact hword
  have hldr := step_ldr hin₂ 4 (by rw [hpc₂, hmem₂]; exact hvector) (by rw [hpc₂]; decide) hload
    (by decide)
  generalize hs₃ : s₂.set .pc bootKernelAddr = s₃ at hldr
  have hin₃ : s₃.In .hyp := hin₂.of_cpsr (by simp [← hs₃])
  have hpc₃ : s₃.cells .pc = bootKernelAddr := by simp [← hs₃]
  have hmem₃ : s₃.mem = s.mem := by rw [← hs₃]; exact hmem₂
  -- the registers of the kernel
  obtain ⟨s₄, hreach₄, hpc₄, hmem₄, h0, h1, h2, hrest₄⟩ :=
    (bootKernelStub_runs hin₃).reaches (by rw [hpc₃, hmem₃]; exact hloaded.stub) (by decide)
  have hin₄ : s₄.In .hyp := hin₃.of_cpsr (hrest₄ _ (by decide))
  have hkern₄ : s₄.cells (.gpr r3) = kernRamAddr := by
    rw [hrest₄ _ (by decide), ← hs₃]
    simp [hkern₂]
  have hr3' : Mode.hyp.cell r3 = .gpr r3 := rfl
  -- the jump
  have hbx := step_bx hin₄ r3 (by decide)
    (by rw [hpc₄, hpc₃, hmem₄, hmem₃]; exact hloaded.bx) (by rw [hr3', hkern₄]; decide)
  rw [hr3', hkern₄] at hbx
  refine ⟨_, (((hreach₁.tail hhvc).tail hldr).trans hreach₄).tail hbx, ?_, ?_, ?_, ?_, ?_, ?_, ?_⟩
  · exact hmem₄.trans hmem₃
  · exact hin₄.set (by decide) _
  · simp
  · simp [h0]
  · simp [h1]
  · simp [h2]
  · have hcpsr₄ : s₄.cells .cpsr = s₂.cells .cpsr := by
      rw [hrest₄ _ (by decide), ← hs₃]
      simp
    rw [Core.set_cells_of_ne (by decide), hcpsr₄, hmasked]

end RpiBld
