/-
RpiBld/Interrupts.lean

Interrupts (`irq_exception_handler` of `entry.S`).

Without a GIC the C code is interrupted by the system timer.  The vector for it is
found in the copy of the vector table at the start of RAM.  It gets to
`irq_exception_handler`, which saves the registers that a C function may use, calls
`ic_irq_exception_handler` and returns with the status from before.

The code that was interrupted can be any code, in any mode but Hyp mode.  Nothing is
assumed about it except that the vectors and the stack of IRQ mode are in place, and
that interrupts are not taken to Monitor mode.
Of the C function only what the procedure call standard says is used: `Returned`.

Main result:
* `irqExceptionHandler_resumes` -- the interrupted code goes on with every register as it was.
-/
import RpiBld.Handover
import RpiBld.Lib.Interrupt

namespace RpiBld

open Traced Arm

/-- The core can be interrupted: interrupts are not masked and not taken to Monitor mode, the
vectors for A32 code are at the start of RAM, and the stack, of words that are aligned, has room
above the assembly code. -/
structure Interruptible (externs : Externs) (m : Mode) (s : Core) : Prop where
  mode : s.In m
  notHyp : m ≠ .hyp
  unmasked : (s.cells .cpsr).getLsbD 7 = false
  aligned : (s.cells .pc).extractLsb' 0 2 = 0#2
  vbar : s.cells .vbar = 0
  low : (s.cells .sctlr).getLsbD 13 = false
  thumb : (s.cells .sctlr).getLsbD 30 = false
  big : (s.cells .sctlr).getLsbD 25 = false
  monitor : (s.cells .scr).getLsbD 1 = false
  stackAligned : (s.cells (.sp .irq)).extractLsb' 0 2 = 0#2
  stack : initLabels.vectorTablePoolEnd.toNat + 24 ≤ (s.cells (.sp .irq)).toNat
  table : Placed s.mem 0 vectorTable
  init : Placed s.mem ramOrigin (initSection externs)

/-- Where the registers of the interrupted code are saved. -/
def frameAddr (s : Core) : Word := s.cells (.sp .irq) - 24

/-- What is saved: the link register of IRQ mode is where the interrupt came. -/
def savedCells (s : Core) (c : Cell) : Word :=
  if c = .lr .irq then s.cells .pc + 4 else s.cells c

/-- The registers in the list of the `push` and the `pop`, as IRQ mode calls them. -/
def scratchCells : List Cell := [.gpr r0, .gpr r1, .gpr r2, .gpr r3, .gpr r12, .lr .irq]

theorem scratchCells_eq : (regList 0x500f).map Mode.irq.cell = scratchCells := by decide

/-- The words on the stack, for a core `s` that was interrupted. -/
def frame (s : Core) : List Word := (regList 0x500f).map fun n => savedCells s (Mode.irq.cell n)

/-- The core at the start of `ic_irq_exception_handler`, for a core `s` that was interrupted. -/
structure InHandler (externs : Externs) (s s₁ : Core) : Prop where
  irq : s₁.In .irq
  masked : s₁.cells .cpsr &&& 0x80 = 0x80
  pc : s₁.cells .pc = externs.icIrqExceptionHandler
  lr : s₁.cells (.lr .irq) = irqExceptionHandlerAddr + 8
  sp : s₁.cells (.sp .irq) = frameAddr s
  spsr : s₁.cells (.spsr .irq) = s.cells .cpsr
  saved : Placed s₁.mem (frameAddr s) (frame s)
  mem : ∀ x, ¬ Region (frameAddr s) 24 x → s₁.mem x = s.mem x
  rest : ∀ c, c ∉ [.pc, .cpsr, .lr .irq, .spsr .irq, .sp .irq] → s₁.cells c = s.cells c

/-- A C function that was called in `s₁` has returned: it may have used the scratch registers,
and it has not written to its caller's stack frame, to the vectors and to the assembly code. -/
structure Returned (s₁ s₂ : Core) : Prop where
  irq : s₂.In .irq
  pc : s₂.cells .pc = s₁.cells (.lr .irq)
  kept : ∀ c, c ∉ .pc :: .cpsr :: scratchCells → s₂.cells c = s₁.cells c
  frame : ∀ i < 24, s₂.mem (s₁.cells (.sp .irq) + BitVec.ofNat 32 i) =
    s₁.mem (s₁.cells (.sp .irq) + BitVec.ofNat 32 i)
  code : ∀ x : Word, x.toNat < initLabels.vectorTablePoolEnd.toNat → s₂.mem x = s₁.mem x

/-- The registers of IRQ mode that only exceptions use. -/
def exceptionCells : List Cell := [.lr .irq, .spsr .irq]

/-- The core goes on as if it had not been interrupted: all registers are as they were, but for
those of IRQ mode that only exceptions use, the memory is as the handler left it, and the next
interrupt can be taken. -/
structure Resumed (externs : Externs) (m : Mode) (s s₂ s₃ : Core) : Prop where
  cells : ∀ c, c ∉ exceptionCells → s₃.cells c = s.cells c
  mem : s₃.mem = s₂.mem
  again : Interruptible externs m s₃

/-! ### From the interrupt to the C function -/

section Interruptible

variable {externs : Externs} {m : Mode} {s : Core}

/-- The frame, as a number. -/
theorem Interruptible.frameAddr_eq (h : Interruptible externs m s) :
    ∃ x, frameAddr s = BitVec.ofNat 32 x ∧ s.cells (.sp .irq) = BitVec.ofNat 32 (x + 24) ∧
      0x8094 ≤ x ∧ x + 24 < 2 ^ 32 := by
  have hend : initLabels.vectorTablePoolEnd.toNat = 0x8094 := rfl
  have hstack := h.stack
  have hlt := (s.cells (.sp .irq)).isLt
  rw [hend] at hstack
  obtain ⟨x, hx, hsp, hframe⟩ := exists_below (s.cells (.sp .irq)) (show 24 ≤ _ by omega)
  exact ⟨x, hframe, hsp, by omega, by omega⟩

/-- The frame is a number of words below an aligned stack pointer. -/
theorem Interruptible.frameAddr_aligned (h : Interruptible externs m s) :
    (frameAddr s).extractLsb' 0 2 = 0#2 := by
  rw [frameAddr, BitVec.sub_eq_add_neg]
  exact aligned_add h.stackAligned (by decide)

/-- The interrupt is taken, and its vector is a branch to `irq_exception_handler`. -/
theorem Interruptible.reachesHandler (h : Interruptible externs m s) :
    ∃ s₀ s₁, s.takeIrq = some s₀ ∧ StateTransition.Reaches step s₀ s₁ ∧ s₁.In .irq ∧
      s₁.mem = s.mem ∧ s₁.cells .pc = irqExceptionHandlerAddr ∧
      s₁.cells (.lr .irq) = s.cells .pc + 4 ∧ s₁.cells (.spsr .irq) = s.cells .cpsr ∧
      s₁.cells .cpsr &&& 0x80 = 0x80 ∧
      ∀ c, c ∉ [.pc, .cpsr, .lr .irq, .spsr .irq] → s₁.cells c = s.cells c := by
  obtain ⟨s₀, htake, hin, hmem, hpc, hlr, hspsr, hmasked, hrest⟩ :=
    Core.takeIrq_of_unmasked h.mode h.notHyp h.unmasked h.low h.monitor h.thumb
      h.big
  rw [h.vbar] at hpc
  obtain ⟨-, -, -, -, -, -, hvector, -, -, hword, -⟩ := h.table
  have hload : load32 s₀.mem (s₀.cells .pc + 8 + BitVec.setWidth 32 (4 : BitVec 12)) =
      irqExceptionHandlerAddr := by
    rw [hpc, hmem]
    exact hword
  have hldr := step_ldr hin 4 (by rw [hpc, hmem]; exact hvector) (by rw [hpc]; decide) hload
    (by decide)
  refine ⟨s₀, s₀.set .pc irqExceptionHandlerAddr, htake, .single hldr, ?_, hmem, ?_, ?_, ?_, ?_, ?_⟩
  · exact hin.set (by decide) _
  · simp
  · simp [hlr]
  · simp [hspsr]
  · simpa using hmasked
  · intro c hc
    have hc' := hrest c hc
    simp at hc
    simp [hc, hc']

/-- The C function is called, with the registers on the stack. -/
theorem Interruptible.reachesC (h : Interruptible externs m s)
    (hlinked : Linked externs.icIrqExceptionHandler 4) :
    ∃ s₀ s₁, s.takeIrq = some s₀ ∧ StateTransition.Reaches step s₀ s₁ ∧ InHandler externs s s₁ := by
  obtain ⟨s₀, s₁, htake, hreach, hin, hmem, hpc, hlr, hspsr, hmasked, hrest⟩ := h.reachesHandler
  obtain ⟨x, hframe, hx, hlow, hhigh⟩ := h.frameAddr_eq
  obtain ⟨hpush, hbl, -⟩ := (loaded_of_placed h.init).irq
  have hlength : 4 * (regList 0x500f).length = 24 := by decide
  have hsp : Mode.irq.cell sp = .sp .irq := rfl
  -- the `push`
  obtain ⟨s₂, hexec, hin₂, hpc₂, hsp₂, hplaced, hbelow, hmem₂, hrest₂⟩ :=
    execute_push (x := x) hin 0x500f (by decide) (by decide)
      (by rw [hsp, hrest _ (by decide)]; exact h.stackAligned)
      (by rw [hsp, hrest _ (by decide), hx, hlength]) (by omega)
  have hstep : step s₁ = some s₂ :=
    (step_of_load32 (by rw [hpc, hmem]; exact hpush)).trans hexec
  rw [hsp] at hsp₂
  rw [hlength, hmem] at hmem₂
  rw [hmem] at hbelow
  rw [hpc] at hpc₂
  have hsaved : ∀ c ∈ scratchCells, s₁.cells c = savedCells s c := by
    intro c hc
    simp only [scratchCells, List.mem_cons, List.not_mem_nil, or_false] at hc
    rcases hc with rfl | rfl | rfl | rfl | rfl | rfl <;> simp [savedCells, hlr, hrest]
  have hwords : ((regList 0x500f).map fun n => s₁.cells (Mode.irq.cell n)) = frame s := by
    apply List.map_congr_left
    intro n hn
    exact hsaved _ (by rw [← scratchCells_eq]; exact List.mem_map_of_mem hn)
  rw [hwords] at hplaced
  -- the `bl`
  have hcode : load32 s₂.mem (s₂.cells .pc) =
      encode (.bl (branchField (ramOrigin + 0x60) externs.icIrqExceptionHandler)) := by
    rw [hpc₂]
    have hword := hbelow.load32 (a := 0x8060) (Nat.zero_le _) (by omega)
    exact hword.trans hbl
  have hcall := step_bl hin₂ hcode
  have htarget : branchTarget (ramOrigin + 0x60)
      (branchField (ramOrigin + 0x60) externs.icIrqExceptionHandler) =
        externs.icIrqExceptionHandler := hlinked.branchTarget 0x60 (by decide) (by decide)
  have hhere : irqExceptionHandlerAddr + 4 = ramOrigin + 0x60 := by decide
  rw [hpc₂, hhere, htarget] at hcall
  have hlrCell : Mode.irq.cell lr = .lr .irq := rfl
  rw [hlrCell] at hcall
  refine ⟨s₀, _, htake, (hreach.tail hstep).tail hcall, ?_⟩
  constructor
  · exact (hin₂.set (by decide) _).set (by decide) _
  · simpa [hrest₂, hsp] using hmasked
  · simp
  · simp
    decide
  · simpa [hframe] using hsp₂
  · simp [hrest₂, hsp, hspsr]
  · rw [hframe]
    exact hplaced
  · rw [hframe]
    exact hmem₂
  · intro c hc
    simp at hc
    simp [hc, hrest₂, hsp, hrest]

end Interruptible

/-! ### Back to the code that was interrupted -/

/-- What matters for the next interrupt: the registers that exceptions keep, and the code. -/
theorem Interruptible.of_cells {externs : Externs} {m : Mode} {s s' : Core}
    (h : Interruptible externs m s)
    (hcells : ∀ c, c ∉ exceptionCells → s'.cells c = s.cells c)
    (htable : Placed s'.mem 0 vectorTable) (hinit : Placed s'.mem ramOrigin (initSection externs)) :
    Interruptible externs m s' where
  mode := h.mode.of_cpsr (hcells _ (by decide))
  notHyp := h.notHyp
  unmasked := by rw [hcells _ (by decide)]; exact h.unmasked
  aligned := by rw [hcells _ (by decide)]; exact h.aligned
  vbar := by rw [hcells _ (by decide)]; exact h.vbar
  low := by rw [hcells _ (by decide)]; exact h.low
  thumb := by rw [hcells _ (by decide)]; exact h.thumb
  big := by rw [hcells _ (by decide)]; exact h.big
  monitor := by rw [hcells _ (by decide)]; exact h.monitor
  stackAligned := by rw [hcells _ (by decide)]; exact h.stackAligned
  stack := by rw [hcells _ (by decide)]; exact h.stack
  table := htable
  init := hinit

/-- Neither the frame nor what the C function writes is where the code is. -/
theorem Interruptible.code_kept {externs : Externs} {m : Mode} {s s₁ s₂ : Core}
    (h : Interruptible externs m s) (h₁ : InHandler externs s s₁) (h₂ : Returned s₁ s₂) {x : Word}
    (hx : x.toNat < initLabels.vectorTablePoolEnd.toNat) : s₂.mem x = s.mem x := by
  obtain ⟨b, hframe, -, hlow, hhigh⟩ := h.frameAddr_eq
  have hend : initLabels.vectorTablePoolEnd.toNat = 0x8094 := rfl
  have hb : (BitVec.ofNat 32 b).toNat = b := by rw [BitVec.toNat_ofNat, Nat.mod_eq_of_lt (by omega)]
  rw [h₂.code x hx]
  apply h₁.mem
  rw [hframe, region_iff (by rw [hb]; omega), hb]
  omega

theorem Interruptible.placed_kept {externs : Externs} {m : Mode} {s s₁ s₂ : Core}
    (h : Interruptible externs m s) (h₁ : InHandler externs s s₁) (h₂ : Returned s₁ s₂) :
    Placed s₂.mem 0 vectorTable ∧ Placed s₂.mem ramOrigin (initSection externs) :=
  placed_init_of_low (fun _ hx => h.code_kept h₁ h₂ hx) h.table h.init

/-- The `pop` and the return: the code that was interrupted goes on. -/
theorem Interruptible.resumes {externs : Externs} {m : Mode} {s s₁ s₂ : Core}
    (h : Interruptible externs m s) (h₁ : InHandler externs s s₁) (h₂ : Returned s₁ s₂) :
    ∃ s₃ s₄, step s₂ = some s₃ ∧ step s₃ = some s₄ ∧ Resumed externs m s s₂ s₄ := by
  obtain ⟨x, hframe, hx, hlow, hhigh⟩ := h.frameAddr_eq
  have hsp : Mode.irq.cell sp = .sp .irq := rfl
  have hlr : Mode.irq.cell lr = .lr .irq := rfl
  have hlength : 4 * (regList 0x500f).length = 24 := by decide
  obtain ⟨htable, hinit⟩ := h.placed_kept h₁ h₂
  obtain ⟨-, -, hpop, hsubs, -⟩ := (loaded_of_placed hinit).irq
  have hpc₂ : s₂.cells .pc = irqExceptionHandlerAddr + 8 := h₂.pc.trans h₁.lr
  have hsp₂ : s₂.cells (.sp .irq) = frameAddr s := (h₂.kept _ (by decide)).trans h₁.sp
  have hspsr₂ : s₂.cells (.spsr .irq) = s.cells .cpsr := (h₂.kept _ (by decide)).trans h₁.spsr
  -- the `pop`
  have hsaved : Placed s₂.mem (s₂.cells (Mode.irq.cell sp))
      ((regList 0x500f).map fun n => savedCells s (Mode.irq.cell n)) := by
    rw [hsp, hsp₂]
    apply h₁.saved.copy
    intro i hi
    have hi24 : i < 24 := hi
    rw [← h₁.sp]
    exact h₂.frame i hi24
  obtain ⟨s₃, hexec, hin₃, hmem₃, hpc₃, hsp₃, hscratch, hrest₃⟩ :=
    execute_pop h₂.irq 0x500f (by decide) (by decide) (by decide)
      (by rw [hsp, hsp₂]; exact h.frameAddr_aligned) hsaved
  have hstep : step s₂ = some s₃ := (step_of_load32 (by rw [hpc₂]; exact hpop)).trans hexec
  rw [scratchCells_eq] at hscratch hrest₃
  rw [hsp, hsp₂, hlength, hframe, ← BitVec.ofNat_add, ← hx] at hsp₃
  -- the return
  have hspsr₃ : s₃.cells (.spsr .irq) = s.cells .cpsr :=
    (hrest₃ _ (by decide) (by decide)).trans hspsr₂
  have hsubs' := step_subsPc hin₃ (by decide)
    (by rw [hpc₃, hmem₃, hpc₂]; exact hsubs) (by decide) (by rw [hspsr₃]; exact h.mode.a32)
    (by rw [hspsr₃]; exact h.mode.mode) h.notHyp
  have hreturn : (s₃.cells (Mode.irq.cell lr) - expandImm (immField 4)) &&& ~~~3 =
      s.cells .pc := by
    have h4 : expandImm (immField 4) = 4 := by decide
    have hlr₃ : s₃.cells (.lr .irq) = s.cells .pc + 4 := hscratch _ (by decide)
    rw [hlr, hlr₃, h4, BitVec.add_sub_cancel, and_of_aligned h.aligned]
  rw [hreturn, hspsr₃] at hsubs'
  generalize hs₄ : (s₃.set .cpsr (s.cells .cpsr)).set .pc (s.cells .pc) = s₄ at hsubs'
  have hmem₄ : s₄.mem = s₂.mem := by
    rw [← hs₄]
    exact hmem₃
  have hcells : ∀ c, c ∉ exceptionCells → s₄.cells c = s.cells c := by
    intro c hc
    rw [← hs₄]
    by_cases hpc : c = .pc
    · rw [hpc, Core.set_cells, if_pos rfl]
    by_cases hcpsr : c = .cpsr
    · rw [hcpsr, Core.set_cells_of_ne (by decide), Core.set_cells, if_pos rfl]
    rw [Core.set_cells_of_ne hpc, Core.set_cells_of_ne hcpsr]
    by_cases hstack : c = .sp .irq
    · rw [hstack, hsp₃]
    simp only [exceptionCells, List.mem_cons, List.not_mem_nil, or_false, not_or] at hc
    by_cases hc' : c ∈ scratchCells
    · rw [hscratch c hc', savedCells, if_neg hc.1]
    · rw [hrest₃ c (by simp [hpc, hsp, hstack]) hc', h₂.kept c (by simp [hpc, hcpsr, hc']),
        h₁.rest c (by simp [hpc, hcpsr, hstack, hc])]
  refine ⟨s₃, s₄, hstep, hsubs', hcells, hmem₄, ?_⟩
  exact h.of_cells (fun c hc => hcells c hc) (by rwa [hmem₄]) (by rwa [hmem₄])

/-- **An interrupt leaves the code that it interrupts as it was**, wherever it comes. -/
theorem irqExceptionHandler_resumes {externs : Externs}
    (hlinked : Linked externs.icIrqExceptionHandler 4) {m : Mode} {s : Core}
    (h : Interruptible externs m s) :
    ∃ s₀ s₁, s.takeIrq = some s₀ ∧ StateTransition.Reaches step s₀ s₁ ∧ InHandler externs s s₁ ∧
      ∀ s₂, Returned s₁ s₂ →
        ∃ s₃, StateTransition.Reaches step s₂ s₃ ∧ Resumed externs m s s₂ s₃ := by
  obtain ⟨s₀, s₁, htake, hreach, h₁⟩ := h.reachesC hlinked
  refine ⟨s₀, s₁, htake, hreach, h₁, ?_⟩
  intro s₂ h₂
  obtain ⟨s₃, s₄, hpop, hsubs, h₄⟩ := h.resumes h₁ h₂
  exact ⟨s₄, .tail (.tail .refl hpop) hsubs, h₄⟩

/-! ### A handler that does nothing -/

/-- C code that does nothing, and an `ic_irq_exception_handler` that returns at once. -/
def idleWords : List Word :=
  initSection smallExterns ++ bootKernelAsm.map encode ++ [0, encode .nop, encode (.bx lr)]

/-- RAM with the vector table and the bootloader. -/
def idleRam : Ram := writeWords (writeWords (fun _ => 0) 0 vectorTable) ramOrigin idleWords

/-- The core in supervisor mode, before the first instruction of the C code. -/
def idleCore : Core where
  cells
    | .cpsr => 0x53
    | .pc => smallExterns.cEntry
    | .sp .irq => irqStackStartAddr
    | _ => 0
  mem := idleRam

theorem idleRam_placed : Placed idleRam 0 vectorTable ∧ Placed idleRam ramOrigin idleWords := by
  have hfit : 0 + 4 * vectorTable.length ≤ 2 ^ 32 := by decide
  have hfit' : 0x8000 + 4 * idleWords.length ≤ 2 ^ 32 := by decide
  obtain ⟨htable, -⟩ := placed_writeWords (fun _ => 0) hfit
  obtain ⟨hwords, hbelow⟩ := placed_writeWords (writeWords (fun _ => 0) 0 vectorTable) hfit'
  exact ⟨htable.agree hbelow (Nat.le_refl 0) (by decide), hwords⟩

theorem interruptible_idle : Interruptible smallExterns .svc idleCore := by
  obtain ⟨htable, hwords⟩ := idleRam_placed
  have hinit := (placed_append.mp (placed_append.mp hwords).1).1
  refine ⟨⟨?_, ?_⟩, ?_, ?_, ?_, rfl, ?_, ?_, ?_, ?_, ?_, ?_, htable, hinit⟩
  all_goals decide

/-- The C function returns at once. -/
theorem InHandler.returns_idle {s₁ : Core} (h₁ : InHandler smallExterns idleCore s₁) :
    step s₁ = some (s₁.set .pc (s₁.cells (.lr .irq))) ∧
      Returned s₁ (s₁.set .pc (s₁.cells (.lr .irq))) := by
  have hlr : Mode.irq.cell Arm.lr = .lr .irq := rfl
  have hcode : load32 s₁.mem (s₁.cells .pc) = encode (.bx Arm.lr) := by
    obtain ⟨-, -, hword, -⟩ := (placed_append.mp idleRam_placed.2).2
    refine (leWord_congr fun i hi => ?_).trans hword
    rw [h₁.pc]
    apply h₁.mem
    interval_cases i <;> decide
  refine ⟨step_bx h₁.irq Arm.lr (by decide) hcode (by rw [hlr, h₁.lr]; decide), ?_⟩
  refine ⟨h₁.irq.set (by decide) _, by simp, ?_, fun _ _ => rfl, fun _ _ => rfl⟩
  intro c hc
  simp at hc
  simp [hc]

/-- An interrupt that is serviced at once. -/
theorem irqExceptionHandler_resumes_idle :
    ∃ s₀ s₂ s₃, idleCore.takeIrq = some s₀ ∧ StateTransition.Reaches step s₀ s₃ ∧
      Resumed smallExterns .svc idleCore s₂ s₃ := by
  have hlinked : Linked smallExterns.icIrqExceptionHandler 4 := ⟨by decide, by decide, by decide⟩
  obtain ⟨s₀, s₁, htake, hreach, h₁, hresumes⟩ :=
    irqExceptionHandler_resumes hlinked interruptible_idle
  obtain ⟨hbx, hreturned⟩ := h₁.returns_idle
  obtain ⟨s₃, hreach', h₃⟩ := hresumes _ hreturned
  exact ⟨s₀, _, s₃, htake, (hreach.tail hbx).trans hreach', h₃⟩

end RpiBld
