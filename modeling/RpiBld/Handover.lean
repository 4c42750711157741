/-
RpiBld/Handover.lean

From the firmware to the kernel.

The bootloader is entered in Hyp mode by the firmware, drops to supervisor mode to
run its C code, and gets back to Hyp mode only through the copy of its vector table
that the C code has put at the start of RAM.  Three things have to come together:
the assembly code has to set `HVBAR` and the stacks up (`asmEntry_entersC`), the C
code must not write to the table or to the bootloader (`cEntry_ram`), and the copied
table has to find `_boot_kernel` from where it now is (`bootKernelAsm_entersKernel`).

Main result:
* `boot_entersKernel` -- whatever the card, the controller and the VideoCore do, a
  run of the C code that gets to its end enters the kernel.
-/
import RpiBld.Assembly
import RpiBld.BootRam

namespace RpiBld

open Traced Arm

/-- The firmware has loaded the bootloader and enters it. -/
structure FirmwareEnters (externs : Externs) (s : Core) : Prop where
  hyp : s.In .hyp
  pc : s.cells .pc = ramOrigin
  stub : ArmStub s
  init : Placed s.mem ramOrigin (initSection externs)
  bootKernel : Placed s.mem externs.bootKernelAsm (bootKernelAsm.map encode)

/-- The addresses that the compiler uses for the static variables and the stacks of the C code
are behind the section `.init`, at the stacks or below, and not in the assembly code of
`boot_kernel`. -/
structure Scratch (externs : Externs) (scratch : Word → Prop) : Prop where
  init : ∀ x, scratch x → initLabels.vectorTablePoolEnd.toNat ≤ x.toNat
  below : ∀ x, scratch x → x.toNat < irqStackStartAddr.toNat
  asm : ∀ x, scratch x → ¬ Region externs.bootKernelAsm 8 x

/-- The core where the C code, entered in `s`, executes the assembly code of `boot_kernel`: it
has used registers, static variables and stacks, and left the rest of RAM as `ram`. -/
structure AfterC (externs : Externs) (scratch : Word → Prop) (s : Core) (ram : Ram) (s' : Core) :
    Prop where
  svc : s'.In .svc
  pc : s'.cells .pc = externs.bootKernelAsm
  mem : ∀ x, ¬ scratch x → s'.mem x = ram x
  hvbar : s'.cells .hvbar = s.cells .hvbar
  scr : s'.cells .scr = s.cells .scr
  hsctlr : s'.cells .hsctlr = s.cells .hsctlr

/-- The core at the start of the C code. -/
structure InC (externs : Externs) (ram : Ram) (s : Core) : Prop where
  svc : s.In .svc
  pc : s.cells .pc = externs.cEntry
  mem : s.mem = ram
  svcStack : s.cells (.sp .svc) = svcStackStartAddr
  irqStack : s.cells (.sp .irq) = irqStackStartAddr
  vectors : s.cells .hvbar = 0

/-- The core at the start of the kernel, as the kernel expects it: in Hyp mode with all
interrupts masked, zero, no machine type and the device tree in the first registers, and RAM
above the stacks as the C code has left it. -/
structure InKernel (kernel : Word) (ram : Ram) (s : Core) : Prop where
  hyp : s.In .hyp
  pc : s.cells .pc = kernel
  r0 : s.cells (.gpr r0) = 0
  r1 : s.cells (.gpr r1) = BitVec.allOnes 32
  r2 : s.cells (.gpr r2) = dtbRamAddr
  masked : s.cells .cpsr &&& 0x1c0 = 0x1c0
  mem : ∀ x : Word, irqStackStartAddr.toNat ≤ x.toNat → s.mem x = ram x

/-- The code that is left in RAM by `install_vector_table` and all that follows it: the copied
vector table at the start, and the bootloader, its assembly code included, as it was. -/
structure CodeKept (externs : Externs) (ram ram' : Ram) : Prop where
  table : Placed ram' 0 vectorTable
  init : Placed ram' ramOrigin (initSection externs)
  bootKernel : Placed ram' externs.bootKernelAsm (bootKernelAsm.map encode)
  bootloader : Agree ram ram' 40 bootloaderEnd.toNat

/-- The copied vector table holds the same words. -/
theorem placed_installed {externs : Externs} {ram : Ram}
    (hinit : Placed ram ramOrigin (initSection externs)) :
    Placed (mcopy ram initLabels.vectorTable 0 40) (BitVec.ofNat 32 0) vectorTable := by
  apply (loaded_of_placed hinit).table.copy
  intro i hi
  have hi40 : i < 40 := hi
  rw [mcopy_eq_overlay _ (by decide) (by decide), BitVec.ofNat_eq_ofNat]
  exact overlay_offset hi40 (by decide)

/-- Code up to the end of the section `.init` stays where nothing is written there. -/
theorem placed_of_low {mem mem' : Ram}
    (h : ∀ x : Word, x.toNat < initLabels.vectorTablePoolEnd.toNat → mem' x = mem x) {a : Nat}
    {ws : List Word} (ha : a + 4 * ws.length ≤ initLabels.vectorTablePoolEnd.toNat)
    (hplaced : Placed mem (BitVec.ofNat 32 a) ws) : Placed mem' (BitVec.ofNat 32 a) ws := by
  have hend : initLabels.vectorTablePoolEnd.toNat = 0x8094 := rfl
  apply hplaced.copy
  intro i hi
  apply h
  rw [← BitVec.ofNat_add, BitVec.toNat_ofNat, Nat.mod_eq_of_lt (by omega)]
  omega

/-- The vector table and the section `.init` are such code. -/
theorem placed_init_of_low {externs : Externs} {mem mem' : Ram}
    (h : ∀ x : Word, x.toNat < initLabels.vectorTablePoolEnd.toNat → mem' x = mem x)
    (htable : Placed mem 0 vectorTable) (hinit : Placed mem ramOrigin (initSection externs)) :
    Placed mem' 0 vectorTable ∧ Placed mem' ramOrigin (initSection externs) := by
  have htable' : Placed mem (BitVec.ofNat 32 0) vectorTable := htable
  have hinit' : Placed mem (BitVec.ofNat 32 0x8000) (initSection externs) := hinit
  have hlength : (initSection externs).length = 37 := rfl
  exact ⟨placed_of_low h (by decide) htable', placed_of_low h (by rw [hlength]; decide) hinit'⟩

section Driver

variable {σ : Type} [Device σ]

/-- **The table is copied, and the rest of the bootloader stays.** -/
theorem cEntry_code {externs : Externs} (hlinked : Linked externs.bootKernelAsm 8)
    (hvc : AnswersOnHeap σ) (imagePartition : Int) {w : World σ} (hw : OnStack w)
    (hinit : Placed w.ram ramOrigin (initSection externs))
    (hasm : Placed w.ram externs.bootKernelAsm (bootKernelAsm.map encode)) {t : List Event}
    {a : Word} {w' : World σ} (hrun : cEntry initLabels imagePartition w = ⟨t, .ok a, w'⟩) :
    a = kernRamAddr ∧ CodeKept externs w.ram w'.ram := by
  have h := cEntry_ram hvc initLabels imagePartition hw
  rw [Program.wp, hrun] at h
  obtain ⟨ha, hram⟩ := h a rfl
  have hsize : (initLabels.vectorTablePoolEnd - initLabels.vectorTable).toInt.toNat = 40 := by
    decide
  have hend : bootloaderEnd.toNat = 0x1d00000 := rfl
  have horigin : ramOrigin.toNat = 0x8000 := rfl
  have hlimit : ramOrigin.toNat + ramLength.toNat = 0x1d00000 := rfl
  rw [hsize] at hram
  have hkeep : Agree w.ram w'.ram 40 bootloaderEnd.toNat :=
    (agree_mcopy w.ram (a := 0) (by decide) (by decide) (.inr (Nat.le_refl 40))).trans
      (hram.mono (Nat.zero_le 40) (Nat.le_refl _))
  refine ⟨ha, ?_, ?_, ?_, hkeep⟩
  · exact (placed_installed hinit).agree hram (Nat.le_refl 0) (by rw [hend]; decide)
  · have hplaced : Placed w.ram (BitVec.ofNat 32 ramOrigin.toNat) (initSection externs) := hinit
    have hlength : (initSection externs).length = 37 := rfl
    exact hplaced.agree hkeep (by decide) (by omega)
  · have hplaced : Placed w.ram (BitVec.ofNat 32 externs.bootKernelAsm.toNat)
        (bootKernelAsm.map encode) := by
      rwa [BitVec.ofNat_toNat, BitVec.setWidth_eq]
    have h40 := hlinked.origin
    have hfit := hlinked.limit
    have hkept := hplaced.agree hkeep (by omega)
      (by show externs.bootKernelAsm.toNat + 8 ≤ bootloaderEnd.toNat; omega)
    rwa [BitVec.ofNat_toNat, BitVec.setWidth_eq] at hkept

/-- What the compiler uses is not where the code is. -/
theorem AfterC.code {externs : Externs} {scratch : Word → Prop} (hscratch : Scratch externs scratch)
    {s s' : Core} {ram₀ ram : Ram} (h : AfterC externs scratch s ram s')
    (hkept : CodeKept externs ram₀ ram) :
    Placed s'.mem 0 vectorTable ∧ Placed s'.mem ramOrigin (initSection externs) ∧
      Placed s'.mem externs.bootKernelAsm (bootKernelAsm.map encode) := by
  have hlow : ∀ x : Word, x.toNat < initLabels.vectorTablePoolEnd.toNat → s'.mem x = ram x := by
    intro x hx
    apply h.mem
    intro hs
    have := hscratch.init x hs
    omega
  obtain ⟨htable, hinit⟩ := placed_init_of_low hlow hkept.table hkept.init
  refine ⟨htable, hinit, hkept.bootKernel.copy fun i hi => ?_⟩
  have hi8 : i < 8 := hi
  apply h.mem
  intro hx
  exact hscratch.asm _ hx (Region.of_offset hi8 (by decide))

/-- The control registers, which the firmware has set up and the bootloader leaves alone. -/
def controlCells : List Cell := [.scr, .hsctlr, .vbar, .sctlr]

/-- The assembly code before the C code. -/
theorem FirmwareEnters.reachesC {externs : Externs} {s : Core} (h : FirmwareEnters externs s)
    (hentry : Linked externs.cEntry 4) :
    ∃ s₁, StateTransition.Reaches step s s₁ ∧ InC externs s.mem s₁ ∧
      ∀ c ∈ controlCells, s₁.cells c = s.cells c := by
  obtain ⟨s₁, hreach, hmem, hin, hpc, -, -, hhvbar, hsvc, hirq, hrest⟩ :=
    asmEntry_entersC hentry h.hyp h.pc h.init
  refine ⟨s₁, hreach, ⟨hin, hpc, hmem, hsvc, hirq, hhvbar⟩, fun c hc => hrest c ?_⟩
  simp only [controlCells, List.mem_cons, List.not_mem_nil, or_false] at hc
  rcases hc with rfl | rfl | rfl | rfl <;> decide

/-- The assembly code after it. -/
theorem AfterC.reachesKernel {externs : Externs} {scratch : Word → Prop}
    (hscratch : Scratch externs scratch) {s₁ s₂ : Core} {ram₁ ram₀ ram : Ram}
    (hin : InC externs ram₁ s₁) (hstub : ArmStub s₁) (hkept : CodeKept externs ram₀ ram)
    (h : AfterC externs scratch s₁ ram s₂) :
    ∃ s₃, StateTransition.Reaches step s₂ s₃ ∧ InKernel kernRamAddr ram s₃ := by
  have hstub₂ : ArmStub s₂ := hstub.of_cells h.scr h.hsctlr
  obtain ⟨htable, hinit, hcode⟩ := h.code hscratch hkept
  obtain ⟨s₃, hreach, hmem, hin₃, hpc, h0, h1, h2, hmask⟩ :=
    bootKernelAsm_entersKernel h.svc hstub₂ (h.hvbar.trans hin.vectors)
      (by rw [h.pc]; exact hcode) htable hinit
  refine ⟨s₃, hreach, hin₃, hpc, h0, h1, h2, hmask, ?_⟩
  intro x hx
  rw [hmem]
  apply h.mem
  intro hs
  have := hscratch.below x hs
  omega

/-- **From the firmware to the kernel.**  The first half is up to the C code.  The second is about
any run of it that gets to its end: the copied vector table and the bootloader are intact then,
and the kernel is entered. -/
theorem boot_entersKernel {externs : Externs} (hentry : Linked externs.cEntry 4)
    (hasm : Linked externs.bootKernelAsm 8) {scratch : Word → Prop}
    (hscratch : Scratch externs scratch) {s : Core} (hs : FirmwareEnters externs s)
    (hvc : AnswersOnHeap σ) (imagePartition : Int) {w : World σ} (hw : OnStack w)
    (hram : w.ram = s.mem) :
    ∃ s₁, StateTransition.Reaches step s s₁ ∧ InC externs w.ram s₁ ∧
      ∀ t a w', cEntry initLabels imagePartition w = ⟨t, .ok a, w'⟩ →
        a = kernRamAddr ∧ CodeKept externs w.ram w'.ram ∧
        ∀ s₂, AfterC externs scratch s₁ w'.ram s₂ →
          ∃ s₃, StateTransition.Reaches step s₂ s₃ ∧ InKernel kernRamAddr w'.ram s₃ := by
  obtain ⟨s₁, hreach, hin, hcontrol⟩ := hs.reachesC hentry
  have hstub : ArmStub s₁ :=
    hs.stub.of_cells (hcontrol _ (by decide)) (hcontrol _ (by decide))
  refine ⟨s₁, hreach, by rw [hram]; exact hin, ?_⟩
  intro t a w' hrun
  obtain ⟨ha, hkept⟩ := cEntry_code hasm hvc imagePartition hw
    (by rw [hram]; exact hs.init) (by rw [hram]; exact hs.bootKernel) hrun
  exact ⟨ha, hkept, fun s₂ h₂ => h₂.reachesKernel hscratch hin hstub hkept⟩

end Driver

/-! ### A board -/

/-- The C functions behind the section `.init`. -/
def smallExterns : Externs where
  cEntry := 0x80a0
  icIrqExceptionHandler := 0x80a4
  bootKernelAsm := 0x8094

/-- RAM with the assembly code in it. -/
def smallRam : Ram :=
  writeWords (fun _ => 0) ramOrigin (initSection smallExterns ++ bootKernelAsm.map encode)

/-- The core as the ARM stub leaves it: in Hyp mode with everything masked. -/
def stubCore : Core where
  cells
    | .cpsr => 0x1da
    | .pc => ramOrigin
    | .scr => 0x131
    | _ => 0
  mem := smallRam

theorem firmwareEnters_small : FirmwareEnters smallExterns stubCore := by
  have hplaced : Placed smallRam ramOrigin (initSection smallExterns ++ bootKernelAsm.map encode) :=
    (placed_writeWords (x := 0x8000) _ (by decide)).1
  obtain ⟨hinit, hasm⟩ := placed_append.mp hplaced
  refine ⟨⟨?_, ?_⟩, rfl, ⟨?_, ?_, ?_, ?_, ?_, ?_⟩, hinit, hasm⟩
  all_goals decide

/-- The area of the stacks. -/
def stackArea (x : Word) : Prop :=
  bootloaderEnd.toNat ≤ x.toNat ∧ x.toNat < irqStackStartAddr.toNat

theorem scratch_small : Scratch smallExterns stackArea where
  init x hx := Nat.le_trans (by decide) hx.1
  below x hx := hx.2
  asm x hx hin := by
    have hend : bootloaderEnd.toNat = 0x1d00000 := rfl
    have hasm : smallExterns.bootKernelAsm.toNat = 0x8094 := rfl
    rw [region_iff (by rw [hasm]; decide), hasm] at hin
    have := hx.1
    omega

end RpiBld
