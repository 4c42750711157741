/-
RpiBld/Board/Boot.lean

`c_entry` on the board, from its first instruction to the jump to the kernel.

The initialisation takes the board to where the card can be read, the loader does on
it what it does on an error-free card (`loadImage_alongside`), and the reset of the
card and of the host works in that state again.  So where no mailbox message is left
over (`Silent`) and the hardware is quick enough for the poll timers but raises no two
flags at once (`Fit`), how a boot ends is decided by what the firmware has set up and
by what is on the card: not by the state that the host and the card are found in, nor
by how long anything takes within the timers (`cEntry_result`).
-/
import RpiBld.Board.Reading
import RpiBld.Bootable
import RpiBld.Handover

namespace RpiBld

open Traced Controller Arm

variable {B : Bench}

/-! ### The loader -/

section Place

variable {σ : Type}

/-- The stack is where it was, and the timers last as long. -/
def SamePlace (w w' : World σ) : Prop := w'.polls = w.polls ∧ w'.frame = w.frame

theorem tracks_samePlace : Tracks (SamePlace (σ := σ)) where
  trans h h' := ⟨h'.1.trans h.1, h'.2.trans h.2⟩
  dev _ _ := ⟨rfl, rfl⟩

theorem readLockstep_samePlace [Device σ] :
    ReadLockstep (moving (σ := σ) SamePlace) fun _ => True where
  toLockstep := tracks_samePlace.lockstep
  view _ := tracks_samePlace.refl
  change _ _ := ⟨rfl, rfl⟩
  frame := tracks_samePlace.refl
  videocore _ := ⟨rfl, rfl⟩
  sdRead _ _ _ := tracks_samePlace.refl
  store _ _ _ := ⟨rfl, rfl⟩

theorem loadImage_samePlace [Device σ] (card : Card) (imagePartition : Int) :
    Moves SamePlace (loadImage card imagePartition : Drv σ Unit) :=
  readLockstep_samePlace.loadImage
    (tracks_samePlace.lockstep.readAccess (issuing_true _) (List.Subset.refl _) card)
    imagePartition

end Place

section Loader

variable {w : World (Board B)} {imagePartition : Int}

/-- The controller of a board, on its own. -/
def World.alone (w : World (Board B)) : World (Controller B.setup) :=
  ⟨w.dev.ctl, w.ram, w.polls, w.frame⟩

theorem ReadsFrom.sameReads (h : ReadsFrom w) : SameReads False w w.alone where
  ctl := rfl
  ram := rfl
  polls := rfl
  frame := rfl
  host := h.host
  card := h.card
  register := h.register
  mail := h.mail
  flags := by
    show w.dev.ctl.irpt &&& _ = w.dev.ctl.irpt
    rw [h.idle.irpt]
    exact BitVec.zero_and
  resp0 := False.elim

/-- The card is what the driver takes it for. -/
theorem ReadsFrom.ready (h : ReadsFrom w) : Ready B.card.known w.alone :=
  ⟨rfl, h.fit.steady.steady, h.fit.prompt, h.idle⟩

theorem Fit.samePlace {w' : World (Board B)} (h : Fit w) (hsame : SamePlace w w') : Fit w' where
  steady := h.steady
  prompt := by
    rw [hsame.1]
    exact h.prompt
  starts := by
    rw [hsame.1]
    exact h.starts
  onStack := ⟨by rw [hsame.2]; exact h.onStack.above, by rw [hsame.2]; exact h.onStack.below⟩

/-- After reads the board stands as before them. -/
theorem SameReads.readsFrom {w' : World (Controller B.setup)} (h : SameReads False w w')
    (hready : Ready B.card.known w') (hfit : Fit w) : ReadsFrom w :=
  ⟨hfit, by rw [h.ctl]; exact hready.idle, settle_transferring _, h.host, h.card, h.register,
    h.mail⟩

/-- The loader on the board, on a bootable card. -/
theorem loadImage_leads (hb : B.baseClock = 100000000) (h : ReadsFrom w)
    (hboot : Bootable B.card.medium imagePartition) :
    Leads (loadImage B.card.known imagePartition)
      (fun _ w' => ReadsFrom w' ∧ ∃ wHead : World (Controller B.setup),
        Ready B.card.known wHead ∧ w'.ram =
          (loadImageItems B.card.known (B.card.medium.imgPartLba imagePartition) wHead).state.ram)
      w := by
  have hsame := loadImage_alongside hb imagePartition w w.alone h.sameReads
  have hresult : (loadImage B.card.known imagePartition w.alone).result = .ok () :=
    loadImage_ok h.ready hboot
  obtain ⟨wHead, hhead, hstate, hready⟩ := h.ready.loadImage_ends hboot
  obtain ⟨-, hres, hrel⟩ := hsame
  rcases hrun : loadImage B.card.known imagePartition w with ⟨t, r, w'⟩
  rw [hrun, hresult] at hres
  rw [hrun] at hrel
  dsimp only at hres hrel
  subst hres
  have hfit : Fit w' := by
    have hplace := loadImage_samePlace B.card.known imagePartition w
    rw [Program.wp, hrun] at hplace
    exact h.fit.samePlace hplace
  exact ⟨t, (), w', hrun, hrel.readsFrom hready hfit, wHead, hhead,
    hrel.ram.trans (congrArg World.ram hstate)⟩

/-- The loader on the board, where a check fails. -/
theorem loadImage_ends (hb : B.baseClock = 100000000) (h : ReadsFrom w) {e : Halt}
    (hfail : failure (cardChecks B.card.medium imagePartition) = some e) :
    EndsWith (loadImage B.card.known imagePartition) e w := by
  obtain ⟨-, hres, -⟩ := loadImage_alongside hb imagePartition w w.alone h.sameReads
  have hresult : (loadImage B.card.known imagePartition w.alone).result = .error e :=
    loadImage_error h.ready hfail
  rcases hrun : loadImage B.card.known imagePartition w with ⟨t, r, w'⟩
  rw [hrun, hresult] at hres
  dsimp only at hres
  subst hres
  exact ⟨t, w', hrun⟩

end Loader

/-! ### The end of the boot -/

section End

variable {w : World (Board B)}

/-- The reset works on a board that has been read from, and leaves RAM alone. -/
theorem resetPeripherals_leads (hb : B.baseClock = 100000000) (h : ReadsFrom w) (card : Card) :
    Leads (resetPeripherals card) (fun _ w' => w'.ram = w.ram) w := by
  have hleads : Leads (resetPeripherals card) (fun _ _ => True) w := by
    have hcard :
        Leads (sdResetCard card) (fun r _ => r = (true, { card with state := .idle })) w := by
      have hreaches := (driving_transferring hb B.card.wide).reaches
      have hmask : interruptCmdComplete &&& (HostPort.transferring B.card.wide).irptMask =
          interruptCmdComplete := (driving_transferring hb B.card.wide).unmasked
      apply (Stands.plain_leads h (serves_cmd0 hreaches hmask) (by decide)).bind
      rintro _ w₁ ⟨rfl, h₁, -, -⟩
      rw [if_neg (not_not.mpr rfl)]
      apply (sdResetHost_leads ⟨h₁.fit, h₁.mail⟩).bind
      intro _ w₂ _
      exact Leads.pure rfl
    apply hcard.bind
    rintro _ w₁ rfl
    dsimp only
    rw [if_neg (by simp)]
    exact Leads.pure trivial
  obtain ⟨t, a, w', hrun, -⟩ := hleads
  have hram := resetPeripherals_ram card w
  rw [Program.wp, hrun] at hram
  exact ⟨t, a, w', hrun, hram⟩

end End

/-! ### The whole boot -/

/-- What goes wrong: the firmware has not set up the card, or a check of the loader fails. -/
def Bench.fault (B : Bench) (imagePartition : Int) : Option Halt :=
  if B.firmware.SetUp then failure (cardChecks B.card.medium imagePartition)
  else some (.signalled .vcNotInitMmc)

theorem Bench.fault_eq_none {imagePartition : Int} :
    B.fault imagePartition = none ↔ B.firmware.SetUp ∧ Bootable B.card.medium imagePartition := by
  unfold Bench.fault
  split_ifs with hset
  · rw [bootable_iff]
    simp [hset]
  · simp [hset]

section Entry

variable {w : World (Board B)} {imagePartition : Int}

theorem installVectorTable_leads (labels : Labels) (h : Silent w) :
    Leads (installVectorTable labels) (fun _ w' => Silent w') w :=
  ⟨_, (), _, rfl, ⟨h.fit.samePlace ⟨rfl, rfl⟩, h.posted, h.answered⟩⟩

/-- Where nothing goes wrong the boot gets to the jump, with the items in RAM. -/
theorem cEntry_leads (labels : Labels) (h : Silent w) (hfault : B.fault imagePartition = none) :
    Leads (cEntry labels imagePartition) (fun a w' => a = kernRamAddr ∧
      ∃ wHead : World (Controller B.setup), Ready B.card.known wHead ∧ w'.ram =
        (loadImageItems B.card.known (B.card.medium.imgPartLba imagePartition) wHead).state.ram)
      w := by
  obtain ⟨hset, hboot⟩ := Bench.fault_eq_none.mp hfault
  have hb := baseClock_of_setUp hset
  apply (installVectorTable_leads labels h).bind
  intro _ w₁ h₁
  apply (initPeripherals_leads h₁ hset).bind
  rintro _ w₂ ⟨rfl, h₂⟩
  apply (loadImage_leads hb h₂ hboot).bind
  rintro _ w₃ ⟨h₃, wHead, hhead, hram⟩
  apply (resetPeripherals_leads hb h₃ _).bind
  intro _ w₄ hram'
  apply Leads.log_bind
  exact Leads.pure ⟨rfl, wHead, hhead, hram'.trans hram⟩

/-- Otherwise it ends with what goes wrong first. -/
theorem cEntry_ends (labels : Labels) (h : Silent w) {e : Halt}
    (hfault : B.fault imagePartition = some e) : EndsWith (cEntry labels imagePartition) e w := by
  apply EndsWith.after (installVectorTable_leads labels h)
  intro _ w₁ h₁
  unfold Bench.fault at hfault
  split_ifs at hfault with hset
  · have hb := baseClock_of_setUp hset
    apply EndsWith.after (initPeripherals_leads h₁ hset)
    rintro _ w₂ ⟨rfl, h₂⟩
    exact (loadImage_ends hb h₂ hfault).bind
  · obtain rfl := Option.some.inj hfault
    exact (initPeripherals_ends h₁ hset).bind

/-- **How the boot ends**, where no mailbox message was posted or answered before it (`Silent`), at
most one flag is raised between two accesses, and flags and card are ready before the timers run
out (`Fit`): it gets to the kernel, or it ends with what is wrong with the firmware's set-up or
with the card's content.  It never hangs, and no command and no read fails. -/
theorem cEntry_result (labels : Labels) (imagePartition : Int) (h : Silent w) :
    (cEntry labels imagePartition w).result = match B.fault imagePartition with
      | none => .ok kernRamAddr
      | some e => .error e := by
  cases hfault : B.fault imagePartition with
  | none =>
    obtain ⟨t, _, w', hrun, rfl, -⟩ := cEntry_leads labels h hfault
    rw [hrun]
  | some e =>
    obtain ⟨t, w', hrun⟩ := cEntry_ends labels h hfault
    rw [hrun]

end Entry

/-! ### From the firmware to the kernel -/

/-- An image was written to a primary partition that has room for it, by the size that the loader
computes. -/
structure Installed (M : Medium) (imagePartition : Int) (img : Block) : Prop where
  signature : M.byteFrom 0 0x1ff ++ M.byteFrom 0 0x1fe = mbrMagicValue
  partition : mbrPartitionValid imagePartition = true
  stored : Stored img M (M.imgPartLba imagePartition).toNat
  imgsz : img.imgsz ≤ M.imgPartNblks imagePartition * BitVec.ofNat 32 sdBlksz

/-- A card with what the imager built is bootable, and its items are the files. -/
theorem Installed.bootable {η : Type} [Host η] {files : Files} {kernFpath dtbFpath : String}
    {host : η} {img : Block} {M : Medium} {imagePartition : Int}
    (h : Installed M imagePartition img)
    (hbuilt : (buildImage files kernFpath dtbFpath host).result = .ok (some img))
    (hfit : FilesFit (files kernFpath) (files dtbFpath))
    (hzimage : leBytes zimageMagic <+: (files kernFpath).drop zimageMagicOff.toNat)
    (hdtbMagic : (leBytes dtbMagic).reverse <+: files dtbFpath) :
    ImageStored M (M.imgPartLba imagePartition) (files kernFpath) (files dtbFpath) ∧
      Bootable M imagePartition := by
  have hspan := hfit.span_lt
  have hkernLen := sizeofItem_add_le_itemSpan (files kernFpath).length
  have hdtbLen := sizeofItem_add_le_itemSpan (files dtbFpath).length
  have hlens : (files kernFpath).length < 2 ^ 31 - 512 ∧
      (files dtbFpath).length < 2 ^ 31 - 512 := by
    have hhead : sizeofImage = 512 := rfl
    have hsum := hspan
    rw [imageSpan] at hsum
    omega
  obtain ⟨hholds, hfilled⟩ :=
    buildImage_yields hlens.1 hlens.2 (by omega) host _ hbuilt img rfl
  exact Bootable.of_stored h.signature h.partition hholds hfilled hfit hzimage hdtbMagic h.stored
    h.imgsz

/-- Files above the stacks are as the C code has left them. -/
theorem InKernel.cells {kernel : Word} {ram : Ram} {s : Core} (h : InKernel kernel ram s)
    {a : Word} {data : List Byte} (hdata : Traced.cells ram a data.length = data)
    (ha : irqStackStartAddr.toNat ≤ a.toNat) (hfit : a.toNat + data.length ≤ 2 ^ 32) :
    Traced.cells s.mem a data.length = data := by
  apply cells_eq_iff.mpr
  intro i hi
  rw [h.mem, cells_eq_iff.mp hdata i hi]
  rw [BitVec.toNat_add, BitVec.toNat_ofNat]
  omega

/-- **The kernel that was installed on the card is started**, in Hyp mode, with the device tree in
`r2` and both files in RAM, from the first instruction of the bootloader.  The host's registers
and the card may be found in any state.  The mailbox has no message posted or answered
(`Silent`), at most one flag is raised between two accesses, and the timers do not run out before
a flag is raised or the card has started (`Fit`). -/
theorem board_startsKernel {η : Type} [Host η] {files : Files} {kernFpath dtbFpath : String}
    {host : η} {img : Block}
    (hbuilt : (buildImage files kernFpath dtbFpath host).result = .ok (some img))
    (hfit : FilesFit (files kernFpath) (files dtbFpath))
    (hzimage : leBytes zimageMagic <+: (files kernFpath).drop zimageMagicOff.toNat)
    (hdtbMagic : (leBytes dtbMagic).reverse <+: files dtbFpath)
    {imagePartition : Int} (hinstalled : Installed B.card.medium imagePartition img)
    (hset : B.firmware.SetUp) {externs : Externs} (hentry : Linked externs.cEntry 4)
    (hasm : Linked externs.bootKernelAsm 8) {scratch : Word → Prop}
    (hscratch : Scratch externs scratch) {s : Core} (hs : FirmwareEnters externs s)
    {w : World (Board B)} (hw : Silent w) (hram : w.ram = s.mem) :
    ∃ s₁ w', StateTransition.Reaches step s s₁ ∧ InC externs w.ram s₁ ∧
      (∃ t, cEntry initLabels imagePartition w = ⟨t, .ok kernRamAddr, w'⟩) ∧
      ∀ s₂, AfterC externs scratch s₁ w'.ram s₂ →
        ∃ s₃, StateTransition.Reaches step s₂ s₃ ∧ InKernel kernRamAddr w'.ram s₃ ∧
          cells s₃.mem kernRamAddr (files kernFpath).length = files kernFpath ∧
          cells s₃.mem dtbRamAddr (files dtbFpath).length = files dtbFpath := by
  obtain ⟨himage, hboot⟩ := hinstalled.bootable hbuilt hfit hzimage hdtbMagic
  obtain ⟨t, _, w', hrun, rfl, wHead, hready, hloaded⟩ :=
    cEntry_leads initLabels hw (Bench.fault_eq_none.mpr ⟨hset, hboot⟩)
  have hfiles := ImageStored.loadsFiles (S := B.setup) himage hready hfit hzimage hdtbMagic
  have hkern := hfiles.kernel
  have hdtb := hfiles.deviceTreeBlob
  rw [← hloaded] at hkern hdtb
  obtain ⟨s₁, hreach, hin, hcontrol⟩ := hs.reachesC hentry
  have hstub : ArmStub s₁ :=
    hs.stub.of_cells (hcontrol _ (by decide)) (hcontrol _ (by decide))
  refine ⟨s₁, w', hreach, by rw [hram]; exact hin, ⟨t, hrun⟩, ?_⟩
  intro s₂ h₂
  obtain ⟨-, hkept⟩ := cEntry_code hasm (board_answersOnHeap B) imagePartition hw.fit.onStack
    (by rw [hram]; exact hs.init) (by rw [hram]; exact hs.bootKernel) hrun
  obtain ⟨s₃, hreach₃, hkernel⟩ := h₂.reachesKernel hscratch hin hstub hkept
  have haddrs : kernRamAddr.toNat = 0x2000000 ∧ dtbRamAddr.toNat = 0x8000000 ∧
      heapRamAddr.toNat = 0x10000000 := by decide
  have hkernLen := sizeofItem_add_le_itemSpan (files kernFpath).length
  have hdtbLen := sizeofItem_add_le_itemSpan (files dtbFpath).length
  have hkernFits := hfit.kernel
  have hdtbFits := hfit.deviceTreeBlob
  exact ⟨s₃, hreach₃, hkernel, hkernel.cells hkern (by decide) (by omega),
    hkernel.cells hdtb (by decide) (by omega)⟩

/-! ### A board with a small image -/

/-- Blocks with a partition of 2048 blocks from block 1 on, where an image was written to. -/
def installedBlocks (img : Block) : Nat → Nat → Byte
  | 0, 0x1c6 => 1
  | 0, 0x1cb => 8
  | 0, 0x1fe => 0x55
  | 0, 0x1ff => 0xaa
  | 0, _ => 0
  | b + 1, j => img.mem (BitVec.ofNat 64 (sdBlksz * b + j))

/-- A card with these blocks, which has to be asked three times to start, and knows CMD23 and four
data lines. -/
def smallCard (img : Block) : MemoryCard where
  medium := ⟨true, installedBlocks img⟩
  rca := 0xaaaa
  cid := 0
  ocr := 0xff8000
  scr := 0x0235804300000000
  powerUp := 2
  voltage := by decide
  busy := by decide
  unknown := by decide

/-- A firmware that has set up the card. -/
def smallFirmware : Firmware where
  clockState _ := 1
  clockRate _ := 100000000
  gpioState pin := if pin = convertPinToVc gpioExpanderSdPwrOn then 1 else 0
  gpioDirection _ := 1
  gpioPolarity _ := 0
  gpioTermination _ := 0
  gpioPullUp _ := 0

/-- A board on which everything takes two register accesses. -/
def smallBench (img : Block) : Bench where
  card := smallCard img
  firmware := smallFirmware
  raises k := k % 2
  noise _ _ := 0xffffffff

/-- It has just loaded the bootloader from the card. -/
def smallBoard (img : Block) : World (Board (smallBench img)) where
  dev := ⟨⟨0, 0, 0, 0, none, .idle, [], []⟩, ⟨0xf02, 0x0207, 0⟩, ⟨.transfer, 0, false, true⟩, 0,
    false, ⟨true, none, none⟩⟩
  ram := smallRam
  polls := 4
  frame := 0x1dff000

theorem smallBoard_silent (img : Block) : Silent (smallBoard img) where
  fit := by
    refine ⟨fun k _ => ?_, fun k => ?_, Nat.lt_succ_of_lt (Nat.lt_succ_self 2), ?_, ?_⟩
    · show k % 2 ≤ 1
      omega
    · refine ⟨k + (k + 1) % 2, by omega, ?_, ?_⟩
      · show _ < k + 4
        omega
      · show (k + (k + 1) % 2) % 2 ≠ 0
        omega
    · show bootloaderEnd.toNat ≤ (0x1dff000 : Word).toNat
      decide
    · show (0x1dff000 : Word).toNat + 24 ≤ svcStackStartAddr.toNat
      decide
  posted := rfl
  answered := rfl

theorem smallFirmware_setUp : smallFirmware.SetUp := by decide

theorem byteFrom_installed (img : Block) {b j : Nat} (hb : b + j / sdBlksz < 2 ^ 32) :
    (smallCard img).medium.byteFrom b j = installedBlocks img (b + j / sdBlksz) (j % sdBlksz) := by
  have hcapacity : (smallCard img).medium.capacity = 2 ^ 32 := rfl
  rw [Medium.byteFrom, hcapacity, Nat.mod_eq_of_lt hb]
  rfl

theorem signature_installed (img : Block) :
    (smallCard img).medium.byteFrom 0 0x1ff ++ (smallCard img).medium.byteFrom 0 0x1fe =
      mbrMagicValue := by
  rw [byteFrom_installed _ (by decide), byteFrom_installed _ (by decide)]
  show installedBlocks img 0 0x1ff ++ installedBlocks img 0 0x1fe = mbrMagicValue
  simp only [installedBlocks]
  decide

/-- The image is in its first partition. -/
theorem installed_small {img : Block} (himgsz : img.imgsz ≤ 0x100000) :
    Installed (smallCard img).medium 1 img := by
  have hfield : ∀ off, off + 4 ≤ 16 → partEntryField ((smallCard img).medium.byteFrom 0) 1 off =
      leWord fun k => installedBlocks img 0 (0x1be + off + k) := by
    intro off hoff
    refine leWord_congr fun k hk => ?_
    have hj : (0x1be + 16 * (1 - 1) + off + k) / sdBlksz = 0 := Nat.div_eq_of_lt (by
      show _ < 512
      omega)
    rw [byteFrom_installed _ (by rw [hj]; decide), hj, Nat.mod_eq_of_lt (by
      show _ < 512
      omega)]
  have hlba : (smallCard img).medium.imgPartLba 1 = 1 := by
    refine (hfield 8 (by decide)).trans ?_
    simp only [leWord, installedBlocks]
    decide
  have hnblks : (smallCard img).medium.imgPartNblks 1 = 0x800 := by
    refine (hfield 12 (by decide)).trans ?_
    simp only [leWord, installedBlocks]
    decide
  refine ⟨signature_installed img, by decide, ?_, ?_⟩
  · rw [hlba]
    refine ⟨?_, fun i hi => ?_⟩
    · have hlt := img.imgsz.isLt
      show 1 + img.imgsz.toNat / 512 ≤ 2 ^ 32
      omega
    · show installedBlocks img (1 + i / sdBlksz) (i % sdBlksz) = _
      rw [Nat.add_comm]
      show img.mem (BitVec.ofNat 64 (sdBlksz * (i / sdBlksz) + i % sdBlksz)) = _
      rw [Nat.div_add_mod]
  · rw [hnblks]
    exact himgsz

/-- There is no fifth partition. -/
theorem cEntry_result_small :
    (cEntry initLabels 5 (smallBoard ⟨fun _ => 0, 0⟩)).result =
      .error (.signalled .invalidPartition) := by
  have hfault : ∀ img, (smallBench img).fault 5 = some (.signalled .invalidPartition) := by
    intro img
    have hset : (smallBench img).firmware.SetUp := smallFirmware_setUp
    have hsig : (test ((smallCard img).medium.byteFrom 0 0x1ff ++
        (smallCard img).medium.byteFrom 0 0x1fe = mbrMagicValue) .noMbrMagic).halt = none :=
      test_halt_iff.mpr (signature_installed img)
    have hmbr : failure (cardMbrChecks (smallBench img).card.medium 5) =
        some (.signalled .invalidPartition) := by
      rw [cardMbrChecks]
      exact failure_cons_of_none hsig
    rw [Bench.fault, if_pos hset, cardChecks, failure_append, hmbr]
    rfl
  have hresult := cEntry_result initLabels 5 (smallBoard_silent ⟨fun _ => 0, 0⟩)
  rwa [hfault] at hresult

/-- The imager builds it, and it fits the partition. -/
theorem exists_smallImage : ∃ img,
    (buildImage magicFiles "zImage" "rpi4b.dtb" (⟨⟩ : ObligingHost)).result = .ok (some img) ∧
      Installed (smallCard img).medium 1 img := by
  obtain ⟨t, o, s, hbuild, img, rfl⟩ : (buildImage magicFiles "zImage" "rpi4b.dtb").Returns
      (fun _ o _ => ∃ img, o = some img) (⟨⟩ : ObligingHost) :=
    buildImage_oblige magicFiles (by decide) (by decide) ⟨⟩
  have hbuilt : (buildImage magicFiles "zImage" "rpi4b.dtb" (⟨⟩ : ObligingHost)).result =
      .ok (some img) := by rw [hbuild]
  have himgsz : img.imgsz ≤ 0x100000 := by
    obtain ⟨-, hfilled⟩ := buildImage_yields (by decide) (by decide) (by decide)
      (⟨⟩ : ObligingHost) _ hbuilt img rfl
    rw [hfilled.imgsz]
    decide
  exact ⟨img, hbuilt, installed_small himgsz⟩

/-- The C code gets to its end on this board. -/
theorem cEntry_small :
    ∃ img t w', cEntry initLabels 1 (smallBoard img) = ⟨t, .ok kernRamAddr, w'⟩ := by
  obtain ⟨img, hbuilt, hinstalled⟩ := exists_smallImage
  obtain ⟨-, hboot⟩ :=
    hinstalled.bootable hbuilt ⟨by decide, by decide⟩ (by decide) (by decide)
  have hfault : (smallBench img).fault 1 = none :=
    Bench.fault_eq_none.mpr ⟨smallFirmware_setUp, hboot⟩
  obtain ⟨t, _, w', hrun, rfl, -⟩ := cEntry_leads initLabels (smallBoard_silent img) hfault
  exact ⟨img, t, w', hrun⟩

/-- The core at the assembly code of `boot_kernel`, for a compiler that needs neither stack nor
static variables. -/
def atBootKernel (externs : Externs) (s : Core) (ram : Ram) : Core :=
  ({ s with mem := ram } : Core).set .pc externs.bootKernelAsm

theorem afterC_atBootKernel {externs : Externs} {scratch : Word → Prop} {s : Core} {ram₀ : Ram}
    (hin : InC externs ram₀ s) (ram : Ram) :
    AfterC externs scratch s ram (atBootKernel externs s ram) where
  svc := hin.svc.of_cpsr (by simp [atBootKernel])
  pc := by simp [atBootKernel]
  mem _ _ := rfl
  hvbar := by simp [atBootKernel]
  scr := by simp [atBootKernel]
  hsctlr := by simp [atBootKernel]

/-- The small board gets from the firmware to the C code, through it, and to the kernel. -/
theorem boot_entersKernel_small : ∃ img s₁ t w' s₂ s₃,
    StateTransition.Reaches step stubCore s₁ ∧ InC smallExterns smallRam s₁ ∧
      cEntry initLabels 1 (smallBoard img) = ⟨t, .ok kernRamAddr, w'⟩ ∧
      CodeKept smallExterns smallRam w'.ram ∧ AfterC smallExterns stackArea s₁ w'.ram s₂ ∧
      StateTransition.Reaches step s₂ s₃ ∧ InKernel kernRamAddr w'.ram s₃ := by
  obtain ⟨img, t, w', hrun⟩ := cEntry_small
  have hentry : Linked smallExterns.cEntry 4 := ⟨by decide, by decide, by decide⟩
  have hasm : Linked smallExterns.bootKernelAsm 8 := ⟨by decide, by decide, by decide⟩
  obtain ⟨s₁, hreach, hin, hkernel⟩ := boot_entersKernel hentry hasm scratch_small
    firmwareEnters_small (board_answersOnHeap (smallBench img)) 1
    (smallBoard_silent img).fit.onStack rfl
  obtain ⟨-, hkept, hruns⟩ := hkernel t _ w' hrun
  have hafter : AfterC smallExterns stackArea s₁ w'.ram (atBootKernel smallExterns s₁ w'.ram) :=
    afterC_atBootKernel hin w'.ram
  obtain ⟨s₃, hreach₃, hin₃⟩ := hruns _ hafter
  exact ⟨img, s₁, t, w', _, s₃, hreach, hin, hrun, hkept, hafter, hreach₃, hin₃⟩

/-- The small image is started. -/
theorem board_startsKernel_small : ∃ img s₁ w',
    (buildImage magicFiles "zImage" "rpi4b.dtb" (⟨⟩ : ObligingHost)).result = .ok (some img) ∧
      StateTransition.Reaches step stubCore s₁ ∧
      (∃ t, cEntry initLabels 1 (smallBoard img) = ⟨t, .ok kernRamAddr, w'⟩) ∧
      ∀ s₂, AfterC smallExterns stackArea s₁ w'.ram s₂ → ∃ s₃,
        StateTransition.Reaches step s₂ s₃ ∧ s₃.cells .pc = kernRamAddr ∧
          cells s₃.mem kernRamAddr 40 = magicFiles "zImage" := by
  obtain ⟨img, hbuilt, hinstalled⟩ := exists_smallImage
  have hentry : Linked smallExterns.cEntry 4 := ⟨by decide, by decide, by decide⟩
  have hasm : Linked smallExterns.bootKernelAsm 8 := ⟨by decide, by decide, by decide⟩
  obtain ⟨s₁, w', hreach, -, hrun, hkernel⟩ := board_startsKernel (B := smallBench img) hbuilt
    ⟨by decide, by decide⟩ (by decide) (by decide) hinstalled smallFirmware_setUp
    hentry hasm scratch_small firmwareEnters_small (smallBoard_silent img) rfl
  refine ⟨img, s₁, w', hbuilt, hreach, hrun, ?_⟩
  intro s₂ h₂
  obtain ⟨s₃, hreach₃, hin, hkern, -⟩ := hkernel s₂ h₂
  exact ⟨s₃, hreach₃, hin.pc, hkern⟩

end RpiBld
