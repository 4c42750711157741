/-
RpiBld/Bootable.lean

The loader as a whole (`loadImage`) on an error-free card.

What the loader decides on is all on the card, so how it ends is a property of the
card's blocks (`cardChecks`): the MBR has its signature and a primary partition of
that number, and the partition starts with an image whose head and items pass the
checks.  The first of these that fails names the error, and a read never does
(`loadImage_result`).  A partition that holds what the imager built passes
(`Bootable.of_stored`).
-/
import RpiBld.ImageRoundTrip
import RpiBld.PartitionSize

namespace RpiBld

open Traced Controller

/-! ### Checks on the card -/

/-- The block a partition starts at, as the MBR says. -/
def Medium.imgPartLba (M : Medium) (imagePartition : Int) : Word :=
  partLba (M.byteFrom 0) imagePartition.toNat

/-- The number of blocks of a partition, as the MBR says. -/
def Medium.imgPartNblks (M : Medium) (imagePartition : Int) : Word :=
  partNblks (M.byteFrom 0) imagePartition.toNat

/-- The checks of `load_mbr`. -/
def cardMbrChecks (M : Medium) (imagePartition : Int) : List Check :=
  [test (M.byteFrom 0 0x1ff ++ M.byteFrom 0 0x1fe = mbrMagicValue) .noMbrMagic,
    test (mbrPartitionValid imagePartition = true) .invalidPartition]

/-- The checks of `load_image_head`. -/
def cardHeadChecks (M : Medium) (imagePartition : Int) : List Check :=
  [test (M.wordFrom (M.imgPartLba imagePartition) 0 = imgMagic) .noImageMagic,
    test (M.wordFrom (M.imgPartLba imagePartition) 4 ≤
      M.imgPartNblks imagePartition * BitVec.ofNat 32 sdBlksz) .imageOverflow]

/-- The checks of `load_image_items`. -/
def cardItemsChecks (M : Medium) (lba : Word) : List Check :=
  [testItem (M.itemId (Medium.kernItemLba lba)) .kernel] ++
    ([test (kernRamAddr + M.kernDatasz lba ≤ dtbRamAddr) .kernOverflow,
      test (M.wordFrom (Medium.kernItemLba lba) (sizeofItem + zimageMagicOff.toNat) = zimageMagic)
        .imageContents] ++
    ([testItem (M.itemId (M.dtbItemLba lba)) .deviceTreeBlob] ++
    ([test (bswap32 (M.wordFrom (M.dtbItemLba lba) sizeofItem) = dtbMagic) .imageContents] ++
    [testItem (M.itemId (M.endItemLba lba)) .endItem])))

/-- The checks of the loader, in program order. -/
def cardChecks (M : Medium) (imagePartition : Int) : List Check :=
  cardMbrChecks M imagePartition ++
    (cardHeadChecks M imagePartition ++ cardItemsChecks M (M.imgPartLba imagePartition))

/-- There is an image in this partition, and the loader accepts it. -/
structure Bootable (M : Medium) (imagePartition : Int) : Prop where
  signature : M.byteFrom 0 0x1ff ++ M.byteFrom 0 0x1fe = mbrMagicValue
  partition : mbrPartitionValid imagePartition = true
  magic : M.wordFrom (M.imgPartLba imagePartition) 0 = imgMagic
  imgsz : M.wordFrom (M.imgPartLba imagePartition) 4 ≤
    M.imgPartNblks imagePartition * BitVec.ofNat 32 sdBlksz
  items : PassesChecks M (M.imgPartLba imagePartition)

/-- A bootable card is one that no check fails on. -/
theorem bootable_iff {M : Medium} {imagePartition : Int} :
    failure (cardChecks M imagePartition) = none ↔ Bootable M imagePartition := by
  rw [failure_eq_none_iff, cardChecks, cardMbrChecks, cardHeadChecks, cardItemsChecks]
  simp only [List.cons_append, List.nil_append, List.forall_mem_cons, test_halt_iff,
    testItem_halt_iff]
  constructor
  · rintro ⟨hsig, hvalid, hmagic, himgsz, hkern, hfits, hzimage, hdtb, hdtbMagic, hend, -⟩
    exact ⟨hsig, hvalid, hmagic, himgsz, hkern, hfits, hzimage, hdtb, hdtbMagic, hend⟩
  · rintro ⟨hsig, hvalid, hmagic, himgsz, hkern, hfits, hzimage, hdtb, hdtbMagic, hend⟩
    exact ⟨hsig, hvalid, hmagic, himgsz, hkern, hfits, hzimage, hdtb, hdtbMagic, hend, by simp⟩

/-- The number of a valid partition. -/
theorem mbrPartitionValid_iff {imagePartition : Int} :
    mbrPartitionValid imagePartition = true ↔
      ∃ i : Nat, imagePartition = i ∧ 1 ≤ i ∧ i ≤ 4 := by
  rw [mbrPartitionValid, mbrFirstPartNr, mbrLastPartNr]
  simp only [Bool.and_eq_true, decide_eq_true_eq]
  constructor
  · intro h
    exact ⟨imagePartition.toNat, by omega, by omega, by omega⟩
  · rintro ⟨i, rfl, hi⟩
    omega

/-! ### Loading -/

section Load

variable {S : Setup} {card : Card} {w : World (Controller S)} {imagePartition : Int}

/-- A check that passes does not decide. -/
theorem failure_cons_of_none {c : Check} {cs : List Check} (h : c.halt = none) :
    failure (c :: cs) = failure cs := by
  simp [failure, h]

/-- The MBR was read. -/
structure MbrLoaded (card : Card) (imagePartition : Int) (w wMbr : World (Controller S)) :
    Prop where
  world : (reading card heapGetBaseAddress 0 1 w).world = wMbr
  checks : failure (mbrChecks card imagePartition w) =
    failure (cardMbrChecks S.medium imagePartition)
  lba : mbrPartitionValid imagePartition = true →
    mbrGetPartitionLba wMbr.ram heapGetBaseAddress imagePartition =
      S.medium.imgPartLba imagePartition
  nblks : mbrPartitionValid imagePartition = true →
    mbrGetPartitionNblks wMbr.ram heapGetBaseAddress imagePartition =
      S.medium.imgPartNblks imagePartition
  ready : Ready card wMbr

theorem Ready.loadsMbr (h : Ready card w) (imagePartition : Int) :
    ∃ wMbr, MbrLoaded card imagePartition w wMbr := by
  obtain ⟨wMbr, hmbr, hready⟩ := h.readsBlock heapGetBaseAddress (by decide) 0
  have hchecks : failure (mbrChecks card imagePartition w) =
      failure (cardMbrChecks S.medium imagePartition) := by
    have hmagic := hmbr.mbrMagic
    rw [mbrChecks, failure_cons_of_none hmbr.check, hmbr.world]
    simp only [hmagic]
    rfl
  refine ⟨wMbr, hmbr.world, hchecks, ?_, ?_, hready⟩
  · intro hvalid
    obtain ⟨i, rfl, hi⟩ := mbrPartitionValid_iff.mp hvalid
    exact hmbr.partEntryField hi _ (by decide)
  · intro hvalid
    obtain ⟨i, rfl, hi⟩ := mbrPartitionValid_iff.mp hvalid
    exact hmbr.partEntryField hi _ (by decide)

/-- The image head is read, and its words decide. -/
theorem Ready.loadsHead (h : Ready card w) (imagePartition : Int) :
    ∃ wHead,
      (RpiBld.reading card heapGetBaseAddress (S.medium.imgPartLba imagePartition) 1 w).world =
        wHead ∧ Ready card wHead ∧
      failure (headChecks card (S.medium.imgPartLba imagePartition)
        (S.medium.imgPartNblks imagePartition) w) =
        failure (cardHeadChecks S.medium imagePartition) := by
  obtain ⟨wHead, hhead, hready⟩ :=
    h.readsBlock heapGetBaseAddress (by decide) (S.medium.imgPartLba imagePartition)
  have hmagic : load32 wHead.ram heapGetBaseAddress =
      S.medium.wordFrom (S.medium.imgPartLba imagePartition) 0 := hhead.load32 0 (by decide)
  have himgsz : load32 wHead.ram (heapGetBaseAddress + 4) =
      S.medium.wordFrom (S.medium.imgPartLba imagePartition) 4 := hhead.load32 4 (by decide)
  refine ⟨wHead, hhead.world, hready, ?_⟩
  rw [headChecks, failure_cons_of_none hhead.check, hhead.world, hmagic, himgsz]
  rfl

/-- The id of an item decides on it. -/
theorem Ready.failure_itemChecks (h : Ready card w) {dest : Word}
    (haligned : addressAligned dest 4 = true) (id : ItemId) (lba : Word) :
    failure (itemChecks card id dest lba w) =
      failure [testItem (S.medium.itemId lba) id] := by
  obtain ⟨-, hpass, -⟩ := h.loadsItem dest haligned id lba
  by_cases hid : S.medium.itemId lba = id.code
  · rw [hpass.mpr hid, failure_eq_none_iff.mpr]
    intro c hc
    rw [List.mem_singleton.mp hc, testItem_halt_iff]
    exact hid
  · obtain ⟨w', hread, -⟩ := h.readsBlock dest haligned lba
    have hword : load32 w'.ram dest = S.medium.itemId lba := by
      have hload := hread.load32 0 (by decide)
      rwa [BitVec.add_zero] at hload
    have hhalt : (testItem (S.medium.itemId lba) id).halt = some (.signalled .imageContents) :=
      if_neg hid
    rw [itemChecks, List.cons_append, failure_cons_of_none hread.check, hread.world, hword,
      List.cons_append]
    simp [failure, hhalt]

/-- The items decide as they are on the card. -/
theorem Ready.failure_itemsChecks (h : Ready card w) (lba : Word) :
    failure (itemsChecks card lba w) = failure (cardItemsChecks S.medium lba) := by
  obtain ⟨hkern, -, -⟩ := h.loadsItem kernItemRamAddr (by decide) .kernel (Medium.kernItemLba lba)
  obtain ⟨hdtb, -, -⟩ := hkern.ready.loadsItem dtbItemRamAddr (by decide) .deviceTreeBlob
    (S.medium.dtbItemLba lba)
  have hkernLba : lba + 1 = Medium.kernItemLba lba := rfl
  have hdtbLba := hkern.next
  have hendLba := hdtb.next
  rw [← Medium.dtbItemLba] at hdtbLba
  rw [← Medium.endItemLba] at hendLba
  have hkernel : kernelChecks (itemWorld card kernItemRamAddr (Medium.kernItemLba lba) w).ram =
      [test (kernRamAddr + S.medium.kernDatasz lba ≤ dtbRamAddr) .kernOverflow,
        test (S.medium.wordFrom (Medium.kernItemLba lba) (sizeofItem + zimageMagicOff.toNat) =
          zimageMagic) .imageContents] := by
    have hdatasz := hkern.word 4 (by decide)
    have hmagic := hkern.word (sizeofItem + zimageMagicOff.toNat) (by decide)
    rw [kernelChecks, show kernItemRamAddr + 4 = kernItemRamAddr + BitVec.ofNat 32 4 from rfl,
      show kernRamAddr + zimageMagicOff =
        kernItemRamAddr + BitVec.ofNat 32 (sizeofItem + zimageMagicOff.toNat) from rfl,
      hdatasz, hmagic]
    rfl
  have hblob : deviceTreeBlobChecks (itemWorld card dtbItemRamAddr (S.medium.dtbItemLba lba)
      (itemWorld card kernItemRamAddr (Medium.kernItemLba lba) w)).ram =
      [test (bswap32 (S.medium.wordFrom (S.medium.dtbItemLba lba) sizeofItem) = dtbMagic)
        .imageContents] := by
    have hmagic := hdtb.word sizeofItem (by decide)
    rw [deviceTreeBlobChecks,
      show dtbRamAddr = dtbItemRamAddr + BitVec.ofNat 32 sizeofItem from rfl, hmagic]
  unfold itemsChecks
  simp only [hkernLba, hdtbLba, hendLba]
  rw [hkernel, hblob, cardItemsChecks]
  simp only [failure_append]
  rw [h.failure_itemChecks (by decide), hkern.ready.failure_itemChecks (by decide),
    hdtb.ready.failure_itemChecks (by decide)]

/-- **How the loader ends is on the card**, whatever the card holds: it returns if no check fails,
and the first one that fails names the error. -/
theorem loadImage_result (h : Ready card w) :
    (loadImage card imagePartition w).result =
      match failure (cardChecks S.medium imagePartition) with
      | none => .ok ()
      | some e => .error e := by
  have hperforms : Performs (loadImage card imagePartition) (bootChecks card imagePartition w) ()
      w (bootWorld card imagePartition w) := loadImage_performs card imagePartition
  have hchecks : failure (bootChecks card imagePartition w) =
      failure (cardChecks S.medium imagePartition) := by
    obtain ⟨wMbr, hmbr⟩ := h.loadsMbr imagePartition
    rw [bootChecks, cardChecks, failure_append, failure_append (cardMbrChecks _ _), failure_append,
      failure_append (cardHeadChecks _ _), hmbr.checks, hmbr.world]
    by_cases hvalid : mbrPartitionValid imagePartition = true
    · obtain ⟨wHead, hw, hready, hhead⟩ := hmbr.ready.loadsHead imagePartition
      rw [hmbr.lba hvalid, hmbr.nblks hvalid, hw, hhead, hready.failure_itemsChecks]
    · -- the loader does not get past the MBR
      obtain ⟨x, hx⟩ : ∃ x, failure (cardMbrChecks S.medium imagePartition) = some x := by
        apply Option.ne_none_iff_exists'.mp
        intro hnone
        have hpass := failure_eq_none_iff.mp hnone _ (List.mem_cons_of_mem _ List.mem_cons_self)
        exact hvalid (test_halt_iff.mp hpass)
      rw [hx]
      rfl
  have hresult := hperforms.result
  rw [hchecks] at hresult
  refine hresult.trans ?_
  cases failure (cardChecks S.medium imagePartition) <;> rfl

theorem loadImage_ok (h : Ready card w) (hboot : Bootable S.medium imagePartition) :
    (loadImage card imagePartition w).result = .ok () := by
  rw [loadImage_result h, bootable_iff.mpr hboot]

theorem loadImage_error (h : Ready card w) {e : Halt}
    (hfail : failure (cardChecks S.medium imagePartition) = some e) :
    (loadImage card imagePartition w).result = .error e := by
  rw [loadImage_result h, hfail]

/-- Where it returns it has loaded the items, and the card may be read again. -/
theorem Ready.loadImage_ends (h : Ready card w) (hboot : Bootable S.medium imagePartition) :
    ∃ wHead, Ready card wHead ∧ (loadImage card imagePartition w).state =
        (loadImageItems card (S.medium.imgPartLba imagePartition) wHead).state ∧
      Ready card (loadImage card imagePartition w).state := by
  have hperforms : Performs (loadImage card imagePartition) (bootChecks card imagePartition w) ()
      w (bootWorld card imagePartition w) := loadImage_performs card imagePartition
  have hnone : failure (bootChecks card imagePartition w) = none := by
    have hresult := hperforms.result
    rw [loadImage_ok h hboot] at hresult
    generalize failure (bootChecks card imagePartition w) = f at hresult
    cases f with
    | none => rfl
    | some x => cases hresult
  have hstate := hperforms.state hnone
  obtain ⟨wMbr, hmbr⟩ := h.loadsMbr imagePartition
  obtain ⟨wHead, hw, hready, -⟩ := hmbr.ready.loadsHead imagePartition
  have hperforms' : Performs (loadImageItems card (S.medium.imgPartLba imagePartition))
      (itemsChecks card (S.medium.imgPartLba imagePartition) wHead) () wHead
      (itemsWorld card (S.medium.imgPartLba imagePartition) wHead) := loadImageItems_performs _
  obtain ⟨⟨_, _, hloaded⟩, hpass, -⟩ := hready.loadsItems (S.medium.imgPartLba imagePartition)
  rw [bootWorld, hmbr.world, hmbr.lba hboot.partition, hw] at hstate
  refine ⟨wHead, hready, ?_, ?_⟩
  · rw [hstate, hperforms'.state (hpass.mpr hboot.items)]
  · rw [hstate]
    exact hloaded.endItem.ready

end Load

/-! ### Cards with an image that was built -/

section Image

variable {img : Block} {M : Medium} {kern dtb : List Byte} {imagePartition : Int}

/-- A partition that holds an image of a kernel and a device tree. -/
theorem Bootable.of_stored (hsig : M.byteFrom 0 0x1ff ++ M.byteFrom 0 0x1fe = mbrMagicValue)
    (hvalid : mbrPartitionValid imagePartition = true) (hholds : HoldsImage img.mem kern dtb)
    (hfilled : Filled img (imageSpan kern.length dtb.length)) (hfit : FilesFit kern dtb)
    (hzimage : leBytes zimageMagic <+: kern.drop zimageMagicOff.toNat)
    (hdtbMagic : (leBytes dtbMagic).reverse <+: dtb)
    (hstored : Stored img M (M.imgPartLba imagePartition).toNat)
    (himgsz : img.imgsz ≤ M.imgPartNblks imagePartition * BitVec.ofNat 32 sdBlksz) :
    ImageStored M (M.imgPartLba imagePartition) kern dtb ∧ Bootable M imagePartition := by
  have hspan := hfit.span_lt
  have himage := hholds.imageStored hfilled hspan hstored
  have hblocks := hfilled.imgsz_blocks (by omega)
  have hdvd : sdBlksz ∣ img.imgsz.toNat := ⟨_, hblocks⟩
  have hsize : sdBlksz ≤ img.imgsz.toNat := by
    rw [hblocks]
    exact Nat.le_mul_of_pos_right _ (by omega)
  have hhead : ∀ off, off + 4 ≤ sdBlksz → M.wordFrom (M.imgPartLba imagePartition) off =
      load32 img.mem (BitVec.ofNat 64 off) := by
    intro off hoff
    have hoff' : sdBlksz * 0 + off + 4 ≤ img.imgsz.toNat := by
      rw [Nat.mul_zero]
      omega
    have hlba : (M.imgPartLba imagePartition).toNat = (M.imgPartLba imagePartition).toNat + 0 := rfl
    have hword := hstored.wordFrom hdvd hlba hoff'
    rwa [Nat.mul_zero, Nat.zero_add] at hword
  refine ⟨himage, hsig, hvalid, ?_, ?_, himage.passesChecks hfit hzimage hdtbMagic⟩
  · rw [hhead 0 (by decide)]
    exact hholds.magic
  · rw [hhead 4 (by decide)]
    refine le_of_eq_of_le ?_ himgsz
    rw [hfilled.imgsz]
    exact hholds.imgsz

end Image

end RpiBld
