/-
RpiBld/ImageRoundTrip.lean

What the imager builds is what the bootloader loads.

An image that `build_image` has built is stored on a card from some block on
(`Stored`).  Each of its items starts at a block, and the card has its id, its
padded size and its data there (`ItemStored`), wherever the host's memory was
left uninitialised; so the loader's checks pass, it steps from item to item as
the imager laid them out, and as padded items end with a block, none of the
three loads reaches into another's data (`loadImageItems_roundTrip`).
-/
import RpiBld.ImageAccepted
import RpiBld.ImageIntact
import RpiBld.Img.Write

namespace RpiBld

open Traced Controller

/-! ### Files and images -/

/-- The bytes of a word, least significant first. -/
def leBytes (v : Word) : List Byte := (List.range 4).map (leByte v)

/-- An image is stored on a card, from a block on. -/
structure Stored (img : Block) (M : Medium) (imgPartLba : Nat) : Prop where
  fits : imgPartLba + img.imgsz.toNat / sdBlksz ≤ M.capacity
  bytes : ∀ i < img.imgsz.toNat,
    M.block (imgPartLba + i / sdBlksz) (i % sdBlksz) = img.mem (BitVec.ofNat 64 i)

/-- The loader returns with kernel and device tree in RAM, having read no block but the `nblks` of
the image. -/
structure LoadsFiles {S : Setup} (card : Card) (imgPartLba : Word) (kern dtb : List Byte)
    (nblks : Nat) (w : World (Controller S)) : Prop where
  returns : (loadImageItems card imgPartLba w).result = .ok ()
  kernel : cells (loadImageItems card imgPartLba w).state.ram kernRamAddr kern.length = kern
  deviceTreeBlob :
    cells (loadImageItems card imgPartLba w).state.ram dtbRamAddr dtb.length = dtb
  inside : ∃ bs, (loadImageItems card imgPartLba w).state.dev.served = w.dev.served ++ bs ∧
    ∀ b ∈ bs, imgPartLba.toNat ≤ b ∧ b < imgPartLba.toNat + nblks

theorem itemSpan_eq (datasz : Nat) : itemSpan datasz = sdBlksz * itemBlocks datasz :=
  Nat.mul_comm _ _

/-- An item has as many blocks padded as not. -/
theorem itemBlocks_padded (datasz : Nat) :
    itemBlocks (itemSpan datasz - sizeofItem) = itemBlocks datasz := by
  simp only [itemBlocks, itemSpan, sizeofItem, sdBlksz]
  omega

theorem getElem_of_prefix_drop {data bytes : List Byte} {off : Nat} (h : bytes <+: data.drop off)
    {i : Nat} (hi : i < bytes.length) : ∃ hlt : off + i < data.length, data[off + i] = bytes[i] := by
  have hlen := h.length_le
  rw [List.length_drop] at hlen
  refine ⟨by omega, ?_⟩
  rw [h.getElem hi, List.getElem_drop]

/-! ### Items of an image on a card -/

/-- The item that starts at a block is the one the imager made of this data. -/
structure ItemStored (M : Medium) (lba : Word) (id : ItemId) (data : List Byte) : Prop where
  id : M.itemId lba = id.code
  datasz : (M.itemDatasz lba).toNat = itemSpan data.length - sizeofItem
  data : ∀ i, ∀ h : i < data.length, M.byteFrom lba.toNat (sizeofItem + i) = data[i]

section Stored

variable {img : Block} {M : Medium} {p k : Nat} {lba : Word} {id : ItemId} {data : List Byte}

/-- A byte of the image, from one of its blocks on. -/
theorem Stored.byteFrom (h : Stored img M p) (hdvd : sdBlksz ∣ img.imgsz.toNat)
    (hlba : lba.toNat = p + k) {j : Nat} (hj : sdBlksz * k + j < img.imgsz.toNat) :
    M.byteFrom lba.toNat j = img.mem (BitVec.ofNat 64 (sdBlksz * k + j)) := by
  have hfits := h.fits
  have hdiv : (sdBlksz * k + j) / sdBlksz = k + j / sdBlksz :=
    Nat.mul_add_div (by decide) k j
  have hmod : (sdBlksz * k + j) % sdBlksz = j % sdBlksz := Nat.mul_add_mod _ _ _
  have hlt : (sdBlksz * k + j) / sdBlksz < img.imgsz.toNat / sdBlksz :=
    Nat.div_lt_div_of_lt_of_dvd hdvd hj
  rw [← h.bytes _ hj, Medium.byteFrom, hdiv, hmod, hlba, Nat.mod_eq_of_lt (by omega), Nat.add_assoc]

theorem Stored.wordFrom (h : Stored img M p) (hdvd : sdBlksz ∣ img.imgsz.toNat)
    (hlba : lba.toNat = p + k) {off : Nat} (hoff : sdBlksz * k + off + 4 ≤ img.imgsz.toNat) :
    M.wordFrom lba off = load32 img.mem (BitVec.ofNat 64 (sdBlksz * k + off)) := by
  apply leWord_congr
  intro i hi
  rw [h.byteFrom hdvd hlba (by omega), ← BitVec.ofNat_add, Nat.add_assoc]

/-- An item of the image. -/
theorem Stored.item (h : Stored img M p) (hdvd : sdBlksz ∣ img.imgsz.toNat)
    (hlba : lba.toNat = p + k) (hitem : HoldsItem img.mem (sdBlksz * k) id data)
    (hend : sdBlksz * k + itemSpan data.length ≤ img.imgsz.toNat) : ItemStored M lba id data := by
  have hspan := sizeofItem_add_le_itemSpan data.length
  have hsz : sizeofItem = 8 := rfl
  have hmax := img.imgsz.isLt
  refine ⟨?_, ?_, ?_⟩
  · rw [Medium.itemId, h.wordFrom hdvd hlba (by omega)]
    exact hitem.id
  · rw [Medium.itemDatasz, h.wordFrom hdvd hlba (by omega), hitem.datasz, BitVec.toNat_ofNat,
      Nat.mod_eq_of_lt (by omega)]
  · intro i hi
    rw [h.byteFrom hdvd hlba (by omega), ← cells_eq_iff.mp hitem.data i hi, ← BitVec.ofNat_add,
      hsz, Nat.add_assoc]

namespace ItemStored

/-- A word of the data. -/
theorem word (h : ItemStored M lba id data) {off : Nat} {v : Word}
    (hv : leBytes v <+: data.drop off) : M.wordFrom lba (sizeofItem + off) = v := by
  have hbytes : ∀ i < 4, M.byteFrom lba.toNat (sizeofItem + off + i) = leByte v i := by
    intro i hi
    have hlen : (leBytes v).length = 4 := by rw [leBytes, List.length_map, List.length_range]
    obtain ⟨hlt, hget⟩ := getElem_of_prefix_drop hv (i := i) (by omega)
    rw [Nat.add_assoc, h.data _ hlt, hget]
    simp [leBytes]
  rw [Medium.wordFrom, leWord_congr hbytes, leWord_leByte]

/-- The blocks of an item that is not too large. -/
theorem blocks (h : ItemStored M lba id data) : itemBlocks (M.itemDatasz lba).toNat =
    itemBlocks data.length := by
  rw [h.datasz, itemBlocks_padded]

theorem size_lt (h : ItemStored M lba id data) (hlen : itemSpan data.length < 2 ^ 31) :
    sizeofItem + (M.itemDatasz lba).toNat < 2 ^ 31 := by
  have hspan := sizeofItem_add_le_itemSpan data.length
  rw [h.datasz]
  omega

/-- The next item. -/
theorem next (h : ItemStored M lba id data) (hlen : itemSpan data.length < 2 ^ 31)
    (hlba : lba.toNat + itemBlocks data.length < 2 ^ 32) :
    (M.nextItemLba lba).toNat = lba.toNat + itemBlocks data.length := by
  rw [← h.blocks] at hlba ⊢
  exact Medium.toNat_nextItemLba lba (h.size_lt hlen) hlba

theorem loadedBlocks (h : ItemStored M lba id data) (hlen : itemSpan data.length < 2 ^ 31) :
    RpiBld.loadedBlocks (M.itemDatasz lba) = itemBlocks data.length := by
  rw [loadedBlocks_eq (h.size_lt hlen), h.blocks]

end ItemStored

end Stored

/-! ### The image -/

/-- Where the three items of an image are on a card. -/
structure ImageStored (M : Medium) (imgPartLba : Word) (kern dtb : List Byte) : Prop where
  fits : imgPartLba.toNat + (1 + itemBlocks kern.length + itemBlocks dtb.length + 1) ≤ M.capacity
  kernel : ItemStored M (Medium.kernItemLba imgPartLba) .kernel kern
  kernelLba : (Medium.kernItemLba imgPartLba).toNat = imgPartLba.toNat + 1
  deviceTreeBlob : ItemStored M (M.dtbItemLba imgPartLba) .deviceTreeBlob dtb
  deviceTreeBlobLba : (M.dtbItemLba imgPartLba).toNat =
    imgPartLba.toNat + (1 + itemBlocks kern.length)
  endItem : ItemStored M (M.endItemLba imgPartLba) .endItem []
  endItemLba : (M.endItemLba imgPartLba).toNat =
    imgPartLba.toNat + (1 + itemBlocks kern.length + itemBlocks dtb.length)

section Image

variable {img : Block} {M : Medium} {imgPartLba : Word} {kern dtb : List Byte}

/-- The header, the items and the END item, in blocks. -/
theorem Filled.imgsz_blocks {k d : Nat} (h : Filled img (imageSpan k d))
    (hspan : imageSpan k d < 2 ^ 32) :
    img.imgsz.toNat = sdBlksz * (1 + itemBlocks k + itemBlocks d + 1) := by
  have hhead : sizeofImage = sdBlksz := rfl
  have hend : itemSpan 0 = sdBlksz := rfl
  rw [h.imgsz, BitVec.toNat_ofNat, Nat.mod_eq_of_lt hspan, imageSpan, itemSpan_eq k, itemSpan_eq d,
    hhead, hend, Nat.mul_add, Nat.mul_add, Nat.mul_add, Nat.mul_one]

/-- An image with a kernel and a device tree that fit their regions, on a card. -/
theorem HoldsImage.imageStored (h : HoldsImage img.mem kern dtb)
    (hfilled : Filled img (imageSpan kern.length dtb.length))
    (hspan : imageSpan kern.length dtb.length < 2 ^ 31)
    (hstored : Stored img M imgPartLba.toNat) : ImageStored M imgPartLba kern dtb := by
  have hsz : sizeofImage = 512 := rfl
  have hend : itemSpan 0 = 512 := rfl
  have hbytes : ∀ n, sdBlksz * n = 512 * n := fun _ => rfl
  have hkernSpan : itemSpan kern.length = 512 * itemBlocks kern.length := itemSpan_eq _
  have hdtbSpan : itemSpan dtb.length = 512 * itemBlocks dtb.length := itemSpan_eq _
  have himgsz := hfilled.imgsz_blocks (by omega)
  rw [imageSpan] at hspan
  have hdvd : sdBlksz ∣ img.imgsz.toNat := ⟨_, himgsz⟩
  have hfits := hstored.fits
  rw [himgsz, Nat.mul_div_cancel_left _ (by decide)] at hfits
  rw [hbytes] at himgsz
  have hcard : M.capacity ≤ 2 ^ 32 := Nat.le_of_dvd (by decide) M.capacity_dvd
  have hkernLba : (Medium.kernItemLba imgPartLba).toNat = imgPartLba.toNat + 1 :=
    Medium.toNat_kernItemLba (by omega)
  have hkernel : ItemStored M (Medium.kernItemLba imgPartLba) .kernel kern :=
    hstored.item hdvd hkernLba h.kernel (by rw [hbytes]; omega)
  have hdtbLba : (M.dtbItemLba imgPartLba).toNat =
      imgPartLba.toNat + (1 + itemBlocks kern.length) := by
    rw [Medium.dtbItemLba, hkernel.next (by omega) (by omega), hkernLba, Nat.add_assoc]
  have hdtbOff : sizeofImage + itemSpan kern.length = sdBlksz * (1 + itemBlocks kern.length) := by
    rw [hbytes]
    omega
  have hdeviceTree : ItemStored M (M.dtbItemLba imgPartLba) .deviceTreeBlob dtb := by
    have hitem := h.deviceTreeBlob
    rw [hdtbOff] at hitem
    exact hstored.item hdvd hdtbLba hitem (by rw [hbytes]; omega)
  have hendLba : (M.endItemLba imgPartLba).toNat =
      imgPartLba.toNat + (1 + itemBlocks kern.length + itemBlocks dtb.length) := by
    rw [Medium.endItemLba, hdeviceTree.next (by omega) (by omega), hdtbLba, Nat.add_assoc]
  have hendOff : sizeofImage + itemSpan kern.length + itemSpan dtb.length =
      sdBlksz * (1 + itemBlocks kern.length + itemBlocks dtb.length) := by
    rw [hbytes]
    omega
  have hendItem : ItemStored M (M.endItemLba imgPartLba) .endItem [] := by
    have hitem := h.endItem
    rw [hendOff] at hitem
    exact hstored.item hdvd hendLba hitem (by rw [hbytes, List.length_nil]; omega)
  exact ⟨hfits, hkernel, hkernLba, hdeviceTree, hdtbLba, hendItem, hendLba⟩

/-- Kernel and device tree, padded, end below the device tree and the heap. -/
structure FilesFit (kern dtb : List Byte) : Prop where
  kernel : kernRamAddr.toNat + (itemSpan kern.length - sizeofItem) ≤ dtbRamAddr.toNat
  deviceTreeBlob : dtbRamAddr.toNat + (itemSpan dtb.length - sizeofItem) ≤ heapRamAddr.toNat

theorem FilesFit.span_lt (h : FilesFit kern dtb) : imageSpan kern.length dtb.length < 2 ^ 31 := by
  have hkern := h.kernel
  have hdtb := h.deviceTreeBlob
  have haddrs : kernRamAddr.toNat = 0x2000000 ∧ dtbRamAddr.toNat = 0x8000000 ∧
      heapRamAddr.toNat = 0x10000000 ∧ sizeofItem = 8 := by decide
  have hhead : sizeofImage = 512 := rfl
  have hend : itemSpan 0 = 512 := rfl
  rw [imageSpan]
  omega

/-- Padded items leave room for the header of the next one. -/
theorem ImageStored.regionsFit (h : ImageStored M imgPartLba kern dtb) (hfit : FilesFit kern dtb) :
    RegionsFit M imgPartLba := by
  have hkern := hfit.kernel
  have hdtb := hfit.deviceTreeBlob
  have hspan : itemSpan kern.length = 512 * itemBlocks kern.length := itemSpan_eq _
  have haddrs : kernRamAddr.toNat = 0x2000000 ∧ dtbRamAddr.toNat = 0x8000000 ∧
      dtbItemRamAddr.toNat = 0x7fffff8 ∧ sizeofItem = 8 := by decide
  refine ⟨?_, ?_⟩
  · rw [Medium.kernDatasz, h.kernel.datasz]
    omega
  · rw [Medium.dtbDatasz, h.deviceTreeBlob.datasz]
    exact hdtb

/-- The loader accepts an image of a kernel and a device tree. -/
theorem ImageStored.passesChecks (h : ImageStored M imgPartLba kern dtb) (hfit : FilesFit kern dtb)
    (hzimage : leBytes zimageMagic <+: kern.drop zimageMagicOff.toNat)
    (hdtbMagic : (leBytes dtbMagic).reverse <+: dtb) : PassesChecks M imgPartLba := by
  have hkernFits := hfit.kernel
  have haddrs : kernRamAddr.toNat = 0x2000000 ∧ dtbRamAddr.toNat = 0x8000000 := by decide
  refine ⟨h.kernel.id, ?_, h.kernel.word hzimage, h.deviceTreeBlob.id, ?_, h.endItem.id⟩
  · have hdatasz : (M.kernDatasz imgPartLba).toNat = itemSpan kern.length - sizeofItem :=
      h.kernel.datasz
    rw [BitVec.le_def, BitVec.toNat_add, hdatasz, Nat.mod_eq_of_lt (by omega)]
    exact hkernFits
  · -- most significant byte first is least significant first of the swapped word
    have hswap : (leBytes dtbMagic).reverse = leBytes (bswap32 dtbMagic) := by decide
    rw [hswap] at hdtbMagic
    have hword : M.wordFrom (M.dtbItemLba imgPartLba) (sizeofItem + 0) = bswap32 dtbMagic := by
      apply h.deviceTreeBlob.word
      rw [List.drop_zero]
      exact hdtbMagic
    rw [Nat.add_zero] at hword
    rw [hword]
    decide

end Image

/-! ### Loading it -/

section Load

variable {S : Setup} {card : Card} {w w' : World (Controller S)} {imgPartLba : Word}
variable {kern dtb : List Byte}

/-- The blocks that were read of an item. -/
theorem ItemLoaded.blocks {dest lba : Word} {id : ItemId} {data : List Byte}
    (h : ItemLoaded card dest lba w w') (hitem : ItemStored S.medium lba id data)
    (hlen : itemSpan data.length < 2 ^ 31)
    (hcard : lba.toNat + itemBlocks data.length ≤ S.medium.capacity) :
    ∃ bs, w'.dev.served = w.dev.served ++ bs ∧
      ∀ b ∈ bs, lba.toNat ≤ b ∧ b < lba.toNat + itemBlocks data.length := by
  obtain ⟨bs, hserved, hbs⟩ := h.served
  refine ⟨bs, hserved, ?_⟩
  intro b hb
  have hmem := hbs b hb
  rw [hitem.loadedBlocks hlen, Medium.blocksFrom, List.mem_map] at hmem
  obtain ⟨i, hi, rfl⟩ := hmem
  have hlt := List.mem_range.mp hi
  rw [Nat.mod_eq_of_lt (by omega)]
  omega

/-- All blocks that were read are blocks of the image. -/
theorem ItemsLoaded.inside {wKern wDtb : World (Controller S)}
    (h : ItemsLoaded card imgPartLba w wKern wDtb w')
    (himage : ImageStored S.medium imgPartLba kern dtb) (hfit : FilesFit kern dtb) :
    ∃ bs, w'.dev.served = w.dev.served ++ bs ∧ ∀ b ∈ bs, imgPartLba.toNat ≤ b ∧
      b < imgPartLba.toNat + (1 + itemBlocks kern.length + itemBlocks dtb.length + 1) := by
  have hfits := himage.fits
  have hspan := hfit.span_lt
  rw [imageSpan] at hspan
  have hkernLba := himage.kernelLba
  have hdtbLba := himage.deviceTreeBlobLba
  have hendLba := himage.endItemLba
  have hone : itemBlocks ([] : List Byte).length = 1 := rfl
  obtain ⟨bs, hbs, hkern⟩ := h.kern.blocks himage.kernel (by omega) (by omega)
  obtain ⟨bs', hbs', hdtb⟩ := h.dtb.blocks himage.deviceTreeBlob (by omega) (by omega)
  obtain ⟨bs'', hbs'', hend⟩ := h.endItem.blocks himage.endItem (by decide) (by omega)
  refine ⟨bs ++ (bs' ++ bs''), ?_, ?_⟩
  · rw [hbs'', hbs', hbs, List.append_assoc, List.append_assoc]
  · intro b hb
    rcases List.mem_append.mp hb with hb | hb
    · have hin := hkern b hb
      omega
    rcases List.mem_append.mp hb with hb | hb
    · have hin := hdtb b hb
      omega
    · have hin := hend b hb
      omega

/-- Intact items hold the files. -/
theorem Intact.cells {ram : Ram} {t : List Event} (h : Intact S.medium imgPartLba ram t)
    (himage : ImageStored S.medium imgPartLba kern dtb) :
    Traced.cells ram kernRamAddr kern.length = kern ∧
      Traced.cells ram dtbRamAddr dtb.length = dtb := by
  have hkernSpan := sizeofItem_add_le_itemSpan kern.length
  have hdtbSpan := sizeofItem_add_le_itemSpan dtb.length
  constructor
  · apply cells_eq_iff.mpr
    intro i hi
    have hlt : i < (S.medium.kernDatasz imgPartLba).toNat := by
      rw [Medium.kernDatasz, himage.kernel.datasz]
      omega
    rw [h.kernel i hlt]
    exact himage.kernel.data i hi
  · apply cells_eq_iff.mpr
    intro i hi
    have hlt : i < (S.medium.dtbDatasz imgPartLba).toNat := by
      rw [Medium.dtbDatasz, himage.deviceTreeBlob.datasz]
      omega
    rw [h.deviceTreeBlob i hlt]
    exact himage.deviceTreeBlob.data i hi

/-- An image that is on the card is loaded. -/
theorem ImageStored.loadsFiles (himage : ImageStored S.medium imgPartLba kern dtb)
    (hready : Ready card w) (hfit : FilesFit kern dtb)
    (hzimage : leBytes zimageMagic <+: kern.drop zimageMagicOff.toNat)
    (hdtbMagic : (leBytes dtbMagic).reverse <+: dtb) :
    LoadsFiles card imgPartLba kern dtb
      (1 + itemBlocks kern.length + itemBlocks dtb.length + 1) w := by
  have hpass := himage.passesChecks hfit hzimage hdtbMagic
  obtain ⟨⟨wKern, wDtb, hloaded⟩, hreads⟩ := hready.loadImageItems_ends hpass
  obtain ⟨hkernel, hdeviceTree⟩ := (hloaded.intact (himage.regionsFit hfit) hreads).cells himage
  exact ⟨(loadImageItems_returns_iff hready).mpr hpass, hkernel, hdeviceTree,
    hloaded.inside himage hfit⟩

end Load

/-- **The bootloader loads what the imager built.**  For any kernel and device tree that fit, on any
host and from any place of the card. -/
theorem loadImageItems_roundTrip {η : Type} [Host η] {files : Files} {kernFpath dtbFpath : String}
    {s : η} {img : Block}
    (hbuilt : (buildImage files kernFpath dtbFpath s).result = .ok (some img))
    (hfit : FilesFit (files kernFpath) (files dtbFpath))
    (hzimage : leBytes zimageMagic <+: (files kernFpath).drop zimageMagicOff.toNat)
    (hdtbMagic : (leBytes dtbMagic).reverse <+: files dtbFpath)
    {S : Setup} {card : Card} {w : World (Controller S)} {imgPartLba : Word}
    (hready : Ready card w) (hstored : Stored img S.medium imgPartLba.toNat) :
    LoadsFiles card imgPartLba (files kernFpath) (files dtbFpath)
      (img.imgsz.toNat / sdBlksz) w := by
  have hspan := hfit.span_lt
  have hkernLen := sizeofItem_add_le_itemSpan (files kernFpath).length
  have hdtbLen := sizeofItem_add_le_itemSpan (files dtbFpath).length
  have hlens : (files kernFpath).length < 2 ^ 31 - 512 ∧
      (files dtbFpath).length < 2 ^ 31 - 512 := by
    have hhead : sizeofImage = 512 := rfl
    have hsum := hspan
    rw [imageSpan] at hsum
    omega
  obtain ⟨hholds, hfilled⟩ := buildImage_yields hlens.1 hlens.2 (by omega) s _ hbuilt img rfl
  rw [hfilled.imgsz_blocks (by omega), Nat.mul_div_cancel_left _ (by decide)]
  exact (hholds.imageStored hfilled hspan hstored).loadsFiles hready hfit hzimage hdtbMagic

/-! ### A small image -/

/-- A kernel that is nothing but its magic number, and a device tree that is nothing but its own. -/
def magicFiles : Files
  | "zImage" => List.replicate zimageMagicOff.toNat 0 ++ leBytes zimageMagic
  | _ => (leBytes dtbMagic).reverse

/-- Built, and stored from block 0 on. -/
theorem loadImageItems_roundTrip_magic : ∃ img,
    (buildImage magicFiles "zImage" "rpi4b.dtb" (⟨⟩ : ObligingHost)).result = .ok (some img) ∧
      LoadsFiles sdhcCard 0 (magicFiles "zImage") (magicFiles "rpi4b.dtb")
        (img.imgsz.toNat / sdBlksz)
        (cardWorld fun b j => img.mem (BitVec.ofNat 64 (sdBlksz * b + j))) := by
  obtain ⟨t, o, s, hbuild, img, rfl⟩ : (buildImage magicFiles "zImage" "rpi4b.dtb").Returns
      (fun _ o _ => ∃ img, o = some img) (⟨⟩ : ObligingHost) :=
    buildImage_oblige magicFiles (by decide) (by decide) ⟨⟩
  have hbuilt : (buildImage magicFiles "zImage" "rpi4b.dtb" (⟨⟩ : ObligingHost)).result =
      .ok (some img) := by rw [hbuild]
  have hstored : Stored img
      (cardSetup fun b j => img.mem (BitVec.ofNat 64 (sdBlksz * b + j))).medium 0 := by
    refine ⟨?_, fun i _ => ?_⟩
    · have hlt := img.imgsz.isLt
      show 0 + img.imgsz.toNat / 512 ≤ 2 ^ 32
      omega
    · show img.mem (BitVec.ofNat 64 (sdBlksz * (0 + i / sdBlksz) + i % sdBlksz)) = _
      rw [Nat.zero_add, Nat.div_add_mod]
  exact ⟨img, hbuilt, loadImageItems_roundTrip hbuilt ⟨by decide, by decide⟩ (by decide)
    (by decide) (cardWorld_ready _) hstored⟩

end RpiBld
