/-
RpiBld/ImageIntact.lean

What is handed to the kernel, against what is on the card.

The loads overlap: the header of the device tree goes to the eight bytes below
`DTB_RAM_ADDR`, and the END item, of whatever size, to the heap base.  The only
check between them bounds the kernel by `DTB_RAM_ADDR` itself.  So a kernel that
ends in these eight bytes is accepted and overwritten, and so is a device tree
that reaches into the heap; all others are intact (`handsOverIntact_iff`).
-/
import RpiBld.Loading

namespace RpiBld

open Traced Controller

/-- The bytes of a read that lie in an area. -/
def Meets (dest : Word) (nblks : Int) (a : Word) (n : Nat) : Prop :=
  ∃ x, Region dest (sdBlksz * nblks.toNat) x ∧ Region a n x

/-- Kernel and device tree are in RAM as they are on the card, and what is read after one of them
does not overwrite it. -/
structure Intact (M : Medium) (imgPartLba : Word) (ram : Ram) (t : List Event) : Prop where
  kernel : ∀ i < (M.kernDatasz imgPartLba).toNat, ram (kernRamAddr + BitVec.ofNat 32 i) =
    M.byteFrom (Medium.kernItemLba imgPartLba).toNat (sizeofItem + i)
  deviceTreeBlob : ∀ i < (M.dtbDatasz imgPartLba).toNat, ram (dtbRamAddr + BitVec.ofNat 32 i) =
    M.byteFrom (M.dtbItemLba imgPartLba).toNat (sizeofItem + i)
  kernelKept : ∀ dest lba n, (dest, lba, n) ∈ sdReads t → dest ≠ kernItemRamAddr →
    ¬ Meets dest n kernRamAddr (M.kernDatasz imgPartLba).toNat
  deviceTreeBlobKept : ∀ dest lba n, (dest, lba, n) ∈ sdReads t → dest = heapGetBaseAddress →
    ¬ Meets dest n dtbRamAddr (M.dtbDatasz imgPartLba).toNat

/-- Where the loader returns, what it has loaded is intact. -/
def HandsOverIntact {S : Setup} (card : Card) (imgPartLba : Word) (w : World (Controller S)) :
    Prop :=
  (loadImageItems card imgPartLba w).result = .ok () →
    Intact S.medium imgPartLba (loadImageItems card imgPartLba w).state.ram
      (loadImageItems card imgPartLba w).events

/-- The kernel ends below the header of the device tree, and the device tree below the heap. -/
structure RegionsFit (M : Medium) (imgPartLba : Word) : Prop where
  kernel : kernRamAddr.toNat + (M.kernDatasz imgPartLba).toNat ≤ dtbItemRamAddr.toNat
  deviceTreeBlob : dtbRamAddr.toNat + (M.dtbDatasz imgPartLba).toNat ≤ heapRamAddr.toNat

section Intact

variable {S : Setup} {M : Medium} {card : Card} {w : World (Controller S)} {imgPartLba : Word}

/-! ### The two directions -/

theorem meets_of_mem {dest a : Word} {nblks : Int} {n : Nat} (hn : 0 < nblks)
    (h : (dest - a).toNat < n) : Meets dest nblks a n := by
  refine ⟨dest, ?_, h⟩
  unfold Region
  rw [BitVec.sub_self, sdBlksz]
  show 0 < _
  omega

/-- What is handed over fits its regions if it is intact: the first block of each later item is
read over what does not. -/
theorem Intact.regionsFit {ram : Ram} {t : List Event} (h : Intact M imgPartLba ram t)
    (ht : sdReads t = itemsRequests M imgPartLba) : RegionsFit M imgPartLba := by
  have hdtbRead : (dtbItemRamAddr, M.dtbItemLba imgPartLba, 1) ∈ sdReads t := by
    rw [ht]
    exact List.mem_append_right _ (List.mem_append_left _ (first_mem_itemRequests _ _ _))
  have hendRead : (heapGetBaseAddress, M.endItemLba imgPartLba, 1) ∈ sdReads t := by
    rw [ht]
    exact List.mem_append_right _ (List.mem_append_right _ (first_mem_itemRequests _ _ _))
  have hkern : kernRamAddr.toNat + (dtbItemRamAddr - kernRamAddr).toNat = dtbItemRamAddr.toNat := by
    decide
  have hdtb : dtbRamAddr.toNat + (heapGetBaseAddress - dtbRamAddr).toNat = heapRamAddr.toNat := by
    decide
  constructor
  · by_contra hover
    apply h.kernelKept _ _ _ hdtbRead (by decide)
    apply meets_of_mem Int.one_pos
    omega
  · by_contra hover
    apply h.deviceTreeBlobKept _ _ _ hendRead rfl
    apply meets_of_mem Int.one_pos
    omega

/-- A read of the loader does not reach below where it starts, nor around the address space. -/
theorem not_meets {dest a : Word} {k n : Nat} (hk : k ≤ 2 ^ 22) (hdest : dest.toNat ≤ 2 ^ 31)
    (ha : a.toNat + n ≤ dest.toNat) : ¬ Meets dest k a n := by
  rintro ⟨x, hx, hin⟩
  rw [Int.toNat_natCast, region_iff (by simp only [sdBlksz]; omega)] at hx
  rw [region_iff (by omega)] at hin
  omega

/-- Bytes below an item stay when it is loaded. -/
theorem ItemLoaded.below {dest lba a : Word} {w' : World (Controller S)}
    (h : ItemLoaded card dest lba w w') (hdest : dest.toNat ≤ 2 ^ 31) {i n : Nat} (hi : i < n)
    (ha : a.toNat + n ≤ dest.toNat) :
    w'.ram (a + BitVec.ofNat 32 i) = w.ram (a + BitVec.ofNat 32 i) := by
  have hmax := (loadedBlocks_bounds (S.medium.itemDatasz lba)).2
  apply h.frame
  have hat : Region a n (a + BitVec.ofNat 32 i) := Region.of_offset hi (by omega)
  rw [region_iff (by omega)] at hat
  rw [region_iff (by simp only [sdBlksz]; omega)]
  omega

/-- A data byte of a loaded item. -/
theorem ItemLoaded.dataByte {dest lba a : Word} {w' : World (Controller S)}
    (h : ItemLoaded card dest lba w w') (hdest : dest + BitVec.ofNat 32 sizeofItem = a)
    (hsize : sizeofItem + (S.medium.itemDatasz lba).toNat < 2 ^ 31) {i : Nat}
    (hi : i < (S.medium.itemDatasz lba).toNat) :
    w'.ram (a + BitVec.ofNat 32 i) = S.medium.byteFrom lba.toNat (sizeofItem + i) := by
  rw [← hdest, BitVec.add_assoc, ← BitVec.ofNat_add]
  apply h.byte
  rw [loadedBlocks_eq hsize, itemBlocks]
  simp only [sizeofItem, sdBlksz]
  omega

/-- Items whose data fits its regions are intact. -/
theorem ItemsLoaded.intact {wKern wDtb w' : World (Controller S)}
    (h : ItemsLoaded card imgPartLba w wKern wDtb w') (hfit : RegionsFit S.medium imgPartLba)
    {t : List Event} (ht : sdReads t = itemsRequests S.medium imgPartLba) :
    Intact S.medium imgPartLba w'.ram t := by
  have hkern := hfit.kernel
  have hdtb := hfit.deviceTreeBlob
  have haddrs : kernRamAddr.toNat = 0x2000000 ∧ dtbItemRamAddr.toNat = 0x7fffff8 ∧
      dtbRamAddr.toNat = 0x8000000 ∧ heapRamAddr.toNat = 0x10000000 := by decide
  have hheap : heapGetBaseAddress.toNat = heapRamAddr.toNat := rfl
  have hmax := fun datasz => (loadedBlocks_bounds datasz).2
  have hkernSize : sizeofItem + (S.medium.kernDatasz imgPartLba).toNat < 2 ^ 31 := by
    simp only [sizeofItem]
    omega
  have hdtbSize : sizeofItem + (S.medium.dtbDatasz imgPartLba).toNat < 2 ^ 31 := by
    simp only [sizeofItem]
    omega
  refine ⟨?_, ?_, ?_, ?_⟩
  · intro i hi
    rw [h.endItem.below (by omega) hi (by omega), h.dtb.below (by omega) hi (by omega)]
    exact h.kern.dataByte rfl hkernSize hi
  · intro i hi
    rw [h.endItem.below (by omega) hi (by omega)]
    exact h.dtb.dataByte rfl hdtbSize hi
  · intro dest lba n hread hdest
    rw [ht] at hread
    obtain ⟨k, rfl, ⟨rfl, -⟩ | ⟨rfl, hk⟩ | ⟨rfl, hk⟩⟩ := mem_itemsRequests hread
    · exact absurd rfl hdest
    · exact not_meets (hk.trans (hmax _)) (by omega) (by omega)
    · exact not_meets (hk.trans (hmax _)) (by omega) (by omega)
  · rintro dest lba n hread rfl
    rw [ht] at hread
    have hkernDest : heapGetBaseAddress ≠ kernItemRamAddr := by decide
    have hdtbDest : heapGetBaseAddress ≠ dtbItemRamAddr := by decide
    obtain ⟨k, rfl, ⟨hdest, -⟩ | ⟨hdest, -⟩ | ⟨-, hk⟩⟩ := mem_itemsRequests hread
    · exact absurd hdest hkernDest
    · exact absurd hdest hdtbDest
    · exact not_meets (hk.trans (hmax _)) (by omega) (by omega)

/-- **What is handed to the kernel is intact** exactly if, where the card passes the checks of the
loader, the kernel leaves room for the header of the device tree, and the device tree ends below
the heap. -/
theorem handsOverIntact_iff (h : Ready card w) :
    HandsOverIntact card imgPartLba w ↔
      (PassesChecks S.medium imgPartLba → RegionsFit S.medium imgPartLba) := by
  constructor
  · intro hintact hpass
    exact (hintact ((loadImageItems_returns_iff h).mpr hpass)).regionsFit
      (h.loadImageItems_ends hpass).2
  · intro hfits hreturns
    have hpass := (loadImageItems_returns_iff h).mp hreturns
    obtain ⟨⟨wKern, wDtb, hloaded⟩, hreads⟩ := h.loadImageItems_ends hpass
    exact hloaded.intact (hfits hpass) hreads

end Intact

/-! ### Two cards -/

/-- Kernel and device tree of one block each. -/
theorem handsOverIntact_iff_small : HandsOverIntact sdhcCard 0 (cardWorld (imageCard 504 504 2)) :=
  (handsOverIntact_iff (cardWorld_ready (imageCard 504 504 2))).mpr fun _ =>
    ⟨by decide, by decide⟩

/-- A card with a kernel that ends four bytes below the device tree. -/
abbrev largeKernel : Medium := (cardSetup (imageCard 0x5fffffc 504 0x30002)).medium

theorem passesChecks_large : PassesChecks largeKernel 0 where
  kernId := by decide
  kernFits := by decide
  zimageMagic := by decide
  dtbId := by decide
  dtbMagic := by decide
  endId := by decide

/-- It is accepted, and its last four bytes are handed over as the id of the device tree. -/
theorem not_handsOverIntact_large :
    ¬ HandsOverIntact sdhcCard 0 (cardWorld (imageCard 0x5fffffc 504 0x30002)) := by
  intro hintact
  have hready := cardWorld_ready (imageCard 0x5fffffc 504 0x30002)
  obtain ⟨⟨wKern, wDtb, hloaded⟩, -⟩ := hready.loadImageItems_ends passesChecks_large
  have hkern := (hintact ((loadImageItems_returns_iff hready).mpr passesChecks_large)).kernel
    0x5fffff8 (by decide)
  have hbyte : largeKernel.byteFrom (Medium.kernItemLba 0).toNat (sizeofItem + 0x5fffff8) = 0 := by
    decide
  have hid : largeKernel.byteFrom (largeKernel.dtbItemLba 0).toNat 0 = 2 := by decide
  -- the two addresses are one
  have haddr : dtbItemRamAddr + BitVec.ofNat 32 0 = kernRamAddr + BitVec.ofNat 32 0x5fffff8 := by
    decide
  have hheader : wDtb.ram (dtbItemRamAddr + BitVec.ofNat 32 0) = 2 := by
    have hpos := (loadedBlocks_bounds (largeKernel.itemDatasz (largeKernel.dtbItemLba 0))).1
    exact (hloaded.dtb.byte (Nat.mul_pos (by decide) hpos)).trans hid
  have hend : dtbItemRamAddr.toNat + 1 ≤ heapGetBaseAddress.toNat := by decide
  have hkept := hloaded.endItem.below (by decide) Nat.one_pos hend
  rw [hheader, haddr, hkern, hbyte] at hkept
  exact absurd hkept (by decide)

end RpiBld
