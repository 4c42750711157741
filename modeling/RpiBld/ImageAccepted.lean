/-
RpiBld/ImageAccepted.lean

Which images the loader accepts, against what a well-formed image is.

`WellFormedImage` takes the sizes in the item headers as the natural numbers
they are.  The loader computes with them in `int` and in 32-bit words: a kernel
size near 2^32 passes its overflow check, a device tree size from 2^31 - 8 on
makes it step over no or a negative number of blocks, and block numbers wrap at
the end of the card.  On all other cards it accepts well-formed images only
(`acceptsOnlyWellFormed_iff`).
-/
import RpiBld.Loading

namespace RpiBld

open Traced Controller

/-! ### Well-formed images -/

/-- A word of a block. -/
def Medium.blockWord (M : Medium) (b off : Nat) : Word := leWord fun i => M.block b (off + i)

/-- A block starts an item with this id and this data size. -/
structure ItemStarts (M : Medium) (b : Nat) (id : ItemId) (datasz : Nat) : Prop where
  onCard : b < M.capacity
  id : M.blockWord b 0 = id.code
  datasz : (M.blockWord b 4).toNat = datasz

/-- An image whose kernel and device tree have these data sizes: each item starts where the one
before it ends, the kernel fits below the device tree, and both have their magic number. -/
structure WellFormedImage (M : Medium) (imgPartLba kern dtb : Nat) : Prop where
  kernel : ItemStarts M (imgPartLba + 1) .kernel kern
  fits : kernRamAddr.toNat + kern ≤ dtbRamAddr.toNat
  zimageMagic : M.blockWord (imgPartLba + 1) (sizeofItem + zimageMagicOff.toNat) =
    RpiBld.zimageMagic
  deviceTreeBlob : ItemStarts M (imgPartLba + 1 + itemBlocks kern) .deviceTreeBlob dtb
  dtbMagic : bswap32 (M.blockWord (imgPartLba + 1 + itemBlocks kern) sizeofItem) =
    RpiBld.dtbMagic
  endItem : ∃ d, ItemStarts M (imgPartLba + 1 + itemBlocks kern + itemBlocks dtb) .endItem d

/-- One of the reads brought so many bytes from a block on to `dest`. -/
def Covers (t : List Event) (dest : Word) (b bytes : Nat) : Prop :=
  ∃ (lba : Word) (n : Nat), (dest, lba, (n : Int)) ∈ sdReads t ∧ lba.toNat = b ∧
    bytes ≤ sdBlksz * n

/-- The loader returns on a well-formed image only, with all of its kernel and device tree read. -/
def AcceptsOnlyWellFormed {S : Setup} (card : Card) (imgPartLba : Word)
    (w : World (Controller S)) : Prop :=
  (loadImageItems card imgPartLba w).result = .ok () → ∃ kern dtb,
    WellFormedImage S.medium imgPartLba.toNat kern dtb ∧
    Covers (loadImageItems card imgPartLba w).events kernItemRamAddr (imgPartLba.toNat + 1)
      (sizeofItem + kern) ∧
    Covers (loadImageItems card imgPartLba w).events dtbItemRamAddr
      (imgPartLba.toNat + 1 + itemBlocks kern) (sizeofItem + dtb)

/-- The kernel size is at most what is left below the device tree, the device tree fits an `int`,
and the card reaches up to the END item. -/
structure SizesFit (M : Medium) (imgPartLba : Word) : Prop where
  kernel : kernRamAddr.toNat + (M.kernDatasz imgPartLba).toNat ≤ dtbRamAddr.toNat
  deviceTreeBlob : sizeofItem + (M.dtbDatasz imgPartLba).toNat < 2 ^ 31
  onCard : imgPartLba.toNat + 1 + itemBlocks (M.kernDatasz imgPartLba).toNat +
    itemBlocks (M.dtbDatasz imgPartLba).toNat < M.capacity

section Accepted

variable {S : Setup} {card : Card} {w : World (Controller S)} {imgPartLba : Word}

/-! ### Where the items are -/

/-- A kernel that fits below the device tree fits an `int`. -/
theorem kern_lt {kern : Nat} (h : kernRamAddr.toNat + kern ≤ dtbRamAddr.toNat) :
    sizeofItem + kern < 2 ^ 31 := by
  have hkern : kernRamAddr.toNat = 0x2000000 := rfl
  have hdtb : dtbRamAddr.toNat = 0x8000000 := rfl
  simp only [sizeofItem]
  omega

variable {M : Medium}

theorem toNat_dtbItemLba
    (hkern : kernRamAddr.toNat + (M.kernDatasz imgPartLba).toNat ≤ dtbRamAddr.toNat)
    (h : imgPartLba.toNat + 1 + itemBlocks (M.kernDatasz imgPartLba).toNat < 2 ^ 32) :
    (M.dtbItemLba imgPartLba).toNat =
      imgPartLba.toNat + 1 + itemBlocks (M.kernDatasz imgPartLba).toNat := by
  have hlba : (Medium.kernItemLba imgPartLba).toNat = imgPartLba.toNat + 1 :=
    Medium.toNat_kernItemLba (by omega)
  have hnext := Medium.toNat_nextItemLba (M := M) (Medium.kernItemLba imgPartLba)
    (kern_lt hkern) (by rw [hlba]; exact h)
  rwa [hlba] at hnext

theorem toNat_endItemLba (h : SizesFit M imgPartLba) :
    (M.endItemLba imgPartLba).toNat = imgPartLba.toNat + 1 +
      itemBlocks (M.kernDatasz imgPartLba).toNat + itemBlocks (M.dtbDatasz imgPartLba).toNat := by
  have hcard := Medium.toNat_lt_of_capacity h.onCard
  have hlba := toNat_dtbItemLba h.kernel (by omega)
  have hnext := Medium.toNat_nextItemLba (M := M) (M.dtbItemLba imgPartLba)
    h.deviceTreeBlob (by rw [hlba]; exact hcard)
  rwa [hlba] at hnext

/-! ### The two directions -/

/-- What the loader may accept is bounded if it accepts well-formed images only. -/
theorem AcceptsOnlyWellFormed.sizesFit (haccepts : AcceptsOnlyWellFormed card imgPartLba w)
    (h : Ready card w) (hpass : PassesChecks S.medium imgPartLba) :
    SizesFit S.medium imgPartLba := by
  obtain ⟨kern, dtb, himage, -, hcovers⟩ := haccepts ((loadImageItems_returns_iff h).mpr hpass)
  have hlba : (Medium.kernItemLba imgPartLba).toNat = imgPartLba.toNat + 1 :=
    Medium.toNat_kernItemLba (Medium.toNat_lt_of_capacity himage.kernel.onCard)
  have hkern : (S.medium.kernDatasz imgPartLba).toNat = kern := by
    have hword := Medium.wordFrom_of_lt (M := S.medium) (Medium.kernItemLba imgPartLba)
      (by rw [hlba]; exact himage.kernel.onCard) 4 (by decide)
    rw [hlba] at hword
    rw [← himage.kernel.datasz]
    exact congrArg BitVec.toNat hword
  have hfits := himage.fits
  rw [← hkern] at hfits
  have hdtbCard := himage.deviceTreeBlob.onCard
  have hdtbLba := toNat_dtbItemLba hfits (by
    rw [hkern]; exact Medium.toNat_lt_of_capacity hdtbCard)
  rw [hkern] at hdtbLba
  have hdtb : (S.medium.dtbDatasz imgPartLba).toNat = dtb := by
    have hword := Medium.wordFrom_of_lt (S.medium.dtbItemLba imgPartLba)
      (by rw [hdtbLba]; exact hdtbCard) 4 (by decide)
    rw [hdtbLba] at hword
    rw [← himage.deviceTreeBlob.datasz]
    exact congrArg BitVec.toNat hword
  refine ⟨hfits, ?_, ?_⟩
  · -- a device tree that does not fit an `int` is not read beyond its first block
    by_contra hover
    obtain ⟨lba, n, hread, -, hbytes⟩ := hcovers
    rw [(h.loadImageItems_ends hpass).2] at hread
    have hkernDest : dtbItemRamAddr ≠ kernItemRamAddr := by decide
    have hheapDest : dtbItemRamAddr ≠ heapGetBaseAddress := by decide
    obtain ⟨k, hnk, ⟨hdest, -⟩ | ⟨-, hone⟩ | ⟨hdest, -⟩⟩ := mem_itemsRequests hread
    · exact absurd hdest hkernDest
    · rw [loadedBlocks_of_overflow (Nat.le_of_not_lt hover)] at hone
      rw [hdtb] at hover
      simp only [sizeofItem, sdBlksz] at hover hbytes
      omega
    · exact absurd hdest hheapDest
  · obtain ⟨d, hend⟩ := himage.endItem
    rw [hkern, hdtb]
    exact hend.onCard

/-- An image that passes the checks and whose sizes fit is well formed. -/
theorem PassesChecks.wellFormedImage (h : PassesChecks M imgPartLba)
    (hfit : SizesFit M imgPartLba) :
    WellFormedImage M imgPartLba.toNat (M.kernDatasz imgPartLba).toNat
      (M.dtbDatasz imgPartLba).toNat := by
  have hcard := hfit.onCard
  have hmax := Medium.toNat_lt_of_capacity hcard
  have hkernLba : (Medium.kernItemLba imgPartLba).toNat = imgPartLba.toNat + 1 :=
    Medium.toNat_kernItemLba (by omega)
  have hdtbLba := toNat_dtbItemLba hfit.kernel (by omega)
  have hendLba := toNat_endItemLba hfit
  have hkernWord : ∀ off, off + 4 ≤ sdBlksz → M.blockWord (imgPartLba.toNat + 1) off =
      M.wordFrom (Medium.kernItemLba imgPartLba) off := by
    intro off hoff
    rw [Medium.wordFrom_of_lt _ (by rw [hkernLba]; omega) off hoff, hkernLba]
    rfl
  have hdtbWord : ∀ off, off + 4 ≤ sdBlksz →
      M.blockWord (imgPartLba.toNat + 1 + itemBlocks (M.kernDatasz imgPartLba).toNat) off =
        M.wordFrom (M.dtbItemLba imgPartLba) off := by
    intro off hoff
    rw [Medium.wordFrom_of_lt _ (by rw [hdtbLba]; omega) off hoff, hdtbLba]
    rfl
  refine ⟨⟨by omega, ?_, ?_⟩, hfit.kernel, ?_, ⟨by omega, ?_, ?_⟩, ?_, _, ⟨hcard, ?_, rfl⟩⟩
  · rw [hkernWord 0 (by decide)]
    exact h.kernId
  · rw [hkernWord 4 (by decide)]
    rfl
  · rw [hkernWord _ (by decide)]
    exact h.zimageMagic
  · rw [hdtbWord 0 (by decide)]
    exact h.dtbId
  · rw [hdtbWord 4 (by decide)]
    rfl
  · rw [hdtbWord _ (by decide)]
    exact h.dtbMagic
  · have hendId := h.endId
    rw [Medium.itemId, Medium.wordFrom_of_lt _ (by rw [hendLba]; exact hcard) 0 (by decide),
      hendLba] at hendId
    exact hendId

/-- The reads of such an image. -/
theorem SizesFit.covers (hfit : SizesFit M imgPartLba) {t : List Event}
    (ht : sdReads t = itemsRequests M imgPartLba) :
    Covers t kernItemRamAddr (imgPartLba.toNat + 1)
        (sizeofItem + (M.kernDatasz imgPartLba).toNat) ∧
      Covers t dtbItemRamAddr
        (imgPartLba.toNat + 1 + itemBlocks (M.kernDatasz imgPartLba).toNat)
        (sizeofItem + (M.dtbDatasz imgPartLba).toNat) := by
  have hmax := Medium.toNat_lt_of_capacity hfit.onCard
  have hbytes : ∀ datasz : Word, sizeofItem + datasz.toNat < 2 ^ 31 →
      sizeofItem + datasz.toNat ≤ sdBlksz * loadedBlocks datasz := by
    intro datasz hsize
    rw [loadedBlocks_eq hsize, itemBlocks]
    simp only [sizeofItem, sdBlksz]
    omega
  constructor
  · refine ⟨_, _, ?_, Medium.toNat_kernItemLba (by omega), hbytes _ (kern_lt hfit.kernel)⟩
    rw [ht]
    exact List.mem_append_left _ (loadedBlocks_mem_itemRequests _ _ _)
  · refine ⟨_, _, ?_, toNat_dtbItemLba hfit.kernel (by omega), hbytes _ hfit.deviceTreeBlob⟩
    rw [ht]
    exact List.mem_append_right _ (List.mem_append_left _ (loadedBlocks_mem_itemRequests _ _ _))

/-- **Only well-formed images are accepted** exactly if, where the card passes the checks of the
loader, the kernel size is not near 2^32, the device tree size fits an `int`, and the items do not
reach around the end of the card. -/
theorem acceptsOnlyWellFormed_iff (h : Ready card w) :
    AcceptsOnlyWellFormed card imgPartLba w ↔
      (PassesChecks S.medium imgPartLba → SizesFit S.medium imgPartLba) := by
  constructor
  · intro haccepts hpass
    exact haccepts.sizesFit h hpass
  · intro hfits hreturns
    have hpass := (loadImageItems_returns_iff h).mp hreturns
    obtain ⟨hkern, hdtb⟩ := (hfits hpass).covers (h.loadImageItems_ends hpass).2
    exact ⟨_, _, hpass.wellFormedImage (hfits hpass), hkern, hdtb⟩

end Accepted

/-! ### Two cards -/

/-- Kernel and device tree of one block each. -/
theorem acceptsOnlyWellFormed_iff_small :
    AcceptsOnlyWellFormed sdhcCard 0 (cardWorld (imageCard 504 504 2)) :=
  (acceptsOnlyWellFormed_iff (cardWorld_ready (imageCard 504 504 2))).mpr fun _ =>
    ⟨by decide, by decide, by decide⟩

/-- A device tree that claims to have almost 4 GiB: the size of its item wraps to one byte. -/
theorem passesChecks_huge : PassesChecks (cardSetup (imageCard 504 0xfffffff9 2)).medium 0 where
  kernId := by decide
  kernFits := by decide
  zimageMagic := by decide
  dtbId := by decide
  dtbMagic := by decide
  endId := by decide

/-- It is accepted. -/
theorem not_acceptsOnlyWellFormed_huge :
    ¬ AcceptsOnlyWellFormed sdhcCard 0 (cardWorld (imageCard 504 0xfffffff9 2)) := by
  intro haccepts
  have hfits := haccepts.sizesFit (cardWorld_ready _) passesChecks_huge
  exact absurd hfits.deviceTreeBlob (by decide)

end RpiBld
