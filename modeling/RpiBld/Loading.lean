/-
RpiBld/Loading.lean

`load_image_items` on an error-free card, for every content of the card.

What the loader decides on is on the card: the ids and sizes in the item headers
and the two magic numbers.  `PassesChecks M p` are its checks, in its own 32-bit
arithmetic, on the blocks of the card instead of on RAM.  An item that is loaded
is an area of RAM with the bytes of consecutive blocks (`ItemLoaded`), as many
blocks as the loader reads (`loadedBlocks`); where the item's size does not fit
an `int` that is one block, and the next item is looked for further down.

Main results:
* `loadImageItems_returns_iff` -- the loader returns exactly if its checks pass;
* `Ready.loadsItems` -- what is in RAM then, and what was read.
-/
import RpiBld.ErrorFree

namespace RpiBld

open Traced Controller

/-! ### Sizes -/

/-- The blocks an item of this data size takes. -/
def itemBlocks (datasz : Nat) : Nat := (sizeofItem + datasz + (sdBlksz - 1)) / sdBlksz

/-- `bytes_to_blocks` rounds up. -/
theorem bytesToBlocks_natCast (n : Nat) :
    bytesToBlocks n = ((n + (sdBlksz - 1)) / sdBlksz : Nat) := by
  have hn : (0 : Int) ≤ n := Int.natCast_nonneg n
  rw [bytesToBlocks, Int.tdiv_eq_ediv_of_nonneg hn, Int.tmod_eq_emod_of_nonneg hn]
  by_cases hrem : (n : Int) % sdBlksz ≠ 0
  · rw [if_pos hrem]
    simp only [sdBlksz] at hrem ⊢
    omega
  · rw [if_neg hrem]
    simp only [sdBlksz] at hrem ⊢
    omega

/-- `itemsz` of an item that fits an `int`. -/
theorem itemsz_eq {datasz : Word} (h : sizeofItem + datasz.toNat < 2 ^ 31) :
    itemsz datasz = (sizeofItem + datasz.toNat : Nat) := by
  have hsum : (BitVec.ofNat 32 sizeofItem + datasz).toNat = sizeofItem + datasz.toNat := by
    rw [BitVec.toNat_add, BitVec.toNat_ofNat]
    simp only [sizeofItem] at h ⊢
    omega
  rw [itemsz, BitVec.toInt_eq_toNat_of_lt (by omega), hsum]

/-- `itemsz` of any other item: negative, or what is left after the sum has wrapped. -/
theorem itemsz_lt {datasz : Word} (h : 2 ^ 31 ≤ sizeofItem + datasz.toNat) :
    itemsz datasz < sizeofItem := by
  have hlt := datasz.isLt
  have hsum : (BitVec.ofNat 32 sizeofItem + datasz).toNat =
      (sizeofItem + datasz.toNat) % 2 ^ 32 := by
    rw [BitVec.toNat_add, BitVec.toNat_ofNat]
    rfl
  simp only [sizeofItem] at h hsum ⊢
  rw [itemsz, sizeofItem, BitVec.toInt_eq_toNat_cond, hsum]
  by_cases hwrap : 2 * ((8 + datasz.toNat) % 2 ^ 32) < 2 ^ 32
  · rw [if_pos hwrap]
    omega
  · rw [if_neg hwrap]
    omega

/-- The blocks `load_item` has read at the end. -/
def loadedBlocks (datasz : Word) : Nat :=
  if itemsz datasz > sdBlksz then (bytesToBlocks (itemsz datasz)).toNat else 1

theorem loadedBlocks_eq {datasz : Word} (h : sizeofItem + datasz.toNat < 2 ^ 31) :
    loadedBlocks datasz = itemBlocks datasz.toNat := by
  rw [loadedBlocks, itemsz_eq h, bytesToBlocks_natCast, Int.toNat_natCast]
  by_cases hbig : ((sizeofItem + datasz.toNat : Nat) : Int) > sdBlksz
  · rw [if_pos hbig]
    rfl
  · rw [if_neg hbig, itemBlocks]
    simp only [sizeofItem, sdBlksz] at hbig ⊢
    omega

/-- Only the first block is read of an item that does not fit an `int`. -/
theorem loadedBlocks_of_overflow {datasz : Word} (h : 2 ^ 31 ≤ sizeofItem + datasz.toNat) :
    loadedBlocks datasz = 1 := by
  have hsmall := itemsz_lt h
  rw [loadedBlocks, if_neg]
  simp only [sizeofItem, sdBlksz] at hsmall ⊢
  omega

/-- What is read of an item is at least its first block and at most 2 GiB. -/
theorem loadedBlocks_bounds (datasz : Word) :
    1 ≤ loadedBlocks datasz ∧ loadedBlocks datasz ≤ 2 ^ 22 := by
  rcases Nat.lt_or_ge (sizeofItem + datasz.toNat) (2 ^ 31) with h | h
  · rw [loadedBlocks_eq h, itemBlocks]
    simp only [sizeofItem, sdBlksz] at h ⊢
    omega
  · rw [loadedBlocks_of_overflow h]
    decide

/-- The reads of an item. -/
def itemRequests (dest lba : Word) (datasz : Word) : List (Word × Word × Int) :=
  (dest, lba, 1) ::
    if itemsz datasz > sdBlksz then [(dest, lba, (loadedBlocks datasz : Int))] else []

/-- They are all to the same place, and none is longer than what is there at the end. -/
theorem mem_itemRequests {dest lba datasz : Word} {r : Word × Word × Int}
    (h : r ∈ itemRequests dest lba datasz) :
    ∃ n : Nat, r = (dest, lba, (n : Int)) ∧ n ≤ loadedBlocks datasz := by
  have hpos := (loadedBlocks_bounds datasz).1
  rcases List.mem_cons.mp h with rfl | h
  · exact ⟨1, rfl, hpos⟩
  · split at h
    · exact ⟨loadedBlocks datasz, List.mem_singleton.mp h, Nat.le_refl _⟩
    · cases h

/-- The first block is read first. -/
theorem first_mem_itemRequests (dest lba datasz : Word) :
    (dest, lba, 1) ∈ itemRequests dest lba datasz :=
  List.mem_cons_self

/-- One of them reads all that is there at the end. -/
theorem loadedBlocks_mem_itemRequests (dest lba datasz : Word) :
    (dest, lba, (loadedBlocks datasz : Int)) ∈ itemRequests dest lba datasz := by
  unfold itemRequests
  by_cases hbig : itemsz datasz > sdBlksz
  · rw [if_pos hbig]
    exact List.mem_cons_of_mem _ (List.mem_singleton_self _)
  · have hone : loadedBlocks datasz = 1 := if_neg hbig
    rw [hone]
    exact List.mem_cons_self

/-! ### Items on a card -/

namespace Medium

variable (M : Medium)

/-- The word at an offset from the start of a block on. -/
def wordFrom (lba : Word) (off : Nat) : Word := leWord fun i => M.byteFrom lba.toNat (off + i)

/-- The id of the item that starts at a block. -/
def itemId (lba : Word) : Word := M.wordFrom lba 0

/-- The data size of the item that starts at a block. -/
def itemDatasz (lba : Word) : Word := M.wordFrom lba 4

/-- Where the loader looks for the next item. -/
def nextItemLba (lba : Word) : Word :=
  lba + BitVec.ofInt 32 (bytesToBlocks (itemsz (M.itemDatasz lba)))

/-- The first item of an image. -/
def kernItemLba (imgPartLba : Word) : Word := imgPartLba + 1

/-- The second one. -/
def dtbItemLba (imgPartLba : Word) : Word := M.nextItemLba (kernItemLba imgPartLba)

/-- The last one. -/
def endItemLba (imgPartLba : Word) : Word := M.nextItemLba (M.dtbItemLba imgPartLba)

/-- The data size of the kernel. -/
def kernDatasz (imgPartLba : Word) : Word := M.itemDatasz (kernItemLba imgPartLba)

/-- The data size of the device tree. -/
def dtbDatasz (imgPartLba : Word) : Word := M.itemDatasz (M.dtbItemLba imgPartLba)

variable {M} {lba : Word}

theorem toNat_lt_of_capacity {b : Nat} (hb : b < M.capacity) : b < 2 ^ 32 :=
  Nat.lt_of_lt_of_le hb (Nat.le_of_dvd (by decide) M.capacity_dvd)

/-- A word inside a block of the card. -/
theorem wordFrom_of_lt (lba : Word) (hlba : lba.toNat < M.capacity) (off : Nat)
    (hoff : off + 4 ≤ sdBlksz) :
    M.wordFrom lba off = leWord fun i => M.block lba.toNat (off + i) := by
  apply leWord_congr
  intro i hi
  exact byteFrom_of_lt (by omega) hlba

/-- The next item is behind this one where sizes and block numbers do not wrap. -/
theorem toNat_nextItemLba (lba : Word) (hsize : sizeofItem + (M.itemDatasz lba).toNat < 2 ^ 31)
    (hlba : lba.toNat + itemBlocks (M.itemDatasz lba).toNat < 2 ^ 32) :
    (M.nextItemLba lba).toNat = lba.toNat + itemBlocks (M.itemDatasz lba).toNat := by
  rw [nextItemLba, itemsz_eq hsize, bytesToBlocks_natCast, BitVec.ofInt_natCast, ← itemBlocks,
    BitVec.toNat_add, BitVec.toNat_ofNat, Nat.add_mod_mod, Nat.mod_eq_of_lt hlba]

theorem toNat_kernItemLba {imgPartLba : Word} (h : imgPartLba.toNat + 1 < 2 ^ 32) :
    (kernItemLba imgPartLba).toNat = imgPartLba.toNat + 1 := by
  rw [kernItemLba, BitVec.toNat_add]
  exact Nat.mod_eq_of_lt h

end Medium

/-- The checks of the loader, on the card. -/
structure PassesChecks (M : Medium) (imgPartLba : Word) : Prop where
  kernId : M.itemId (Medium.kernItemLba imgPartLba) = ItemId.kernel.code
  kernFits : kernRamAddr + M.kernDatasz imgPartLba ≤ dtbRamAddr
  zimageMagic : M.wordFrom (Medium.kernItemLba imgPartLba) (sizeofItem + zimageMagicOff.toNat) =
    RpiBld.zimageMagic
  dtbId : M.itemId (M.dtbItemLba imgPartLba) = ItemId.deviceTreeBlob.code
  dtbMagic : bswap32 (M.wordFrom (M.dtbItemLba imgPartLba) sizeofItem) = RpiBld.dtbMagic
  endId : M.itemId (M.endItemLba imgPartLba) = ItemId.endItem.code

/-! ### Loading an item -/

variable {S : Setup} {card : Card} {w w' : World (Controller S)} {dest lba : Word}

/-- An item was loaded: consecutive blocks are in RAM, and nothing else has changed. -/
structure ItemLoaded (card : Card) (dest lba : Word) (w w' : World (Controller S)) : Prop where
  ready : Ready card w'
  ram : w'.ram = overlay w.ram dest (sdBlksz * loadedBlocks (S.medium.itemDatasz lba))
    (S.medium.byteFrom lba.toNat)
  served : ∃ bs, w'.dev.served = w.dev.served ++ bs ∧
    ∀ b ∈ bs, b ∈ S.medium.blocksFrom lba.toNat (loadedBlocks (S.medium.itemDatasz lba))

/-- A byte of a loaded item. -/
theorem ItemLoaded.byte (h : ItemLoaded card dest lba w w') {j : Nat}
    (hj : j < sdBlksz * loadedBlocks (S.medium.itemDatasz lba)) :
    w'.ram (dest + BitVec.ofNat 32 j) = S.medium.byteFrom lba.toNat j := by
  have hmax := (loadedBlocks_bounds (S.medium.itemDatasz lba)).2
  rw [h.ram]
  apply overlay_offset hj
  simp only [sdBlksz]
  omega

/-- A word in its first block. -/
theorem ItemLoaded.word (h : ItemLoaded card dest lba w w') (off : Nat) (hoff : off + 4 ≤ sdBlksz) :
    load32 w'.ram (dest + BitVec.ofNat 32 off) = S.medium.wordFrom lba off := by
  have hpos := (loadedBlocks_bounds (S.medium.itemDatasz lba)).1
  apply leWord_congr
  intro i hi
  rw [BitVec.add_assoc, ← BitVec.ofNat_add]
  apply h.byte
  simp only [sdBlksz] at hoff ⊢
  omega

/-- Nothing changes elsewhere. -/
theorem ItemLoaded.frame (h : ItemLoaded card dest lba w w') {x : Word}
    (hx : ¬ Region dest (sdBlksz * loadedBlocks (S.medium.itemDatasz lba)) x) :
    w'.ram x = w.ram x := by
  rw [h.ram]
  exact overlay_of_not_region hx

/-- What the first block says about an item is what the card says. -/
theorem ReadsWell.word {r : Reading (Controller S)} (h : ReadsWell dest lba.toNat 1 w r) (off : Nat)
    (hoff : off + 4 ≤ sdBlksz) :
    load32 r.world.ram (dest + BitVec.ofNat 32 off) = S.medium.wordFrom lba off := by
  rw [h.ram]
  exact load32_overlay (by omega) (by decide)

theorem ReadsWell.check {r : Reading (Controller S)} {b n : Nat} (h : ReadsWell dest b n w r) :
    r.check.halt = none := by
  rw [Reading.check, h.result]

/-- The second read of an item, with the sizes on the card. -/
theorem itemRest_eq (card : Card) {w₁ : World (Controller S)}
    (hsize : load32 w₁.ram (dest + BitVec.ofNat 32 4) = S.medium.itemDatasz lba) :
    itemRest card dest lba w₁ =
      if itemsz (S.medium.itemDatasz lba) > sdBlksz then
        some (reading card dest lba (loadedBlocks (S.medium.itemDatasz lba) : Nat) w₁)
      else none := by
  have hload : load32 w₁.ram (dest + 4) = S.medium.itemDatasz lba := hsize
  rw [itemRest, hload]
  by_cases hbig : itemsz (S.medium.itemDatasz lba) > sdBlksz
  · have hblocks : bytesToBlocks (itemsz (S.medium.itemDatasz lba)) =
        (loadedBlocks (S.medium.itemDatasz lba) : Nat) := by
      -- a size that wraps around does not call for a second read
      have hfits : sizeofItem + (S.medium.itemDatasz lba).toNat < 2 ^ 31 := by
        by_contra hover
        have hsmall := itemsz_lt (Nat.le_of_not_lt hover)
        simp only [sizeofItem, sdBlksz] at hsmall hbig
        omega
      rw [loadedBlocks_eq hfits, itemsz_eq hfits, bytesToBlocks_natCast, itemBlocks]
    simp only [if_pos hbig, hblocks]
  · simp only [if_neg hbig]

/-- The first blocks of an area. -/
theorem Medium.blocksFrom_subset {M : Medium} {b n k : Nat} (hnk : n ≤ k) :
    M.blocksFrom b n ⊆ M.blocksFrom b k := by
  have hsplit := M.blocksFrom_append b n (k - n)
  rw [Nat.add_sub_cancel' hnk] at hsplit
  rw [← hsplit]
  exact List.subset_append_left _ _

/-- `load_item` on an error-free card: the item is loaded, its id decides, and these are the
reads. -/
theorem Ready.loadsItem (h : Ready card w) (dest : Word) (haligned : addressAligned dest 4 = true)
    (id : ItemId) (lba : Word) :
    ItemLoaded card dest lba w (itemWorld card dest lba w) ∧
      (failure (itemChecks card id dest lba w) = none ↔ S.medium.itemId lba = id.code) ∧
      (itemChecks card id dest lba w).filterMap Check.read =
        itemRequests dest lba (S.medium.itemDatasz lba) := by
  obtain ⟨hpos, hmax⟩ := loadedBlocks_bounds (S.medium.itemDatasz lba)
  obtain ⟨first, hread, hrequest, hfirst, hready⟩ : ∃ r, RpiBld.reading card dest lba 1 w = r ∧
      r.check.read = some (dest, lba, 1) ∧ ReadsWell dest lba.toNat 1 w r ∧ Ready card r.world :=
    ⟨_, rfl, rfl, h.reading haligned lba (n := 1) (by decide)⟩
  have hid : load32 first.world.ram dest = S.medium.itemId lba := by
    have hword := hfirst.word 0 (by decide)
    rwa [BitVec.add_zero] at hword
  have hrest := itemRest_eq card (hfirst.word 4 (by decide))
  unfold itemWorld itemChecks
  simp only [hread]
  rw [hrest, hid]
  by_cases hbig : itemsz (S.medium.itemDatasz lba) > sdBlksz
  · -- the whole item is read over its first block
    obtain ⟨hsecond, hready'⟩ := hready.reading haligned lba
      (n := loadedBlocks (S.medium.itemDatasz lba)) (by simp only [sdBlksz]; omega)
    rw [if_pos hbig]
    refine ⟨⟨hready', ?_, ?_⟩, ?_, ?_⟩
    · refine hsecond.ram.trans ?_
      rw [hfirst.ram]
      exact overlay_overlay_self (Nat.mul_le_mul_left _ hpos)
    · refine ⟨S.medium.blocksFrom lba.toNat 1 ++
        S.medium.blocksFrom lba.toNat (loadedBlocks (S.medium.itemDatasz lba)), ?_, ?_⟩
      · refine hsecond.served.trans ?_
        rw [hfirst.served, List.append_assoc]
      · intro b hb
        rcases List.mem_append.mp hb with hb | hb
        · exact Medium.blocksFrom_subset hpos hb
        · exact hb
    · rw [failure_eq_none_iff]
      simp only [Option.map_some, Option.toList_some, List.forall_mem_append, List.forall_mem_cons,
        hfirst.check, hsecond.check, testItem_halt_iff]
      simp
    · rw [itemRequests, if_pos hbig]
      simp only [Option.map_some, Option.toList_some, List.filterMap_append, List.filterMap_cons,
        List.filterMap_nil, hrequest]
      rfl
  · -- the first block is the whole item
    have hone : loadedBlocks (S.medium.itemDatasz lba) = 1 := if_neg hbig
    rw [if_neg hbig]
    refine ⟨⟨hready, ?_, ?_⟩, ?_, ?_⟩
    · rw [hone]
      exact hfirst.ram
    · rw [hone]
      exact ⟨_, hfirst.served, fun b hb => hb⟩
    · rw [failure_eq_none_iff]
      simp only [Option.map_none, Option.toList_none, List.forall_mem_append, List.forall_mem_cons,
        hfirst.check, testItem_halt_iff]
      simp
    · rw [itemRequests, if_neg hbig]
      simp only [Option.map_none, Option.toList_none, List.filterMap_append, List.filterMap_cons,
        List.filterMap_nil, hrequest]
      rfl

/-! ### Loading an image -/

/-- The items of an image were loaded, one after the other. -/
structure ItemsLoaded (card : Card) (imgPartLba : Word) (w wKern wDtb w' : World (Controller S)) :
    Prop where
  kern : ItemLoaded card kernItemRamAddr (Medium.kernItemLba imgPartLba) w wKern
  dtb : ItemLoaded card dtbItemRamAddr (S.medium.dtbItemLba imgPartLba) wKern wDtb
  endItem : ItemLoaded card heapGetBaseAddress (S.medium.endItemLba imgPartLba) wDtb w'

/-- The reads of an image. -/
def itemsRequests (M : Medium) (imgPartLba : Word) : List (Word × Word × Int) :=
  itemRequests kernItemRamAddr (Medium.kernItemLba imgPartLba) (M.kernDatasz imgPartLba) ++
    (itemRequests dtbItemRamAddr (M.dtbItemLba imgPartLba) (M.dtbDatasz imgPartLba) ++
      itemRequests heapGetBaseAddress (M.endItemLba imgPartLba)
        (M.itemDatasz (M.endItemLba imgPartLba)))

variable {imgPartLba : Word}

/-- Each read of an image is one of an item. -/
theorem mem_itemsRequests {M : Medium} {n : Int} (h : (dest, lba, n) ∈ itemsRequests M imgPartLba) :
    ∃ k : Nat, n = k ∧ ((dest = kernItemRamAddr ∧ k ≤ loadedBlocks (M.kernDatasz imgPartLba)) ∨
      (dest = dtbItemRamAddr ∧ k ≤ loadedBlocks (M.dtbDatasz imgPartLba)) ∨
      (dest = heapGetBaseAddress ∧ k ≤ loadedBlocks (M.itemDatasz (M.endItemLba imgPartLba)))) := by
  rcases List.mem_append.mp h with h | h
  · obtain ⟨k, hreq, hk⟩ := mem_itemRequests h
    cases hreq
    exact ⟨k, rfl, .inl ⟨rfl, hk⟩⟩
  rcases List.mem_append.mp h with h | h
  · obtain ⟨k, hreq, hk⟩ := mem_itemRequests h
    cases hreq
    exact ⟨k, rfl, .inr (.inl ⟨rfl, hk⟩)⟩
  · obtain ⟨k, hreq, hk⟩ := mem_itemRequests h
    cases hreq
    exact ⟨k, rfl, .inr (.inr ⟨rfl, hk⟩)⟩

/-- The LBA of the next item, from the header in RAM. -/
theorem ItemLoaded.next (h : ItemLoaded card dest lba w w') :
    lba + loadedNblks w'.ram dest = S.medium.nextItemLba lba := by
  have hload : load32 w'.ram (dest + 4) = S.medium.itemDatasz lba := h.word 4 (by decide)
  rw [loadedNblks, hload]
  rfl

theorem failure_append_eq_none_iff {cs cs' : List Check} :
    failure (cs ++ cs') = none ↔ failure cs = none ∧ failure cs' = none := by
  rw [failure_append, Option.or_eq_none_iff]

theorem kernelChecks_pass_iff
    (h : ItemLoaded card kernItemRamAddr (Medium.kernItemLba imgPartLba) w w') :
    failure (kernelChecks w'.ram) = none ↔
      kernRamAddr + S.medium.kernDatasz imgPartLba ≤ dtbRamAddr ∧
        S.medium.wordFrom (Medium.kernItemLba imgPartLba) (sizeofItem + zimageMagicOff.toNat) =
          zimageMagic := by
  have hdatasz : load32 w'.ram (kernItemRamAddr + 4) = S.medium.kernDatasz imgPartLba :=
    h.word 4 (by decide)
  have hmagic : load32 w'.ram (kernRamAddr + zimageMagicOff) =
      S.medium.wordFrom (Medium.kernItemLba imgPartLba) (sizeofItem + zimageMagicOff.toNat) :=
    h.word (sizeofItem + zimageMagicOff.toNat) (by decide)
  rw [failure_eq_none_iff, kernelChecks, hdatasz, hmagic]
  simp only [List.forall_mem_cons, test_halt_iff]
  simp

theorem deviceTreeBlobChecks_pass_iff
    (h : ItemLoaded card dtbItemRamAddr (S.medium.dtbItemLba imgPartLba) w w') :
    failure (deviceTreeBlobChecks w'.ram) = none ↔
      bswap32 (S.medium.wordFrom (S.medium.dtbItemLba imgPartLba) sizeofItem) = dtbMagic := by
  have hmagic : load32 w'.ram dtbRamAddr =
      S.medium.wordFrom (S.medium.dtbItemLba imgPartLba) sizeofItem :=
    h.word sizeofItem (by decide)
  rw [failure_eq_none_iff, deviceTreeBlobChecks, hmagic]
  simp only [List.forall_mem_cons, test_halt_iff]
  simp

/-- The items one after the other, each from where the one before says. -/
theorem Ready.loadsItems (h : Ready card w) (imgPartLba : Word) :
    (∃ wKern wDtb, ItemsLoaded card imgPartLba w wKern wDtb (itemsWorld card imgPartLba w)) ∧
      (failure (itemsChecks card imgPartLba w) = none ↔ PassesChecks S.medium imgPartLba) ∧
      (itemsChecks card imgPartLba w).filterMap Check.read =
        itemsRequests S.medium imgPartLba := by
  obtain ⟨hkern, hkernId, hkernReads⟩ := h.loadsItem kernItemRamAddr (by decide) .kernel
    (Medium.kernItemLba imgPartLba)
  obtain ⟨hdtb, hdtbId, hdtbReads⟩ := hkern.ready.loadsItem dtbItemRamAddr (by decide)
    .deviceTreeBlob (S.medium.dtbItemLba imgPartLba)
  obtain ⟨hend, hendId, hendReads⟩ := hdtb.ready.loadsItem heapGetBaseAddress (by decide)
    .endItem (S.medium.endItemLba imgPartLba)
  have hkernLba : imgPartLba + 1 = Medium.kernItemLba imgPartLba := rfl
  have hdtbLba := hkern.next
  have hendLba := hdtb.next
  rw [← Medium.dtbItemLba] at hdtbLba
  rw [← Medium.endItemLba] at hendLba
  unfold itemsChecks itemsWorld
  simp only [hkernLba, hdtbLba, hendLba]
  refine ⟨⟨_, _, hkern, hdtb, hend⟩, ?_, ?_⟩
  · simp only [failure_append_eq_none_iff]
    rw [hkernId, kernelChecks_pass_iff hkern, hdtbId, deviceTreeBlobChecks_pass_iff hdtb, hendId]
    constructor
    · rintro ⟨hid, ⟨hfits, hzimage⟩, hid', hmagic, hid''⟩
      exact ⟨hid, hfits, hzimage, hid', hmagic, hid''⟩
    · intro hpass
      exact ⟨hpass.kernId, ⟨hpass.kernFits, hpass.zimageMagic⟩, hpass.dtbId, hpass.dtbMagic,
        hpass.endId⟩
  · have hkernel : ∀ ram, (kernelChecks ram).filterMap Check.read = [] := fun _ => rfl
    have hdtbBlob : ∀ ram, (deviceTreeBlobChecks ram).filterMap Check.read = [] := fun _ => rfl
    simp only [List.filterMap_append, hkernel, hdtbBlob, hkernReads, hdtbReads, hendReads,
      List.nil_append]
    rfl

/-- **The loader returns exactly if its checks pass**, whatever the card holds. -/
theorem loadImageItems_returns_iff (h : Ready card w) :
    (loadImageItems card imgPartLba w).result = .ok () ↔ PassesChecks S.medium imgPartLba := by
  have hperforms : Performs (loadImageItems card imgPartLba) (itemsChecks card imgPartLba w) () w
      (itemsWorld card imgPartLba w) := loadImageItems_performs imgPartLba
  obtain ⟨-, hpass, -⟩ := h.loadsItems imgPartLba
  rw [← hpass, hperforms.result]
  cases failure (itemsChecks card imgPartLba w) with
  | none => simp
  | some x => simp

/-- Where all checks pass, all are reached. -/
theorem reached_of_passed {cs : List Check} (h : failure cs = none) : reached cs = cs := by
  induction cs with
  | nil => rfl
  | cons c cs ih =>
    rw [failure_eq_none_iff, List.forall_mem_cons] at h
    have hrest : failure cs = none := failure_eq_none_iff.mpr h.2
    rw [reached, h.1, ih hrest]
    rfl

/-- What is in RAM when the loader returns, and what it has read. -/
theorem Ready.loadImageItems_ends (h : Ready card w) (hpass : PassesChecks S.medium imgPartLba) :
    (∃ wKern wDtb, ItemsLoaded card imgPartLba w wKern wDtb
        (loadImageItems card imgPartLba w).state) ∧
      sdReads (loadImageItems card imgPartLba w).events =
        itemsRequests S.medium imgPartLba := by
  have hperforms : Performs (loadImageItems card imgPartLba) (itemsChecks card imgPartLba w) () w
      (itemsWorld card imgPartLba w) := loadImageItems_performs imgPartLba
  obtain ⟨hloaded, hiff, hreads⟩ := h.loadsItems imgPartLba
  have hnone := hiff.mpr hpass
  rw [hperforms.state hnone, hperforms.reads, reached_of_passed hnone]
  exact ⟨hloaded, hreads⟩

/-! ### A card -/

/-- A card with an image from block 0 on: a kernel of this size, a device tree of this size from
a block of its own on, and zeros. -/
def imageCard (kern dtb : Word) (dtbLba b j : Nat) : Byte :=
  let header (id : ItemId) (datasz : Word) : Byte :=
    if j < 4 then leByte id.code j else leByte datasz (j - 4)
  if b = 1 then
    if j < sizeofItem then header .kernel kern
    else if 44 ≤ j ∧ j < 48 then leByte zimageMagic (j - 44)
    else 0
  else if b = dtbLba then
    if j < sizeofItem then header .deviceTreeBlob dtb
    else if j < 12 then leByte (bswap32 dtbMagic) (j - 8)
    else 0
  else 0

end RpiBld
