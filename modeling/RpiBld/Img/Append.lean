/-
RpiBld/Img/Append.lean

The image as a list of items, under any sequence of `image_append_item` calls.

`Represents img calls` says that `img` is the image of the appended items: its
size, its header, and what a walk over it finds, which steps from item to item
by the sizes in their headers as the bootloader does.  It follows from
`ImageOf img calls`, which holds of the header `build_image` starts with.  Every
call keeps that with one item more (`imageAppendItem_imageOf`), so it holds after
every call of a sequence.
-/
import RpiBld.Img.Write
import RpiBld.Boot
import Mathlib.Order.Bounds.Basic

namespace RpiBld

open Traced

/-! ### Sequences of calls -/

/-- The arguments of one call of `image_append_item`. -/
structure AppendCall where
  id : ItemId
  datasz : Nat
  data : HostMem

/-- The data that is appended. -/
def AppendCall.bytes (c : AppendCall) : List Byte := cells c.data 0 c.datasz

@[simp] theorem AppendCall.length_bytes (c : AppendCall) : c.bytes.length = c.datasz :=
  length_cells _ _ _

/-- The image `build_image` starts with. -/
def imageHead (mem : HostMem) : Block :=
  ⟨store32 (store32 mem 0 imgMagic) 4 (BitVec.ofNat 32 sizeofImage), sizeofImage⟩

/-- Calls one after the other: the image before the first of them and after each one, up to the
first that fails. -/
def imageAppendItems {η : Type} [Host η] (img : Block) : List AppendCall → HostProg η (List Block)
  | [] => pure [img]
  | c :: cs => do
    match ← imageAppendItem img c.id c.datasz c.data with
    | none => pure [img]
    | some img' =>
      let imgs ← imageAppendItems img' cs
      pure (img :: imgs)

/-! ### The representation -/

/-- The offsets of the items from `off` on, and where the walk over them ends. -/
def walkItems (mem : HostMem) (stop off : Nat) : List Nat × Nat :=
  if off < stop then
    let rest := walkItems mem stop
      (off + (sizeofItem + (load32 mem (BitVec.ofNat 64 (off + 4))).toNat))
    (off :: rest.1, rest.2)
  else ([], off)
termination_by stop - off
decreasing_by
  simp only [sizeofItem]
  omega

/-- An item as it was appended.  Its size is the least that holds the data and ends the item at the
end of a block, and it is as many blocks long as the bootloader steps over. -/
structure ItemAt (mem : HostMem) (off : Nat) (c : AppendCall) : Prop where
  aligned : sdBlksz ∣ off
  id : load32 mem (BitVec.ofNat 64 off) = c.id.code
  datasz : IsLeast {d : Nat | c.datasz ≤ d ∧ sdBlksz ∣ sizeofItem + d}
    (load32 mem (BitVec.ofNat 64 (off + 4))).toNat
  data : cells mem (BitVec.ofNat 64 (off + 8)) c.datasz = c.bytes
  nblks : bytesToBlocks (itemsz (load32 mem (BitVec.ofNat 64 (off + 4)))) * sdBlksz =
    sizeofItem + (load32 mem (BitVec.ofNat 64 (off + 4))).toNat

/-- The image of these items. -/
structure Represents (img : Block) (calls : List AppendCall) : Prop where
  imgsz : (img.imgsz.toNat : Int) = img.size
  aligned : sdBlksz ∣ img.imgsz.toNat
  magic : load32 img.mem 0 = imgMagic
  items : ∃ offs, walkItems img.mem img.imgsz.toNat sizeofImage = (offs, img.imgsz.toNat) ∧
    List.Forall₂ (ItemAt img.mem) offs calls

/-- The magic and every item of an image are unchanged. -/
structure Kept (img img' : Block) : Prop where
  magic : Agree img.mem img'.mem 0 4
  items : Agree img.mem img'.mem sizeofImage img.imgsz.toNat

/-- The bytes of the items. -/
def itemsSpan : List AppendCall → Nat
  | [] => 0
  | c :: cs => itemSpan c.datasz + itemsSpan cs

theorem itemsSpan_append (cs cs' : List AppendCall) :
    itemsSpan (cs ++ cs') = itemsSpan cs + itemsSpan cs' := by
  induction cs with
  | nil => exact (Nat.zero_add _).symm
  | cons c cs ih => rw [List.cons_append, itemsSpan, ih, itemsSpan, Nat.add_assoc]

theorem dvd_itemSpan (datasz : Nat) : sdBlksz ∣ itemSpan datasz := Nat.dvd_mul_left _ _

theorem dvd_itemsSpan (calls : List AppendCall) : sdBlksz ∣ itemsSpan calls := by
  induction calls with
  | nil => exact Nat.dvd_zero _
  | cons c cs ih => exact Nat.dvd_add (dvd_itemSpan c.datasz) ih

/-- The items from an offset on, each where the one before it ends. -/
def ItemsAt (mem : HostMem) : Nat → List AppendCall → Prop
  | _, [] => True
  | off, c :: cs => HoldsItem mem off c.id c.bytes ∧ ItemsAt mem (off + itemSpan c.datasz) cs

section Items

variable {mem mem' : HostMem} {off lo hi : Nat} {calls : List AppendCall}

theorem ItemsAt.frame (h : ItemsAt mem off calls) (hagree : Agree mem mem' lo hi) (hlo : lo ≤ off)
    (hhi : off + itemsSpan calls ≤ hi) : ItemsAt mem' off calls := by
  induction calls generalizing off with
  | nil => trivial
  | cons c cs ih =>
    obtain ⟨hitem, hrest⟩ := h
    have hspan := sizeofItem_add_le_itemSpan c.datasz
    simp only [itemsSpan] at hhi
    exact ⟨hitem.frame hagree hlo (by rw [c.length_bytes]; omega), ih hrest (by omega) (by omega)⟩

/-- One more item at the end. -/
theorem ItemsAt.concat {c : AppendCall} (h : ItemsAt mem off calls)
    (hitem : HoldsItem mem (off + itemsSpan calls) c.id c.bytes) :
    ItemsAt mem off (calls ++ [c]) := by
  induction calls generalizing off with
  | nil => exact ⟨hitem, trivial⟩
  | cons c' cs ih =>
    refine ⟨h.1, ih h.2 ?_⟩
    rwa [Nat.add_assoc]

/-- The size of an item that was appended, as its header holds it. -/
theorem HoldsItem.datasz_toNat {id : ItemId} {data : List Byte} (h : HoldsItem mem off id data)
    (hlen : itemSpan data.length < 2 ^ 32) :
    (load32 mem (BitVec.ofNat 64 (off + 4))).toNat = itemSpan data.length - sizeofItem := by
  rw [h.datasz, BitVec.toNat_ofNat, Nat.mod_eq_of_lt (by omega)]

/-- The least size that ends at a block. -/
theorem isLeast_itemSpan (datasz : Nat) :
    IsLeast {d : Nat | datasz ≤ d ∧ sdBlksz ∣ sizeofItem + d} (itemSpan datasz - sizeofItem) := by
  have hspan := sizeofItem_add_le_itemSpan datasz
  constructor
  · refine ⟨by omega, ?_⟩
    rw [Nat.add_sub_cancel' (by omega)]
    exact dvd_itemSpan datasz
  · rintro d ⟨hd, k, hk⟩
    simp only [itemSpan, sizeofItem, sdBlksz] at hk ⊢
    omega

/-- The bootloader steps over whole items. -/
theorem bytesToBlocks_itemSpan {datasz : Nat} (hlen : itemSpan datasz < 2 ^ 31) :
    bytesToBlocks (itemsz (BitVec.ofNat 32 (itemSpan datasz - sizeofItem))) * sdBlksz =
      itemSpan datasz := by
  have hspan := sizeofItem_add_le_itemSpan datasz
  obtain ⟨k, hk⟩ := dvd_itemSpan datasz
  have hsz : itemsz (BitVec.ofNat 32 (itemSpan datasz - sizeofItem)) = itemSpan datasz := by
    rw [itemsz, ← BitVec.ofNat_add, Nat.add_sub_cancel' (by omega), BitVec.toInt_ofNat',
      Int.bmod_eq_of_le (by omega) (by omega)]
  rw [hsz, bytesToBlocks, hk]
  push_cast
  rw [Int.mul_tmod_right, Int.mul_tdiv_cancel_left _ (by decide)]
  exact Int.mul_comm _ _

theorem HoldsItem.itemAt {c : AppendCall} (h : HoldsItem mem off c.id c.bytes)
    (haligned : sdBlksz ∣ off) (hlen : itemSpan c.datasz < 2 ^ 31) : ItemAt mem off c := by
  have hspan := sizeofItem_add_le_itemSpan c.datasz
  have hsz := h.datasz
  have hnat := h.datasz_toNat (by rw [c.length_bytes]; omega)
  have hdata := h.data
  rw [c.length_bytes] at hsz hnat hdata
  refine ⟨haligned, h.id, ?_, hdata, ?_⟩
  · rw [hnat]
    exact isLeast_itemSpan c.datasz
  · rw [hnat, hsz, bytesToBlocks_itemSpan hlen]
    omega

/-- The walk over the items visits them in order and ends at their end, by induction on them. -/
theorem ItemsAt.walk (h : ItemsAt mem off calls) (haligned : sdBlksz ∣ off)
    (hlen : itemsSpan calls < 2 ^ 31) :
    ∃ offs, walkItems mem (off + itemsSpan calls) off = (offs, off + itemsSpan calls) ∧
      List.Forall₂ (ItemAt mem) offs calls := by
  induction calls generalizing off with
  | nil =>
    refine ⟨[], ?_, .nil⟩
    rw [walkItems, itemsSpan, Nat.add_zero, if_neg (Nat.lt_irrefl off)]
  | cons c cs ih =>
    obtain ⟨hitem, hrest⟩ := h
    have hspan := sizeofItem_add_le_itemSpan c.datasz
    have hsz : sizeofItem = 8 := rfl
    simp only [itemsSpan] at hlen ⊢
    obtain ⟨offs, hwalk, hitems⟩ := ih hrest (Nat.dvd_add haligned (dvd_itemSpan _)) (by omega)
    have hnat := hitem.datasz_toNat (by rw [c.length_bytes]; omega)
    rw [c.length_bytes] at hnat
    have hnext : off + (sizeofItem + (load32 mem (BitVec.ofNat 64 (off + 4))).toNat) =
        off + itemSpan c.datasz := by omega
    refine ⟨off :: offs, ?_, .cons (hitem.itemAt haligned (by omega)) hitems⟩
    rw [walkItems, if_pos (by omega), hnext, ← Nat.add_assoc, hwalk]

end Items

/-! ### Appending -/

/-- An image that is used up to its end and holds these items. -/
structure ImageOf (img : Block) (calls : List AppendCall) : Prop where
  filled : Filled img (sizeofImage + itemsSpan calls)
  magic : load32 img.mem 0 = imgMagic
  items : ItemsAt img.mem sizeofImage calls

theorem ImageOf.imgsz_toNat {img : Block} {calls : List AppendCall} (h : ImageOf img calls)
    (hlen : sizeofImage + itemsSpan calls < 2 ^ 31) :
    img.imgsz.toNat = sizeofImage + itemsSpan calls := by
  rw [h.filled.imgsz, BitVec.toNat_ofNat, Nat.mod_eq_of_lt (by omega)]

theorem ImageOf.represents {img : Block} {calls : List AppendCall} (h : ImageOf img calls)
    (hlen : sizeofImage + itemsSpan calls < 2 ^ 31) : Represents img calls := by
  have hsz := h.imgsz_toNat hlen
  have hhead : sdBlksz ∣ sizeofImage := Nat.dvd_refl _
  refine ⟨?_, ?_, h.magic, ?_⟩
  · rw [hsz, h.filled.size]
  · rw [hsz]
    exact Nat.dvd_add hhead (dvd_itemsSpan calls)
  · rw [hsz]
    exact h.items.walk hhead (by omega)

theorem imageHead_imageOf (mem : HostMem) : ImageOf (imageHead mem) [] := by
  refine ⟨⟨load32_store32 (by decide), rfl⟩, ?_, trivial⟩
  have hkeep : Agree (store32 mem (BitVec.ofNat 64 0) imgMagic) (imageHead mem).mem 0 4 :=
    agree_overlay (by decide) (by decide) (.inl (le_refl 4))
  exact (hkeep.load32 (le_refl 0) (le_refl 4)).trans (load32_store32 (by decide))

section Append

variable {η : Type} [Host η] {img : Block} {calls : List AppendCall}

/-- One call: one item more, and all that was there is kept. -/
theorem imageAppendItem_imageOf (c : AppendCall) (himg : ImageOf img calls)
    (hlen : sizeofImage + itemsSpan (calls ++ [c]) < 2 ^ 31) :
    Program.Yields (imageAppendItem img c.id c.datasz c.data : HostProg η (Option Block)) fun o =>
      ∀ img' ∈ o, ImageOf img' (calls ++ [c]) ∧ Kept img img' := by
  have hspan := sizeofItem_add_le_itemSpan c.datasz
  have hsz : sizeofImage = 512 := rfl
  have hone : itemsSpan [c] = itemSpan c.datasz := Nat.add_zero _
  rw [itemsSpan_append, hone] at hlen
  have himgsz := himg.imgsz_toNat (by omega)
  have hdata : itemSpan c.datasz % 512 = 0 := Nat.mul_mod_left _ _
  have hyields := imageAppendItem_yields (η := η) c.id c.bytes himg.filled (by omega)
    (by rw [c.length_bytes]; omega) (by rw [c.length_bytes]; omega)
    (by rw [c.length_bytes]; rfl)
  rw [c.length_bytes] at hyields
  refine hyields.mono ?_
  intro o ho img' himg'
  obtain ⟨hfilled, hitem, hlow, hhigh⟩ := ho img' himg'
  refine ⟨⟨?_, ?_, ?_⟩, hlow, ?_⟩
  · rwa [itemsSpan_append, hone, ← Nat.add_assoc]
  · exact (hlow.load32 (a := 0) (le_refl 0) (le_refl 4)).trans himg.magic
  · exact (himg.items.frame hhigh (by omega) (le_refl _)).concat hitem
  · rw [himgsz]
    exact hhigh.mono (by omega) (le_refl _)

/-- The images of a sequence of calls: each holds the items appended so far, and the next one
keeps them. -/
structure ImagesOf (imgs : List Block) (img : Block) (calls cs : List AppendCall) : Prop where
  first : imgs[0]? = some img
  held : ∀ k imgk, imgs[k]? = some imgk → ImageOf imgk (calls ++ cs.take k)
  kept : ∀ k imgk img', imgs[k]? = some imgk → imgs[k + 1]? = some img' → Kept imgk img'

/-- No call, or none that succeeds. -/
theorem imagesOf_singleton (himg : ImageOf img calls) (cs : List AppendCall) :
    ImagesOf [img] img calls cs := by
  refine ⟨rfl, ?_, ?_⟩
  · intro k imgk hk
    cases k with
    | zero =>
      obtain rfl := Option.some.inj hk
      rwa [List.take_zero, List.append_nil]
    | succ k => simp at hk
  · intro k imgk img' _ hk
    simp at hk

/-- A call, and the ones after it. -/
theorem ImagesOf.cons {imgs : List Block} {img' : Block} {c : AppendCall} {cs : List AppendCall}
    (himg : ImageOf img calls) (hkept : Kept img img') (h : ImagesOf imgs img' (calls ++ [c]) cs) :
    ImagesOf (img :: imgs) img calls (c :: cs) := by
  refine ⟨rfl, ?_, ?_⟩
  · intro k imgk hk
    cases k with
    | zero =>
      obtain rfl := Option.some.inj hk
      rwa [List.take_zero, List.append_nil]
    | succ k =>
      rw [List.take_succ_cons, show calls ++ c :: cs.take k = (calls ++ [c]) ++ cs.take k by simp]
      exact h.held k imgk hk
  · intro k imgk img'' hk hk'
    cases k with
    | zero =>
      obtain rfl := Option.some.inj hk
      obtain rfl := Option.some.inj (h.first.symm.trans hk')
      exact hkept
    | succ k => exact h.kept k imgk img'' hk hk'

/-- A sequence of calls from an image of some items on. -/
theorem imageAppendItems_imagesOf (cs : List AppendCall) (himg : ImageOf img calls)
    (hlen : sizeofImage + itemsSpan (calls ++ cs) < 2 ^ 31) :
    Program.Yields (imageAppendItems img cs : HostProg η (List Block)) fun imgs =>
      ImagesOf imgs img calls cs := by
  induction cs generalizing img calls with
  | nil => exact Program.Yields.pure (imagesOf_singleton himg [])
  | cons c cs ih =>
    have happend : calls ++ c :: cs = (calls ++ [c]) ++ cs := by simp
    rw [happend] at hlen
    have hprefix : itemsSpan (calls ++ [c]) ≤ itemsSpan (calls ++ [c] ++ cs) := by
      rw [itemsSpan_append (calls ++ [c])]
      exact Nat.le_add_right _ _
    unfold imageAppendItems
    refine (imageAppendItem_imageOf c himg (by omega)).bind ?_
    rintro (_ | img') hstep
    · exact Program.Yields.pure (imagesOf_singleton himg _)
    obtain ⟨himg', hkept⟩ := hstep img' rfl
    refine (ih himg' hlen).bind fun imgs himgs => ?_
    exact Program.Yields.pure (himgs.cons himg hkept)

/-- **The image representation invariant.**  Whatever is appended to the header `build_image`
starts with, as long as the total stays below 2 GiB: after every call the image represents the
items appended so far, and the call has kept the magic and the earlier items. -/
theorem imageAppendItems_represents (mem : HostMem) (calls : List AppendCall)
    (hlen : sizeofImage + itemsSpan calls < 2 ^ 31) :
    Program.Yields (imageAppendItems (imageHead mem) calls : HostProg η (List Block)) fun imgs =>
      ∀ k img, imgs[k]? = some img →
        Represents img (calls.take k) ∧ ∀ img', imgs[k + 1]? = some img' → Kept img img' := by
  refine (imageAppendItems_imagesOf calls (imageHead_imageOf mem) hlen).mono ?_
  intro imgs himgs k img hk
  have himg := himgs.held k img hk
  have hprefix : itemsSpan (calls.take k) ≤ itemsSpan calls := by
    conv_rhs => rw [← List.take_append_drop k calls, itemsSpan_append]
    exact Nat.le_add_right _ _
  exact ⟨himg.represents (by rw [List.nil_append]; omega), fun img' => himgs.kept k img img' hk⟩

end Append

/-- Items that end just at a block, and one byte behind it. -/
theorem imageAppendItems_represents_boundary :
    let calls : List AppendCall :=
      [⟨.kernel, 504, fun _ => 1⟩, ⟨.deviceTreeBlob, 505, fun _ => 2⟩, ⟨.endItem, 0, fun _ => 0⟩]
    Program.Yields (imageAppendItems (imageHead fun _ => 0xff) calls :
        HostProg ObligingHost (List Block)) fun imgs =>
      ∀ k img, imgs[k]? = some img →
        Represents img (calls.take k) ∧ ∀ img', imgs[k + 1]? = some img' → Kept img img' :=
  imageAppendItems_represents (fun _ => 0xff) _ (by decide)

end RpiBld
