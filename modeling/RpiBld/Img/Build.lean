/-
RpiBld/Img/Build.lean

What `build_image` builds.

`HoldsImage mem kern dtb` is the image format, as a statement on bytes: the
header, and behind it an item for the kernel, one for the device tree and the
END item, each from the start of a block on.  The bytes that pad an item are
left open.  `buildImage_yields` says that this is what `build_image` leaves
in memory.

An item is appended behind the image's end, which is where the `imgsz` field of
the image says; so one appended item leaves all of the image alone but that
field (`imageAppendAtEnd_holdsItem`).
-/
import RpiBld.Img.Imager

namespace RpiBld

open Traced

/-! ### The layout of an image -/

/-- The bytes an item takes in an image: its header and its data, up to the next block. -/
def itemSpan (datasz : Nat) : Nat := (sizeofItem + datasz + (sdBlksz - 1)) / sdBlksz * sdBlksz

/-- The bytes of an image. -/
def imageSpan (kern dtb : Nat) : Nat := sizeofImage + itemSpan kern + itemSpan dtb + itemSpan 0

/-- An item with these contents starts at offset `off`. -/
structure HoldsItem (mem : HostMem) (off : Nat) (id : ItemId) (data : List Byte) : Prop where
  id : load32 mem (BitVec.ofNat 64 off) = id.code
  datasz : load32 mem (BitVec.ofNat 64 (off + 4)) =
    BitVec.ofNat 32 (itemSpan data.length - sizeofItem)
  data : cells mem (BitVec.ofNat 64 (off + 8)) data.length = data

/-- An image of this kernel and this device tree. -/
structure HoldsImage (mem : HostMem) (kern dtb : List Byte) : Prop where
  magic : load32 mem 0 = imgMagic
  imgsz : load32 mem 4 = BitVec.ofNat 32 (imageSpan kern.length dtb.length)
  kernel : HoldsItem mem sizeofImage .kernel kern
  deviceTreeBlob : HoldsItem mem (sizeofImage + itemSpan kern.length) .deviceTreeBlob dtb
  endItem : HoldsItem mem (sizeofImage + itemSpan kern.length + itemSpan dtb.length) .endItem []

theorem sizeofItem_add_le_itemSpan (datasz : Nat) : sizeofItem + datasz ≤ itemSpan datasz := by
  simp only [itemSpan, sizeofItem, sdBlksz]
  omega

/-- The imager computes an item's size in `int` and `size_t`; for any file that fits an
`int` with some room to spare the conversions cancel out. -/
theorem dataszAfterPad_eq {datasz : Nat} (h : datasz < 2 ^ 31 - 512) :
    dataszAfterPad datasz = (itemSpan datasz : Int) - sizeofItem := by
  have hsum : cInt (cSizeT (sizeofItem + datasz)) = sizeofItem + datasz := by
    simp only [cInt, cSizeT, sizeofItem]
    omega
  have hround : roundUpMultiple (sizeofItem + datasz) sdBlksz = cInt (itemSpan datasz) := by
    rw [roundUpMultiple, Int.tmod_eq_emod_of_nonneg (by omega)]
    by_cases hmod : ((sizeofItem : Int) + datasz) % sdBlksz = 0
    · rw [if_neg (not_not.mpr hmod)]
      simp only [cInt, itemSpan, sizeofItem, sdBlksz] at hmod ⊢
      omega
    · rw [if_pos hmod]
      simp only [cInt, itemSpan, sizeofItem, sdBlksz] at hmod ⊢
      omega
  rw [dataszAfterPad, hsum, hround]
  simp only [cInt, cSizeT, itemSpan, sizeofItem, sdBlksz]
  omega

theorem HoldsItem.frame {mem mem' : HostMem} {lo hi off : Nat} {id : ItemId} {data : List Byte}
    (hitem : HoldsItem mem off id data) (h : Agree mem mem' lo hi) (hlo : lo ≤ off)
    (hhi : off + sizeofItem + data.length ≤ hi) : HoldsItem mem' off id data := by
  have hsz : sizeofItem = 8 := rfl
  refine ⟨(h.load32 hlo (by omega)).trans hitem.id,
    (h.load32 (by omega) (by omega)).trans hitem.datasz, ?_⟩
  apply cells_eq_iff.mpr
  intro i hi'
  rw [← cells_eq_iff.mp hitem.data i hi', ← BitVec.ofNat_add]
  exact h _ (by omega) (by omega)

/-! ### Appending an item -/

section Append

variable {img : Block} {off : Nat} {data : List Byte} {src : HostMem}

/-- One more item at the end of an image of `off` bytes: the item is there, and of the rest
only `imgsz` changes. -/
theorem imageAppendAtEnd_holdsItem (id : ItemId) (hoff : img.imgsz = BitVec.ofNat 32 off)
    (hlo : 8 ≤ off) (hfit : off + itemSpan data.length < 2 ^ 32) (hlen : data.length < 2 ^ 31 - 512)
    (hsrc : cells src 0 data.length = data) :
    let img' := imageAppendAtEnd img id data.length src
    img'.imgsz = BitVec.ofNat 32 (off + itemSpan data.length) ∧
      HoldsItem img'.mem off id data ∧ Agree img.mem img'.mem 0 4 ∧
      Agree img.mem img'.mem 8 off := by
  have hspan := sizeofItem_add_le_itemSpan data.length
  have hsz : sizeofItem = 8 := rfl
  have hend : img.imgsz.zeroExtend 64 = BitVec.ofNat 64 off := by
    apply BitVec.eq_of_toNat_eq
    rw [hoff, BitVec.zeroExtend, BitVec.toNat_setWidth, BitVec.toNat_ofNat, BitVec.toNat_ofNat]
    omega
  have hcount : (cSizeT data.length).toNat = data.length := by
    simp only [cSizeT]
    omega
  -- the memory after each of the four writes
  let mem1 := store32 img.mem (BitVec.ofNat 64 off) id.code
  let mem2 := store32 mem1 (BitVec.ofNat 64 (off + 4))
    (BitVec.ofInt 32 (dataszAfterPad data.length))
  let mem3 := overlay mem2 (BitVec.ofNat 64 (off + 8)) data.length fun i => src (BitVec.ofNat 64 i)
  let mem4 := store32 mem3 (BitVec.ofNat 64 4)
    (load32 mem3 (BitVec.ofNat 64 4) + BitVec.ofInt 32 (sizeofItem + dataszAfterPad data.length))
  have himg : imageAppendAtEnd img id data.length src = { img with mem := mem4 } := by
    have hdata : (if (data.length : Int) ≠ 0 then
        overlay mem2 (BitVec.ofNat 64 (off + 8)) (cSizeT data.length).toNat
          fun i => src (BitVec.ofNat 64 i) else mem2) = mem3 := by
      by_cases h0 : data.length = 0
      · rw [if_neg (by omega)]
        show mem2 = overlay mem2 _ data.length _
        rw [h0, overlay_zero]
      · rw [if_pos (by omega), hcount]
    simp only [imageAppendAtEnd, hend]
    rw [show (4 : BitVec 64) = BitVec.ofNat 64 4 from rfl, show (8 : BitVec 64) = BitVec.ofNat 64 8
      from rfl, ← BitVec.ofNat_add, ← BitVec.ofNat_add, hdata]
  -- what each of the writes leaves alone
  have h01 : ∀ {lo hi : Nat}, hi ≤ off ∨ off + 4 ≤ lo → hi ≤ 2 ^ 64 → Agree img.mem mem1 lo hi :=
    fun hout hhi => agree_overlay (by omega) hhi hout
  have h12 : ∀ {lo hi : Nat}, hi ≤ off + 4 ∨ off + 8 ≤ lo → hi ≤ 2 ^ 64 → Agree mem1 mem2 lo hi :=
    fun hout hhi => agree_overlay (by omega) hhi (by omega)
  have h23 : ∀ {lo hi : Nat}, hi ≤ off + 8 → Agree mem2 mem3 lo hi :=
    fun hhi => agree_overlay (by omega) (by omega) (by omega)
  have h34 : ∀ lo hi : Nat, hi ≤ 4 ∨ 8 ≤ lo → hi ≤ 2 ^ 64 → Agree mem3 mem4 lo hi :=
    fun lo hi hout hhi => agree_overlay (by omega) hhi hout
  have hkeep : ∀ lo hi : Nat, hi ≤ off → Agree img.mem mem3 lo hi := fun lo hi hhi =>
    ((h01 (by omega) (by omega)).trans (h12 (by omega) (by omega))).trans (h23 (by omega))
  rw [himg]
  refine ⟨?_, ⟨?_, ?_, ?_⟩, ?_, ?_⟩
  · -- `imgsz`
    show load32 mem4 (BitVec.ofNat 64 4) = _
    rw [load32_store32 (by decide), (hkeep 0 8 hlo).load32 (by omega) (by omega)]
    rw [show load32 img.mem (BitVec.ofNat 64 4) = _ from hoff, dataszAfterPad_eq hlen]
    rw [show (sizeofItem : Int) + (itemSpan data.length - sizeofItem) = (itemSpan data.length : Nat)
      by omega, BitVec.ofInt_natCast, ← BitVec.ofNat_add]
  · -- `id`
    have h : Agree mem1 mem4 off (off + 4) :=
      ((h12 (by omega) (by omega)).trans (h23 (by omega))).trans (h34 _ _ (by omega) (by omega))
    exact (h.load32 (by omega) (by omega)).trans (load32_store32 (by decide))
  · -- `datasz`
    have h : Agree mem2 mem4 (off + 4) (off + 8) :=
      (h23 (by omega)).trans (h34 _ _ (by omega) (by omega))
    refine (h.load32 (by omega) (by omega)).trans ((load32_store32 (by decide)).trans ?_)
    rw [dataszAfterPad_eq hlen, ← Nat.cast_sub (by omega), BitVec.ofInt_natCast]
  · -- `data`
    apply cells_eq_iff.mpr
    intro i hi
    rw [← BitVec.ofNat_add]
    refine (h34 (off + 8) (off + 8 + data.length) (by omega) (by omega) _ (by omega)
      (by omega)).trans ?_
    refine (overlay_ofNat_of_mem (by omega) (by omega)).trans ?_
    rw [← cells_eq_iff.mp hsrc i hi, show off + 8 + i - (off + 8) = i by omega]
    simp
  · exact (hkeep _ _ (by omega)).trans (h34 _ _ (by omega) (by omega))
  · exact (hkeep _ _ (by omega)).trans (h34 _ _ (by omega) (by omega))

end Append

/-! ### Building an image -/

/-- A block that is used up to its end: `imgsz` says where that is. -/
structure Filled (img : Block) (off : Nat) : Prop where
  imgsz : img.imgsz = BitVec.ofNat 32 off
  size : img.size = off

section Build

variable {η : Type} [Host η] {files : Files}

theorem malloc_yields (size : Int) :
    Program.Yields (malloc size : HostProg η (Option Block)) fun o => ∀ b ∈ o, b.size = size := by
  refine (Program.Yields.true _).bind fun mem _ => Program.Yields.pure ?_
  intro b hb
  obtain ⟨_, -, rfl⟩ := Option.mem_map.mp hb
  rfl

/-- `realloc` to a larger block keeps the old one. -/
theorem realloc_yields {img : Block} {off : Nat} {size : Int} (hsize : img.size = off)
    (hoff : (off : Int) ≤ size) (hmax : off ≤ 2 ^ 64) :
    Program.Yields (realloc img size : HostProg η (Option Block))
      fun o => ∀ img' ∈ o, img'.size = size ∧ Agree img.mem img'.mem 0 off := by
  refine (Program.Yields.true _).bind fun mem _ => Program.Yields.pure ?_
  intro img' himg'
  obtain ⟨junk, -, rfl⟩ := Option.mem_map.mp himg'
  refine ⟨rfl, fun x _ hx => ?_⟩
  have hmin : (min img.size size).toNat = off := by
    rw [hsize, min_eq_left hoff, Int.toNat_natCast]
  dsimp only
  rw [hmin, show (0 : BitVec 64) = BitVec.ofNat 64 0 from rfl,
    overlay_ofNat_of_mem (by omega) ⟨Nat.zero_le x, by omega⟩, Nat.sub_zero]

/-- `image_append_item`: the image has one item more. -/
theorem imageAppendItem_yields {img : Block} {off : Nat} (id : ItemId) (data : List Byte)
    {src : HostMem} (himg : Filled img off) (hlo : 8 ≤ off)
    (hfit : off + itemSpan data.length < 2 ^ 32) (hlen : data.length < 2 ^ 31 - 512)
    (hsrc : cells src 0 data.length = data) :
    Program.Yields (imageAppendItem img id data.length src : HostProg η (Option Block)) fun o =>
      ∀ img' ∈ o, Filled img' (off + itemSpan data.length) ∧ HoldsItem img'.mem off id data ∧
        Agree img.mem img'.mem 0 4 ∧ Agree img.mem img'.mem 8 off := by
  have hspan := sizeofItem_add_le_itemSpan data.length
  have hsize : cSizeT (img.imgsz.toNat + (sizeofItem + dataszAfterPad data.length)) =
      (off + itemSpan data.length : Nat) := by
    rw [himg.imgsz, BitVec.toNat_ofNat, Nat.mod_eq_of_lt (by omega), dataszAfterPad_eq hlen]
    simp only [cSizeT]
    omega
  rw [imageAppendItem, hsize]
  refine (realloc_yields himg.size (by omega) (by omega)).bind ?_
  rintro (_ | img1) himg1
  · exact (Program.Yields.true _).bind fun _ _ => Program.Yields.pure (by simp)
  obtain ⟨hsize1, hkeep⟩ := himg1 img1 rfl
  have hoff1 : img1.imgsz = BitVec.ofNat 32 off :=
    (hkeep.load32 (a := 4) (by omega) (by omega)).trans himg.imgsz
  obtain ⟨himgsz, hitem, hlow, hhigh⟩ := imageAppendAtEnd_holdsItem id hoff1 hlo hfit hlen hsrc
  apply Program.Yields.pure
  rintro _ ⟨⟩
  exact ⟨⟨himgsz, hsize1⟩, hitem, (hkeep.mono (by omega) (by omega)).trans hlow,
    (hkeep.mono (by omega) (by omega)).trans hhigh⟩

/-! ### Reading a file -/

/-- The read loop, by induction on what is left of the file: however short the reads are,
what has been read is a beginning of the file. -/
theorem fileReadLoop_yields (fpath : String) (content : List Byte) (hlen : content.length < 2 ^ 31)
    (left : Nat) : ∀ (block : Block) (cur : Nat), content.length - cur = left →
      cur ≤ content.length →
      (∀ i, ∀ h : i < content.length, i < cur → block.mem (BitVec.ofNat 64 i) = content[i]) →
      Program.Yields (fileReadLoop fpath content block cur : HostProg η (Option Block)) fun o =>
        ∀ block' ∈ o, cells block'.mem 0 content.length = content := by
  induction left using Nat.strong_induction_on with
  | _ left ih =>
    intro block cur hleft hcur hread
    rw [fileReadLoop]
    refine (Program.Yields.true _).bind ?_
    rintro (_ | ⟨n, hle, heof⟩) -
    · exact (Program.Yields.true _).bind fun _ _ => Program.Yields.pure (by simp)
    dsimp only
    split
    · next hn =>
      refine Program.Yields.ite ?_ ?_
      · intro _
        exact Program.Yields.halt _
      intro _
      refine ih (content.length - (cur + n)) (by omega) _ _ rfl (by omega) ?_
      intro i hi hi'
      dsimp only
      -- read before, or just now
      rcases Nat.lt_or_ge i cur with hlt | hge
      · rw [overlay_ofNat_of_not_mem (by omega) (by omega) (.inl hlt), hread i hi hlt]
      · rw [overlay_ofNat_of_mem (by omega) ⟨hge, hi'⟩, Nat.add_sub_cancel' hge]
        simp [hi]
    · next hn =>
      -- nothing was read, so nothing is left
      have hend : cur = content.length := by
        have := heof (by omega)
        simp only [rdwrSz] at this
        omega
      apply Program.Yields.pure
      rintro _ ⟨⟩
      apply cells_eq_iff.mpr
      intro i hi
      rw [show (0 : BitVec 64) = BitVec.ofNat 64 0 from rfl, ← BitVec.ofNat_add, Nat.zero_add]
      exact hread i hi (by omega)

/-- `filesz`: the size of the file, cut to an `int`. -/
theorem filesz_gives (fpath : String) : Program.Gives (filesz files fpath : HostProg η Int)
    fun fsz => fsz = -1 ∨ fsz = cInt (files fpath).length := by
  refine Program.Gives.bind (P := fun _ => True) (Program.Gives.change fun _ => trivial) ?_
  intro ok _
  apply Program.Gives.ite
  · intro _
    exact Program.Gives.pure (.inr rfl)
  · intro _
    exact Program.Gives.pure (.inl rfl)

/-- `file_read`: all of the file. -/
theorem fileRead_yields (fpath : String) (hlen : (files fpath).length < 2 ^ 31) :
    Program.Yields (fileRead files fpath : HostProg η (Option (Block × Int))) fun o =>
      ∀ p ∈ o, p.2 = (files fpath).length ∧
        cells p.1.mem 0 (files fpath).length = files fpath := by
  refine (Program.Yields.true _).bind ?_
  intro opened _
  refine Program.Yields.ite ?_ ?_
  · intro _
    exact (Program.Yields.true _).bind fun _ _ => Program.Yields.pure (by simp)
  intro _
  -- below 2 GiB the size is not cut
  have hint : cInt (files fpath).length = (files fpath).length := by
    simp only [cInt]
    omega
  refine (filesz_gives fpath).yields.bind ?_
  intro fsz hfsz
  rw [hint] at hfsz
  refine Program.Yields.ite ?_ ?_
  · intro _
    exact (Program.Yields.true _).bind fun _ _ => Program.Yields.pure (by simp)
  intro hne
  refine (Program.Yields.true _).bind ?_
  rintro (_ | mem) -
  · exact (Program.Yields.true _).bind fun _ _ => Program.Yields.pure (by simp)
  refine (fileReadLoop_yields fpath (files fpath) hlen _ mem 0 rfl (by omega) (by omega)).bind ?_
  intro o ho
  apply Program.Yields.pure
  intro p hp
  obtain ⟨mem', hmem', rfl⟩ := Option.mem_map.mp hp
  exact ⟨hfsz.resolve_left hne, ho mem' hmem'⟩

/-- `image_append_file`. -/
theorem imageAppendFile_yields {img : Block} {off : Nat} {id : ItemId} {fpath : String}
    (himg : Filled img off) (hlo : 8 ≤ off) (hfit : off + itemSpan (files fpath).length < 2 ^ 32)
    (hlen : (files fpath).length < 2 ^ 31 - 512) :
    Program.Yields (imageAppendFile files img fpath id : HostProg η (Option Block)) fun o =>
      ∀ img' ∈ o, Filled img' (off + itemSpan (files fpath).length) ∧
        HoldsItem img'.mem off id (files fpath) ∧
        Agree img.mem img'.mem 0 4 ∧ Agree img.mem img'.mem 8 off := by
  refine (fileRead_yields fpath (by omega)).bind ?_
  rintro (_ | ⟨mem, fsz⟩) hread
  · exact Program.Yields.pure (by simp)
  obtain ⟨rfl, hmem⟩ := hread _ rfl
  exact imageAppendItem_yields _ _ himg hlo hfit hlen hmem

/-- **What `build_image` builds.** -/
theorem buildImage_yields {kernFpath dtbFpath : String}
    (hkern : (files kernFpath).length < 2 ^ 31 - 512)
    (hdtb : (files dtbFpath).length < 2 ^ 31 - 512)
    (hfit : imageSpan (files kernFpath).length (files dtbFpath).length < 2 ^ 32) :
    Program.Yields (buildImage files kernFpath dtbFpath : HostProg η (Option Block)) fun o =>
      ∀ img ∈ o, HoldsImage img.mem (files kernFpath) (files dtbFpath) ∧
        Filled img (imageSpan (files kernFpath).length (files dtbFpath).length) := by
  have hspan := sizeofItem_add_le_itemSpan
  have hsz : sizeofImage = 512 ∧ sizeofItem = 8 := ⟨rfl, rfl⟩
  simp only [imageSpan] at hfit ⊢
  refine (malloc_yields sizeofImage).bind ?_
  rintro (_ | mem) hsize
  · exact Program.Yields.halt _
  -- the header: the magic, and the size of the image so far
  let mem0 := store32 (store32 mem.mem (BitVec.ofNat 64 0) imgMagic) (BitVec.ofNat 64 4)
    (BitVec.ofNat 32 sizeofImage)
  have hmagic0 : load32 mem0 (BitVec.ofNat 64 0) = imgMagic := by
    have h : Agree _ mem0 0 4 := agree_overlay (by omega) (by omega) (.inl (le_refl 4))
    rw [h.load32 (by omega) (by omega), load32_store32 (by decide)]
  have hfilled0 : Filled { mem with mem := mem0 } sizeofImage :=
    ⟨load32_store32 (by decide), hsize mem rfl⟩
  -- the kernel
  refine (imageAppendFile_yields hfilled0 (by omega) (by omega) hkern).bind ?_
  rintro (_ | img1) himg1
  · exact Program.Yields.pure (by simp)
  obtain ⟨hfilled1, hitem1, hlow1, -⟩ := himg1 img1 rfl
  -- the device tree
  refine (imageAppendFile_yields hfilled1 (by omega) (by omega) hdtb).bind ?_
  rintro (_ | img2) himg2
  · exact Program.Yields.pure (by simp)
  obtain ⟨hfilled2, hitem2, hlow2, hhigh2⟩ := himg2 img2 rfl
  -- the END item
  refine (imageAppendItem_yields _ [] hfilled2 (by omega) hfit (by simp) rfl).mono ?_
  intro o ho img3 himg3
  obtain ⟨hfilled3, hitem3, hlow3, hhigh3⟩ := ho img3 himg3
  have hend1 := hspan (files kernFpath).length
  have hend2 := hspan (files dtbFpath).length
  refine ⟨⟨?_, hfilled3.imgsz, ?_, ?_, hitem3⟩, hfilled3⟩
  · have hkeep : Agree mem0 img3.mem 0 4 := hlow1.trans (hlow2.trans hlow3)
    exact (hkeep.load32 (le_refl 0) (le_refl 4)).trans hmagic0
  · have hkeep : Agree img1.mem img3.mem 8 (sizeofImage + itemSpan (files kernFpath).length) :=
      hhigh2.trans (hhigh3.mono (le_refl 8) (Nat.le_add_right _ _))
    exact hitem1.frame hkeep (by omega) (by omega)
  · exact hitem2.frame hhigh3 (by omega) (by omega)

end Build

end RpiBld
