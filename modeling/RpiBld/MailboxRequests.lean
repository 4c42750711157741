/-
RpiBld/MailboxRequests.lean

The property buffer as the VideoCore reads it.

`parsePropertyBuffer` is a parser for the VideoCore's format: a tag is a
12-byte header and the bytes its size announces, the next tag starts at the
next 4-byte boundary, and an id of zero ends the list; nothing is read past the
size in the buffer's header.  What `build_property_buffer` leaves on the heap
is described by `SentAt`, which is stronger than `TagsAt` in that it knows the
code and every byte of a value buffer.

The arguments of a request are copied while the buffer is being built, so they
come out unchanged only where they do not lie in the buffer themselves.
-/
import RpiBld.MailboxRoundTrip

namespace RpiBld

open Traced

/-! ### The format of the VideoCore -/

/-- A tag, as the VideoCore sees it. -/
structure VcTag where
  id : Word
  valueBufsz : Word
  code : Word
  value : List Byte
  deriving DecidableEq, Repr

/-- The tags from address `a` on, up to the end marker; `none` where the marker is not found
before `stop`. -/
def parseTags (ram : Ram) (stop : Nat) : Nat → Nat → Option (List VcTag)
  | 0, _ => none
  | fuel + 1, a =>
    if stop < a + 4 then none
    else if load32 ram (BitVec.ofNat 32 a) = 0 then some []
    else
      let size := load32 ram (BitVec.ofNat 32 (a + 4))
      let tagEnd := a + 12 + size.toNat
      if stop < tagEnd then none
      else
        let tag : VcTag := ⟨load32 ram (BitVec.ofNat 32 a), size,
          load32 ram (BitVec.ofNat 32 (a + 8)), cells ram (BitVec.ofNat 32 (a + 12)) size.toNat⟩
        (parseTags ram stop fuel ((tagEnd + 3) / 4 * 4)).map (tag :: ·)

/-- The tags of the property buffer at an address.  A tag takes more than one byte, so its size
bounds the number of tags. -/
def parsePropertyBuffer (ram : Ram) (prop : Word) : Option (List VcTag) :=
  let bufsz := (load32 ram prop).toNat
  parseTags ram (prop.toNat + bufsz) bufsz (prop.toNat + 8)

/-! ### What is to be sent -/

/-- The `args` buffer of a request. -/
def TagRequest.Args (req : TagRequest) (y : Word) : Prop := Region req.args req.argsSz.toNat y

/-- The value buffer of a request: its arguments, and zeros behind them. -/
def TagRequest.valueBytes (ram : Ram) (req : TagRequest) : List Byte :=
  cells ram req.args req.argsSz.toNat ++ List.replicate (req.valueLen - req.argsSz.toNat) 0

/-- The tag a request is sent as. -/
def TagRequest.sent (ram : Ram) (req : TagRequest) : VcTag :=
  ⟨req.id, BitVec.ofInt 32 req.valueBufsz, 0, req.valueBytes ram⟩

/-- The requests lie in RAM from `a` on, followed by the end marker; their arguments are those
that were there `before`. -/
def SentAt (before ram : Ram) : Nat → List TagRequest → Prop
  | a, [] => load32 ram (BitVec.ofNat 32 a) = 0
  | a, req :: reqs =>
    load32 ram (BitVec.ofNat 32 a) = req.id ∧
      load32 ram (BitVec.ofNat 32 (a + 4)) = BitVec.ofInt 32 req.valueBufsz ∧
      load32 ram (BitVec.ofNat 32 (a + 8)) = 0 ∧
      cells ram (BitVec.ofNat 32 (a + 12)) req.valueLen = req.valueBytes before ∧
      SentAt before ram (a + req.span) reqs

section Sent

variable {before ram ram' : Ram} {a lo hi : Nat} {req : TagRequest} {reqs : List TagRequest}

theorem SentAt.frame (h : SentAt before ram a reqs) (hagree : Agree ram ram' lo hi) (hlo : lo ≤ a)
    (hhi : a + tagsSpan reqs + 4 ≤ hi) : SentAt before ram' a reqs := by
  induction reqs generalizing a with
  | nil => exact (hagree.load32 hlo hhi).trans h
  | cons req reqs ih =>
    obtain ⟨hid, hsz, hcode, hvalue, hrest⟩ := h
    have hspan := valueLen_le_span req
    simp only [tagsSpan] at hhi
    exact ⟨(hagree.load32 hlo (by omega)).trans hid,
      (hagree.load32 (by omega) (by omega)).trans hsz,
      (hagree.load32 (by omega) (by omega)).trans hcode,
      (hagree.cells (by omega) (by omega)).trans hvalue, ih hrest (by omega) (by omega)⟩

/-- Only the arguments matter of what was there before. -/
theorem SentAt.congr {before' : Ram} (h : SentAt before ram a reqs)
    (hsame : ∀ req ∈ reqs, req.valueBytes before = req.valueBytes before') :
    SentAt before' ram a reqs := by
  induction reqs generalizing a with
  | nil => exact h
  | cons req reqs ih =>
    obtain ⟨hid, hsz, hcode, hvalue, hrest⟩ := h
    exact ⟨hid, hsz, hcode, hvalue.trans (hsame req List.mem_cons_self),
      ih hrest fun req' h => hsame req' (List.mem_cons_of_mem _ h)⟩

/-- Arguments that lie outside of what was written are as they were. -/
theorem valueBytes_congr (hout : ∀ y, lo ≤ y → y < hi → ¬ req.Args (BitVec.ofNat 32 y))
    (hbelow : Agree ram ram' 0 lo) (habove : Agree ram ram' hi (2 ^ 32))
    (hlen : req.argsSz.toNat ≤ 2 ^ 32) : req.valueBytes ram' = req.valueBytes ram := by
  have hcells : cells ram' req.args req.argsSz.toNat = cells ram req.args req.argsSz.toNat := by
    apply List.map_congr_left
    intro i hi'
    have harg : req.Args (req.args + BitVec.ofNat 32 i) :=
      Region.of_offset (List.mem_range.mp hi') hlen
    generalize req.args + BitVec.ofNat 32 i = x at harg ⊢
    have hx : BitVec.ofNat 32 x.toNat = x := by simp
    rw [← hx]
    rcases Nat.lt_or_ge x.toNat lo with hlt | hge
    · exact hbelow _ (Nat.zero_le _) hlt
    · rcases Nat.lt_or_ge x.toNat hi with hlt | hge'
      · exact absurd (hx.symm ▸ harg) (hout _ hge hlt)
      · exact habove _ hge' x.isLt
  rw [TagRequest.valueBytes, hcells]
  rfl

/-- The parser finds what was sent, by induction on the requests. -/
theorem parseTags_sentAt {stop fuel : Nat} (hreqs : ∀ req ∈ reqs, req.WellFormed)
    (h : SentAt before ram a reqs) (ha : a % 4 = 0) (hstop : a + tagsSpan reqs + 4 ≤ stop)
    (hfuel : reqs.length < fuel) :
    parseTags ram stop fuel a = some (reqs.map (TagRequest.sent before)) := by
  induction reqs generalizing a fuel with
  | nil =>
    obtain ⟨fuel, rfl⟩ := Nat.exists_eq_succ_of_ne_zero (Nat.pos_iff_ne_zero.mp hfuel)
    have hid : load32 ram (BitVec.ofNat 32 a) = 0 := h
    rw [parseTags, if_neg (by simp only [tagsSpan] at hstop; omega), if_pos hid]
    rfl
  | cons req reqs ih =>
    obtain ⟨hid, hsz, hcode, hvalue, hrest⟩ := h
    obtain ⟨fuel, rfl⟩ := Nat.exists_eq_succ_of_ne_zero (Nat.ne_of_gt (Nat.zero_lt_of_lt hfuel))
    have hreq := hreqs req List.mem_cons_self
    have hspan := valueLen_le_span req
    have hlt := hreq.valueLen_lt
    simp only [tagsSpan] at hstop
    rw [List.length_cons] at hfuel
    have hlen : (BitVec.ofInt 32 req.valueBufsz).toNat = req.valueLen := by
      rw [hreq.ofInt_valueBufsz, BitVec.toNat_ofNat, Nat.mod_eq_of_lt (by omega)]
    -- the next boundary is where the builder put the next tag
    have hnext : (a + 12 + req.valueLen + 3) / 4 * 4 = a + req.span := by
      rw [TagRequest.span]
      omega
    have hparse : parseTags ram stop fuel (a + req.span) =
        some (reqs.map (TagRequest.sent before)) :=
      ih (fun req' h => hreqs req' (List.mem_cons_of_mem _ h)) hrest
        (by rw [TagRequest.span]; omega) (by omega) (by omega)
    rw [parseTags, if_neg (by omega), hid, if_neg hreq.id]
    simp only [hsz, hcode, hlen, hvalue, hnext, hparse]
    rw [if_neg (by omega)]
    rfl

end Sent

/-! ### Building -/

section Build

variable (ram : Ram) {a : Nat}

/-- The value buffer of a tag: the arguments, and zeros. -/
theorem cells_builtTag {req : TagRequest} (hfit : a + req.span ≤ 2 ^ 32)
    (hout : ∀ y, a ≤ y → y < a + req.span → ¬ req.Args (BitVec.ofNat 32 y)) :
    cells (builtTag ram a req) (BitVec.ofNat 32 (a + 12)) req.valueLen = req.valueBytes ram := by
  have hspan := valueLen_le_span req
  have hargs := req.args_le_valueLen
  let zeroed := overlay (builtHeader ram a req) (BitVec.ofNat 32 (a + 12)) req.valueLen fun _ => 0
  -- the copy does not overwrite the arguments it has still to copy
  have hcopy : builtTag ram a req = overlay zeroed (BitVec.ofNat 32 (a + 12)) req.argsSz.toNat
      fun i => zeroed (req.args + BitVec.ofNat 32 i) := by
    apply mcopy_eq_overlay _ (by omega)
    intro i hi hr
    have harg : req.Args (req.args + BitVec.ofNat 32 i) := Region.of_offset hi (by omega)
    generalize req.args + BitVec.ofNat 32 i = x at harg hr
    have hx : BitVec.ofNat 32 x.toNat = x := by simp
    rw [← hx, region_ofNat_iff (by omega) (BitVec.isLt _)] at hr
    exact hout _ (by omega) (by omega) (hx.symm ▸ harg)
  -- and they are what they were before the tag was written
  have hold : req.valueBytes zeroed = req.valueBytes ram := by
    have hkeep : ∀ lo hi : Nat, hi ≤ a ∨ a + req.span ≤ lo → hi ≤ 2 ^ 32 →
        Agree ram zeroed lo hi := fun lo hi hout hhi =>
      (agree_builtHeader ram req (by omega) hhi (by omega)).trans
        (agree_overlay (by omega) hhi (by omega))
    exact valueBytes_congr hout (hkeep 0 a (by omega) (by omega))
      (hkeep _ _ (by omega) (le_refl _)) (by omega)
  rw [← hold, TagRequest.valueBytes]
  rw [show req.valueLen = req.argsSz.toNat + (req.valueLen - req.argsSz.toNat) by omega,
    ← cells_append, ← BitVec.ofNat_add]
  congr 1
  · apply List.map_congr_left
    intro i hi
    rw [hcopy, overlay_offset (List.mem_range.mp hi) (by omega)]
  · rw [Nat.add_sub_cancel_left]
    apply List.eq_replicate_iff.mpr
    refine ⟨length_cells _ _ _, ?_⟩
    intro b hb
    obtain ⟨i, hi, rfl⟩ := List.mem_map.mp hb
    have := List.mem_range.mp hi
    rw [← BitVec.ofNat_add, hcopy, overlay_ofNat_of_not_mem (by omega) (by omega) (by omega)]
    exact overlay_ofNat_of_mem (by omega) (by omega)

/-- The loop of `build_property_buffer`, with the end marker behind it: the tags are there, and
nothing else was written. -/
theorem buildTags_sentAt {reqs : List TagRequest} (hreqs : ∀ req ∈ reqs, req.WellFormed)
    (ha : a % 4 = 0) (hfit : a + tagsSpan reqs + 4 ≤ 2 ^ 32)
    (hout : ∀ req ∈ reqs, ∀ y, a ≤ y → y < a + tagsSpan reqs → ¬ req.Args (BitVec.ofNat 32 y)) :
    let built := buildTags ram (BitVec.ofNat 32 a) reqs
    built.2 = BitVec.ofNat 32 (a + tagsSpan reqs) ∧
      SentAt ram (store32 built.1 built.2 0) a reqs ∧
      Agree ram (store32 built.1 built.2 0) 0 a ∧
      Agree ram (store32 built.1 built.2 0) (a + tagsSpan reqs + 4) (2 ^ 32) := by
  induction reqs generalizing ram a with
  | nil =>
    exact ⟨rfl, load32_store32 (by decide), agree_overlay hfit (by omega) (.inl (le_refl a)),
      agree_overlay hfit (le_refl _) (.inr (le_refl _))⟩
  | cons req reqs ih =>
    have hreq := hreqs req List.mem_cons_self
    have hspan := valueLen_le_span req
    have hbuild := buildTag_eq ram hreq ha
    simp only [tagsSpan] at hfit hout ⊢
    have htag : ∀ y, a ≤ y → y < a + req.span → ¬ req.Args (BitVec.ofNat 32 y) :=
      fun y hy hy' => hout req List.mem_cons_self y hy (by omega)
    have hstep : buildTags ram (BitVec.ofNat 32 a) (req :: reqs) =
        buildTags (builtTag ram a req) (BitVec.ofNat 32 (a + req.span)) reqs := by
      rw [buildTags, hbuild (by omega), BitVec.ofNat_add]
    have hkeep : ∀ lo hi : Nat, hi ≤ a ∨ a + 12 + req.valueLen ≤ lo → hi ≤ 2 ^ 32 →
        Agree ram (builtTag ram a req) lo hi := fun lo hi hlohi hhi =>
      (agree_builtHeader ram req (by omega) hhi (by omega)).trans
        (agree_builtTag ram req (by omega) hhi (by omega))
    obtain ⟨hend, hsent, hbelow, habove⟩ := ih (builtTag ram a req) (a := a + req.span)
      (fun req' h => hreqs req' (List.mem_cons_of_mem _ h)) (by rw [TagRequest.span]; omega)
      (by omega)
      (fun req' h y hy hy' => hout req' (List.mem_cons_of_mem _ h) y (by omega) (by omega))
    obtain ⟨hid, hsz, hcode⟩ := load32_builtHeader ram req (show a + 12 ≤ 2 ^ 32 by omega)
    have hheader : Agree (builtHeader ram a req) (builtTag ram a req) a (a + 12) :=
      agree_builtTag ram req (by omega) (by omega) (.inl (le_refl _))
    simp only [hstep]
    rw [← Nat.add_assoc]
    -- the tags after this one are written above it
    refine ⟨hend, ⟨?_, ?_, ?_, ?_, ?_⟩, ?_, ?_⟩
    · exact (hbelow.load32 (Nat.zero_le _) (by omega)).trans
        ((hheader.load32 (le_refl _) (by omega)).trans hid)
    · exact (hbelow.load32 (Nat.zero_le _) (by omega)).trans
        ((hheader.load32 (by omega) (by omega)).trans hsz)
    · exact (hbelow.load32 (Nat.zero_le _) (by omega)).trans
        ((hheader.load32 (by omega) (le_refl _)).trans hcode)
    · exact (hbelow.cells (Nat.zero_le _) (by omega)).trans (cells_builtTag ram (by omega) htag)
    · -- their arguments were not changed by this one
      apply hsent.congr
      intro req' h'
      have := (hreqs req' (List.mem_cons_of_mem _ h')).args_lt
      exact valueBytes_congr
        (fun y hy hy' => hout req' (List.mem_cons_of_mem _ h') y hy (by omega))
        (hkeep 0 a (by omega) (by omega)) (hkeep (a + req.span) _ (by omega) (le_refl _))
        (by omega)
    · exact (hkeep 0 a (by omega) (by omega)).trans (hbelow.mono (le_refl 0) (by omega))
    · exact (hkeep _ _ (by omega) (le_refl _)).trans habove

/-- The bytes of a property buffer, up to the next 16-byte boundary. -/
def paddedSpan (reqs : List TagRequest) : Nat := (bufferSpan reqs + 15) / 16 * 16

/-- `build_property_buffer`, field by field. -/
theorem buildPropertyBuffer_sentAt {reqs : List TagRequest} (hreqs : ∀ req ∈ reqs, req.WellFormed)
    (hfit : heapRamAddr.toNat + bufferSpan reqs ≤ 2 ^ 32)
    (hout : ∀ req ∈ reqs, ∀ y, heapRamAddr.toNat ≤ y → y < heapRamAddr.toNat + bufferSpan reqs →
      ¬ req.Args (BitVec.ofNat 32 y)) :
    let built := buildPropertyBuffer ram reqs
    built.2 = heapRamAddr ∧
      load32 built.1 heapRamAddr = BitVec.ofNat 32 (paddedSpan reqs) ∧
      load32 built.1 (heapRamAddr + 4) = 0 ∧ SentAt ram built.1 (heapRamAddr.toNat + 8) reqs ∧
      Agree ram built.1 0 heapRamAddr.toNat ∧
      Agree ram built.1 (heapRamAddr.toNat + bufferSpan reqs) (2 ^ 32) := by
  have hheap : heapRamAddr = BitVec.ofNat 32 heapRamAddr.toNat := by decide
  have hprop : alignAddress heapGetBaseAddress 16 = BitVec.ofNat 32 heapRamAddr.toNat := by decide
  have h16 : heapRamAddr.toNat % 16 = 0 := by decide
  rw [hheap]
  have hidem : (BitVec.ofNat 32 heapRamAddr.toNat).toNat = heapRamAddr.toNat := by decide
  rw [hidem]
  generalize heapRamAddr.toNat = base at hfit hout hprop h16 ⊢
  rw [bufferSpan] at hfit hout
  -- the request code, then the tags with their end marker, and then the size
  let ram1 := store32 ram (BitVec.ofNat 32 (base + 4)) 0
  have h01 : ∀ lo hi : Nat, hi ≤ base ∨ base + 8 ≤ lo → hi ≤ 2 ^ 32 → Agree ram ram1 lo hi :=
    fun lo hi hlohi hhi => agree_overlay (by omega) hhi (by omega)
  obtain ⟨hend, hsent, hbelow, habove⟩ := buildTags_sentAt ram1 (a := base + 8) hreqs (by omega)
    (by omega) (fun req h y hy hy' => hout req h y (by omega) (by omega))
  generalize hram2 : store32 (buildTags ram1 (BitVec.ofNat 32 (base + 8)) reqs).1
    (buildTags ram1 (BitVec.ofNat 32 (base + 8)) reqs).2 0 = ram2 at hsent hbelow habove
  -- the size in the header is the distance to the next boundary after the marker
  have hsize : alignAddress (BitVec.ofNat 32 (base + 8 + tagsSpan reqs + 4)) 16 -
      BitVec.ofNat 32 base = BitVec.ofNat 32 (paddedSpan reqs) := by
    have hgap : base + 8 + tagsSpan reqs + 4 +
        alignGap (BitVec.ofNat 32 (base + 8 + tagsSpan reqs + 4)) 16 = base + paddedSpan reqs := by
      rw [alignGap, BitVec.toNat_ofNat, Nat.mod_mod_of_dvd _ (by decide), paddedSpan, bufferSpan]
      omega
    rw [alignAddress_eq (by decide) (by decide), ← BitVec.ofNat_add, hgap, BitVec.ofNat_add,
      BitVec.add_comm, BitVec.add_sub_cancel]
  let ram3 := store32 ram2 (BitVec.ofNat 32 base) (BitVec.ofNat 32 (paddedSpan reqs))
  have h23 : ∀ lo hi : Nat, hi ≤ base ∨ base + 4 ≤ lo → hi ≤ 2 ^ 32 → Agree ram2 ram3 lo hi :=
    fun lo hi hlohi hhi => agree_overlay (by omega) hhi (by omega)
  have hbuilt : buildPropertyBuffer ram reqs = (ram3, BitVec.ofNat 32 base) := by
    have h4 : BitVec.ofNat 32 base + 4 = BitVec.ofNat 32 (base + 4) := (BitVec.ofNat_add _ _).symm
    have h8 : BitVec.ofNat 32 base + 8 = BitVec.ofNat 32 (base + 8) := (BitVec.ofNat_add _ _).symm
    have hmark : BitVec.ofNat 32 (base + 8 + tagsSpan reqs) + 4 =
        BitVec.ofNat 32 (base + 8 + tagsSpan reqs + 4) := (BitVec.ofNat_add _ _).symm
    simp only [buildPropertyBuffer, hprop, h4, h8]
    rw [hram2, hend, hmark, hsize]
  rw [hbuilt]
  refine ⟨rfl, load32_store32 (by decide), ?_, ?_, ?_, ?_⟩
  · have hkeep := (hbelow.mono (Nat.zero_le _) (le_refl _)).trans
      (h23 (base + 4) (base + 8) (by omega) (by omega))
    rw [show BitVec.ofNat 32 base + 4 = BitVec.ofNat 32 (base + 4) from (BitVec.ofNat_add _ _).symm]
    exact (hkeep.load32 (le_refl _) (le_refl _)).trans (load32_store32 (by decide))
  · apply (hsent.frame (h23 (base + 8) (2 ^ 32) (by omega) (le_refl _)) (le_refl _)
      (by omega)).congr
    intro req h
    have := (hreqs req h).args_lt
    exact valueBytes_congr (fun y hy hy' => hout req h y hy (by omega))
      (h01 0 base (by omega) (by omega)) (h01 (base + 8) _ (by omega) (le_refl _)) (by omega)
  · exact ((h01 0 base (by omega) (by omega)).trans (hbelow.mono (le_refl _) (by omega))).trans
      (h23 0 base (by omega) (by omega))
  · rw [bufferSpan, show base + (8 + tagsSpan reqs + 4) = base + 8 + tagsSpan reqs + 4 by omega]
    exact ((h01 _ _ (by omega) (le_refl _)).trans habove).trans (h23 _ _ (by omega) (le_refl _))

end Build

/-- The padded size still fits above the heap's base. -/
theorem paddedSpan_bounds {reqs : List TagRequest}
    (hfit : heapRamAddr.toNat + bufferSpan reqs ≤ 2 ^ 32) :
    bufferSpan reqs ≤ paddedSpan reqs ∧ heapRamAddr.toNat + paddedSpan reqs ≤ 2 ^ 32 := by
  have h16 : heapRamAddr.toNat % 16 = 0 := by decide
  rw [paddedSpan]
  omega

theorem length_le_tagsSpan (reqs : List TagRequest) : reqs.length ≤ tagsSpan reqs := by
  induction reqs with
  | nil => exact Nat.le_refl 0
  | cons req reqs ih =>
    have hspan := valueLen_le_span req
    rw [List.length_cons, tagsSpan]
    omega

/-- **Well-formed mailbox requests.**  Whatever the heap held, the buffer `build_property_buffer`
returns is aligned and as long as its header says, its request code is zero, the VideoCore reads
the requests off it in order, and no byte outside of it was written. -/
theorem buildPropertyBuffer_wellFormed (ram : Ram) (reqs : List TagRequest)
    (hreqs : ∀ req ∈ reqs, req.WellFormed)
    (hfit : heapRamAddr.toNat + bufferSpan reqs ≤ 2 ^ 32)
    (hout : ∀ req ∈ reqs, ∀ y, heapRamAddr.toNat ≤ y → y < heapRamAddr.toNat + bufferSpan reqs →
      ¬ req.Args (BitVec.ofNat 32 y)) :
    let built := buildPropertyBuffer ram reqs
    let bufsz := load32 built.1 built.2
    built.2.toNat % 16 = 0 ∧ bufsz.toNat % 16 = 0 ∧ load32 built.1 (built.2 + 4) = 0 ∧
      parsePropertyBuffer built.1 built.2 = some (reqs.map (TagRequest.sent ram)) ∧
      ∀ x, ¬ Region built.2 bufsz.toNat x → built.1 x = ram x := by
  obtain ⟨hprop, hsz, hcode, hsent, hbelow, habove⟩ :=
    buildPropertyBuffer_sentAt ram hreqs hfit hout
  obtain ⟨hpad, hpadfit⟩ := paddedSpan_bounds hfit
  have hheap : 0 < heapRamAddr.toNat := by decide
  have hlen := length_le_tagsSpan reqs
  have hbufsz : (load32 (buildPropertyBuffer ram reqs).1 heapRamAddr).toNat = paddedSpan reqs := by
    rw [hsz, BitVec.toNat_ofNat, Nat.mod_eq_of_lt (by omega)]
  have hspan : bufferSpan reqs = 8 + tagsSpan reqs + 4 := rfl
  dsimp only
  rw [hprop, hbufsz]
  refine ⟨by decide, Nat.mul_mod_left _ _, hcode, ?_, ?_⟩
  · rw [parsePropertyBuffer, hbufsz]
    exact parseTags_sentAt hreqs hsent (by decide) (by omega) (by omega)
  · intro x hx
    have hself : BitVec.ofNat 32 x.toNat = x := by simp
    have hbase : BitVec.ofNat 32 heapRamAddr.toNat = heapRamAddr := by decide
    rw [← hself, ← hbase, region_ofNat_iff hpadfit x.isLt] at hx
    rw [← hself]
    rcases Nat.lt_or_ge x.toNat heapRamAddr.toNat with hlt | hge
    · exact hbelow _ (Nat.zero_le _) hlt
    · exact habove _ (by omega) x.isLt

/-- The request of `tag_clock_get_rate` and one without a value, on a heap full of ones. -/
theorem buildPropertyBuffer_wellFormed_two :
    let reqs : List TagRequest :=
      [⟨TagId.clockGetRate.code, 0x1000000, 4, 0x1000004, 8⟩, ⟨7, 0, 0, 0, 0⟩]
    let built := buildPropertyBuffer (fun _ => 0xff) reqs
    parsePropertyBuffer built.1 built.2 =
      some [⟨TagId.clockGetRate.code, 8, 0, [0xff, 0xff, 0xff, 0xff, 0, 0, 0, 0]⟩, ⟨7, 0, 0, []⟩] := by
  have h := buildPropertyBuffer_wellFormed (fun _ => 0xff)
    [⟨TagId.clockGetRate.code, 0x1000000, 4, 0x1000004, 8⟩, ⟨7, 0, 0, 0, 0⟩]
    (by
      intro req hreq
      rcases List.mem_pair.mp hreq with rfl | rfl
      · exact ⟨by decide, by decide, by decide, by decide, by decide⟩
      · exact ⟨by decide, by decide, by decide, by decide, by decide⟩)
    (by decide)
    (by
      intro req hreq y hy hy'
      replace hy : 0x10000000 ≤ y := hy
      replace hy' : y < 0x10000000 + 44 := hy'
      rcases List.mem_pair.mp hreq with rfl | rfl
      · show ¬ Region (BitVec.ofNat 32 0x1000000) 4 (BitVec.ofNat 32 y)
        rw [region_ofNat_iff (by decide) (by omega)]
        omega
      · show ¬ Region (BitVec.ofNat 32 0) 0 (BitVec.ofNat 32 y)
        rw [region_ofNat_iff (by decide) (by omega)]
        omega)
  exact h.2.2.2.1

end RpiBld
