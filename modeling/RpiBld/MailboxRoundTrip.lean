/-
RpiBld/MailboxRoundTrip.lean

Tag requests through the mailbox and back.

`build_property_buffer` puts each tag at the next 4-byte boundary; what is
between a value buffer and that boundary is left as the heap had it.
`return_tag_responses` looks for the next tag right behind the value buffer.
So the two agree as long as every value buffer is a whole number of words, and
otherwise the walker faults at an address where no tag can be
(`returnTagResponses_roundTrips_iff`).

The tags in RAM are described by `TagsAt` (what the builder put there) and
`ValuesAt` (what the VideoCore filled in), both by recursion on the list of
tags.  The builder and the VideoCore each have a lemma that establishes theirs,
and the walker one that consumes both.
-/
import RpiBld.Mailbox

namespace RpiBld

open Traced

/-! ### Requests and answers -/

/-- A request with sizes that are not negative. -/
structure TagRequest.WellFormed (req : TagRequest) : Prop where
  id : req.id ≠ 0
  args_nonneg : 0 ≤ req.argsSz
  args_lt : req.argsSz < 2 ^ 31
  ret_nonneg : 0 ≤ req.retSz
  ret_lt : req.retSz < 2 ^ 31

/-- The bytes of a value buffer. -/
def TagRequest.valueLen (req : TagRequest) : Nat := req.valueBufsz.toNat

/-- The bytes of a tag as it is built, up to the next 4-byte boundary. -/
def TagRequest.span (req : TagRequest) : Nat := 12 + (req.valueLen + 3) / 4 * 4

/-- Where the tags of a property buffer start. -/
def tagsBase : Nat := heapRamAddr.toNat + 8

theorem tagsBase_eq : tagsBase = heapRamAddr.toNat + 8 := rfl

attribute [irreducible] tagsBase

def tagsSpan : List TagRequest → Nat
  | [] => 0
  | req :: reqs => req.span + tagsSpan reqs

theorem TagRequest.span_mod (req : TagRequest) : req.span % 4 = 0 := by
  rw [TagRequest.span]
  omega

theorem tagsSpan_mod (reqs : List TagRequest) : tagsSpan reqs % 4 = 0 := by
  induction reqs with
  | nil => rfl
  | cons req reqs ih =>
    have := req.span_mod
    rw [tagsSpan]
    omega

theorem tagAligned_ofNat_iff {a : Nat} : TagAligned (BitVec.ofNat 32 a) ↔ a % 4 = 0 := by
  rw [TagAligned, BitVec.toNat_ofNat, Nat.mod_mod_of_dvd _ (by decide)]

/-- The bytes of a property buffer: its header, the tags, and the end marker. -/
def bufferSpan (reqs : List TagRequest) : Nat := 8 + tagsSpan reqs + 4

/-- A request and what the VideoCore answers it with. -/
structure TagAnswer where
  req : TagRequest
  response : List Byte
  sized : (response.length : Int) = req.retSz

/-- The response code of an answered tag. -/
def TagAnswer.code (x : TagAnswer) : Word := tagResponseCodeResponse ||| BitVec.ofInt 32 x.req.retSz

/-- A conforming VideoCore fills in one tag: its response code, and the response at the
start of its value buffer. -/
def fillTag (ram : Ram) (tag : Word) (x : TagAnswer) : Ram :=
  overlay (store32 ram (tag + 8) x.code) (tag + 12) x.response.length fun i => x.response.getD i 0

/-- It fills in every tag, where the builder put it. -/
def fillTags (ram : Ram) (tag : Word) : List TagAnswer → Ram
  | [] => ram
  | x :: xs => fillTags (fillTag ram tag x) (tag + BitVec.ofNat 32 x.req.span) xs

/-- The `ret` buffer of a request. -/
def TagRequest.Ret (req : TagRequest) (y : Word) : Prop := Region req.ret req.retSz.toNat y

/-- Requests that can be made together: their buffer fits into RAM above the heap's base, and
their `ret` buffers neither reach into it nor overlap each other. -/
structure Requestable (reqs : List TagRequest) : Prop where
  wellFormed : ∀ req ∈ reqs, req.WellFormed
  fits : heapRamAddr.toNat + bufferSpan reqs ≤ 2 ^ 32
  outside : ∀ req ∈ reqs, ∀ y, heapRamAddr.toNat ≤ y → y < heapRamAddr.toNat + bufferSpan reqs →
    ¬ req.Ret (BitVec.ofNat 32 y)
  apart : reqs.Pairwise fun req req' => ∀ y, req.Ret y → ¬ req'.Ret y

/-- The requests come back answered: no error, and each `ret` buffer holds its own response. -/
def RoundTrips {σ : Type} (w : World σ) (xs : List TagAnswer) : Prop :=
  let reqs := xs.map TagAnswer.req
  let built := buildPropertyBuffer w.ram reqs
  (returnTagResponses built.2 reqs).Returns
    (fun _ error w' => error = .none ∧
      ∀ x ∈ xs, cells w'.ram x.req.ret x.response.length = x.response)
    { w with ram := fillTags built.1 (built.2 + 8) xs }

theorem TagRequest.WellFormed.valueLen_eq {req : TagRequest} (h : req.WellFormed) :
    (req.valueLen : Int) = req.valueBufsz := by
  have := h.args_nonneg
  rw [TagRequest.valueLen, TagRequest.valueBufsz]
  omega

theorem TagRequest.WellFormed.valueLen_lt {req : TagRequest} (h : req.WellFormed) :
    req.valueLen < 2 ^ 31 := by
  have := h.args_lt
  have := h.ret_lt
  rw [TagRequest.valueLen, TagRequest.valueBufsz]
  omega

theorem valueLen_le_span (req : TagRequest) : 12 + req.valueLen ≤ req.span := by
  rw [TagRequest.span]
  omega

theorem response_le_valueLen (x : TagAnswer) : x.response.length ≤ x.req.valueLen := by
  have := x.sized
  rw [TagRequest.valueLen, TagRequest.valueBufsz]
  omega

/-- The size of a value buffer as its tag holds it. -/
theorem TagRequest.WellFormed.ofInt_valueBufsz {req : TagRequest} (h : req.WellFormed) :
    BitVec.ofInt 32 req.valueBufsz = BitVec.ofNat 32 req.valueLen := by
  rw [← h.valueLen_eq, BitVec.ofInt_natCast]

/-! ### Tags in RAM -/

/-- The tags of these requests lie in RAM from `a` on, followed by the end marker. -/
def TagsAt (ram : Ram) : Nat → List TagRequest → Prop
  | a, [] => load32 ram (BitVec.ofNat 32 a) = 0
  | a, req :: reqs =>
    load32 ram (BitVec.ofNat 32 a) = req.id ∧
      load32 ram (BitVec.ofNat 32 (a + 4)) = BitVec.ofInt 32 req.valueBufsz ∧
      TagsAt ram (a + req.span) reqs

/-- The tags from `a` on have been answered. -/
def ValuesAt (ram : Ram) : Nat → List TagAnswer → Prop
  | _, [] => True
  | a, x :: xs =>
    load32 ram (BitVec.ofNat 32 (a + 8)) = x.code ∧
      cells ram (BitVec.ofNat 32 (a + 12)) x.response.length = x.response ∧
      ValuesAt ram (a + x.req.span) xs

section Frame

variable {ram ram' : Ram} {a lo hi : Nat}

theorem TagsAt.frame {reqs : List TagRequest} (h : TagsAt ram a reqs)
    (hagree : Agree ram ram' lo hi) (hlo : lo ≤ a) (hhi : a + tagsSpan reqs + 4 ≤ hi) :
    TagsAt ram' a reqs := by
  induction reqs generalizing a with
  | nil => exact (hagree.load32 hlo hhi).trans h
  | cons req reqs ih =>
    obtain ⟨hid, hsz, hrest⟩ := h
    have hspan := valueLen_le_span req
    simp only [tagsSpan] at hhi
    exact ⟨(hagree.load32 hlo (by omega)).trans hid,
      (hagree.load32 (by omega) (by omega)).trans hsz, ih hrest (by omega) (by omega)⟩

theorem ValuesAt.frame {xs : List TagAnswer} (h : ValuesAt ram a xs)
    (hagree : Agree ram ram' lo hi) (hlo : lo ≤ a)
    (hhi : a + tagsSpan (xs.map TagAnswer.req) ≤ hi) : ValuesAt ram' a xs := by
  induction xs generalizing a with
  | nil => trivial
  | cons x xs ih =>
    obtain ⟨hcode, hvalue, hrest⟩ := h
    have hspan := valueLen_le_span x.req
    have hlen := response_le_valueLen x
    simp only [List.map_cons, tagsSpan] at hhi
    exact ⟨(hagree.load32 (by omega) (by omega)).trans hcode,
      (hagree.cells (by omega) (by omega)).trans hvalue, ih hrest (by omega) (by omega)⟩

end Frame

/-! ### Building -/

section Build

variable (ram : Ram) {a : Nat}

theorem agree_mcopy {src : Word} {n lo hi : Nat} (ha : a + n ≤ 2 ^ 32) (hhi : hi ≤ 2 ^ 32)
    (hout : hi ≤ a ∨ a + n ≤ lo) : Agree ram (mcopy ram src (BitVec.ofNat 32 a) n) lo hi := by
  intro x _ _
  apply mcopy_of_not_region _ _ _ (by omega)
  rw [region_ofNat_iff ha (by omega)]
  omega

/-- The header of a tag. -/
def builtHeader (a : Nat) (req : TagRequest) : Ram :=
  let ram := store32 ram (BitVec.ofNat 32 a) req.id
  let ram := store32 ram (BitVec.ofNat 32 (a + 4)) (BitVec.ofInt 32 req.valueBufsz)
  store32 ram (BitVec.ofNat 32 (a + 8)) 0

/-- A tag: behind the header its value buffer, zeroed, and the arguments at its start. -/
def builtTag (a : Nat) (req : TagRequest) : Ram :=
  let ram := overlay (builtHeader ram a req) (BitVec.ofNat 32 (a + 12)) req.valueLen fun _ => 0
  mcopy ram req.args (BitVec.ofNat 32 (a + 12)) req.argsSz.toNat

theorem agree_builtHeader (req : TagRequest) {lo hi : Nat} (ha : a + 12 ≤ 2 ^ 32)
    (hhi : hi ≤ 2 ^ 32) (hout : hi ≤ a ∨ a + 12 ≤ lo) :
    Agree ram (builtHeader ram a req) lo hi := by
  have hid : Agree ram (store32 ram (BitVec.ofNat 32 a) req.id) lo hi :=
    agree_overlay (by omega) hhi (by omega)
  have hsz := hid.trans (agree_overlay (f := leByte (BitVec.ofInt 32 req.valueBufsz))
    (show a + 4 + 4 ≤ 2 ^ 32 by omega) hhi (by omega))
  exact hsz.trans (agree_overlay (by omega) hhi (by omega))

/-- The fields of the header. -/
theorem load32_builtHeader (req : TagRequest) (ha : a + 12 ≤ 2 ^ 32) :
    load32 (builtHeader ram a req) (BitVec.ofNat 32 a) = req.id ∧
      load32 (builtHeader ram a req) (BitVec.ofNat 32 (a + 4)) = BitVec.ofInt 32 req.valueBufsz ∧
      load32 (builtHeader ram a req) (BitVec.ofNat 32 (a + 8)) = 0 := by
  let ram1 := store32 ram (BitVec.ofNat 32 a) req.id
  let ram2 := store32 ram1 (BitVec.ofNat 32 (a + 4)) (BitVec.ofInt 32 req.valueBufsz)
  have h12 : Agree ram1 ram2 a (a + 4) := agree_overlay (by omega) (by omega) (by omega)
  have h23 : Agree ram2 (builtHeader ram a req) a (a + 8) :=
    agree_overlay (by omega) (by omega) (by omega)
  refine ⟨?_, ?_, load32_store32 (by decide)⟩
  · exact ((h12.trans (h23.mono (le_refl _) (by omega))).load32 (le_refl _) (le_refl _)).trans
      (load32_store32 (by decide))
  · exact (h23.load32 (by omega) (le_refl _)).trans (load32_store32 (by decide))

theorem TagRequest.args_le_valueLen (req : TagRequest) : req.argsSz.toNat ≤ req.valueLen := by
  rw [TagRequest.valueLen, TagRequest.valueBufsz]
  omega

/-- Of what is there with the header, only the value buffer is written. -/
theorem agree_builtTag (req : TagRequest) {lo hi : Nat} (ha : a + 12 + req.valueLen ≤ 2 ^ 32)
    (hhi : hi ≤ 2 ^ 32) (hout : hi ≤ a + 12 ∨ a + 12 + req.valueLen ≤ lo) :
    Agree (builtHeader ram a req) (builtTag ram a req) lo hi := by
  have hargs := req.args_le_valueLen
  have hzero : Agree (builtHeader ram a req) (overlay (builtHeader ram a req)
      (BitVec.ofNat 32 (a + 12)) req.valueLen fun _ => 0) lo hi := agree_overlay ha hhi hout
  exact hzero.trans (agree_mcopy _ (by omega) hhi (by omega))

/-- `build_tag` at an address that does not wrap. -/
theorem buildTag_eq {req : TagRequest} (hreq : req.WellFormed) (ha : a % 4 = 0)
    (hfit : a + req.span < 2 ^ 32) :
    buildTag ram (BitVec.ofNat 32 a) req = (builtTag ram a req, BitVec.ofNat 32 req.span) := by
  have hspan := valueLen_le_span req
  have hlen := hreq.valueLen_lt
  have hcount : (BitVec.ofInt 32 req.valueBufsz).toInt.toNat = req.valueLen := by
    rw [hreq.ofInt_valueBufsz, BitVec.toInt_ofNat', Int.bmod_eq_of_le (by omega) (by omega)]
    omega
  have hend : BitVec.ofNat 32 (a + 12 + req.valueLen +
      alignGap (BitVec.ofNat 32 (a + 12 + req.valueLen)) 4) - BitVec.ofNat 32 a =
        BitVec.ofNat 32 req.span := by
    have hmod : (a + 12 + req.valueLen) % 2 ^ 32 = a + 12 + req.valueLen :=
      Nat.mod_eq_of_lt (by omega)
    have hgap : a + 12 + req.valueLen + alignGap (BitVec.ofNat 32 (a + 12 + req.valueLen)) 4 =
        a + req.span := by
      rw [alignGap, BitVec.toNat_ofNat, hmod]
      simp only [TagRequest.span]
      omega
    rw [hgap, BitVec.ofNat_add, BitVec.add_comm, BitVec.add_sub_cancel]
  have hvalue : ∀ ram : Ram, (if req.argsSz ≠ 0 then
      mcopy ram req.args (BitVec.ofNat 32 (a + 12)) req.argsSz.toNat else ram) =
        mcopy ram req.args (BitVec.ofNat 32 (a + 12)) req.argsSz.toNat := by
    intro ram
    by_cases h0 : req.argsSz = 0
    · rw [if_neg (not_not.mpr h0), h0]
      rfl
    · rw [if_pos h0]
  simp only [buildTag, hcount]
  rw [mzero_eq_overlay _ _ (by omega), hreq.ofInt_valueBufsz,
    alignAddress_eq (by decide) (by decide)]
  rw [show (4 : Word) = BitVec.ofNat 32 4 from rfl, show (8 : Word) = BitVec.ofNat 32 8 from rfl,
    show (12 : Word) = BitVec.ofNat 32 12 from rfl]
  simp only [← BitVec.ofNat_add]
  rw [hend, hvalue, ← hreq.ofInt_valueBufsz]
  rfl

/-- `build_tag` writes the header, and nothing below it. -/
theorem buildTag_spec {req : TagRequest} (hreq : req.WellFormed) (ha : a % 4 = 0)
    (hfit : a + req.span < 2 ^ 32) :
    let built := buildTag ram (BitVec.ofNat 32 a) req
    built.2 = BitVec.ofNat 32 req.span ∧
      load32 built.1 (BitVec.ofNat 32 a) = req.id ∧
      load32 built.1 (BitVec.ofNat 32 (a + 4)) = BitVec.ofInt 32 req.valueBufsz ∧
      Agree ram built.1 0 a := by
  have hspan := valueLen_le_span req
  obtain ⟨hid, hsz, -⟩ := load32_builtHeader ram req (show a + 12 ≤ 2 ^ 32 by omega)
  have hkeep : Agree (builtHeader ram a req) (builtTag ram a req) a (a + 12) :=
    agree_builtTag ram req (by omega) (by omega) (.inl (le_refl _))
  rw [buildTag_eq ram hreq ha hfit]
  refine ⟨rfl, (hkeep.load32 (le_refl _) (by omega)).trans hid,
    (hkeep.load32 (by omega) (by omega)).trans hsz, ?_⟩
  exact (agree_builtHeader ram req (by omega) (by omega) (by omega)).trans
    (agree_builtTag ram req (by omega) (by omega) (by omega))

/-- The loop of `build_property_buffer`, with the end marker behind it. -/
theorem buildTags_tagsAt {reqs : List TagRequest} (hreqs : ∀ req ∈ reqs, req.WellFormed)
    (ha : a % 4 = 0) (hfit : a + tagsSpan reqs + 4 ≤ 2 ^ 32) :
    let built := buildTags ram (BitVec.ofNat 32 a) reqs
    TagsAt (store32 built.1 built.2 0) a reqs ∧ Agree ram (store32 built.1 built.2 0) 0 a := by
  induction reqs generalizing ram a with
  | nil => exact ⟨load32_store32 (by decide), agree_overlay hfit (by omega) (.inl (le_refl a))⟩
  | cons req reqs ih =>
    have hreq := hreqs req List.mem_cons_self
    have hspan := valueLen_le_span req
    simp only [tagsSpan] at hfit
    obtain ⟨hsize, hid, hsz, hbelow⟩ := buildTag_spec ram hreq ha (by omega)
    have ha' : (a + req.span) % 4 = 0 := by
      have := req.span_mod
      omega
    obtain ⟨htags, hkeep⟩ := ih (buildTag ram (BitVec.ofNat 32 a) req).1
      (fun req' h => hreqs req' (List.mem_cons_of_mem _ h)) ha' (by omega)
    have hstep : buildTags ram (BitVec.ofNat 32 a) (req :: reqs) =
        buildTags (buildTag ram (BitVec.ofNat 32 a) req).1 (BitVec.ofNat 32 (a + req.span)) reqs := by
      show buildTags (buildTag ram (BitVec.ofNat 32 a) req).1
        (BitVec.ofNat 32 a + (buildTag ram (BitVec.ofNat 32 a) req).2) reqs = _
      rw [hsize, BitVec.ofNat_add]
    simp only [hstep]
    refine ⟨⟨?_, ?_, htags⟩, ?_⟩
    · exact (hkeep.load32 (Nat.zero_le a) (by omega)).trans hid
    · exact (hkeep.load32 (Nat.zero_le _) (by omega)).trans hsz
    · exact hbelow.trans (hkeep.mono (le_refl 0) (by omega))

/-- `build_property_buffer` builds at the heap's base. -/
theorem buildPropertyBuffer_tagsAt {reqs : List TagRequest}
    (hreqs : ∀ req ∈ reqs, req.WellFormed)
    (hfit : heapRamAddr.toNat + bufferSpan reqs ≤ 2 ^ 32) :
    (buildPropertyBuffer ram reqs).2 = heapRamAddr ∧
      TagsAt (buildPropertyBuffer ram reqs).1 tagsBase reqs := by
  rw [tagsBase_eq]
  have hheap : heapRamAddr.toNat = 0x10000000 := rfl
  have hprop : alignAddress heapGetBaseAddress 16 = BitVec.ofNat 32 heapRamAddr.toNat := by decide
  rw [bufferSpan] at hfit
  obtain ⟨htags, -⟩ := buildTags_tagsAt
    (store32 ram (BitVec.ofNat 32 (heapRamAddr.toNat + 4)) 0) hreqs
    (show (heapRamAddr.toNat + 8) % 4 = 0 by decide) (by omega)
  have h8 : BitVec.ofNat 32 heapRamAddr.toNat + 8 = BitVec.ofNat 32 (heapRamAddr.toNat + 8) := by
    decide
  have h4 : BitVec.ofNat 32 heapRamAddr.toNat + 4 = BitVec.ofNat 32 (heapRamAddr.toNat + 4) := by
    decide
  simp only [buildPropertyBuffer, hprop, h8, h4]
  refine ⟨by decide, ?_⟩
  have hlast : ∀ {ram : Ram} {v : Word}, Agree ram
      (store32 ram (BitVec.ofNat 32 heapRamAddr.toNat) v) (heapRamAddr.toNat + 8) (2 ^ 32) :=
    agree_overlay (by omega) (le_refl _) (.inr (by omega))
  exact htags.frame hlast (le_refl _) (by omega)

end Build

/-! ### Answering -/

/-- The VideoCore keeps what the builder put there, and answers every tag. -/
theorem fillTags_valuesAt (ram : Ram) (a : Nat) {xs : List TagAnswer}
    (htags : TagsAt ram a (xs.map TagAnswer.req))
    (hfit : a + tagsSpan (xs.map TagAnswer.req) + 4 ≤ 2 ^ 32) :
    let ram' := fillTags ram (BitVec.ofNat 32 a) xs
    TagsAt ram' a (xs.map TagAnswer.req) ∧ ValuesAt ram' a xs ∧ Agree ram ram' 0 a := by
  induction xs generalizing ram a with
  | nil => exact ⟨htags, trivial, Agree.refl⟩
  | cons x xs ih =>
    obtain ⟨hid, hsz, hrest⟩ := htags
    have hspan := valueLen_le_span x.req
    have hlen := response_le_valueLen x
    simp only [List.map_cons, tagsSpan] at hfit
    -- the response code, and then the response
    let ram1 := store32 ram (BitVec.ofNat 32 (a + 8)) x.code
    let ram2 := overlay ram1 (BitVec.ofNat 32 (a + 12)) x.response.length
      fun i => x.response.getD i 0
    have hfill : fillTag ram (BitVec.ofNat 32 a) x = ram2 := by
      rw [fillTag, show (8 : Word) = BitVec.ofNat 32 8 from rfl,
        show (12 : Word) = BitVec.ofNat 32 12 from rfl, ← BitVec.ofNat_add, ← BitVec.ofNat_add]
    have h02 : ∀ lo hi : Nat, hi ≤ a + 8 ∨ a + 12 + x.response.length ≤ lo → hi ≤ 2 ^ 32 →
        Agree ram ram2 lo hi := by
      intro lo hi hout hhi
      have h01 : Agree ram ram1 lo hi := agree_overlay (by omega) hhi (by omega)
      exact h01.trans (agree_overlay (by omega) hhi (by omega))
    obtain ⟨htags', hvalues', hkeep⟩ := ih ram2 (a + x.req.span)
      (hrest.frame (h02 _ (2 ^ 32) (by omega) (le_refl _)) (le_refl _) (by omega)) (by omega)
    have hstep : fillTags ram (BitVec.ofNat 32 a) (x :: xs) =
        fillTags ram2 (BitVec.ofNat 32 (a + x.req.span)) xs := by
      rw [fillTags, hfill, BitVec.ofNat_add]
    simp only [hstep]
    -- the head of the tag lies below what the VideoCore writes
    have hhead : Agree ram (fillTags ram2 (BitVec.ofNat 32 (a + x.req.span)) xs) 0 (a + 8) :=
      (h02 0 (a + 8) (by omega) (by omega)).trans (hkeep.mono (le_refl 0) (by omega))
    refine ⟨⟨?_, ?_, htags'⟩, ⟨?_, ?_, hvalues'⟩, ?_⟩
    · exact (hhead.load32 (Nat.zero_le a) (by omega)).trans hid
    · exact (hhead.load32 (Nat.zero_le _) (by omega)).trans hsz
    · have h12 : Agree ram1 ram2 (a + 8) (a + 12) :=
        agree_overlay (by omega) (by omega) (.inl (le_refl _))
      have h := h12.trans (hkeep.mono (Nat.zero_le _) (by omega))
      exact (h.load32 (le_refl _) (le_refl _)).trans (load32_store32 (by decide))
    · rw [hkeep.cells (Nat.zero_le _) (by omega)]
      exact cells_overlay_getD (by omega)
    · exact (h02 _ _ (by omega) (by omega)).trans (hkeep.mono (le_refl 0) (by omega))

/-! ### Walking -/

section Walk

variable {σ : Type} {n : Int} {w : World σ} {a : Nat} {i : Int}

theorem TagAnswer.length_response (x : TagAnswer) : x.response.length = x.req.retSz.toNat := by
  rw [← x.sized, Int.toNat_natCast]

/-- The copy of a response. -/
def returned (ram : Ram) (x : TagAnswer) : Ram :=
  overlay ram x.req.ret x.response.length fun i => x.response.getD i 0

/-- It changes nothing outside of the `ret` buffer. -/
theorem returned_of_not_ret {ram : Ram} {x : TagAnswer} {y : Word} (h : ¬ x.req.Ret y) :
    returned ram x y = ram y := by
  apply overlay_of_not_region
  rwa [x.length_response]

theorem code_response (x : TagAnswer) (hreq : x.req.WellFormed) :
    x.code &&& tagResponseCodeResponse ≠ 0 ∧
      (x.code &&& ~~~tagResponseCodeResponse).toInt = x.req.retSz := by
  have hlt := hreq.ret_lt
  have hnonneg := hreq.ret_nonneg
  obtain ⟨m, hm⟩ := Int.eq_ofNat_of_zero_le hnonneg
  have h31 : (BitVec.ofInt 32 x.req.retSz).getLsbD 31 = false := by
    rw [hm, BitVec.ofInt_natCast, BitVec.getLsbD_ofNat, Nat.testBit_lt_two_pow (by omega),
      Bool.and_false]
  have hbit : tagResponseCodeResponse = bit 31 := rfl
  constructor
  · rw [Ne, hbit, and_bit_eq_zero_iff _ (by decide), TagAnswer.code, BitVec.getLsbD_or, hbit,
      getLsbD_bit _ (by decide)]
    simp
  · have hmask : x.code &&& ~~~tagResponseCodeResponse = BitVec.ofInt 32 x.req.retSz := by
      apply BitVec.eq_of_getLsbD_eq
      intro j hj
      rw [BitVec.getLsbD_and, BitVec.getLsbD_not, TagAnswer.code, BitVec.getLsbD_or, hbit,
        getLsbD_bit _ hj]
      by_cases hj31 : j = 31
      · subst hj31
        rw [h31]
        simp
      · simp [hj31, hj]
    rw [hmask, hm, BitVec.ofInt_natCast, BitVec.toInt_ofNat',
      Int.bmod_eq_of_le (by omega) (by omega)]

/-- One round of the walk over an answered tag. -/
theorem returnTagLoop_answered {x : TagAnswer} (n : Int) (reqs : List TagRequest) (i : Int)
    (hreq : x.req.WellFormed) (ha : a % 4 = 0)
    (hid : load32 w.ram (BitVec.ofNat 32 a) = x.req.id)
    (hsz : load32 w.ram (BitVec.ofNat 32 (a + 4)) = BitVec.ofInt 32 x.req.valueBufsz)
    (hcode : load32 w.ram (BitVec.ofNat 32 (a + 8)) = x.code)
    (hvalue : cells w.ram (BitVec.ofNat 32 (a + 12)) x.response.length = x.response)
    (hret : ∀ y, a ≤ y → y < a + x.req.span → ¬ x.req.Ret (BitVec.ofNat 32 y)) :
    returnTagLoop n (BitVec.ofNat 32 a) (x.req :: reqs) i w =
      returnTagLoop n (BitVec.ofNat 32 (a + 12 + x.req.valueLen)) reqs (i + 1)
        { w with ram := returned w.ram x } := by
  have hspan := valueLen_le_span x.req
  have hlen := response_le_valueLen x
  have hlt := hreq.valueLen_lt
  obtain ⟨hbit, hsize⟩ := code_response x hreq
  -- the response is copied from the tag, which the copy does not overwrite
  have hcopy : (returnTagValue (BitVec.ofNat 32 a) x.req : Drv σ Unit) w =
      ⟨[], .ok (), { w with ram := returned w.ram x }⟩ := by
    have h12 : BitVec.ofNat 32 a + 12 = BitVec.ofNat 32 (a + 12) := (BitVec.ofNat_add _ _).symm
    have hcount := x.length_response.symm
    have hmcopy : mcopy w.ram (BitVec.ofNat 32 (a + 12)) x.req.ret x.response.length =
        returned w.ram x := by
      rw [mcopy_eq_overlay _ (by omega)]
      · refine overlay_congr fun j hj => ?_
        rw [cells_eq_iff.mp hvalue j hj]
        simp [hj]
      · intro j hj
        rw [← BitVec.ofNat_add, x.length_response]
        exact hret _ (by omega) (by omega)
    rw [returnTagValue, h12]
    by_cases h0 : x.req.retSz = 0
    · rw [if_neg (not_not.mpr h0)]
      have hnil : x.response.length = 0 := by omega
      rw [returned, hnil, overlay_zero]
      rfl
    · rw [if_pos h0, ← hmcopy, ← hcount]
      rfl
  have hkeep : Agree w.ram (returned w.ram x) a (a + x.req.span) :=
    fun y hy hy' => returned_of_not_ret (hret y hy hy')
  have hnext : BitVec.ofNat 32 a + 12 + BitVec.ofInt 32 x.req.valueBufsz =
      BitVec.ofNat 32 (a + 12 + x.req.valueLen) := by
    rw [hreq.ofInt_valueBufsz, BitVec.ofNat_add, BitVec.ofNat_add]
    rfl
  have h4 : BitVec.ofNat 32 a + 4 = BitVec.ofNat 32 (a + 4) := (BitVec.ofNat_add _ _).symm
  have h8 : BitVec.ofNat 32 a + 8 = BitVec.ofNat 32 (a + 8) := (BitVec.ofNat_add _ _).symm
  -- the size is read again after the copy
  have hsz' : load32 (returned w.ram x) (BitVec.ofNat 32 (a + 4)) = _ :=
    (hkeep.load32 (by omega) (by omega)).trans hsz
  rw [returnTagLoop, loadTagId_of_aligned (tagAligned_ofNat_iff.mpr ha), ramLoad32,
    Program.view_bind_run, hid, if_neg hreq.id]
  rw [if_neg (not_not.mpr rfl), ramLoad32, Program.view_bind_run, h8, hcode, if_neg hbit, hsize]
  rw [if_neg (not_not.mpr rfl)]
  refine (Program.bind_of_ok hcopy).trans ?_
  show (do
    let valueBufsz ← ramLoad32 (BitVec.ofNat 32 a + 4)
    returnTagLoop n (BitVec.ofNat 32 a + 12 + valueBufsz) reqs (i + 1) : Drv σ VcmailboxError)
      { w with ram := returned w.ram x } = _
  rw [ramLoad32, Program.view_bind_run, h4, hsz', hnext]

/-- The walk over tags whose value buffers are whole words, by induction on them: it is at
the tag after them, and each `ret` buffer holds its response. -/
theorem returnTagLoop_walk (xs rest : List TagAnswer) (hi : Nat)
    (hwf : ∀ x ∈ xs, x.req.WellFormed) (ha : a % 4 = 0) (haligned : ∀ x ∈ xs, 4 ∣ x.req.valueLen)
    (htags : TagsAt w.ram a ((xs ++ rest).map TagAnswer.req))
    (hvalues : ValuesAt w.ram a (xs ++ rest))
    (hhi : a + tagsSpan ((xs ++ rest).map TagAnswer.req) + 4 ≤ hi) (hfit : hi ≤ 2 ^ 32)
    (hout : ∀ x ∈ xs, ∀ y, a ≤ y → y < hi → ¬ x.req.Ret (BitVec.ofNat 32 y))
    (hapart : xs.Pairwise fun x x' => ∀ y, x.req.Ret y → ¬ x'.req.Ret y) :
    ∃ ram', returnTagLoop n (BitVec.ofNat 32 a) ((xs ++ rest).map TagAnswer.req) i w =
        returnTagLoop n (BitVec.ofNat 32 (a + tagsSpan (xs.map TagAnswer.req)))
          (rest.map TagAnswer.req) (i + xs.length) { w with ram := ram' } ∧
      (∀ x ∈ xs, cells ram' x.req.ret x.response.length = x.response) ∧
      ∀ y, (∀ x ∈ xs, ¬ x.req.Ret y) → ram' y = w.ram y := by
  induction xs generalizing w a i with
  | nil => exact ⟨w.ram, by simp [tagsSpan], by simp, fun _ _ => rfl⟩
  | cons x xs ih =>
    obtain ⟨hid, hsz, htags'⟩ := htags
    obtain ⟨hcode, hvalue, hvalues'⟩ := hvalues
    replace htags' : TagsAt w.ram (a + x.req.span) ((xs ++ rest).map TagAnswer.req) := htags'
    replace hvalues' : ValuesAt w.ram (a + x.req.span) (xs ++ rest) := hvalues'
    have hreq := hwf x List.mem_cons_self
    have hspan := valueLen_le_span x.req
    have hlen := response_le_valueLen x
    have hlt := hreq.valueLen_lt
    replace hhi : a + (x.req.span + tagsSpan ((xs ++ rest).map TagAnswer.req)) + 4 ≤ hi := hhi
    have hretout := hout x List.mem_cons_self
    obtain ⟨hxs, hapart'⟩ := List.pairwise_cons.mp hapart
    -- this tag ends where the next one starts
    have hnext : a + 12 + x.req.valueLen = a + x.req.span := by
      have := haligned x List.mem_cons_self
      rw [TagRequest.span]
      omega
    have hstep := returnTagLoop_answered n ((xs ++ rest).map TagAnswer.req) i hreq ha hid hsz
      hcode hvalue
      fun y hy hy' => hretout y hy (by omega)
    rw [hnext] at hstep
    have hkeep : Agree w.ram (returned w.ram x) a hi :=
      fun y hy hy' => returned_of_not_ret (hretout y hy hy')
    obtain ⟨ram', hrun, hrets, houtside⟩ := ih (w := { w with ram := returned w.ram x })
      (a := a + x.req.span) (i := i + 1) (fun x' h => hwf x' (List.mem_cons_of_mem _ h))
      (by have := x.req.span_mod; omega)
      (fun x' h => haligned x' (List.mem_cons_of_mem _ h))
      (htags'.frame hkeep (by omega) (by omega)) (hvalues'.frame hkeep (by omega) (by omega))
      (by omega)
      (fun x' h y hy hy' => hout x' (List.mem_cons_of_mem _ h) y (by omega) hy') hapart'
    refine ⟨ram', ?_, ?_, ?_⟩
    · -- this round, and then the others
      rw [List.cons_append, List.map_cons, hstep, hrun]
      simp only [List.map_cons, tagsSpan, List.length_cons, Nat.add_assoc]
      congr 1
      push_cast
      omega
    · intro x' hx'
      rcases List.mem_cons.mp hx' with rfl | hx'
      · -- the later responses go elsewhere
        have hret : cells (returned w.ram x') x'.req.ret x'.response.length = x'.response :=
          cells_overlay_getD (by omega)
        rw [← hret, length_cells]
        apply List.map_congr_left
        intro j hj
        apply houtside
        intro x'' hx''
        apply hxs x'' hx''
        rw [TagRequest.Ret, ← TagAnswer.length_response]
        exact Region.of_offset (List.mem_range.mp hj) (by omega)
      · exact hrets x' hx'
    · intro y hy
      have hy' : ¬ x.req.Ret y := hy x List.mem_cons_self
      rw [houtside y fun x' h => hy x' (List.mem_cons_of_mem _ h)]
      exact returned_of_not_ret hy'

/-- The tags after some of the tags. -/
theorem TagsAt.drop {ram : Ram} {reqs reqs' : List TagRequest}
    (h : TagsAt ram a (reqs ++ reqs')) : TagsAt ram (a + tagsSpan reqs) reqs' := by
  induction reqs generalizing a with
  | nil => exact h
  | cons req reqs ih =>
    obtain ⟨-, -, hrest⟩ := h
    rw [tagsSpan, ← Nat.add_assoc]
    exact ih hrest

theorem ValuesAt.drop {ram : Ram} {xs rest : List TagAnswer} (h : ValuesAt ram a (xs ++ rest)) :
    ValuesAt ram (a + tagsSpan (xs.map TagAnswer.req)) rest := by
  induction xs generalizing a with
  | nil => exact h
  | cons x xs ih =>
    obtain ⟨-, -, hrest⟩ := h
    rw [List.map_cons, tagsSpan, ← Nat.add_assoc]
    exact ih hrest

/-- The walk over the buffer that was built and answered, as far as the value buffers are
whole words. -/
theorem returnTagResponses_walk (w : World σ) (xs rest : List TagAnswer)
    (h : Requestable ((xs ++ rest).map TagAnswer.req))
    (haligned : ∀ x ∈ xs, 4 ∣ x.req.valueLen) :
    let reqs := (xs ++ rest).map TagAnswer.req
    let built := buildPropertyBuffer w.ram reqs
    let a := tagsBase + tagsSpan (xs.map TagAnswer.req)
    ∃ ram', (returnTagResponses built.2 reqs : Drv σ VcmailboxError)
          { w with ram := fillTags built.1 (built.2 + 8) (xs ++ rest) } =
        returnTagLoop reqs.length (BitVec.ofNat 32 a) (rest.map TagAnswer.req) xs.length
          { w with ram := ram' } ∧
      (∀ x ∈ xs, cells ram' x.req.ret x.response.length = x.response) ∧
      TagsAt ram' a (rest.map TagAnswer.req) ∧ ValuesAt ram' a rest := by
  intro reqs built a
  have hspan : bufferSpan reqs = 8 + tagsSpan reqs + 4 := rfl
  have hfits : heapRamAddr.toNat + bufferSpan reqs ≤ 2 ^ 32 := h.fits
  have hbase := tagsBase_eq
  obtain ⟨hprop, htags⟩ := buildPropertyBuffer_tagsAt w.ram h.wellFormed h.fits
  have h8 : built.2 + 8 = BitVec.ofNat 32 tagsBase := by
    rw [show built.2 = heapRamAddr from hprop, hbase]
    decide
  obtain ⟨htags', hvalues', -⟩ := fillTags_valuesAt _ _ htags (show tagsBase + tagsSpan reqs + 4 ≤ _
    by omega)
  have hmem : ∀ x ∈ xs, x.req ∈ reqs := fun x hx =>
    List.mem_map_of_mem (List.mem_append_left _ hx)
  have hout : ∀ x ∈ xs, ∀ y, tagsBase ≤ y → y < heapRamAddr.toNat + bufferSpan reqs →
      ¬ x.req.Ret (BitVec.ofNat 32 y) :=
    fun x hx y hy hy' => h.outside x.req (hmem x hx) y (by omega) hy'
  have hapart := (List.pairwise_append.mp (List.pairwise_map.mp h.apart)).1
  rw [returnTagResponses, h8]
  obtain ⟨ram', hrun, hrets, houtside⟩ := returnTagLoop_walk (n := reqs.length) (i := 0)
    (w := { w with ram := fillTags built.1 (BitVec.ofNat 32 tagsBase) (xs ++ rest) }) xs rest
    (heapRamAddr.toNat + bufferSpan reqs) (fun x hx => h.wellFormed _ (hmem x hx))
    (by rw [hbase]; decide) haligned
    htags' hvalues' (show tagsBase + tagsSpan reqs + 4 ≤ _ by omega) hfits hout hapart
  have hkeep : Agree (fillTags built.1 (BitVec.ofNat 32 tagsBase) (xs ++ rest)) ram' tagsBase
      (heapRamAddr.toNat + bufferSpan reqs) :=
    fun y hy hy' => houtside _ fun x hx => hout x hx y hy hy'
  have hend : tagsBase + tagsSpan reqs + 4 ≤ heapRamAddr.toNat + bufferSpan reqs := by omega
  refine ⟨ram', ?_, hrets, ?_, ?_⟩
  · rw [Int.zero_add] at hrun
    exact hrun
  · have hall : TagsAt ram' tagsBase reqs := htags'.frame hkeep (le_refl _) hend
    rw [show reqs = xs.map TagAnswer.req ++ rest.map TagAnswer.req from List.map_append] at hall
    exact hall.drop
  · exact (hvalues'.frame hkeep (le_refl _) (Nat.le_of_add_right_le hend)).drop

/-- Nothing is found of a tag that is not aligned. -/
theorem returnTagLoop_of_not_aligned (n i : Int) (reqs : List TagRequest) {tag : Word}
    (h : ¬ TagAligned tag) : returnTagLoop n tag reqs i w = ⟨[], .error .fault, w⟩ := by
  cases reqs with
  | nil =>
    rw [returnTagLoop, loadTagId_of_not_aligned h]
    rfl
  | cons req reqs =>
    rw [returnTagLoop, loadTagId_of_not_aligned h]
    rfl

theorem tagsSpan_append (reqs reqs' : List TagRequest) :
    tagsSpan (reqs ++ reqs') = tagsSpan reqs + tagsSpan reqs' := by
  induction reqs with
  | nil => exact (Nat.zero_add _).symm
  | cons req reqs ih => rw [List.cons_append, tagsSpan, ih, tagsSpan, Nat.add_assoc]

/-- Behind a value buffer that is no whole number of words the walker faults. -/
theorem not_roundTrips_of_unaligned (w : World σ) (xs rest : List TagAnswer) {x : TagAnswer}
    (h : Requestable ((xs ++ x :: rest).map TagAnswer.req))
    (haligned : ∀ x ∈ xs, 4 ∣ x.req.valueLen) (hx : ¬ 4 ∣ x.req.valueLen) :
    ¬ RoundTrips w (xs ++ x :: rest) := by
  rintro ⟨t, error, w', hrun, rfl, -⟩
  obtain ⟨ram', hwalk, -, htags, hvalues⟩ := returnTagResponses_walk w xs (x :: rest) h haligned
  have hmem : x.req ∈ (xs ++ x :: rest).map TagAnswer.req :=
    List.mem_map_of_mem (List.mem_append_right _ List.mem_cons_self)
  have hreq := h.wellFormed x.req hmem
  have hsum : bufferSpan ((xs ++ x :: rest).map TagAnswer.req) =
      8 + (tagsSpan (xs.map TagAnswer.req) + (x.req.span + tagsSpan (rest.map TagAnswer.req))) +
        4 := by
    rw [bufferSpan, List.map_append, tagsSpan_append]
    rfl
  have hbase : tagsBase = 0x10000008 := tagsBase_eq
  obtain ⟨hid, hsz, -⟩ := htags
  obtain ⟨hcode, hvalue, -⟩ := hvalues
  have hret : ∀ y, tagsBase + tagsSpan (xs.map TagAnswer.req) ≤ y →
      y < tagsBase + tagsSpan (xs.map TagAnswer.req) + x.req.span →
      ¬ x.req.Ret (BitVec.ofNat 32 y) :=
    fun y hy hy' => h.outside x.req hmem y (by rw [tagsBase_eq] at hy; omega) (by
      rw [tagsBase_eq] at hy'
      omega)
  have hspan := tagsSpan_mod (xs.map TagAnswer.req)
  have hstep := returnTagLoop_answered (w := { w with ram := ram' })
    ((xs ++ x :: rest).map TagAnswer.req).length (rest.map TagAnswer.req) xs.length
    hreq (by omega) hid hsz hcode hvalue hret
  -- where the next id is looked for
  have hnot : ¬ TagAligned (BitVec.ofNat 32
      (tagsBase + tagsSpan (xs.map TagAnswer.req) + 12 + x.req.valueLen)) := by
    rw [tagAligned_ofNat_iff]
    omega
  rw [returnTagLoop_of_not_aligned _ _ _ hnot] at hstep
  have hresult := congrArg Run.result (hrun.symm.trans (hwalk.trans hstep))
  cases hresult

/-- Any responses of the right sizes. -/
theorem exists_answers {reqs : List TagRequest} (h : ∀ req ∈ reqs, req.WellFormed) :
    ∃ xs : List TagAnswer, xs.map TagAnswer.req = reqs := by
  induction reqs with
  | nil => exact ⟨[], rfl⟩
  | cons req reqs ih =>
    obtain ⟨xs, rfl⟩ := ih fun req' hreq' => h req' (List.mem_cons_of_mem _ hreq')
    have hret := (h req List.mem_cons_self).ret_nonneg
    refine ⟨⟨req, List.replicate req.retSz.toNat 0, ?_⟩ :: xs, rfl⟩
    rw [List.length_replicate]
    omega

/-- **When tag requests come back answered.**  Whatever the heap held, and whatever a
conforming VideoCore answers: exactly if every value buffer is a whole number of words. -/
theorem returnTagResponses_roundTrips_iff (w : World σ) {reqs : List TagRequest}
    (h : Requestable reqs) :
    (∀ ram xs, xs.map TagAnswer.req = reqs → RoundTrips { w with ram := ram } xs) ↔
      ∀ req ∈ reqs, 4 ∣ req.valueLen := by
  constructor
  · intro hroundTrips
    by_contra hunaligned
    obtain ⟨xs, rfl⟩ := exists_answers h.wellFormed
    -- the first tag after which the walker goes astray
    obtain ⟨x, hx⟩ : ∃ x, xs.find? (fun x => decide (¬ 4 ∣ x.req.valueLen)) = some x := by
      rw [← Option.isSome_iff_exists, List.find?_isSome]
      push Not at hunaligned
      obtain ⟨_, hmem, hx⟩ := hunaligned
      obtain ⟨x, hmem', rfl⟩ := List.mem_map.mp hmem
      exact ⟨x, hmem', decide_eq_true hx⟩
    obtain ⟨hx', before, rest, rfl, hbefore⟩ := List.find?_eq_some_iff_append.mp hx
    apply not_roundTrips_of_unaligned w before rest h _ (of_decide_eq_true hx')
    · exact hroundTrips w.ram _ rfl
    · intro x' hx'
      simpa using hbefore x' hx'
  · rintro haligned ram xs rfl
    obtain ⟨ram', hwalk, hrets, hend, -⟩ := returnTagResponses_walk { w with ram := ram } xs []
      (by rwa [List.append_nil]) fun x hx => haligned _ (List.mem_map_of_mem hx)
    rw [List.append_nil] at hwalk
    refine ⟨[], .none, { w with ram := ram' }, hwalk.trans ?_, rfl, hrets⟩
    have h0 : load32 ram' (BitVec.ofNat 32 (tagsBase + tagsSpan (xs.map TagAnswer.req))) = 0 := hend
    have haligned' : TagAligned (BitVec.ofNat 32 (tagsBase + tagsSpan (xs.map TagAnswer.req))) := by
      have hbase : tagsBase = 0x10000008 := tagsBase_eq
      have hspan := tagsSpan_mod (xs.map TagAnswer.req)
      rw [tagAligned_ofNat_iff]
      omega
    rw [List.map_nil, returnTagLoop, loadTagId_of_aligned haligned', ramLoad32,
      Program.view_bind_run, if_pos h0, returnTagEnd, List.length_map, if_neg (not_not.mpr rfl)]
    rfl

end Walk

/-- The requests of `tag_gpio_get_config` and `tag_clock_get_rate` at once, with local variables
at 16 MiB. -/
theorem returnTagResponses_roundTrips_gpio :
    RoundTrips (⟨(), fun _ => 0xff, 0, 0⟩ : World Unit)
      [⟨⟨TagId.gpioGetConfig.code, 0x1000000, 4, 0x1000004, 20⟩, List.replicate 20 1, rfl⟩,
        ⟨⟨TagId.clockGetRate.code, 0x1000020, 4, 0x1000024, 8⟩, List.replicate 8 2, rfl⟩] := by
  apply (returnTagResponses_roundTrips_iff (⟨(), fun _ => 0, 0, 0⟩ : World Unit) _).mpr _ _ _ rfl
  · constructor
    · intro req hreq
      rcases List.mem_pair.mp hreq with rfl | rfl
      · exact ⟨by decide, by decide, by decide, by decide, by decide⟩
      · exact ⟨by decide, by decide, by decide, by decide, by decide⟩
    · decide
    · intro req hreq y hy hy'
      replace hy : 0x10000000 ≤ y := hy
      replace hy' : y < 0x10000000 + 64 := hy'
      rcases List.mem_pair.mp hreq with rfl | rfl
      · show ¬ Region (BitVec.ofNat 32 0x1000004) 20 (BitVec.ofNat 32 y)
        rw [region_ofNat_iff (by decide) (by omega)]
        omega
      · show ¬ Region (BitVec.ofNat 32 0x1000024) 8 (BitVec.ofNat 32 y)
        rw [region_ofNat_iff (by decide) (by omega)]
        omega
    · refine List.pairwise_pair.mpr fun y => ?_
      show Region (BitVec.ofNat 32 0x1000004) 20 y → ¬ Region (BitVec.ofNat 32 0x1000024) 8 y
      have hself : BitVec.ofNat 32 y.toNat = y := by simp
      rw [← hself, region_ofNat_iff (by decide) y.isLt, region_ofNat_iff (by decide) y.isLt]
      omega
  · intro req hreq
    rcases List.mem_pair.mp hreq with rfl | rfl
    · decide
    · decide

/-- One byte that is asked for does not come back where the heap held ones. -/
theorem not_roundTrips_byte :
    Requestable [⟨1, 0x1000000, 0, 0x1000004, 1⟩] ∧
      ¬ RoundTrips (⟨(), fun _ => 1, 0, 0⟩ : World Unit)
        [⟨⟨1, 0x1000000, 0, 0x1000004, 1⟩, [0], rfl⟩] := by
  have h : Requestable [⟨1, 0x1000000, 0, 0x1000004, 1⟩] := by
    constructor
    · intro req hreq
      obtain rfl := List.mem_singleton.mp hreq
      exact ⟨by decide, by decide, by decide, by decide, by decide⟩
    · decide
    · intro req hreq y hy hy'
      obtain rfl := List.mem_singleton.mp hreq
      replace hy : 0x10000000 ≤ y := hy
      replace hy' : y < 0x10000000 + 28 := hy'
      show ¬ Region (BitVec.ofNat 32 0x1000004) 1 (BitVec.ofNat 32 y)
      rw [region_ofNat_iff (by decide) (by omega)]
      omega
    · exact List.pairwise_singleton _ _
  refine ⟨h, ?_⟩
  exact not_roundTrips_of_unaligned (⟨(), fun _ => 1, 0, 0⟩ : World Unit) [] [] h (by simp)
    (by decide)

end RpiBld
