/-
RpiBld/MailboxWalk.lean

`return_tag_responses` on a buffer that may hold anything.

The loop is driven by what the VideoCore left in the buffer: it goes on as long
as it does not find an id of zero, and the next tag is wherever the size of
this one says.  A round of it is a step of a `Walker`, which also knows how
many requests there are left; `LooksAt` are the bytes a round reads.  Neither
the number of requests nor the size of the buffer bounds the walk, and a size
may lead to an address where no tag can be read.  So the walk is safe exactly
as long as the tags that answer their requests stay in the buffer, each aligned,
and the end marker follows the last of them (`returnTagResponses_safe_iff`).

The copied values go to `ret` buffers outside of the property buffer, so the
buffer the walk looks at does not change under it.
-/
import RpiBld.MailboxRequests
import Mathlib.Logic.Relation

namespace RpiBld

open Traced

/-! ### One round -/

/-- A tag answers a request: the requested id, the response bit, and the expected size. -/
structure Answers (ram : Ram) (tag : Word) (req : TagRequest) : Prop where
  id_ne : load32 ram tag ≠ 0
  id : load32 ram tag = req.id
  response : load32 ram (tag + 8) &&& tagResponseCodeResponse ≠ 0
  size : req.retSz = (load32 ram (tag + 8) &&& ~~~tagResponseCodeResponse).toInt

/-- Where the loop goes on to. -/
def nextTag (ram : Ram) (tag : Word) : Word := tag + 12 + load32 ram (tag + 4)

/-- The RAM after a value was returned. -/
def valueReturned (ram : Ram) (tag : Word) (req : TagRequest) : Ram :=
  if req.retSz ≠ 0 then mcopy ram (tag + 12) req.ret req.retSz.toNat else ram

/-- What the loop logs and returns for a tag with this id and code that does not answer its
request. -/
def mismatch (req : TagRequest) (id code : Word) : Event × VcmailboxError :=
  if id ≠ req.id then
    (.log "Vcmailbox error: requested tag %08x but response is tag %08x" [.num req.id, .num id],
      .tagResponseOutOfOrder)
  else if code &&& tagResponseCodeResponse = 0 then
    (.log "Vcmailbox error: tag %08x response bit not set: %08x" [.num id, .num code],
      .tagResponseBitNotSet)
  else
    (.log
      "Vcmailbox error: requested tag %08x expects return size %u but response returned size %u"
      [.num id, .num (BitVec.ofInt 32 req.retSz),
        .num (BitVec.ofInt 32 (code &&& ~~~tagResponseCodeResponse).toInt)],
      .tagResponseSizeMismatch)

theorem mismatch_ne_none (req : TagRequest) (id code : Word) :
    (mismatch req id code).2 ≠ .none := by
  unfold mismatch
  split_ifs <;> simp

/-- Where the id is wrong, the code is not looked at. -/
theorem mismatch_of_ne {req : TagRequest} {id : Word} (h : id ≠ req.id) (code code' : Word) :
    mismatch req id code = mismatch req id code' := by
  rw [mismatch, if_pos h, mismatch, if_pos h]

section Round

variable {σ : Type} {n i : Int} {tag : Word} {req : TagRequest} {reqs : List TagRequest}
variable {w : World σ}

theorem returnTagLoop_zero (haligned : TagAligned tag) (h : load32 w.ram tag = 0)
    (reqs : List TagRequest) : returnTagLoop n tag reqs i w = returnTagEnd n i w := by
  cases reqs with
  | nil =>
    rw [returnTagLoop, loadTagId_of_aligned haligned, ramLoad32, Program.view_bind_run, if_pos h]
  | cons req reqs =>
    rw [returnTagLoop, loadTagId_of_aligned haligned, ramLoad32, Program.view_bind_run, if_pos h]

theorem returnTagLoop_answers (haligned : TagAligned tag) (h : Answers w.ram tag req) :
    returnTagLoop n tag (req :: reqs) i w =
      returnTagLoop n (nextTag (valueReturned w.ram tag req) tag) reqs (i + 1)
        { w with ram := valueReturned w.ram tag req } := by
  have hcopy : (returnTagValue tag req : Drv σ Unit) w =
      ⟨[], .ok (), { w with ram := valueReturned w.ram tag req }⟩ := by
    rw [returnTagValue, valueReturned]
    by_cases h0 : req.retSz ≠ 0
    · rw [if_pos h0, if_pos h0]
      rfl
    · rw [if_neg h0, if_neg h0]
      rfl
  rw [returnTagLoop, loadTagId_of_aligned haligned, ramLoad32, Program.view_bind_run,
    if_neg h.id_ne, if_neg (not_not.mpr h.id), ramLoad32, Program.view_bind_run,
    if_neg h.response, if_neg (not_not.mpr h.size)]
  refine (Program.bind_of_ok hcopy).trans ?_
  rfl

theorem returnTagLoop_mismatch (haligned : TagAligned tag) (hid : load32 w.ram tag ≠ 0)
    (h : ¬ Answers w.ram tag req) :
    returnTagLoop n tag (req :: reqs) i w =
      ⟨[(mismatch req (load32 w.ram tag) (load32 w.ram (tag + 8))).1],
        .ok (mismatch req (load32 w.ram tag) (load32 w.ram (tag + 8))).2, w⟩ := by
  rw [returnTagLoop, loadTagId_of_aligned haligned, ramLoad32, Program.view_bind_run, if_neg hid,
    mismatch]
  by_cases hreq : load32 w.ram tag ≠ req.id
  · rw [if_pos hreq, if_pos hreq]
    rfl
  · rw [if_neg hreq, if_neg hreq, ramLoad32, Program.view_bind_run]
    by_cases hbit : load32 w.ram (tag + 8) &&& tagResponseCodeResponse = 0
    · rw [if_pos hbit, if_pos hbit]
      rfl
    · rw [if_neg hbit, if_neg hbit, if_pos]
      · rfl
      · exact fun hsize => h ⟨hid, not_not.mp hreq, hbit, hsize⟩

end Round

/-! ### The walk -/

/-- The loop between two rounds. -/
structure Walker where
  tag : Word
  reqs : List TagRequest
  answered : Int
  ram : Ram

/-- A round that goes on to the next tag. -/
inductive WalkStep : Walker → Walker → Prop
  | next {tag : Word} {req : TagRequest} {reqs : List TagRequest} {i : Int} {ram : Ram}
      (haligned : TagAligned tag) (h : Answers ram tag req) :
      WalkStep ⟨tag, req :: reqs, i, ram⟩
        ⟨nextTag (valueReturned ram tag req) tag, reqs, i + 1, valueReturned ram tag req⟩

/-- The bytes a round reads: the id, the code where the id is right, and where the tag answers its
request the value and the size. -/
inductive LooksAt : Walker → Word → Prop
  | id {c : Walker} {y : Word} (hy : Region c.tag 4 y) : LooksAt c y
  | code {tag : Word} {req : TagRequest} {reqs : List TagRequest} {i : Int} {ram : Ram} {y : Word}
      (hne : load32 ram tag ≠ 0) (hid : load32 ram tag = req.id) (hy : Region (tag + 8) 4 y) :
      LooksAt ⟨tag, req :: reqs, i, ram⟩ y
  | value {tag : Word} {req : TagRequest} {reqs : List TagRequest} {i : Int} {ram : Ram} {y : Word}
      (h : Answers ram tag req) (hy : Region (tag + 12) req.retSz.toNat y) :
      LooksAt ⟨tag, req :: reqs, i, ram⟩ y
  | size {tag : Word} {req : TagRequest} {reqs : List TagRequest} {i : Int} {ram : Ram} {y : Word}
      (h : Answers ram tag req) (hy : Region (tag + 4) 4 y) :
      LooksAt ⟨tag, req :: reqs, i, ram⟩ y

/-- The code takes such a step: the rest of its run is the run from there. -/
theorem WalkStep.run {σ : Type} {c c' : Walker} (h : WalkStep c c') (n : Int) (w : World σ) :
    returnTagLoop n c.tag c.reqs c.answered { w with ram := c.ram } =
      returnTagLoop n c'.tag c'.reqs c'.answered { w with ram := c'.ram } := by
  obtain ⟨haligned, hans⟩ := h
  exact returnTagLoop_answers (w := { w with ram := _ }) haligned hans

/-- A round looks only at `allotted` bytes, at an aligned tag, and at a request only where there is
one left. -/
structure LooksHere (allotted : Word → Prop) (c : Walker) : Prop where
  aligned : TagAligned c.tag
  allotted : ∀ y, LooksAt c y → allotted y
  request : load32 c.ram c.tag ≠ 0 → c.reqs ≠ []

/-- Every round of a walk does. -/
def LooksSafely (allotted : Word → Prop) (c : Walker) : Prop :=
  ∀ c', Relation.ReflTransGen WalkStep c c' → LooksHere allotted c'

/-- The buffer holds exactly these tags before the end marker, each answering its request. -/
def HoldsTags (ram : Ram) : Word → List TagRequest → Prop
  | tag, [] => load32 ram tag = 0
  | tag, req :: reqs => Answers ram tag req ∧ HoldsTags ram (nextTag ram tag) reqs

/-- The buffer holds more than `n` tags before the end marker. -/
def HasMoreTags (ram : Ram) : Word → Nat → Prop
  | tag, 0 => load32 ram tag ≠ 0
  | tag, n + 1 => load32 ram tag ≠ 0 ∧ HasMoreTags ram (nextTag ram tag) n

/-- The rounds of a walk are those of the code, which does from there on what is left of its
run. -/
theorem walk_run {σ : Type} {c : Walker} (w : World σ) (prop : Word) (reqs : List TagRequest)
    (h : Relation.ReflTransGen WalkStep ⟨prop + 8, reqs, 0, w.ram⟩ c) :
    returnTagResponses prop reqs w =
      returnTagLoop reqs.length c.tag c.reqs c.answered { w with ram := c.ram } := by
  induction h with
  | refl => rfl
  | tail _ hstep ih => exact ih.trans (hstep.run reqs.length w)

/-- The walk over a returned buffer is safe. -/
structure WalksSafely {σ : Type} (allotted : Word → Prop) (prop : Word) (reqs : List TagRequest)
    (w : World σ) : Prop where
  rounds : ∀ c, Relation.ReflTransGen WalkStep ⟨prop + 8, reqs, 0, w.ram⟩ c →
    returnTagResponses prop reqs w =
      returnTagLoop reqs.length c.tag c.reqs c.answered { w with ram := c.ram }
  looks : LooksSafely allotted ⟨prop + 8, reqs, 0, w.ram⟩
  depends : ∀ ram, (∀ y, allotted y → ram y = w.ram y) →
    (returnTagResponses prop reqs { w with ram := ram }).events =
        (returnTagResponses prop reqs w).events ∧
      (returnTagResponses prop reqs { w with ram := ram }).result =
        (returnTagResponses prop reqs w).result
  returns : ∃ e, (returnTagResponses prop reqs w).result = .ok e
  accepts : (returnTagResponses prop reqs w).result = .ok .none → HoldsTags w.ram (prop + 8) reqs
  rejects : HasMoreTags w.ram (prop + 8) reqs.length →
    ∃ e, e ≠ .none ∧ (returnTagResponses prop reqs w).result = .ok e

/-- The area of `n` bytes from `a` on is allotted. -/
def Within (allotted : Word → Prop) (a : Word) (n : Nat) : Prop := ∀ y, Region a n y → allotted y

/-- The tags from `tag` on that answer their requests are aligned and stay in the allotted bytes,
and so does what is looked at after the last of them; if all requests are answered, that is the
end marker. -/
def StaysInBuffer (allotted : Word → Prop) (ram : Ram) : Word → List TagRequest → Prop
  | tag, [] => TagAligned tag ∧ Within allotted tag 4 ∧ load32 ram tag = 0
  | tag, req :: reqs =>
    TagAligned tag ∧ Within allotted tag 4 ∧
      (load32 ram tag ≠ 0 → load32 ram tag = req.id → Within allotted (tag + 8) 4) ∧
      (Answers ram tag req → Within allotted (tag + 4) 4 ∧
        Within allotted (tag + 12) req.retSz.toNat ∧
        StaysInBuffer allotted ram (nextTag ram tag) reqs)

section Walk

variable {allotted : Word → Prop} {ram ram' : Ram} {tag : Word} {req : TagRequest}
variable {reqs : List TagRequest}

theorem load32_congr_within {a : Word} (hin : Within allotted a 4)
    (hsame : ∀ y, allotted y → ram' y = ram y) : load32 ram' a = load32 ram a :=
  leWord_congr fun _ hi => hsame _ (hin _ (Region.of_offset hi (by decide)))

/-- Returning a value outside of the allotted bytes. -/
theorem valueReturned_of_allotted (hret : ∀ y, allotted y → ¬ req.Ret y)
    (hsize : req.retSz < 2 ^ 32) {y : Word} (hy : allotted y) :
    valueReturned ram tag req y = ram y := by
  unfold valueReturned
  by_cases h0 : req.retSz ≠ 0
  · rw [if_pos h0]
    exact mcopy_of_not_region _ _ _ (by omega) (hret y hy)
  · rw [if_neg h0]

/-- A request that was answered is not larger than an `int`. -/
theorem Answers.size_lt (h : Answers ram tag req) : req.retSz < 2 ^ 32 := by
  have hlt := @BitVec.toInt_lt 32 (load32 ram (tag + 8) &&& ~~~tagResponseCodeResponse)
  rw [← h.size] at hlt
  omega

theorem answers_congr (hid : load32 ram' tag = load32 ram tag)
    (hcode : load32 ram tag ≠ 0 → load32 ram tag = req.id →
      load32 ram' (tag + 8) = load32 ram (tag + 8)) :
    Answers ram' tag req ↔ Answers ram tag req := by
  constructor
  · intro h
    have hid_ne := h.id_ne
    have hreq := h.id
    rw [hid] at hid_ne hreq
    have hsame := hcode hid_ne hreq
    exact ⟨hid_ne, hreq, hsame ▸ h.response, hsame ▸ h.size⟩
  · intro h
    have hsame := hcode h.id_ne h.id
    exact ⟨hid ▸ h.id_ne, hid ▸ h.id, hsame ▸ h.response, hsame ▸ h.size⟩

/-- A tag answers its request in both memories where the bytes that decide it are the same. -/
theorem answers_iff_of_within (hin : Within allotted tag 4)
    (hcode : load32 ram tag ≠ 0 → load32 ram tag = req.id → Within allotted (tag + 8) 4)
    (hsame : ∀ y, allotted y → ram' y = ram y) : Answers ram' tag req ↔ Answers ram tag req :=
  answers_congr (load32_congr_within hin hsame) fun hne hreq =>
    load32_congr_within (hcode hne hreq) hsame

/-- The allotted bytes are still the same after a value was returned. -/
theorem Answers.valueReturned_same (h : Answers ram' tag req) (hret : ∀ y, allotted y → ¬ req.Ret y)
    (hsame : ∀ y, allotted y → ram' y = ram y) :
    ∀ y, allotted y → valueReturned ram' tag req y = ram y :=
  fun y hy => (valueReturned_of_allotted hret h.size_lt hy).trans (hsame y hy)

/-- And so is the tag that follows. -/
theorem Answers.nextTag_same (h : Answers ram' tag req) (hret : ∀ y, allotted y → ¬ req.Ret y)
    (hsame : ∀ y, allotted y → ram' y = ram y) (hsize : Within allotted (tag + 4) 4) :
    nextTag (valueReturned ram' tag req) tag = nextTag ram tag := by
  rw [nextTag, load32_congr_within hsize (h.valueReturned_same hret hsame)]
  rfl

/-! ### Looking -/

/-- A walk is safe if this round is and the walk from the next one is. -/
theorem looksSafely_iff_step {c : Walker} :
    LooksSafely allotted c ↔
      LooksHere allotted c ∧ ∀ c', WalkStep c c' → LooksSafely allotted c' := by
  constructor
  · intro h
    exact ⟨h c .refl, fun c' hstep c'' hreach => h c'' (.head hstep hreach)⟩
  · rintro ⟨hhere, hnext⟩ c' hreach
    rcases Relation.ReflTransGen.cases_head hreach with rfl | ⟨c₁, hstep, hrest⟩
    · exact hhere
    · exact hnext c₁ hstep c' hrest

theorem looksHere_nil_iff {i : Int} :
    LooksHere allotted ⟨tag, [], i, ram⟩ ↔
      TagAligned tag ∧ Within allotted tag 4 ∧ load32 ram tag = 0 := by
  constructor
  · rintro ⟨haligned, hlook, hreq⟩
    exact ⟨haligned, fun y hy => hlook y (.id hy), not_not.mp fun hne => hreq hne rfl⟩
  · rintro ⟨haligned, hin, hid⟩
    refine ⟨haligned, fun y hlook => ?_, fun hne => absurd hid hne⟩
    cases hlook with
    | id hy => exact hin y hy

theorem looksHere_cons_iff {i : Int} :
    LooksHere allotted ⟨tag, req :: reqs, i, ram⟩ ↔
      TagAligned tag ∧ Within allotted tag 4 ∧
        (load32 ram tag ≠ 0 → load32 ram tag = req.id → Within allotted (tag + 8) 4) ∧
        (Answers ram tag req → Within allotted (tag + 4) 4 ∧
          Within allotted (tag + 12) req.retSz.toNat) := by
  constructor
  · rintro ⟨haligned, h, -⟩
    exact ⟨haligned, fun y hy => h y (.id hy), fun hne hid y hy => h y (.code hne hid hy),
      fun hans => ⟨fun y hy => h y (.size hans hy), fun y hy => h y (.value hans hy)⟩⟩
  · rintro ⟨haligned, hid, hcode, hans⟩
    refine ⟨haligned, fun y hlook => ?_, fun _ => List.cons_ne_nil _ _⟩
    cases hlook with
    | id hy => exact hid y hy
    | code hne hreq hy => exact hcode hne hreq y hy
    | value h hy => exact (hans h).2 y hy
    | size h hy => exact (hans h).1 y hy

/-- The walk looks at allotted bytes exactly as long as the answered tags stay there.  The RAM
of the walk has other bytes than `ram` only where values were returned to. -/
theorem looksSafely_iff (hret : ∀ req ∈ reqs, ∀ y, allotted y → ¬ req.Ret y)
    (hsame : ∀ y, allotted y → ram' y = ram y) (i : Int) :
    LooksSafely allotted ⟨tag, reqs, i, ram'⟩ ↔ StaysInBuffer allotted ram tag reqs := by
  induction reqs generalizing tag ram' i with
  | nil =>
    rw [looksSafely_iff_step, looksHere_nil_iff, StaysInBuffer]
    constructor
    · rintro ⟨⟨haligned, hin, hid⟩, -⟩
      exact ⟨haligned, hin, (load32_congr_within hin hsame).symm.trans hid⟩
    · rintro ⟨haligned, hin, hid⟩
      refine ⟨⟨haligned, hin, (load32_congr_within hin hsame).trans hid⟩, ?_⟩
      rintro c' ⟨⟩
  | cons req reqs ih =>
    rw [looksSafely_iff_step, looksHere_cons_iff, StaysInBuffer]
    have hfirst := hret req List.mem_cons_self
    have hrest : ∀ req' ∈ reqs, ∀ y, allotted y → ¬ req'.Ret y :=
      fun req' h => hret req' (List.mem_cons_of_mem _ h)
    -- a tag that answers is followed by the same tag in both memories
    have hnext : Answers ram' tag req → Within allotted (tag + 4) 4 →
        (LooksSafely allotted ⟨nextTag (valueReturned ram' tag req) tag, reqs, i + 1,
            valueReturned ram' tag req⟩ ↔
          StaysInBuffer allotted ram (nextTag ram tag) reqs) := by
      intro hans hsize
      rw [hans.nextTag_same hfirst hsame hsize]
      exact ih hrest (hans.valueReturned_same hfirst hsame) (i + 1)
    constructor
    · rintro ⟨⟨haligned, hid, hcode, hans⟩, hstep⟩
      have hid' := load32_congr_within hid hsame
      rw [hid'] at hcode
      have hiff := answers_iff_of_within hid hcode hsame
      refine ⟨haligned, hid, hcode, fun h => ?_⟩
      obtain ⟨hsize, hvalue⟩ := hans (hiff.mpr h)
      have hrest := hstep _ (.next haligned (hiff.mpr h))
      exact ⟨hsize, hvalue, (hnext (hiff.mpr h) hsize).mp hrest⟩
    · rintro ⟨haligned, hid, hcode, hans⟩
      have hid' := load32_congr_within hid hsame
      have hiff := answers_iff_of_within hid hcode hsame
      refine ⟨⟨haligned, hid, ?_, fun h => ?_⟩, ?_⟩
      · rw [hid']
        exact hcode
      · obtain ⟨hsize, hvalue, -⟩ := hans (hiff.mp h)
        exact ⟨hsize, hvalue⟩
      · rintro c' ⟨-, h⟩
        obtain ⟨hsize, -, hstay⟩ := hans (hiff.mp h)
        exact (hnext h hsize).mpr hstay

/-! ### The runs -/

variable {σ : Type} {n i : Int} {w : World σ}

/-- The end marker: success is reported only after as many tags as there are requests. -/
theorem returnTagEnd_run (n i : Int) (w : World σ) :
    ∃ t e, returnTagEnd n i w = ⟨t, .ok e, w⟩ ∧ (e = .none ↔ i = n) := by
  unfold returnTagEnd
  by_cases h : i ≠ n
  · rw [if_pos h]
    exact ⟨_, _, rfl, by simp [h]⟩
  · rw [if_neg h]
    exact ⟨_, _, rfl, by simp [not_not.mp h]⟩

theorem returnTagEnd_congr (n i : Int) (w w' : World σ) :
    (returnTagEnd n i w').events = (returnTagEnd n i w).events ∧
      (returnTagEnd n i w').result = (returnTagEnd n i w).result := by
  unfold returnTagEnd
  by_cases h : i ≠ n
  · rw [if_pos h]
    exact ⟨rfl, rfl⟩
  · rw [if_neg h]
    exact ⟨rfl, rfl⟩

/-- A walk within the buffer returns, and reports success only for the tags that were asked
for. -/
theorem returnTagLoop_returns (hret : ∀ req ∈ reqs, ∀ y, allotted y → ¬ req.Ret y)
    (hsame : ∀ y, allotted y → w.ram y = ram y) (hstay : StaysInBuffer allotted ram tag reqs)
    (hn : i + reqs.length = n) :
    ∃ e, (returnTagLoop n tag reqs i w).result = .ok e ∧ (e = .none → HoldsTags ram tag reqs) := by
  induction reqs generalizing tag i w with
  | nil =>
    obtain ⟨haligned, hin, hid⟩ := hstay
    obtain ⟨t, e, hend, -⟩ := returnTagEnd_run n i w
    refine ⟨e, ?_, fun _ => hid⟩
    rw [returnTagLoop_zero haligned ((load32_congr_within hin hsame).trans hid), hend]
  | cons req reqs ih =>
    obtain ⟨haligned, hin, hcode, hans⟩ := hstay
    have hfirst := hret req List.mem_cons_self
    have hiff := answers_iff_of_within hin hcode hsame
    rw [List.length_cons] at hn
    by_cases h0 : load32 w.ram tag = 0
    · -- the end marker, with a request left
      obtain ⟨t, e, hend, he⟩ := returnTagEnd_run n i w
      refine ⟨e, by rw [returnTagLoop_zero haligned h0, hend], fun hnone => ?_⟩
      have := he.mp hnone
      omega
    by_cases h : Answers w.ram tag req
    · have hans' := hiff.mp h
      obtain ⟨hsize, -, hrest⟩ := hans hans'
      obtain ⟨e, hrun, he⟩ := ih (w := { w with ram := valueReturned w.ram tag req }) (i := i + 1)
        (fun req' h => hret req' (List.mem_cons_of_mem _ h)) (h.valueReturned_same hfirst hsame)
        hrest (by omega)
      refine ⟨e, ?_, fun hnone => ⟨hans', he hnone⟩⟩
      rw [returnTagLoop_answers haligned h, h.nextTag_same hfirst hsame hsize]
      exact hrun
    · -- a tag that is not the one asked for, or does not answer
      refine ⟨_, by rw [returnTagLoop_mismatch haligned h0 h], fun hnone => ?_⟩
      exact absurd hnone (mismatch_ne_none _ _ _)

/-- Only the allotted bytes matter to a walk that stays within them. -/
theorem returnTagLoop_congr {w' : World σ} (hret : ∀ req ∈ reqs, ∀ y, allotted y → ¬ req.Ret y)
    (hsame : ∀ y, allotted y → w.ram y = ram y) (hsame' : ∀ y, allotted y → w'.ram y = ram y)
    (hstay : StaysInBuffer allotted ram tag reqs) :
    (returnTagLoop n tag reqs i w').events = (returnTagLoop n tag reqs i w).events ∧
      (returnTagLoop n tag reqs i w').result = (returnTagLoop n tag reqs i w).result := by
  induction reqs generalizing tag i w w' with
  | nil =>
    obtain ⟨haligned, hin, hid⟩ := hstay
    rw [returnTagLoop_zero haligned ((load32_congr_within hin hsame).trans hid),
      returnTagLoop_zero haligned ((load32_congr_within hin hsame').trans hid)]
    exact returnTagEnd_congr n i w w'
  | cons req reqs ih =>
    obtain ⟨haligned, hin, hcode, hans⟩ := hstay
    have hfirst := hret req List.mem_cons_self
    have hid := load32_congr_within hin hsame
    have hid' := load32_congr_within hin hsame'
    have hiff := answers_iff_of_within hin hcode hsame
    have hiff' := answers_iff_of_within hin hcode hsame'
    by_cases h0 : load32 ram tag = 0
    · rw [returnTagLoop_zero haligned (hid.trans h0), returnTagLoop_zero haligned (hid'.trans h0)]
      exact returnTagEnd_congr n i w w'
    by_cases h : Answers ram tag req
    · obtain ⟨hsize, -, hrest⟩ := hans h
      have hans' := hiff.mpr h
      have hans'' := hiff'.mpr h
      rw [returnTagLoop_answers haligned hans', returnTagLoop_answers haligned hans'',
        hans'.nextTag_same hfirst hsame hsize, hans''.nextTag_same hfirst hsame' hsize]
      exact ih (fun req' h => hret req' (List.mem_cons_of_mem _ h))
        (hans'.valueReturned_same hfirst hsame) (hans''.valueReturned_same hfirst hsame') hrest
    · rw [returnTagLoop_mismatch haligned (hid.symm ▸ h0) (mt hiff.mp h),
        returnTagLoop_mismatch haligned (hid'.symm ▸ h0) (mt hiff'.mp h), hid, hid']
      -- the codes may differ where the ids already do
      by_cases hreq : load32 ram tag = req.id
      · have hin8 := hcode h0 hreq
        rw [load32_congr_within hin8 hsame, load32_congr_within hin8 hsame']
        exact ⟨rfl, rfl⟩
      · rw [mismatch_of_ne hreq _ (load32 w.ram (tag + 8))]
        exact ⟨rfl, rfl⟩

/-- A buffer does not hold both exactly `n` and more than `n` tags. -/
theorem HoldsTags.not_hasMoreTags (h : HoldsTags ram tag reqs) :
    ¬ HasMoreTags ram tag reqs.length := by
  induction reqs generalizing tag with
  | nil => exact fun hmore => hmore h
  | cons req reqs ih => exact fun hmore => ih h.2 hmore.2

/-- The walk over any buffer, with any bytes allotted to it. -/
theorem walksSafely_iff (hret : ∀ req ∈ reqs, ∀ y, allotted y → ¬ req.Ret y) (prop : Word) :
    WalksSafely allotted prop reqs w ↔ StaysInBuffer allotted w.ram (prop + 8) reqs := by
  have hlooks : LooksSafely allotted ⟨prop + 8, reqs, 0, w.ram⟩ ↔
      StaysInBuffer allotted w.ram (prop + 8) reqs := looksSafely_iff hret (fun _ _ => rfl) 0
  constructor
  · intro h
    exact hlooks.mp h.looks
  · intro hstay
    obtain ⟨e, hrun, he⟩ := returnTagLoop_returns (w := w) (i := 0) (n := reqs.length) hret
      (fun _ _ => rfl) hstay (Int.zero_add _)
    have haccepts : (returnTagResponses prop reqs w).result = .ok .none →
        HoldsTags w.ram (prop + 8) reqs := by
      intro hok
      exact he (Except.ok.inj (hrun.symm.trans hok))
    refine ⟨fun c => walk_run w prop reqs, hlooks.mpr hstay, ?_, ⟨e, hrun⟩, haccepts,
      fun hmore => ⟨e, ?_, hrun⟩⟩
    · intro ram hsame
      exact returnTagLoop_congr hret (fun _ _ => rfl) hsame
        hstay
    · rintro rfl
      exact (haccepts hrun).not_hasMoreTags hmore

end Walk

/-! ### The buffer that was built -/

/-- The bytes `build_property_buffer` allotted to the buffer of these requests, where the heap held
`sent`. -/
def Allotted (sent : Ram) (reqs : List TagRequest) (y : Word) : Prop :=
  let built := buildPropertyBuffer sent reqs
  Region built.2 (load32 built.1 built.2).toNat y

/-- **Safety of the tag walker.**  Whatever bytes come back, the walk over them is safe just
when the tags that answer their requests are aligned and stay in the buffer and the end marker
follows the last request's. -/
theorem returnTagResponses_safe_iff {σ : Type} (sent : Ram) (reqs : List TagRequest) (w : World σ)
    (hret : ∀ req ∈ reqs, ∀ y, Allotted sent reqs y → ¬ req.Ret y) :
    let prop := (buildPropertyBuffer sent reqs).2
    WalksSafely (Allotted sent reqs) prop reqs w ↔
      StaysInBuffer (Allotted sent reqs) w.ram (prop + 8) reqs :=
  walksSafely_iff hret _

/-- A request without arguments and without a value. -/
def bareRequest : TagRequest := ⟨1, 0, 0, 0x1000000, 0⟩

/-- The buffer of a `bareRequest`, answered, with `mark` in place of the end marker. -/
def bareAnswer (mark : Word) : World Unit :=
  let ram : Ram := store32 (fun _ => 0) (heapRamAddr + 8) bareRequest.id
  let ram := store32 ram (heapRamAddr + 16) tagResponseCodeResponse
  ⟨(), store32 ram (heapRamAddr + 20) mark, 0, 0⟩

theorem bareRequest_not_ret {y : Word} : ¬ bareRequest.Ret y := Nat.not_lt_zero _

theorem buildPropertyBuffer_bare :
    (buildPropertyBuffer (fun _ => 0) [bareRequest]).2 = heapRamAddr ∧
      ∀ y, Allotted (fun _ => 0) [bareRequest] y ↔ Region heapRamAddr 32 y := by
  have hwellFormed : ∀ req ∈ [bareRequest], req.WellFormed := by
    intro req hreq
    obtain rfl := List.mem_singleton.mp hreq
    exact ⟨by decide, by decide, by decide, by decide, by decide⟩
  obtain ⟨hprop, hsz, -⟩ := buildPropertyBuffer_sentAt (fun _ => 0) hwellFormed (by decide)
    (by
      intro req hreq y _ _
      obtain rfl := List.mem_singleton.mp hreq
      exact Nat.not_lt_zero _)
  refine ⟨hprop, fun y => ?_⟩
  show Region (buildPropertyBuffer (fun _ => 0) [bareRequest]).2 (load32
    (buildPropertyBuffer (fun _ => 0) [bareRequest]).1
      (buildPropertyBuffer (fun _ => 0) [bareRequest]).2).toNat y ↔ _
  rw [hprop, hsz]
  rfl

theorem bareAnswer_answers {mark : Word} (hmark : mark = 0 ∨ mark = 7) :
    Answers (bareAnswer mark).ram (heapRamAddr + 8) bareRequest ∧
      nextTag (bareAnswer mark).ram (heapRamAddr + 8) = heapRamAddr + 20 ∧
      load32 (bareAnswer mark).ram (heapRamAddr + 20) = mark := by
  rcases hmark with rfl | rfl
  · exact ⟨⟨by decide, by decide, by decide, by decide⟩, by decide, by decide⟩
  · exact ⟨⟨by decide, by decide, by decide, by decide⟩, by decide, by decide⟩

theorem within_bare (off : Nat) {n : Nat} (h : off + n ≤ 32) :
    Within (Allotted (fun _ => 0) [bareRequest]) (heapRamAddr + BitVec.ofNat 32 off) n := by
  intro y hy
  rw [buildPropertyBuffer_bare.2]
  have hheap : heapRamAddr = BitVec.ofNat 32 0x10000000 := rfl
  have hself : BitVec.ofNat 32 y.toNat = y := by simp
  rw [← hself, hheap, ← BitVec.ofNat_add, region_ofNat_iff (by omega) y.isLt] at hy
  rw [← hself, hheap, region_ofNat_iff (by omega) y.isLt]
  omega

/-- The usual answer to one request. -/
theorem returnTagResponses_safe_bare :
    WalksSafely (Allotted (fun _ => 0) [bareRequest])
      (buildPropertyBuffer (fun _ => 0) [bareRequest]).2 [bareRequest] (bareAnswer 0) := by
  obtain ⟨-, hnext, hmark⟩ := bareAnswer_answers (.inl rfl)
  apply (returnTagResponses_safe_iff (fun _ => 0) [bareRequest] (bareAnswer 0) _).mpr
  · rw [buildPropertyBuffer_bare.1]
    refine ⟨by decide, within_bare 8 (by decide), fun _ _ => within_bare 16 (by decide),
      fun _ => ⟨within_bare 12 (by decide), within_bare 20 (by decide), ?_⟩⟩
    rw [hnext]
    exact ⟨by decide, within_bare 20 (by decide), hmark⟩
  · intro req hreq y _
    obtain rfl := List.mem_singleton.mp hreq
    exact bareRequest_not_ret

/-- A second tag in place of the end marker. -/
theorem not_walksSafely_surplus :
    ¬ WalksSafely (Allotted (fun _ => 0) [bareRequest])
      (buildPropertyBuffer (fun _ => 0) [bareRequest]).2 [bareRequest] (bareAnswer 7) := by
  obtain ⟨hans, hnext, hmark⟩ := bareAnswer_answers (.inr rfl)
  rw [buildPropertyBuffer_bare.1, walksSafely_iff]
  · rintro ⟨-, -, -, hstay⟩
    obtain ⟨-, -, -, -, hid⟩ := hstay hans
    rw [hnext, hmark] at hid
    exact absurd hid (by decide)
  · intro req hreq y _
    obtain rfl := List.mem_singleton.mp hreq
    exact bareRequest_not_ret

end RpiBld
