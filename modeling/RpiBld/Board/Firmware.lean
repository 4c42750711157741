/-
RpiBld/Board/Firmware.lean

The VideoCore's side of the mailbox.

The firmware walks the tags of a property buffer on the heap and answers those it
knows, as far as they lie in the buffer and their values have room for the answer.
It does not write below the heap (`Firmware.process_agree`), and whatever it answers
to a request of the tag functions gets to their local variables
(`returnTagResponses_answered`).
-/
import RpiBld.BootRam
import RpiBld.Sd.BlockCopy

namespace RpiBld

open Traced

/-- What the VideoCore knows: the clocks, and the pins of the GPIO expander. -/
structure Firmware where
  clockState : Word → Word
  clockRate : Word → Word
  gpioState : Word → Word
  gpioDirection : Word → Word
  gpioPolarity : Word → Word
  gpioTermination : Word → Word
  gpioPullUp : Word → Word

namespace Firmware

variable (F : Firmware)

/-- The words a tag is answered with, by its id and its argument; a zero in front says that there
is no error. -/
def answer (id arg : Word) : Option (List Word) :=
  if id = TagId.clockGetState.code then some [arg, F.clockState arg]
  else if id = TagId.clockGetRate.code then some [arg, F.clockRate arg]
  else if id = TagId.gpioGetState.code then some [0, F.gpioState arg]
  else if id = TagId.gpioGetConfig.code then
    some [0, F.gpioDirection arg, F.gpioPolarity arg, F.gpioTermination arg, F.gpioPullUp arg]
  else none

/-- Fill in one tag: the response code, and the answer. -/
def fillIn (ram : Ram) (a : Nat) (ws : List Word) : Ram :=
  overlay
    (store32 ram (BitVec.ofNat 32 (a + 8))
      (tagResponseCodeResponse ||| BitVec.ofNat 32 (4 * ws.length)))
    (BitVec.ofNat 32 (a + 12)) (4 * ws.length) (wordBytes ws)

/-- The answer to the tag at `a`, where it has room in the value buffer, and the value buffer in
the property buffer, which ends at `hi`. -/
def answerTag (ram : Ram) (a hi : Nat) : Ram :=
  let size := (load32 ram (BitVec.ofNat 32 (a + 4))).toNat
  match F.answer (load32 ram (BitVec.ofNat 32 a)) (load32 ram (BitVec.ofNat 32 (a + 12))) with
  | some ws => if 4 * ws.length ≤ size ∧ a + 12 + size ≤ hi then fillIn ram a ws else ram
  | none => ram

/-- The tags from `a` on, at most so many. -/
def walk (ram : Ram) (a hi : Nat) : Nat → Ram
  | 0 => ram
  | n + 1 =>
    if hi < a + 12 ∨ load32 ram (BitVec.ofNat 32 a) = 0 then ram
    else
      let size := (load32 ram (BitVec.ofNat 32 (a + 4))).toNat
      walk (F.answerTag ram a hi) (a + 12 + (size + 3) / 4 * 4) hi n

/-- What the VideoCore has done to RAM once it answers the message with this address. -/
def process (ram : Ram) (prop : Word) : Ram :=
  let size := (load32 ram prop).toNat
  if heapRamAddr.toNat ≤ prop.toNat ∧ 8 ≤ size ∧ prop.toNat + size ≤ 2 ^ 32 then
    F.walk (store32 ram (prop + 4) propResponseCodeResponse) (prop.toNat + 8) (prop.toNat + size)
      (size / 12)
  else ram

/-! ### What the VideoCore leaves alone -/

variable {F} {ram : Ram} {a hi lo : Nat}

theorem fillIn_agree {ws : List Word} (hfit : a + 12 + 4 * ws.length ≤ 2 ^ 32) (hlo : lo ≤ a + 8) :
    Agree ram (fillIn ram a ws) 0 lo := by
  have hcode : Agree ram (store32 ram (BitVec.ofNat 32 (a + 8))
      (tagResponseCodeResponse ||| BitVec.ofNat 32 (4 * ws.length))) 0 lo :=
    agree_overlay (by omega) (by omega) (.inl hlo)
  exact hcode.trans (agree_overlay (by omega) (by omega) (.inl (by omega)))

theorem answerTag_agree (hhi : hi ≤ 2 ^ 32) (hlo : lo ≤ a + 8) :
    Agree ram (F.answerTag ram a hi) 0 lo := by
  unfold answerTag
  dsimp only
  split
  · split_ifs with hroom
    · exact fillIn_agree (by omega) hlo
    · exact Agree.refl
  · exact Agree.refl

theorem walk_agree (hhi : hi ≤ 2 ^ 32) (n : Nat) (hlo : lo ≤ a) :
    Agree ram (F.walk ram a hi n) 0 lo := by
  induction n generalizing ram a with
  | zero => exact Agree.refl
  | succ n ih =>
    rw [walk]
    split_ifs
    · exact Agree.refl
    · exact (answerTag_agree hhi (by omega)).trans (ih (by omega))

/-- The VideoCore writes above the heap's base only. -/
theorem process_agree (ram : Ram) (prop : Word) :
    Agree ram (F.process ram prop) 0 heapRamAddr.toNat := by
  unfold process
  dsimp only
  split_ifs with h
  · have hself : prop + 4 = BitVec.ofNat 32 (prop.toNat + 4) := by
      rw [BitVec.ofNat_add, BitVec.ofNat_toNat, BitVec.setWidth_eq]
      rfl
    rw [hself]
    have hcode : Agree ram
        (store32 ram (BitVec.ofNat 32 (prop.toNat + 4)) propResponseCodeResponse) 0
        heapRamAddr.toNat :=
      agree_overlay (by omega) (by omega) (.inl (by omega))
    exact hcode.trans (walk_agree h.2.2 _ (by omega))
  · exact Agree.refl

/-! ### The answer to one request -/

/-- The value of a tag of one word, and zeros. -/
theorem load32_valueBytes {ram₀ : Ram} {req : TagRequest} (hargs : req.argsSz = 4)
    (hvalue : cells ram (BitVec.ofNat 32 a) req.valueLen = req.valueBytes ram₀) :
    load32 ram (BitVec.ofNat 32 a) = load32 ram₀ req.args := by
  have h4 : 4 ≤ req.valueLen := by
    rw [TagRequest.valueLen, TagRequest.valueBufsz]
    omega
  apply leWord_congr
  intro i hi
  have hcell := congrArg (fun l : List Byte => l[i]?) hvalue
  have hlt : i < req.valueLen := by omega
  rw [TagRequest.valueBytes, hargs] at hcell
  simpa [cells, hi, hlt, List.getElem?_append_left] using hcell

/-- The bytes of an answer. -/
def response (ws : List Word) : List Byte := (List.range (4 * ws.length)).map (wordBytes ws)

@[simp] theorem length_response (ws : List Word) : (response ws).length = 4 * ws.length := by
  simp [response]

/-- The buffer of one request, once it was answered. -/
structure Answered (ram : Ram) (req : TagRequest) (ws : List Word) : Prop where
  header : load32 ram (heapRamAddr + 4) = propResponseCodeResponse
  id : load32 ram (BitVec.ofNat 32 tagsBase) = req.id
  size : load32 ram (BitVec.ofNat 32 (tagsBase + 4)) = BitVec.ofInt 32 req.valueBufsz
  code : load32 ram (BitVec.ofNat 32 (tagsBase + 8)) =
    tagResponseCodeResponse ||| BitVec.ofNat 32 (4 * ws.length)
  value : cells ram (BitVec.ofNat 32 (tagsBase + 12)) (4 * ws.length) = response ws
  endMarker : load32 ram (BitVec.ofNat 32 (tagsBase + req.span)) = 0

/-- Where the walk is at the end marker, it is over. -/
theorem walk_end (h : load32 ram (BitVec.ofNat 32 a) = 0) (n : Nat) : F.walk ram a hi n = ram := by
  cases n with
  | zero => rfl
  | succ n => rw [walk, if_pos (.inr h)]

/-- **The firmware answers a request** whose value has room for just the answer. -/
theorem process_answered {ram₀ ram : Ram} {req : TagRequest} {ws : List Word}
    (hreq : req.WellFormed) (hargs : req.argsSz = 4)
    (hsize : load32 ram heapRamAddr = BitVec.ofNat 32 (paddedSpan [req]))
    (hsent : SentAt ram₀ ram tagsBase [req]) (hfit : bufferSpan [req] ≤ 64)
    (hanswer : F.answer req.id (load32 ram₀ req.args) = some ws)
    (hlen : req.valueLen = 4 * ws.length) :
    Answered (F.process ram heapRamAddr) req ws := by
  have hheap : heapRamAddr.toNat = 0x10000000 := rfl
  have hbase : tagsBase = 0x10000008 := tagsBase_eq
  have hspan : req.span = 12 + req.valueLen := by
    rw [TagRequest.span]
    omega
  have hbuffer : bufferSpan [req] = 8 + (req.span + 0) + 4 := rfl
  have hpadded : bufferSpan [req] ≤ paddedSpan [req] ∧ paddedSpan [req] ≤ 64 := by
    rw [paddedSpan]
    omega
  have hsizeNat : (load32 ram heapRamAddr).toNat = paddedSpan [req] := by
    rw [hsize, BitVec.toNat_ofNat]
    exact Nat.mod_eq_of_lt (by omega)
  obtain ⟨hid, hsz, -, hvalue, hend⟩ := hsent
  -- the response code of the buffer
  have hcode : heapRamAddr + 4 = BitVec.ofNat 32 (tagsBase - 4) := by
    rw [hbase]
    decide
  generalize hram₁ : store32 ram (heapRamAddr + 4) propResponseCodeResponse = ram₁
  have h01 : Agree ram ram₁ tagsBase (2 ^ 32) := by
    rw [← hram₁, hcode]
    exact agree_overlay (by omega) (Nat.le_refl _) (.inr (by omega))
  have hsz₁ : (load32 ram₁ (BitVec.ofNat 32 (tagsBase + 4))).toNat = req.valueLen := by
    rw [h01.load32 (by omega) (by omega), hsz, hreq.ofInt_valueBufsz, BitVec.toNat_ofNat]
    exact Nat.mod_eq_of_lt (by omega)
  have hid₁ : load32 ram₁ (BitVec.ofNat 32 tagsBase) = req.id :=
    (h01.load32 (Nat.le_refl _) (by omega)).trans hid
  have harg₁ : load32 ram₁ (BitVec.ofNat 32 (tagsBase + 12)) = load32 ram₀ req.args :=
    (h01.load32 (by omega) (by omega)).trans (load32_valueBytes hargs hvalue)
  -- the tag
  generalize hram₂ : fillIn ram₁ tagsBase ws = ram₂
  have htag : F.answerTag ram₁ tagsBase (heapRamAddr.toNat + paddedSpan [req]) = ram₂ := by
    rw [answerTag, hsz₁, hid₁, harg₁, hanswer]
    dsimp only
    rw [if_pos ⟨by omega, by omega⟩, hram₂]
  have h12 : ∀ lo hi : Nat, hi ≤ tagsBase + 8 ∨ tagsBase + 12 + 4 * ws.length ≤ lo → hi ≤ 2 ^ 32 →
      Agree ram₁ ram₂ lo hi := by
    intro lo hi hout hhi
    rw [← hram₂]
    have hcode : Agree ram₁ (store32 ram₁ (BitVec.ofNat 32 (tagsBase + 8))
        (tagResponseCodeResponse ||| BitVec.ofNat 32 (4 * ws.length))) lo hi :=
      agree_overlay (by omega) hhi (by omega)
    exact hcode.trans (agree_overlay (by omega) hhi (by omega))
  have hend₂ : load32 ram₂ (BitVec.ofNat 32 (tagsBase + req.span)) = 0 := by
    rw [(h12 (tagsBase + req.span) (2 ^ 32) (by omega) (Nat.le_refl _)).load32 (Nat.le_refl _)
      (by omega), h01.load32 (by omega) (by omega)]
    exact hend
  have hprocess : F.process ram heapRamAddr = ram₂ := by
    have hnext : tagsBase + 12 + (req.valueLen + 3) / 4 * 4 = tagsBase + req.span := by
      rw [TagRequest.span]
      omega
    obtain ⟨n, hn⟩ : ∃ n, paddedSpan [req] / 12 = n + 1 := ⟨paddedSpan [req] / 12 - 1, by omega⟩
    rw [process, hsizeNat, if_pos ⟨Nat.le_refl _, by omega, by omega⟩, hram₁, hn, ← tagsBase_eq,
      walk, hid₁, if_neg (not_or.mpr ⟨by omega, hreq.id⟩), hsz₁, htag]
    dsimp only
    rw [hnext]
    exact walk_end hend₂ n
  rw [hprocess]
  have hbelow : Agree ram₁ ram₂ 0 (tagsBase + 8) := h12 0 _ (.inl (Nat.le_refl _)) (by omega)
  refine ⟨?_, ?_, ?_, ?_, ?_, hend₂⟩
  · rw [hcode, hbelow.load32 (Nat.zero_le _) (by omega), ← hcode, ← hram₁]
    exact load32_store32 (by decide)
  · exact (hbelow.load32 (Nat.zero_le _) (by omega)).trans hid₁
  · rw [hbelow.load32 (Nat.zero_le _) (by omega), h01.load32 (by omega) (by omega)]
    exact hsz
  · have hvalue : Agree (store32 ram₁ (BitVec.ofNat 32 (tagsBase + 8))
        (tagResponseCodeResponse ||| BitVec.ofNat 32 (4 * ws.length))) ram₂ (tagsBase + 8)
        (tagsBase + 12) := by
      rw [← hram₂]
      exact agree_overlay (by omega) (by omega) (.inl (Nat.le_refl _))
    rw [hvalue.load32 (Nat.le_refl _) (Nat.le_refl _)]
    exact load32_store32 (by decide)
  · rw [← hram₂]
    apply List.map_congr_left
    intro i hi
    exact overlay_offset (List.mem_range.mp hi) (by omega)

/-- What was answered gets back to where the request wants it. -/
theorem returnTagResponses_answered {σ : Type} {w : World σ} {req : TagRequest} {ws : List Word}
    (h : Answered w.ram req ws) (hreq : req.WellFormed) (hret : req.retSz = (4 * ws.length : Nat))
    (hlen : req.valueLen = 4 * ws.length)
    (hout : ∀ y, tagsBase ≤ y → y < 2 ^ 32 → ¬ req.Ret (BitVec.ofNat 32 y))
    (hfit : bufferSpan [req] ≤ 64) :
    (returnTagResponses heapRamAddr [req] : Drv σ VcmailboxError) w =
      ⟨[], .ok .none, { w with ram := overlay w.ram req.ret (4 * ws.length) (wordBytes ws) }⟩ := by
  have hbase : tagsBase = 0x10000008 := tagsBase_eq
  have hspan : req.span = 12 + req.valueLen := by
    rw [TagRequest.span]
    omega
  have hbuffer : bufferSpan [req] = 8 + (req.span + 0) + 4 := rfl
  let x : TagAnswer := ⟨req, response ws, by rw [length_response, hret]⟩
  have hresponse : x.response.length = 4 * ws.length := length_response ws
  have hcode : x.code = tagResponseCodeResponse ||| BitVec.ofNat 32 (4 * ws.length) := by
    rw [TagAnswer.code]
    show tagResponseCodeResponse ||| BitVec.ofInt 32 req.retSz = _
    rw [hret, BitVec.ofInt_natCast]
  have hround := returnTagLoop_answered (x := x) (w := w) 1 [] 0 hreq
    (show tagsBase % 4 = 0 by rw [hbase]) h.id h.size
    (h.code.trans hcode.symm) (by rw [hresponse]; exact h.value)
    (fun y hy hlt => hout y hy (by
      have : y < tagsBase + req.span := hlt
      omega))
  have hreturned : returned w.ram x = overlay w.ram req.ret (4 * ws.length) (wordBytes ws) := by
    rw [returned, hresponse]
    refine overlay_congr fun i hi => ?_
    have hi' : i < 4 * ws.length := hi
    simp [x, response, hi']
  have hstart : heapRamAddr + 8 = BitVec.ofNat 32 tagsBase := by
    rw [hbase]
    decide
  have hnext : tagsBase + 12 + x.req.valueLen = tagsBase + req.span := by
    show tagsBase + 12 + req.valueLen = _
    omega
  rw [returnTagResponses, hstart]
  refine hround.trans ?_
  rw [hnext, hreturned]
  -- the end marker is where it was
  have hkeep : Agree w.ram (overlay w.ram req.ret (4 * ws.length) (wordBytes ws)) tagsBase
      (2 ^ 32) := by
    intro y hy hlt
    apply overlay_of_not_region
    have hnot := hout y hy hlt
    rwa [TagRequest.Ret, hret] at hnot
  have hend : load32 (overlay w.ram req.ret (4 * ws.length) (wordBytes ws))
      (BitVec.ofNat 32 (tagsBase + req.span)) = 0 :=
    (hkeep.load32 (by omega) (by omega)).trans h.endMarker
  have haligned : TagAligned (BitVec.ofNat 32 (tagsBase + req.span)) := by
    have hmod := req.span_mod
    rw [tagAligned_ofNat_iff]
    omega
  rw [returnTagLoop, loadTagId_of_aligned haligned, ramLoad32, Program.view_bind_run, if_pos hend,
    returnTagEnd]
  rfl

end Firmware

end RpiBld
