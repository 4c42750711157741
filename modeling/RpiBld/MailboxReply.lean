/-
RpiBld/MailboxReply.lean

The checks `vcmailbox_request_tags` makes on a reply before it looks at the
tags.

A message is one word, an address whose 4 low bits are clear with the channel
in their place.  `replyError` says what the four checks should make of it; the
channel check of the code is written `recv_msg&CHANNEL_BITS != CHANNEL_PROPERTY`
and looks at bit 0 alone (`wrongChannel_eq`).  So a reply on another channel
passes where that bit is clear, and the two agree on all other messages
(`vcmailboxRequestTags_classifiesReply_iff`).
-/
import RpiBld.Mailbox

namespace RpiBld

open Traced

/-! ### Messages -/

theorem getLsbD_channelBits {i : Nat} (hi : i < 32) :
    channelBits.getLsbD i = decide (i < 4) := by
  have h : channelBits = (0xf#4).setWidth 32 := by decide
  rw [h, BitVec.getLsbD_setWidth]
  by_cases h4 : i < 4
  · have hall : ∀ j < 4, (0xf#4).getLsbD j = true := by decide
    simp [hi, h4, hall i h4]
  · have hout : (0xf#4).getLsbD i = false := BitVec.getLsbD_of_ge _ _ (by omega)
    rw [hout]
    simp [h4]

/-- The address part of a message. -/
theorem getLsbD_and_not_channelBits (m : Word) {i : Nat} (hi : i < 32) :
    (m &&& ~~~channelBits).getLsbD i = (m.getLsbD i && decide (4 ≤ i)) := by
  rw [BitVec.getLsbD_and, BitVec.getLsbD_not, getLsbD_channelBits hi]
  by_cases h4 : i < 4
  · simp [hi, h4]
  · simp [hi, h4, Nat.le_of_not_lt h4]

/-- An address with its 4 low bits clear. -/
theorem getLsbD_of_aligned {a : Word} (ha : a.extractLsb' 0 4 = 0) {i : Nat} (hi : i < 4) :
    a.getLsbD i = false := by
  have hbit := congrArg (fun v : BitVec 4 => v.getLsbD i) ha
  simpa [hi] using hbit

/-- The address part is a given address just where the upper 28 bits say so. -/
theorem and_not_channelBits_eq_iff {a : Word} (ha : a.extractLsb' 0 4 = 0) (m : Word) :
    m &&& ~~~channelBits = a ↔ m.extractLsb' 4 28 = a.extractLsb' 4 28 := by
  constructor
  · rintro rfl
    apply BitVec.eq_of_getLsbD_eq
    intro i hi
    rw [BitVec.getLsbD_extractLsb', BitVec.getLsbD_extractLsb',
      getLsbD_and_not_channelBits m (by omega)]
    simp [hi]
  · intro h
    apply BitVec.eq_of_getLsbD_eq
    intro i hi
    rw [getLsbD_and_not_channelBits m hi]
    by_cases h4 : i < 4
    · rw [getLsbD_of_aligned ha h4]
      simp [Nat.not_le_of_lt h4]
    · have hbit := congrArg (fun v : BitVec 28 => v.getLsbD (i - 4)) h
      simp only [BitVec.getLsbD_extractLsb', show 4 + (i - 4) = i by omega] at hbit
      have hlt : i - 4 < 28 := by omega
      simpa [hlt, Nat.le_of_not_lt h4] using hbit

/-- The channel check looks at one bit. -/
theorem wrongChannel_eq (m : Word) : wrongChannel m = m.getLsbD 0 := by
  have hmask : cBool (channelBits != channelProperty) = bit 0 := by decide
  rw [wrongChannel, hmask]
  cases hbit : m.getLsbD 0 with
  | false => simp [(and_bit_eq_zero_iff m (by decide)).mpr hbit]
  | true =>
    have hne : m &&& bit 0 ≠ 0 := by
      intro h
      rw [(and_bit_eq_zero_iff m (by decide)).mp h] at hbit
      cases hbit
    rw [bne_iff_ne.mpr hne]

/-- A message on the property channel has bit 0 clear. -/
theorem getLsbD_zero_of_channel {m : Word} (h : m.extractLsb' 0 4 = 8) : m.getLsbD 0 = false := by
  have hbit := congrArg (fun v : BitVec 4 => v.getLsbD 0) h
  simpa using hbit

/-! ### The two halves of a request -/

section Driver

variable {σ : Type} (tagRequests : List TagRequest)

/-- The first half of `vcmailbox_request_tags`: the address of the buffer that was sent, and
the message that came back. -/
def askVideocore [Device σ] : Drv σ (Word × Word) := do
  let sendProp ← Program.change fun w =>
    let (ram, prop) := buildPropertyBuffer w.ram tagRequests
    (prop, { w with ram := ram })
  vcmailboxWriteMessage sendProp channelProperty
  let recvMsg ← vcmailboxReadMessage
  pure (sendProp, recvMsg)

/-- The second half: the checks on the reply, and the tags. -/
def checkReply (sendProp recvMsg : Word) : Drv σ VcmailboxError :=
  if wrongChannel recvMsg then do
    serialLog
      "Vcmailbox error: sent message on channel %u but received message on channel %u"
      [.num channelProperty, .num (recvMsg &&& channelBits)]
    pure .receiveWrongChannel
  else do
    let recvProp := recvMsg &&& ~~~channelBits
    if recvProp ≠ sendProp then
      serialLog
        "Vcmailbox error: address of sent property %08x doesn't match address of received property %08x"
        [.num sendProp, .num recvProp]
      pure .bufferResponseAddrMismatch
    else
      let code ← ramLoad32 (recvProp + 4)
      if code &&& propResponseCodeResponse = 0 then
        serialLog "Vcmailbox error: property response bit not set: %08x" [.num code]
        pure .bufferResponseBitNotSet
      else if code &&& propResponseCodeError ≠ 0 then
        serialLog "Vcmailbox error: property response signalled error" []
        pure .parsingRequest
      else returnTagResponses recvProp tagRequests

theorem vcmailboxRequestTags_eq [Device σ] :
    (vcmailboxRequestTags tagRequests : Drv σ VcmailboxError) =
      askVideocore tagRequests >>= fun x => checkReply tagRequests x.1 x.2 := by
  simp only [vcmailboxRequestTags, askVideocore, checkReply, bind_assoc, pure_bind]

/-! ### What the checks should say -/

/-- The error of the first check that fails, in the order of the checks. -/
def replyError (sendProp recvMsg responseCode : Word) : VcmailboxError :=
  if recvMsg.extractLsb' 0 4 ≠ 8 then .receiveWrongChannel
  else if recvMsg.extractLsb' 4 28 ≠ sendProp.extractLsb' 4 28 then .bufferResponseAddrMismatch
  else if responseCode.getLsbD 31 = false then .bufferResponseBitNotSet
  else if responseCode.getLsbD 0 = true then .parsingRequest
  else .none

/-- A reply that passes all checks is handed on to `return_tag_responses`, and no other one is.
For any other one the error of its first failing check is returned, and nothing is written. -/
def ClassifiesReply (sendProp recvMsg : Word) (w : World σ) : Prop :=
  let error := replyError sendProp recvMsg (load32 w.ram (sendProp + 4))
  let run := checkReply tagRequests sendProp recvMsg w
  (run = returnTagResponses sendProp tagRequests w ↔ error = .none) ∧
    (error ≠ .none → run.result = .ok error ∧ run.state = w)

/-- The errors of the checks on a reply. -/
def VcmailboxError.IsReplyError (e : VcmailboxError) : Prop :=
  e = .receiveWrongChannel ∨ e = .bufferResponseAddrMismatch ∨ e = .bufferResponseBitNotSet ∨
    e = .parsingRequest

variable {tagRequests}

/-- None of them comes from the tags. -/
theorem returnTagLoop_yields (n : Int) (tag : Word) (i : Int) :
    Program.Yields (returnTagLoop n tag tagRequests i : Drv σ VcmailboxError)
      fun e => ¬ e.IsReplyError := by
  have hnot : ∀ e : VcmailboxError, e = .none ∨ e = .tagResponseMissed ∨
      e = .tagResponseOutOfOrder ∨ e = .tagResponseBitNotSet ∨ e = .tagResponseSizeMismatch →
        ¬ e.IsReplyError := by
    rintro e (rfl | rfl | rfl | rfl | rfl) <;> simp [VcmailboxError.IsReplyError]
  have hlogged : ∀ {fmt : String} {args : List LogArg} {e : VcmailboxError}, ¬ e.IsReplyError →
      Program.Yields (serialLog fmt args >>= fun _ => pure e : Drv σ VcmailboxError)
        fun e => ¬ e.IsReplyError :=
    fun h => (Program.Yields.true _).bind fun _ _ => Program.Yields.pure h
  have hend : ∀ i : Int, Program.Yields (returnTagEnd n i : Drv σ VcmailboxError)
      fun e => ¬ e.IsReplyError := by
    intro i
    exact Program.Yields.ite (fun _ => hlogged (hnot _ (by simp)))
      fun _ => Program.Yields.pure (hnot _ (by simp))
  induction tagRequests generalizing tag i with
  | nil =>
    unfold returnTagLoop
    refine (Program.Yields.true _).bind fun id _ => ?_
    exact Program.Yields.ite (fun _ => hend i) fun _ => Program.Yields.halt _
  | cons req reqs ih =>
    unfold returnTagLoop
    refine (Program.Yields.true _).bind fun id _ => ?_
    refine Program.Yields.ite (fun _ => hend i) fun _ => ?_
    refine Program.Yields.ite (fun _ => hlogged (hnot _ (by simp))) fun _ => ?_
    refine (Program.Yields.true _).bind fun code _ => ?_
    refine Program.Yields.ite (fun _ => hlogged (hnot _ (by simp))) fun _ => ?_
    refine Program.Yields.ite (fun _ => hlogged (hnot _ (by simp))) fun _ => ?_
    refine (Program.Yields.true _).bind fun _ _ => ?_
    refine (Program.Yields.true _).bind fun valueBufsz _ => ?_
    exact ih _ _

variable {sendProp recvMsg : Word} {w : World σ}

/-- A run that returned one of these errors did not come from the tags. -/
theorem ne_returnTagResponses {run : Run Halt Event (World σ) VcmailboxError} {e : VcmailboxError}
    (hrun : run.result = .ok e) (he : e.IsReplyError) :
    run ≠ returnTagResponses sendProp tagRequests w := by
  rintro rfl
  exact returnTagLoop_yields _ _ _ w e hrun he

/-- Past the channel check, the code does what the other three checks say. -/
theorem checkReply_run (tagRequests : List TagRequest) (w : World σ)
    (halign : sendProp.extractLsb' 0 4 = 0) (hchan : recvMsg.getLsbD 0 = false) :
    let run := checkReply tagRequests sendProp recvMsg w
    let code := load32 w.ram (sendProp + 4)
    if recvMsg.extractLsb' 4 28 ≠ sendProp.extractLsb' 4 28 then
      run.result = .ok .bufferResponseAddrMismatch ∧ run.state = w
    else if code.getLsbD 31 = false then run.result = .ok .bufferResponseBitNotSet ∧ run.state = w
    else if code.getLsbD 0 = true then run.result = .ok .parsingRequest ∧ run.state = w
    else run = returnTagResponses sendProp tagRequests w := by
  dsimp only
  have hpass : ¬ wrongChannel recvMsg = true := by
    rw [wrongChannel_eq, hchan]
    exact Bool.false_ne_true
  rw [checkReply, if_neg hpass]
  by_cases haddr : recvMsg &&& ~~~channelBits = sendProp
  · rw [if_neg (not_not.mpr ((and_not_channelBits_eq_iff halign recvMsg).mp haddr)),
      if_neg (not_not.mpr haddr), haddr, ramLoad32, Program.view_bind_run]
    by_cases hresponse : load32 w.ram (sendProp + 4) &&& propResponseCodeResponse = 0
    · rw [if_pos ((and_bit_eq_zero_iff _ (by decide)).mp hresponse), if_pos hresponse]
      exact ⟨rfl, rfl⟩
    · rw [if_neg fun h => hresponse ((and_bit_eq_zero_iff _ (by decide)).mpr h), if_neg hresponse]
      by_cases herror : load32 w.ram (sendProp + 4) &&& propResponseCodeError = 0
      · rw [if_neg (not_not.mpr herror), if_neg]
        rw [(and_bit_eq_zero_iff _ (by decide)).mp herror]
        exact Bool.false_ne_true
      · have hbit : (load32 w.ram (sendProp + 4)).getLsbD 0 = true := by
          rw [← Bool.not_eq_false]
          exact fun h => herror ((and_bit_eq_zero_iff _ (by decide)).mpr h)
        rw [if_pos hbit, if_pos herror]
        exact ⟨rfl, rfl⟩
  · rw [if_pos fun h => haddr ((and_not_channelBits_eq_iff halign recvMsg).mpr h), if_pos haddr]
    exact ⟨rfl, rfl⟩

/-- On the property channel the code's checks are the right ones. -/
theorem classifiesReply_of_channel (halign : sendProp.extractLsb' 0 4 = 0)
    (hchan : recvMsg.extractLsb' 0 4 = 8) : ClassifiesReply tagRequests sendProp recvMsg w := by
  have hrun := checkReply_run tagRequests w halign
    (getLsbD_zero_of_channel hchan)
  have hreject : ∀ e : VcmailboxError, e.IsReplyError →
      (checkReply tagRequests sendProp recvMsg w).result = .ok e ∧
        (checkReply tagRequests sendProp recvMsg w).state = w →
      replyError sendProp recvMsg (load32 w.ram (sendProp + 4)) = e →
      ClassifiesReply tagRequests sendProp recvMsg w := by
    rintro e he hrun heq
    have hne : e ≠ .none := by
      rintro rfl
      simp [VcmailboxError.IsReplyError] at he
    unfold ClassifiesReply
    rw [heq]
    exact ⟨⟨fun h => absurd h (ne_returnTagResponses hrun.1 he), fun h => absurd h hne⟩,
      fun _ => hrun⟩
  have hpass : ¬ recvMsg.extractLsb' 0 4 ≠ 8 := not_not.mpr hchan
  by_cases haddr : recvMsg.extractLsb' 4 28 ≠ sendProp.extractLsb' 4 28
  · rw [if_pos haddr] at hrun
    exact hreject _ (by simp [VcmailboxError.IsReplyError]) hrun
      (by rw [replyError, if_neg hpass, if_pos haddr])
  rw [if_neg haddr] at hrun
  by_cases hresponse : (load32 w.ram (sendProp + 4)).getLsbD 31 = false
  · rw [if_pos hresponse] at hrun
    exact hreject _ (by simp [VcmailboxError.IsReplyError]) hrun
      (by rw [replyError, if_neg hpass, if_neg haddr, if_pos hresponse])
  rw [if_neg hresponse] at hrun
  by_cases herror : (load32 w.ram (sendProp + 4)).getLsbD 0 = true
  · rw [if_pos herror] at hrun
    exact hreject _ (by simp [VcmailboxError.IsReplyError]) hrun
      (by rw [replyError, if_neg hpass, if_neg haddr, if_neg hresponse, if_pos herror])
  rw [if_neg herror] at hrun
  have hnone : replyError sendProp recvMsg (load32 w.ram (sendProp + 4)) = .none := by
    rw [replyError, if_neg hpass, if_neg haddr, if_neg hresponse, if_neg herror]
  exact ⟨⟨fun _ => hnone, fun _ => hrun⟩, fun h => absurd hnone h⟩

/-- A reply on another channel whose bit 0 is set is rejected as such. -/
theorem classifiesReply_of_bit (hchan : recvMsg.extractLsb' 0 4 ≠ 8)
    (hbit : recvMsg.getLsbD 0 = true) : ClassifiesReply tagRequests sendProp recvMsg w := by
  have hreject : wrongChannel recvMsg = true := (wrongChannel_eq recvMsg).trans hbit
  have heq : replyError sendProp recvMsg (load32 w.ram (sendProp + 4)) = .receiveWrongChannel := by
    rw [replyError, if_pos hchan]
  have hrun : (checkReply tagRequests sendProp recvMsg w).result = .ok .receiveWrongChannel ∧
      (checkReply tagRequests sendProp recvMsg w).state = w := by
    rw [checkReply, if_pos hreject]
    exact ⟨rfl, rfl⟩
  unfold ClassifiesReply
  rw [heq]
  refine ⟨⟨fun h => ?_, fun h => by cases h⟩, fun _ => hrun⟩
  exact absurd h (ne_returnTagResponses hrun.1 (.inl rfl))

/-- With bit 0 clear it is not. -/
theorem not_classifiesReply (halign : sendProp.extractLsb' 0 4 = 0)
    (hchan : recvMsg.extractLsb' 0 4 ≠ 8) (hbit : recvMsg.getLsbD 0 = false) :
    ¬ ClassifiesReply tagRequests sendProp recvMsg w := by
  rintro ⟨-, hreject⟩
  have heq : replyError sendProp recvMsg (load32 w.ram (sendProp + 4)) = .receiveWrongChannel := by
    rw [replyError, if_pos hchan]
  rw [heq] at hreject
  obtain ⟨hresult, -⟩ := hreject (by simp)
  have hrun := checkReply_run tagRequests w halign hbit
  dsimp only at hrun
  split_ifs at hrun with haddr hresponse herror
  · rw [hrun.1] at hresult
    cases hresult
  · rw [hrun.1] at hresult
    cases hresult
  · rw [hrun.1] at hresult
    cases hresult
  · exact ne_returnTagResponses hresult (.inl rfl) hrun

/-- **Acceptance of a reply.**  `vcmailbox_request_tags` asks, and then checks the reply; for every
aligned address that was sent, every message that came back and every response code in RAM, the
checks classify the reply just when it is on the property channel or bit 0 of the message
is set. -/
theorem vcmailboxRequestTags_classifiesReply_iff [Device σ] (tagRequests : List TagRequest)
    (sendProp recvMsg : Word) (halign : sendProp.extractLsb' 0 4 = 0) (w : World σ) :
    (vcmailboxRequestTags tagRequests : Drv σ VcmailboxError) =
        (askVideocore tagRequests >>= fun x => checkReply tagRequests x.1 x.2) ∧
      (ClassifiesReply tagRequests sendProp recvMsg w ↔
        recvMsg.extractLsb' 0 4 = 8 ∨ recvMsg.getLsbD 0 = true) := by
  refine ⟨vcmailboxRequestTags_eq tagRequests, ?_, ?_⟩
  · intro h
    by_contra hnot
    rw [not_or, Bool.not_eq_true] at hnot
    exact not_classifiesReply halign hnot.1 hnot.2 h
  · intro h
    by_cases hchan : recvMsg.extractLsb' 0 4 = 8
    · exact classifiesReply_of_channel halign hchan
    · exact classifiesReply_of_bit hchan (h.resolve_left hchan)

end Driver

/-! ### One reply -/

/-- A mailbox with one message in it; the VideoCore has put its response code into the buffer
at the heap's base. -/
structure OneReply where
  message : Word
  responseCode : Word

instance : Device OneReply where
  get r d :=
    match r with
    | .vcmailbox .mbox0Read => (d.message, d)
    | _ => (0, d)
  set _ _ d := d
  timerStart _ d := (0, d)
  timerDone _ d := (true, d)
  sleep _ d := d
  videocore ram d := (store32 ram (heapRamAddr + 4) d.responseCode, d)

/-- The reply that usually comes. -/
theorem vcmailboxRequestTags_classifiesReply_usual :
    ClassifiesReply [] heapRamAddr (heapRamAddr ||| channelProperty)
      (⟨⟨heapRamAddr ||| channelProperty, 0x80000000⟩, fun _ => 0, 0, 0⟩ : World OneReply) :=
  (vcmailboxRequestTags_classifiesReply_iff [] heapRamAddr (heapRamAddr ||| channelProperty)
    (by decide) _).2.mpr (.inl (by decide))

/-- A message on channel 0 is taken for a reply. -/
theorem not_classifiesReply_channelZero :
    ¬ ClassifiesReply [] heapRamAddr heapRamAddr
      (⟨⟨heapRamAddr, 0x80000000⟩, fun _ => 0x80, 0, 0⟩ : World OneReply) :=
  not_classifiesReply (by decide) (by decide) (by decide)

end RpiBld
