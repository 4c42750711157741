/-
RpiBld/MailboxTalk.lean

The mailbox in a whole run of `c_entry`, whatever the VideoCore answers and when.

`MailboxTalk` is the handshake as a state machine.  A message is written only where
the status read just before had the full flag clear and no other message is
outstanding, and is always the address of the property buffer on the property
channel; the answer is read only where the status read just before had the empty
flag clear.  Between the two nothing happens but reads of the status.  After an
answer that is not taken (`Taken`) nothing happens any more but log lines.

Main result:
* `cEntry_mailbox` -- every run of `c_entry` obeys this, and one that gets to the
  kernel has asked seven times and is owed no answer.
-/
import RpiBld.Guarding
import RpiBld.Lockstep
import RpiBld.MailboxReply

namespace RpiBld

open Traced

/-! ### The handshake -/

/-- Where the handshake is. -/
inductive MailboxPhase
  /-- Nothing is outstanding. -/
  | free
  /-- The mailbox to the VideoCore was just seen not to be full. -/
  | mayWrite
  /-- A message is outstanding. -/
  | sent
  /-- The mailbox from the VideoCore was just seen not to be empty. -/
  | mayRead
  /-- An answer was not taken. -/
  | refused
  deriving DecidableEq, Repr

/-- The handshake, and the number of answers that were taken. -/
structure MailboxTalk where
  phase : MailboxPhase := .free
  answered : Nat := 0

/-- The message that is sent: the property buffer is at the start of the heap. -/
def propertyMessage : Word := heapGetBaseAddress ||| channelProperty

/-- An answer that is taken for one to the message, as far as the code looks. -/
def AnswerTaken (v : Word) : Prop :=
  wrongChannel v = false ∧ v &&& ~~~channelBits = heapGetBaseAddress

instance (v : Word) : Decidable (AnswerTaken v) := inferInstanceAs (Decidable (_ ∧ _))

/-- A status that was read is good for the next access only. -/
def MailboxPhase.stale : MailboxPhase → MailboxPhase
  | .mayWrite => .free
  | .mayRead => .sent
  | p => p

def MailboxTalk.observe (c : MailboxTalk) : Event → MailboxTalk
  | .get (.vcmailbox .mbox1Status) v =>
    { c with phase := if v &&& mbox1StatusFull = 0 then .mayWrite else c.phase.stale }
  | .set (.vcmailbox .mbox1Write) _ => { c with phase := .sent }
  | .get (.vcmailbox .mbox0Status) v =>
    { c with phase := if v &&& mbox0StatusEmpty = 0 then .mayRead else c.phase.stale }
  | .get (.vcmailbox .mbox0Read) v =>
    if AnswerTaken v then ⟨.free, c.answered + 1⟩ else { c with phase := .refused }
  | _ => { c with phase := c.phase.stale }

/-- What a driver may do to the mailbox, and when it may do something else. -/
def mailboxAllowed (c : MailboxTalk) : Event → Prop
  | .get (.vcmailbox .mbox1Status) _ => c.phase = .free
  | .set (.vcmailbox .mbox1Write) v => c.phase = .mayWrite ∧ v = propertyMessage
  | .get (.vcmailbox .mbox0Status) _ => c.phase = .sent
  | .get (.vcmailbox .mbox0Read) _ => c.phase = .mayRead
  | .get (.vcmailbox _) _ | .set (.vcmailbox _) _ => False
  | .log _ _ => c.phase = .free ∨ c.phase = .refused
  | _ => c.phase = .free

/-! ### The triple -/

section Driver

variable {σ : Type} {α β : Type}

/-- From `P` to `Q`. -/
abbrev Mail (P : MailboxTalk → Prop) (m : Drv σ α) (Q : α → MailboxTalk → Prop) : Prop :=
  Trusting MailboxTalk.observe mailboxAllowed (fun _ => True) P m Q

/-- Nothing is outstanding after `n` answers. -/
def Free (n : Nat) (c : MailboxTalk) : Prop := c = ⟨.free, n⟩

/-- Not an access to the mailbox. -/
def OffMailbox : Event → Prop
  | .get (.vcmailbox _) _ | .set (.vcmailbox _) _ => False
  | _ => True

/-- What has nothing to do with the mailbox may be done while nothing is outstanding. -/
theorem offMailbox_free {n : Nat} {m : Drv σ α} (hm : Program.Emits OffMailbox m) :
    Mail (Free n) m fun _ => Free n := by
  apply Trusting.of_emits hm
  intro c e hc he
  obtain rfl := hc trivial
  rcases e with ⟨r, v⟩ | ⟨r, v⟩ | ⟨a, v⟩ | ⟨d, l, k⟩ | ⟨fmt, args⟩
  · rcases r with r | r | r | r | r
    case vcmailbox => exact he.elim
    all_goals exact ⟨rfl, fun _ => rfl⟩
  · rcases r with r | r | r | r | r
    case vcmailbox => exact he.elim
    all_goals exact ⟨rfl, fun _ => rfl⟩
  case log => exact ⟨.inl rfl, fun _ => rfl⟩
  all_goals exact ⟨rfl, fun _ => rfl⟩

/-- Log lines. -/
def IsLog : Event → Prop
  | .log _ _ => True
  | _ => False

theorem isLog_refused {n : Nat} {m : Drv σ α} (hm : Program.Emits IsLog m) :
    Mail (fun c => c = ⟨.refused, n⟩) m fun _ c => c = ⟨.refused, n⟩ := by
  apply Trusting.of_emits hm
  intro c e hc he
  obtain rfl := hc trivial
  cases e with
  | log fmt args => exact ⟨.inr rfl, fun _ => rfl⟩
  | _ => exact he.elim

/-! ### A message and its answer -/

variable [Device σ]

/-- The message is written once the mailbox is not full. -/
theorem vcmailboxWriteMessage_mail (n : Nat) :
    Mail (Free n) (vcmailboxWriteMessage heapGetBaseAddress channelProperty : Drv σ Unit)
      fun _ c => c = ⟨.sent, n⟩ := by
  apply Trusting.bind (Q := fun _ c => c = ⟨.mayWrite, n⟩)
  · apply guard_wait
    apply Trusting.bind (Q := fun v c =>
      c = ⟨if v &&& mbox1StatusFull = 0 then .mayWrite else .free, n⟩)
    · apply guard_get
      intro c v hc
      obtain rfl := hc trivial
      exact ⟨rfl, fun _ => rfl⟩
    intro v
    apply Trusting.pure
    rintro c rfl
    constructor
    · intro hb
      rw [if_neg (bne_iff_ne.mp hb)]
      rfl
    · intro hb
      rw [if_pos (by simpa using hb)]
  intro _
  apply guard_set
  intro c hc
  obtain rfl := hc trivial
  exact ⟨⟨rfl, by decide⟩, fun _ => rfl⟩

/-- The answer is read once the mailbox is not empty. -/
theorem vcmailboxReadMessage_mail (n : Nat) :
    Mail (fun c => c = ⟨.sent, n⟩) (vcmailboxReadMessage : Drv σ Word)
      fun v c => c = if AnswerTaken v then ⟨.free, n + 1⟩ else ⟨.refused, n⟩ := by
  apply Trusting.bind (Q := fun _ c => c = ⟨.mayRead, n⟩)
  · apply guard_wait
    apply Trusting.bind (Q := fun v c =>
      c = ⟨if v &&& mbox0StatusEmpty = 0 then .mayRead else .sent, n⟩)
    · apply guard_get
      intro c v hc
      obtain rfl := hc trivial
      exact ⟨rfl, fun _ => rfl⟩
    intro v
    apply Trusting.pure
    rintro c rfl
    constructor
    · intro hb
      rw [if_neg (bne_iff_ne.mp hb)]
    · intro hb
      rw [if_pos (by simpa using hb)]
  intro _
  apply (Trusting.change _).bind
  intro _
  apply guard_get
  intro c v hc
  obtain rfl := hc trivial
  exact ⟨rfl, fun _ => rfl⟩

/-- How a request ends: answered, or without success. -/
def Asked (n : Nat) (error : VcmailboxError) (c : MailboxTalk) : Prop :=
  Free (n + 1) c ∨ c = ⟨.refused, n⟩ ∧ error ≠ .none

theorem permits_isLog : Permits IsLog fun _ => False where
  get _ _ h := h.elim
  set _ _ h := h.elim
  log _ _ := trivial

theorem IsLog.offMailbox {e : Event} (h : IsLog e) : OffMailbox e := by
  cases e with
  | log fmt args => trivial
  | _ => exact h.elim

theorem checkReply_isLog (reqs : List TagRequest) (prop v : Word) :
    Program.Emits IsLog (checkReply reqs prop v : Drv σ VcmailboxError) := by
  have h := permits_isLog.ramLockstep (σ := σ)
  apply Congruence.ite (R := emitting IsLog) (h.logged _ _ _)
  apply Congruence.ite (R := emitting IsLog) (h.logged _ _ _)
  apply h.bind (h.load32 _)
  intro code
  apply Congruence.ite (R := emitting IsLog) (h.logged _ _ _)
  apply Congruence.ite (R := emitting IsLog) (h.logged _ _ _)
  exact h.returnTagLoop _ _ _ _

/-- An answer that is not taken is an error. -/
theorem checkReply_refused {n : Nat} (reqs : List TagRequest) {v : Word} (hv : ¬ AnswerTaken v) :
    Mail (fun c => c = ⟨.refused, n⟩)
      (checkReply reqs heapGetBaseAddress v : Drv σ VcmailboxError) (Asked n) := by
  have hfailed : ∀ (fmt : String) (args : List LogArg) (error : VcmailboxError), error ≠ .none →
      Mail (fun c => c = ⟨.refused, n⟩)
        (do serialLog fmt args; pure error : Drv σ VcmailboxError) (Asked n) := by
    intro fmt args error herror
    have hlog : Program.Emits IsLog (serialLog fmt args : Drv σ Unit) :=
      permits_isLog.lockstep.log fmt args
    apply (isLog_refused hlog).bind
    intro _
    exact Trusting.pure fun c hc => .inr ⟨hc, herror⟩
  apply Trusting.ite fun _ => hfailed _ _ _ (by decide)
  intro hchannel
  apply Trusting.ite fun _ => hfailed _ _ _ (by decide)
  intro hprop
  exact absurd ⟨Bool.not_eq_true _ |>.mp hchannel, not_not.mp hprop⟩ hv

/-- **A request**: one message, and its answer. -/
theorem vcmailboxRequestTags_mail (n : Nat) (reqs : List TagRequest) :
    Mail (Free n) (vcmailboxRequestTags reqs : Drv σ VcmailboxError) (Asked n) := by
  have hask : Mail (Free n) (askVideocore reqs : Drv σ (Word × Word)) fun x c =>
      x.1 = heapGetBaseAddress ∧
        c = if AnswerTaken x.2 then ⟨.free, n + 1⟩ else ⟨.refused, n⟩ := by
    apply Trusting.bind (Q := fun prop c => prop = heapGetBaseAddress ∧ Free n c)
    · exact Trusting.change_of fun w => show alignAddress heapGetBaseAddress 16 = _ by decide
    intro prop c hc
    obtain ⟨rfl, hfree⟩ := hc trivial
    have hsend : Mail (Free n) (do
        vcmailboxWriteMessage heapGetBaseAddress channelProperty
        let recvMsg ← vcmailboxReadMessage
        pure (heapGetBaseAddress, recvMsg) : Drv σ (Word × Word)) fun x c =>
        x.1 = heapGetBaseAddress ∧
          c = if AnswerTaken x.2 then ⟨.free, n + 1⟩ else ⟨.refused, n⟩ := by
      apply (vcmailboxWriteMessage_mail n).bind
      intro _
      apply (vcmailboxReadMessage_mail n).bind
      intro v
      exact Trusting.pure fun c hc => ⟨rfl, hc⟩
    exact hsend c fun _ => hfree
  rw [vcmailboxRequestTags_eq]
  apply hask.bind
  rintro ⟨prop, v⟩ c hc
  obtain ⟨rfl, hc⟩ := hc trivial
  have hlog := checkReply_isLog (σ := σ) reqs heapGetBaseAddress v
  by_cases hv : AnswerTaken v
  · rw [if_pos hv] at hc
    have htaken := offMailbox_free (n := n + 1) fun w e he => (hlog w e he).offMailbox
    exact (htaken.weaken (fun _ hc => hc) fun _ _ hc => .inl hc) c fun _ => hc
  · rw [if_neg hv] at hc
    exact checkReply_refused reqs hv c fun _ => hc

/-! ### Tags -/

theorem requestTag_mail (n : Nat) (id : TagId) (arg : Word) (retSz : Nat) :
    Mail (Free n) (requestTag id arg retSz : Drv σ (VcmailboxError × (Nat → Word)))
      fun x c => Asked n x.1 c := by
  apply (Trusting.view _).bind
  intro frame
  apply (Trusting.change _).bind
  intro _
  apply (vcmailboxRequestTags_mail n _).bind
  intro error
  apply (Trusting.view _).bind
  intro words
  exact Trusting.pure fun c hc => hc

omit [Device σ] in
/-- The end of a tag function: it returns where the request was answered, and nowhere else. -/
theorem tagEnd_mail {n : Nat} {error : VcmailboxError} {bad : Prop} [Decidable bad]
    (fmt : String) (args : List LogArg) (a : α) :
    Mail (Asked n error) (if error ≠ .none ∨ bad then do
        serialLog fmt args
        signalError .vcmailbox
      else pure a : Drv σ α) fun _ => Free (n + 1) := by
  apply Trusting.ite
  · intro _
    apply (guard_log fmt args ?_).bind fun _ => Trusting.halt _
    intro c hc
    rcases hc trivial with rfl | ⟨rfl, herror⟩
    · exact ⟨.inl rfl, fun _ => .inl rfl⟩
    · exact ⟨.inr rfl, fun _ => .inr ⟨rfl, herror⟩⟩
  · intro hok
    apply Trusting.pure
    rintro c (hfree | ⟨-, herror⟩)
    · exact hfree
    · exact absurd (.inl herror) hok

theorem tagClockGetState_mail (n : Nat) (clkId : Word) :
    Mail (Free n) (tagClockGetState clkId : Drv σ Word) fun _ => Free (n + 1) :=
  (requestTag_mail n _ _ _).bind fun _ => tagEnd_mail _ _ _

theorem tagClockGetRate_mail (n : Nat) (clkId : Word) :
    Mail (Free n) (tagClockGetRate clkId : Drv σ Word) fun _ => Free (n + 1) :=
  (requestTag_mail n _ _ _).bind fun _ => tagEnd_mail _ _ _

theorem tagGpioGetState_mail (n : Nat) (pin : Word) :
    Mail (Free n) (tagGpioGetState pin : Drv σ Word) fun _ => Free (n + 1) :=
  (requestTag_mail n _ _ _).bind fun _ => tagEnd_mail _ _ _

theorem tagGpioGetConfig_mail (n : Nat) (pin : Word) :
    Mail (Free n) (tagGpioGetConfig pin : Drv σ GpioExpanderPinConfig) fun _ => Free (n + 1) :=
  (requestTag_mail n _ _ _).bind fun _ => tagEnd_mail _ _ _

/-! ### The SD host and the UART -/

theorem permits_offMailbox : Permits OffMailbox (accesses OffMailbox) :=
  permits_accesses fun _ _ => trivial

theorem issuing_offMailbox (idxs : List CmdIndex) : Issuing (accesses OffMailbox) idxs :=
  ⟨fun _ _ => trivial, fun _ => trivial, fun _ => trivial, fun _ => trivial, fun _ _ => trivial⟩

theorem settingUp_offMailbox : SettingUp (accesses OffMailbox) :=
  ⟨fun _ _ => trivial, fun _ => trivial, fun _ => trivial, fun _ => trivial⟩

theorem wiring_offMailbox : Wiring (accesses OffMailbox) :=
  ⟨fun _ _ => trivial, fun _ _ => trivial, fun _ _ => trivial⟩

omit [Device σ] in
theorem pure_mail {n : Nat} (a : α) : Mail (Free n) (pure a : Drv σ α) fun _ => Free n :=
  Trusting.pure fun _ hc => hc

/-- A log line and an error signal. -/
theorem failure_mail {n : Nat} {Q : α → MailboxTalk → Prop} (fmt : String) (args : List LogArg)
    (e : ErrorCode) :
    Mail (Free n) (do serialLog fmt args; signalError e : Drv σ α) Q :=
  (offMailbox_free (permits_offMailbox.lockstep.log fmt args)).bind fun _ => Trusting.halt _

theorem uartInit_mail (n : Nat) : Mail (Free n) (uartInit : Drv σ Unit) fun _ => Free (n + 1) := by
  have h := permits_offMailbox.lockstep (σ := σ)
  have hw := wiring_offMailbox
  apply (offMailbox_free (h.set _ _ (hw.gpio _ _))).bind
  intro _
  apply (offMailbox_free (h.set _ _ (hw.set _ _))).bind
  intro _
  apply (offMailbox_free (h.disableBits (hw.get _) (hw.set _) _)).bind
  intro _
  apply Trusting.bind (Q := fun _ => Free (n + 1))
  · apply (tagClockGetRate_mail n _).bind
    intro rate
    exact offMailbox_free (h.set _ _ (hw.set _ _))
  intro _
  exact offMailbox_free (h.set _ _ (hw.set _ _))

theorem sdAssertVcInit_mail (n : Nat) :
    Mail (Free n) (sdAssertVcInit : Drv σ Unit) fun _ => Free (n + 6) := by
  have hclock : Mail (Free n) (sdAssertBaseClock : Drv σ Unit) fun _ => Free (n + 2) := by
    apply (tagClockGetState_mail n _).bind
    intro state
    apply Trusting.ite fun _ => failure_mail _ _ _
    intro _
    apply (tagClockGetRate_mail (n + 1) _).bind
    intro rate
    exact Trusting.ite (fun _ => failure_mail _ _ _) fun _ => pure_mail _
  have hvoltage : Mail (Free (n + 2)) (sdAssertVoltage : Drv σ Unit) fun _ => Free (n + 4) := by
    apply (tagGpioGetConfig_mail (n + 2) _).bind
    intro cfg
    apply Trusting.ite fun _ => failure_mail _ _ _
    intro _
    apply (tagGpioGetState_mail (n + 3) _).bind
    intro state
    exact Trusting.ite (fun _ => failure_mail _ _ _) fun _ => pure_mail _
  have hpower : Mail (Free (n + 4)) (sdAssertCardPower : Drv σ Unit) fun _ => Free (n + 6) := by
    apply (tagGpioGetConfig_mail (n + 4) _).bind
    intro cfg
    apply Trusting.ite fun _ => failure_mail _ _ _
    intro _
    apply (tagGpioGetState_mail (n + 5) _).bind
    intro state
    exact Trusting.ite (fun _ => failure_mail _ _ _) fun _ => pure_mail _
  exact hclock.bind fun _ => hvoltage.bind fun _ => hpower

theorem initPeripherals_mail :
    Mail (Free 0) (initPeripherals : Drv σ Card) fun _ => Free 7 := by
  have h := permits_offMailbox.lockstep (σ := σ)
  have hpre : Mail (Free 1) (sdPreCmdInit : Drv σ Unit) fun _ => Free 7 := by
    apply (sdAssertVcInit_mail 1).bind
    intro _
    apply (offMailbox_free (h.sdResetHost settingUp_offMailbox)).bind
    intro _
    apply (offMailbox_free (h.sdSupplyBusPower settingUp_offMailbox)).bind
    intro _
    apply (offMailbox_free (h.sdSupplyClock settingUp_offMailbox _)).bind
    intro _
    exact offMailbox_free (h.sdEnableInterrupts settingUp_offMailbox _)
  have hcard : Mail (Free 1) (sdInitCard : Drv σ (SdInitError × Card)) fun _ => Free 7 := by
    apply (offMailbox_free (h.log _ _)).bind
    intro _
    apply hpre.bind
    intro _
    apply (offMailbox_free (h.sdCardInitAndIdentify (issuing_offMailbox _) _)).bind
    rintro ⟨error, card⟩
    apply Trusting.ite fun _ => pure_mail _
    intro _
    exact offMailbox_free (h.sdInitCardTransfer settingUp_offMailbox (issuing_offMailbox _) _)
  apply (uartInit_mail 0).bind
  intro _
  apply (offMailbox_free (h.log _ _)).bind
  intro _
  apply hcard.bind
  rintro ⟨error, card⟩
  apply Trusting.ite fun _ => failure_mail _ _ _
  intro _
  exact pure_mail _

/-! ### The whole run -/

/-- **The mailbox in a run of `c_entry`**, on every device: the handshake is kept from the first
event to the last, and where the kernel is entered all seven messages have been answered. -/
theorem cEntry_mailbox (labels : Labels) (imagePartition : Int) (w : World σ) :
    let run := cEntry labels imagePartition w
    Obeys MailboxTalk.observe mailboxAllowed {} run.events ∧
      ∀ a, run.result = .ok a → run.events.foldl MailboxTalk.observe {} = ⟨.free, 7⟩ := by
  have h := permits_offMailbox.readLockstep (σ := σ) (fun _ _ _ => trivial) fun _ _ => trivial
  have hentry : Mail (Free 0) (cEntry labels imagePartition : Drv σ Word) fun _ => Free 7 := by
    apply (Trusting.change _).bind
    intro _
    apply initPeripherals_mail.bind
    intro card
    apply (offMailbox_free (h.loadImage
      (h.readAccess (issuing_offMailbox _) (List.Subset.refl _) card) _)).bind
    intro _
    apply (offMailbox_free (h.resetPeripherals (issuing_offMailbox _) settingUp_offMailbox _)).bind
    intro _
    exact offMailbox_free (h.logged _ _ _)
  obtain ⟨hobeys, hend⟩ := hentry {} (fun _ => rfl) w
  exact ⟨hobeys, fun a ha => hend a ha trivial⟩

end Driver

end RpiBld
