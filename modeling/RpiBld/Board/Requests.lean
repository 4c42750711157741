/-
RpiBld/Board/Requests.lean

The mailbox on the board.

A request of a tag function gets to the firmware and its answer gets back
(`requestTag_leads`), so the tag functions return what the firmware knows.
-/
import RpiBld.Board.Running

namespace RpiBld

open Traced

variable {B : Bench}

/-- No message is on its way to the VideoCore, and no answer waits in the mailbox. -/
structure Silent (w : World (Board B)) : Prop where
  fit : Fit w
  posted : w.dev.mail.posted = none
  answered : w.dev.mail.answered = none

/-- The mailbox is empty, and the VideoCore has taken all messages. -/
structure Drained (w : World (Board B)) : Prop where
  fit : Fit w
  mail : w.dev.mail = ⟨false, none, none⟩

theorem Drained.silent {w : World (Board B)} (h : Drained w) : Silent w :=
  ⟨h.fit, by rw [h.mail], by rw [h.mail]⟩

/-! ### A message, and its answer -/

theorem mbox1_test (full : Bool) :
    ((if full then mbox1StatusFull else 0) &&& mbox1StatusFull != 0) = full := by
  cases full <;> decide

theorem mbox0_test (answered : Option Word) :
    ((if answered = none then mbox0StatusEmpty else 0) &&& mbox0StatusEmpty != 0) =
      answered.isNone := by
  cases answered with
  | none => decide
  | some v =>
    rw [if_neg (by simp)]
    show (0 &&& mbox0StatusEmpty != 0) = false
    decide

section Messages

variable {w : World (Board B)} {v : Word}

namespace Board

/-- What happens to the mailbox between two register accesses. -/
theorem mail_tick (b : Board B) :
    b.tick.mail = if B.raises b.ctl.now = 0 then b.mail else b.mail.settle := by
  unfold Board.tick
  split_ifs <;> rfl

theorem pending_of_mail {b : Board B} (h : b.mail.settle ≠ b.mail) : b.pending = true := by
  rw [pending]
  simp [h]

end Board

theorem vcmailboxWriteMessage_leads (data chan : Word) (h : Silent w) :
    Leads (vcmailboxWriteMessage data chan)
      (fun _ w' => ∃ b : Board B, w' = w.on b ∧
        b.mail = ⟨false, some ((data &&& ~~~channelBits) ||| chan), none⟩) w := by
  have hloop := whileCond_leads (w := w) (r := .vcmailbox .mbox1Status)
    (fun b => if b.mail.full then mbox1StatusFull else 0) (fun v => v &&& mbox1StatusFull != 0)
    (fun b => b.mail.posted = none ∧ b.mail.answered = none)
    (fun b => b.mail = ⟨false, none, none⟩) 200 (fun _ => rfl) ?_ ?_ h.fit
    ⟨h.posted, h.answered⟩
  · apply hloop.bind
    rintro _ _ ⟨b, rfl, hb⟩
    apply Leads.set
    have hmail : b.tick.mail = ⟨false, none, none⟩ := by
      rw [Board.mail_tick, hb]
      split_ifs <;> rfl
    refine ⟨b.tick.post _, rfl, ?_⟩
    rw [Board.post, hmail]
    rfl
  · -- the VideoCore has yet to take the messages before
    rintro b ⟨hposted, hanswered⟩ htest
    rw [mbox1_test] at htest
    by_cases hz : B.raises b.ctl.now = 0
    · rw [Board.mail_tick, if_pos hz] at htest ⊢
      refine ⟨⟨hposted, hanswered⟩, ?_, hz⟩
      apply Board.pending_of_mail
      rw [Board.mail_tick, if_pos hz]
      intro heq
      have hfull := congrArg Mailbox.full heq
      rw [Mailbox.settle, hposted, htest] at hfull
      exact absurd hfull Bool.false_ne_true
    · rw [Board.mail_tick, if_neg hz, Mailbox.settle, hposted] at htest
      exact absurd htest Bool.false_ne_true
  · rintro b ⟨hposted, hanswered⟩ htest
    rw [mbox1_test] at htest
    apply Mailbox.ext htest
    · rw [Board.mail_tick]
      split_ifs
      · exact hposted
      · rw [Mailbox.settle, hposted]
    · rw [Board.mail_tick]
      split_ifs
      · exact hanswered
      · rw [Mailbox.settle, hposted]
        exact hanswered

theorem vcmailboxReadMessage_leads (hfit : Fit w) (hmail : w.dev.mail = ⟨false, some v, none⟩) :
    Leads vcmailboxReadMessage
      (fun u w' => u = v ∧ Drained w' ∧ w'.frame = w.frame ∧
        w'.ram = B.firmware.process w.ram (v &&& ~~~channelBits)) w := by
  have hloop := whileCond_leads (w := w) (r := .vcmailbox .mbox0Status)
    (fun b => if b.mail.answered = none then mbox0StatusEmpty else 0)
    (fun v => v &&& mbox0StatusEmpty != 0) (fun b => b.mail = ⟨false, some v, none⟩)
    (fun b => b.mail = ⟨false, none, some v⟩) 200 (fun _ => rfl) ?_ ?_ hfit hmail
  · apply hloop.bind
    rintro _ _ ⟨b, rfl, hb⟩
    apply Leads.change_bind
    have hvideocore : Device.videocore (w.on b).ram (w.on b).dev =
        (B.firmware.process w.ram (v &&& ~~~channelBits), b) :=
      Board.videocore_some (by rw [World.dev_on, hb]) _
    rw [hvideocore]
    have hmail : b.tick.mail = ⟨false, none, some v⟩ := by
      rw [Board.mail_tick, hb]
      split_ifs <;> rfl
    refine ⟨_, _, _, rfl, ?_, ⟨⟨hfit.steady, hfit.prompt, hfit.starts, hfit.onStack.above,
      hfit.onStack.below⟩, ?_⟩, rfl, rfl⟩
    · show b.tick.mail.answered.getD 0 = v
      rw [hmail]
      rfl
    · show ({ b.tick.mail with answered := none } : Mailbox) = _
      rw [hmail]
  · intro b hb htest
    by_cases hz : B.raises b.ctl.now = 0
    · have hmail : b.tick.mail = ⟨false, some v, none⟩ := by
        rw [Board.mail_tick, if_pos hz, hb]
      refine ⟨hmail, Board.pending_of_mail ?_, hz⟩
      rw [hmail, Mailbox.settle]
      simp
    · rw [mbox0_test, Board.mail_tick, if_neg hz, hb] at htest
      exact absurd htest Bool.false_ne_true
  · intro b hb htest
    by_cases hz : B.raises b.ctl.now = 0
    · rw [mbox0_test, Board.mail_tick, if_pos hz, hb] at htest
      exact absurd htest (by simp)
    · rw [Board.mail_tick, if_neg hz, hb]
      rfl

end Messages

/-! ### Requests -/

section Requests

variable {w : World (Board B)} {id : TagId} {arg : Word} {ws : List Word}

/-- **A request is answered**, and the words of the answer are where the caller looks for them. -/
theorem requestTag_leads (h : Silent w) (hanswer : B.firmware.answer id.code arg = some ws)
    (hlen : 1 ≤ ws.length ∧ ws.length ≤ 5) :
    Leads (requestTag id arg (4 * ws.length))
      (fun r w' => r.1 = .none ∧ (∀ i < ws.length, r.2 i = ws.getD i 0) ∧ Drained w') w := by
  have hstack := h.fit.onStack
  have hend : bootloaderEnd.toNat = 0x1d00000 := rfl
  have hsvc : svcStackStartAddr.toNat = 0x1e00000 := rfl
  have hheap : heapRamAddr.toNat = 0x10000000 := rfl
  have habove := hstack.above
  have hbelow := hstack.below
  obtain ⟨hwf, hret, hspan, hargs⟩ :=
    tagRequest_spec id (show 4 * ws.length ≤ 20 by omega) habove hbelow
  generalize hreq : tagRequest id w.frame (4 * ws.length) = req at hwf hret hspan hargs
  have hvalueLen : req.valueLen = 4 * ws.length := by
    rw [← hreq, TagRequest.valueLen, TagRequest.valueBufsz]
    show (max (4 : Int) ((4 * ws.length : Nat) : Int)).toNat = _
    omega
  have hretReq : req.ret = w.frame + 4 := by rw [← hreq]; rfl
  have hretSz : req.retSz = (4 * ws.length : Nat) := by rw [← hreq]; rfl
  have hsum : (w.frame + 4).toNat = w.frame.toNat + 4 := by
    rw [BitVec.toNat_add]
    exact Nat.mod_eq_of_lt (show w.frame.toNat + 4 < 2 ^ 32 by omega)
  -- the request
  obtain ⟨hprop, hsize, -, hsent, -, -⟩ := buildPropertyBuffer_sentAt (store32 w.ram w.frame arg)
    (List.forall_mem_singleton.mpr hwf) (by omega)
    (List.forall_mem_singleton.mpr fun y hy hlt => hargs y hy (by omega))
  generalize hbuilt : buildPropertyBuffer (store32 w.ram w.frame arg) [req] = built
    at hprop hsize hsent
  rw [← tagsBase_eq] at hsent
  have hanswered : Firmware.Answered (B.firmware.process built.1 heapRamAddr) req ws := by
    apply Firmware.process_answered hwf (by rw [← hreq]; rfl) hsize hsent (by omega) _ hvalueLen
    have harg : load32 (store32 w.ram w.frame arg) req.args = arg := by
      rw [← hreq]
      exact load32_store32 (by decide)
    rw [harg, ← hreq]
    exact hanswer
  have hrun : Leads (vcmailboxRequestTags [req])
      (fun e w' => e = .none ∧ Drained w' ∧
        ∃ ram, w'.ram = overlay ram (w.frame + 4) (4 * ws.length) (wordBytes ws))
      { w with ram := store32 w.ram w.frame arg } := by
    unfold vcmailboxRequestTags
    apply Leads.change_bind
    dsimp only
    rw [hbuilt, hprop]
    have hsilent : Silent { w with ram := built.1 } :=
      ⟨⟨h.fit.steady, h.fit.prompt, h.fit.starts, habove, hbelow⟩, h.posted, h.answered⟩
    apply (vcmailboxWriteMessage_leads heapRamAddr channelProperty hsilent).bind
    rintro _ _ ⟨b, rfl, hb⟩
    apply (vcmailboxReadMessage_leads (hsilent.fit.on b) hb).bind
    rintro _ w' ⟨rfl, hdrained, -, hram⟩
    have hback : ((heapRamAddr &&& ~~~channelBits) ||| channelProperty) &&& ~~~channelBits =
        heapRamAddr := by decide
    have hchan : wrongChannel ((heapRamAddr &&& ~~~channelBits) ||| channelProperty) = false := by
      decide
    rw [hchan, if_neg Bool.false_ne_true]
    rw [hback] at hram ⊢
    rw [if_neg (not_not.mpr rfl)]
    apply Leads.view_bind
    rw [World.ram_on] at hram
    have hok : propResponseCodeResponse &&& propResponseCodeResponse ≠ 0 := by decide
    have herr : propResponseCodeResponse &&& propResponseCodeError = 0 := by decide
    rw [hram, hanswered.header, if_neg hok, if_neg (not_not.mpr herr)]
    rw [← hram] at hanswered
    have hreturn := Firmware.returnTagResponses_answered hanswered hwf hretSz hvalueLen
      (fun y hy hlt hin => by
        rw [TagRequest.Ret, hretReq, hretSz, region_iff (by rw [hsum, Int.toNat_natCast]; omega),
          hsum] at hin
        rw [tagsBase_eq] at hy
        rw [Int.toNat_natCast, BitVec.toNat_ofNat, Nat.mod_eq_of_lt hlt] at hin
        omega) (by omega)
    refine ⟨_, _, _, hreturn, rfl, ⟨⟨hdrained.fit.steady, hdrained.fit.prompt,
      hdrained.fit.starts, hdrained.fit.onStack.above, hdrained.fit.onStack.below⟩,
      hdrained.mail⟩, w'.ram, ?_⟩
    rw [hretReq]
  unfold requestTag
  apply Leads.view_bind
  apply Leads.change_bind
  dsimp only
  rw [show (⟨id.code, w.frame, 4, w.frame + 4, ((4 * ws.length : Nat) : Int)⟩ : TagRequest) = req
    from hreq]
  apply hrun.bind
  rintro _ w' ⟨rfl, hdrained, ram, hram⟩
  apply Leads.view_bind
  refine Leads.pure ⟨rfl, ?_, hdrained⟩
  intro i hi
  dsimp only
  rw [hram, load32_overlay (by omega) (by omega)]
  have hword : ∀ j < 4, wordBytes ws (4 * i + j) = leByte (ws.getD i 0) j := by
    intro j hj
    rw [wordBytes, show (4 * i + j) / 4 = i by omega, show (4 * i + j) % 4 = j by omega]
  rw [leWord_congr hword, leWord_leByte]

/-- A request that is answered by two words. -/
theorem requestTag_pair {x v : Word} (h : Silent w)
    (hanswer : B.firmware.answer id.code arg = some [x, v]) :
    Leads (requestTag id arg 8)
      (fun r w' => r.1 = .none ∧ r.2 0 = x ∧ r.2 1 = v ∧ Drained w') w := by
  apply (requestTag_leads h hanswer (by simp)).mono
  rintro r w' ⟨herror, hret, h'⟩
  exact ⟨herror, hret 0 (by simp), hret 1 (by simp), h'⟩

theorem tagClockGetState_leads (clkId : Word) (h : Silent w) :
    Leads (tagClockGetState clkId)
      (fun v w' => v = B.firmware.clockState clkId ∧ Drained w') w := by
  apply (requestTag_pair h rfl).bind
  rintro ⟨error, ret⟩ w' ⟨rfl, h0, h1, h'⟩
  dsimp only at h0 h1 ⊢
  rw [h0, h1, if_neg (by simp)]
  exact Leads.pure ⟨rfl, h'⟩

theorem tagClockGetRate_leads (clkId : Word) (h : Silent w) :
    Leads (tagClockGetRate clkId) (fun v w' => v = B.firmware.clockRate clkId ∧ Drained w') w := by
  apply (requestTag_pair h rfl).bind
  rintro ⟨error, ret⟩ w' ⟨rfl, h0, h1, h'⟩
  dsimp only at h0 h1 ⊢
  rw [h0, h1, if_neg (by simp)]
  exact Leads.pure ⟨rfl, h'⟩

theorem tagGpioGetState_leads (pin : Word) (h : Silent w) :
    Leads (tagGpioGetState pin)
      (fun v w' => v = B.firmware.gpioState (convertPinToVc pin) ∧ Drained w') w := by
  apply (requestTag_pair h rfl).bind
  rintro ⟨error, ret⟩ w' ⟨rfl, h0, h1, h'⟩
  dsimp only at h0 h1 ⊢
  rw [h0, h1, if_neg (by simp)]
  exact Leads.pure ⟨rfl, h'⟩

/-- The configuration of a pin of the expander, as far as the driver looks at it. -/
def Firmware.pinConfig (F : Firmware) (pin : Word) : GpioExpanderPinConfig :=
  ⟨F.gpioDirection (convertPinToVc pin), F.gpioPolarity (convertPinToVc pin)⟩

theorem tagGpioGetConfig_leads (pin : Word) (h : Silent w) :
    Leads (tagGpioGetConfig pin) (fun c w' => c = B.firmware.pinConfig pin ∧ Drained w') w := by
  have hanswer : B.firmware.answer TagId.gpioGetConfig.code (convertPinToVc pin) =
      some [0, B.firmware.gpioDirection (convertPinToVc pin),
        B.firmware.gpioPolarity (convertPinToVc pin),
        B.firmware.gpioTermination (convertPinToVc pin),
        B.firmware.gpioPullUp (convertPinToVc pin)] := rfl
  apply (requestTag_leads h hanswer (by simp)).bind
  rintro ⟨error, cfg⟩ w' ⟨rfl, hcfg, h'⟩
  have h0 : cfg 0 = 0 := hcfg 0 (by simp)
  have h1 : cfg 1 = B.firmware.gpioDirection (convertPinToVc pin) := hcfg 1 (by simp)
  have h2 : cfg 2 = B.firmware.gpioPolarity (convertPinToVc pin) := hcfg 2 (by simp)
  dsimp only
  rw [h0, h1, h2, if_neg (by simp)]
  exact Leads.pure ⟨rfl, h'⟩

end Requests

/-! ### What the driver expects of the firmware -/

/-- A pin of the expander is an active high output. -/
def Firmware.drives (F : Firmware) (pin : Word) : Bool :=
  gpioConfigPinIsOutput (F.pinConfig pin) && gpioConfigPinIsActiveHigh (F.pinConfig pin)

/-- The clock of the host is there, on, and as fast as expected; the card is supplied with power,
at 3.3 V. -/
structure Firmware.SetUp (F : Firmware) : Prop where
  clockOn : (F.clockState clkEmmc2).getLsbD 1 = false ∧ (F.clockState clkEmmc2).getLsbD 0 = true
  clockRate : (F.clockRate clkEmmc2).toInt = emmc2ExpectedBaseClockHz
  voltage : F.drives gpioExpanderVddSdIoSel = true ∧
    F.gpioState (convertPinToVc gpioExpanderVddSdIoSel) = 0
  power : F.drives gpioExpanderSdPwrOn = true ∧
    F.gpioState (convertPinToVc gpioExpanderSdPwrOn) ≠ 0

instance (F : Firmware) : Decidable F.SetUp :=
  decidable_of_iff
    (((F.clockState clkEmmc2).getLsbD 1 = false ∧ (F.clockState clkEmmc2).getLsbD 0 = true) ∧
      (F.clockRate clkEmmc2).toInt = emmc2ExpectedBaseClockHz ∧
      (F.drives gpioExpanderVddSdIoSel = true ∧
        F.gpioState (convertPinToVc gpioExpanderVddSdIoSel) = 0) ∧
      F.drives gpioExpanderSdPwrOn = true ∧
        F.gpioState (convertPinToVc gpioExpanderSdPwrOn) ≠ 0)
    ⟨fun h => ⟨h.1, h.2.1, h.2.2.1, h.2.2.2⟩, fun h => ⟨h.1, h.2, h.3, h.4⟩⟩

section Checks

variable {w : World (Board B)}

/-- A check passes, or the driver signals that the VideoCore has not set up the card. -/
def Checks (m : Drv (Board B) Unit) (p : Prop) (w : World (Board B)) : Prop :=
  (p → Leads m (fun _ w' => Drained w') w) ∧ (¬ p → EndsWith m (.signalled .vcNotInitMmc) w)

theorem Checks.bind {m m' : Drv (Board B) Unit} {p q : Prop} (h : Checks m p w)
    (h' : ∀ w', Silent w' → Checks m' q w') : Checks (m >>= fun _ => m') (p ∧ q) w := by
  constructor
  · rintro ⟨hp, hq⟩
    apply (h.1 hp).bind
    intro _ w' hw'
    exact (h' w' hw'.silent).1 hq
  · intro hpq
    by_cases hp : p
    · apply EndsWith.after (h.1 hp)
      intro _ w' hw'
      exact (h' w' hw'.silent).2 fun hq => hpq ⟨hp, hq⟩
    · exact (h.2 hp).bind

/-- A test of something that was asked for. -/
theorem Checks.ask {α : Type} {ask : Drv (Board B) α} {a : α} {p q : Prop} [Decidable p]
    {fmt : String} {args : α → List LogArg} {rest : α → Drv (Board B) Unit}
    (hask : Leads ask (fun x w' => x = a ∧ Drained w') w) {test : α → Prop}
    [DecidablePred test] (htest : test a ↔ ¬ p)
    (hrest : ∀ w', Drained w' → Checks (rest a) q w') :
    Checks (do
      let x ← ask
      if test x then
        serialLog fmt (args x)
        signalError .vcNotInitMmc
      else rest x) (p ∧ q) w := by
  constructor
  · rintro ⟨hp, hq⟩
    apply hask.bind
    rintro _ w' ⟨rfl, hw'⟩
    rw [if_neg fun ht => htest.mp ht hp]
    exact (hrest w' hw').1 hq
  · intro hpq
    apply EndsWith.after hask
    rintro _ w' ⟨rfl, hw'⟩
    by_cases hp : p
    · rw [if_neg fun ht => htest.mp ht hp]
      exact (hrest w' hw').2 fun hq => hpq ⟨hp, hq⟩
    · rw [if_pos (htest.mpr hp)]
      exact EndsWith.log_bind EndsWith.halt

theorem Checks.done (h : Drained w) : Checks (pure () : Drv (Board B) Unit) True w :=
  ⟨fun _ => Leads.pure h, fun hf => absurd trivial hf⟩

theorem sdAssertBaseClock_checks (h : Silent w) :
    Checks sdAssertBaseClock
      (((B.firmware.clockState clkEmmc2).getLsbD 1 = false ∧
          (B.firmware.clockState clkEmmc2).getLsbD 0 = true) ∧
        (B.firmware.clockRate clkEmmc2).toInt = emmc2ExpectedBaseClockHz ∧ True) w := by
  apply Checks.ask (tagClockGetState_leads clkEmmc2 h)
  · cases (B.firmware.clockState clkEmmc2).getLsbD 1 <;> simp
  intro w' h'
  exact Checks.ask (tagClockGetRate_leads clkEmmc2 h'.silent) Iff.rfl fun _ => Checks.done

/-- The two tests of a pin of the expander. -/
theorem sdAssertVoltage_checks (h : Silent w) :
    Checks sdAssertVoltage
      (B.firmware.drives gpioExpanderVddSdIoSel = true ∧
        B.firmware.gpioState (convertPinToVc gpioExpanderVddSdIoSel) = 0 ∧ True) w := by
  apply Checks.ask (tagGpioGetConfig_leads gpioExpanderVddSdIoSel h)
  · rw [Firmware.drives, Bool.and_eq_true, not_and_or]
  intro w' h'
  exact Checks.ask (tagGpioGetState_leads gpioExpanderVddSdIoSel h'.silent) Iff.rfl
    fun _ => Checks.done

theorem sdAssertCardPower_checks (h : Silent w) :
    Checks sdAssertCardPower
      (B.firmware.drives gpioExpanderSdPwrOn = true ∧
        B.firmware.gpioState (convertPinToVc gpioExpanderSdPwrOn) ≠ 0 ∧ True) w := by
  apply Checks.ask (tagGpioGetConfig_leads gpioExpanderSdPwrOn h)
  · rw [Firmware.drives, Bool.and_eq_true, not_and_or]
  intro w' h'
  exact Checks.ask (tagGpioGetState_leads gpioExpanderSdPwrOn h'.silent) not_not.symm
    fun _ => Checks.done

/-- The driver goes on exactly if the VideoCore has set up everything. -/
theorem sdAssertVcInit_checks (h : Silent w) :
    Checks sdAssertVcInit B.firmware.SetUp w := by
  have hchecks := (sdAssertBaseClock_checks h).bind fun w' h' =>
    (sdAssertVoltage_checks h').bind fun w'' h'' => sdAssertCardPower_checks h''
  constructor
  · intro hset
    exact hchecks.1 ⟨⟨hset.clockOn, hset.clockRate, trivial⟩,
      ⟨hset.voltage.1, hset.voltage.2, trivial⟩, hset.power.1, hset.power.2, trivial⟩
  · intro hset
    apply hchecks.2
    rintro ⟨⟨hon, hrate, -⟩, ⟨hsel, h3v3, -⟩, hpin, hpower, -⟩
    exact hset ⟨hon, hrate, ⟨hsel, h3v3⟩, ⟨hpin, hpower⟩⟩

end Checks

/-! ### The UART -/

section Uart

variable {w : World (Board B)} {α : Type}

theorem Silent.tick (h : Silent w) : Silent (w.on w.dev.tick) := by
  have hmail := Board.mail_tick w.dev
  refine ⟨h.fit.on _, ?_, ?_⟩
  · rw [World.dev_on, hmail]
    split_ifs
    · exact h.posted
    · rw [Mailbox.settle, h.posted]
  · rw [World.dev_on, hmail]
    split_ifs
    · exact h.answered
    · rw [Mailbox.settle, h.posted]
      exact h.answered

/-- `uart_init`, whatever its registers read as. -/
theorem uartInit_leads (h : Silent w) : Leads uartInit (fun _ w' => Silent w') w := by
  have hset : ∀ {w : World (Board B)} (r : UartRegister) (v : Word), Silent w →
      Leads (registerSet (.uart r) v) (fun _ w' => Silent w') w :=
    fun r v hw => Leads.set hw.tick
  have hselect : Leads (gpioPinSelectOp gpioPinTxd1 .altFn5) (fun _ w' => Silent w') w :=
    Leads.set h.tick
  apply hselect.bind
  intro _ w₁ h₁
  apply (hset _ _ h₁).bind
  intro _ w₂ h₂
  have hdisable : Leads (registerDisableBits (.uart .auxMuCntlReg) auxMuCntlRegRxEn)
      (fun _ w' => Silent w') w₂ := by
    apply Leads.get_bind
    exact hset _ _ h₂.tick
  apply hdisable.bind
  intro _ w₃ h₃
  have hrate : Leads (uartSetBaudrate 115200) (fun _ w' => Silent w') w₃ := by
    apply (tagClockGetRate_leads clkCore h₃).bind
    rintro rate w' ⟨-, h'⟩
    exact hset _ _ h'.silent
  apply hrate.bind
  intro _ w₄ h₄
  exact hset _ _ h₄

end Uart

end RpiBld
