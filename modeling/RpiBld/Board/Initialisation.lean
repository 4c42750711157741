/-
RpiBld/Board/Initialisation.lean

`init_peripherals` on the board.

The driver asks the VideoCore what it has set up, and goes on exactly if that is
what it expects (`sdAssertVcInit_checks`).  Then it takes the host and the card from
whatever state they are in to the transfer state, with a clock of 25 MHz and as many
data lines as the card can use (`initPeripherals_leads`).
-/
import RpiBld.Board.Commands
import RpiBld.Board.Requests

namespace RpiBld

open Traced Controller

variable {B : Bench}

/-! ### The host -/

section Host

variable {host : HostPort} {card : CardRegs} {w : World (Board B)}

theorem Drained.tick (h : Drained w) : Drained (w.on w.dev.tick) := by
  refine ⟨h.fit.on _, ?_⟩
  rw [World.dev_on, Board.mail_tick, h.mail]
  split_ifs <;> rfl

theorem Board.card_tick (b : Board B) : b.tick.card = b.card := by
  unfold Board.tick
  split_ifs <;> rfl

/-- A reset of the host, whatever it was doing. -/
theorem sdResetHost_leads (h : Drained w) :
    Leads sdResetHost (fun _ w' => Stands ⟨0, 0, 0⟩ w.dev.card w') w := by
  have hset : Leads (registerEnableBits (.sd .control1) control1SwResetHc)
      (fun _ w' => Turns .resetting ⟨0, 0, 0⟩ w.dev.card w') w := by
    apply Leads.get_bind
    apply Leads.set
    have hreset : ∀ v : Word, (v ||| control1SwResetHc) &&& control1SwResetHc ≠ 0 := by
      intro v
      have htest := and_bit_eq_zero_iff (v ||| control1SwResetHc) (show 24 < 32 by decide)
      have hbit : control1SwResetHc.getLsbD 24 = true := by decide
      rw [BitVec.getLsbD_or, hbit, Bool.or_true] at htest
      exact fun hz => Bool.noConfusion (htest.mp hz)
    have hwrite : ∀ (b : Board B) v, Device.set (.sd .control1) (v ||| control1SwResetHc) b =
        { b.tick.withCtl { b.tick.ctl with irpt := 0, preset := none, phase := .idle } with
          host := .resetting
          register := false } := by
      intro b v
      show b.tick.setControl1 _ = _
      rw [Board.setControl1, if_pos (hreset v), HostPort.writeControl1, if_pos (hreset v)]
    have hdrained := h.tick.tick
    have hcard : (w.on w.dev.tick).dev.tick.card = w.dev.card :=
      (Board.card_tick _).trans (Board.card_tick _)
    rw [hwrite]
    exact ⟨h.fit.on _, ⟨rfl, rfl⟩, by decide, by decide, rfl, hcard, rfl, hdrained.mail⟩
  apply hset.bind
  intro _ w' h'
  exact h'.wait_leads (fun v => v &&& control1SwResetHc != 0) 20 (by decide) (by decide)

/-- What a write of `CONTROL1` leaves, where no reset is asked for. -/
structure HostPort.Takes (h : HostPort) (v : Word) (h' : HostPort) : Prop where
  noReset : v &&& control1SwResetHc = 0
  write : h.writeControl1 v = h'
  settled : h'.settle = h'

/-- The host through `sd_supply_clock`. -/
theorem sdSupplyClock_leads {rate : Int} {h₁ h₂ h₃ h₄ h₅ : HostPort} {v : Word}
    (h : Stands host card w)
    (hoff : host.Takes (host.control1 &&& ~~~(control1ClkEn ||| control1IntClkEn)) h₁)
    (hclear : h₁.Takes (h₁.control1 &&& ~~~control1ClkFreqSel) h₂)
    (hv : BitVec.ofInt 32 (sd8bitClockDivider emmc2ExpectedBaseClockHz rate) <<<
      control1ClkFreqSelShift ||| control1IntClkEn = v)
    (hreset : (h₂.control1 ||| v) &&& control1SwResetHc = 0)
    (hwrite : h₂.writeControl1 (h₂.control1 ||| v) = h₃) (hsettles : h₃.settle = h₄)
    (hsettled : h₄.settle = h₄) (hbefore : (h₃.control1 &&& control1IntClkStable == 0) = true)
    (hafter : (h₄.control1 &&& control1IntClkStable == 0) = false)
    (hon : h₄.Takes (h₄.control1 ||| control1ClkEn) h₅) :
    Leads (sdSupplyClock rate) (fun _ w' => Stands h₅ card w') w := by
  unfold sdSupplyClock
  apply (h.disableControl1_leads _ hoff.noReset hoff.write hoff.settled).bind
  intro _ w₁ hw₁
  apply (hw₁.disableControl1_leads _ hclear.noReset hclear.write hclear.settled).bind
  intro _ w₂ hw₂
  rw [hv]
  apply (hw₂.enableControl1_turns _ hreset hwrite hsettles hsettled).bind
  intro _ w₃ hw₃
  apply (hw₃.wait_leads (fun v => v &&& control1IntClkStable == 0) 20 hbefore hafter).bind
  intro _ w₄ hw₄
  apply (hw₄.enableControl1_turns _ hon.noReset hon.write hon.settled hon.settled).mono
  exact fun _ _ => Turns.stands

/-- `sd_pre_cmd_init`, after its checks. -/
theorem hostSetup_leads (h : Drained w) :
    Leads (do
      sdResetHost
      sdSupplyBusPower
      sdSupplyClock identificationClockRateHz
      sdEnableCmdInterrupts) (fun _ w' => Stands .identifying w.dev.card w') w := by
  apply (sdResetHost_leads h).bind
  intro _ w₁ h₁
  apply (h₁.enableControl0_leads _).bind
  intro _ w₂ h₂
  have hoff : HostPort.Takes ⟨0xf00, 0, 0⟩ (0 &&& ~~~(control1ClkEn ||| control1IntClkEn))
      ⟨0xf00, 0, 0⟩ := ⟨by decide, by decide, by decide⟩
  have hclear : HostPort.Takes ⟨0xf00, 0, 0⟩ (0 &&& ~~~control1ClkFreqSel) ⟨0xf00, 0, 0⟩ :=
    ⟨by decide, by decide, by decide⟩
  have hwrite : HostPort.writeControl1 ⟨0xf00, 0, 0⟩ (0 ||| 0x8001) = ⟨0xf00, 0x8001, 0⟩ := by
    decide
  have hsettles : HostPort.settle ⟨0xf00, 0x8001, 0⟩ = ⟨0xf00, 0x8003, 0⟩ := by decide
  have hon : HostPort.Takes ⟨0xf00, 0x8003, 0⟩ (0x8003 ||| control1ClkEn) ⟨0xf00, 0x8007, 0⟩ :=
    ⟨by decide, by decide, by decide⟩
  have hclock : Leads (sdSupplyClock identificationClockRateHz)
      (fun _ w' => Stands ⟨0xf00, 0x8007, 0⟩ w.dev.card w') w₂ :=
    sdSupplyClock_leads h₂ hoff hclear (by decide) (by decide) hwrite hsettles (by decide)
      (by decide) (by decide) hon
  apply hclock.bind
  intro _ w₃ h₃
  exact h₃.enableIrptMask_leads _

/-- The clock of a card with an address. -/
theorem supplyClock_selecting (h : Stands .identifying card w) :
    Leads (sdSupplyClock defaultSpeedClockRateHz) (fun _ w' => Stands .selecting card w') w := by
  have hoff : HostPort.Takes .identifying (0x8007 &&& ~~~(control1ClkEn ||| control1IntClkEn))
      ⟨0xf00, 0x8000, cmdInterrupts⟩ := ⟨by decide, by decide, by decide⟩
  have hclear : HostPort.Takes ⟨0xf00, 0x8000, cmdInterrupts⟩ (0x8000 &&& ~~~control1ClkFreqSel)
      ⟨0xf00, 0, cmdInterrupts⟩ := ⟨by decide, by decide, by decide⟩
  have hwrite : HostPort.writeControl1 ⟨0xf00, 0, cmdInterrupts⟩ (0 ||| 0x0201) =
      ⟨0xf00, 0x0201, cmdInterrupts⟩ := by decide
  have hsettles : HostPort.settle ⟨0xf00, 0x0201, cmdInterrupts⟩ =
      ⟨0xf00, 0x0203, cmdInterrupts⟩ := by decide
  have hon : HostPort.Takes ⟨0xf00, 0x0203, cmdInterrupts⟩ (0x0203 ||| control1ClkEn) .selecting :=
    ⟨by decide, by decide, by decide⟩
  exact sdSupplyClock_leads h hoff hclear (by decide) (by decide) hwrite hsettles (by decide)
    (by decide) (by decide) hon

end Host

/-! ### The card -/

section Card

variable {card : CardRegs} {w : World (Board B)}

/-- The firmware has set up the clock that `sd_supply_clock` counts on. -/
theorem baseClock_of_setUp (h : B.firmware.SetUp) : B.baseClock = 100000000 := by
  have hrate := h.clockRate
  rw [emmc2ExpectedBaseClockHz, BitVec.toInt_eq_toNat_cond] at hrate
  unfold Bench.baseClock
  split at hrate <;> omega

variable (hb : B.baseClock = 100000000)

include hb

theorem sdCardInitAndIdentify_leads (h : Stands .identifying card w) :
    Leads (sdCardInitAndIdentify {})
      (fun r w' => r = (.none, ⟨.standby, B.card.medium.blockAddressed, B.card.rca.toNat, false⟩) ∧
        Stands .identifying ⟨.standby, 0, false, false⟩ w') w := by
  unfold sdCardInitAndIdentify
  apply (h.plain_leads (serves_cmd0 (reaches_identifying hb) (by decide)) (by decide)).bind
  rintro _ w₁ ⟨rfl, h₁, -, -⟩
  rw [if_neg (not_not.mpr rfl)]
  apply (sdIssueCmd8_leads hb h₁).bind
  rintro _ w₂ ⟨rfl, h₂⟩
  rw [if_neg (by simp), if_neg (by simp)]
  apply (sdIssueAcmd41_leads hb false h₂).bind
  rintro _ w₃ ⟨rfl, h₃⟩
  dsimp only
  rw [if_neg (by simp), if_neg (by simp)]
  apply (allSendCid_leads hb h₃).bind
  rintro _ w₄ ⟨rfl, h₄⟩
  rw [if_neg (by simp)]
  apply (sdIssueCmd3_leads hb _ h₄).bind
  rintro _ w₅ ⟨rfl, h₅⟩
  dsimp only
  rw [if_neg (by simp)]
  exact Leads.pure ⟨rfl, h₅⟩

/-- The host follows the card to four data lines. -/
theorem sdSet4bitDataBusWidth_leads (hwide : B.card.scr.getLsbD 50 = true)
    (h : Stands (.transferring false) (transferCard false) w) :
    Leads (sdSet4bitDataBusWidth (B.card.rca.toNat : Int))
      (fun e w' => e = .none ∧ Stands (.transferring true) (transferCard true) w') w := by
  unfold sdSet4bitDataBusWidth
  apply h.irptMask_bind
  intro w₁ h₁
  apply (h₁.disableIrptMask_leads cardInterrupt).bind
  intro _ w₂ h₂
  have hsame : ({ HostPort.transferring false with
      irptMask := (HostPort.transferring false).irptMask &&& ~~~cardInterrupt } : HostPort) =
      .transferring false := by decide
  rw [hsame] at h₂
  apply (sdIssueAcmd6_leads (driving_transferring hb false) hwide h₂).bind
  rintro _ w₃ ⟨rfl, h₃⟩
  have hwiden : Leads (sdWidenHost .none)
      (fun _ w' => Stands (.transferring true) (transferCard true) w') w₃ := by
    rw [sdWidenHost, if_pos rfl]
    exact h₃.enableControl0_leads _
  apply hwiden.bind
  intro _ w₄ h₄
  apply (h₄.setIrptMask_leads _).bind
  intro _ w₅ h₅
  exact Leads.pure ⟨rfl, h₅⟩

/-- What the driver then knows of the card. -/
def MemoryCard.known (K : MemoryCard) : Card :=
  ⟨.transfer, K.medium.blockAddressed, K.rca.toNat, K.scr.getLsbD 33⟩

/-- The card can use four data lines. -/
def MemoryCard.wide (K : MemoryCard) : Bool := K.scr.getLsbD 50

/-- The board is ready for reads. -/
def ReadsFrom (w : World (Board B)) : Prop :=
  Stands (.transferring B.card.wide) (transferCard B.card.wide) w

theorem sdInitCardTransfer_leads (h : Stands .identifying ⟨.standby, 0, false, false⟩ w) :
    Leads (sdInitCardTransfer ⟨.standby, B.card.medium.blockAddressed, B.card.rca.toNat, false⟩)
      (fun r w' => r = (.none, B.card.known) ∧ ReadsFrom w') w := by
  unfold sdInitCardTransfer
  apply (supplyClock_selecting h).bind
  intro _ w₁ h₁
  apply (sdIssueCmd7_leads (driving_selecting hb) h₁).bind
  rintro _ w₂ ⟨rfl, h₂⟩
  rw [if_neg (by simp)]
  apply (sdIssueCmd13_leads (driving_selecting hb) 0 h₂).bind
  rintro _ w₃ ⟨rfl, h₃⟩
  dsimp only
  rw [if_neg (by simp), CardRegs.currentState_status _ rfl, if_neg (by simp)]
  apply (h₃.enableIrptMask_leads transferInterrupts).bind
  intro _ w₄ h₄
  have h₄ : Stands (.transferring false) (transferCard false) w₄ := h₄
  apply (sdIssueAcmd51_leads (driving_transferring hb false) (by decide) (by decide) (by decide)
    h₄).bind
  rintro _ w₅ ⟨rfl, h₅⟩
  dsimp only
  rw [if_neg (by simp), B.card.cmd23Supported_scrHigh, B.card.fourBit_scrHigh]
  cases hwide : B.card.scr.getLsbD 50 with
  | false =>
    rw [if_neg (by simp)]
    apply Leads.log_bind
    refine Leads.pure ⟨rfl, ?_⟩
    rw [ReadsFrom, MemoryCard.wide, hwide]
    exact h₅
  | true =>
    rw [if_pos rfl]
    apply (sdSet4bitDataBusWidth_leads hb hwide h₅).bind
    rintro _ w₆ ⟨rfl, h₆⟩
    rw [if_neg (by simp)]
    apply Leads.log_bind
    refine Leads.pure ⟨rfl, ?_⟩
    rw [ReadsFrom, MemoryCard.wide, hwide]
    exact h₆

end Card

/-! ### All peripherals -/

section Peripherals

variable {w : World (Board B)}

/-- **The initialisation succeeds** on a board that the firmware has set up and whose mailbox is
silent, whatever state its host and card are in. -/
theorem initPeripherals_leads (h : Silent w) (hset : B.firmware.SetUp) :
    Leads initPeripherals (fun card w' => card = B.card.known ∧ ReadsFrom w') w := by
  have hb := baseClock_of_setUp hset
  have hpre : ∀ {w : World (Board B)}, Silent w →
      Leads sdPreCmdInit (fun _ w' => ∃ card, Stands .identifying card w') w := by
    intro w hw
    apply ((sdAssertVcInit_checks hw).1 hset).bind
    intro _ w' hw'
    exact (hostSetup_leads hw').mono fun _ _ hw'' => ⟨_, hw''⟩
  have hcard : ∀ {w : World (Board B)}, Silent w →
      Leads sdInitCard (fun r w' => r = (.none, B.card.known) ∧ ReadsFrom w') w := by
    intro w hw
    apply Leads.log_bind
    apply (hpre hw).bind
    rintro _ w₁ ⟨card, h₁⟩
    apply (sdCardInitAndIdentify_leads hb h₁).bind
    rintro _ w₂ ⟨rfl, h₂⟩
    exact sdInitCardTransfer_leads hb h₂
  apply (uartInit_leads h).bind
  intro _ w₁ h₁
  apply Leads.log_bind
  apply (hcard h₁).bind
  rintro _ w₂ ⟨rfl, h₂⟩
  exact Leads.pure ⟨rfl, h₂⟩

/-- Otherwise the driver says that the VideoCore has not set up the card. -/
theorem initPeripherals_ends (h : Silent w) (hset : ¬ B.firmware.SetUp) :
    EndsWith initPeripherals (.signalled .vcNotInitMmc) w := by
  apply EndsWith.after (uartInit_leads h)
  intro _ w₁ h₁
  have hcard : EndsWith sdInitCard (.signalled .vcNotInitMmc) w₁ := by
    apply EndsWith.log_bind
    have hpre : EndsWith sdPreCmdInit (.signalled .vcNotInitMmc) w₁ :=
      ((sdAssertVcInit_checks h₁).2 hset).bind
    exact hpre.bind
  apply EndsWith.log_bind
  exact hcard.bind

end Peripherals

end RpiBld
