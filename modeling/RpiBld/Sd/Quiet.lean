/-
RpiBld/Sd/Quiet.lean

What the card does not hear.  The clocks, the resets, the interrupt mask and
the mailbox go through registers that the transcript monitor ignores, so none
of them says anything to the card, and none of them can come between a command
and its answers.
-/
import RpiBld.Sd.Exchange

namespace RpiBld

open Traced

/-- The registers the monitor looks at. -/
def cardReg : Reg → Bool
  | .sd .arg1 | .sd .cmdtm | .sd .control0 | .sd .interrupt | .sd .resp0 | .sd .data => true
  | _ => false

theorem quiet_get {r : Reg} (hr : cardReg r = false) (v : Word) : Quiet (.get r v) := by
  intro c
  cases r with
  | sd r => cases r <;> first | rfl | cases hr
  | vcmailbox r => rfl
  | timer r => rfl
  | gpio r => rfl
  | uart r => rfl

theorem quiet_set {r : Reg} (hr : cardReg r = false) (v : Word) : Quiet (.set r v) := by
  intro c
  cases r with
  | sd r => cases r <;> first | rfl | cases hr
  | vcmailbox r => rfl
  | timer r => rfl
  | gpio r => rfl
  | uart r => rfl

variable {σ : Type} {α : Type}

open Program

theorem serialLog_quiet (fmt : String) (args : List LogArg) :
    Emits Quiet (serialLog fmt args : Drv σ Unit) :=
  Emits.emit fun _ => rfl

theorem failure_quiet (fmt : String) (args : List LogArg) (e : ErrorCode) :
    Emits Quiet (do serialLog fmt args; signalError e : Drv σ α) :=
  (serialLog_quiet fmt args).bind fun _ => Emits.halt _

variable [Device σ]

theorem registerGet_quiet {r : Reg} (hr : cardReg r = false) :
    Emits Quiet (registerGet r : Drv σ Word) := by
  intro w e he
  rw [List.mem_singleton.mp he]
  exact quiet_get hr _

theorem registerSet_quiet {r : Reg} (hr : cardReg r = false) (v : Word) :
    Emits Quiet (registerSet r v : Drv σ Unit) := by
  intro w e he
  rw [List.mem_singleton.mp he]
  exact quiet_set hr _

theorem registerEnableBits_quiet {r : Reg} (hr : cardReg r = false) (mask : Word) :
    Emits Quiet (registerEnableBits r mask : Drv σ Unit) :=
  (registerGet_quiet hr).bind fun _ => registerSet_quiet hr _

theorem registerDisableBits_quiet {r : Reg} (hr : cardReg r = false) (mask : Word) :
    Emits Quiet (registerDisableBits r mask : Drv σ Unit) :=
  (registerGet_quiet hr).bind fun _ => registerSet_quiet hr _

theorem sdResetHost_quiet : Emits Quiet (sdResetHost : Drv σ Unit) := by
  apply (registerEnableBits_quiet rfl _).bind
  intro _
  apply whileCondTimeoutInfinite_emits
  exact (registerGet_quiet rfl).bind fun _ => Emits.pure _

theorem sdSupplyClock_quiet (clockRate : Int) :
    Emits Quiet (sdSupplyClock clockRate : Drv σ Unit) := by
  apply (registerDisableBits_quiet rfl _).bind
  intro _
  apply (registerDisableBits_quiet rfl _).bind
  intro _
  apply (registerEnableBits_quiet rfl _).bind
  intro _
  have hwait : Emits Quiet (whileCondTimeoutInfinite sdInternalClockNotStable 20 : Drv σ Unit) :=
    whileCondTimeoutInfinite_emits
      ((registerGet_quiet rfl).bind fun _ => Emits.pure _) _
  apply hwait.bind
  intro _
  exact registerEnableBits_quiet rfl _

/-! The mailbox. -/

omit [Device σ] in
theorem returnTagLoop_quiet (n : Int) (reqs : List TagRequest) (tag : Word) (i : Int) :
    Emits Quiet (returnTagLoop n tag reqs i : Drv σ VcmailboxError) := by
  have hlog : ∀ fmt args (e : VcmailboxError),
      Emits Quiet (do serialLog fmt args; pure e : Drv σ VcmailboxError) :=
    fun fmt args e => (serialLog_quiet fmt args).bind fun _ => Emits.pure e
  have hid : ∀ tag, Emits Quiet (loadTagId tag : Drv σ Word) :=
    fun tag => Emits.ite (Emits.view _) (Emits.halt _)
  induction reqs generalizing tag i with
  | nil =>
    refine (hid _).bind fun id => ?_
    exact Emits.ite (Emits.ite (hlog _ _ _) (Emits.pure _)) (Emits.halt _)
  | cons req reqs ih =>
    refine (hid _).bind fun id => ?_
    apply Emits.ite (Emits.ite (hlog _ _ _) (Emits.pure _))
    apply Emits.ite (hlog _ _ _)
    refine (Emits.view _).bind fun code => ?_
    apply Emits.ite (hlog _ _ _)
    apply Emits.ite (hlog _ _ _)
    refine Emits.bind (Emits.ite (Emits.change _) (Emits.pure _)) fun _ => ?_
    refine (Emits.view _).bind fun valueBufsz => ?_
    exact ih _ _

theorem vcmailboxRequestTags_quiet (reqs : List TagRequest) :
    Emits Quiet (vcmailboxRequestTags reqs : Drv σ VcmailboxError) := by
  have hlog : ∀ fmt args (e : VcmailboxError),
      Emits Quiet (do serialLog fmt args; pure e : Drv σ VcmailboxError) :=
    fun fmt args e => (serialLog_quiet fmt args).bind fun _ => Emits.pure e
  have hwrite : ∀ data chan, Emits Quiet (vcmailboxWriteMessage data chan : Drv σ Unit) := by
    intro data chan
    have hfull : Emits Quiet (mbox1StatusFullFlagSet : Drv σ Bool) :=
      (registerGet_quiet rfl).bind fun _ => Emits.pure _
    apply (whileCondTimeoutInfinite_emits hfull _).bind
    intro _
    exact registerSet_quiet rfl _
  have hread : Emits Quiet (vcmailboxReadMessage : Drv σ Word) := by
    have hempty : Emits Quiet (mbox0StatusEmptyFlagSet : Drv σ Bool) :=
      (registerGet_quiet rfl).bind fun _ => Emits.pure _
    apply (whileCondTimeoutInfinite_emits hempty _).bind
    intro _
    exact (Emits.change _).bind fun _ => registerGet_quiet rfl
  refine (Emits.change _).bind fun sendProp => ?_
  apply (hwrite _ _).bind
  intro _
  apply hread.bind
  intro recvMsg
  apply Emits.ite (hlog _ _ _)
  apply Emits.ite (hlog _ _ _)
  refine (Emits.view _).bind fun code => ?_
  apply Emits.ite (hlog _ _ _)
  apply Emits.ite (hlog _ _ _)
  exact returnTagLoop_quiet _ _ _ _

theorem requestTag_quiet (id : TagId) (arg : Word) (retSz : Nat) :
    Emits Quiet (requestTag id arg retSz : Drv σ (VcmailboxError × (Nat → Word))) := by
  refine (Emits.view _).bind fun frame => ?_
  refine (Emits.change _).bind fun _ => ?_
  apply (vcmailboxRequestTags_quiet _).bind
  intro error
  exact (Emits.view _).bind fun _ => Emits.pure _

theorem sdAssertVcInit_quiet : Emits Quiet (sdAssertVcInit : Drv σ Unit) := by
  have hstate : ∀ clk, Emits Quiet (tagClockGetState clk : Drv σ Word) := fun clk =>
    (requestTag_quiet _ _ _).bind fun _ => Emits.ite (failure_quiet _ _ _) (Emits.pure _)
  have hrate : ∀ clk, Emits Quiet (tagClockGetRate clk : Drv σ Word) := fun clk =>
    (requestTag_quiet _ _ _).bind fun _ => Emits.ite (failure_quiet _ _ _) (Emits.pure _)
  have hgpio : ∀ pin, Emits Quiet (tagGpioGetState pin : Drv σ Word) := fun pin =>
    (requestTag_quiet _ _ _).bind fun _ => Emits.ite (failure_quiet _ _ _) (Emits.pure _)
  have hcfg : ∀ pin, Emits Quiet (tagGpioGetConfig pin : Drv σ GpioExpanderPinConfig) :=
    fun pin =>
      (requestTag_quiet _ _ _).bind fun _ => Emits.ite (failure_quiet _ _ _) (Emits.pure _)
  have hclock : Emits Quiet (sdAssertBaseClock : Drv σ Unit) := by
    apply (hstate _).bind
    intro state
    apply Emits.ite (failure_quiet _ _ _)
    exact (hrate _).bind fun _ => Emits.ite (failure_quiet _ _ _) (Emits.pure _)
  have hvoltage : Emits Quiet (sdAssertVoltage : Drv σ Unit) := by
    apply (hcfg _).bind
    intro cfg
    apply Emits.ite (failure_quiet _ _ _)
    exact (hgpio _).bind fun _ => Emits.ite (failure_quiet _ _ _) (Emits.pure _)
  have hpower : Emits Quiet (sdAssertCardPower : Drv σ Unit) := by
    apply (hcfg _).bind
    intro cfg
    apply Emits.ite (failure_quiet _ _ _)
    exact (hgpio _).bind fun _ => Emits.ite (failure_quiet _ _ _) (Emits.pure _)
  exact hclock.bind fun _ => hvoltage.bind fun _ => hpower

end RpiBld
