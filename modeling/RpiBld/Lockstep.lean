/-
RpiBld/Lockstep.lean

The bootloader on two machines at once.

A function of the driver touches its machine in a handful of ways: it reads and
writes registers, starts and looks at the poll timer, sleeps, logs, stops, and
looks at RAM.  A relation between the programs of two machines that returning and
sequencing keep, and that holds of each of these ways, holds of every function
that is made of them.  That is proved here, function by function, once for all
relations.

* `Lockstep R allowed` -- the register accesses in `allowed`, and what the SD driver
  does without touching RAM;
* `TagLockstep` -- the requests to the VideoCore;
* `RamLockstep` -- the looks at RAM and the changes of it that leave no event, and
  the VideoCore's: what the requests are made of;
* `ReadLockstep` -- the read requests, and the stores of what they deliver;
* `ReadAccess` -- the accesses and the commands that a read of a card takes.

Safety of the emitted events is such a relation (`emitting`), and so is
simulation between two machines.
-/
import RpiBld.Entry
import RpiBld.Sd.Exchange
import RpiBld.Lib.Simulation

namespace RpiBld

open Traced

/-! ### Accesses -/

/-- An access to a register; a value that is read is up to the machine. -/
inductive Access
  | get (r : Reg)
  | set (r : Reg) (v : Word)

/-- The accesses of a wait for a flag. -/
structure Waiting (allowed : Access → Prop) : Prop where
  get : allowed (.get (.sd .interrupt))
  set : ∀ v, allowed (.set (.sd .interrupt) v)

/-- The accesses of a function that issues these commands. -/
structure Issuing (allowed : Access → Prop) (idxs : List CmdIndex) : Prop where
  get : ∀ r, allowed (.get (.sd r))
  arg1 : ∀ v, allowed (.set (.sd .arg1) v)
  interrupt : ∀ v, allowed (.set (.sd .interrupt) v)
  blksizecnt : ∀ v, allowed (.set (.sd .blksizecnt) v)
  cmdtm : ∀ idx ∈ idxs, allowed (.set (.sd .cmdtm) idx.cmdtm)

/-- The accesses of a function that sets up the host. -/
structure SettingUp (allowed : Access → Prop) : Prop where
  get : ∀ r, allowed (.get (.sd r))
  control0 : ∀ v, allowed (.set (.sd .control0) v)
  control1 : ∀ v, allowed (.set (.sd .control1) v)
  irptMask : ∀ v, allowed (.set (.sd .irptMask) v)

/-- The accesses of the mailbox. -/
def Mailing (allowed : Access → Prop) : Prop :=
  ∀ r, allowed (.get (.vcmailbox r)) ∧ ∀ v, allowed (.set (.vcmailbox r) v)

/-- The accesses of `uart_init` besides. -/
structure Wiring (allowed : Access → Prop) : Prop where
  gpio : ∀ r v, allowed (.set (.gpio r) v)
  get : ∀ r, allowed (.get (.uart r))
  set : ∀ r v, allowed (.set (.uart r) v)

theorem Issuing.mono {allowed : Access → Prop} {idxs idxs' : List CmdIndex}
    (h : Issuing allowed idxs) (hsub : idxs' ⊆ idxs) : Issuing allowed idxs' :=
  ⟨h.get, h.arg1, h.interrupt, h.blksizecnt, fun idx hidx => h.cmdtm idx (hsub hidx)⟩

theorem Issuing.waiting {allowed : Access → Prop} {idxs : List CmdIndex}
    (h : Issuing allowed idxs) : Waiting allowed :=
  ⟨h.get _, h.interrupt⟩

theorem issuing_true (idxs : List CmdIndex) : Issuing (fun _ => True) idxs :=
  ⟨fun _ => trivial, fun _ => trivial, fun _ => trivial, fun _ => trivial, fun _ _ => trivial⟩

theorem settingUp_true : SettingUp fun _ => True :=
  ⟨fun _ => trivial, fun _ => trivial, fun _ => trivial, fun _ => trivial⟩

theorem mailing_true : Mailing fun _ => True := fun _ => ⟨trivial, fun _ => trivial⟩

theorem wiring_true : Wiring fun _ => True :=
  ⟨fun _ _ => trivial, fun _ => trivial, fun _ _ => trivial⟩

/-- The accesses of the mailbox and of `uart_init`. -/
def notSd : Access → Prop
  | .get (.sd _) | .set (.sd _) _ => False
  | _ => True

theorem mailing_notSd : Mailing notSd := fun _ => ⟨trivial, fun _ => trivial⟩

theorem wiring_notSd : Wiring notSd :=
  ⟨fun _ _ => trivial, fun _ => trivial, fun _ _ => trivial⟩

/-- The commands of the identification. -/
def identifyIdxs : List CmdIndex :=
  [.goIdleState, .sendIfCond, .appCmd, .sdSendOpCond, .allSendCid, .sendRelativeAddr]

/-- The commands to a card that was selected, before the reads. -/
def configureIdxs : List CmdIndex := [.sendStatus, .appCmd, .sdSendScr, .setBusWidth]

/-- The commands that make a card ready for reads. -/
def transferIdxs : List CmdIndex := .selectCard :: configureIdxs

/-- The commands of reads. -/
def readIdxs : List CmdIndex := [.readSingleBlock, .readMultipleBlock, .setBlockCount]

variable {σ τ : Type} [Device σ] [Device τ]

/-! ### Relations -/

/-- A relation that the accesses of the SD driver keep. -/
structure Lockstep (R : Related Halt Event (World σ) (World τ)) (allowed : Access → Prop) : Prop
    extends Congruence R where
  halt : ∀ {α : Type} (e : Halt), R α (Program.halt e) (Program.halt e)
  log : ∀ fmt args, R Unit (serialLog fmt args) (serialLog fmt args)
  get : ∀ r, allowed (.get r) → R Word (registerGet r) (registerGet r)
  set : ∀ r v, allowed (.set r v) → R Unit (registerSet r v) (registerSet r v)
  timerStart : ∀ ms, R Word (timerPollStart ms) (timerPollStart ms)
  timerDone : ∀ ts, R Bool (timerPollDone ts) (timerPollDone ts)
  usleep : ∀ us, R Unit (usleep us) (usleep us)
  polls : R Nat (Program.view World.polls) (Program.view World.polls)

/-- A relation that the accesses to RAM keep as well. -/
structure RamLockstep (R : Related Halt Event (World σ) (World τ)) (allowed : Access → Prop) : Prop
    extends Lockstep R allowed where
  view : ∀ {α : Type} (f : Ram → α),
    R α (Program.view fun w => f w.ram) (Program.view fun w => f w.ram)
  change : ∀ {α : Type} (f : Ram → α × Ram),
    R α (Program.change fun w => ((f w.ram).1, { w with ram := (f w.ram).2 }))
      (Program.change fun w => ((f w.ram).1, { w with ram := (f w.ram).2 }))
  frame : R Word (Program.view World.frame) (Program.view World.frame)
  videocore : R Unit
    (Program.change fun w =>
      let (ram, d) := Device.videocore w.ram w.dev
      ((), { w with ram := ram, dev := d }))
    (Program.change fun w =>
      let (ram, d) := Device.videocore w.ram w.dev
      ((), { w with ram := ram, dev := d }))

/-- A relation that asking the VideoCore for something keeps as well. -/
structure TagLockstep (R : Related Halt Event (World σ) (World τ)) (allowed : Access → Prop) : Prop
    extends Lockstep R allowed where
  requestTag : ∀ id arg retSz, retSz ≤ 20 →
    R (VcmailboxError × (Nat → Word)) (requestTag id arg retSz) (requestTag id arg retSz)

/-- A relation that reading blocks keeps as well. -/
structure ReadLockstep (R : Related Halt Event (World σ) (World τ)) (allowed : Access → Prop) : Prop
    extends RamLockstep R allowed where
  sdRead : ∀ dest lba n, R Unit (Program.emit (.sdRead dest lba n)) (Program.emit (.sdRead dest lba n))
  store : ∀ a v, R Unit (ramStore32 a v) (ramStore32 a v)

/-- The accesses and the commands of reads from a card. -/
structure ReadAccess (R : Related Halt Event (World σ) (World τ)) (allowed : Access → Prop)
    (card : Card) : Prop where
  waiting : Waiting allowed
  data : allowed (.get (.sd .data))
  blksizecnt : ∀ v, allowed (.set (.sd .blksizecnt) v)
  issue : ∀ idx ∈ readIdxs, (idx = .setBlockCount → card.cmd23Supported = true) →
    ∀ args, R CmdError (sdIssueCmd idx.code args) (sdIssueCmd idx.code args)

namespace Lockstep

variable {R : Related Halt Event (World σ) (World τ)} {allowed : Access → Prop}
variable (h : Lockstep R allowed)

include h

/-- A log line, and a result. -/
theorem logged {α : Type} (fmt : String) (args : List LogArg) (a : α) :
    R α (do serialLog fmt args; Pure.pure a) (do serialLog fmt args; Pure.pure a) :=
  h.bind (h.log fmt args) fun _ => h.pure a

/-- A log line, and an error signal. -/
theorem failure {α : Type} (fmt : String) (args : List LogArg) (e : ErrorCode) :
    R α (do serialLog fmt args; signalError e) (do serialLog fmt args; signalError e) :=
  h.bind (h.log fmt args) fun _ => h.halt _

/-! ### Registers and waiting -/

theorem enableBits {r : Reg} (hget : allowed (.get r)) (hset : ∀ v, allowed (.set r v))
    (mask : Word) : R Unit (registerEnableBits r mask) (registerEnableBits r mask) :=
  h.bind (h.get r hget) fun _ => h.set r _ (hset _)

theorem disableBits {r : Reg} (hget : allowed (.get r)) (hset : ∀ v, allowed (.set r v))
    (mask : Word) : R Unit (registerDisableBits r mask) (registerDisableBits r mask) :=
  h.bind (h.get r hget) fun _ => h.set r _ (hset _)

theorem whileCondTimeoutInfinite {condition : Drv σ Bool} {condition' : Drv τ Bool}
    (hc : R Bool condition condition') (timeoutMs : Int) :
    R Unit (RpiBld.whileCondTimeoutInfinite condition timeoutMs)
      (RpiBld.whileCondTimeoutInfinite condition' timeoutMs) := by
  apply h.bind (h.timerStart _)
  intro ts
  apply h.bind h.polls
  intro polls
  induction polls with
  | zero => exact h.halt _
  | succ n ih =>
    apply h.bind hc
    intro b
    refine Congruence.ite ?_ (h.pure _)
    apply h.bind (h.timerDone ts)
    intro done
    exact Congruence.ite (h.halt _) ih

/-! ### Commands -/

section Commands

variable {idxs : List CmdIndex} (hs : Issuing allowed idxs)

include hs

omit hs in
theorem pollInterrupt (hw : Waiting allowed) (ts : Word) (n : Nat) :
    R Word (RpiBld.pollInterrupt ts n) (RpiBld.pollInterrupt ts n) := by
  induction n with
  | zero => exact h.halt _
  | succ n ih =>
    apply h.bind (h.get _ hw.get)
    intro irpt
    apply Congruence.ite
    · exact h.bind (h.set _ _ (hw.set _)) fun _ => h.pure _
    · apply h.bind (h.usleep _)
      intro _
      exact h.bind (h.timerDone ts) fun _ => Congruence.ite (h.pure _) ih

omit hs in
theorem sdWaitForInterrupt (hw : Waiting allowed) (mask : Word) :
    R CmdError (RpiBld.sdWaitForInterrupt mask) (RpiBld.sdWaitForInterrupt mask) := by
  have hany : R Word sdWaitForAnyInterrupt sdWaitForAnyInterrupt :=
    h.bind (h.timerStart _) fun ts => h.bind h.polls fun polls => h.pollInterrupt hw ts polls
  apply h.bind hany
  intro irpt
  apply Congruence.ite (h.logged _ _ _)
  apply Congruence.ite (h.logged _ _ _)
  exact Congruence.ite (h.logged _ _ _) (h.pure _)

theorem sdIssueCmd {idx : CmdIndex} (hidx : idx ∈ idxs) (args : Word) :
    R CmdError (RpiBld.sdIssueCmd idx.code args) (RpiBld.sdIssueCmd idx.code args) := by
  unfold RpiBld.sdIssueCmd
  rw [getCommand_code]
  apply h.bind (h.get _ (hs.get _))
  intro status
  apply Congruence.ite (h.logged _ _ _)
  apply Congruence.ite (h.logged _ _ _)
  apply h.bind (h.set _ _ (hs.arg1 _))
  intro _
  apply h.bind (h.set _ _ (hs.cmdtm idx hidx))
  intro _
  apply h.bind (h.sdWaitForInterrupt hs.waiting _)
  intro error
  apply Congruence.ite
  · apply h.bind (h.get _ (hs.get _))
    intro cs
    exact Congruence.ite (h.logged _ _ _) (h.pure _)
  · exact Congruence.ite (h.logged _ _ _) (h.pure _)

/-- Where each access of a command is allowed, so are reads. -/
theorem readAccess (hsub : readIdxs ⊆ idxs) (card : Card) : ReadAccess R allowed card where
  waiting := hs.waiting
  data := hs.get _
  blksizecnt := hs.blksizecnt
  issue _ hidx _ args := h.sdIssueCmd hs (hsub hidx) args

theorem sdIssueAcmd {idx : CmdIndex} (happ : .appCmd ∈ idxs) (hidx : idx ∈ idxs) (args : Word)
    (rca : Int) :
    R CmdError (RpiBld.sdIssueAcmd idx.code args rca) (RpiBld.sdIssueAcmd idx.code args rca) := by
  apply h.bind (h.sdIssueCmd hs happ _)
  intro error
  apply Congruence.ite (h.pure _)
  apply h.bind (h.get _ (hs.get _))
  intro cs
  exact Congruence.ite (h.logged _ _ _) (h.sdIssueCmd hs hidx _)

theorem sdIssueCmd13 (hidx : .sendStatus ∈ idxs) (rca : Int) (csOut : Word) :
    R (CmdError × Word) (RpiBld.sdIssueCmd13 rca csOut) (RpiBld.sdIssueCmd13 rca csOut) := by
  apply h.bind (h.sdIssueCmd hs hidx _)
  intro error
  refine Congruence.ite ?_ (h.pure _)
  exact h.bind (h.get _ (hs.get _)) fun _ => h.pure _

end Commands

section Identify

variable (hs : Issuing allowed identifyIdxs)

include hs

theorem sdIssueCmd8 : R CmdError RpiBld.sdIssueCmd8 RpiBld.sdIssueCmd8 := by
  apply h.bind (h.sdIssueCmd hs (by decide) _)
  intro error
  refine Congruence.ite ?_ (h.pure _)
  apply h.bind (h.get _ (hs.get _))
  intro resp
  exact Congruence.ite (h.logged _ _ _) (h.pure _)

omit hs in
theorem sdAcmd41Finish (ocr : Word) (out : Bool) :
    R (CmdError × Bool) (RpiBld.sdAcmd41Finish ocr out) (RpiBld.sdAcmd41Finish ocr out) :=
  Congruence.ite (h.pure _) (h.logged _ _ _)

theorem sdAcmd41Retry (ts : Word) (out : Bool) (i n : Nat) :
    R (CmdError × Bool) (RpiBld.sdAcmd41Retry ts out i n) (RpiBld.sdAcmd41Retry ts out i n) := by
  induction n generalizing i with
  | zero => exact h.halt _
  | succ n ih =>
    have hpause : R Unit (sdAcmd41Pause i) (sdAcmd41Pause i) :=
      Congruence.ite (h.usleep _) (h.pure _)
    apply h.bind hpause
    intro _
    apply h.bind (h.sdIssueAcmd hs (by decide) (by decide) _ _)
    intro error
    apply Congruence.ite (h.pure _)
    apply h.bind (h.get _ (hs.get _))
    intro ocr
    apply Congruence.ite (h.sdAcmd41Finish _ _)
    apply h.bind (h.timerDone ts)
    intro done
    exact Congruence.ite (h.sdAcmd41Finish _ _) (ih _)

theorem sdIssueAcmd41 (out : Bool) :
    R (CmdError × Bool) (RpiBld.sdIssueAcmd41 out) (RpiBld.sdIssueAcmd41 out) := by
  apply h.bind (h.sdIssueAcmd hs (by decide) (by decide) _ _)
  intro error
  apply Congruence.ite (h.pure _)
  apply h.bind (h.get _ (hs.get _))
  intro ocr
  apply Congruence.ite (h.logged _ _ _)
  apply h.bind (h.timerStart _)
  intro ts
  apply h.bind h.polls
  intro polls
  exact h.sdAcmd41Retry hs ts out 0 polls

theorem sdIssueCmd3 (rcaOut : Int) :
    R (CmdError × Int) (RpiBld.sdIssueCmd3 rcaOut) (RpiBld.sdIssueCmd3 rcaOut) := by
  apply h.bind (h.sdIssueCmd hs (by decide) _)
  intro error
  refine Congruence.ite ?_ (h.pure _)
  apply h.bind (h.get _ (hs.get _))
  intro resp
  exact Congruence.ite (h.logged _ _ _) (h.pure _)

theorem sdCardInitAndIdentify (card : Card) :
    R (SdInitError × Card) (RpiBld.sdCardInitAndIdentify card)
      (RpiBld.sdCardInitAndIdentify card) := by
  apply h.bind (h.sdIssueCmd hs (by decide) _)
  intro error
  apply Congruence.ite (h.pure _)
  apply h.bind (h.sdIssueCmd8 hs)
  intro error
  apply Congruence.ite (h.pure _)
  apply Congruence.ite (h.pure _)
  apply h.bind (h.sdIssueAcmd41 hs _)
  rintro ⟨error, ccs⟩
  apply Congruence.ite (h.pure _)
  apply Congruence.ite (h.pure _)
  apply h.bind (h.sdIssueCmd hs (by decide) _)
  intro error
  apply Congruence.ite (h.pure _)
  apply h.bind (h.sdIssueCmd3 hs _)
  rintro ⟨error, rca⟩
  exact Congruence.ite (h.pure _) (h.pure _)

end Identify

/-! ### Setting up the host -/

section Setup

variable (hu : SettingUp allowed)

include hu

theorem sdResetHost : R Unit RpiBld.sdResetHost RpiBld.sdResetHost := by
  apply h.bind (h.enableBits (hu.get _) hu.control1 _)
  intro _
  apply h.whileCondTimeoutInfinite
  exact h.bind (h.get _ (hu.get _)) fun _ => h.pure _

theorem sdSupplyBusPower : R Unit RpiBld.sdSupplyBusPower RpiBld.sdSupplyBusPower :=
  h.enableBits (hu.get _) hu.control0 _

theorem sdSupplyClock (clockRate : Int) :
    R Unit (RpiBld.sdSupplyClock clockRate) (RpiBld.sdSupplyClock clockRate) := by
  have hstable : R Bool sdInternalClockNotStable sdInternalClockNotStable :=
    h.bind (h.get _ (hu.get _)) fun _ => h.pure _
  apply h.bind (h.disableBits (hu.get _) hu.control1 _)
  intro _
  apply h.bind (h.disableBits (hu.get _) hu.control1 _)
  intro _
  apply h.bind (h.enableBits (hu.get _) hu.control1 _)
  intro _
  apply h.bind (h.whileCondTimeoutInfinite hstable _)
  intro _
  exact h.enableBits (hu.get _) hu.control1 _

theorem sdEnableInterrupts (irpt : Word) :
    R Unit (RpiBld.sdEnableInterrupts irpt) (RpiBld.sdEnableInterrupts irpt) :=
  h.enableBits (hu.get _) hu.irptMask _

end Setup

/-! ### The card -/

section Transfer

variable (hs : Issuing allowed configureIdxs)

include hs

theorem sdIssueAcmd51 (rca : Int) :
    R (CmdError × Word) (RpiBld.sdIssueAcmd51 rca) (RpiBld.sdIssueAcmd51 rca) := by
  apply h.bind (h.set _ _ (hs.blksizecnt _))
  intro _
  apply h.bind (h.sdIssueAcmd hs (by decide) (by decide) _ _)
  intro error
  apply Congruence.ite (h.pure _)
  apply h.bind (h.sdWaitForInterrupt hs.waiting _)
  intro error
  apply Congruence.ite (h.pure _)
  apply h.bind (h.get _ (hs.get _))
  intro data
  apply h.bind (h.get _ (hs.get _))
  intro _
  exact h.bind (h.sdWaitForInterrupt hs.waiting _) fun _ => h.pure _

theorem sdIssueAcmd6 (rca : Int) (fourBit : Bool) :
    R CmdError (RpiBld.sdIssueAcmd6 rca fourBit) (RpiBld.sdIssueAcmd6 rca fourBit) :=
  h.sdIssueAcmd hs (by decide) (by decide) _ _

variable (hu : SettingUp allowed)

include hu

theorem sdSet4bitDataBusWidth (rca : Int) :
    R SdInitError (RpiBld.sdSet4bitDataBusWidth rca) (RpiBld.sdSet4bitDataBusWidth rca) := by
  apply h.bind (h.get _ (hs.get _))
  intro prevIrptMask
  apply h.bind (h.disableBits (hu.get _) hu.irptMask _)
  intro _
  apply h.bind (h.sdIssueAcmd6 hs _ _)
  intro error
  have hwiden : R Unit (sdWidenHost error) (sdWidenHost error) :=
    Congruence.ite (h.enableBits (hu.get _) hu.control0 _) (h.pure _)
  apply h.bind hwiden
  intro _
  exact h.bind (h.set _ _ (hu.irptMask _)) fun _ => h.pure _

omit hs in
theorem sdInitCardTransfer (hs : Issuing allowed transferIdxs) (card : Card) :
    R (SdInitError × Card) (RpiBld.sdInitCardTransfer card) (RpiBld.sdInitCardTransfer card) := by
  have hconfigure := hs.mono (List.subset_cons_self .selectCard configureIdxs)
  apply h.bind (h.sdSupplyClock hu _)
  intro _
  apply h.bind (h.sdIssueCmd hs (by decide) _)
  intro error
  apply Congruence.ite (h.pure _)
  apply h.bind (h.sdIssueCmd13 hs (by decide) _ _)
  rintro ⟨error, cs⟩
  apply Congruence.ite (h.pure _)
  apply Congruence.ite (h.logged _ _ _)
  apply h.bind (h.sdEnableInterrupts hu _)
  intro _
  apply h.bind (h.sdIssueAcmd51 hconfigure _)
  rintro ⟨error, scr⟩
  apply Congruence.ite (h.pure _)
  refine Congruence.ite ?_ (h.logged _ _ _)
  apply h.bind (h.sdSet4bitDataBusWidth hconfigure hu _)
  intro error
  exact Congruence.ite (h.pure _) (h.logged _ _ _)

end Transfer

theorem sdResetCard (hs : Issuing allowed [.goIdleState]) (hu : SettingUp allowed) (card : Card) :
    R (Bool × Card) (RpiBld.sdResetCard card) (RpiBld.sdResetCard card) := by
  apply h.bind (h.sdIssueCmd hs (by decide) _)
  intro error
  apply Congruence.ite (h.pure _)
  exact h.bind (h.sdResetHost hu) fun _ => h.pure _

theorem resetPeripherals (hs : Issuing allowed [.goIdleState]) (hu : SettingUp allowed)
    (card : Card) :
    R Unit (RpiBld.resetPeripherals card) (RpiBld.resetPeripherals card) := by
  apply h.bind (h.sdResetCard hs hu _)
  rintro ⟨ok, card⟩
  exact Congruence.ite (h.failure _ _ _) (h.pure _)

end Lockstep

namespace RamLockstep

variable {R : Related Halt Event (World σ) (World τ)} {allowed : Access → Prop}
variable (h : RamLockstep R allowed)

include h

theorem load32 (a : Word) : R Word (ramLoad32 a) (ramLoad32 a) :=
  h.view fun ram => Traced.load32 ram a

theorem loadTagId (tag : Word) : R Word (RpiBld.loadTagId tag) (RpiBld.loadTagId tag) :=
  Congruence.ite (h.load32 _) (h.halt _)

theorem ramCopy (src dest : Word) (n : Int) :
    R Unit (RpiBld.ramCopy src dest n) (RpiBld.ramCopy src dest n) :=
  h.change fun ram => ((), mcopy ram src dest n.toNat)

/-! ### The mailbox -/

theorem returnTagLoop (n : Int) (tag : Word) (reqs : List TagRequest) (i : Int) :
    R VcmailboxError (RpiBld.returnTagLoop n tag reqs i) (RpiBld.returnTagLoop n tag reqs i) := by
  have hend : R VcmailboxError (returnTagEnd n i) (returnTagEnd n i) :=
    Congruence.ite (h.logged _ _ _) (h.pure _)
  induction reqs generalizing tag i with
  | nil =>
    apply h.bind (h.loadTagId _)
    intro id
    exact Congruence.ite hend (h.halt _)
  | cons req reqs ih =>
    have hvalue : R Unit (returnTagValue tag req) (returnTagValue tag req) :=
      Congruence.ite (h.ramCopy _ _ _) (h.pure _)
    apply h.bind (h.loadTagId _)
    intro id
    apply Congruence.ite hend
    apply Congruence.ite (h.logged _ _ _)
    apply h.bind (h.load32 _)
    intro code
    apply Congruence.ite (h.logged _ _ _)
    apply Congruence.ite (h.logged _ _ _)
    apply h.bind hvalue
    intro _
    apply h.bind (h.load32 _)
    intro valueBufsz
    exact ih _ _ (Congruence.ite (h.logged _ _ _) (h.pure _))

variable (hvc : Mailing allowed)

include hvc

theorem vcmailboxRequestTags (reqs : List TagRequest) :
    R VcmailboxError (RpiBld.vcmailboxRequestTags reqs) (RpiBld.vcmailboxRequestTags reqs) := by
  have hfull : R Bool mbox1StatusFullFlagSet mbox1StatusFullFlagSet :=
    h.bind (h.get _ (hvc _).1) fun _ => h.pure _
  have hempty : R Bool mbox0StatusEmptyFlagSet mbox0StatusEmptyFlagSet :=
    h.bind (h.get _ (hvc _).1) fun _ => h.pure _
  have hwrite : ∀ data chan, R Unit (vcmailboxWriteMessage data chan)
      (vcmailboxWriteMessage data chan) := fun data chan =>
    h.bind (h.whileCondTimeoutInfinite hfull _) fun _ => h.set _ _ ((hvc _).2 _)
  have hread : R Word vcmailboxReadMessage vcmailboxReadMessage :=
    h.bind (h.whileCondTimeoutInfinite hempty _) fun _ =>
      h.bind h.videocore fun _ => h.get _ (hvc _).1
  apply h.bind (h.change fun ram =>
    ((buildPropertyBuffer ram reqs).2, (buildPropertyBuffer ram reqs).1))
  intro sendProp
  apply h.bind (hwrite _ _)
  intro _
  apply h.bind hread
  intro recvMsg
  apply Congruence.ite (h.logged _ _ _)
  apply Congruence.ite (h.logged _ _ _)
  apply h.bind (h.load32 _)
  intro code
  apply Congruence.ite (h.logged _ _ _)
  apply Congruence.ite (h.logged _ _ _)
  exact h.returnTagLoop _ _ _ _

/-! ### Tags -/

theorem tags : TagLockstep R allowed where
  toLockstep := h.toLockstep
  requestTag id arg retSz _ := by
    apply h.bind h.frame
    intro frame
    apply h.bind (h.change fun ram => ((), store32 ram frame arg))
    intro _
    apply h.bind (h.vcmailboxRequestTags hvc _)
    intro error
    apply h.bind (h.view fun ram i => Traced.load32 ram (frame + 4 + BitVec.ofNat 32 (4 * i)))
    intro words
    exact h.pure _

end RamLockstep

namespace TagLockstep

variable {R : Related Halt Event (World σ) (World τ)} {allowed : Access → Prop}
variable (h : TagLockstep R allowed)

include h

theorem tagClockGetState (clkId : Word) :
    R Word (RpiBld.tagClockGetState clkId) (RpiBld.tagClockGetState clkId) :=
  h.bind (h.requestTag _ _ _ (by decide)) fun _ => Congruence.ite (h.failure _ _ _) (h.pure _)

theorem tagClockGetRate (clkId : Word) :
    R Word (RpiBld.tagClockGetRate clkId) (RpiBld.tagClockGetRate clkId) :=
  h.bind (h.requestTag _ _ _ (by decide)) fun _ => Congruence.ite (h.failure _ _ _) (h.pure _)

theorem tagGpioGetState (pin : Word) :
    R Word (RpiBld.tagGpioGetState pin) (RpiBld.tagGpioGetState pin) :=
  h.bind (h.requestTag _ _ _ (by decide)) fun _ => Congruence.ite (h.failure _ _ _) (h.pure _)

theorem tagGpioGetConfig (pin : Word) :
    R GpioExpanderPinConfig (RpiBld.tagGpioGetConfig pin) (RpiBld.tagGpioGetConfig pin) :=
  h.bind (h.requestTag _ _ _ (by decide)) fun _ => Congruence.ite (h.failure _ _ _) (h.pure _)

theorem sdAssertVcInit : R Unit RpiBld.sdAssertVcInit RpiBld.sdAssertVcInit := by
  have hclock : R Unit sdAssertBaseClock sdAssertBaseClock := by
    apply h.bind (h.tagClockGetState _)
    intro state
    apply Congruence.ite (h.failure _ _ _)
    apply h.bind (h.tagClockGetRate _)
    intro rate
    exact Congruence.ite (h.failure _ _ _) (h.pure _)
  have hvoltage : R Unit sdAssertVoltage sdAssertVoltage := by
    apply h.bind (h.tagGpioGetConfig _)
    intro cfg
    apply Congruence.ite (h.failure _ _ _)
    apply h.bind (h.tagGpioGetState _)
    intro state
    exact Congruence.ite (h.failure _ _ _) (h.pure _)
  have hpower : R Unit sdAssertCardPower sdAssertCardPower := by
    apply h.bind (h.tagGpioGetConfig _)
    intro cfg
    apply Congruence.ite (h.failure _ _ _)
    apply h.bind (h.tagGpioGetState _)
    intro state
    exact Congruence.ite (h.failure _ _ _) (h.pure _)
  exact h.bind hclock fun _ => h.bind hvoltage fun _ => hpower

/-! ### From the entry point to the kernel -/

section Entry

variable (hid : Issuing allowed identifyIdxs) (htr : Issuing allowed transferIdxs)
variable (hu : SettingUp allowed) (hw : Wiring allowed)

include hw in
theorem uartInit : R Unit RpiBld.uartInit RpiBld.uartInit := by
  apply h.bind (h.set _ _ (hw.gpio _ _))
  intro _
  apply h.bind (h.set _ _ (hw.set _ _))
  intro _
  apply h.bind (h.disableBits (hw.get _) (hw.set _) _)
  intro _
  apply h.bind (h.bind (h.tagClockGetRate _) fun _ => h.set _ _ (hw.set _ _))
  intro _
  exact h.set _ _ (hw.set _ _)

include hu hid htr

theorem sdInitCard : R (SdInitError × Card) RpiBld.sdInitCard RpiBld.sdInitCard := by
  have hpre : R Unit sdPreCmdInit sdPreCmdInit := by
    apply h.bind h.sdAssertVcInit
    intro _
    apply h.bind (h.sdResetHost hu)
    intro _
    apply h.bind (h.sdSupplyBusPower hu)
    intro _
    exact h.bind (h.sdSupplyClock hu _) fun _ => h.sdEnableInterrupts hu _
  apply h.bind (h.log _ _)
  intro _
  apply h.bind hpre
  intro _
  apply h.bind (h.sdCardInitAndIdentify hid _)
  rintro ⟨error, card⟩
  exact Congruence.ite (h.pure _) (h.sdInitCardTransfer hu htr _)

include hw

theorem initPeripherals : R Card RpiBld.initPeripherals RpiBld.initPeripherals := by
  apply h.bind (h.uartInit hw)
  intro _
  apply h.bind (h.log _ _)
  intro _
  apply h.bind (h.sdInitCard hid htr hu)
  rintro ⟨error, card⟩
  exact Congruence.ite (h.failure _ _ _) (h.pure _)

end Entry

end TagLockstep

namespace ReadLockstep

variable {R : Related Halt Event (World σ) (World τ)} {allowed : Access → Prop}
variable (h : ReadLockstep R allowed)

include h

/-! ### Reading blocks -/

theorem copyBlock (hdata : allowed (.get (.sd .data))) (dest : Word) (n : Nat) :
    R Word (RpiBld.copyBlock dest n) (RpiBld.copyBlock dest n) := by
  induction n generalizing dest with
  | zero => exact h.pure _
  | succ n ih =>
    apply h.bind (h.get _ hdata)
    intro v
    exact h.bind (h.store _ _) fun _ => ih _

variable {card : Card} (hs : ReadAccess R allowed card)

include hs

theorem readBlocksLoop (dest : Word) (n : Nat) :
    R CmdError (RpiBld.readBlocksLoop dest n) (RpiBld.readBlocksLoop dest n) := by
  induction n generalizing dest with
  | zero => exact h.sdWaitForInterrupt hs.waiting _
  | succ n ih =>
    apply h.bind (h.sdWaitForInterrupt hs.waiting _)
    intro error
    apply Congruence.ite (h.pure _)
    exact h.bind (h.copyBlock hs.data _ _) fun _ => ih _

theorem sdIssueReadCmd {idx : CmdIndex} (hidx : idx ∈ readIdxs) (hne : idx ≠ .setBlockCount)
    (dest src : Word) (n : Nat) :
    R CmdError (RpiBld.sdIssueReadCmd idx.code dest src n)
      (RpiBld.sdIssueReadCmd idx.code dest src n) := by
  apply h.bind (h.set _ _ (hs.blksizecnt _))
  intro _
  apply h.bind (hs.issue idx hidx (fun heq => absurd heq hne) _)
  intro error
  exact Congruence.ite (h.pure _) (h.readBlocksLoop hs _ _)

theorem readSingleBlocks (dest src : Word) (n : Nat) :
    R (CmdError × Word × Word × Nat) (RpiBld.readSingleBlocks card dest src n)
      (RpiBld.readSingleBlocks card dest src n) := by
  induction n generalizing dest src with
  | zero => exact h.pure _
  | succ n ih =>
    apply h.bind (h.sdIssueReadCmd hs (by decide) (by decide) _ _ _)
    intro error
    exact Congruence.ite (h.pure _) (ih _ _)

theorem transferBlocks (dest src : Word) (n : Nat) :
    R (CmdError × Word × Word × Nat) (RpiBld.transferBlocks card dest src n)
      (RpiBld.transferBlocks card dest src n) := by
  apply Congruence.ite
  · exact h.bind (h.sdIssueReadCmd hs (by decide) (by decide) _ _ _) fun _ => h.pure _
  · refine Congruence.ite ?_ (h.pure _)
    by_cases hcmd23 : card.cmd23Supported = true
    · rw [if_pos hcmd23, if_pos hcmd23]
      apply h.bind (hs.issue .setBlockCount (by decide) (fun _ => hcmd23) _)
      intro error
      refine Congruence.ite ?_ (h.pure _)
      exact h.bind (h.sdIssueReadCmd hs (by decide) (by decide) _ _ _) fun _ => h.pure _
    · rw [if_neg hcmd23, if_neg hcmd23]
      exact h.readSingleBlocks hs _ _ _

theorem sdReadBlocksCardPass (dest lba : Word) (n : Nat) :
    R Bool (RpiBld.sdReadBlocksCardPass dest lba n card)
      (RpiBld.sdReadBlocksCardPass dest lba n card) := by
  apply Congruence.ite (h.logged _ _ _)
  apply h.bind (h.transferBlocks hs _ _ _)
  rintro ⟨error, d, s, k⟩
  exact Congruence.ite (h.logged _ _ _) (h.pure _)

theorem sdReadBlocksCard (dest lba : Word) (n : Int) :
    R Bool (RpiBld.sdReadBlocksCard dest lba n card) (RpiBld.sdReadBlocksCard dest lba n card) := by
  have hmain : ∀ k : Nat, ∀ dest lba, ∀ n : Int, n.toNat ≤ k →
      R Bool (RpiBld.sdReadBlocksCard dest lba n card)
        (RpiBld.sdReadBlocksCard dest lba n card) := by
    intro k
    induction k with
    | zero =>
      intro dest lba n hn
      unfold RpiBld.sdReadBlocksCard
      rw [dif_neg (by omega), dif_neg (by omega)]
      exact h.pure _
    | succ k ih =>
      intro dest lba n hn
      unfold RpiBld.sdReadBlocksCard
      by_cases hpos : 0 < n
      · rw [dif_pos hpos, dif_pos hpos]
        apply h.bind (h.sdReadBlocksCardPass hs _ _ _)
        intro ok
        refine Congruence.ite (h.pure _) (ih _ _ _ ?_)
        simp only [uint16Max]
        omega
      · rw [dif_neg hpos, dif_neg hpos]
        exact h.pure _
  exact hmain n.toNat dest lba n (Nat.le_refl _)

theorem sdReadBlocks (dest lba : Word) (n : Int) :
    R Bool (RpiBld.sdReadBlocks card dest lba n) (RpiBld.sdReadBlocks card dest lba n) :=
  h.bind (h.sdRead _ _ _) fun _ => h.sdReadBlocksCard hs _ _ _

/-! ### The loader -/

theorem loadMbr (p : Int) : R Word (RpiBld.loadMbr card p) (RpiBld.loadMbr card p) := by
  apply h.bind (h.log _ _)
  intro _
  apply h.bind (h.sdReadBlocks hs _ _ _)
  intro ok
  apply Congruence.ite (h.halt _)
  apply h.bind (h.view fun ram => mbrMagic ram heapGetBaseAddress)
  intro magic
  apply Congruence.ite (h.failure _ _ _)
  apply Congruence.ite (h.failure _ _ _)
  exact h.logged _ _ _

theorem loadImageHead (p : Int) (mbr : Word) :
    R Word (RpiBld.loadImageHead card p mbr) (RpiBld.loadImageHead card p mbr) := by
  apply h.bind (h.view fun ram => mbrGetPartitionLba ram mbr p)
  intro lba
  apply h.bind (h.view fun ram => mbrGetPartitionNblks ram mbr p)
  intro nblks
  apply h.bind (h.log _ _)
  intro _
  apply h.bind (h.sdReadBlocks hs _ _ _)
  intro ok
  apply Congruence.ite (h.halt _)
  apply h.bind (h.load32 _)
  intro magic
  apply h.bind (h.load32 _)
  intro imgsz
  apply Congruence.ite (h.failure _ _ _)
  apply Congruence.ite (h.failure _ _ _)
  exact h.logged _ _ _

theorem loadItem (id : ItemId) (dest lba : Word) :
    R Unit (RpiBld.loadItem card id dest lba) (RpiBld.loadItem card id dest lba) := by
  have hrest : R Unit (loadItemRest card dest lba) (loadItemRest card dest lba) := by
    apply h.bind (h.load32 _)
    intro datasz
    refine Congruence.ite ?_ (h.pure _)
    exact h.bind (h.sdReadBlocks hs _ _ _) fun _ => Congruence.ite (h.halt _) (h.pure _)
  apply h.bind (h.log _ _)
  intro _
  apply h.bind (h.sdReadBlocks hs _ _ _)
  intro ok
  apply Congruence.ite (h.halt _)
  apply h.bind (h.load32 _)
  intro itemId
  apply Congruence.ite (h.failure _ _ _)
  apply h.bind hrest
  intro _
  exact h.bind (h.load32 _) fun _ => h.log _ _

omit hs in
theorem validateKernel : R Unit RpiBld.validateKernel RpiBld.validateKernel := by
  apply h.bind (h.load32 _)
  intro datasz
  apply Congruence.ite (h.failure _ _ _)
  apply h.bind (h.load32 _)
  intro magic
  exact Congruence.ite (h.failure _ _ _) (h.log _ _)

omit hs in
theorem validateDeviceTreeBlob :
    R Unit RpiBld.validateDeviceTreeBlob RpiBld.validateDeviceTreeBlob := by
  apply h.bind (h.load32 _)
  intro magic
  exact Congruence.ite (h.failure _ _ _) (h.log _ _)

omit hs in
theorem itemNblks (a : Word) : R Word (RpiBld.itemNblks a) (RpiBld.itemNblks a) :=
  h.bind (h.load32 _) fun _ => h.pure _

theorem loadImageItems (lba : Word) :
    R Unit (RpiBld.loadImageItems card lba) (RpiBld.loadImageItems card lba) := by
  apply h.bind (h.loadItem hs _ _ _)
  intro _
  apply h.bind h.validateKernel
  intro _
  apply h.bind (h.itemNblks _)
  intro n
  apply h.bind (h.loadItem hs _ _ _)
  intro _
  apply h.bind h.validateDeviceTreeBlob
  intro _
  apply h.bind (h.itemNblks _)
  intro n
  exact h.loadItem hs _ _ _

theorem loadImage (p : Int) :
    R Unit (RpiBld.loadImage card p) (RpiBld.loadImage card p) := by
  apply h.bind (h.loadMbr hs _)
  intro mbr
  apply h.bind (h.loadImageHead hs _ _)
  intro lba
  exact h.loadImageItems hs _

end ReadLockstep

/-! ### Safety of the events -/

/-- What the accesses to the allowed registers may emit. -/
structure Permits (P : Event → Prop) (allowed : Access → Prop) : Prop where
  get : ∀ r v, allowed (.get r) → P (.get r v)
  set : ∀ r v, allowed (.set r v) → P (.set r v)
  log : ∀ fmt args, P (.log fmt args)

/-- The accesses that emit only what satisfies `P`. -/
def accesses (P : Event → Prop) : Access → Prop
  | .get r => ∀ v, P (.get r v)
  | .set r v => P (.set r v)

theorem permits_accesses {P : Event → Prop} (h : ∀ fmt args, P (.log fmt args)) :
    Permits P (accesses P) :=
  ⟨fun _ v hr => hr v, fun _ _ hr => hr, h⟩

/-- Every event of the first program satisfies `P`. -/
abbrev emitting (P : Event → Prop) : Related Halt Event (World σ) (World σ) :=
  fun _ m _ => Program.Emits P m

theorem Permits.lockstep {P : Event → Prop} {allowed : Access → Prop} (h : Permits P allowed) :
    Lockstep (emitting (σ := σ) P) allowed where
  toCongruence := congruence_emits P
  halt e := Program.Emits.halt e
  log fmt args := Program.Emits.emit (h.log fmt args)
  get r hr := by
    intro w e he
    rw [List.mem_singleton.mp he]
    exact h.get r _ hr
  set r v hr := by
    intro w e he
    rw [List.mem_singleton.mp he]
    exact h.set r v hr
  timerStart ms := Program.Emits.change _
  timerDone ts := Program.Emits.change _
  usleep us := Program.Emits.change _
  polls := Program.Emits.view _

theorem Permits.ramLockstep {P : Event → Prop} {allowed : Access → Prop} (h : Permits P allowed) :
    RamLockstep (emitting (σ := σ) P) allowed where
  toLockstep := h.lockstep
  view _ := Program.Emits.view _
  change _ := Program.Emits.change _
  frame := Program.Emits.view _
  videocore := Program.Emits.change _

theorem Permits.readLockstep {P : Event → Prop} {allowed : Access → Prop} (h : Permits P allowed)
    (hread : ∀ dest lba n, P (.sdRead dest lba n)) (hstore : ∀ a v, P (.store a v)) :
    ReadLockstep (emitting (σ := σ) P) allowed where
  toRamLockstep := h.ramLockstep
  sdRead _ _ _ := Program.Emits.emit (hread _ _ _)
  store a v := by
    intro w e he
    rw [List.mem_singleton.mp he]
    exact hstore a v

end RpiBld
