/-
RpiBld/Board/Commands.lean

The commands of the driver on the board.

One lemma says what it takes for a command to be carried out
(`Stands.issue_leads`), and one for each of the functions of `sd/cmd.c` says to which
state it takes the card.
-/
import RpiBld.Board.Running

namespace RpiBld

open Traced Controller

variable {B : Bench}

/-! ### Issuing commands -/

/-- What the driver has to have set up for a command, and what comes of it. -/
structure Serves (B : Bench) (host : HostPort) (card : CardRegs) (idx : CmdIndex) (args : Word)
    (resp : Word) (card' : CardRegs) : Prop where
  format : (Format.of card.app idx.field).fits idx.cmdtm = true
  reaches : host.reaches B.baseClock card.clockLimit = true
  lines : (Format.of card.app idx.field).data = true → host.wide = card.wide
  reply : B.card.reply card idx.field args = some (resp, card')
  unmasked : interruptCmdComplete &&& host.irptMask = interruptCmdComplete
  status : sdCmdHasCardStatusResponse idx.command = true → sdCardStatusErrorBitSet resp = false

/-- The controller right before the command is written. -/
def Board.ready (b : Board B) (args : Word) : Board B :=
  b.withCtl { b.ctl.into (b.ctl.now + 3) 0 .idle with arg1 := args }

/-- The board once the card has taken a command. -/
def Board.given (b : Board B) (idx : CmdIndex) (args resp : Word) (card : CardRegs) : Board B :=
  { (b.ready args).withCtl ((b.ready args).carryOut idx.cmdtm) with
    card := card
    resp0 := resp
    register := b.card.app ∧ idx.field = 51#6 }

section Issue

variable {host : HostPort} {card card' : CardRegs} {w : World (Board B)}
variable {idx : CmdIndex} {args resp : Word}

namespace Stands

/-- Writing the command. -/
theorem set_cmdtm (h : Stands host card w) (hs : Serves B host card idx args resp card') :
    Device.set (.sd .cmdtm) idx.cmdtm (Device.set (.sd .arg1) args w.dev.tick) =
      w.dev.given idx args resp card' := by
  have harg : Device.set (.sd .arg1) args w.dev.tick =
      w.dev.withCtl { w.dev.ctl.into (w.dev.ctl.now + 2) 0 .idle with arg1 := args } := by
    show w.dev.tick.tick.withCtl { w.dev.tick.tick.ctl with arg1 := args } = _
    have htick := h.tick.tick_eq
    rw [World.dev_on] at htick
    rw [htick, h.tick_eq]
    rfl
  have hready : (w.dev.withCtl
      { w.dev.ctl.into (w.dev.ctl.now + 2) 0 .idle with arg1 := args }).tick =
      w.dev.ready args := by
    rw [(h.dev_settled.withCtl _).tick, Board.ctl_withCtl, tick_quiet rfl]
    rfl
  rw [harg]
  show Board.accept _ idx.cmdtm = _
  rw [hready, Board.accept]
  have hcond : (Format.of (w.dev.ready args).card.app idx.field).fits idx.cmdtm ∧
      (w.dev.ready args).host.reaches B.baseClock (w.dev.ready args).card.clockLimit ∧
      (w.dev.ready args).linesAgree (Format.of (w.dev.ready args).card.app idx.field) := by
    rw [show (w.dev.ready args).card = card from h.card, Board.linesAgree,
      show (w.dev.ready args).host = host from h.host,
      show (w.dev.ready args).card = card from h.card]
    exact ⟨hs.format, hs.reaches, decide_eq_true hs.lines⟩
  have hreply : B.card.reply (w.dev.ready args).card idx.field (w.dev.ready args).ctl.arg1 =
      some (resp, card') := by
    rw [show (w.dev.ready args).card = card from h.card]
    exact hs.reply
  dsimp only
  rw [show BitVec.extractLsb' 24 6 idx.cmdtm = idx.field from rfl, if_pos hcond, hreply]
  rfl

/-- A command is written and carried out, and its response has no error bits. -/
theorem issue_leads {P : World (Board B) → Prop} (h : Stands host card w)
    (hs : Serves B host card idx args resp card')
    (hwait : Leads (sdWaitForInterrupt interruptCmdComplete)
      (fun e w' => e = .none ∧ w'.dev.tick.resp0 = resp ∧ P w' ∧ P (w'.on w'.dev.tick))
      (w.on (w.dev.given idx args resp card'))) :
    Leads (sdIssueCmd idx.code args) (fun e w' => e = .none ∧ P w') w := by
  unfold sdIssueCmd
  rw [getCommand_code]
  have hstatus : Device.get (.sd .status) w.dev = (0, w.dev.tick) := by
    show (w.dev.tick.ctl.status, w.dev.tick) = _
    rw [h.tick_eq]
    rfl
  have hcmd : (0 : Word) &&& statusCommandInhibitCmd = 0 := BitVec.zero_and
  have hdat : (0 : Word) &&& statusCommandInhibitDat = 0 := BitVec.zero_and
  apply Leads.get_bind
  rw [hstatus, if_neg (not_not.mpr hcmd), if_neg fun hne => hne.2 hdat]
  apply Leads.set_bind
  apply Leads.set_bind
  have hset := h.set_cmdtm hs
  rw [World.dev_on, World.dev_on, World.on_on, World.on_on]
  rw [show (setCmdtm idx.command).toWord = idx.cmdtm from rfl, hset]
  apply hwait.bind
  rintro _ w' ⟨rfl, hresp, hP, hP'⟩
  by_cases hr1 : sdCmdHasCardStatusResponse idx.command = true
  · rw [if_pos ⟨rfl, hr1⟩]
    apply Leads.get_bind
    show Leads (if sdCardStatusErrorBitSet w'.dev.tick.resp0 = true then _ else _) _
      (w'.on w'.dev.tick)
    rw [hresp, hs.status hr1, if_neg Bool.false_ne_true]
    exact Leads.pure ⟨rfl, hP'⟩
  · rw [if_neg fun hne => hr1 hne.2, if_neg (not_not.mpr rfl)]
    exact Leads.pure ⟨rfl, hP⟩

/-- A command without data takes the card from one state to another. -/
theorem plain_leads (h : Stands host card w) (hs : Serves B host card idx args resp card')
    (hplain : idx ∉ [.readSingleBlock, .readMultipleBlock, .sdSendScr]) :
    Leads (sdIssueCmd idx.code args)
      (fun e w' => e = .none ∧ Stands host card' w' ∧ w'.dev.resp0 = resp ∧
        w'.dev.ctl.blksizecnt = w.dev.ctl.blksizecnt) w := by
  have hne : idx.field ≠ 51#6 ∧ idx.field ≠ 17#6 ∧ idx.field ≠ 18#6 := by
    revert hplain
    cases idx <;> decide
  have h17 : ¬ idx.field = 17 := hne.2.1
  have h18 : ¬ idx.field = 18 := hne.2.2
  have hphase : (w.dev.given idx args resp card').ctl.phase = .sent [] := by
    show Controller.phase (Board.carryOut _ _) = _
    rw [Board.carryOut, if_neg fun h51 => hne.1 h51.2]
    show Phase.sent (blocksAsked _ idx.field) = _
    rw [blocksAsked, if_neg h17, if_neg h18]
    split_ifs <;> rfl
  have hirpt : (w.dev.given idx args resp card').ctl.irpt = 0 := by
    show Controller.irpt (Board.carryOut _ _) = _
    rw [Board.carryOut, if_neg fun h51 => hne.1 h51.2]
    rfl
  have hreg : (w.dev.given idx args resp card').register = false :=
    decide_eq_false fun h51 => hne.1 h51.2
  have hsettled : (w.dev.given idx args resp card').Settled :=
    ⟨h.dev_settled.host, h.dev_settled.mail⟩
  apply h.issue_leads hs
  have hcoming : Coming interruptCmdComplete .idle (w.dev.given idx args resp card').ctl :=
    .inl ⟨hirpt, by rw [hphase]; rfl⟩
  have hmask : interruptCmdComplete &&& (w.dev.given idx args resp card').host.irptMask =
      interruptCmdComplete := by
    rw [show (w.dev.given idx args resp card').host = host from h.host]
    exact hs.unmasked
  have hwait := sdWaitForInterrupt_quiet (w := w.on (w.dev.given idx args resp card'))
    (h.fit.on _) hsettled hcoming hmask flagOk_cmdComplete rfl
  apply hwait.mono
  rintro _ _ ⟨rfl, k, rfl⟩
  generalize hw' : (w.on (w.dev.given idx args resp card')).on
    ((w.on (w.dev.given idx args resp card')).dev.withCtl
      ((w.on (w.dev.given idx args resp card')).dev.ctl.after k interruptCmdComplete 0 .idle)) = w'
  have hstands : Stands host card' w' := by
    rw [← hw']
    exact ⟨h.fit.on _, ⟨rfl, rfl⟩, h.settled, h.host, rfl, hreg, h.mail⟩
  have hresp : w'.dev.resp0 = resp := by
    rw [← hw']
    rfl
  have hsize : w'.dev.ctl.blksizecnt = w.dev.ctl.blksizecnt := by
    rw [← hw']
    show Controller.blksizecnt (Board.carryOut _ _) = _
    rw [Board.carryOut, if_neg fun h51 => hne.1 h51.2]
    rfl
  refine ⟨rfl, (Board.resp0_tick _).trans hresp, ⟨hstands, hresp, hsize⟩, hstands.tick,
    (Board.resp0_tick _).trans hresp, hstands.blksizecnt_tick.trans hsize⟩

end Stands

/-! ### Application commands -/

theorem CardRegs.status_ok (c : CardRegs) (app : Bool) :
    sdCardStatusErrorBitSet (c.status app) = false := by
  show sdCardStatusErrorBitSet (c.state.code <<< 9 ||| bit 8 ||| if app then bit 5 else 0) = false
  cases c.state <;> cases app <;> decide

theorem CardRegs.appCmd_status (c : CardRegs) : CardStatus.appCmd (c.status true) = true := by
  show (c.state.code <<< 9 ||| bit 8 ||| bit 5).getLsbD 5 = true
  cases c.state <;> decide

theorem CardRegs.currentState_status (c : CardRegs) (h : c.state = .transfer) (app : Bool) :
    CardStatus.currentState (c.status app) = cardStateTransfer := by
  show (c.state.code <<< 9 ||| bit 8 ||| if app then bit 5 else 0).extractLsb' 9 4 = 4#4
  rw [h]
  cases app <;> decide

namespace Stands

/-- A CMD55, and a command that follows it. -/
theorem acmd_leads {Q : CmdError → World (Board B) → Prop} {rca : Int} (h : Stands host card w)
    (h55 : Serves B host card .appCmd (acRcaArgs rca) (card.status true) { card with app := true })
    (hcmd : ∀ w', Stands host { card with app := true } w' →
      w'.dev.ctl.blksizecnt = w.dev.ctl.blksizecnt → Leads (sdIssueCmd idx.code args) Q w') :
    Leads (sdIssueAcmd idx.code args rca) Q w := by
  apply (h.plain_leads h55 (by decide)).bind
  rintro _ w' ⟨rfl, h', hresp, hsize⟩
  rw [if_neg (not_not.mpr rfl)]
  apply Leads.resp0_bind
  rw [hresp, CardRegs.appCmd_status, if_neg (not_not.mpr rfl)]
  exact hcmd _ h'.tick (h'.blksizecnt_tick.trans hsize)

end Stands

end Issue

/-! ### The hosts of the initialisation -/

namespace HostPort

/-- 3.3 V, and a clock for the identification. -/
def identifying : HostPort := ⟨0xf00, 0x8007, cmdInterrupts⟩

/-- 3.3 V, and a clock of 25 MHz. -/
def selecting : HostPort := ⟨0xf00, 0x0207, cmdInterrupts⟩

/-- Ready for data. -/
def transferring (wide : Bool) : HostPort :=
  ⟨if wide then 0xf02 else 0xf00, 0x0207, cmdInterrupts ||| transferInterrupts⟩

end HostPort

section Identification

variable {card card' : CardRegs} {w : World (Board B)} {n : Nat}
variable (hb : B.baseClock = 100000000)

include hb

/-- A command to a card that has no address yet. -/
theorem serves_identifying {idx : CmdIndex} {args resp : Word} (hcard : card.clockLimit = 400000)
    (hformat : (Format.of card.app idx.field).fits idx.cmdtm = true)
    (hdata : (Format.of card.app idx.field).data = false)
    (hreply : B.card.reply card idx.field args = some (resp, card'))
    (hstatus : sdCmdHasCardStatusResponse idx.command = true →
      sdCardStatusErrorBitSet resp = false) :
    Serves B .identifying card idx args resp card' where
  format := hformat
  reaches := by
    rw [hb, hcard]
    decide
  lines hd := by
    rw [hdata] at hd
    exact absurd hd Bool.false_ne_true
  reply := hreply
  unmasked := by decide
  status := hstatus

/-- The hosts of the identification reach every card. -/
theorem reaches_identifying : HostPort.identifying.reaches B.baseClock card.clockLimit = true := by
  rw [hb, CardRegs.clockLimit]
  split_ifs <;> decide

omit hb in
/-- CMD0 works in every state. -/
theorem serves_cmd0 {host : HostPort} {args : Word}
    (hreach : host.reaches B.baseClock card.clockLimit = true)
    (hmask : interruptCmdComplete &&& host.irptMask = interruptCmdComplete) :
    Serves B host card .goIdleState args 0 B.card.idle where
  format := by
    show (Format.of card.app 0).fits CmdIndex.goIdleState.cmdtm = true
    cases card.app <;> decide
  reaches := hreach
  lines hd := by
    have hnone : (Format.of card.app CmdIndex.goIdleState.field).data = false := by
      show (Format.of card.app 0).data = false
      cases card.app <;> decide
    rw [hnone] at hd
    exact absurd hd Bool.false_ne_true
  reply := rfl
  unmasked := hmask
  status hr1 := absurd hr1 (by decide)

/-- A card in idle state. -/
abbrev idleCard (n : Nat) : CardRegs := ⟨.idle, n, false, false⟩

theorem sdIssueCmd8_leads (h : Stands .identifying (idleCard n) w) :
    Leads sdIssueCmd8 (fun e w' => e = .none ∧ Stands .identifying (idleCard n) w') w := by
  have hs : Serves B .identifying (idleCard n) .sendIfCond cmd8Args cmd8Args (idleCard n) :=
    serves_identifying hb rfl rfl rfl rfl fun hr1 => absurd hr1 (by decide)
  apply (h.plain_leads hs (by decide)).bind
  rintro _ w' ⟨rfl, h', hresp, -⟩
  rw [if_pos rfl]
  apply Leads.resp0_bind
  rw [hresp, if_neg (not_not.mpr rfl)]
  exact Leads.pure ⟨rfl, h'.tick⟩

/-- An ACMD41. -/
theorem acmd41_leads {args resp : Word} (h : Stands .identifying (idleCard n) w)
    (hreply : B.card.start (idleCard n) args = some (resp, card')) :
    Leads (sdIssueAcmd CmdIndex.sdSendOpCond.code args 0)
      (fun e w' => e = .none ∧ Stands .identifying card' w' ∧ w'.dev.resp0 = resp) w := by
  have h55 : Serves B .identifying (idleCard n) .appCmd (acRcaArgs 0) ((idleCard n).status true)
      { idleCard n with app := true } :=
    serves_identifying hb rfl rfl rfl rfl fun _ => CardRegs.status_ok _ true
  have hs : Serves B .identifying { idleCard n with app := true } .sdSendOpCond args resp card' :=
    serves_identifying hb rfl rfl rfl hreply fun hr1 => absurd hr1 (by decide)
  apply h.acmd_leads h55
  intro w' h' _
  apply (h'.plain_leads hs (by decide)).mono
  rintro _ _ ⟨he, h'', hresp, -⟩
  exact ⟨he, h'', hresp⟩

omit hb in
theorem MemoryCard.takes_init (K : MemoryCard) : K.takes acmd41InitArgs = true := by
  have hvoltage : acmd41InitArgs &&& K.ocr &&& ocrVdd2v7To3v6 ≠ 0 := by
    rw [BitVec.and_assoc, K.voltage]
    decide
  have hcapacity : acmd41InitArgs &&& acmd41HostCapacitySupport ≠ 0 := by decide
  exact decide_eq_true ⟨hvoltage, fun _ => hcapacity⟩

omit hb in
theorem MemoryCard.start_init (K : MemoryCard) (c : CardRegs) :
    K.start c acmd41InitArgs = match c.starting with
      | 0 => some (K.startedOcr, { c with state := .ready })
      | n + 1 => some (K.ocr, { c with starting := n }) := by
  have hne : ¬ acmd41InitArgs &&& ocrVdd2v7To3v6 = 0 := by decide
  refine (if_neg hne).trans ((if_pos K.takes_init).trans ?_)
  cases c.starting <;> rfl

omit hb in
theorem MemoryCard.startedOcr_powerUp (K : MemoryCard) :
    K.startedOcr &&& ocrCardPowerUpStatus ≠ 0 := by
  have hbit : ocrCardPowerUpStatus.getLsbD 31 = true := by decide
  have htest : K.startedOcr &&& ocrCardPowerUpStatus = 0 ↔ K.startedOcr.getLsbD 31 = false :=
    and_bit_eq_zero_iff K.startedOcr (by decide)
  rw [Ne, htest, MemoryCard.startedOcr, BitVec.getLsbD_or, BitVec.getLsbD_or, hbit]
  simp

omit hb in
theorem MemoryCard.startedOcr_capacity (K : MemoryCard) :
    (K.startedOcr &&& ocrCardCapacityStatus != 0) = K.medium.blockAddressed := by
  have hocr := (and_bit_eq_zero_iff K.ocr (show 30 < 32 by decide)).mp K.unknown
  have hbusy : ocrCardPowerUpStatus.getLsbD 30 = false := by decide
  have hbit : ocrCardCapacityStatus.getLsbD 30 = true := by decide
  have htest : K.startedOcr &&& ocrCardCapacityStatus = 0 ↔ K.startedOcr.getLsbD 30 = false :=
    and_bit_eq_zero_iff K.startedOcr (by decide)
  rw [Bool.eq_iff_iff, bne_iff_ne, Ne, htest, MemoryCard.startedOcr, BitVec.getLsbD_or,
    BitVec.getLsbD_or, hocr, hbusy]
  cases K.medium.blockAddressed with
  | false => simp
  | true => simp [hbit]

/-- The retry loop goes on until the card has started, which it counts down to. -/
theorem sdAcmd41Retry_leads (ts : Word) (out : Bool) (i m : Nat)
    (h : Stands .identifying (idleCard n) w) (hm : n < m) :
    Leads (sdAcmd41Retry ts out i m)
      (fun r w' => r = (.none, B.card.medium.blockAddressed) ∧
        Stands .identifying ⟨.ready, 0, false, false⟩ w') w := by
  induction m generalizing n i w with
  | zero => omega
  | succ m ih =>
    have hpause : Leads (sdAcmd41Pause i) (fun _ w' => w' = w) w := by
      unfold sdAcmd41Pause
      split_ifs
      · exact ⟨[], (), w, rfl, rfl⟩
      · exact Leads.pure rfl
    apply hpause.bind
    rintro _ _ rfl
    cases n with
    | zero =>
      apply (acmd41_leads hb h (MemoryCard.start_init _ _)).bind
      rintro _ w' ⟨rfl, h', hresp⟩
      rw [if_neg (not_not.mpr rfl)]
      apply Leads.resp0_bind
      rw [hresp, if_pos B.card.startedOcr_powerUp, sdAcmd41Finish,
        if_pos B.card.startedOcr_powerUp, B.card.startedOcr_capacity]
      exact Leads.pure ⟨rfl, h'.tick⟩
    | succ n =>
      apply (acmd41_leads hb h (MemoryCard.start_init _ _)).bind
      rintro _ w' ⟨rfl, h', hresp⟩
      rw [if_neg (not_not.mpr rfl)]
      apply Leads.resp0_bind
      rw [hresp, if_neg (not_not.mpr B.card.busy)]
      -- a card that has yet to start keeps the timer from running out
      have hpending : (w'.on w'.dev.tick).dev.pending = true := by
        rw [Board.pending, show (w'.on w'.dev.tick).dev.card = idleCard n from h'.tick.card]
        simp
      apply Leads.timerDone_bind
      rw [hpending]
      exact ih (i + 1) h'.tick (by omega)

theorem sdIssueAcmd41_leads (out : Bool) (h : Stands .identifying (idleCard B.card.powerUp) w) :
    Leads (sdIssueAcmd41 out)
      (fun r w' => r = (.none, B.card.medium.blockAddressed) ∧
        Stands .identifying ⟨.ready, 0, false, false⟩ w') w := by
  apply (acmd41_leads hb h rfl).bind
  rintro _ w' ⟨rfl, h', hresp⟩
  rw [if_neg (not_not.mpr rfl)]
  apply Leads.resp0_bind
  have hmatch : ocrVoltageMismatch w'.dev.resp0 = false := by
    rw [ocrVoltageMismatch, bne_self_eq_false, cBool]
    simp
  rw [hmatch, if_neg Bool.false_ne_true]
  apply Leads.timerStart_bind
  apply Leads.view_bind
  exact sdAcmd41Retry_leads hb _ _ _ _ h'.tick h'.fit.starts

/-- CMD2. -/
theorem allSendCid_leads (h : Stands .identifying ⟨.ready, 0, false, false⟩ w) :
    Leads (sdIssueCmd CmdIndex.allSendCid.code 0)
      (fun e w' => e = .none ∧ Stands .identifying ⟨.identification, 0, false, false⟩ w') w := by
  have hs : Serves B .identifying ⟨.ready, 0, false, false⟩ .allSendCid 0 B.card.cid
      ⟨.identification, 0, false, false⟩ :=
    serves_identifying hb rfl rfl rfl rfl fun hr1 => absurd hr1 (by decide)
  apply (h.plain_leads hs (by decide)).mono
  rintro _ _ ⟨he, h', -, -⟩
  exact ⟨he, h'⟩

theorem sdIssueCmd3_leads (rcaOut : Int)
    (h : Stands .identifying ⟨.identification, 0, false, false⟩ w) :
    Leads (sdIssueCmd3 rcaOut)
      (fun r w' => r = (.none, (B.card.rca.toNat : Int)) ∧
        Stands .identifying ⟨.standby, 0, false, false⟩ w') w := by
  have hs : Serves B .identifying ⟨.identification, 0, false, false⟩ .sendRelativeAddr 0
      (B.card.rca ++ 0x0500#16) ⟨.standby, 0, false, false⟩ :=
    serves_identifying hb rfl rfl rfl rfl fun hr1 => absurd hr1 (by decide)
  have hok : cmd3ErrorBitSet (B.card.rca ++ 0x0500#16) = false := by
    simp only [cmd3ErrorBitSet, BitVec.getLsbD_append]
    rfl
  have hrca : (B.card.rca ++ 0x0500#16).extractLsb' 16 16 = B.card.rca :=
    BitVec.extractLsb'_append_eq_left
  apply (h.plain_leads hs (by decide)).bind
  rintro _ w' ⟨rfl, h', hresp, -⟩
  rw [if_pos rfl]
  apply Leads.resp0_bind
  rw [hresp, hok, if_neg Bool.false_ne_true, hrca]
  exact Leads.pure ⟨rfl, h'.tick⟩

end Identification

/-! ### Commands to a card with an address -/

section Addressed

variable {card card' : CardRegs} {w : World (Board B)} {host : HostPort}

/-- A host that reaches a card with an address, and waits for its commands. -/
structure Driving (B : Bench) (host : HostPort) : Prop where
  reaches : host.reaches B.baseClock 25000000 = true
  unmasked : interruptCmdComplete &&& host.irptMask = interruptCmdComplete

theorem driving_selecting (hb : B.baseClock = 100000000) : Driving B .selecting :=
  ⟨by rw [hb]; decide, by decide⟩

theorem driving_transferring (hb : B.baseClock = 100000000) (wide : Bool) :
    Driving B (.transferring wide) := by
  cases wide
  · exact ⟨by rw [hb]; decide, by decide⟩
  · exact ⟨by rw [hb]; decide, by decide⟩

variable (hd : Driving B host)

include hd

theorem Driving.serves {idx : CmdIndex} {args resp : Word} (hcard : card.addressed = true)
    (hformat : (Format.of card.app idx.field).fits idx.cmdtm = true)
    (hdata : (Format.of card.app idx.field).data = true → host.wide = card.wide)
    (hreply : B.card.reply card idx.field args = some (resp, card'))
    (hstatus : sdCmdHasCardStatusResponse idx.command = true →
      sdCardStatusErrorBitSet resp = false) :
    Serves B host card idx args resp card' where
  format := hformat
  reaches := by
    rw [CardRegs.clockLimit, if_pos hcard]
    exact hd.reaches
  lines := hdata
  reply := hreply
  unmasked := hd.unmasked
  status := hstatus

omit hd in
/-- The driver addresses the card. -/
theorem MemoryCard.meant_rca (K : MemoryCard) {c : CardRegs} (hc : c.addressed = true) :
    K.meant c (acRcaArgs (K.rca.toNat : Int)) = true := by
  have hrca : (acRcaArgs (K.rca.toNat : Int)).extractLsb' 16 16 = K.rca := by
    rw [acRcaArgs, BitVec.extractLsb'_append_eq_left, BitVec.ofInt_natCast, BitVec.ofNat_toNat,
      BitVec.setWidth_eq]
  rw [MemoryCard.meant, hrca, if_pos hc]
  exact decide_eq_true rfl

theorem sdIssueCmd7_leads (h : Stands host ⟨.standby, 0, false, false⟩ w) :
    Leads (sdIssueCmd7 (B.card.rca.toNat : Int))
      (fun e w' => e = .none ∧ Stands host ⟨.transfer, 0, false, false⟩ w') w := by
  have hreply : B.card.reply ⟨.standby, 0, false, false⟩ CmdIndex.selectCard.field
      (acRcaArgs (B.card.rca.toNat : Int)) =
      some ((⟨.standby, 0, false, false⟩ : CardRegs).status false,
        ⟨.transfer, 0, false, false⟩) := by
    have hmeant := B.card.meant_rca (c := ⟨.standby, 0, false, false⟩) rfl
    rw [show CmdIndex.selectCard.field = 7#6 by decide]
    simp [MemoryCard.reply, MemoryCard.replyBasic, hmeant]
  have hs : Serves B host ⟨.standby, 0, false, false⟩ .selectCard
      (acRcaArgs (B.card.rca.toNat : Int)) _ _ :=
    hd.serves rfl rfl (fun hdata => absurd hdata (by decide)) hreply
      fun _ => CardRegs.status_ok _ false
  apply (h.plain_leads hs (by decide)).mono
  rintro _ _ ⟨he, h', -, -⟩
  exact ⟨he, h'⟩

/-- A card in transfer state. -/
abbrev transferCard (wide : Bool) : CardRegs := ⟨.transfer, 0, false, wide⟩

theorem sdIssueCmd13_leads (csOut : Word) (h : Stands host (transferCard false) w) :
    Leads (sdIssueCmd13 (B.card.rca.toNat : Int) csOut)
      (fun r w' => r = (.none, (transferCard false).status false) ∧
        Stands host (transferCard false) w') w := by
  have hreply : B.card.reply (transferCard false) CmdIndex.sendStatus.field
      (acRcaArgs (B.card.rca.toNat : Int)) =
      some ((transferCard false).status false, transferCard false) := by
    have hmeant := B.card.meant_rca (c := transferCard false) rfl
    rw [show CmdIndex.sendStatus.field = 13#6 by decide]
    simp [MemoryCard.reply, MemoryCard.replyBasic, hmeant, CardRegs.addressed]
  have hs : Serves B host (transferCard false) .sendStatus (acRcaArgs (B.card.rca.toNat : Int))
      _ _ :=
    hd.serves rfl rfl (fun hdata => absurd hdata (by decide)) hreply
      fun _ => CardRegs.status_ok _ false
  apply (h.plain_leads hs (by decide)).bind
  rintro _ w' ⟨rfl, h', hresp, -⟩
  rw [if_pos rfl]
  apply Leads.resp0_bind
  rw [hresp]
  exact Leads.pure ⟨rfl, h'.tick⟩

/-- The CMD55 before an application command to a card in transfer state. -/
theorem serves_cmd55 : Serves B host (transferCard false) .appCmd
    (acRcaArgs (B.card.rca.toNat : Int)) ((transferCard false).status true)
    { transferCard false with app := true } := by
  have hmeant := B.card.meant_rca (c := transferCard false) rfl
  apply hd.serves rfl rfl (fun hdata => absurd hdata (by decide)) _
    fun _ => CardRegs.status_ok _ true
  rw [show CmdIndex.appCmd.field = 55#6 by decide]
  simp [MemoryCard.reply, MemoryCard.replyBasic, hmeant]

theorem sdIssueAcmd6_leads (hwide : B.card.scr.getLsbD 50 = true)
    (h : Stands host (transferCard false) w) :
    Leads (sdIssueAcmd6 (B.card.rca.toNat : Int) true)
      (fun e w' => e = .none ∧ Stands host (transferCard true) w') w := by
  have hreply : B.card.reply { transferCard false with app := true } CmdIndex.setBusWidth.field
      (acmd6Args true) = some ((transferCard false).status true, transferCard true) := by
    rw [show CmdIndex.setBusWidth.field = 6#6 by decide, show acmd6Args true = 2 by decide]
    simp [MemoryCard.reply, MemoryCard.replyApp, hwide, CardRegs.status]
  have hs : Serves B host { transferCard false with app := true } .setBusWidth (acmd6Args true)
      _ _ :=
    hd.serves rfl rfl (fun hdata => absurd hdata (by decide)) hreply
      fun _ => CardRegs.status_ok _ true
  apply h.acmd_leads (serves_cmd55 hd)
  intro w' h' _
  apply (h'.plain_leads hs (by decide)).mono
  rintro _ _ ⟨he, h'', -, -⟩
  exact ⟨he, h''⟩

/-! ### The SCR -/

omit hd in
/-- Swapping the bytes of a word twice. -/
theorem bswap32_bswap32 (v : Word) : bswap32 (bswap32 v) = v := by
  unfold bswap32
  apply BitVec.eq_of_getLsbD_eq
  intro i hi
  simp only [BitVec.getLsbD_or, BitVec.getLsbD_and, BitVec.getLsbD_shiftLeft,
    BitVec.getLsbD_ushiftRight]
  interval_cases i <;> simp

/-- The half of the SCR that the driver keeps. -/
def MemoryCard.scrHigh (K : MemoryCard) : Word := K.scr.extractLsb' 32 32

omit hd in
theorem MemoryCard.cmd23Supported_scrHigh (K : MemoryCard) :
    Scr.cmd23Supported K.scrHigh = K.scr.getLsbD 33 := by
  simp [Scr.cmd23Supported, MemoryCard.scrHigh]

omit hd in
theorem MemoryCard.fourBit_scrHigh (K : MemoryCard) :
    Scr.fourBit K.scrHigh = K.scr.getLsbD 50 := by
  have htest : (Scr.busWidths K.scrHigh).setWidth 32 &&& bit 2 = 0 ↔
      ((Scr.busWidths K.scrHigh).setWidth 32).getLsbD 2 = false :=
    and_bit_eq_zero_iff _ (by decide)
  rw [Scr.fourBit, Bool.eq_iff_iff, bne_iff_ne, Ne, htest]
  simp [Scr.busWidths, MemoryCard.scrHigh]

/-- The card sends its SCR. -/
structure Sends (host : HostPort) (w : World (Board B)) : Prop where
  fit : Fit w
  due : Due interruptReadReady (.draining 0 0 []) w.dev.ctl
  settled : host.settle = host
  host : w.dev.host = host
  card : w.dev.card = transferCard false
  register : w.dev.register = true
  mail : w.dev.mail = ⟨false, none, none⟩

omit hd in
theorem Sends.dev_settled (h : Sends host w) : w.dev.Settled :=
  ⟨by rw [h.host]; exact h.settled, by rw [h.mail]; rfl⟩

omit hd in
theorem Sends.tick (h : Sends host w) : Sends host (w.on w.dev.tick) := by
  obtain ⟨f, p, -, hdue⟩ := h.due.tick
  rw [h.dev_settled.tick]
  exact ⟨h.fit.on _, hdue, h.settled, h.host, h.card, h.register, h.mail⟩

/-- ACMD51, up to the data. -/
theorem sendScr_leads (hwide : host.wide = false)
    (h : Stands host { transferCard false with app := true } w)
    (hsize : w.dev.ctl.blksizecnt = blksizecnt 8 1) :
    Leads (sdIssueCmd CmdIndex.sdSendScr.code 0) (fun e w' => e = .none ∧ Sends host w') w := by
  have hreply : B.card.reply { transferCard false with app := true } CmdIndex.sdSendScr.field 0 =
      some ((transferCard false).status true, transferCard false) := by
    rw [show CmdIndex.sdSendScr.field = 51#6 by decide]
    simp [MemoryCard.reply, MemoryCard.replyApp, CardRegs.status]
  have hs : Serves B host { transferCard false with app := true } .sdSendScr 0 _ _ :=
    hd.serves rfl rfl (fun _ => hwide) hreply fun _ => CardRegs.status_ok _ true
  have happ : w.dev.card.app = true := by rw [h.card]
  generalize hgiven : w.dev.given .sdSendScr 0 ((transferCard false).status true)
    (transferCard false) = b at hs
  have hctl : b.ctl = (w.dev.ready 0).carryOut CmdIndex.sdSendScr.cmdtm := by
    rw [← hgiven]
    rfl
  have hcarry : b.ctl = { (w.dev.ready 0).ctl with preset := none, phase := .sent [0] } := by
    have hblk : (w.dev.ready 0).ctl.blkSize = 8 ∧ (w.dev.ready 0).ctl.blkCount = 1 := by
      unfold Controller.blkSize Controller.blkCount
      rw [show (w.dev.ready 0).ctl.blksizecnt = blksizecnt 8 1 from hsize]
      decide
    have hscr : (w.dev.ready 0).card.app ∧
        BitVec.extractLsb' 24 6 CmdIndex.sdSendScr.cmdtm = 51#6 := ⟨happ, by decide⟩
    rw [hctl, Board.carryOut, if_pos hscr, if_pos hblk]
  have hsends : ∀ c : Controller B.setup, Due interruptReadReady (.draining 0 0 []) c →
      Sends host (w.on (b.withCtl c)) := by
    intro c hc
    rw [← hgiven]
    refine ⟨h.fit.on _, hc, h.settled, h.host, rfl, ?_, h.mail⟩
    exact decide_eq_true ⟨happ, by decide⟩
  have hsettled : b.Settled := by
    rw [← hgiven]
    exact ⟨h.dev_settled.host, h.dev_settled.mail⟩
  have hmask : interruptCmdComplete &&& b.host.irptMask = interruptCmdComplete := by
    rw [← hgiven, show (w.dev.given _ _ _ _).host = host from h.host]
    exact hd.unmasked
  apply h.issue_leads hs
  rw [hgiven]
  -- the first flag may be followed by the next one
  have hcoming : Coming interruptCmdComplete (.fetching 0 []) b.ctl := by
    rw [hcarry]
    exact .inl ⟨rfl, rfl⟩
  apply (sdWaitForInterrupt_leads (w := w.on b) (h.fit.on _) hsettled hcoming hmask
    flagOk_cmdComplete).mono
  rintro _ _ ⟨rfl, k, rfl⟩
  obtain ⟨f, p, hset, hdue⟩ := set_irpt_fetching
    (c := b.ctl.into k interruptCmdComplete (.fetching 0 [])) rfl rfl
  have hsent := hsends _ hdue
  rw [← hset] at hsent
  refine ⟨rfl, ?_, hsent, hsent.tick⟩
  rw [Board.resp0_tick, ← hgiven]
  rfl

omit hd in
/-- A read of `DATA` while the card sends its SCR. -/
theorem Board.get_data_register {b : Board B} {n k : Nat} {todo : List Nat} (hset : b.Settled)
    (hreg : b.register = true) (hphase : b.ctl.phase = .draining n k todo)
    (hirpt : b.ctl.irpt = 0) :
    Device.get (.sd .data) b = (B.card.scrWord k,
      if k = 0 then b.withCtl (b.ctl.into (b.ctl.now + 1) 0 (.draining n 1 todo))
      else
        { b.withCtl (b.ctl.into (b.ctl.now + 1) 0 (.afterBlock todo)) with register := false }) := by
  show b.tick.drain = _
  rw [hset.tick, tick_quiet (by rw [hphase]; rfl), hirpt, hphase, Board.drain,
    Board.register_withCtl, hreg, if_pos rfl]
  rfl

theorem sdIssueAcmd51_leads (hwide : host.wide = false)
    (hready : interruptReadReady &&& host.irptMask = interruptReadReady)
    (hcomplete : interruptTransferComplete &&& host.irptMask = interruptTransferComplete)
    (h : Stands host (transferCard false) w) :
    Leads (sdIssueAcmd51 (B.card.rca.toNat : Int))
      (fun r w' => r = (.none, B.card.scrHigh) ∧ Stands host (transferCard false) w') w := by
  unfold sdIssueAcmd51
  apply Leads.set_bind
  have hset : Device.set (.sd .blksizecnt) (blksizecnt 8 1) w.dev =
      w.dev.withCtl { w.dev.ctl.into (w.dev.ctl.now + 1) 0 .idle with
        blksizecnt := blksizecnt 8 1 } := by
    show w.dev.tick.withCtl { w.dev.tick.ctl with blksizecnt := _ } = _
    rw [h.tick_eq]
    rfl
  rw [hset]
  have hcmd : Leads (sdIssueAcmd CmdIndex.sdSendScr.code 0 (B.card.rca.toNat : Int))
      (fun e w' => e = .none ∧ Sends host w')
      (w.on (w.dev.withCtl { w.dev.ctl.into (w.dev.ctl.now + 1) 0 .idle with
        blksizecnt := blksizecnt 8 1 })) := by
    apply (h.withCtl ⟨rfl, rfl⟩).acmd_leads (serves_cmd55 hd)
    intro w' h' hsize
    exact sendScr_leads hd hwide h' hsize
  apply hcmd.bind
  rintro _ w' ⟨rfl, h'⟩
  rw [if_neg (not_not.mpr rfl)]
  apply (sdWaitForInterrupt_quiet h'.fit h'.dev_settled h'.due.coming
    (by rw [h'.host]; exact hready) flagOk_readReady rfl).bind
  rintro _ _ ⟨rfl, k, rfl⟩
  rw [if_neg (not_not.mpr rfl)]
  -- the two words
  generalize hc : w'.dev.ctl.after k interruptReadReady 0 (.draining 0 0 []) = c
  have hdata : Device.get (.sd .data) (w'.dev.withCtl c) =
      (B.card.scrWord 0, w'.dev.withCtl (c.into (c.now + 1) 0 (.draining 0 1 []))) :=
    Board.get_data_register (h'.dev_settled.withCtl c) h'.register (by rw [← hc]; rfl)
      (by rw [← hc]; rfl)
  have hphase : (w'.dev.withCtl (c.into (c.now + 1) 0 (.draining 0 1 []))).ctl.phase =
      .draining 0 1 [] := rfl
  have hdata' : Device.get (.sd .data) (w'.dev.withCtl (c.into (c.now + 1) 0 (.draining 0 1 []))) =
      (B.card.scrWord 1, { w'.dev.withCtl (c.into (c.now + 2) 0 .finishing) with
        register := false }) :=
    Board.get_data_register (h'.dev_settled.withCtl _) (by exact h'.register) hphase rfl
  apply Leads.get_bind
  rw [World.dev_on, hdata]
  apply Leads.get_bind
  rw [World.dev_on, hdata', World.on_on, World.on_on]
  dsimp only
  have hscr : bswap32 (B.card.scrWord 0) = B.card.scrHigh := bswap32_bswap32 _
  rw [hscr]
  generalize hb : ({ w'.dev.withCtl (c.into (c.now + 2) 0 .finishing) with
    register := false } : Board B) = b
  have hmask : interruptTransferComplete &&& b.host.irptMask = interruptTransferComplete := by
    have hhost : b.host = host := by
      rw [← hb]
      exact h'.host
    rw [hhost]
    exact hcomplete
  have hsettled : b.Settled := by
    rw [← hb]
    exact ⟨h'.dev_settled.host, h'.dev_settled.mail⟩
  have hcoming : Coming interruptTransferComplete .idle b.ctl := by
    rw [← hb]
    exact .inl ⟨rfl, rfl⟩
  apply (sdWaitForInterrupt_quiet (w := w'.on b) (h'.fit.on _) hsettled hcoming hmask
    flagOk_transferComplete rfl).bind
  rintro _ _ ⟨rfl, k', rfl⟩
  rw [← hb]
  exact Leads.pure ⟨rfl, h'.fit.on _, ⟨rfl, rfl⟩, h'.settled, h'.host, h'.card, rfl, h'.mail⟩

end Addressed

end RpiBld
