/-
RpiBld/Board/Reading.lean

Reading on the board.

Once the card is in transfer state, the board does in a read what its controller
does: the two are in lockstep (`SameReads`), and whatever is proved of reads from an
error-free card holds on the board.  Only the response register is different until
the first read command is answered, so a command starts with the machines related
less closely than it ends.
-/
import RpiBld.Board.Initialisation
import RpiBld.Lockstep

namespace RpiBld

open Traced Controller

variable {B : Bench}

/-! ### The relation -/

/-- The board, ready for reads, and its controller alone.  `answered` says that the last response
is that of a read command. -/
structure SameReads (answered : Prop) (w : World (Board B)) (w' : World (Controller B.setup)) :
    Prop where
  ctl : w.dev.ctl = w'.dev
  ram : w.ram = w'.ram
  polls : w.polls = w'.polls
  frame : w.frame = w'.frame
  host : w.dev.host = .transferring B.card.wide
  card : w.dev.card = transferCard B.card.wide
  register : w.dev.register = false
  mail : w.dev.mail = ⟨false, none, none⟩
  flags : w'.dev.irpt &&& (HostPort.transferring B.card.wide).irptMask = w'.dev.irpt
  resp0 : answered → w.dev.resp0 = transferStatus

/-- The accesses of reads; that of the command register is apart. -/
inductive Touches (answered : Prop) : Access → Prop
  | interrupt : Touches answered (.get (.sd .interrupt))
  | status : Touches answered (.get (.sd .status))
  | data : Touches answered (.get (.sd .data))
  | resp0 (h : answered) : Touches answered (.get (.sd .resp0))
  | ack (v : Word) : Touches answered (.set (.sd .interrupt) v)
  | arg1 (v : Word) : Touches answered (.set (.sd .arg1) v)
  | blksizecnt (v : Word) : Touches answered (.set (.sd .blksizecnt) v)

section Relation

variable {answered : Prop} {w : World (Board B)} {w' : World (Controller B.setup)}

theorem settle_transferring (wide : Bool) :
    (HostPort.transferring wide).settle = .transferring wide := by
  cases wide <;> decide

/-- The controller raises no flags but those that the driver has unmasked. -/
theorem tick_unmasked {c : Controller B.setup} {mask : Word}
    (hmask : ∀ p : Phase, ∀ f q, p.raise = some (f, q) → f &&& mask = f)
    (h : c.irpt &&& mask = c.irpt) : c.tick.irpt &&& mask = c.tick.irpt := by
  have hadvance : ∀ n (c : Controller B.setup), c.irpt &&& mask = c.irpt →
      (advance^[n] c).irpt &&& mask = (advance^[n] c).irpt := by
    intro n
    induction n with
    | zero => exact fun c h => h
    | succ n ih =>
      intro c h
      rw [Function.iterate_succ_apply]
      apply ih
      rcases hraise : c.phase.raise with _ | ⟨f, q⟩
      · rw [advance_quiet hraise]
        exact h
      · rw [advance_some hraise, irpt_into, BitVec.and_or_distrib_right, h,
          hmask _ _ _ hraise]
  exact hadvance _ c h

theorem raise_unmasked (wide : Bool) (p : Phase) (f : Word) (q : Phase)
    (h : p.raise = some (f, q)) : f &&& (HostPort.transferring wide).irptMask = f := by
  have hflag : f = interruptCmdComplete ∨ f = interruptReadReady ∨
      f = interruptTransferComplete := by
    rcases p with _ | (_ | ⟨b, todo⟩) | ⟨b, todo⟩ | ⟨b, k, todo⟩ | _ <;>
      simp [Phase.raise] at h <;> simp [← h.1]
  rcases hflag with rfl | rfl | rfl <;> cases wide <;> decide

namespace SameReads

theorem settled (h : SameReads answered w w') : w.dev.Settled :=
  ⟨by rw [h.host]; exact settle_transferring _, by rw [h.mail]; rfl⟩

theorem tick (h : SameReads answered w w') :
    SameReads answered (w.on w.dev.tick) { w' with dev := w'.dev.tick } := by
  rw [h.settled.tick]
  refine ⟨congrArg Controller.tick h.ctl, h.ram, h.polls, h.frame, h.host, h.card, h.register,
    h.mail, tick_unmasked (raise_unmasked _) h.flags, h.resp0⟩

end SameReads

end Relation

/-! ### Lockstep -/

section Lockstep

/-- The relation of `Lockstep`. -/
abbrev alongside (B : Bench) (answered : Prop) :
    Related Halt Event (World (Board B)) (World (Controller B.setup)) :=
  fun _ m m' => Simulates (SameReads answered) m m'

variable {answered : Prop} {w : World (Board B)} {w' : World (Controller B.setup)}

namespace SameReads

/-- Both controllers were spoken to. -/
theorem withCtl (h : SameReads answered w w') {c : Controller B.setup}
    (hflags : c.irpt &&& (HostPort.transferring B.card.wide).irptMask = c.irpt) :
    SameReads answered (w.on (w.dev.withCtl c)) { w' with dev := c } :=
  ⟨rfl, h.ram, h.polls, h.frame, h.host, h.card, h.register, h.mail, hflags, h.resp0⟩

theorem get (h : SameReads answered w w') (r : Reg) (hr : Touches answered (.get r)) :
    (Device.get r w.dev).1 = (Device.get r w'.dev).1 ∧
      SameReads answered (w.on (Device.get r w.dev).2)
        { w' with dev := (Device.get r w'.dev).2 } := by
  have htick := h.tick
  have hctl : w.dev.tick.ctl = w'.dev.tick := htick.ctl
  cases hr with
  | interrupt =>
    -- only flags that are unmasked are there
    refine ⟨?_, htick⟩
    show w.dev.tick.ctl.irpt &&& w.dev.tick.host.irptMask = w'.dev.tick.irpt
    rw [hctl, show w.dev.tick.host = .transferring B.card.wide from htick.host]
    exact htick.flags
  | status => exact ⟨congrArg Controller.status hctl, htick⟩
  | data =>
    have hdrain : w.dev.tick.drain =
        (w'.dev.tick.drain.1, w.dev.tick.withCtl w'.dev.tick.drain.2) := by
      rw [Board.drain, show w.dev.tick.register = false from htick.register, hctl]
      rfl
    have hflags : w'.dev.tick.drain.2.irpt = w'.dev.tick.irpt := by
      unfold Controller.drain
      split
      · dsimp only
        split_ifs <;> rfl
      · rfl
    show w.dev.tick.drain.1 = w'.dev.tick.drain.1 ∧ SameReads answered (w.on w.dev.tick.drain.2)
      { w' with dev := w'.dev.tick.drain.2 }
    rw [hdrain]
    refine ⟨rfl, htick.withCtl ?_⟩
    rw [hflags]
    exact htick.flags
  | resp0 hanswered => exact ⟨htick.resp0 hanswered, htick⟩

theorem set (h : SameReads answered w w') (r : Reg) (v : Word)
    (hr : Touches answered (.set r v)) :
    SameReads answered (w.on (Device.set r v w.dev))
      { w' with dev := Device.set r v w'.dev } := by
  have htick := h.tick
  have hctl : w.dev.tick.ctl = w'.dev.tick := htick.ctl
  cases hr with
  | ack =>
    show SameReads answered (w.on (w.dev.tick.withCtl (w.dev.tick.ctl.ack v)))
      { w' with dev := w'.dev.tick.ack v }
    rw [hctl]
    apply htick.withCtl
    show (w'.dev.tick.irpt &&& ~~~v) &&& _ = w'.dev.tick.irpt &&& ~~~v
    have hflags := htick.flags
    rw [BitVec.and_assoc, BitVec.and_comm (~~~v), ← BitVec.and_assoc, hflags]
  | arg1 =>
    show SameReads answered (w.on (w.dev.tick.withCtl { w.dev.tick.ctl with arg1 := v }))
      { w' with dev := { w'.dev.tick with arg1 := v } }
    rw [hctl]
    exact htick.withCtl htick.flags
  | blksizecnt =>
    show SameReads answered (w.on (w.dev.tick.withCtl { w.dev.tick.ctl with blksizecnt := v }))
      { w' with dev := { w'.dev.tick with blksizecnt := v } }
    rw [hctl]
    exact htick.withCtl htick.flags

end SameReads

theorem lockstep_alongside (answered : Prop) :
    RamLockstep (alongside B answered) (Touches answered) where
  toCongruence := congruence_simulates _
  halt e := Simulates.halt e
  log fmt args := Simulates.emit _
  get r hr w w' h := by
    obtain ⟨hv, hrel⟩ := h.get r hr
    show [Event.get r (Device.get r w.dev).1] = [Event.get r (Device.get r w'.dev).1] ∧
      Except.ok (Device.get r w.dev).1 = Except.ok (Device.get r w'.dev).1 ∧ _
    rw [hv]
    exact ⟨rfl, rfl, hrel⟩
  set r v hr w w' h := ⟨rfl, rfl, h.set r v hr⟩
  timerStart ms := Simulates.change fun w w' h => ⟨rfl, h⟩
  timerDone ts := Simulates.change fun w w' h => by
    refine ⟨?_, h⟩
    show (!w.dev.pending) = w'.dev.phase.raise.isNone
    have hset := h.settled
    rw [Board.pending, hset.host, hset.mail, h.card, h.ctl]
    cases w'.dev.phase.raise <;> simp
  usleep us := Simulates.change fun w w' h => ⟨rfl, h⟩
  polls := Simulates.view fun w w' h => h.polls
  view f := Simulates.view fun w w' h => congrArg f h.ram
  change f := Simulates.change fun w w' h => by
    rw [h.ram]
    exact ⟨rfl, h.ctl, rfl, h.polls, h.frame, h.host, h.card, h.register, h.mail, h.flags,
      h.resp0⟩
  frame := Simulates.view fun w w' h => h.frame
  videocore := Simulates.change fun w w' h => by
    have hnone : Device.videocore w.ram w.dev = (w.ram, w.dev) :=
      Board.videocore_none (by rw [h.mail]) _
    rw [hnone]
    exact ⟨rfl, h⟩

end Lockstep

/-! ### Read commands -/

section Commands

variable {answered : Prop} {w : World (Board B)} {w' : World (Controller B.setup)}

/-- A card in transfer state answers the read commands, and stays in it. -/
theorem MemoryCard.reply_read (K : MemoryCard) {idx : CmdIndex} (hidx : idx ∈ readIdxs)
    (hcmd23 : idx = .setBlockCount → K.scr.getLsbD 33 = true) (wide : Bool) (arg : Word) :
    K.reply (transferCard wide) idx.field arg = some (transferStatus, transferCard wide) := by
  have hstatus : (transferCard wide).status false = transferStatus := rfl
  simp only [readIdxs, List.mem_cons, List.not_mem_nil, or_false] at hidx
  rcases hidx with rfl | rfl | rfl
  · rw [show CmdIndex.readSingleBlock.field = 17#6 by decide]
    simp [MemoryCard.reply, MemoryCard.replyBasic, hstatus]
  · rw [show CmdIndex.readMultipleBlock.field = 18#6 by decide]
    simp [MemoryCard.reply, MemoryCard.replyBasic, hstatus]
  · rw [show CmdIndex.setBlockCount.field = 23#6 by decide]
    simp [MemoryCard.reply, MemoryCard.replyBasic, hstatus, hcmd23 rfl]

/-- A read command gets to the card, and the controllers go on alike. -/
theorem SameReads.set_cmdtm (hb : B.baseClock = 100000000) (h : SameReads answered w w')
    {idx : CmdIndex} (hidx : idx ∈ readIdxs)
    (hcmd23 : idx = .setBlockCount → B.card.scr.getLsbD 33 = true) :
    SameReads True (w.on (Device.set (.sd .cmdtm) idx.cmdtm w.dev))
      { w' with dev := Device.set (.sd .cmdtm) idx.cmdtm w'.dev } := by
  have htick := h.tick
  have hctl : w.dev.tick.ctl = w'.dev.tick := htick.ctl
  have hhost : w.dev.tick.host = .transferring B.card.wide := htick.host
  have hcard : w.dev.tick.card = transferCard B.card.wide := htick.card
  have hfits : (Format.of false idx.field).fits idx.cmdtm = true := by
    revert hidx
    cases idx <;> decide
  have hreaches := (driving_transferring hb B.card.wide).reaches
  have hlines : (HostPort.transferring B.card.wide).wide = B.card.wide := by
    cases B.card.wide <;> decide
  have haccept : w.dev.tick.accept idx.cmdtm =
      { w.dev.tick.withCtl (w'.dev.tick.accept idx.cmdtm) with resp0 := transferStatus } := by
    have hcond : (Format.of (transferCard B.card.wide).app idx.field).fits idx.cmdtm ∧
        (HostPort.transferring B.card.wide).reaches B.baseClock
          (transferCard B.card.wide).clockLimit ∧
        w.dev.tick.linesAgree (Format.of (transferCard B.card.wide).app idx.field) := by
      refine ⟨hfits, hreaches, ?_⟩
      rw [Board.linesAgree, hhost, hcard]
      exact decide_eq_true fun _ => hlines
    have hcarry : w.dev.tick.carryOut idx.cmdtm = w'.dev.tick.accept idx.cmdtm := by
      rw [Board.carryOut, hcard, hctl]
      exact if_neg fun happ => Bool.false_ne_true happ.1
    rw [Board.accept, hcarry, hcard, hhost]
    dsimp only
    rw [show BitVec.extractLsb' 24 6 idx.cmdtm = idx.field from rfl, if_pos hcond,
      B.card.reply_read hidx hcmd23]
    have hregister : w.dev.tick.register = false := htick.register
    simp [Board.withCtl, hcard, hregister]
  show SameReads True (w.on (w.dev.tick.accept idx.cmdtm))
    { w' with dev := w'.dev.tick.accept idx.cmdtm }
  rw [haccept]
  exact ⟨rfl, htick.ram, htick.polls, htick.frame, hhost, hcard, htick.register, htick.mail,
    htick.flags, fun _ => rfl⟩

/-- A read command on both machines. -/
theorem sdIssueCmd_alongside (hb : B.baseClock = 100000000) {idx : CmdIndex} (hidx : idx ∈ readIdxs)
    (hcmd23 : idx = .setBlockCount → B.card.scr.getLsbD 33 = true) (args : Word) :
    alongside B False CmdError (sdIssueCmd idx.code args) (sdIssueCmd idx.code args) := by
  have h := (lockstep_alongside (B := B) False).toLockstep
  have h' := (lockstep_alongside (B := B) True).toLockstep
  unfold sdIssueCmd
  rw [getCommand_code]
  apply h.bind (h.get _ .status)
  intro status
  apply Congruence.ite (h.logged _ _ _)
  apply Congruence.ite (h.logged _ _ _)
  apply h.bind (h.set _ _ (.arg1 _))
  intro _
  have hcmdtm : ∀ w w', SameReads False w w' →
      SameReads True ((registerSet (.sd .cmdtm) idx.cmdtm : Drv (Board B) Unit) w).state
        ((registerSet (.sd .cmdtm) idx.cmdtm : Drv (Controller B.setup) Unit) w').state :=
    fun w w' hw => hw.set_cmdtm hb hidx hcmd23
  refine Simulates.tighten (fun w w' hw => ⟨rfl, rfl, hcmdtm w w' hw⟩) ?_ ?_
  · -- from here on the response is the same
    intro _
    apply h'.bind (h'.sdWaitForInterrupt ⟨.interrupt, .ack⟩ _)
    intro error
    apply Congruence.ite
    · apply h'.bind (h'.get _ (.resp0 trivial))
      intro cs
      exact Congruence.ite (h'.logged _ _ _) (h'.pure _)
    · exact Congruence.ite (h'.logged _ _ _) (h'.pure _)
  · intro w w' hw
    exact ⟨hw.ctl, hw.ram, hw.polls, hw.frame, hw.host, hw.card, hw.register, hw.mail, hw.flags,
      False.elim⟩

/-- Reads on both machines. -/
theorem readAccess_alongside (hb : B.baseClock = 100000000) :
    ReadAccess (alongside B False) (Touches False) B.card.known where
  waiting := ⟨.interrupt, .ack⟩
  data := .data
  blksizecnt := .blksizecnt
  issue _ hidx hcmd23 args := sdIssueCmd_alongside hb hidx hcmd23 args

theorem readLockstep_alongside : ReadLockstep (alongside B False) (Touches False) where
  toRamLockstep := lockstep_alongside False
  sdRead _ _ _ := Simulates.emit _
  store a v w w' h := by
    refine ⟨rfl, rfl, h.ctl, ?_, h.polls, h.frame, h.host, h.card, h.register, h.mail, h.flags,
      h.resp0⟩
    show store32 w.ram a v = store32 w'.ram a v
    rw [h.ram]

/-- The loader does on the board what it does on its controller. -/
theorem loadImage_alongside (hb : B.baseClock = 100000000) (imagePartition : Int) :
    Simulates (SameReads False) (loadImage B.card.known imagePartition : Drv (Board B) Unit)
      (loadImage B.card.known imagePartition) :=
  readLockstep_alongside.loadImage (readAccess_alongside hb) imagePartition

end Commands

end RpiBld
