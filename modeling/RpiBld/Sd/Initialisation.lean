/-
RpiBld/Sd/Initialisation.lean

The initialisation protocol of `sd_init_card`, for every behaviour of card and
controller.

`initCommands tries rca wide` is the protocol as a script: what a complete
initialisation says when the card took `tries` init ACMD41s to power up,
published the address `rca`, and supports a 4-bit bus or not.  The code is
shown to follow it: step by step for the `sd_issue_cmd*` functions, each of
which says its own part of the script or breaks off in it, and then along
`sd_card_init_and_identify` and `sd_init_card`, where the parts are put
together by the rules for scripts.

Everything before the first command is `Quiet`: clocks, resets and the mailbox
say nothing to the card.
-/
import Mathlib.Data.List.Forall2
import RpiBld.Sd.Talk
import RpiBld.Sd.Quiet

namespace RpiBld

open Traced

/-! ### The script -/

/-- The ACMD41 part: the inquiry, and then the tries. -/
def acmd41Commands (tries : Nat) : List (Word × Word) :=
  CmdIndex.sdSendOpCond.sayApp 0 0 ++
    (List.replicate tries (CmdIndex.sdSendOpCond.sayApp acmd41InitArgs 0)).flatten

/-- Up to the card's address. -/
def identifyCommands (tries : Nat) : List (Word × Word) :=
  [CmdIndex.goIdleState.say 0, CmdIndex.sendIfCond.say cmd8Args] ++ acmd41Commands tries ++
    [CmdIndex.allSendCid.say 0, CmdIndex.sendRelativeAddr.say 0]

/-- From the card's address on. -/
def transferCommands (rca : Int) (wide : Bool) : List (Word × Word) :=
  [CmdIndex.selectCard.say (acRcaArgs rca), CmdIndex.sendStatus.say (acRcaArgs rca)] ++
    CmdIndex.sdSendScr.sayApp 0 rca ++
    if wide then CmdIndex.setBusWidth.sayApp 2 rca else []

/-- The initialisation protocol. -/
def initCommands (tries : Nat) (rca : Int) (wide : Bool) : List (Word × Word) :=
  identifyCommands tries ++ transferCommands rca wide

/-- The address in a CMD3 response: its bits 31:16. -/
def Exchange.rca (x : Exchange) : Int := ((x.response.extractLsb' 16 16).toNat : Int)

/-- The SCR word an ACMD51 delivered, byte-swapped. -/
def Exchange.scr (x : Exchange) : Word := bswap32 x.firstData

/-- The commands of a script. -/
def Issues (script : List (Word × Word)) (idxs : List CmdIndex) : Prop :=
  ∀ l ∈ script, ∃ idx ∈ idxs, l.1 = idx.cmdtm

/-- In a conversation that follows a script only the script's commands occur. -/
theorem Issues.mem {script : List (Word × Word)} {idxs : List CmdIndex} {xs : List Exchange}
    {x : Exchange} {idx : CmdIndex} (h : Issues script idxs) (hxs : BrokenOff script xs)
    (hx : x ∈ xs) (hcmd : x.cmdtm = idx.cmdtm) : idx ∈ idxs := by
  obtain ⟨idx', hmem, hl⟩ := h _ (hxs.label_mem hx)
  obtain rfl := CmdIndex.cmdtm_injective (hcmd.symm.trans hl)
  exact hmem

theorem Issues.say (idx : CmdIndex) (arg : Word) : Issues [idx.say arg] [idx] := by
  simp [Issues, CmdIndex.say]

theorem Issues.sayApp (idx : CmdIndex) (arg : Word) (rca : Int) :
    Issues (idx.sayApp arg rca) [.appCmd, idx] := by
  simp [Issues, CmdIndex.sayApp, CmdIndex.say]

theorem Issues.append {script script' : List (Word × Word)} {idxs : List CmdIndex}
    (h : Issues script idxs) (h' : Issues script' idxs) : Issues (script ++ script') idxs := by
  intro l hl
  rcases List.mem_append.mp hl with hl | hl
  · exact h l hl
  · exact h' l hl

theorem Issues.mono {script : List (Word × Word)} {idxs idxs' : List CmdIndex}
    (h : Issues script idxs) (hsub : idxs ⊆ idxs') : Issues script idxs' := by
  intro l hl
  obtain ⟨idx, hidx, hcmd⟩ := h l hl
  exact ⟨idx, hsub hidx, hcmd⟩

theorem acmd41Commands_issues (tries : Nat) :
    Issues (acmd41Commands tries) [.appCmd, .sdSendOpCond] := by
  apply (Issues.sayApp _ _ _).append
  intro l hl
  obtain ⟨ls, hls, hl⟩ := List.mem_flatten.mp hl
  obtain rfl := List.eq_of_mem_replicate hls
  exact Issues.sayApp _ _ _ l hl

/-! ### Outcomes -/

/-- How a function that has `script` to say to the card leaves the conversation. -/
structure Outcome (script : List (Word × Word)) (good : Prop) (xs : List Exchange) : Prop where
  untouched : HostUntouched xs
  broken : BrokenOff script xs
  followed : good → Followed script xs

/-- The script was carried out so far. -/
structure Progress (script : List (Word × Word)) (xs : List Exchange) : Prop where
  untouched : HostUntouched xs
  followed : Followed script xs

section Outcome

variable {script script' full : List (Word × Word)} {good good' : Prop}
variable {xs ys : List Exchange} {idx : CmdIndex} {args : Word}

theorem HostUntouched.nil : HostUntouched [] := fun x hx => by cases hx

theorem HostUntouched.one {x : Exchange} (h : control0Writes x.answers = []) :
    HostUntouched [x] := by
  intro y hy
  rw [List.mem_singleton.mp hy]
  exact h

theorem Progress.nil : Progress [] [] := ⟨HostUntouched.nil, Complete.nil⟩

theorem Progress.step (h : Progress script xs) (h' : Outcome script' good ys) (hgood : good) :
    Progress (script ++ script') (xs ++ ys) :=
  ⟨h.untouched.append h'.untouched, h.followed.append (h'.followed hgood)⟩

theorem Progress.outcome (h : Progress script xs) : Outcome script good xs :=
  ⟨h.untouched, h.followed.toPartial, fun _ => h.followed⟩

/-- The conversation ends within a script of which a beginning was carried out. -/
theorem Progress.exit (h : Progress script xs) (h' : Outcome script' good ys) (hbad : ¬ good')
    (hfull : script ++ script' <+: full) : Outcome full good' (xs ++ ys) := by
  obtain ⟨rest, rfl⟩ := hfull
  exact ⟨h.untouched.append h'.untouched, (h.followed.followedBy h'.broken).extend rest,
    fun hg => absurd hg hbad⟩

theorem Unanswered.outcome (h : Unanswered idx args xs) (hbad : ¬ good) :
    Outcome [idx.say args] good xs :=
  ⟨h.hostUntouched, h.brokenOff, fun hg => absurd hg hbad⟩

theorem AcmdFailed.outcome {rca : Int} (h : AcmdFailed idx args rca xs) (hbad : ¬ good) :
    Outcome (idx.sayApp args rca) good xs :=
  ⟨h.hostUntouched, h.brokenOff, fun hg => absurd hg hbad⟩

/-- One exchange. -/
theorem Outcome.one {x : Exchange} {l : Word × Word} (hl : x.label = l)
    (hctl : control0Writes x.answers = []) (hs : good → Succeeded x) : Outcome [l] good [x] :=
  ⟨HostUntouched.one hctl, BrokenOff.one hl, fun hg => Followed.one hl (hs hg)⟩

/-- The two exchanges of an application command. -/
theorem Outcome.app {x55 x : Exchange} {rca : Int}
    (h55 : x55.label = CmdIndex.appCmd.say (acRcaArgs rca)) (hs55 : Succeeded x55)
    (hctl55 : control0Writes x55.answers = []) (hl : x.label = idx.say args)
    (hctl : control0Writes x.answers = []) (hs : good → Succeeded x) :
    Outcome (idx.sayApp args rca) good [x55, x] :=
  ⟨(HostUntouched.one hctl55).append (HostUntouched.one hctl),
    (Followed.one h55 hs55).followedBy (BrokenOff.one hl),
    fun hg => (Followed.one h55 hs55).append (Followed.one hl (hs hg))⟩

end Outcome

/-! ### The commands -/

section Driver

variable {σ : Type} [Device σ]

/-- Commands whose response is not looked into. -/
theorem sdIssueCmd_talk (idx : CmdIndex) (args : Word)
    (hmasks : idx.awaited = [interruptCmdComplete]) (hcontents : ∀ resp, ContentsOk idx args resp) :
    Talk [] (sdIssueCmd idx.code args : Drv σ CmdError) fun ys r =>
      Outcome [idx.say args] (r = .ok .none) ys := by
  apply Talk.issue.mono
  rintro ys r (⟨as, rfl, hans, hplain, hr⟩ | ⟨zs, rfl, hun, hr, -⟩)
  · exact Outcome.one rfl hplain.control0 fun _ => hans.succeeded_self hmasks hcontents
  · exact hun.outcome hr

theorem sdIssueCmd8_talk :
    Talk [] (sdIssueCmd8 : Drv σ CmdError) fun ys r =>
      Outcome [CmdIndex.sendIfCond.say cmd8Args] (r = .ok .none) ys := by
  apply Talk.issue_bind
  · intro as hans hplain
    rw [if_pos rfl]
    apply Talk.resp_bind
    intro resp
    have hctl := (hplain.hear_resp resp).control0
    apply Talk.ite
    · intro _
      apply Talk.log_bind
      exact Talk.pure (Outcome.one rfl hctl (by simp))
    · intro hresp
      apply Talk.pure
      refine Outcome.one rfl hctl fun _ => hans.succeeded rfl .nil ?_
      simpa [ContentsOk, Exchange.response, eq_comm] using hresp
  · intro zs e hun he _
    rw [if_neg he]
    exact Talk.pure (hun.outcome (by simpa using he))
  · intro zs e hun
    exact hun.outcome (by simp)

theorem sdIssueCmd3_talk (rcaOut : Int) :
    Talk [] (sdIssueCmd3 rcaOut : Drv σ (CmdError × Int)) fun ys r =>
      Outcome [CmdIndex.sendRelativeAddr.say 0] (∃ rca, r = .ok (.none, rca)) ys ∧
        ∀ rca, r = .ok (.none, rca) → ∀ y ∈ ys, rca = y.rca := by
  apply Talk.issue_bind
  · intro as hans hplain
    rw [if_pos rfl]
    apply Talk.resp_bind
    intro resp
    have hctl := (hplain.hear_resp resp).control0
    apply Talk.ite
    · intro _
      apply Talk.log_bind
      exact Talk.pure ⟨Outcome.one rfl hctl (by simp), by simp⟩
    · intro hresp
      apply Talk.pure
      constructor
      · refine Outcome.one rfl hctl fun _ => hans.succeeded rfl .nil ?_
        simpa [ContentsOk, Exchange.response] using hresp
      · rintro rca hrca y hy
        cases hrca
        rw [List.nil_append, List.mem_singleton] at hy
        simp [hy, Exchange.rca, Exchange.response, Exchange.hear]
  · intro zs e hun he _
    rw [if_neg he]
    exact Talk.pure ⟨hun.outcome (by simp [he]), by simp [he]⟩
  · intro zs e hun
    exact ⟨hun.outcome (by simp), by simp⟩

theorem sdIssueCmd13_talk (rca : Int) (csOut : Word) :
    Talk [] (sdIssueCmd13 rca csOut : Drv σ (CmdError × Word)) fun ys r =>
      Outcome [CmdIndex.sendStatus.say (acRcaArgs rca)]
          (∃ cs, r = .ok (.none, cs) ∧ CardStatus.currentState cs = cardStateTransfer) ys ∧
        ∀ cs, r = .ok (.none, cs) → ∀ y ∈ ys, y.response = cs := by
  apply Talk.issue_bind
  · intro as hans hplain
    rw [if_pos rfl]
    apply Talk.resp_bind
    intro cs
    have hctl := (hplain.hear_resp cs).control0
    apply Talk.pure
    constructor
    · refine Outcome.one rfl hctl ?_
      rintro ⟨cs', hcs, hstate⟩
      cases hcs
      apply hans.succeeded rfl .nil
      simpa [ContentsOk, Exchange.response] using hstate
    · rintro cs' hcs y hy
      cases hcs
      rw [List.nil_append, List.mem_singleton] at hy
      simp [hy, Exchange.response, Exchange.hear]
  · intro zs e hun he _
    rw [if_neg he]
    exact Talk.pure ⟨hun.outcome (by simp [he]), by simp [he]⟩
  · intro zs e hun
    exact ⟨hun.outcome (by simp), by simp⟩

/-- ACMD51 waits for its data as well, and keeps the first word of it. -/
theorem sdIssueAcmd51_talk (rca : Int) :
    Talk [] (sdIssueAcmd51 rca : Drv σ (CmdError × Word)) fun ys r =>
      Outcome (CmdIndex.sdSendScr.sayApp 0 rca) (∃ scr, r = .ok (.none, scr)) ys ∧
        ∀ scr, r = .ok (.none, scr) → ∀ y ∈ ys, y.cmdtm = CmdIndex.sdSendScr.cmdtm →
          scr = y.scr := by
  apply Talk.set_bind (quiet_set rfl _)
  apply Talk.acmd_bind
  · intro x55 as h55 hs55 hctl55 hans hplain
    -- wherever the function stops, the last exchange has heard `bs` after its own answers
    have hstop : ∀ (bs : List Answer) (x : Exchange) (r : Except Halt (CmdError × Word)),
        x = ⟨CmdIndex.sdSendScr.cmdtm, 0, as ++ bs⟩ → control0Writes bs = [] →
        ((∃ scr, r = .ok (.none, scr)) →
          Succeeded ⟨CmdIndex.sdSendScr.cmdtm, 0, as ++ bs⟩) →
        (∀ scr, r = .ok (.none, scr) →
          scr = Exchange.scr ⟨CmdIndex.sdSendScr.cmdtm, 0, as ++ bs⟩) →
        Outcome (CmdIndex.sdSendScr.sayApp 0 rca) (∃ scr, r = .ok (.none, scr))
            ([] ++ [x55] ++ [x]) ∧
          ∀ scr, r = .ok (.none, scr) → ∀ y ∈ [] ++ [x55] ++ [x],
            y.cmdtm = CmdIndex.sdSendScr.cmdtm → scr = y.scr := by
      rintro bs x r rfl hbs hs hscr
      refine ⟨Outcome.app h55 hs55 hctl55 rfl (by simp [hplain.control0, hbs]) hs, ?_⟩
      intro scr hr y hy hcmd
      rcases List.mem_append.mp hy with hy | hy
      · obtain rfl := List.mem_singleton.mp hy
        have h55' : y.cmdtm = CmdIndex.appCmd.cmdtm := congrArg Prod.fst h55
        cases CmdIndex.cmdtm_injective (hcmd.symm.trans h55')
      · rw [List.mem_singleton.mp hy]
        exact hscr scr hr
    rw [if_neg (by simp)]
    apply Talk.wait_bind
    · intro bs fl hbs hfl hok
      rw [if_neg (by simp)]
      -- the two words of the SCR, of which only the first one is kept
      apply Talk.data_bind
      intro data
      apply Talk.data_bind
      intro data'
      apply Talk.wait_bind
      · intro ds fl' hds hfl' hok'
        apply Talk.pure
        apply hstop (bs ++ [.data data, .data data'] ++ ds) _ _ (by simp [Exchange.hear])
        · simp [hbs.plain.control0, hds.plain.control0]
        · intro _
          apply hans.succeeded rfl
          · simp only [flags_append, hfl, hfl', flags_cons, flags_nil, Answer.flag?,
              Option.toList_none, List.append_nil]
            exact .cons hok (.cons hok' .nil)
          · trivial
        · rintro scr ⟨⟩
          simp [Exchange.scr, Exchange.firstData, hplain.data, hbs.plain.data]
      · intro ds e hds he
        apply Talk.pure
        apply hstop (bs ++ [.data data, .data data'] ++ ds) _ _ (by simp [Exchange.hear])
        · simp [hbs.plain.control0, hds.plain.control0]
        · simp [he]
        · simp [he]
      · intro ds e hds
        apply hstop (bs ++ [.data data, .data data'] ++ ds) _ _ (by simp [Exchange.hear])
        · simp [hbs.plain.control0, hds.plain.control0]
        · simp
        · simp
    · intro bs e hbs he
      rw [if_pos he]
      exact Talk.pure (hstop bs _ _ rfl hbs.plain.control0 (by simp [he]) (by simp [he]))
    · intro bs e hbs
      exact hstop bs _ _ rfl hbs.plain.control0 (by simp) (by simp)
  · intro zs e hfail he
    rw [if_pos he]
    exact Talk.pure ⟨hfail.outcome (by simp [he]), by simp [he]⟩
  · intro zs e hfail
    exact ⟨hfail.outcome (by simp), by simp⟩

/-- The tries of ACMD41. -/
def retryCommands (tries : Nat) : List (Word × Word) :=
  (List.replicate tries (CmdIndex.sdSendOpCond.sayApp acmd41InitArgs 0)).flatten

theorem retryCommands_succ (tries : Nat) :
    retryCommands (tries + 1) =
      CmdIndex.sdSendOpCond.sayApp acmd41InitArgs 0 ++ retryCommands tries := by
  rw [retryCommands, List.replicate_succ, List.flatten_cons]
  rfl

theorem retryCommands_one : retryCommands 1 = CmdIndex.sdSendOpCond.sayApp acmd41InitArgs 0 :=
  List.append_nil _

/-- The conversation ends with an ACMD41 whose response says that the card has powered
up, and what its capacity is. -/
def PoweredUp (ys : List Exchange) (ccs : Bool) : Prop :=
  ∃ zs x, ys = zs ++ [x] ∧ x.cmdtm = CmdIndex.sdSendOpCond.cmdtm ∧
    x.response.getLsbD 31 = true ∧ ccs = x.response.getLsbD 30

/-- What the retry loop leaves, by induction on the rounds it may still make. -/
theorem sdAcmd41Retry_talk (ts : Word) (out : Bool) (i n : Nat) :
    Talk [] (sdAcmd41Retry ts out i n : Drv σ (CmdError × Bool)) fun ys r =>
      ∃ tries, 1 ≤ tries ∧ Outcome (retryCommands tries) (∃ ccs, r = .ok (.none, ccs)) ys ∧
        ∀ ccs, r = .ok (.none, ccs) → PoweredUp ys ccs := by
  induction n generalizing i with
  | zero =>
    apply Talk.halt
    exact ⟨1, le_refl 1, ⟨HostUntouched.nil, Partial.nil, by simp⟩, by simp⟩
  | succ n ih =>
    have hpause : Program.Emits Quiet (sdAcmd41Pause i : Drv σ Unit) :=
      Program.Emits.ite (Program.Emits.change _) (Program.Emits.pure _)
    refine Talk.quiet_bind hpause (fun _ => ?_) fun e => ?_
    · apply Talk.acmd_bind
      · intro x55 as h55 hs55 hctl55 hans hplain
        rw [if_neg (by simp)]
        apply Talk.resp_bind
        intro ocr
        have hctl := (hplain.hear_resp ocr).control0
        have hs : Succeeded ⟨CmdIndex.sdSendOpCond.cmdtm, acmd41InitArgs, as ++ [.resp ocr]⟩ :=
          hans.succeeded rfl .nil trivial
        have hone : ∀ good, Outcome (CmdIndex.sdSendOpCond.sayApp acmd41InitArgs 0) good
            [x55, ⟨CmdIndex.sdSendOpCond.cmdtm, acmd41InitArgs, as ++ [.resp ocr]⟩] :=
          fun good => Outcome.app h55 hs55 hctl55 rfl hctl fun _ => hs
        apply Talk.ite
        · -- the card has powered up
          intro hpower
          rw [sdAcmd41Finish, if_pos hpower]
          apply Talk.pure
          refine ⟨1, le_refl 1, retryCommands_one ▸ hone _, ?_⟩
          rintro ccs ⟨⟩
          refine ⟨[x55], _, rfl, rfl, ?_, ?_⟩
          · have h31 := (not_congr (and_bit_eq_zero_iff ocr (show 31 < 32 by decide))).mp hpower
            simpa [Exchange.response, Exchange.hear] using h31
          · rw [Bool.eq_iff_iff, bne_iff_ne, Ne, ocrCardCapacityStatus,
              and_bit_eq_zero_iff ocr (by decide)]
            simp [Exchange.response, Exchange.hear]
        · intro hpower
          apply Talk.change_bind
          intro done
          apply Talk.ite
          · -- the time is over
            intro _
            rw [sdAcmd41Finish, if_neg hpower]
            apply Talk.log_bind
            apply Talk.pure
            exact ⟨1, le_refl 1, retryCommands_one ▸ hone _, by simp⟩
          · -- one more try
            intro _
            apply (ih (i + 1)).frame.mono
            rintro ys r ⟨zs, rfl, tries, htries, hzs, hccs⟩
            refine ⟨tries + 1, by omega, ?_, ?_⟩
            · rw [retryCommands_succ]
              exact ⟨(hone True).untouched.append hzs.untouched,
                ((hone True).followed trivial).followedBy hzs.broken,
                fun hg => ((hone True).followed trivial).append (hzs.followed hg)⟩
            · intro ccs hr
              obtain ⟨zs', x, rfl, hx⟩ := hccs ccs hr
              exact ⟨_, x, (List.append_assoc _ _ _).symm, hx⟩
      · intro zs e hfail he
        rw [if_pos he]
        apply Talk.pure
        exact ⟨1, le_refl 1, retryCommands_one ▸ hfail.outcome (by simp [he]),
          by simp [he]⟩
      · intro zs e hfail
        exact ⟨1, le_refl 1, retryCommands_one ▸ hfail.outcome (by simp), by simp⟩
    · exact ⟨1, le_refl 1, ⟨HostUntouched.nil, Partial.nil, by simp⟩, by simp⟩

/-- `sd_issue_acmd41`: the inquiry, and at least one try. -/
theorem sdIssueAcmd41_talk (out : Bool) :
    Talk [] (sdIssueAcmd41 out : Drv σ (CmdError × Bool)) fun ys r =>
      ∃ tries, 1 ≤ tries ∧ Outcome (acmd41Commands tries) (∃ ccs, r = .ok (.none, ccs)) ys ∧
        ∀ ccs, r = .ok (.none, ccs) → PoweredUp ys ccs := by
  apply Talk.acmd_bind
  · intro x55 as h55 hs55 hctl55 hans hplain
    rw [if_neg (by simp)]
    apply Talk.resp_bind
    intro ocr
    have hinquiry : Progress (CmdIndex.sdSendOpCond.sayApp 0 0)
        [x55, ⟨CmdIndex.sdSendOpCond.cmdtm, 0, as ++ [.resp ocr]⟩] := by
      have hone : Outcome (CmdIndex.sdSendOpCond.sayApp 0 0) True
          [x55, ⟨CmdIndex.sdSendOpCond.cmdtm, 0, as ++ [.resp ocr]⟩] :=
        Outcome.app h55 hs55 hctl55 rfl (hplain.hear_resp ocr).control0
          fun _ => hans.succeeded rfl .nil trivial
      exact ⟨hone.untouched, hone.followed trivial⟩
    apply Talk.ite
    · intro _
      apply Talk.log_bind
      apply Talk.pure
      refine ⟨1, le_refl 1, ?_, by simp⟩
      exact ⟨hinquiry.untouched, hinquiry.followed.toPartial.extend _, by simp⟩
    · intro _
      apply Talk.change_bind
      intro ts
      apply Talk.view_bind
      intro polls
      apply (sdAcmd41Retry_talk ts out 0 polls).frame.mono
      rintro ys r ⟨zs, rfl, tries, htries, hzs, hccs⟩
      refine ⟨tries, htries, ?_, ?_⟩
      · exact ⟨hinquiry.untouched.append hzs.untouched, hinquiry.followed.followedBy hzs.broken,
          fun hg => hinquiry.followed.append (hzs.followed hg)⟩
      · intro ccs hr
        obtain ⟨zs', x, rfl, hx⟩ := hccs ccs hr
        exact ⟨_, x, (List.append_assoc _ _ _).symm, hx⟩
  · intro zs e hfail he
    rw [if_pos he]
    apply Talk.pure
    have ho : Outcome _ False zs := hfail.outcome id
    exact ⟨1, le_refl 1, ⟨ho.untouched, ho.broken.extend _, by simp [he]⟩, by simp [he]⟩
  · intro zs e hfail
    have ho : Outcome _ False zs := hfail.outcome id
    exact ⟨1, le_refl 1, ⟨ho.untouched, ho.broken.extend _, by simp⟩, by simp⟩

/-- The host's bus width follows the card's: it is set exactly if ACMD6 succeeded. -/
def WidthAgrees (ys : List Exchange) : Prop :=
  (∃ y ∈ ys, ∃ old new, (old, new) ∈ control0Writes y.answers ∧ new.getLsbD 1 = true) ↔
    ∃ y ∈ ys, y.cmdtm = CmdIndex.setBusWidth.cmdtm ∧ Succeeded y

theorem WidthAgrees.of_untouched {ys : List Exchange} (h : HostUntouched ys)
    (hnot : ∀ y ∈ ys, y.cmdtm = CmdIndex.setBusWidth.cmdtm → ¬ Succeeded y) : WidthAgrees ys := by
  constructor
  · rintro ⟨y, hy, old, new, hmem, -⟩
    rw [h y hy] at hmem
    cases hmem
  · rintro ⟨y, hy, hcmd, hs⟩
    exact absurd hs (hnot y hy hcmd)

theorem AcmdFailed.widthAgrees {args : Word} {rca : Int} {ys : List Exchange}
    (h : AcmdFailed .setBusWidth args rca ys) : WidthAgrees ys := by
  apply WidthAgrees.of_untouched h.hostUntouched
  intro y hy hcmd
  have happ : ∀ {z : Exchange}, z.label = CmdIndex.appCmd.say (acRcaArgs rca) →
      z.cmdtm = CmdIndex.setBusWidth.cmdtm → False := by
    intro z hz hcmd
    have hz' : z.cmdtm = CmdIndex.appCmd.cmdtm := congrArg Prod.fst hz
    cases CmdIndex.cmdtm_injective (hcmd.symm.trans hz')
  cases h with
  | early hbroken _ => exact (happ (List.mem_singleton.mp (hbroken.label_mem hy)) hcmd).elim
  | late h55 _ _ _ hun =>
    rcases List.mem_pair.mp hy with rfl | rfl
    · exact (happ h55 hcmd).elim
    · intro hs
      obtain ⟨-, hflags, hstatus, -⟩ := hs.as rfl
      apply hun
      refine ⟨?_, hstatus⟩
      obtain ⟨f, rest, hok, hnil, hfl⟩ := List.forall₂_cons_left_iff.mp hflags
      cases hnil
      exact ⟨f, hfl, hok⟩

/-- `sd_set_4bit_data_bus_width`. -/
theorem sdSet4bitDataBusWidth_talk (rca : Int) :
    Talk [] (sdSet4bitDataBusWidth rca : Drv σ SdInitError) fun ys r =>
      BrokenOff (CmdIndex.setBusWidth.sayApp 2 rca) ys ∧ WidthAgrees ys ∧
        (r = .ok .none → Followed (CmdIndex.setBusWidth.sayApp 2 rca) ys) := by
  apply Talk.access_bind (quiet_get rfl)
  intro prevIrptMask
  refine Talk.quiet_bind (registerDisableBits_quiet rfl _) (fun _ => ?_) fun e => ?_
  · apply Talk.acmd_bind
    · intro x55 as h55 hs55 hctl55 hans hplain
      rw [sdWidenHost, if_pos rfl]
      apply Talk.control0_bind
      intro v
      apply Talk.set_bind (quiet_set rfl _)
      apply Talk.pure
      have hs : Succeeded ⟨CmdIndex.setBusWidth.cmdtm, acmd6Args true,
          as ++ [.control0 v (v ||| control0DataTransferWidth)]⟩ :=
        hans.succeeded rfl .nil trivial
      have hfollowed : Followed (CmdIndex.setBusWidth.sayApp 2 rca) [x55, ⟨_, _, _⟩] :=
        (Followed.one h55 hs55).append (Followed.one rfl hs)
      refine ⟨hfollowed.toPartial, ?_, fun _ => hfollowed⟩
      apply iff_of_true
      · refine ⟨_, List.mem_concat_self, v, v ||| control0DataTransferWidth, ?_, ?_⟩
        · simp [Exchange.hear]
        · simp [control0DataTransferWidth, bit]
      · exact ⟨_, List.mem_concat_self, rfl, hs⟩
    · intro zs e hfail he
      rw [sdWidenHost, if_neg he, pure_bind]
      apply Talk.set_bind (quiet_set rfl _)
      apply Talk.pure
      exact ⟨hfail.brokenOff, hfail.widthAgrees, by simp [he]⟩
    · intro zs e hfail
      exact ⟨hfail.brokenOff, hfail.widthAgrees, by simp⟩
  · exact ⟨Partial.nil, WidthAgrees.of_untouched HostUntouched.nil (by simp), by simp⟩

/-! ### Card initialisation and identification -/

/-- What is known of the card once it has been identified. -/
structure Identified (card : Card) (xs : List Exchange) : Prop where
  rca : ∀ x ∈ xs, x.cmdtm = CmdIndex.sendRelativeAddr.cmdtm → card.rca = x.rca
  capacity : ∃ zs x zs', xs = zs ++ [x] ++ zs' ∧ x.cmdtm = CmdIndex.sdSendOpCond.cmdtm ∧
    (∀ z ∈ zs', z.cmdtm ≠ CmdIndex.sdSendOpCond.cmdtm) ∧
    x.response.getLsbD 31 = true ∧ card.sdhcOrSdxc = x.response.getLsbD 30

/-- The parts of an identification say what the card is: its ACMD41s the capacity, and CMD3
the address. -/
theorem Identified.of_parts {card : Card} {tries : Nat} {zs0 zs8 zs41 zs2 zs3 : List Exchange}
    (h0 : BrokenOff [CmdIndex.goIdleState.say 0] zs0)
    (h8 : BrokenOff [CmdIndex.sendIfCond.say cmd8Args] zs8)
    (h41 : BrokenOff (acmd41Commands tries) zs41)
    (h2 : BrokenOff [CmdIndex.allSendCid.say 0] zs2)
    (h3 : BrokenOff [CmdIndex.sendRelativeAddr.say 0] zs3)
    (hpower : PoweredUp zs41 card.sdhcOrSdxc) (hrca : ∀ y ∈ zs3, card.rca = y.rca) :
    Identified card ([] ++ zs0 ++ zs8 ++ zs41 ++ zs2 ++ zs3) where
  rca := by
    intro x hx hcmd
    simp only [List.mem_append] at hx
    rcases hx with ((((hx | hx) | hx) | hx) | hx) | hx
    · cases hx
    · cases List.mem_singleton.mp ((Issues.say _ _).mem h0 hx hcmd)
    · cases List.mem_singleton.mp ((Issues.say _ _).mem h8 hx hcmd)
    · have hmem := (acmd41Commands_issues tries).mem h41 hx hcmd
      simp at hmem
    · cases List.mem_singleton.mp ((Issues.say _ _).mem h2 hx hcmd)
    · exact hrca x hx
  capacity := by
    obtain ⟨zs, x, rfl, hcmd, h31, hccs⟩ := hpower
    refine ⟨[] ++ zs0 ++ zs8 ++ zs, x, zs2 ++ zs3, by simp, hcmd, ?_, h31, hccs⟩
    intro z hz hcmd'
    rcases List.mem_append.mp hz with hz | hz
    · cases List.mem_singleton.mp ((Issues.say _ _).mem h2 hz hcmd')
    · cases List.mem_singleton.mp ((Issues.say _ _).mem h3 hz hcmd')

/-- How `sd_card_init_and_identify` leaves the conversation. -/
def IdentifyTalk (r : Except Halt (SdInitError × Card)) (ys : List Exchange) : Prop :=
  ∃ tries, 1 ≤ tries ∧ Outcome (identifyCommands tries) (∃ card', r = .ok (.none, card')) ys ∧
    ∀ card', r = .ok (.none, card') → Identified card' ys

/-- The identification is left in the middle of a part of the script, with an error or for
good. -/
theorem Progress.identifyTalk {script script' : List (Word × Word)} {xs zs : List Exchange}
    {good : Prop} {tries : Nat} {r : Except Halt (SdInitError × Card)} (hxs : Progress script xs)
    (hzs : Outcome script' good zs) (htries : 1 ≤ tries)
    (hfull : script ++ script' <+: identifyCommands tries) (hr : ∀ card', r ≠ .ok (.none, card')) :
    IdentifyTalk r (xs ++ zs) := by
  refine ⟨tries, htries, hxs.exit hzs ?_ hfull, fun card' h => absurd h (hr card')⟩
  rintro ⟨card', h⟩
  exact hr card' h

/-- `sd_card_init_and_identify`. -/
theorem sdCardInitAndIdentify_talk (card : Card) :
    Talk [] (sdCardInitAndIdentify card : Drv σ (SdInitError × Card)) fun ys r =>
      IdentifyTalk r ys := by
  have hcmd0 := sdIssueCmd_talk (σ := σ) .goIdleState 0 rfl fun _ => trivial
  have hcmd2 := sdIssueCmd_talk (σ := σ) .allSendCid 0 rfl fun _ => trivial
  -- CMD0
  apply hcmd0.frame_bind
  · intro zs e ho
    exact Progress.nil.identifyTalk ho (le_refl 1) ⟨_, rfl⟩ (by simp)
  intro zs0 error ho0
  apply Talk.guarded
  · intro _
    exact Progress.nil.identifyTalk ho0 (le_refl 1) ⟨_, rfl⟩ (by simp)
  intro he
  subst he
  have hp0 := Progress.nil.step ho0 rfl
  -- CMD8
  apply sdIssueCmd8_talk.frame_bind
  · intro zs e ho
    exact hp0.identifyTalk ho (le_refl 1) ⟨_, rfl⟩ (by simp)
  intro zs8 error ho8
  apply Talk.ite
  · intro _
    exact Talk.pure (hp0.identifyTalk ho8 (le_refl 1) ⟨_, rfl⟩ (by simp))
  intro _
  apply Talk.guarded
  · intro _
    exact hp0.identifyTalk ho8 (le_refl 1) ⟨_, rfl⟩ (by simp)
  intro he
  subst he
  have hp8 := hp0.step ho8 rfl
  -- ACMD41, with its tries
  apply (sdIssueAcmd41_talk false).frame_bind
  · rintro zs e ⟨tries, htries, ho, -⟩
    exact hp8.identifyTalk ho htries ⟨_, rfl⟩ (by simp)
  rintro zs41 ⟨error, ccs⟩ ⟨tries, htries, ho41, hpower⟩
  apply Talk.ite
  · intro _
    exact Talk.pure (hp8.identifyTalk ho41 htries ⟨_, rfl⟩ (by simp))
  intro _
  apply Talk.guarded
  · intro _
    exact hp8.identifyTalk ho41 htries ⟨_, rfl⟩ (by simp)
  intro he
  subst he
  have hp41 := hp8.step ho41 ⟨ccs, rfl⟩
  -- CMD2
  apply hcmd2.frame_bind
  · intro zs e ho
    exact hp41.identifyTalk ho htries ⟨_, List.append_assoc _ _ _⟩ (by simp)
  intro zs2 error ho2
  apply Talk.guarded
  · intro _
    exact hp41.identifyTalk ho2 htries ⟨_, List.append_assoc _ _ _⟩ (by simp)
  intro he
  subst he
  have hp2 := hp41.step ho2 rfl
  -- CMD3
  have hfull : ([] ++ [CmdIndex.goIdleState.say 0] ++ [CmdIndex.sendIfCond.say cmd8Args] ++
      acmd41Commands tries ++ [CmdIndex.allSendCid.say 0]) ++ [CmdIndex.sendRelativeAddr.say 0] =
      identifyCommands tries := List.append_assoc _ _ _
  apply (sdIssueCmd3_talk _).frame_bind
  · rintro zs e ⟨ho, -⟩
    exact hp2.identifyTalk ho htries (hfull ▸ List.prefix_rfl) (by simp)
  rintro zs3 ⟨error, rca⟩ ⟨ho3, hrca⟩
  apply Talk.guarded
  · intro _
    exact hp2.identifyTalk ho3 htries (hfull ▸ List.prefix_rfl) (by simp)
  intro he
  subst he
  have hp3 := hp2.step ho3 ⟨rca, rfl⟩
  rw [hfull] at hp3
  apply Talk.pure
  refine ⟨tries, htries, hp3.outcome, ?_⟩
  rintro _ ⟨⟩
  exact Identified.of_parts ho0.broken ho8.broken ho41.broken ho2.broken ho3.broken
    (hpower ccs rfl) (hrca rca rfl)

/-! ### The rest of `sd_init_card` -/

/-- The part of `transferCommands` that does not depend on the card's bus widths. -/
def scrCommands (rca : Int) : List (Word × Word) :=
  [CmdIndex.selectCard.say (acRcaArgs rca), CmdIndex.sendStatus.say (acRcaArgs rca)] ++
    CmdIndex.sdSendScr.sayApp 0 rca

theorem scrCommands_issues (rca : Int) :
    Issues (scrCommands rca) [.selectCard, .sendStatus, .appCmd, .sdSendScr] := by
  simp [Issues, scrCommands, CmdIndex.sayApp, CmdIndex.say]

/-- What the card has become once it is in the transfer state. -/
structure Transferred (card card' : Card) (wide : Bool) (xs : List Exchange) : Prop where
  state : card'.state = .transfer
  rca : card'.rca = card.rca
  capacity : card'.sdhcOrSdxc = card.sdhcOrSdxc
  reported : ∀ x ∈ xs, x.cmdtm = CmdIndex.sendStatus.cmdtm →
    CardStatus.currentState x.response = cardStateTransfer
  scr : ∀ x ∈ xs, x.cmdtm = CmdIndex.sdSendScr.cmdtm →
    wide = x.scr.getLsbD 18 ∧ card'.cmd23Supported = x.scr.getLsbD 1

theorem fourBit_eq (scr : Word) : Scr.fourBit scr = scr.getLsbD 18 := by
  unfold Scr.fourBit Scr.busWidths
  rw [Bool.eq_iff_iff, bne_iff_ne, Ne, and_bit_eq_zero_iff _ (by decide)]
  simp

/-- The conversation of `sdInitCardTransfer`. -/
structure TransferTalk (card : Card) (r : Except Halt (SdInitError × Card)) (wide : Bool)
    (ys : List Exchange) : Prop where
  broken : BrokenOff (transferCommands card.rca wide) ys
  width : WidthAgrees ys
  asked : ∀ x ∈ ys.dropLast, x.cmdtm = CmdIndex.sdSendScr.cmdtm → wide = x.scr.getLsbD 18
  done : ∀ card', r = .ok (.none, card') →
    Followed (transferCommands card.rca wide) ys ∧ Transferred card card' wide ys

theorem WidthAgrees.append {xs ys : List Exchange} (hxs : HostUntouched xs)
    (hnot : ∀ x ∈ xs, x.cmdtm ≠ CmdIndex.setBusWidth.cmdtm) (h : WidthAgrees ys) :
    WidthAgrees (xs ++ ys) := by
  constructor
  · rintro ⟨y, hy, old, new, hmem, hbit⟩
    rcases List.mem_append.mp hy with hy | hy
    · rw [hxs y hy] at hmem
      cases hmem
    · obtain ⟨z, hz, hcmd, hs⟩ := h.mp ⟨y, hy, old, new, hmem, hbit⟩
      exact ⟨z, List.mem_append_right _ hz, hcmd, hs⟩
  · rintro ⟨y, hy, hcmd, hs⟩
    rcases List.mem_append.mp hy with hy | hy
    · exact absurd hcmd (hnot y hy)
    · obtain ⟨z, hz, hwrite⟩ := h.mpr ⟨y, hy, hcmd, hs⟩
      exact ⟨z, List.mem_append_right _ hz, hwrite⟩

/-- Up to the SCR the card has not been asked about its bus width. -/
theorem scrCommands_notWidth {rca : Int} {xs : List Exchange} (h : BrokenOff (scrCommands rca) xs) :
    ∀ x ∈ xs, x.cmdtm ≠ CmdIndex.setBusWidth.cmdtm := by
  intro x hx hcmd
  have hmem := (scrCommands_issues rca).mem h hx hcmd
  simp at hmem

/-- A conversation that did not get past the SCR. -/
theorem TransferTalk.of_outcome {card : Card} {r : Except Halt (SdInitError × Card)} {good : Prop}
    {ys : List Exchange} (h : Outcome (scrCommands card.rca) good ys)
    (hr : ∀ card', r ≠ .ok (.none, card')) : TransferTalk card r false ys where
  broken := h.broken.extend _
  width := by
    apply WidthAgrees.of_untouched h.untouched
    intro y hy hcmd
    exact absurd hcmd (scrCommands_notWidth h.broken y hy)
  asked x hx hcmd := by
    have hmem := h.broken.label_mem_dropLast hx
    have hissues : Issues (scrCommands card.rca).dropLast [.selectCard, .sendStatus, .appCmd] := by
      simp [Issues, scrCommands, CmdIndex.sayApp, CmdIndex.say]
    obtain ⟨idx, hidx, hl⟩ := hissues _ hmem
    obtain rfl := CmdIndex.cmdtm_injective (hcmd.symm.trans hl)
    simp at hidx
  done card' h := absurd h (hr card')

/-- The conversation stops after a beginning of the commands up to the SCR. -/
theorem Progress.transferTalk {card : Card} {r : Except Halt (SdInitError × Card)}
    {script : List (Word × Word)} {xs : List Exchange} (hxs : Progress script xs)
    (hfull : script <+: scrCommands card.rca) (hr : ∀ card', r ≠ .ok (.none, card')) :
    ∃ wide, TransferTalk card r wide xs := by
  obtain ⟨rest, hrest⟩ := hfull
  have ho : Outcome (scrCommands card.rca) False xs :=
    ⟨hxs.untouched, hrest ▸ hxs.followed.toPartial.extend rest, False.elim⟩
  exact ⟨false, TransferTalk.of_outcome ho hr⟩

/-- The conversation breaks off in a part of the commands up to the SCR. -/
theorem Progress.transferTalk_exit {card : Card} {r : Except Halt (SdInitError × Card)}
    {script script' : List (Word × Word)} {xs zs : List Exchange} {good : Prop}
    (hxs : Progress script xs) (hzs : Outcome script' good zs)
    (hfull : script ++ script' <+: scrCommands card.rca) (hr : ∀ card', r ≠ .ok (.none, card')) :
    ∃ wide, TransferTalk card r wide (xs ++ zs) := by
  have ho : Outcome (scrCommands card.rca) False (xs ++ zs) := hxs.exit hzs id hfull
  exact ⟨false, TransferTalk.of_outcome ho hr⟩

/-- The card is in the transfer state and has delivered its SCR. -/
structure ScrKnown (rca : Int) (scr : Word) (xs : List Exchange) : Prop where
  progress : Progress (scrCommands rca) xs
  reported : ∀ x ∈ xs, x.cmdtm = CmdIndex.sendStatus.cmdtm →
    CardStatus.currentState x.response = cardStateTransfer
  scr : ∀ x ∈ xs, x.cmdtm = CmdIndex.sdSendScr.cmdtm → scr = x.scr

/-- The three parts of the commands up to the SCR say so. -/
theorem ScrKnown.of_parts {rca : Int} {cs scr : Word} {zs7 zs13 zs51 : List Exchange}
    (h7 : BrokenOff [CmdIndex.selectCard.say (acRcaArgs rca)] zs7)
    (h13 : BrokenOff [CmdIndex.sendStatus.say (acRcaArgs rca)] zs13)
    (h51 : BrokenOff (CmdIndex.sdSendScr.sayApp 0 rca) zs51)
    (hprogress : Progress (scrCommands rca) ([] ++ zs7 ++ zs13 ++ zs51))
    (hcs : ∀ y ∈ zs13, y.response = cs) (hstate : CardStatus.currentState cs = cardStateTransfer)
    (hscr : ∀ y ∈ zs51, y.cmdtm = CmdIndex.sdSendScr.cmdtm → scr = y.scr) :
    ScrKnown rca scr ([] ++ zs7 ++ zs13 ++ zs51) where
  progress := hprogress
  reported := by
    intro x hx hcmd
    simp only [List.mem_append] at hx
    rcases hx with ((hx | hx) | hx) | hx
    · cases hx
    · cases List.mem_singleton.mp ((Issues.say _ _).mem h7 hx hcmd)
    · rw [hcs x hx]
      exact hstate
    · have hmem := (Issues.sayApp _ _ _).mem h51 hx hcmd
      simp at hmem
  scr := by
    intro x hx hcmd
    simp only [List.mem_append] at hx
    rcases hx with ((hx | hx) | hx) | hx
    · cases hx
    · cases List.mem_singleton.mp ((Issues.say _ _).mem h7 hx hcmd)
    · cases List.mem_singleton.mp ((Issues.say _ _).mem h13 hx hcmd)
    · exact hscr x hx hcmd

/-- The card has a 4-bit bus, and was told to use it. -/
theorem ScrKnown.wide {card : Card} {r : Except Halt (SdInitError × Card)} {scr : Word}
    {xs zs : List Exchange} (h : ScrKnown card.rca scr xs) (hwide : Scr.fourBit scr = true)
    (hbroken : BrokenOff (CmdIndex.setBusWidth.sayApp 2 card.rca) zs) (hwidth : WidthAgrees zs)
    (hdone : ∀ card', r = .ok (.none, card') →
      Followed (CmdIndex.setBusWidth.sayApp 2 card.rca) zs ∧
        card' = { card with state := .transfer, cmd23Supported := Scr.cmd23Supported scr }) :
    TransferTalk card r true (xs ++ zs) := by
  have hnot := scrCommands_notWidth h.progress.followed.toPartial
  have hscr : ∀ x ∈ xs ++ zs, x.cmdtm = CmdIndex.sdSendScr.cmdtm → scr = x.scr := by
    intro x hx hcmd
    rcases List.mem_append.mp hx with hx | hx
    · exact h.scr x hx hcmd
    · have hmem := (Issues.sayApp _ _ _).mem hbroken hx hcmd
      simp at hmem
  rw [fourBit_eq] at hwide
  refine ⟨h.progress.followed.followedBy hbroken,
    WidthAgrees.append h.progress.untouched hnot hwidth, ?_, ?_⟩
  · intro x hx hcmd
    rw [← hscr x (List.dropLast_subset _ hx) hcmd, hwide]
  · intro card' hr
    obtain ⟨hfollowed, rfl⟩ := hdone card' hr
    refine ⟨h.progress.followed.append hfollowed, rfl, rfl, rfl, ?_, ?_⟩
    · intro x hx hcmd
      rcases List.mem_append.mp hx with hx | hx
      · exact h.reported x hx hcmd
      · have hmem := (Issues.sayApp _ _ _).mem hbroken hx hcmd
        simp at hmem
    · intro x hx hcmd
      rw [← hscr x hx hcmd, hwide]
      exact ⟨rfl, rfl⟩

/-- The card has no 4-bit bus: the SCR ends the conversation. -/
theorem ScrKnown.narrow {card : Card} {scr : Word} {xs : List Exchange}
    (h : ScrKnown card.rca scr xs) (hnarrow : Scr.fourBit scr = false) :
    TransferTalk card (.ok (.none,
      { card with state := .transfer, cmd23Supported := Scr.cmd23Supported scr })) false xs where
  broken := h.progress.followed.toPartial.extend _
  width := by
    apply WidthAgrees.of_untouched h.progress.untouched
    intro y hy hcmd
    exact absurd hcmd (scrCommands_notWidth h.progress.followed.toPartial y hy)
  asked x hx hcmd := by
    rw [← h.scr x (List.dropLast_subset _ hx) hcmd, ← fourBit_eq, hnarrow]
  done := by
    rintro card' ⟨⟩
    refine ⟨?_, rfl, rfl, rfl, h.reported, ?_⟩
    · rw [transferCommands, if_neg (by simp), List.append_nil]
      exact h.progress.followed
    · intro x hx hcmd
      rw [← h.scr x hx hcmd, ← fourBit_eq, hnarrow]
      exact ⟨rfl, rfl⟩

/-- The part of `sd_init_card` after the card was identified. -/
theorem sdInitCardTransfer_talk (card : Card) :
    Talk [] (sdInitCardTransfer card : Drv σ (SdInitError × Card)) fun ys r =>
      ∃ wide, TransferTalk card r wide ys := by
  refine Talk.quiet_bind (sdSupplyClock_quiet _) (fun _ => ?_) fun e => ?_
  swap
  · exact Progress.nil.transferTalk ⟨_, rfl⟩ (by simp)
  -- CMD7
  have hcmd7 := sdIssueCmd_talk (σ := σ) .selectCard (acRcaArgs card.rca) rfl
    fun _ => trivial
  apply hcmd7.frame_bind
  · intro zs e ho
    exact Progress.nil.transferTalk_exit ho ⟨_, rfl⟩ (by simp)
  intro zs7 error ho7
  apply Talk.guarded
  · intro _
    exact Progress.nil.transferTalk_exit ho7 ⟨_, rfl⟩ (by simp)
  intro he
  subst he
  have hp7 := Progress.nil.step ho7 rfl
  -- CMD13, and the state it reports
  apply (sdIssueCmd13_talk _ _).frame_bind
  · rintro zs e ⟨ho, -⟩
    exact hp7.transferTalk_exit ho ⟨_, rfl⟩ (by simp)
  rintro zs13 ⟨error, cs⟩ ⟨ho13, hcs⟩
  apply Talk.guarded
  · intro _
    exact hp7.transferTalk_exit ho13 ⟨_, rfl⟩ (by simp)
  intro he
  subst he
  apply Talk.ite
  · intro _
    apply Talk.log_bind
    exact Talk.pure (hp7.transferTalk_exit ho13 ⟨_, rfl⟩ (by simp))
  intro hstate
  have hstate' := not_not.mp hstate
  have hp13 := hp7.step ho13 ⟨cs, rfl, hstate'⟩
  refine Talk.quiet_bind (registerEnableBits_quiet rfl _) (fun _ => ?_) fun e => ?_
  swap
  · exact hp13.transferTalk ⟨_, rfl⟩ (by simp)
  -- ACMD51
  apply (sdIssueAcmd51_talk _).frame_bind
  · rintro zs e ⟨ho, -⟩
    exact hp13.transferTalk_exit ho ⟨[], rfl⟩ (by simp)
  rintro zs51 ⟨error, scr⟩ ⟨ho51, hscr⟩
  apply Talk.guarded
  · intro _
    exact hp13.transferTalk_exit ho51 ⟨[], rfl⟩ (by simp)
  intro he
  subst he
  have hknown : ScrKnown card.rca scr ([] ++ zs7 ++ zs13 ++ zs51) :=
    ScrKnown.of_parts ho7.broken ho13.broken ho51.broken (hp13.step ho51 ⟨scr, rfl⟩)
      (hcs cs rfl) hstate' (hscr scr rfl)
  apply Talk.ite
  · intro hwide
    -- ACMD6
    apply (sdSet4bitDataBusWidth_talk _).frame_bind
    · rintro zs e ⟨hbroken, hwidth, -⟩
      exact ⟨true, hknown.wide hwide hbroken hwidth (by simp)⟩
    rintro zs error ⟨hbroken, hwidth, hfollowed⟩
    apply Talk.guarded
    · intro he
      exact ⟨true, hknown.wide hwide hbroken hwidth (by simp [he])⟩
    intro he
    subst he
    apply Talk.log_bind
    apply Talk.pure
    refine ⟨true, hknown.wide hwide hbroken hwidth ?_⟩
    rintro card' ⟨⟩
    exact ⟨hfollowed rfl, rfl⟩
  · intro hnarrow
    apply Talk.log_bind
    apply Talk.pure
    exact ⟨false, hknown.narrow (Bool.eq_false_iff.mpr hnarrow)⟩

/-! ### `sd_init_card` -/

/-- The bookkeeping agrees with what the card was told and with what it said. -/
structure Described (card : Card) (rca : Int) (wide : Bool) (xs : List Exchange) : Prop where
  state : card.state = .transfer
  rca : card.rca = rca ∧
    ∀ x ∈ xs, x.cmdtm = CmdIndex.sendRelativeAddr.cmdtm → rca = x.rca
  capacity : ∃ zs x zs', xs = zs ++ [x] ++ zs' ∧ x.cmdtm = CmdIndex.sdSendOpCond.cmdtm ∧
    (∀ z ∈ zs', z.cmdtm ≠ CmdIndex.sdSendOpCond.cmdtm) ∧
    x.response.getLsbD 31 = true ∧ card.sdhcOrSdxc = x.response.getLsbD 30
  reported : ∀ x ∈ xs, x.cmdtm = CmdIndex.sendStatus.cmdtm →
    CardStatus.currentState x.response = cardStateTransfer
  scr : ∀ x ∈ xs, x.cmdtm = CmdIndex.sdSendScr.cmdtm →
    wide = x.scr.getLsbD 18 ∧ card.cmd23Supported = x.scr.getLsbD 1

/-- The conversation of an initialisation that ends with `r`. -/
structure InitTalk (r : Except Halt (SdInitError × Card)) (tries : Nat) (rca : Int) (wide : Bool)
    (xs : List Exchange) : Prop where
  broken : BrokenOff (initCommands tries rca wide) xs
  addressed : ∀ x ∈ xs.dropLast, x.cmdtm = CmdIndex.sendRelativeAddr.cmdtm → rca = x.rca
  asked : ∀ x ∈ xs.dropLast, x.cmdtm = CmdIndex.sdSendScr.cmdtm → wide = x.scr.getLsbD 18
  width : WidthAgrees xs
  done : ∀ card, r = .ok (.none, card) →
    Followed (initCommands tries rca wide) xs ∧ Described card rca wide xs

theorem identifyCommands_issues (tries : Nat) :
    Issues (identifyCommands tries) [.goIdleState, .sendIfCond, .appCmd, .sdSendOpCond, .allSendCid,
      .sendRelativeAddr] := by
  apply Issues.append
  · apply Issues.append
    · simp [Issues, CmdIndex.say]
    · exact (acmd41Commands_issues tries).mono (by simp)
  · simp [Issues, CmdIndex.say]

/-- Before its last command the identification has not published an address. -/
theorem identifyCommands_dropLast_issues (tries : Nat) :
    Issues (identifyCommands tries).dropLast
      [.goIdleState, .sendIfCond, .appCmd, .sdSendOpCond, .allSendCid] := by
  have hdrop : (identifyCommands tries).dropLast =
      [CmdIndex.goIdleState.say 0, CmdIndex.sendIfCond.say cmd8Args] ++ acmd41Commands tries ++
        [CmdIndex.allSendCid.say 0] := by
    rw [identifyCommands, List.dropLast_append_of_ne_nil (by simp)]
    rfl
  rw [hdrop]
  apply Issues.append
  · apply Issues.append
    · simp [Issues, CmdIndex.say]
    · exact (acmd41Commands_issues tries).mono (by simp)
  · simp [Issues, CmdIndex.say]

theorem transferCommands_issues (rca : Int) (wide : Bool) :
    Issues (transferCommands rca wide)
      [.selectCard, .sendStatus, .appCmd, .sdSendScr, .setBusWidth] := by
  cases wide <;> simp [Issues, transferCommands, CmdIndex.sayApp, CmdIndex.say]

/-- An initialisation that did not get past the identification. -/
theorem InitTalk.of_outcome {r : Except Halt (SdInitError × Card)} {tries : Nat} {good : Prop}
    {xs : List Exchange} (h : Outcome (identifyCommands tries) good xs)
    (hr : ∀ card, r ≠ .ok (.none, card)) : InitTalk r tries 0 false xs where
  broken := h.broken.extend _
  addressed x hx hcmd := by
    obtain ⟨idx, hidx, hl⟩ := identifyCommands_dropLast_issues tries _
      (h.broken.label_mem_dropLast hx)
    obtain rfl := CmdIndex.cmdtm_injective (hcmd.symm.trans hl)
    simp at hidx
  asked x hx hcmd := by
    have hmem := (identifyCommands_issues tries).mem h.broken (List.dropLast_subset _ hx) hcmd
    simp at hmem
  width := by
    apply WidthAgrees.of_untouched h.untouched
    intro y hy hcmd
    have hmem := (identifyCommands_issues tries).mem h.broken hy hcmd
    simp at hmem
  done card h := absurd h (hr card)

/-- An identified card, and how it went on. -/
theorem InitTalk.append {r : Except Halt (SdInitError × Card)} {tries : Nat} {wide : Bool}
    {card : Card} {xs ys : List Exchange} (hxs : Progress (identifyCommands tries) xs)
    (hcard : Identified card xs) (hys : TransferTalk card r wide ys) :
    InitTalk r tries card.rca wide (xs ++ ys) := by
  have hxs' := hxs.followed.toPartial
  have hrca : ∀ x ∈ xs ++ ys, x.cmdtm = CmdIndex.sendRelativeAddr.cmdtm → card.rca = x.rca := by
    intro x hx hcmd
    rcases List.mem_append.mp hx with hx | hx
    · exact hcard.rca x hx hcmd
    · have hmem := (transferCommands_issues _ _).mem hys.broken hx hcmd
      simp at hmem
  have hnotScr : ∀ x ∈ xs, x.cmdtm ≠ CmdIndex.sdSendScr.cmdtm := by
    intro x hx hcmd
    have hmem := (identifyCommands_issues tries).mem hxs' hx hcmd
    simp at hmem
  refine ⟨hxs.followed.followedBy hys.broken, ?_, ?_, ?_, ?_⟩
  · intro x hx hcmd
    exact hrca x (List.dropLast_subset _ hx) hcmd
  · intro x hx hcmd
    by_cases hnil : ys = []
    · rw [hnil, List.append_nil] at hx
      exact absurd hcmd (hnotScr x (List.dropLast_subset _ hx))
    · rw [List.dropLast_append_of_ne_nil hnil] at hx
      rcases List.mem_append.mp hx with hx | hx
      · exact absurd hcmd (hnotScr x hx)
      · exact hys.asked x hx hcmd
  · apply WidthAgrees.append hxs.untouched _ hys.width
    intro x hx hcmd
    have hmem := (identifyCommands_issues tries).mem hxs' hx hcmd
    simp at hmem
  · intro card' hr
    obtain ⟨hfollowed, ht⟩ := hys.done card' hr
    refine ⟨hxs.followed.append hfollowed, ht.state, ⟨ht.rca, hrca⟩, ?_, ?_, ?_⟩
    · obtain ⟨zs, x, zs', rfl, hcmd, hlast, h31, h30⟩ := hcard.capacity
      refine ⟨zs, x, zs' ++ ys, by simp, hcmd, ?_, h31, ht.capacity.trans h30⟩
      intro z hz hcmd'
      rcases List.mem_append.mp hz with hz | hz
      · exact hlast z hz hcmd'
      · have hmem := (transferCommands_issues _ _).mem hys.broken hz hcmd'
        simp at hmem
    · intro x hx hcmd
      rcases List.mem_append.mp hx with hx | hx
      · have hmem := (identifyCommands_issues tries).mem hxs' hx hcmd
        simp at hmem
      · exact ht.reported x hx hcmd
    · intro x hx hcmd
      rcases List.mem_append.mp hx with hx | hx
      · exact absurd hcmd (hnotScr x hx)
      · exact ht.scr x hx hcmd

/-- `sd_init_card` from its first command on. -/
theorem sdInitCard_commands_talk :
    Talk [] (do
      let (sdInitError, card) ← sdCardInitAndIdentify {}
      if sdInitError ≠ .none then pure (sdInitError, card)
      else sdInitCardTransfer card : Drv σ (SdInitError × Card)) fun ys r =>
      ∃ tries rca wide, 1 ≤ tries ∧ InitTalk r tries rca wide ys := by
  apply (sdCardInitAndIdentify_talk _).bind
  swap
  · rintro ys e ⟨tries, htries, ho, -⟩
    exact ⟨tries, 0, false, htries, InitTalk.of_outcome ho (by simp)⟩
  rintro ys ⟨error, card⟩ ⟨tries, htries, ho, hid⟩
  by_cases he : error = .none
  · subst he
    dsimp only
    rw [if_neg (by simp)]
    apply (sdInitCardTransfer_talk card).frame.mono
    rintro _ r ⟨zs, rfl, wide, ht⟩
    exact ⟨tries, card.rca, wide, htries,
      InitTalk.append ⟨ho.untouched, ho.followed ⟨card, rfl⟩⟩ (hid card rfl) ht⟩
  · dsimp only
    rw [if_pos he]
    apply Talk.pure
    exact ⟨tries, 0, false, htries, InitTalk.of_outcome ho (by simp [he])⟩

/-- Before the first command, `CONTROL0` is written once, and its bus width bit is written
back as it was read. -/
theorem sdPreCmdInit_watched :
    Watched observe {} (sdPreCmdInit : Drv σ Unit) fun c _ =>
      c.exchanges = [] ∧
        ∀ old new, (old, new) ∈ control0Writes c.prelude → new.getLsbD 1 = old.getLsbD 1 := by
  have hquiet : ∀ {c : Transcript} {α : Type} {m : Drv σ α}, Program.Emits Quiet m →
      Watched observe c m fun c' _ => c' = c := fun h => Watched.of_emits h fun c e he => he c
  apply (hquiet sdAssertVcInit_quiet).bind
  swap
  · rintro _ e rfl
    simp
  rintro _ _ rfl
  apply (hquiet sdResetHost_quiet).bind
  swap
  · rintro _ e rfl
    simp
  rintro _ _ rfl
  have hpower : Watched observe {} (sdSupplyBusPower : Drv σ Unit) fun c _ =>
      c.exchanges = [] ∧
        ∀ old new, (old, new) ∈ control0Writes c.prelude → new.getLsbD 1 = old.getLsbD 1 := by
    apply registerGet_bind
    intro v w
    refine ⟨rfl, ?_⟩
    intro old new hmem
    obtain ⟨rfl, rfl⟩ : old = v ∧ new = v ||| ((pwrCtlSdBusVoltSel3v3 ||| pwrCtlSdBusPower) <<<
        control0PwrCtlShift) := by
      simpa [registerSet, observe, Transcript.hear] using hmem
    have hbit : ((pwrCtlSdBusVoltSel3v3 ||| pwrCtlSdBusPower) <<<
        control0PwrCtlShift).getLsbD 1 = false := by decide
    rw [BitVec.getLsbD_or, hbit, Bool.or_false]
  apply hpower.bind
  swap
  · rintro c e h
    exact h
  rintro c _ h
  apply (hquiet (sdSupplyClock_quiet _)).bind
  swap
  · rintro _ e rfl
    exact h
  rintro _ _ rfl
  apply (hquiet (registerEnableBits_quiet rfl _)).mono
  rintro _ r rfl
  exact h

/-- **The SD initialisation protocol.**  Whatever card and controller do. -/
theorem sdInitCard_protocol (w : World σ) :
    let run := (sdInitCard : Drv σ (SdInitError × Card)) w
    let c := transcript run.events
    (∀ old new, (old, new) ∈ control0Writes c.prelude → new.getLsbD 1 = old.getLsbD 1) ∧
      ∃ tries rca wide, 1 ≤ tries ∧ InitTalk run.result tries rca wide c.exchanges := by
  have h : Watched observe {} (sdInitCard : Drv σ (SdInitError × Card)) fun c r =>
      (∀ old new, (old, new) ∈ control0Writes c.prelude → new.getLsbD 1 = old.getLsbD 1) ∧
        ∃ tries rca wide, 1 ≤ tries ∧ InitTalk r tries rca wide c.exchanges := by
    apply Watched.emit_bind
    apply sdPreCmdInit_watched.bind
    · rintro c _ ⟨hxs, hpre⟩
      apply (sdInitCard_commands_talk c c Transcript.Said.refl).mono
      rintro c' r ⟨ys, ⟨hpre', hys⟩, h⟩
      rw [hxs, List.nil_append] at hys
      rw [hpre', hys]
      exact ⟨hpre, h⟩
    · rintro c e ⟨hxs, hpre⟩
      refine ⟨hpre, 1, 0, false, le_refl 1, ?_⟩
      rw [hxs]
      have ho : Outcome (identifyCommands 1) False [] :=
        ⟨HostUntouched.nil, Partial.nil, False.elim⟩
      exact InitTalk.of_outcome ho (by simp)
  exact h w

end Driver

end RpiBld
