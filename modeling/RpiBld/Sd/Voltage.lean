/-
RpiBld/Sd/Voltage.lean

The voltage check of `sd_issue_acmd41`.

A card that does not support the host's voltage window goes inactive when it is
sent an init ACMD41, so the code asks first: the inquiry ACMD41 has no voltage
window, and its response is the card's OCR.  `VoltageSafe` says what the check
on this OCR is for.  The check never fires (`ocrVoltageMismatch_eq`), so
`sd_issue_acmd41` is the inquiry followed by the init loop whatever the OCR is
(`sdIssueAcmd41_eq`), and it is safe exactly on the runs in which the card
supports the window anyway.
-/
import RpiBld.Sd.Initialisation

namespace RpiBld

open Traced

/-- The card can run at the host's voltage: all of the OCR's bits 23:15 are set. -/
def SupportsVoltage (ocr : Word) : Prop := ocr &&& ocrVdd2v7To3v6 = ocrVdd2v7To3v6

instance (ocr : Word) : Decidable (SupportsVoltage ocr) := by
  unfold SupportsVoltage; infer_instance

/-- An ACMD41 with a voltage window, which starts the card up. -/
def InitAcmd41 (x : Exchange) : Prop :=
  x.cmdtm = CmdIndex.sdSendOpCond.cmdtm ∧ x.arg &&& ocrVdd2v7To3v6 ≠ 0

/-- Bitwise and comes after comparison: the OCR is masked with the outcome of comparing the window
with itself. -/
theorem ocrVoltageMismatch_eq (ocr : Word) : ocrVoltageMismatch ocr = false := by
  rw [ocrVoltageMismatch, bne_self_eq_false]
  simp [cBool]

section Driver

variable {σ : Type} [Device σ]

/-- The inquiry: the OCR the card answers with, unless the command fails. -/
def acmd41Inquiry : Drv σ (Except CmdError Word) := do
  let error ← sdIssueAcmd CmdIndex.sdSendOpCond.code 0 0
  if error ≠ .none then pure (.error error)
  else
    let ocr ← registerGet (.sd .resp0)
    pure (.ok ocr)

/-- The init ACMD41s. -/
def acmd41Init (cardCapacitySupportOut : Bool) : Drv σ (CmdError × Bool) := do
  let ts ← timerPollStart 1000
  let polls ← Program.view World.polls
  sdAcmd41Retry ts cardCapacitySupportOut 0 polls

/-- What `sd_issue_acmd41` does after the inquiry. -/
def acmd41Rest (cardCapacitySupportOut : Bool) : Except CmdError Word → Drv σ (CmdError × Bool)
  | .error error => pure (error, cardCapacitySupportOut)
  | .ok _ => acmd41Init cardCapacitySupportOut

/-- What the voltage check is there for, on one run of `sd_issue_acmd41`. -/
structure VoltageSafe (out : Bool) (w : World σ) : Prop where
  /-- The card is started up only if it supports the voltage. -/
  initOnly : ∀ x ∈ (transcript (sdIssueAcmd41 out w).events).exchanges, InitAcmd41 x →
    ∃ ocr, (acmd41Inquiry w).result = .ok (.ok ocr) ∧ SupportsVoltage ocr
  /-- Otherwise nothing more is said to it, and the caller is told. -/
  refused : ∀ ocr, (acmd41Inquiry w).result = .ok (.ok ocr) → ¬ SupportsVoltage ocr →
    (sdIssueAcmd41 out w).result = .ok (.responseContents, out) ∧
      (transcript (sdIssueAcmd41 out w).events).exchanges =
        (transcript (acmd41Inquiry w).events).exchanges

/-- The OCR of the inquiry decides nothing. -/
theorem sdIssueAcmd41_eq (out : Bool) :
    (sdIssueAcmd41 out : Drv σ (CmdError × Bool)) = acmd41Inquiry >>= acmd41Rest out := by
  unfold sdIssueAcmd41 acmd41Inquiry
  rw [bind_assoc]
  refine congrArg _ (funext fun error => ?_)
  by_cases he : error = .none
  · rw [if_neg (not_not.mpr he), if_neg (not_not.mpr he), bind_assoc]
    refine congrArg _ (funext fun ocr => ?_)
    rw [ocrVoltageMismatch_eq, if_neg Bool.false_ne_true, pure_bind]
    rfl
  · rw [if_pos he, if_pos he, pure_bind]
    rfl

/-! ### What is said -/

/-- The inquiry starts no card up. -/
theorem acmd41Inquiry_talk :
    Talk [] (acmd41Inquiry : Drv σ (Except CmdError Word)) fun ys _ =>
      BrokenOff (CmdIndex.sdSendOpCond.sayApp 0 0) ys := by
  apply Talk.acmd_bind
  · intro x55 as h55 hs55 _ _ _
    rw [if_neg (by simp)]
    apply Talk.resp_bind
    intro ocr
    apply Talk.pure
    exact (Followed.one h55 hs55).followedBy (BrokenOff.one rfl)
  · intro zs e hfail he
    rw [if_pos he]
    exact Talk.pure hfail.brokenOff
  · intro zs e hfail
    exact hfail.brokenOff

theorem not_initAcmd41_of_inquiry {x : Exchange} {xs : List Exchange}
    (h : BrokenOff (CmdIndex.sdSendOpCond.sayApp 0 0) xs) (hx : x ∈ xs) : ¬ InitAcmd41 x := by
  rintro ⟨hcmd, hwindow⟩
  have hl := h.label_mem hx
  rcases List.mem_pair.mp hl with hl | hl
  · have h55 : x.cmdtm = CmdIndex.appCmd.cmdtm := congrArg Prod.fst hl
    cases CmdIndex.cmdtm_injective (hcmd.symm.trans h55)
  · have harg : x.arg = 0 := congrArg Prod.snd hl
    rw [harg] at hwindow
    exact hwindow (BitVec.zero_and)

/-- An application command complains about a response only after it got one. -/
theorem sdIssueAcmd_contents_talk (idx : CmdIndex) (args : Word) (rca : Int) :
    Talk [] (sdIssueAcmd idx.code args rca : Drv σ CmdError) fun ys r =>
      r = .ok .responseContents → ys ≠ [] := by
  apply Talk.issue_bind
  · intro as _ _
    rw [if_neg (by simp)]
    apply Talk.resp_bind
    intro cs
    apply Talk.ite
    · intro _
      apply Talk.log_bind
      apply Talk.pure
      simp
    · intro _
      apply Talk.issue.mono
      rintro ys r (⟨bs, rfl, -⟩ | ⟨zs, rfl, -⟩) - <;> simp
  · intro zs e _ he hcont
    rw [if_pos he]
    apply Talk.pure
    simp [hcont]
  · simp

omit [Device σ] in
theorem sdAcmd41Finish_talk (ocr : Word) (out : Bool) :
    Talk [] (sdAcmd41Finish ocr out : Drv σ (CmdError × Bool)) fun _ _ => True :=
  Talk.ite (fun _ => Talk.pure trivial) fun _ => Talk.log_bind (Talk.pure trivial)

/-- Nor does the init loop. -/
theorem acmd41Init_contents_talk (out : Bool) :
    Talk [] (acmd41Init out : Drv σ (CmdError × Bool)) fun ys r =>
      ∀ ccs, r = .ok (.responseContents, ccs) → ys ≠ [] := by
  apply Talk.change_bind
  intro ts
  apply Talk.view_bind
  rintro (_ | n)
  · apply Talk.halt
    simp
  have hpause : Program.Emits Quiet (sdAcmd41Pause 0 : Drv σ Unit) :=
    Program.Emits.ite (Program.Emits.change _) (Program.Emits.pure _)
  refine Talk.quiet_bind hpause (fun _ => ?_) (by simp)
  apply (Talk.acmd.and (sdIssueAcmd_contents_talk _ _ _)).bind
  · rintro ys error ⟨hacmd, hcont⟩
    apply Talk.ite
    · intro _
      apply Talk.pure
      rintro ccs ⟨⟩
      exact hcont rfl
    · intro he
      -- whatever the rest of the loop says comes after the two exchanges of the first try
      have hsaid : ∃ x55 x, ys = [x55, x] := by
        rcases hacmd with ⟨x55, as, rfl, -⟩ | ⟨zs, rfl, -, hne⟩
        · exact ⟨_, _, rfl⟩
        · exact absurd (congrArg Except.ok (not_not.mp he)) hne
      obtain ⟨x55, x, rfl⟩ := hsaid
      have hframe : ∀ {m : Drv σ (CmdError × Bool)} {x : Exchange}
          {Q : List Exchange → Except Halt (CmdError × Bool) → Prop}, Talk [] m Q →
          Talk ([x55] ++ [x]) m fun ys r => ∀ ccs, r = .ok (.responseContents, ccs) → ys ≠ [] := by
        intro m x Q hm
        apply hm.frame.mono
        rintro _ r ⟨zs, rfl, -⟩
        simp
      rw [show [x55, x] = [x55] ++ [x] from rfl]
      apply Talk.resp_bind
      intro ocr
      apply Talk.ite
      · intro _
        exact hframe (sdAcmd41Finish_talk ocr out)
      · intro _
        apply Talk.change_bind
        intro done
        apply Talk.ite
        · intro _
          exact hframe (sdAcmd41Finish_talk ocr out)
        · intro _
          exact hframe (sdAcmd41Retry_talk ts out 1 n)
  · simp

/-! ### The check -/

/-- Where the inquiry was answered with an OCR, the init loop runs next. -/
theorem sdIssueAcmd41_after_inquiry (out : Bool) {w : World σ} {ocr : Word}
    (h : (acmd41Inquiry w).result = .ok (.ok ocr)) :
    let rest := acmd41Init out (acmd41Inquiry w).state
    sdIssueAcmd41 out w =
      ⟨(acmd41Inquiry w).events ++ rest.events, rest.result, rest.state⟩ := by
  have hrun : acmd41Inquiry w =
      ⟨(acmd41Inquiry w).events, .ok (.ok ocr), (acmd41Inquiry w).state⟩ := by
    rw [← h]
  rw [sdIssueAcmd41_eq, Program.bind_of_ok hrun]
  rfl

/-- Otherwise the inquiry is all there is. -/
theorem sdIssueAcmd41_no_ocr (out : Bool) {w : World σ}
    (h : ∀ ocr, (acmd41Inquiry w).result ≠ .ok (.ok ocr)) :
    (sdIssueAcmd41 out w).events = (acmd41Inquiry w).events := by
  rw [sdIssueAcmd41_eq]
  rcases hrun : acmd41Inquiry w with ⟨t, r, s'⟩
  rw [hrun] at h
  rcases r with e | e | ocr
  · rw [Program.bind_of_error hrun]
  · rw [Program.bind_of_ok hrun]
    exact List.append_nil t
  · exact absurd rfl (h ocr)

/-- **When `sd_issue_acmd41` is voltage safe.**  For every behaviour of card and controller:
exactly on the runs in which a card that answers the inquiry supports the voltage. -/
theorem sdIssueAcmd41_voltageSafe_iff (out : Bool) (w : World σ) :
    VoltageSafe out w ↔
      ∀ ocr, (acmd41Inquiry w).result = .ok (.ok ocr) → SupportsVoltage ocr := by
  constructor
  · intro hsafe ocr hocr
    by_contra hbad
    obtain ⟨hresult, hsaid⟩ := hsafe.refused ocr hocr hbad
    have hrun := sdIssueAcmd41_after_inquiry out hocr
    rw [hrun] at hresult hsaid
    -- the init loop cannot have complained without saying something
    obtain ⟨ys, ⟨-, hys⟩, hne⟩ :=
      acmd41Init_contents_talk out _ _ Transcript.Said.refl (acmd41Inquiry w).state
    apply hne out hresult
    rw [transcript, List.foldl_append] at hsaid
    exact List.append_right_eq_self.mp (hys.symm.trans hsaid)
  · intro hsupports
    refine ⟨?_, fun ocr hocr hbad => absurd (hsupports ocr hocr) hbad⟩
    intro x hx hinit
    by_cases hocr : ∃ ocr, (acmd41Inquiry w).result = .ok (.ok ocr)
    · obtain ⟨ocr, hocr⟩ := hocr
      exact ⟨ocr, hocr, hsupports ocr hocr⟩
    · rw [sdIssueAcmd41_no_ocr out (not_exists.mp hocr)] at hx
      obtain ⟨ys, ⟨-, hys⟩, hbroken⟩ := acmd41Inquiry_talk _ {} Transcript.Said.refl w
      rw [List.nil_append] at hys
      exact absurd hinit (not_initAcmd41_of_inquiry hbroken (hys ▸ hx))

end Driver

/-! ### A card for another voltage -/

/-- A controller with a card that answers everything well, whose OCR says that it has powered
up and supports no voltage of the host.  Its state is the last `CMDTM`. -/
structure LowVoltageCard where
  cmdtm : Word

instance : Device LowVoltageCard where
  get r d :=
    match r with
    | .sd .interrupt => (interruptCmdComplete, d)
    | .sd .resp0 => (if d.cmdtm = CmdIndex.appCmd.cmdtm then bit 5 else ocrCardPowerUpStatus, d)
    | _ => (0, d)
  set r v d :=
    match r with
    | .sd .cmdtm => ⟨v⟩
    | _ => d
  timerStart _ d := (0, d)
  timerDone _ d := (true, d)
  sleep _ d := d
  videocore ram d := (ram, d)

/-- The card is started up although its OCR has none of the bits. -/
theorem sdIssueAcmd41_not_voltageSafe :
    ¬ VoltageSafe false (⟨⟨0⟩, fun _ => 0, 1, 0⟩ : World LowVoltageCard) := by
  intro hsafe
  have hocr : (acmd41Inquiry (⟨⟨0⟩, fun _ => 0, 1, 0⟩ : World LowVoltageCard)).result =
      .ok (.ok ocrCardPowerUpStatus) := rfl
  obtain ⟨hresult, -⟩ := hsafe.refused _ hocr (by decide)
  have hrun : (sdIssueAcmd41 false (⟨⟨0⟩, fun _ => 0, 1, 0⟩ : World LowVoltageCard)).result =
      .ok (.none, false) := rfl
  rw [hrun] at hresult
  cases hresult

end RpiBld
