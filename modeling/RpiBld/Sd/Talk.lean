/-
RpiBld/Sd/Talk.lean

Hoare triples about what is said to the card.

`Talk xs m Q` starts a program where the exchanges `xs` have been said and asks
for the conversation it leaves.  There is one rule for each thing a driver
function does: reading a register that belongs to the last exchange, waiting
for a flag, issuing a command (`issue_bind`) or an application command
(`acmd_bind`).  A function proved from the empty conversation carries on with
any other (`frame`).
-/
import RpiBld.Sd.Exchange

namespace RpiBld

open Traced

variable {σ : Type} {α β : Type}

/-- `Talk xs m Q`: where `xs` has been said so far, a run of `m` leaves a conversation that
satisfies `Q`. -/
def Talk (xs : List Exchange) (m : Drv σ α) (Q : List Exchange → Except Halt α → Prop) : Prop :=
  ∀ c₀ c : Transcript, c₀.Said c xs →
    Watched observe c m fun c' r => ∃ ys, c₀.Said c' ys ∧ Q ys r

namespace Talk

variable {xs : List Exchange} {x : Exchange} {m : Drv σ α} {f : α → Drv σ β}
variable {P Q : List Exchange → Except Halt α → Prop} {R : List Exchange → Except Halt β → Prop}

theorem mono (h : Talk xs m P) (hPQ : ∀ ys r, P ys r → Q ys r) : Talk xs m Q := by
  intro c₀ c hc
  apply (h c₀ c hc).mono
  rintro c' r ⟨ys, hys, hP⟩
  exact ⟨ys, hys, hPQ ys r hP⟩

/-- A conversation is determined by the transcripts before and after it. -/
theorem and (hP : Talk xs m P) (hQ : Talk xs m Q) : Talk xs m fun ys r => P ys r ∧ Q ys r := by
  intro c₀ c hc w
  obtain ⟨ys, hys, hp⟩ := hP c₀ c hc w
  obtain ⟨zs, hzs, hq⟩ := hQ c₀ c hc w
  obtain rfl : ys = zs := List.append_cancel_left (hys.2.symm.trans hzs.2)
  exact ⟨ys, hys, hp, hq⟩

theorem pure {a : α} (h : Q xs (.ok a)) : Talk xs (Pure.pure a : Drv σ α) Q :=
  fun _ _ hc => Watched.pure ⟨xs, hc, h⟩

theorem halt {e : Halt} (h : Q xs (.error e)) : Talk xs (Program.halt e : Drv σ α) Q :=
  fun _ _ hc => Watched.halt ⟨xs, hc, h⟩

theorem bind (h : Talk xs m P) (hok : ∀ ys a, P ys (.ok a) → Talk ys (f a) R)
    (herr : ∀ ys e, P ys (.error e) → R ys (.error e)) : Talk xs (m >>= f) R := by
  intro c₀ c hc
  apply (h c₀ c hc).bind
  · rintro c' a ⟨ys, hys, hP⟩
    exact hok ys a hP c₀ c' hys
  · rintro c' e ⟨ys, hys, hP⟩
    exact ⟨ys, hys, herr ys e hP⟩

theorem ite {p : Prop} [Decidable p] {m' : Drv σ α} (ht : p → Talk xs m Q)
    (hf : ¬ p → Talk xs m' Q) : Talk xs (if p then m else m') Q := by
  intro c₀ c hc
  exact Watched.ite (fun hp => ht hp c₀ c hc) fun hp => hf hp c₀ c hc

/-- A program that was looked at on its own carries on with any conversation. -/
theorem frame (h : Talk [] m Q) :
    Talk xs m fun ys r => ∃ zs, ys = xs ++ zs ∧ Q zs r := by
  intro c₀ c hc
  apply (h c c Transcript.Said.refl).mono
  rintro c' r ⟨zs, hzs, hQ⟩
  refine ⟨xs ++ zs, ⟨hzs.1.trans hc.1, ?_⟩, zs, rfl, hQ⟩
  rw [hzs.2, hc.2, List.append_assoc]

/-- A part that was looked at on its own, and what carries on from it. -/
theorem frame_bind (h : Talk [] m P) (herr : ∀ zs e, P zs (.error e) → R (xs ++ zs) (.error e))
    (hok : ∀ zs a, P zs (.ok a) → Talk (xs ++ zs) (f a) R) : Talk xs (m >>= f) R := by
  apply h.frame.bind
  · rintro _ a ⟨zs, rfl, hP⟩
    exact hok zs a hP
  · rintro _ e ⟨zs, rfl, hP⟩
    exact herr zs e hP

/-- An early return where `p` fails. -/
theorem guarded {p : Prop} [Decidable (¬ p)] {a : α} (hbad : ¬ p → Q xs (.ok a))
    (hgood : p → Talk xs m Q) : Talk xs (if ¬ p then Pure.pure a else m) Q := by
  apply ite
  · intro hp
    exact pure (hbad hp)
  · intro hp
    exact hgood (not_not.mp hp)

/-- A program the monitor ignores says nothing. -/
theorem quiet_bind (h : Program.Emits Quiet m) (hok : ∀ a, Talk xs (f a) R)
    (herr : ∀ e, R xs (.error e)) : Talk xs (m >>= f) R := by
  intro c₀ c hc
  have hquiet : Watched observe c m fun c' _ => c' = c := Watched.of_emits h fun c e he => he c
  apply hquiet.bind
  · rintro _ a rfl
    exact hok a c₀ _ hc
  · rintro _ e rfl
    exact ⟨xs, hc, herr e⟩

theorem log_bind {fmt : String} {args : List LogArg} {f : Unit → Drv σ β}
    (h : Talk xs (f ()) R) : Talk xs (serialLog fmt args >>= f) R :=
  fun c₀ c hc => Watched.emit_bind (h c₀ c hc)

theorem view_bind {g : World σ → α} (h : ∀ a, Talk xs (f a) R) :
    Talk xs (Program.view g >>= f) R :=
  fun c₀ c hc => Watched.view_bind fun a => h a c₀ c hc

theorem change_bind {g : World σ → α × World σ} (h : ∀ a, Talk xs (f a) R) :
    Talk xs (Program.change g >>= f) R :=
  fun c₀ c hc => Watched.change_bind fun a => h a c₀ c hc

variable [Device σ]

/-- An access the monitor ignores. -/
theorem access_bind {r : Reg} {f : Word → Drv σ β} (hr : ∀ v, Quiet (.get r v))
    (h : ∀ v, Talk xs (f v) R) : Talk xs (registerGet r >>= f) R :=
  fun c₀ c hc => registerGet_bind fun v => by rw [hr v c]; exact h v c₀ c hc

theorem set_bind {r : Reg} {v : Word} {f : Unit → Drv σ β} (hr : Quiet (.set r v))
    (h : Talk xs (f ()) R) : Talk xs (registerSet r v >>= f) R :=
  fun c₀ c hc => registerSet_bind (by rw [hr c]; exact h c₀ c hc)

end Talk

section Heard

variable [Device σ] {xs : List Exchange} {x : Exchange} {R : List Exchange → Except Halt β → Prop}

theorem said_hear {c₀ c : Transcript} (h : c₀.Said c (xs ++ [x])) (a : Answer) :
    c₀.Said (c.hear a) (xs ++ [x.hear a]) := by
  obtain ⟨hpre, hxs⟩ := h
  rw [← List.append_assoc] at hxs
  rw [hear_concat hxs a]
  exact ⟨hpre, by rw [List.append_assoc]⟩

theorem said_foldl_hear {c₀ c : Transcript} (h : c₀.Said c (xs ++ [x])) (as : List Answer) :
    c₀.Said (as.foldl Transcript.hear c) (xs ++ [{ x with answers := x.answers ++ as }]) := by
  obtain ⟨hpre, hxs⟩ := h
  rw [← List.append_assoc] at hxs
  rw [foldl_hear_concat hxs as]
  exact ⟨hpre, by rw [List.append_assoc]⟩

namespace Talk

theorem resp_bind {f : Word → Drv σ β} (h : ∀ v, Talk (xs ++ [x.hear (.resp v)]) (f v) R) :
    Talk (xs ++ [x]) (registerGet (.sd .resp0) >>= f) R :=
  fun c₀ _ hc => registerGet_bind fun v => h v c₀ _ (said_hear hc _)

theorem data_bind {f : Word → Drv σ β} (h : ∀ v, Talk (xs ++ [x.hear (.data v)]) (f v) R) :
    Talk (xs ++ [x]) (registerGet (.sd .data) >>= f) R :=
  fun c₀ _ hc => registerGet_bind fun v => h v c₀ _ (said_hear hc _)

/-- Setting bits of `CONTROL0`. -/
theorem control0_bind {mask : Word} {f : Unit → Drv σ β}
    (h : ∀ v, Talk (xs ++ [x.hear (.control0 v (v ||| mask))]) (f ()) R) :
    Talk (xs ++ [x]) (registerEnableBits (.sd .control0) mask >>= f) R := by
  intro c₀ c hc
  have henable : Watched observe c (registerEnableBits (.sd .control0) mask : Drv σ Unit)
      fun c' r => ∃ u, r = .ok u ∧
        ∃ v, c' = Transcript.hear { c with control0 := v } (.control0 v (v ||| mask)) :=
    registerGet_bind fun v => fun _ => ⟨(), rfl, v, rfl⟩
  apply henable.bind_ok
  rintro _ _ ⟨v, rfl⟩
  exact h v c₀ _ (said_hear (c := { c with control0 := v }) hc _)

/-- Waiting for a flag of the last command. -/
theorem wait_bind {mask : Word} {f : CmdError → Drv σ β}
    (hok : ∀ as fl, IrptsOnly as → flags as = [fl] → FlagOk mask fl →
      Talk (xs ++ [{ x with answers := x.answers ++ as }]) (f .none) R)
    (hbad : ∀ as e, IrptsOnly as → e ≠ .none →
      Talk (xs ++ [{ x with answers := x.answers ++ as }]) (f e) R)
    (herr : ∀ as e, IrptsOnly as → R (xs ++ [{ x with answers := x.answers ++ as }]) (.error e)) :
    Talk (xs ++ [x]) (sdWaitForInterrupt mask >>= f) R := by
  intro c₀ c hc
  apply (sdWaitForInterrupt_watched mask).bind
  · rintro _ e ⟨as, rfl, honly, -, hflags⟩
    have hc' := said_foldl_hear hc as
    by_cases he : e = .none
    · subst he
      obtain ⟨fl, hfl, hok'⟩ := hflags.mp rfl
      exact hok as fl honly hfl hok' c₀ _ hc'
    · exact hbad as e honly he c₀ _ hc'
  · rintro _ e ⟨as, rfl, honly, -, -⟩
    exact ⟨_, said_foldl_hear hc as, herr as e honly⟩

end Talk

end Heard

/-! ### Following a script -/

/-- The script was carried out. -/
abbrev Followed : List (Word × Word) → List Exchange → Prop := Complete Exchange.label Succeeded

/-- The conversation broke off; no command followed one that failed. -/
abbrev BrokenOff : List (Word × Word) → List Exchange → Prop := Partial Exchange.label Succeeded

theorem Followed.one {x : Exchange} {l : Word × Word} (hl : x.label = l) (h : Succeeded x) :
    Followed [l] [x] := hl ▸ Complete.singleton h

theorem BrokenOff.one {x : Exchange} {l : Word × Word} (hl : x.label = l) : BrokenOff [l] [x] :=
  hl ▸ Partial.singleton x

/-- The host left its bus width alone. -/
def HostUntouched (xs : List Exchange) : Prop := ∀ x ∈ xs, control0Writes x.answers = []

theorem HostUntouched.append {xs ys : List Exchange} (h : HostUntouched xs)
    (h' : HostUntouched ys) : HostUntouched (xs ++ ys) := by
  intro x hx
  rcases List.mem_append.mp hx with hx | hx
  · exact h x hx
  · exact h' x hx

/-- An answered command has succeeded once the rest of what it waits for has come, and
the contents of its response are right. -/
theorem Answered.succeeded {idx : CmdIndex} {as bs : List Answer} {args : Word} {masks : List Word}
    (h : Answered idx as) (hmasks : idx.awaited = interruptCmdComplete :: masks)
    (hbs : List.Forall₂ FlagOk masks (flags bs))
    (hcontents : ContentsOk idx args (Exchange.response ⟨idx.cmdtm, args, as ++ bs⟩)) :
    Succeeded ⟨idx.cmdtm, args, as ++ bs⟩ := by
  obtain ⟨⟨f, hf, hok⟩, hresp⟩ := h
  refine ⟨idx, rfl, ?_, ?_, hcontents⟩
  · rw [hmasks, flags_append, hf]
    exact .cons hok hbs
  · intro hcs
    obtain ⟨cs, h1, h2⟩ := hresp hcs
    exact ⟨cs, by simp [h1], h2⟩

/-- The same for a command that needs nothing more. -/
theorem Answered.succeeded_self {idx : CmdIndex} {as : List Answer} {args : Word}
    (h : Answered idx as) (hmasks : idx.awaited = [interruptCmdComplete])
    (hcontents : ∀ resp, ContentsOk idx args resp) : Succeeded ⟨idx.cmdtm, args, as⟩ := by
  have hs : Succeeded ⟨idx.cmdtm, args, as ++ []⟩ := h.succeeded hmasks .nil (hcontents _)
  rwa [List.append_nil] at hs

/-- What an issued command that returned an error or halted may have left: nothing, where
the host was not ready, or an exchange that was not answered. -/
inductive Unanswered (idx : CmdIndex) (args : Word) : List Exchange → Prop
  | unsaid : Unanswered idx args []
  | said {as : List Answer} : Plain as → ¬ Answered idx as →
      Unanswered idx args [⟨idx.cmdtm, args, as⟩]

theorem Unanswered.brokenOff {idx : CmdIndex} {args : Word} {xs : List Exchange}
    (h : Unanswered idx args xs) : BrokenOff [idx.say args] xs := by
  cases h with
  | unsaid => exact Partial.nil
  | said _ _ => exact BrokenOff.one rfl

theorem Unanswered.hostUntouched {idx : CmdIndex} {args : Word} {xs : List Exchange}
    (h : Unanswered idx args xs) : HostUntouched xs := by
  cases h with
  | unsaid => intro x hx; cases hx
  | said hplain _ =>
    intro x hx
    rw [List.mem_singleton.mp hx]
    exact hplain.control0

/-- What an application command that returned an error or halted may have left. -/
inductive AcmdFailed (idx : CmdIndex) (args : Word) (rca : Int) : List Exchange → Prop
  | early {xs : List Exchange} : BrokenOff [CmdIndex.appCmd.say (acRcaArgs rca)] xs →
      HostUntouched xs → AcmdFailed idx args rca xs
  | late {x55 : Exchange} {as : List Answer} :
      x55.label = CmdIndex.appCmd.say (acRcaArgs rca) → Succeeded x55 →
      control0Writes x55.answers = [] → Plain as → ¬ Answered idx as →
      AcmdFailed idx args rca [x55, ⟨idx.cmdtm, args, as⟩]

/-- The commands of an application command. -/
def CmdIndex.sayApp (idx : CmdIndex) (args : Word) (rca : Int) : List (Word × Word) :=
  [CmdIndex.appCmd.say (acRcaArgs rca), idx.say args]

theorem AcmdFailed.brokenOff {idx : CmdIndex} {args : Word} {rca : Int} {xs : List Exchange}
    (h : AcmdFailed idx args rca xs) : BrokenOff (idx.sayApp args rca) xs := by
  cases h with
  | early hbroken _ => exact hbroken.extend _
  | @late x55 as hlabel hs _ _ _ =>
    exact (Followed.one hlabel hs).followedBy (BrokenOff.one (x := ⟨idx.cmdtm, args, as⟩) rfl)

theorem AcmdFailed.hostUntouched {idx : CmdIndex} {args : Word} {rca : Int} {xs : List Exchange}
    (h : AcmdFailed idx args rca xs) : HostUntouched xs := by
  cases h with
  | early _ huntouched => exact huntouched
  | late _ _ h55 hplain _ => simp [HostUntouched, h55, hplain.control0]

/-! ### Issuing commands -/

namespace Talk

variable [Device σ] {xs : List Exchange} {R : List Exchange → Except Halt β → Prop}

/-- `sd_issue_cmd`. -/
theorem issue {idx : CmdIndex} {args : Word} :
    Talk xs (sdIssueCmd idx.code args : Drv σ CmdError) fun ys r =>
      (∃ as, ys = xs ++ [⟨idx.cmdtm, args, as⟩] ∧ Answered idx as ∧ Plain as ∧
        r = .ok .none) ∨
      ∃ zs, ys = xs ++ zs ∧ Unanswered idx args zs ∧ r ≠ .ok .none ∧
        r ≠ .ok .responseContents := by
  intro c₀ c hc
  have hsaid : ∀ c' zs, c.Said c' zs → c₀.Said c' (xs ++ zs) := by
    rintro c' zs ⟨h1, h2⟩
    exact ⟨h1.trans hc.1, by rw [h2, hc.2, List.append_assoc]⟩
  apply (sdIssueCmd_watched idx args).mono
  rintro c' r ⟨hcont, ⟨rfl, hr⟩ | ⟨as, hs, hplain, hans⟩⟩
  · exact ⟨_, hsaid _ _ Transcript.Said.refl, .inr ⟨[], rfl, .unsaid, hr, hcont⟩⟩
  · by_cases hr : r = .ok .none
    · exact ⟨_, hsaid _ _ hs, .inl ⟨as, rfl, hans.mp hr, hplain, hr⟩⟩
    · exact ⟨_, hsaid _ _ hs,
        .inr ⟨_, rfl, .said hplain fun h => hr (hans.mpr h), hr, hcont⟩⟩

theorem issue_bind {idx : CmdIndex} {args : Word} {f : CmdError → Drv σ β}
    (hok : ∀ as, Answered idx as → Plain as →
      Talk (xs ++ [⟨idx.cmdtm, args, as⟩]) (f .none) R)
    (hbad : ∀ zs e, Unanswered idx args zs → e ≠ .none → e ≠ .responseContents →
      Talk (xs ++ zs) (f e) R)
    (herr : ∀ zs e, Unanswered idx args zs → R (xs ++ zs) (.error e)) :
    Talk xs (sdIssueCmd idx.code args >>= f) R := by
  apply issue.bind
  · rintro ys e (⟨as, rfl, hans, hplain, he⟩ | ⟨zs, rfl, hun, he, hcont⟩)
    · obtain rfl := Except.ok.inj he
      exact hok as hans hplain
    · exact hbad zs e hun (fun h => he (by rw [h])) fun h => hcont (by rw [h])
  · rintro ys e (⟨as, rfl, hans, hplain, he⟩ | ⟨zs, rfl, hun, -, -⟩)
    · cases he
    · exact herr zs e hun

/-- `sd_issue_acmd`: CMD55, and after it succeeded the application command. -/
theorem acmd {idx : CmdIndex} {args : Word} {rca : Int} :
    Talk xs (sdIssueAcmd idx.code args rca : Drv σ CmdError) fun ys r =>
      (∃ x55 as, ys = xs ++ [x55, ⟨idx.cmdtm, args, as⟩] ∧
        x55.label = CmdIndex.appCmd.say (acRcaArgs rca) ∧ Succeeded x55 ∧
        control0Writes x55.answers = [] ∧ Answered idx as ∧ Plain as ∧
        r = .ok .none) ∨
      ∃ zs, ys = xs ++ zs ∧ AcmdFailed idx args rca zs ∧ r ≠ .ok .none := by
  unfold sdIssueAcmd
  apply issue_bind
  · intro as hans hplain
    apply Talk.ite (fun h => absurd rfl h)
    intro _
    apply resp_bind
    intro cs
    have hctl55 := (hplain.hear_resp cs).control0
    apply Talk.ite
    · intro _
      apply log_bind
      apply Talk.pure
      refine .inr ⟨_, rfl, .early (BrokenOff.one rfl) ?_, by simp⟩
      intro x hx
      rw [List.mem_singleton.mp hx]
      exact hctl55
    · intro happ
      have hs : Succeeded ⟨CmdIndex.appCmd.cmdtm, acRcaArgs rca, as ++ [.resp cs]⟩ := by
        apply hans.succeeded rfl
        · exact .nil
        · simpa [ContentsOk, Exchange.response] using not_not.mp happ
      apply issue.mono
      rintro ys r (⟨bs, rfl, hans', hplain', hr⟩ | ⟨zs, rfl, hun, hr, -⟩)
      · exact .inl ⟨_, bs, by simp [Exchange.hear], rfl, hs, hctl55, hans', hplain', hr⟩
      · cases hun with
        | unsaid =>
          refine .inr ⟨_, by rw [List.append_nil], .early ?_ ?_, hr⟩
          · exact BrokenOff.one rfl
          · intro x hx
            rw [List.mem_singleton.mp hx]
            exact hctl55
        | said hplain' hun =>
          exact .inr ⟨_, by rw [List.append_assoc]; rfl, .late rfl hs hctl55 hplain' hun, hr⟩
  · intro zs e hun he _
    rw [if_pos he]
    apply Talk.pure
    exact .inr ⟨zs, rfl, .early hun.brokenOff hun.hostUntouched, by simpa using he⟩
  · intro zs e hun
    exact .inr ⟨zs, rfl, .early hun.brokenOff hun.hostUntouched, by simp⟩

theorem acmd_bind {idx : CmdIndex} {args : Word} {rca : Int} {f : CmdError → Drv σ β}
    (hok : ∀ x55 as, x55.label = CmdIndex.appCmd.say (acRcaArgs rca) → Succeeded x55 →
      control0Writes x55.answers = [] → Answered idx as → Plain as →
      Talk (xs ++ [x55] ++ [⟨idx.cmdtm, args, as⟩]) (f .none) R)
    (hbad : ∀ zs e, AcmdFailed idx args rca zs → e ≠ .none → Talk (xs ++ zs) (f e) R)
    (herr : ∀ zs e, AcmdFailed idx args rca zs → R (xs ++ zs) (.error e)) :
    Talk xs (sdIssueAcmd idx.code args rca >>= f) R := by
  apply acmd.bind
  · rintro ys e (⟨x55, as, rfl, hlabel, hs, h55, hans, hplain, he⟩ | ⟨zs, rfl, hfail, he⟩)
    · obtain rfl := Except.ok.inj he
      have h := hok x55 as hlabel hs h55 hans hplain
      rwa [List.append_assoc] at h
    · exact hbad zs e hfail fun h => he (by rw [h])
  · rintro ys e (⟨x55, as, rfl, -, -, -, -, -, he⟩ | ⟨zs, rfl, hfail, -⟩)
    · cases he
    · exact herr zs e hfail

end Talk

end RpiBld
