/-
RpiBld/Sd/Exchange.lean

What driver and card say to each other, as a monitor of the driver's events.

A `Transcript` cuts a run into *exchanges*: the command written to `CMDTM`, the
`ARG1` it was issued with, and everything the host saw (`INTERRUPT`, `RESP0`,
`DATA`) or did to its bus width (`CONTROL0`) until the next command.  Nothing
is assumed of the card: any register may read as anything at every access.

`Succeeded x` says that the exchange went well as far as the host can tell: the
awaited flags came, none with the error bit, the card status has no error bit,
and the contents of the response are as they should be.

Main results:
* `sdWaitForInterrupt_watched` -- a wait ends well exactly after a good flag;
* `sdIssueCmd_watched` -- a command is issued at most once, and returns without
  error exactly if it was answered.
-/
import Mathlib.Data.List.ModifyLast
import RpiBld.Sd.Card
import RpiBld.Lib.Monitor
import RpiBld.Lib.Script

namespace RpiBld

open Traced

/-! ### Commands as words -/

/-- The entry of the command table with an index. -/
def CmdIndex.command (idx : CmdIndex) : Command := (getCommand idx.code).getD ⟨idx, .bc, .none⟩

theorem getCommand_code (idx : CmdIndex) : getCommand idx.code = some idx.command := by
  cases idx <;> rfl

/-- What `sd_issue_cmd` writes to `CMDTM`. -/
def CmdIndex.cmdtm (idx : CmdIndex) : Word := (setCmdtm idx.command).toWord

/-- The command can be told from the word written. -/
theorem CmdIndex.cmdtm_injective {idx idx' : CmdIndex} (h : idx.cmdtm = idx'.cmdtm) :
    idx = idx' := by
  revert h
  cases idx <;> cases idx' <;> decide

/-! ### Transcripts -/

/-- What the host sees, or does to its bus width, between two commands.  A write of
`CONTROL0` comes with the value it was last read as. -/
inductive Answer
  | irpt (v : Word)
  | resp (v : Word)
  | data (v : Word)
  | control0 (old new : Word)
  deriving DecidableEq, Repr

/-- A command and what followed it. -/
structure Exchange where
  cmdtm : Word
  arg : Word
  answers : List Answer
  deriving DecidableEq, Repr

/-- The exchanges of a run and what came before the first.  `arg1` and `control0` are
`ARG1` as last written and `CONTROL0` as last read. -/
structure Transcript where
  arg1 : Word := 0
  control0 : Word := 0
  prelude : List Answer := []
  exchanges : List Exchange := []
  deriving DecidableEq, Repr

def Exchange.hear (x : Exchange) (a : Answer) : Exchange := { x with answers := x.answers ++ [a] }

/-- An answer belongs to the last command. -/
def Transcript.hear (c : Transcript) (a : Answer) : Transcript :=
  if c.exchanges = [] then { c with prelude := c.prelude ++ [a] }
  else { c with exchanges := c.exchanges.modifyLast (·.hear a) }

/-- The monitor. -/
def observe (c : Transcript) : Event → Transcript
  | .set (.sd .arg1) v => { c with arg1 := v }
  | .set (.sd .cmdtm) v => { c with exchanges := c.exchanges ++ [⟨v, c.arg1, []⟩] }
  | .get (.sd .control0) v => { c with control0 := v }
  | .set (.sd .control0) v => c.hear (.control0 c.control0 v)
  | .get (.sd .interrupt) v => c.hear (.irpt v)
  | .get (.sd .resp0) v => c.hear (.resp v)
  | .get (.sd .data) v => c.hear (.data v)
  | _ => c

/-- The transcript of a run. -/
def transcript (t : List Event) : Transcript := t.foldl observe {}

/-- Events the monitor ignores. -/
def Quiet (e : Event) : Prop := ∀ c, observe c e = c

theorem hear_concat {c : Transcript} {xs : List Exchange} {x : Exchange}
    (h : c.exchanges = xs ++ [x]) (a : Answer) :
    c.hear a = { c with exchanges := xs ++ [x.hear a] } := by
  have hne : c.exchanges ≠ [] := by simp [h]
  rw [Transcript.hear, if_neg hne, h, List.modifyLast_concat]

/-- Answers heard one after the other extend the last exchange. -/
theorem foldl_hear_concat {c : Transcript} {xs : List Exchange} {x : Exchange}
    (h : c.exchanges = xs ++ [x]) (as : List Answer) :
    as.foldl Transcript.hear c =
      { c with exchanges := xs ++ [{ x with answers := x.answers ++ as }] } := by
  induction as generalizing c x with
  | nil => simp [← h]
  | cons a as ih =>
    rw [List.foldl_cons, hear_concat h a, ih rfl]
    simp [Exchange.hear]

/-! ### Reading the answers -/

@[simp] def Answer.flag? : Answer → Option Word
  | .irpt v => if v = 0 then none else some v
  | _ => none

@[simp] def Answer.resp? : Answer → Option Word
  | .resp v => some v
  | _ => none

@[simp] def Answer.data? : Answer → Option Word
  | .data v => some v
  | _ => none

@[simp] def Answer.control0? : Answer → Option (Word × Word)
  | .control0 old new => some (old, new)
  | _ => none

/-- The flags that ended a wait: every non-zero `INTERRUPT`. -/
def flags (as : List Answer) : List Word := as.filterMap Answer.flag?

/-- The values read from `RESP0`. -/
def responses (as : List Answer) : List Word := as.filterMap Answer.resp?

/-- The words read from `DATA`. -/
def dataWords (as : List Answer) : List Word := as.filterMap Answer.data?

/-- The writes of `CONTROL0`. -/
def control0Writes (as : List Answer) : List (Word × Word) := as.filterMap Answer.control0?

section Reading

variable (a : Answer) (as bs : List Answer)

@[simp] theorem flags_append : flags (as ++ bs) = flags as ++ flags bs := List.filterMap_append

@[simp] theorem responses_append : responses (as ++ bs) = responses as ++ responses bs :=
  List.filterMap_append

@[simp] theorem dataWords_append : dataWords (as ++ bs) = dataWords as ++ dataWords bs :=
  List.filterMap_append

@[simp] theorem control0Writes_append :
    control0Writes (as ++ bs) = control0Writes as ++ control0Writes bs :=
  List.filterMap_append

@[simp] theorem flags_nil : flags [] = [] := rfl

@[simp] theorem responses_nil : responses [] = [] := rfl

@[simp] theorem dataWords_nil : dataWords [] = [] := rfl

@[simp] theorem control0Writes_nil : control0Writes [] = [] := rfl

@[simp] theorem flags_cons : flags (a :: as) = a.flag?.toList ++ flags as := by
  rw [flags, List.filterMap_cons]
  cases a.flag? <;> rfl

@[simp] theorem responses_cons : responses (a :: as) = a.resp?.toList ++ responses as := by
  rw [responses, List.filterMap_cons]
  cases a.resp? <;> rfl

@[simp] theorem dataWords_cons : dataWords (a :: as) = a.data?.toList ++ dataWords as := by
  rw [dataWords, List.filterMap_cons]
  cases a.data? <;> rfl

@[simp] theorem control0Writes_cons :
    control0Writes (a :: as) = a.control0?.toList ++ control0Writes as := by
  rw [control0Writes, List.filterMap_cons]
  cases a.control0? <;> rfl

end Reading

/-- The last value read from `RESP0`. -/
def Exchange.response (x : Exchange) : Word := (responses x.answers).getLast?.getD 0

/-- The first word read from `DATA`. -/
def Exchange.firstData (x : Exchange) : Word := (dataWords x.answers).headD 0

/-- A flag that ends a wait well. -/
def FlagOk (mask irpt : Word) : Prop := Interrupt.error irpt = false ∧ irpt &&& mask ≠ 0

/-- The flags a command waits for; the SCR is read together with its command. -/
def CmdIndex.awaited : CmdIndex → List Word
  | .sdSendScr => [interruptCmdComplete, interruptReadReady, interruptTransferComplete]
  | _ => [interruptCmdComplete]

/-- What the host requires of the response beyond its error bits. -/
def ContentsOk (idx : CmdIndex) (arg resp : Word) : Prop :=
  match idx with
  | .sendIfCond => resp = arg
  | .sendRelativeAddr => cmd3ErrorBitSet resp = false
  | .appCmd => CardStatus.appCmd resp = true
  | .sendStatus => CardStatus.currentState resp = cardStateTransfer
  | _ => True

/-- An R1 or R1b command gets a card status without error bits. -/
def StatusOk (idx : CmdIndex) (as : List Answer) : Prop :=
  sdCmdHasCardStatusResponse idx.command = true →
    ∃ cs, (responses as).head? = some cs ∧ sdCardStatusErrorBitSet cs = false

/-- The exchange went well as the command with index `idx`. -/
structure SucceededAs (idx : CmdIndex) (x : Exchange) : Prop where
  cmdtm : x.cmdtm = idx.cmdtm
  awaited : List.Forall₂ FlagOk idx.awaited (flags x.answers)
  status : StatusOk idx x.answers
  contents : ContentsOk idx x.arg x.response

/-- The exchange went well. -/
def Succeeded (x : Exchange) : Prop := ∃ idx, SucceededAs idx x

theorem Succeeded.as {x : Exchange} (h : Succeeded x) {idx : CmdIndex} (hx : x.cmdtm = idx.cmdtm) :
    SucceededAs idx x := by
  obtain ⟨idx', h'⟩ := h
  obtain rfl := CmdIndex.cmdtm_injective (hx.symm.trans h'.cmdtm)
  exact h'

/-- What the host said in an exchange. -/
def Exchange.label (x : Exchange) : Word × Word := (x.cmdtm, x.arg)

/-- A command to be issued. -/
def CmdIndex.say (idx : CmdIndex) (arg : Word) : Word × Word := (idx.cmdtm, arg)

/-- `sd_issue_cmd` returns without error exactly after these answers. -/
structure Answered (idx : CmdIndex) (as : List Answer) : Prop where
  complete : ∃ f, flags as = [f] ∧ FlagOk interruptCmdComplete f
  status : StatusOk idx as

section Driver

variable {σ : Type} [Device σ] {α : Type} {c : Transcript}
variable {Q : Transcript → Except Halt α → Prop}

/-! ### Accesses -/

theorem registerGet_bind {r : Reg} {f : Word → Drv σ α}
    (h : ∀ v, Watched observe (observe c (.get r v)) (f v) Q) :
    Watched observe c (registerGet r >>= f) Q :=
  Watched.bind_ok (P := fun c' v => c' = observe c (.get r v)) (fun _ => ⟨_, rfl, rfl⟩)
    fun _ v hc => hc ▸ h v

theorem registerSet_bind {r : Reg} {v : Word} {f : Unit → Drv σ α}
    (h : Watched observe (observe c (.set r v)) (f ()) Q) :
    Watched observe c (registerSet r v >>= f) Q :=
  Watched.bind_ok (P := fun c' _ => c' = observe c (.set r v)) (fun _ => ⟨_, rfl, rfl⟩)
    fun _ _ hc => hc ▸ h

omit [Device σ] in
/-- A log line, and then a result. -/
theorem serialLog_pure {fmt : String} {args : List LogArg} {a : α} (h : Q c (.ok a)) :
    Watched observe c (do serialLog fmt args; pure a : Drv σ α) Q :=
  Watched.emit_bind (Watched.pure h)

/-! ### Waiting -/

/-- Only `INTERRUPT` was read. -/
def IrptsOnly (as : List Answer) : Prop := ∀ a ∈ as, ∃ v, a = .irpt v

theorem IrptsOnly.responses {as : List Answer} (h : IrptsOnly as) : responses as = [] := by
  apply List.filterMap_eq_nil_iff.mpr
  intro a ha
  obtain ⟨v, rfl⟩ := h a ha
  rfl

/-- No data and no bus width among the answers. -/
structure Plain (as : List Answer) : Prop where
  data : dataWords as = []
  control0 : control0Writes as = []

theorem IrptsOnly.plain {as : List Answer} (h : IrptsOnly as) : Plain as := by
  constructor <;>
  · apply List.filterMap_eq_nil_iff.mpr
    intro a ha
    obtain ⟨v, rfl⟩ := h a ha
    rfl

theorem Plain.hear_resp {as : List Answer} (h : Plain as) (v : Word) :
    Plain (as ++ [.resp v]) :=
  ⟨by simp [h.data], by simp [h.control0]⟩

/-- The poll loop reads `INTERRUPT` until it is not zero. -/
theorem pollInterrupt_watched (ts : Word) (n : Nat) :
    Watched observe c (pollInterrupt ts n : Drv σ Word) fun c' r =>
      ∃ as, c' = as.foldl Transcript.hear c ∧ IrptsOnly as ∧
        (∀ v, r = .ok v → flags as = if v = 0 then [] else [v]) ∧
        ∀ e, r = .error e → flags as = [] := by
  induction n generalizing c with
  | zero =>
    apply Watched.halt
    exact ⟨[], rfl, by simp [IrptsOnly], by simp, fun _ _ => rfl⟩
  | succ n ih =>
    apply registerGet_bind
    intro v
    have hone : IrptsOnly [.irpt v] := by simp [IrptsOnly]
    apply Watched.ite
    · intro hv
      apply registerSet_bind
      apply Watched.pure
      refine ⟨[.irpt v], rfl, hone, ?_, by simp⟩
      rintro _ ⟨⟩
      rw [flags_cons, Answer.flag?, if_neg hv, if_neg hv]
      rfl
    · intro hv
      obtain rfl : v = 0 := not_not.mp hv
      apply Watched.change_bind
      intro _
      apply Watched.change_bind
      intro done
      apply Watched.ite
      · intro _
        apply Watched.pure
        refine ⟨[.irpt 0], rfl, hone, ?_, by simp⟩
        rintro _ ⟨⟩
        rfl
      · intro _
        apply Watched.mono ih
        rintro c' r ⟨as, rfl, honly, hok, herr⟩
        refine ⟨.irpt 0 :: as, rfl, ?_, ?_, ?_⟩
        · intro a ha
          rcases List.mem_cons.mp ha with rfl | ha
          · exact ⟨0, rfl⟩
          · exact honly a ha
        · exact hok
        · exact herr

/-- `sd_wait_for_interrupt` returns without error exactly when the first flags it saw
were good. -/
theorem sdWaitForInterrupt_watched (mask : Word) :
    Watched observe c (sdWaitForInterrupt mask : Drv σ CmdError) fun c' r =>
      ∃ as, c' = as.foldl Transcript.hear c ∧ IrptsOnly as ∧ r ≠ .ok .responseContents ∧
        (r = .ok .none ↔ ∃ f, flags as = [f] ∧ FlagOk mask f) := by
  have hany : Watched observe c (sdWaitForAnyInterrupt : Drv σ Word) fun c' r =>
      ∃ as, c' = as.foldl Transcript.hear c ∧ IrptsOnly as ∧
        (∀ v, r = .ok v → flags as = if v = 0 then [] else [v]) ∧
        ∀ e, r = .error e → flags as = [] :=
    Watched.change_bind fun ts => Watched.view_bind fun polls => pollInterrupt_watched ts polls
  apply hany.bind
  · rintro _ v ⟨as, rfl, honly, hflags, -⟩
    have hflags := hflags v rfl
    apply Watched.ite
    · rintro rfl
      apply serialLog_pure
      refine ⟨as, rfl, honly, by simp, ?_⟩
      simp [hflags]
    · intro hv
      rw [if_neg hv] at hflags
      apply Watched.ite
      · intro herr
        apply serialLog_pure
        refine ⟨as, rfl, honly, by simp, ?_⟩
        simp [hflags, FlagOk, herr]
      · intro herr
        apply Watched.ite
        · intro hmask
          apply serialLog_pure
          refine ⟨as, rfl, honly, by simp, ?_⟩
          simp [hflags, FlagOk, hmask]
        · intro hmask
          apply Watched.pure
          refine ⟨as, rfl, honly, by simp, ?_⟩
          simp only [true_iff]
          exact ⟨v, hflags, Bool.eq_false_iff.mpr herr, hmask⟩
  · rintro _ e ⟨as, rfl, honly, -, hflags⟩
    refine ⟨as, rfl, honly, by simp, ?_⟩
    simp [hflags e rfl]

/-! ### Issuing a command -/

/-- The transcript after one more command. -/
def Transcript.Said (c c' : Transcript) (xs : List Exchange) : Prop :=
  c'.prelude = c.prelude ∧ c'.exchanges = c.exchanges ++ xs

theorem Transcript.Said.refl : c.Said c [] := ⟨rfl, (List.append_nil _).symm⟩

section Answers

variable {idx : CmdIndex} {as : List Answer}

/-- Where the wait for the command is over and its response is read, the card status in it
decides. -/
theorem answered_hear_resp_iff {f : Word} (cs : Word) (honly : IrptsOnly as) (hf : flags as = [f])
    (hok : FlagOk interruptCmdComplete f)
    (hcs : sdCmdHasCardStatusResponse idx.command = true) :
    Answered idx (as ++ [.resp cs]) ↔ sdCardStatusErrorBitSet cs = false := by
  have hresp := honly.responses
  constructor
  · rintro ⟨-, hstatus⟩
    obtain ⟨cs', hfirst, hgood⟩ := hstatus hcs
    simp only [responses_append, hresp, responses_cons, Answer.resp?, Option.toList_some,
      List.nil_append, List.cons_append, List.head?_cons, Option.some.injEq] at hfirst
    exact hfirst ▸ hgood
  · intro hgood
    exact ⟨⟨f, by simp [hf], hok⟩, fun _ => ⟨cs, by simp [hresp], hgood⟩⟩

/-- Where no response is read, the wait decides: it was not successful, or the response of the
command has no card status. -/
theorem answered_iff_of_wait {error : CmdError}
    (hwait : error = .none ↔ ∃ f, flags as = [f] ∧ FlagOk interruptCmdComplete f)
    (hcs : ¬ (error = .none ∧ sdCmdHasCardStatusResponse idx.command = true)) :
    error = .none ↔ Answered idx as := by
  constructor
  · intro he
    exact ⟨hwait.mp he, fun h => absurd ⟨he, h⟩ hcs⟩
  · rintro ⟨h, -⟩
    exact hwait.mpr h

end Answers

/-- The part of `sd_issue_cmd` that issues the command: it returns without error exactly if the
command was answered. -/
theorem sdIssueCmdUninhibited_watched (idx : CmdIndex) (args : Word) :
    Watched observe c (sdIssueCmdUninhibited idx.command idx.code args : Drv σ CmdError) fun c' r =>
      r ≠ .ok .responseContents ∧
      ∃ as, c.Said c' [⟨idx.cmdtm, args, as⟩] ∧ Plain as ∧ (r = .ok .none ↔ Answered idx as) := by
  apply registerSet_bind
  apply registerSet_bind
  have hwait : Watched observe { c with
      arg1 := args, exchanges := c.exchanges ++ [⟨idx.cmdtm, args, []⟩] }
      (sdWaitForInterrupt interruptCmdComplete : Drv σ CmdError) _ :=
    sdWaitForInterrupt_watched interruptCmdComplete
  apply hwait.bind
  · rintro _ error ⟨as, rfl, honly, hcont, hflags⟩
    rw [foldl_hear_concat rfl, List.nil_append]
    simp only [Except.ok.injEq] at hflags hcont
    have hsaid : c.Said { c with
        arg1 := args, exchanges := c.exchanges ++ [⟨idx.cmdtm, args, as⟩] }
        [⟨idx.cmdtm, args, as⟩] := ⟨rfl, rfl⟩
    apply Watched.ite
    · -- the response is R1, and the card's status is read out of it
      rintro ⟨rfl, hcs⟩
      obtain ⟨f, hf, hok⟩ := hflags.mp rfl
      apply registerGet_bind
      intro cs
      have hsaid' : c.Said (Transcript.hear { c with
          arg1 := args, exchanges := c.exchanges ++ [⟨idx.cmdtm, args, as⟩] } (.resp cs))
          [⟨idx.cmdtm, args, as ++ [.resp cs]⟩] := by
        rw [hear_concat rfl]
        exact ⟨rfl, rfl⟩
      have hanswered := answered_hear_resp_iff cs honly hf hok hcs
      apply Watched.ite
      · intro herr
        apply serialLog_pure
        refine ⟨by simp, _, hsaid', honly.plain.hear_resp cs, ?_⟩
        simp [hanswered, herr]
      · intro herr
        apply Watched.pure
        refine ⟨by simp, _, hsaid', honly.plain.hear_resp cs, ?_⟩
        simpa [hanswered] using herr
    · intro hn
      have hanswered := answered_iff_of_wait hflags hn
      apply Watched.ite
      · intro _
        apply serialLog_pure
        exact ⟨by simpa using hcont, as, hsaid, honly.plain, by simpa using hanswered⟩
      · intro _
        apply Watched.pure
        exact ⟨by simpa using hcont, as, hsaid, honly.plain, by simpa using hanswered⟩
  · -- the wait was cut off
    rintro _ e ⟨as, rfl, honly, -, hflags⟩
    rw [foldl_hear_concat rfl, List.nil_append]
    refine ⟨by simp, as, ⟨rfl, rfl⟩, honly.plain, ?_⟩
    simp only [reduceCtorEq, false_iff] at hflags ⊢
    rintro ⟨h, -⟩
    exact hflags h

/-- `sd_issue_cmd` either issues nothing and returns an error, or issues the one command
and returns without error exactly if it was answered. -/
theorem sdIssueCmd_watched (idx : CmdIndex) (args : Word) :
    Watched observe c (sdIssueCmd idx.code args : Drv σ CmdError) fun c' r =>
      r ≠ .ok .responseContents ∧
      ((c' = c ∧ r ≠ .ok .none) ∨
        ∃ as, c.Said c' [⟨idx.cmdtm, args, as⟩] ∧ Plain as ∧
          (r = .ok .none ↔ Answered idx as)) := by
  rw [sdIssueCmd, getCommand_code]
  apply registerGet_bind
  intro status
  apply Watched.ite
  · intro _
    apply serialLog_pure
    exact ⟨by simp, .inl ⟨rfl, by simp⟩⟩
  intro _
  apply Watched.ite
  · intro _
    apply serialLog_pure
    exact ⟨by simp, .inl ⟨rfl, by simp⟩⟩
  · intro _
    apply (sdIssueCmdUninhibited_watched idx args).mono
    rintro c' r ⟨hcont, hissued⟩
    exact ⟨hcont, .inr hissued⟩

end Driver

end RpiBld
