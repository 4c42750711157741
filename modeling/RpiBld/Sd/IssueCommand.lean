/-
RpiBld/Sd/IssueCommand.lean

Issuing one command, event by event, on every device.

A run of `sd_issue_cmd` is described by its register accesses alone: the reads
of `INTERRUPT` (`irptReads`) and `RESP0` (`respReads`), and the commands it
writes (`commandWrites`).  `Saw mask t` says that the polls of a wait ended
with a good flag, `Issued cmd args t` that the command was written, once, after
a look at `STATUS` that permitted it.

Main results:
* `sdWaitForInterrupt_saw` -- a wait succeeds exactly if it saw its flag;
* `sdIssueCmd_outcome` -- when a command is written, and what its outcome says;
* `sdIssueAcmd_outcome` -- an application command follows an accepted CMD55;
* `sdIssue_gated` -- the two together.
-/
import RpiBld.Confinement
import RpiBld.Sd.Exchange

namespace RpiBld

open Traced

/-! ### What a run reads and writes -/

def Event.irptRead? : Event → Option Word
  | .get (.sd .interrupt) v => some v
  | _ => none

def Event.respRead? : Event → Option Word
  | .get (.sd .resp0) v => some v
  | _ => none

def Event.regWrite? : Event → Option (Reg × Word)
  | .set r v => some (r, v)
  | _ => none

/-- The values read from `INTERRUPT`. -/
def irptReads (t : List Event) : List Word := t.filterMap Event.irptRead?

/-- The values read from `RESP0`. -/
def respReads (t : List Event) : List Word := t.filterMap Event.respRead?

/-- All registers written. -/
def regWrites (t : List Event) : List (Reg × Word) := t.filterMap Event.regWrite?

/-- The writes that make up a command. -/
def commandWrites (t : List Event) : List (Reg × Word) :=
  (regWrites t).filter fun x => x.1 = .sd .arg1 ∨ x.1 = .sd .cmdtm

section Append

variable (t t' : List Event)

@[simp] theorem irptReads_append : irptReads (t ++ t') = irptReads t ++ irptReads t' :=
  List.filterMap_append

@[simp] theorem respReads_append : respReads (t ++ t') = respReads t ++ respReads t' :=
  List.filterMap_append

@[simp] theorem regWrites_append : regWrites (t ++ t') = regWrites t ++ regWrites t' :=
  List.filterMap_append

@[simp] theorem commandWrites_append :
    commandWrites (t ++ t') = commandWrites t ++ commandWrites t' := by
  rw [commandWrites, regWrites_append, List.filter_append]
  rfl

end Append

/-! ### Waiting -/

/-- The polls of a wait ended with a good flag: all zero but the last. -/
def Saw (mask : Word) (t : List Event) : Prop :=
  ∃ k f, irptReads t = List.replicate k 0 ++ [f] ∧ FlagOk mask f

theorem not_saw_of_zeros {mask : Word} {t : List Event} {k : Nat}
    (h : irptReads t = List.replicate k 0) : ¬ Saw mask t := by
  rintro ⟨k', f, hf, -, hmask⟩
  have hmem : f ∈ List.replicate k (0 : Word) := by
    rw [← h, hf]
    simp
  rw [List.eq_of_mem_replicate hmem] at hmask
  exact hmask BitVec.zero_and

/-- The flag that ended the polls is the last value read. -/
theorem saw_iff {mask : Word} {t : List Event} {k : Nat} {f : Word}
    (h : irptReads t = List.replicate k 0 ++ [f]) : Saw mask t ↔ FlagOk mask f := by
  constructor
  · rintro ⟨k', f', hf, hok⟩
    have hlast := congrArg List.getLast? (h.symm.trans hf)
    rw [List.getLast?_concat, List.getLast?_concat] at hlast
    rwa [Option.some.inj hlast]
  · intro hok
    exact ⟨k, f, h, hok⟩

/-- Events that do not poll say nothing about the flags. -/
theorem saw_append {mask : Word} {t t' : List Event} (h : irptReads t' = []) :
    Saw mask (t ++ t') ↔ Saw mask t := by
  unfold Saw
  rw [irptReads_append, h, List.append_nil]

/-- What a wait leaves alone: it writes no command and reads no response. -/
structure Waits (t : List Event) : Prop where
  command : commandWrites t = []
  resp : respReads t = []

theorem Waits.append {t t' : List Event} (h : Waits t) (h' : Waits t') : Waits (t ++ t') where
  command := by rw [commandWrites_append, h.command, h'.command]; rfl
  resp := by rw [respReads_append, h.resp, h'.resp]; rfl

section Driver

variable {σ : Type} {α : Type} {w : World σ}

/-! #### One step, and the rest -/

section Step

variable {R : List Event → Except Halt α → World σ → Prop}

theorem get_wp [Device σ] {r : Reg} {f : Word → Drv σ α}
    (h : ∀ v w', (f v).wp (fun t => R (.get r v :: t)) w') : (registerGet r >>= f).wp R w := by
  unfold Program.wp
  rw [Program.bind_of_ok (show registerGet r w = ⟨[.get r _], .ok _, _⟩ from rfl)]
  exact h _ _

theorem set_wp [Device σ] {r : Reg} {v : Word} {f : Unit → Drv σ α}
    (h : ∀ w', (f ()).wp (fun t => R (.set r v :: t)) w') : (registerSet r v >>= f).wp R w := by
  unfold Program.wp
  rw [Program.bind_of_ok (show registerSet r v w = ⟨[.set r v], .ok (), _⟩ from rfl)]
  exact h _

theorem log_wp {fmt : String} {args : List LogArg} {f : Unit → Drv σ α}
    (h : (f ()).wp (fun t => R (.log fmt args :: t)) w) : (serialLog fmt args >>= f).wp R w := by
  unfold Program.wp
  rw [Program.bind_of_ok (show serialLog fmt args w = ⟨[.log fmt args], .ok (), w⟩ from rfl)]
  exact h

theorem change_wp {β : Type} {g : World σ → β × World σ} {f : β → Drv σ α}
    (h : ∀ b w', (f b).wp R w') : (Program.change g >>= f).wp R w := by
  unfold Program.wp
  rw [Program.change_bind_run]
  exact h _ _

theorem view_wp {β : Type} {g : World σ → β} {f : β → Drv σ α}
    (h : ∀ b, (f b).wp R w) : (Program.view g >>= f).wp R w := by
  unfold Program.wp
  rw [Program.view_bind_run]
  exact h _

end Step

variable [Device σ]

/-- The poll loop: zeros, and then what it returns. -/
theorem pollInterrupt_saw (ts : Word) (n : Nat) (w : World σ) :
    (pollInterrupt ts n).wp (fun t r _ => Waits t ∧
      (∀ v, r = .ok v → ∃ k, irptReads t = List.replicate k 0 ++ [v]) ∧
      (∀ e, r = .error e → e = .hang ∧ ∃ k, irptReads t = List.replicate k 0)) w := by
  induction n generalizing w with
  | zero =>
    refine ⟨⟨rfl, rfl⟩, fun _ h => (by cases h), ?_⟩
    rintro _ ⟨⟩
    exact ⟨rfl, 0, rfl⟩
  | succ n ih =>
    apply get_wp
    intro v w'
    apply Program.wp_ite
    · intro _
      apply set_wp
      intro _
      refine ⟨⟨rfl, rfl⟩, ?_, fun _ h => (by cases h)⟩
      rintro _ ⟨⟩
      exact ⟨0, rfl⟩
    · intro hv
      obtain rfl := not_not.mp hv
      apply change_wp
      intro _ _
      apply change_wp
      intro b w''
      apply Program.wp_ite
      · intro _
        refine ⟨⟨rfl, rfl⟩, ?_, fun _ h => (by cases h)⟩
        rintro _ ⟨⟩
        exact ⟨0, rfl⟩
      · intro _
        apply Program.wp_mono (ih w'')
        rintro t r _ ⟨hwaits, hok, herr⟩
        refine ⟨⟨hwaits.command, hwaits.resp⟩, ?_, ?_⟩
        · intro v hv
          obtain ⟨k, hk⟩ := hok v hv
          refine ⟨k + 1, ?_⟩
          rw [List.replicate_succ, List.cons_append, ← hk]
          rfl
        · intro e he
          obtain ⟨rfl, k, hk⟩ := herr e he
          refine ⟨rfl, k + 1, ?_⟩
          rw [List.replicate_succ, ← hk]
          rfl

/-- **The outcome of a wait says what it saw**: it succeeds exactly if the first flags
other than zero were good.  A wait that does not return was cut off. -/
theorem sdWaitForInterrupt_saw (mask : Word) (w : World σ) :
    (sdWaitForInterrupt mask).wp (fun t r _ => Waits t ∧ (r = .ok .none ↔ Saw mask t) ∧
      ∀ e, r = .error e → e = .hang) w := by
  have hany : (sdWaitForAnyInterrupt).wp (fun t r _ => Waits t ∧
      (∀ v, r = .ok v → ∃ k, irptReads t = List.replicate k 0 ++ [v]) ∧
      (∀ e, r = .error e → e = .hang ∧ ∃ k, irptReads t = List.replicate k 0)) w := by
    apply change_wp
    intro ts w'
    apply view_wp
    intro polls
    exact pollInterrupt_saw ts polls w'
  -- a failed wait ends with a log line, after which nothing is polled
  have hlog : ∀ {t : List Event} {k : Nat} {v : Word} {fmt : String} {args : List LogArg}
      {e : CmdError} (w' : World σ), Waits t → irptReads t = List.replicate k 0 ++ [v] →
      ¬ FlagOk mask v → e ≠ .none →
      (do serialLog fmt args; pure e : Drv σ CmdError).wp (fun t' r _ => Waits (t ++ t') ∧
        (r = .ok .none ↔ Saw mask (t ++ t')) ∧ ∀ e, r = .error e → e = .hang) w' := by
    intro t k v fmt args e w' hwaits hirpt hbad he
    apply log_wp
    have hsame : irptReads (t ++ [.log fmt args]) = List.replicate k 0 ++ [v] := by
      rw [irptReads_append, hirpt]
      exact List.append_nil _
    rw [Program.wp_pure, saw_iff hsame]
    refine ⟨hwaits.append ⟨rfl, rfl⟩, ?_, fun _ h => (by cases h)⟩
    exact ⟨fun h => absurd (Except.ok.inj h) he, fun h => absurd h hbad⟩
  apply Program.wp_bind hany
  · rintro t v w' ⟨hwaits, hok, -⟩
    obtain ⟨k, hk⟩ := hok v rfl
    apply Program.wp_ite
    · rintro rfl
      exact hlog w' hwaits hk (fun h => h.2 BitVec.zero_and) (by decide)
    intro _
    apply Program.wp_ite
    · intro herror
      exact hlog w' hwaits hk (fun h => by rw [h.1] at herror; cases herror) (by decide)
    intro herror
    apply Program.wp_ite
    · intro hmask
      exact hlog w' hwaits hk (fun h => h.2 hmask) (by decide)
    intro hmask
    have hok' : FlagOk mask v := ⟨Bool.eq_false_iff.mpr herror, hmask⟩
    rw [Program.wp_pure, List.append_nil, saw_iff hk]
    exact ⟨hwaits, ⟨fun _ => hok', fun _ => rfl⟩, fun _ h => (by cases h)⟩
  · rintro t e _ ⟨hwaits, -, herr⟩
    obtain ⟨rfl, k, hk⟩ := herr e rfl
    refine ⟨hwaits, ⟨fun h => (by cases h), fun h => absurd h (not_saw_of_zeros hk)⟩, ?_⟩
    rintro _ ⟨⟩
    rfl

/-! ### Issuing a command -/

/-- The error bits of a card status, as one mask. -/
def cardStatusErrorMask : Word := 0xFDF98008

/-- The fields the code looks at are the bits of the mask. -/
theorem sdCardStatusErrorBitSet_eq_false_iff (cs : Word) :
    sdCardStatusErrorBitSet cs = false ↔ cs &&& cardStatusErrorMask = 0 := by
  constructor
  · intro h
    simp only [sdCardStatusErrorBitSet, Bool.or_eq_false_iff] at h
    obtain ⟨⟨⟨⟨⟨⟨⟨⟨⟨⟨⟨⟨⟨⟨h3, h15⟩, h16⟩, h19⟩, h20⟩, h21⟩, h22⟩, h23⟩, h24⟩, h26⟩, h27⟩, h28⟩, h29⟩,
      h30⟩, h31⟩ := h
    apply BitVec.eq_of_getLsbD_eq
    intro i hi
    rw [BitVec.getLsbD_and, show (0 : Word).getLsbD i = false from BitVec.getLsbD_zero,
      Bool.and_eq_false_iff]
    interval_cases i <;> first | exact .inr rfl | exact .inl (by assumption)
  · intro h
    have hbit : ∀ i, cardStatusErrorMask.getLsbD i = true → cs.getLsbD i = false := by
      intro i hi
      have hand : (cs &&& cardStatusErrorMask).getLsbD i = (0 : Word).getLsbD i :=
        congrArg (fun v : Word => v.getLsbD i) h
      rwa [BitVec.getLsbD_and, hi, Bool.and_true,
        show (0 : Word).getLsbD i = false from BitVec.getLsbD_zero] at hand
    simp only [sdCardStatusErrorBitSet, Bool.or_eq_false_iff]
    refine ⟨⟨⟨⟨⟨⟨⟨⟨⟨⟨⟨⟨⟨⟨?_, ?_⟩, ?_⟩, ?_⟩, ?_⟩, ?_⟩, ?_⟩, ?_⟩, ?_⟩, ?_⟩, ?_⟩, ?_⟩, ?_⟩, ?_⟩, ?_⟩
    all_goals exact hbit _ (by decide)

/-- The command uses the data lines: it transfers data, or its response keeps them busy. -/
def UsesDat (cmd : Command) : Prop := cmd.type = .adtc ∨ cmd.response = .r1bNormalBusy

/-- The command is answered with a card status. -/
def AnswersStatus (cmd : Command) : Prop := cmd.response = .r1Normal ∨ cmd.response = .r1bNormalBusy

theorem sdCmdHasCardStatusResponse_iff (cmd : Command) :
    sdCmdHasCardStatusResponse cmd = true ↔ AnswersStatus cmd := by
  rw [sdCmdHasCardStatusResponse, Bool.or_eq_true, beq_iff_eq, beq_iff_eq]
  rfl

/-- The events after `CMDTM` was written show a successful command: the first flags other
than zero are good, and a card status has no error bits. -/
def Accepted (cmd : Command) (t : List Event) : Prop :=
  Saw interruptCmdComplete t ∧
    (AnswersStatus cmd → ∃ cs, respReads t = [cs] ∧ cs &&& cardStatusErrorMask = 0)

/-- How `sd_issue_cmd` can go: it is refused, with an error that says why, and no register
was written, or it is issued, and the result says whether it was accepted. -/
inductive IssueOutcome (idx args : Word) (t : List Event) (r : Except Halt CmdError) : Prop
  | unimplemented : getCommand idx = none → regWrites t = [] → r = .ok .commandUnimplemented →
      IssueOutcome idx args t r
  | cmdInhibited (cmd : Command) (status : Word) (t' : List Event) :
      getCommand idx = some cmd → t = .get (.sd .status) status :: t' →
      status.getLsbD 0 = true → regWrites t' = [] → r = .ok .commandInhibitCmdBitSet →
      IssueOutcome idx args t r
  | datInhibited (cmd : Command) (status : Word) (t' : List Event) :
      getCommand idx = some cmd → t = .get (.sd .status) status :: t' →
      status.getLsbD 0 = false → UsesDat cmd → status.getLsbD 1 = true → regWrites t' = [] →
      r = .ok .commandInhibitDatBitSet → IssueOutcome idx args t r
  | issued (cmd : Command) (status : Word) (t' : List Event) :
      getCommand idx = some cmd → status.getLsbD 0 = false →
      (UsesDat cmd → status.getLsbD 1 = false) →
      t = .get (.sd .status) status :: .set (.sd .arg1) args ::
        .set (.sd .cmdtm) (setCmdtm cmd).toWord :: t' →
      commandWrites t' = [] → (r = .ok .none ↔ Accepted cmd t') →
      (∀ e, r = .error e → e = .hang) → IssueOutcome idx args t r

/-- At most a wait is cut off. -/
theorem IssueOutcome.cut {idx args : Word} {t : List Event} {r : Except Halt CmdError}
    (h : IssueOutcome idx args t r) : ∀ e, r = .error e → e = .hang := by
  cases h with
  | unimplemented _ _ hr => intro e he; rw [hr] at he; cases he
  | cmdInhibited _ _ _ _ _ _ _ hr => intro e he; rw [hr] at he; cases he
  | datInhibited _ _ _ _ _ _ _ _ _ hr => intro e he; rw [hr] at he; cases he
  | issued _ _ _ _ _ _ _ _ _ hcut => exact hcut

theorem not_bit_and {v : Word} {n : Nat} (hn : n < 32) (h : ¬ v &&& bit n ≠ 0) :
    v.getLsbD n = false :=
  (and_bit_eq_zero_iff v hn).mp (not_not.mp h)

theorem bit_and {v : Word} {n : Nat} (hn : n < 32) (h : v &&& bit n ≠ 0) :
    v.getLsbD n = true := by
  rw [ne_eq, and_bit_eq_zero_iff v hn] at h
  exact Bool.not_eq_false _ ▸ h

/-- What follows the two writes of a command. -/
structure Judged (cmd : Command) (t : List Event) (r : Except Halt CmdError) : Prop where
  writes : commandWrites t = []
  accepted : r = .ok .none ↔ Accepted cmd t
  cut : ∀ e, r = .error e → e = .hang

/-- Where the wait was successful and the response is read, the card status in it decides. -/
theorem accepted_resp_iff {cmd : Command} {t t' : List Event} {cs : Word} (hwaits : Waits t)
    (hsaw : Saw interruptCmdComplete t) (hr1 : AnswersStatus cmd) (hirpt : irptReads t' = [])
    (hresp : respReads t' = []) :
    Accepted cmd (t ++ .get (.sd .resp0) cs :: t') ↔ sdCardStatusErrorBitSet cs = false := by
  have hread : respReads (t ++ .get (.sd .resp0) cs :: t') = [cs] := by
    rw [respReads_append, hwaits.resp]
    exact congrArg (cs :: ·) hresp
  rw [sdCardStatusErrorBitSet_eq_false_iff]
  constructor
  · rintro ⟨-, hstatus⟩
    obtain ⟨cs', hcs', hzero⟩ := hstatus hr1
    obtain rfl := List.singleton_inj.mp (hread.symm.trans hcs')
    exact hzero
  · intro hzero
    have hpolls : irptReads (.get (.sd .resp0) cs :: t') = [] := hirpt
    exact ⟨(saw_append hpolls).mpr hsaw, fun _ => ⟨cs, hread, hzero⟩⟩

/-- The part of `sd_issue_cmd` that issues the command. -/
theorem sdIssueCmdUninhibited_judged (cmd : Command) (idx args : Word) (w : World σ) :
    (sdIssueCmdUninhibited cmd idx args).wp (fun t r _ => ∃ t', t = .set (.sd .arg1) args ::
      .set (.sd .cmdtm) (setCmdtm cmd).toWord :: t' ∧ Judged cmd t' r) w := by
  apply set_wp
  intro w₁
  apply set_wp
  intro w₂
  refine Program.wp_mono (P := fun t r _ => Judged cmd t r) ?_ fun t r _ h => ⟨t, rfl, h⟩
  apply Program.wp_bind (sdWaitForInterrupt_saw interruptCmdComplete w₂)
  · rintro t error w₃ ⟨hwaits, hsaw, -⟩
    apply Program.wp_ite
    · rintro ⟨rfl, hr1⟩
      apply get_wp
      intro cs w₄
      have hstatus : ∀ t', irptReads t' = [] → respReads t' = [] →
          (Accepted cmd (t ++ .get (.sd .resp0) cs :: t') ↔ sdCardStatusErrorBitSet cs = false) :=
        fun t' =>
          accepted_resp_iff hwaits (hsaw.mp rfl) ((sdCmdHasCardStatusResponse_iff cmd).mp hr1)
      have hwrites : ∀ t', commandWrites t' = [] →
          commandWrites (t ++ .get (.sd .resp0) cs :: t') = [] := by
        intro t' ht'
        rw [commandWrites_append, hwaits.command]
        exact ht'
      apply Program.wp_ite
      · intro hbits
        apply log_wp
        refine ⟨hwrites _ rfl, ?_, fun _ h => (by cases h)⟩
        rw [hstatus _ rfl rfl, hbits]
        exact ⟨fun h => (by cases h), fun h => (by cases h)⟩
      · intro hbits
        refine ⟨hwrites _ rfl, ?_, fun _ h => (by cases h)⟩
        rw [hstatus _ rfl rfl]
        exact ⟨fun _ => Bool.eq_false_iff.mpr hbits, fun _ => rfl⟩
    · intro hplain
      apply Program.wp_ite
      · -- the wait failed
        intro herror
        apply log_wp
        refine ⟨?_, ⟨?_, ?_⟩, fun _ h => (by cases h)⟩
        · rw [commandWrites_append, hwaits.command]
          rfl
        · intro h
          exact absurd (Except.ok.inj h) herror
        · rintro ⟨hsaw', -⟩
          exact absurd (hsaw.mpr ((saw_append rfl).mp hsaw')) (by simpa using herror)
      · -- the response is none that has a card status
        intro hnone
        obtain rfl := not_not.mp hnone
        rw [Program.wp_pure, List.append_nil]
        refine ⟨hwaits.command, ⟨fun _ => ⟨hsaw.mp rfl, ?_⟩, fun _ => rfl⟩, fun _ h => (by cases h)⟩
        intro hr1
        exact absurd ⟨rfl, (sdCmdHasCardStatusResponse_iff cmd).mpr hr1⟩ hplain
  · rintro t e w₃ ⟨hwaits, hsaw, herr⟩
    refine ⟨hwaits.command, ⟨fun h => (by cases h), ?_⟩, herr⟩
    rintro ⟨hsaw', -⟩
    cases hsaw.mpr hsaw'

/-- How `sd_issue_cmd` goes. -/
theorem sdIssueCmd_outcome (idx args : Word) (w : World σ) :
    (sdIssueCmd idx args).wp (fun t r _ => IssueOutcome idx args t r) w := by
  unfold sdIssueCmd
  split
  case h_1 hcmd =>
    apply log_wp
    exact .unimplemented hcmd rfl rfl
  case h_2 cmd hcmd =>
    apply get_wp
    intro status w₁
    apply Program.wp_ite
    · intro hcmdline
      apply log_wp
      exact .cmdInhibited cmd status _ hcmd rfl (bit_and (by decide) hcmdline) rfl rfl
    intro hcmdline
    have hcmdfree : status.getLsbD 0 = false := not_bit_and (by decide) hcmdline
    apply Program.wp_ite
    · rintro ⟨huses, hdat⟩
      apply log_wp
      exact .datInhibited cmd status _ hcmd rfl hcmdfree huses (bit_and (by decide) hdat) rfl rfl
    intro hdat
    have hdatfree : UsesDat cmd → status.getLsbD 1 = false := by
      intro huses
      apply not_bit_and (by decide)
      exact fun hset => hdat ⟨huses, hset⟩
    apply Program.wp_mono (sdIssueCmdUninhibited_judged cmd idx args w₁)
    rintro _ r w₂ ⟨t, rfl, hwrites, haccepted, hcut⟩
    exact .issued cmd status t hcmd hcmdfree hdatfree rfl hwrites haccepted hcut

/-! ### Application commands -/

/-- The relative card address goes to the upper half of the argument. -/
theorem acRcaArgs_eq (rca : Int) : acRcaArgs rca = BitVec.ofInt 32 rca <<< 16 := by
  apply BitVec.eq_of_toNat_eq
  rw [acRcaArgs, BitVec.toNat_append, BitVec.toNat_shiftLeft, BitVec.toNat_ofInt,
    BitVec.toNat_ofInt]
  simp only [BitVec.toNat_ofNat, Nat.zero_mod, Nat.or_zero, Nat.shiftLeft_eq]
  omega

/-- How `sd_issue_acmd` can go: CMD55 with the card address comes first, and the application
command only after CMD55 returned without error and its response has bit 5 set. -/
inductive IssueAcmdOutcome (idx args : Word) (rca : Int) (t : List Event)
    (r : Except Halt CmdError) : Prop
  | cmd55Failed : IssueOutcome CmdIndex.appCmd.code (BitVec.ofInt 32 rca <<< 16) t r →
      r ≠ .ok .none → IssueAcmdOutcome idx args rca t r
  | notAppCmd (t₅₅ t' : List Event) (cs : Word) :
      IssueOutcome CmdIndex.appCmd.code (BitVec.ofInt 32 rca <<< 16) t₅₅ (.ok .none) →
      t = t₅₅ ++ .get (.sd .resp0) cs :: t' → cs.getLsbD 5 = false → regWrites t' = [] →
      r = .ok .responseContents → IssueAcmdOutcome idx args rca t r
  | issued (t₅₅ t' : List Event) (cs : Word) :
      IssueOutcome CmdIndex.appCmd.code (BitVec.ofInt 32 rca <<< 16) t₅₅ (.ok .none) →
      t = t₅₅ ++ .get (.sd .resp0) cs :: t' → cs.getLsbD 5 = true →
      IssueOutcome idx args t' r → IssueAcmdOutcome idx args rca t r

theorem sdIssueAcmd_outcome (idx args : Word) (rca : Int) (w : World σ) :
    (sdIssueAcmd idx args rca).wp (fun t r _ => IssueAcmdOutcome idx args rca t r) w := by
  have h55 := sdIssueCmd_outcome CmdIndex.appCmd.code (acRcaArgs rca) w
  rw [acRcaArgs_eq] at h55
  unfold sdIssueAcmd
  rw [acRcaArgs_eq]
  apply Program.wp_bind h55
  · intro t error w₁ hout
    apply Program.wp_ite
    · intro herror
      rw [Program.wp_pure, List.append_nil]
      exact .cmd55Failed hout (by simpa using herror)
    intro hnone
    obtain rfl := not_not.mp hnone
    apply get_wp
    intro cs w₂
    apply Program.wp_ite
    · intro hbit
      apply log_wp
      exact .notAppCmd t _ cs hout rfl (Bool.eq_false_iff.mpr hbit) rfl rfl
    · intro hbit
      apply Program.wp_mono (sdIssueCmd_outcome idx args w₂)
      intro t' r _ hout'
      exact .issued t t' cs hout rfl (not_not.mp hbit) hout'
  · intro t e w₁ hout
    exact .cmd55Failed hout (by simp)

/-- **Issuing a command is gated and checked**, on every device: a command is written exactly
where the table has it and `STATUS` permits it, its result says whether it was accepted, and
an application command follows an accepted CMD55 only. -/
theorem sdIssue_gated (idx args : Word) (w : World σ) :
    (sdIssueCmd idx args).wp (fun t r _ => IssueOutcome idx args t r) w ∧
      ∀ rca, (sdIssueAcmd idx args rca).wp (fun t r _ => IssueAcmdOutcome idx args rca t r) w :=
  ⟨sdIssueCmd_outcome idx args w, fun rca => sdIssueAcmd_outcome idx args rca w⟩

end Driver

end RpiBld
