/-
RpiBld/EntryTalk.lean

All that the bootloader ever says to the SD card, from its entry point to the
kernel, on every device and whatever it answers.

A run of `c_entry` goes through four stages: the initialisation script, the
reads of the loader, the reset of the card, and the kernel (`Session`).  A
stage is entered only where the one before it was carried out in full, and
within a stage nothing follows a command that did not go well.

The reads are those of the run itself: each call of `sd_read_blocks` stands in
the trace with its LBA and its size, and its plan is worked out from these and
from what the initialisation found out about the card (`requested`).

Main result:
* `cEntry_session` -- every run of `c_entry` is such a session.
-/
import RpiBld.Lockstep
import RpiBld.BootChecks
import RpiBld.Sd.Initialisation
import RpiBld.Sd.ReadPlan

namespace RpiBld

open Traced

/-! ### Read requests -/

/-- The commands of the read requests of a run. -/
def requested (card : Card) (t : List Event) : List ReadStep :=
  (sdReads t).flatMap fun q => readPlan card q.2.1 q.2.2.toNat

/-- The read commands of a run that ended with `r`. -/
structure ReadsSaid {α : Type} (card : Card) (t : List Event) (r : Except Halt α)
    (xs : List Taken) : Prop where
  broken : Partial Prod.fst Went (requested card t) xs
  done : ∀ a, r = .ok a → Complete Prod.fst Went (requested card t) xs

theorem requested_append (card : Card) (t t' : List Event) :
    requested card (t ++ t') = requested card t ++ requested card t' := by
  rw [requested, sdReads_append, List.flatMap_append]
  rfl

theorem requested_of_plain (card : Card) {t : List Event} (ht : ∀ e ∈ t, e.sdRead? = none) :
    requested card t = [] := by
  have hnone : sdReads t = [] := List.filterMap_eq_nil_iff.mpr ht
  rw [requested, hnone, List.flatMap_nil]

theorem readPlan_zero (card : Card) (lba : Word) : readPlan card lba 0 = [] := by
  unfold readPlan
  exact if_neg (Nat.not_lt_zero _)

/-- One request, and what is below it. -/
theorem requested_read (card : Card) (dest lba : Word) (n : Int) {t : List Event}
    (ht : ∀ e ∈ t, e.sdRead? = none) :
    requested card (.sdRead dest lba n :: t) = readPlan card lba n.toNat := by
  have hsplit := requested_append card [.sdRead dest lba n] t
  rw [requested_of_plain card ht, List.append_nil] at hsplit
  refine hsplit.trans ?_
  show List.flatMap _ [(dest, lba, n)] = _
  rw [List.flatMap_singleton]

/-- What is said after reads that went well. -/
theorem ReadsSaid.after {α : Type} {card : Card} {t t' : List Event} {r : Except Halt α}
    {xs ys : List Taken} (hys : ReadsSaid card t' r ys)
    (hxs : Complete Prod.fst Went (requested card t) xs) :
    ReadsSaid card (t ++ t') r (xs ++ ys) where
  broken := by
    rw [requested_append]
    exact hxs.followedBy hys.broken
  done a ha := by
    rw [requested_append]
    exact hxs.append (hys.done a ha)

/-- Two runs, one after the other. -/
theorem said_append {c : Transcript} {t t' : List Event} {xs ys : List Taken}
    (h : c.Said (t.foldl observe c) (xs.map Taken.exchange))
    (h' : (t.foldl observe c).Said (t'.foldl observe (t.foldl observe c))
      (ys.map Taken.exchange)) :
    c.Said ((t ++ t').foldl observe c) ((xs ++ ys).map Taken.exchange) := by
  rw [List.foldl_append, List.map_append]
  exact ⟨h'.1.trans h.1, by rw [h'.2, h.2, List.append_assoc]⟩

/-! ### Programs that say nothing but reads -/

section Judgment

variable {σ : Type} {α β : Type} {card : Card}

/-- Every run of `m` says the commands of its read requests to the card, and nothing else. -/
def SaysReads (card : Card) (m : Drv σ α) : Prop :=
  ∀ (c : Transcript) (w : World σ), m.wp (fun t r _ => ∃ xs : List Taken,
    c.Said (t.foldl observe c) (xs.map Taken.exchange) ∧ ReadsSaid card t r xs) w

namespace SaysReads

/-- A program that neither asks for a read nor is heard by the card. -/
theorem silent {m : Drv σ α} (h : Program.Emits (fun e => Quiet e ∧ e.sdRead? = none) m) :
    SaysReads card m := by
  intro c w
  have hquiet : Watched observe c m fun c' _ => c' = c := Watched.of_emits h fun c e he => he.1 c
  have hnone := requested_of_plain card fun e he => (h w e he).2
  refine ⟨[], ?_, ?_, ?_⟩
  · rw [show (m w).events.foldl observe c = c from hquiet w]
    exact Transcript.Said.refl
  · rw [hnone]
    exact Partial.nil
  · intro _ _
    rw [hnone]
    exact Complete.nil

theorem pure (a : α) : SaysReads card (Pure.pure a : Drv σ α) := silent (Program.Emits.pure a)

theorem signal (e : ErrorCode) : SaysReads card (signalError e : Drv σ α) :=
  silent (Program.Emits.halt _)

theorem view (f : World σ → α) : SaysReads card (Program.view f : Drv σ α) :=
  silent (Program.Emits.view f)

theorem log (fmt : String) (args : List LogArg) : SaysReads card (serialLog fmt args : Drv σ Unit) :=
  silent (Program.Emits.emit ⟨fun _ => rfl, rfl⟩)

theorem bind {m : Drv σ α} {f : α → Drv σ β} (hm : SaysReads card m)
    (hf : ∀ a, SaysReads card (f a)) : SaysReads card (m >>= f) := by
  intro c w
  apply Program.wp_bind (hm c w)
  · rintro t a w' ⟨xs, hsaid, hxs⟩
    apply Program.wp_mono (hf a _ w')
    rintro t' r w'' ⟨ys, hsaid', hys⟩
    exact ⟨xs ++ ys, said_append hsaid hsaid', hys.after (hxs.done a rfl)⟩
  · rintro t e w' ⟨xs, hsaid, hxs⟩
    refine ⟨xs, hsaid, hxs.broken, ?_⟩
    rintro b ⟨⟩

theorem ite {p : Prop} [Decidable p] {m m' : Drv σ α} (hm : SaysReads card m)
    (hm' : SaysReads card m') : SaysReads card (if p then m else m') := by
  by_cases hp : p
  · rw [if_pos hp]; exact hm
  · rw [if_neg hp]; exact hm'

/-- An error message and its signal. -/
theorem failure (fmt : String) (args : List LogArg) (e : ErrorCode) :
    SaysReads card (do serialLog fmt args; signalError e : Drv σ α) :=
  (log fmt args).bind fun _ => signal e

variable [Device σ]

/-- A read request. -/
theorem read_said (dest lba : Word) (n : Int) (c : Transcript) (w : World σ) :
    (sdReadBlocks card dest lba n : Drv σ Bool).wp (fun t r _ =>
      ∃ xs : List Taken, c.Said (t.foldl observe c) (xs.map Taken.exchange) ∧
        Partial Prod.fst Went (requested card t) xs ∧
        (r = .ok true → Complete Prod.fst Went (requested card t) xs)) w := by
  have hemit : (Program.emit (.sdRead dest lba n) : Drv σ Unit).wp
      (fun t r w' => t = [.sdRead dest lba n] ∧ r = .ok () ∧ w' = w) w := ⟨rfl, rfl, rfl⟩
  apply Program.wp_bind hemit
  swap
  · rintro t e w' ⟨-, h, -⟩
    cases h
  rintro _ _ w' ⟨rfl, -, rfl⟩
  -- a request for no blocks says nothing
  have hfollows : Follows (sdReadBlocksCard dest lba n card : Drv σ Bool) (· = true)
      (readPlan card lba n.toNat) := by
    rcases Int.le_total 0 n with hn | hn
    · have h := sdReadBlocksCard_follows (σ := σ) card dest lba n.toNat
      rwa [Int.toNat_of_nonneg hn] at h
    · rw [sdReadBlocksCard_of_nonpos hn, Int.toNat_of_nonpos hn, readPlan_zero]
      exact Follows.pure rfl
  have hplain := (sdReadBlocksCard_plain (σ := σ) card dest lba n).wp w'
  refine Program.wp_mono (Program.wp_and hplain (hfollows c c Transcript.Said.refl w')) ?_
  rintro t r w'' ⟨hplain, ys, hsaid, xs, rfl, hxs⟩
  have hreq := requested_read card dest lba n fun e he => (hplain e he).2
  show ∃ ys : List Taken, c.Said (t.foldl observe c) (ys.map Taken.exchange) ∧
    Partial Prod.fst Went (requested card (.sdRead dest lba n :: t)) ys ∧
    (r = .ok true → Complete Prod.fst Went (requested card (.sdRead dest lba n :: t)) ys)
  rw [hreq]
  refine ⟨xs, hsaid, ?_⟩
  rcases hxs with ⟨a, rfl, rfl, hcomplete⟩ | ⟨hbad, hbroken⟩
  · exact ⟨hcomplete.toPartial, fun _ => hcomplete⟩
  · exact ⟨hbroken, fun hr => absurd rfl (hbad true hr)⟩

/-- A read request, after which the program goes on only where it went well. -/
theorem read_bind {dest lba : Word} {n : Int} {e : ErrorCode} {m : Drv σ α}
    (hm : SaysReads card m) : SaysReads card (do
      if ¬ (← sdReadBlocks card dest lba n) then signalError e
      else m : Drv σ α) := by
  intro c w
  apply Program.wp_bind (read_said dest lba n c w)
  · rintro t ok w' ⟨xs, hsaid, hbroken, hcomplete⟩
    cases ok with
    | false =>
      show ∃ ys : List Taken, c.Said ((t ++ []).foldl observe c) (ys.map Taken.exchange) ∧
        ReadsSaid card (t ++ []) (.error (.signalled e) : Except Halt α) ys
      rw [List.append_nil]
      refine ⟨xs, hsaid, hbroken, ?_⟩
      rintro a ⟨⟩
    | true =>
      have hdone := hcomplete rfl
      apply Program.wp_mono (hm _ w')
      rintro t' r w'' ⟨ys, hsaid', hys⟩
      exact ⟨xs ++ ys, said_append hsaid hsaid', hys.after hdone⟩
  · rintro t e w' ⟨xs, hsaid, hbroken, -⟩
    refine ⟨xs, hsaid, hbroken, ?_⟩
    rintro a ⟨⟩

end SaysReads

/-! ### The loader -/

variable [Device σ] (card)

theorem loadMbr_saysReads (p : Int) : SaysReads card (loadMbr card p : Drv σ Word) := by
  apply (SaysReads.log _ _).bind
  intro _
  apply SaysReads.read_bind
  apply (SaysReads.view _).bind
  intro magic
  apply SaysReads.ite (.failure _ _ _)
  apply SaysReads.ite (.failure _ _ _)
  exact (SaysReads.log _ _).bind fun _ => .pure _

theorem loadImageHead_saysReads (p : Int) (mbr : Word) :
    SaysReads card (loadImageHead card p mbr : Drv σ Word) := by
  apply (SaysReads.view _).bind
  intro lba
  apply (SaysReads.view _).bind
  intro nblks
  apply (SaysReads.log _ _).bind
  intro _
  apply SaysReads.read_bind
  apply (SaysReads.view _).bind
  intro magic
  apply (SaysReads.view _).bind
  intro imgsz
  apply SaysReads.ite (.failure _ _ _)
  apply SaysReads.ite (.failure _ _ _)
  exact (SaysReads.log _ _).bind fun _ => .pure _

theorem loadItem_saysReads (id : ItemId) (dest lba : Word) :
    SaysReads card (loadItem card id dest lba : Drv σ Unit) := by
  have hrest : SaysReads card (loadItemRest card dest lba : Drv σ Unit) := by
    apply (SaysReads.view _).bind
    intro datasz
    exact .ite (SaysReads.read_bind (.pure ())) (.pure ())
  apply (SaysReads.log _ _).bind
  intro _
  apply SaysReads.read_bind
  apply (SaysReads.view _).bind
  intro itemId
  apply SaysReads.ite (.failure _ _ _)
  apply hrest.bind
  intro _
  exact (SaysReads.view _).bind fun _ => .log _ _

theorem loadImage_saysReads (p : Int) : SaysReads card (loadImage card p : Drv σ Unit) := by
  have hkernel : SaysReads card (validateKernel : Drv σ Unit) := by
    apply (SaysReads.view _).bind
    intro datasz
    apply SaysReads.ite (.failure _ _ _)
    exact (SaysReads.view _).bind fun _ => .ite (.failure _ _ _) (.log _ _)
  have hdtb : SaysReads card (validateDeviceTreeBlob : Drv σ Unit) :=
    (SaysReads.view _).bind fun _ => .ite (.failure _ _ _) (.log _ _)
  have hnblks : ∀ a, SaysReads card (itemNblks a : Drv σ Word) :=
    fun _ => (SaysReads.view _).bind fun _ => .pure _
  apply (loadMbr_saysReads card p).bind
  intro mbr
  apply (loadImageHead_saysReads card p mbr).bind
  intro lba
  apply (loadItem_saysReads card _ _ _).bind
  intro _
  apply hkernel.bind
  intro _
  apply (hnblks _).bind
  intro n
  apply (loadItem_saysReads card _ _ _).bind
  intro _
  apply hdtb.bind
  intro _
  exact (hnblks _).bind fun _ => loadItem_saysReads card _ _ _

end Judgment

/-! ### The session -/

/-- The reset of the card. -/
def resetCommands : List (Word × Word) := [CmdIndex.goIdleState.say 0]

/-- The conversation of a run of `c_entry` with the events `t`: how it ended, and what was
said. -/
inductive Session (t : List Event) : Except Halt Word → List Exchange → Prop
  /-- The card was not initialised; nothing was read. -/
  | initialising {r : Except Halt Word} {r' : Except Halt (SdInitError × Card)} {tries : Nat}
      {rca : Int} {wide : Bool} {init : List Exchange} :
      1 ≤ tries → InitTalk r' tries rca wide init → (∀ card, r' ≠ .ok (.none, card)) →
      sdReads t = [] → (∀ a, r ≠ .ok a) → Session t r init
  /-- The image was not loaded. -/
  | loading {r : Except Halt Word} {card : Card} {tries : Nat} {rca : Int} {wide : Bool}
      {init : List Exchange} {reads : List Taken} :
      1 ≤ tries → InitTalk (.ok (.none, card)) tries rca wide init →
      Partial Prod.fst Went (requested card t) reads →
      (∀ a, r ≠ .ok a) → Session t r (init ++ reads.map Taken.exchange)
  /-- The card was not reset. -/
  | resetting {r : Except Halt Word} {card : Card} {tries : Nat} {rca : Int} {wide : Bool}
      {init : List Exchange} {reads : List Taken} {reset : List Exchange} :
      1 ≤ tries → InitTalk (.ok (.none, card)) tries rca wide init →
      Complete Prod.fst Went (requested card t) reads → BrokenOff resetCommands reset →
      (∀ a, r ≠ .ok a) → Session t r (init ++ reads.map Taken.exchange ++ reset)
  /-- The kernel was entered. -/
  | handedOver {card : Card} {tries : Nat} {rca : Int} {wide : Bool}
      {init : List Exchange} {reads : List Taken} {reset : List Exchange} :
      1 ≤ tries → InitTalk (.ok (.none, card)) tries rca wide init →
      Complete Prod.fst Went (requested card t) reads → Followed resetCommands reset →
      Session t (.ok kernRamAddr) (init ++ reads.map Taken.exchange ++ reset)

section Driver

variable {σ : Type} [Device σ]

theorem permits_quiet : Permits Quiet notSd where
  get r v hr := quiet_get (by cases r <;> first | rfl | exact hr.elim) v
  set r v hr := quiet_set (by cases r <;> first | rfl | exact hr.elim) v
  log _ _ _ := rfl

theorem permits_noRead : Permits (fun e => e.sdRead? = none) fun _ => True where
  get _ _ _ := rfl
  set _ _ _ := rfl
  log _ _ := rfl

/-! ### Initialising -/

/-- Nothing was said. -/
theorem InitTalk.unsaid {r : Except Halt (SdInitError × Card)} (hr : ∀ card, r ≠ .ok (.none, card)) :
    InitTalk r 1 0 false [] := by
  have ho : Outcome (identifyCommands 1) False [] :=
    ⟨HostUntouched.nil, Partial.nil, False.elim⟩
  exact InitTalk.of_outcome ho hr

theorem sdInitCard_talk : Watched observe {} (sdInitCard : Drv σ (SdInitError × Card)) fun c r =>
    ∃ tries rca wide, 1 ≤ tries ∧ InitTalk r tries rca wide c.exchanges := by
  apply Watched.emit_bind
  apply sdPreCmdInit_watched.bind
  · rintro c _ ⟨hxs, -⟩
    apply (sdInitCard_commands_talk c c Transcript.Said.refl).mono
    rintro c' r ⟨ys, ⟨-, hys⟩, h⟩
    rw [hxs, List.nil_append] at hys
    rwa [hys]
  · rintro c e ⟨hxs, -⟩
    rw [hxs]
    exact ⟨1, 0, false, le_refl 1, InitTalk.unsaid (by simp)⟩

/-- How `init_peripherals` ends, told from how `sd_init_card` did. -/
structure Initialised (r : Except Halt Card) (r' : Except Halt (SdInitError × Card)) : Prop where
  ok : ∀ card, r = .ok card → r' = .ok (.none, card)
  error : ∀ e, r = .error e → ∀ card, r' ≠ .ok (.none, card)

theorem initPeripherals_talk : Watched observe {} (initPeripherals : Drv σ Card) fun c r =>
    ∃ r' tries rca wide, 1 ≤ tries ∧ InitTalk r' tries rca wide c.exchanges ∧
      Initialised r r' := by
  have huart : Watched observe {} (uartInit : Drv σ Unit) fun c _ => c = {} :=
    Watched.of_emits ((permits_quiet.ramLockstep.tags mailing_notSd).uartInit wiring_notSd)
      fun c e he => he c
  apply huart.bind
  swap
  · rintro _ e rfl
    refine ⟨.error e, 1, 0, false, le_refl 1, InitTalk.unsaid (by simp), ?_, ?_⟩
    · rintro card ⟨⟩
    · rintro _ _ card ⟨⟩
  rintro _ _ rfl
  apply Watched.emit_bind
  apply sdInitCard_talk.bind
  · rintro c ⟨error, card⟩ ⟨tries, rca, wide, htries, htalk⟩
    apply Watched.ite
    · intro herror
      apply Watched.emit_bind
      apply Watched.halt
      refine ⟨_, tries, rca, wide, htries, htalk, ?_, ?_⟩
      · rintro card' ⟨⟩
      · rintro _ _ card' h
        cases h
        exact herror rfl
    · intro herror
      obtain rfl := not_not.mp herror
      apply Watched.pure
      refine ⟨_, tries, rca, wide, htries, htalk, ?_, ?_⟩
      · rintro card' ⟨⟩
        rfl
      · rintro e ⟨⟩
  · rintro c e ⟨tries, rca, wide, htries, htalk⟩
    refine ⟨_, tries, rca, wide, htries, htalk, ?_, ?_⟩
    · rintro card ⟨⟩
    · rintro _ _ card ⟨⟩

theorem initPeripherals_sdReads (w : World σ) :
    sdReads ((initPeripherals : Drv σ Card) w).events = [] := by
  apply List.filterMap_eq_nil_iff.mpr
  exact (permits_noRead.ramLockstep.tags mailing_true).initPeripherals (issuing_true _)
    (issuing_true _) settingUp_true wiring_true w

/-! ### Resetting -/

theorem resetPeripherals_talk (card : Card) :
    Talk [] (resetPeripherals card : Drv σ Unit) fun ys r =>
      BrokenOff resetCommands ys ∧ ∀ a, r = .ok a → Followed resetCommands ys := by
  have hreset : Talk [] (sdResetCard card : Drv σ (Bool × Card)) fun ys r =>
      BrokenOff resetCommands ys ∧ ∀ a, r = .ok a → a.1 = true → Followed resetCommands ys := by
    apply (sdIssueCmd_talk (σ := σ) .goIdleState 0 rfl fun _ => trivial).bind
    · rintro ys error ho
      apply Talk.ite
      · intro herror
        apply Talk.pure
        refine ⟨ho.broken, ?_⟩
        rintro _ ⟨⟩ ⟨⟩
      · intro herror
        obtain rfl := not_not.mp herror
        have hfollowed := ho.followed rfl
        apply Talk.quiet_bind sdResetHost_quiet
        · intro _
          exact Talk.pure ⟨ho.broken, fun _ _ _ => hfollowed⟩
        · intro e
          refine ⟨ho.broken, ?_⟩
          rintro a ⟨⟩
    · rintro ys e ho
      refine ⟨ho.broken, ?_⟩
      rintro a ⟨⟩
  apply hreset.bind
  · rintro ys ⟨ok, card'⟩ ⟨hbroken, hfollowed⟩
    cases ok with
    | false =>
      apply Talk.log_bind
      apply Talk.halt
      refine ⟨hbroken, ?_⟩
      rintro a ⟨⟩
    | true => exact Talk.pure ⟨hbroken, fun _ _ => hfollowed _ rfl rfl⟩
  · rintro ys e ⟨hbroken, -⟩
    refine ⟨hbroken, ?_⟩
    rintro a ⟨⟩

/-! ### The whole run -/

/-- **A run of `c_entry` is a session with the card**, on every device: the initialisation
script, the read commands of the run's own requests, and the reset, each begun only after
the one before it was carried out, and broken off where a command did not go well; the kernel
is entered exactly with the last of them. -/
theorem cEntry_session (labels : Labels) (imagePartition : Int) (w : World σ) :
    let run := (cEntry labels imagePartition : Drv σ Word) w
    Session run.events run.result (transcript run.events).exchanges := by
  have h : (cEntry labels imagePartition : Drv σ Word).wp (fun t r _ =>
      Session t r (t.foldl observe {}).exchanges) w := by
    have hinstall : (installVectorTable labels : Drv σ Unit).wp
        (fun t r _ => t = [] ∧ r = .ok ()) w := ⟨rfl, rfl⟩
    apply Program.wp_bind hinstall
    swap
    · rintro t e w' ⟨-, h⟩
      cases h
    rintro _ _ w₀ ⟨rfl, -⟩
    -- the initialisation
    have hinit := initPeripherals_talk (σ := σ) w₀
    have hinitReads : (initPeripherals : Drv σ Card).wp (fun t _ _ => sdReads t = []) w₀ :=
      initPeripherals_sdReads w₀
    apply Program.wp_bind (Program.wp_and hinit hinitReads)
    swap
    · rintro t e w' ⟨⟨r', tries, rca, wide, htries, htalk, hr⟩, hreads⟩
      exact .initialising htries htalk (hr.error e rfl) hreads (by simp)
    rintro t₁ card w₁ ⟨⟨r', tries, rca, wide, htries, htalk, hr⟩, hreads₁⟩
    obtain rfl := hr.ok card rfl
    -- the loader
    apply Program.wp_bind (loadImage_saysReads card imagePartition _ w₁)
    swap
    · rintro t₂ e w' ⟨reads, hsaid, hxs⟩
      have hreq : requested card (t₁ ++ t₂) = requested card t₂ := by
        rw [requested_append, requested, hreads₁]
        rfl
      show Session (t₁ ++ t₂) _ ((t₁ ++ t₂).foldl observe {}).exchanges
      rw [List.foldl_append, hsaid.2]
      exact .loading htries htalk (hreq ▸ hxs.broken) (by simp)
    rintro t₂ _ w₂ ⟨reads, hsaid, hxs⟩
    have hcomplete := hxs.done () rfl
    -- the reset
    have hresetReads : (resetPeripherals card : Drv σ Unit).wp (fun t _ _ => sdReads t = []) w₂ :=
      List.filterMap_eq_nil_iff.mpr
        (permits_noRead.lockstep.resetPeripherals (issuing_true _) settingUp_true card w₂)
    let c₂ : Transcript := t₂.foldl observe (t₁.foldl observe {})
    have hreset := resetPeripherals_talk card c₂ c₂ Transcript.Said.refl w₂
    have hreq : ∀ t₃, sdReads t₃ = [] → requested card (t₁ ++ (t₂ ++ t₃)) = requested card t₂ := by
      intro t₃ ht₃
      rw [requested_append, requested_append, requested, requested, requested, hreads₁, ht₃]
      simp
    apply Program.wp_bind (Program.wp_and hreset hresetReads)
    swap
    · rintro t₃ e w' ⟨⟨ys, hys, hbroken, -⟩, ht₃⟩
      show Session (t₁ ++ (t₂ ++ t₃)) _ ((t₁ ++ (t₂ ++ t₃)).foldl observe {}).exchanges
      rw [List.foldl_append, List.foldl_append, hys.2, hsaid.2]
      exact .resetting htries htalk (hreq t₃ ht₃ ▸ hcomplete) hbroken (by simp)
    rintro t₃ _ w₃ ⟨⟨ys, hys, -, hfollowed⟩, ht₃⟩
    have hlog : sdReads (t₃ ++ [Event.log "Jumping to kernel..." []]) = [] := by
      rw [sdReads_append, ht₃]
      rfl
    show Session (t₁ ++ (t₂ ++ (t₃ ++ [Event.log "Jumping to kernel..." []]))) _
      ((t₁ ++ (t₂ ++ (t₃ ++ [Event.log "Jumping to kernel..." []]))).foldl observe {}).exchanges
    rw [List.foldl_append, List.foldl_append, List.foldl_append]
    show Session _ _ (t₃.foldl observe _).exchanges
    rw [hys.2, hsaid.2]
    exact .handedOver htries htalk (hreq _ hlog ▸ hcomplete) (hfollowed _ rfl)
  exact h

end Driver

end RpiBld
