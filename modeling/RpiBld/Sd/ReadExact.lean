/-
RpiBld/Sd/ReadExact.lean

`sd_read_blocks_card` does what it is asked for, on every device.

`Copies m good dest n` says what a piece of a read leaves in RAM, whatever the
device answers: the words it read from `DATA`, one after the other from `dest`
on, which are some whole blocks of the `n` asked for, and all of them where the
piece returns well.  `Ends polls m` is about time: where the timers run out
within the rounds of a poll loop (`RunsOut`), the piece returns.  They do on
every prompt controller (`Setup.Prompt.runsOut`).

Main results:
* `sdReadBlocksCard_copies` -- what a read stores, on every device;
* `sdReadBlocksCard_ends` -- a read returns, on every device with a clock;
* `sdReadBlocksCard_exact` -- the commands of a read, the blocks they deliver and
  what is in RAM afterwards, with and without a failing command.
-/
import RpiBld.Sd.ReadPlan
import RpiBld.Sd.BlockCopy

namespace RpiBld

open Traced Controller

/-! ### What a read stores -/

section Driver

variable {σ : Type} {α β : Type} {m : Drv σ α} {f : α → Drv σ β} {dest : Word} {n k : Nat}
variable {good : α → Prop} {good' : β → Prop}

/-- A run that was to copy `n` blocks to `dest`: the words it read are in RAM, in order, and
nothing else is. -/
structure Copied (good : α → Prop) (dest : Word) (n : Nat) (ram ram' : Ram) (t : List Event)
    (r : Except Halt α) : Prop where
  ram : ram' = storeWords ram dest (dataReads t)
  whole : ∃ k ≤ n, (dataReads t).length = sdBlksz / 4 * k ∧ ((∃ a, r = .ok a ∧ good a) → k = n)
  cut : ∀ e, r = .error e → e = .hang

/-- `m` copies `n` blocks to `dest`, or the first few of them. -/
def Copies (m : Drv σ α) (good : α → Prop) (dest : Word) (n : Nat) : Prop :=
  ∀ w, m.wp (fun t r w' => Copied good dest n w.ram w'.ram t r) w

/-- `m` copies nothing, and does not return well. -/
def Leaves (m : Drv σ α) (good : α → Prop) : Prop :=
  ∀ w, m.wp (fun t r w' => dataReads t = [] ∧ w'.ram = w.ram ∧ ∃ a, r = .ok a ∧ ¬ good a) w

namespace Leaves

theorem pure {a : α} (h : ¬ good a) : Leaves (Pure.pure a : Drv σ α) good :=
  fun _ => ⟨rfl, rfl, a, rfl, h⟩

theorem log {fmt : String} {args : List LogArg} {a : α} (h : ¬ good a) :
    Leaves (do serialLog fmt args; Pure.pure a : Drv σ α) good :=
  fun _ => ⟨rfl, rfl, a, rfl, h⟩

theorem ite {p : Prop} [Decidable p] {m' : Drv σ α} (ht : p → Leaves m good)
    (hf : ¬ p → Leaves m' good) : Leaves (if p then m else m') good :=
  fun w => Program.wp_ite (fun h => ht h w) fun h => hf h w

/-- Which is the beginning of any copy. -/
theorem copies (h : Leaves m good) (dest : Word) (n : Nat) : Copies m good dest n := by
  intro w
  apply Program.wp_mono (h w)
  rintro t r w' ⟨hdata, hram, a, rfl, ha⟩
  refine ⟨?_, ⟨0, Nat.zero_le n, ?_, ?_⟩, fun e he => by cases he⟩
  · rw [hdata, hram]
    rfl
  · rw [hdata]
    rfl
  · rintro ⟨b, hb, hgood⟩
    obtain rfl := Except.ok.inj hb
    exact absurd hgood ha

end Leaves

namespace Copies

theorem pure {a : α} (dest : Word) : Copies (Pure.pure a : Drv σ α) good dest 0 := by
  intro w
  exact ⟨rfl, ⟨0, le_refl 0, rfl, fun _ => rfl⟩, fun e he => by cases he⟩

theorem ite {p : Prop} [Decidable p] {m' : Drv σ α} (ht : p → Copies m good dest n)
    (hf : ¬ p → Copies m' good dest n) : Copies (if p then m else m') good dest n :=
  fun w => Program.wp_ite (fun h => ht h w) fun h => hf h w

/-- One copy after the other, to adjoining places. -/
theorem bind {total : Nat} (h : Copies m good dest n) (htotal : n + k = total)
    (hok : ∀ a, good a → Copies (f a) good' (dest + BitVec.ofNat 32 (sdBlksz * n)) k)
    (hbad : ∀ a, ¬ good a → Leaves (f a) good') : Copies (m >>= f) good' dest total := by
  subst htotal
  intro w
  apply Program.wp_bind (h w)
  · rintro t a w₁ ⟨hram, ⟨j, hj, hlen, hall⟩, -⟩
    by_cases ha : good a
    · obtain rfl := hall ⟨a, rfl, ha⟩
      have hwords : 4 * (dataReads t).length = sdBlksz * j := by
        rw [hlen, ← Nat.mul_assoc]
        rfl
      apply Program.wp_mono (hok a ha w₁)
      rintro t' r w₂ ⟨hram', ⟨i, hi, hlen', hall'⟩, hcut⟩
      refine ⟨?_, ⟨j + i, Nat.add_le_add_left hi j, ?_, ?_⟩, hcut⟩
      · rw [hram', hram, dataReads_append, storeWords_append, hwords]
      · rw [dataReads_append, List.length_append, hlen, hlen', Nat.mul_add]
      · intro hgood
        rw [hall' hgood]
    · apply Program.wp_mono (hbad a ha w₁)
      rintro t' r w₂ ⟨hdata, hram', b, rfl, hb⟩
      refine ⟨?_, ⟨j, Nat.le_add_right_of_le hj, ?_, ?_⟩, fun e he => by cases he⟩
      · rw [hram', hram, dataReads_append, hdata, List.append_nil]
      · rw [dataReads_append, hdata, List.append_nil, hlen]
      · rintro ⟨b', hb', hgood⟩
        obtain rfl := Except.ok.inj hb'
        exact absurd hgood hb
  · rintro t e w₁ ⟨hram, ⟨j, hj, hlen, -⟩, hcut⟩
    refine ⟨hram, ⟨j, Nat.le_add_right_of_le hj, hlen, ?_⟩, ?_⟩
    · rintro ⟨b, hb, -⟩
      cases hb
    · rintro _ ⟨⟩
      rw [hcut e rfl]

/-- Nothing is copied after the last block. -/
theorem bind_last (h : Copies m good dest n)
    (hok : ∀ a, good a → Copies (f a) good' (dest + BitVec.ofNat 32 (sdBlksz * n)) 0)
    (hbad : ∀ a, ¬ good a → Leaves (f a) good') : Copies (m >>= f) good' dest n :=
  h.bind (Nat.add_zero n) hok hbad

end Copies

variable [Device σ]

/-- A command that transfers no data. -/
theorem sdIssueCmd_copies (idx a : Word) (dest : Word) :
    Copies (sdIssueCmd idx a : Drv σ CmdError) (· = .none) dest 0 := by
  intro w
  apply Program.wp_mono (sdIssueCmd_still idx a w)
  rintro t r w' ⟨hstill, hcut⟩
  refine ⟨?_, ⟨0, le_refl 0, ?_, fun _ => rfl⟩, hcut⟩
  · rw [hstill.ram, hstill.data]
    rfl
  · rw [hstill.data]
    rfl

/-- A read command, from its block loop. -/
theorem sdIssueReadCmd_copiesBlocks (idx dest a : Word) (n : Nat) :
    Copies (sdIssueReadCmd idx dest a n : Drv σ CmdError) (· = .none) dest n := by
  intro w
  apply Program.wp_mono (sdIssueReadCmd_blocks idx dest a n w)
  rintro t r w' ⟨ws, j, t₀, tb, t₁, rfl, hdata, -, hcopied, hram⟩
  have hwords : dataReads (t₀ ++ tb ++ t₁) = ws := by
    rw [dataReads_append, dataReads_append, hdata, hcopied.data, hcopied.blocks.dataReads,
      List.nil_append, List.append_nil]
  refine ⟨?_, ⟨j, hcopied.le, ?_, ?_⟩, hcopied.cut⟩
  · rw [hram, hwords]
  · rw [hwords, hcopied.blocks.length]
  · rintro ⟨_, hr, rfl⟩
    exact (hcopied.ok.mp hr).1

omit [Device σ] in
/-- The end of a command that was not successful. -/
theorem Leaves.unless {e : CmdError} {a : α} (he : ¬ e = .none) (ha : ¬ good a) :
    Leaves (if e ≠ .none then Pure.pure a else m) good :=
  Leaves.ite (fun _ => Leaves.pure ha) fun hnone => absurd (not_not.mp hnone) he

theorem readSingleBlocks_copies (card : Card) (dest a : Word) (n : Nat) :
    Copies (readSingleBlocks card dest a n : Drv σ (CmdError × Word × Word × Nat)) (·.1 = .none)
      dest n := by
  induction n generalizing dest a with
  | zero => exact Copies.pure dest
  | succ n ih =>
    apply (sdIssueReadCmd_copiesBlocks _ dest a 1).bind (Nat.add_comm 1 n)
    · rintro _ rfl
      apply Copies.ite (fun hne => absurd rfl hne)
      intro _
      exact ih _ _
    · intro e he
      exact Leaves.unless he he

theorem transferBlocks_copies (card : Card) (dest a : Word) (n : Nat) :
    Copies (transferBlocks card dest a n : Drv σ (CmdError × Word × Word × Nat)) (·.1 = .none)
      dest n := by
  apply Copies.ite
  · rintro rfl
    apply (sdIssueReadCmd_copiesBlocks _ dest a 1).bind_last
    · intro _ _
      exact Copies.pure _
    · intro e he
      exact Leaves.pure he
  intro _
  apply Copies.ite
  · intro _
    apply Copies.ite
    · intro _
      apply (sdIssueCmd_copies _ _ dest).bind (Nat.zero_add n)
      · rintro _ rfl
        rw [if_pos rfl, Nat.mul_zero, BitVec.add_zero]
        apply (sdIssueReadCmd_copiesBlocks _ dest a n).bind_last
        · intro _ _
          exact Copies.pure _
        · intro e he
          exact Leaves.pure he
      · intro e he
        rw [if_neg he]
        exact Leaves.pure he
    · intro _
      exact readSingleBlocks_copies card dest a n
  · intro hle
    obtain rfl : n = 0 := by omega
    exact Copies.pure dest

/-- One pass. -/
theorem sdReadBlocksCardPass_copies (card : Card) (dest lba : Word) (n : Nat) :
    Copies (sdReadBlocksCardPass dest lba n card : Drv σ Bool) (· = true) dest n := by
  apply Copies.ite
  · intro _
    apply Leaves.copies
    exact Leaves.log Bool.false_ne_true
  · intro _
    apply (transferBlocks_copies card dest _ n).bind_last
    · rintro ⟨_, d, s, k⟩ rfl
      apply Copies.ite (fun hne => absurd rfl hne)
      intro _
      exact Copies.pure _
    · rintro ⟨e, d, s, k⟩ he
      apply Leaves.ite
      · intro _
        exact Leaves.log Bool.false_ne_true
      · intro hnone
        exact absurd (not_not.mp hnone) he

/-- **A read stores what it reads**: whatever the device answers, the words read from `DATA`
are in RAM from the destination on, and they are whole blocks, as many as were asked for where
the read returns `true`. -/
theorem sdReadBlocksCard_copies (card : Card) (dest lba : Word) (n : Nat) :
    Copies (sdReadBlocksCard dest lba n card : Drv σ Bool) (· = true) dest n := by
  have hleave : ∀ m : Drv σ Bool, ∀ ok, ¬ ok = true →
      Leaves (if ¬ ok = true then Pure.pure false else m) (· = true) := by
    intro m ok hok
    exact Leaves.ite (fun _ => Leaves.pure Bool.false_ne_true) fun hok' => absurd hok hok'
  induction n using Nat.strong_induction_on generalizing dest lba with
  | _ n ih =>
    unfold sdReadBlocksCard
    by_cases hpos : 0 < (n : Int)
    · rw [dif_pos hpos, Int.toNat_natCast]
      rcases Nat.lt_or_ge uint16Max n with hlong | hshort
      -- a full pass, and the rest
      · rw [Nat.min_eq_right (Nat.le_of_lt hlong), ← Int.ofNat_sub (Nat.le_of_lt hlong)]
        apply (sdReadBlocksCardPass_copies card dest lba uint16Max).bind
          (Nat.add_sub_cancel' (Nat.le_of_lt hlong))
        · rintro _ rfl
          apply Copies.ite (fun hne => absurd rfl hne)
          intro _
          have hless : n - uint16Max < n := by
            simp only [uint16Max] at hlong ⊢
            omega
          exact ih (n - uint16Max) hless _ _
        · exact hleave _
      -- the last pass
      · rw [Nat.min_eq_left hshort]
        apply (sdReadBlocksCardPass_copies card dest lba n).bind_last
        · rintro _ rfl
          apply Copies.ite (fun hne => absurd rfl hne)
          intro _
          rw [sdReadBlocksCard_of_nonpos (by omega)]
          exact Copies.pure _
        · exact hleave _
    · obtain rfl : n = 0 := by omega
      rw [dif_neg hpos]
      exact Copies.pure dest

end Driver

/-! ### A read returns -/

/-- A round of `sd_wait_for_any_interrupt` that finds no flag: whether the timer is done, and the
device it leaves. -/
def idleRound {σ : Type} [Device σ] (ts : Word) (d : σ) : Bool × σ :=
  Device.timerDone ts (Device.sleep 50 (Device.get (.sd .interrupt) d).2)

/-- The timers run out: a timer has fewer than `polls` rounds left when it is started, and one
less after each round that finds no flag and the timer not done. -/
structure Clock {σ : Type} [Device σ] (polls : Nat) (left : Word → σ → Nat) : Prop where
  start : ∀ ms d, left (Device.timerStart ms d).1 (Device.timerStart ms d).2 < polls
  round : ∀ ts d, (Device.get (.sd .interrupt) d).1 = 0 → (idleRound ts d).1 = false →
    left ts (idleRound ts d).2 < left ts d

/-- Within `polls` rounds a flag is found or the timer is done, so that no poll loop of the SD
driver is cut off. -/
def RunsOut (σ : Type) [Device σ] (polls : Nat) : Prop := ∃ left : Word → σ → Nat, Clock polls left

/-- `m` returns where the poll loops have `polls` rounds. -/
def Ends {σ α : Type} (polls : Nat) (m : Drv σ α) : Prop :=
  ∀ w, w.polls = polls → m.Returns (fun _ _ w' => w'.polls = polls) w

section Ends

variable {σ : Type} {α β : Type} {polls : Nat} {m : Drv σ α} {f : α → Drv σ β}

namespace Ends

theorem pure (a : α) : Ends polls (Pure.pure a : Drv σ α) := fun _ hw => Program.Returns.pure hw

theorem bind (h : Ends polls m) (hf : ∀ a, Ends polls (f a)) : Ends polls (m >>= f) := by
  intro w hw
  apply (h w hw).bind
  intro t a w' hw'
  exact hf a w' hw'

theorem ite {p : Prop} [Decidable p] {m' : Drv σ α} (ht : Ends polls m) (hf : Ends polls m') :
    Ends polls (if p then m else m') := by
  by_cases hp : p
  · rw [if_pos hp]; exact ht
  · rw [if_neg hp]; exact hf

theorem log (fmt : String) (args : List LogArg) : Ends polls (serialLog fmt args : Drv σ Unit) :=
  fun _ hw => Program.Returns.emit hw

theorem store (a v : Word) : Ends polls (ramStore32 a v : Drv σ Unit) :=
  fun _ hw => ⟨_, _, _, rfl, hw⟩

theorem logged {fmt : String} {args : List LogArg} {a : α} :
    Ends polls (do serialLog fmt args; Pure.pure a : Drv σ α) :=
  bind (log fmt args) fun _ => pure a

variable [Device σ]

theorem get (r : Reg) : Ends polls (registerGet r : Drv σ Word) :=
  fun _ hw => ⟨_, _, _, rfl, hw⟩

theorem set (r : Reg) (v : Word) : Ends polls (registerSet r v : Drv σ Unit) :=
  fun _ hw => ⟨_, _, _, rfl, hw⟩

end Ends

variable [Device σ]

/-- The poll loop, by induction on its rounds: the timer always has fewer left. -/
theorem pollInterrupt_returns {left : Word → σ → Nat} (hclock : Clock polls left) (ts : Word)
    (n : Nat) (w : World σ) (hw : w.polls = polls) (hleft : left ts w.dev < n) :
    (pollInterrupt ts n).Returns (fun _ _ w' => w'.polls = polls) w := by
  induction n generalizing w with
  | zero => exact absurd hleft (Nat.not_lt_zero _)
  | succ n ih =>
    have hget : (registerGet (.sd .interrupt)).Returns
        (fun _ irpt w' => irpt = (Device.get (.sd .interrupt) w.dev).1 ∧
          w' = { w with dev := (Device.get (.sd .interrupt) w.dev).2 }) w :=
      ⟨_, _, _, rfl, rfl, rfl⟩
    apply hget.bind
    rintro t _ _ ⟨rfl, rfl⟩
    by_cases hirpt : (Device.get (.sd .interrupt) w.dev).1 ≠ 0
    · rw [if_pos hirpt]
      exact ((Ends.set _ _).bind fun _ => Ends.pure _) _ hw
    rw [if_neg hirpt]
    -- a round without a flag
    have hround : (do usleep 50; timerPollDone ts : Drv σ Bool).Returns
        (fun _ done w' => done = (idleRound ts w.dev).1 ∧
          w' = { w with dev := (idleRound ts w.dev).2 })
        { w with dev := (Device.get (.sd .interrupt) w.dev).2 } :=
      ⟨_, _, _, rfl, rfl, rfl⟩
    rw [← bind_assoc]
    apply hround.bind
    rintro t' _ _ ⟨rfl, rfl⟩
    cases hdone : (idleRound ts w.dev).1 with
    | true => exact Program.Returns.pure hw
    | false =>
      have hless := hclock.round ts w.dev (not_not.mp hirpt) hdone
      exact ih { w with dev := (idleRound ts w.dev).2 } hw (by
        dsimp only
        omega)

section Clock

variable (hrun : RunsOut σ polls)

include hrun

theorem sdWaitForInterrupt_ends (mask : Word) :
    Ends polls (sdWaitForInterrupt mask : Drv σ CmdError) := by
  obtain ⟨left, hclock⟩ := hrun
  have hany : Ends polls (sdWaitForAnyInterrupt : Drv σ Word) := by
    intro w hw
    have hstart : (timerPollStart 500).Returns
        (fun _ ts w' => w'.polls = polls ∧ left ts w'.dev < polls) w :=
      ⟨_, _, _, rfl, hw, hclock.start _ _⟩
    apply hstart.bind
    rintro t ts w₁ ⟨hw₁, hleft⟩
    have hpolls : (Program.view World.polls : Drv σ Nat).Returns
        (fun _ n w' => w' = w₁ ∧ n = polls) w₁ := Program.Returns.view ⟨rfl, hw₁⟩
    apply hpolls.bind
    rintro t' _ _ ⟨rfl, rfl⟩
    exact pollInterrupt_returns hclock ts _ _ hw₁ hleft
  apply hany.bind
  intro irpt
  exact .ite .logged (.ite .logged (.ite .logged (.pure _)))

theorem sdIssueCmd_ends (idx args : Word) : Ends polls (sdIssueCmd idx args : Drv σ CmdError) := by
  unfold sdIssueCmd
  cases getCommand idx with
  | none => exact .logged
  | some cmd =>
    apply Ends.bind (.get _)
    intro status
    refine .ite .logged (.ite .logged ?_)
    apply Ends.bind (.set _ _)
    intro _
    apply Ends.bind (.set _ _)
    intro _
    apply (sdWaitForInterrupt_ends hrun _).bind
    intro error
    refine .ite ?_ (.ite .logged (.pure _))
    exact .bind (.get _) fun cs => .ite .logged (.pure _)

omit hrun in
theorem copyBlock_ends (dest : Word) (n : Nat) : Ends polls (copyBlock dest n : Drv σ Word) := by
  induction n generalizing dest with
  | zero => exact .pure _
  | succ n ih => exact .bind (.get _) fun v => .bind (.store _ _) fun _ => ih _

theorem readBlocksLoop_ends (dest : Word) (n : Nat) :
    Ends polls (readBlocksLoop dest n : Drv σ CmdError) := by
  induction n generalizing dest with
  | zero => exact sdWaitForInterrupt_ends hrun _
  | succ n ih =>
    apply (sdWaitForInterrupt_ends hrun _).bind
    intro error
    exact .ite (.pure _) (.bind (copyBlock_ends _ _) fun _ => ih _)

theorem sdIssueReadCmd_ends (idx dest src : Word) (n : Nat) :
    Ends polls (sdIssueReadCmd idx dest src n : Drv σ CmdError) := by
  apply Ends.bind (.set _ _)
  intro _
  apply (sdIssueCmd_ends hrun _ _).bind
  intro error
  exact .ite (.pure _) (readBlocksLoop_ends hrun _ _)

theorem readSingleBlocks_ends (card : Card) (dest src : Word) (n : Nat) :
    Ends polls (readSingleBlocks card dest src n : Drv σ (CmdError × Word × Word × Nat)) := by
  induction n generalizing dest src with
  | zero => exact .pure _
  | succ n ih =>
    apply (sdIssueReadCmd_ends hrun _ _ _ _).bind
    intro error
    exact .ite (.pure _) (ih _ _)

theorem transferBlocks_ends (card : Card) (dest src : Word) (n : Nat) :
    Ends polls (transferBlocks card dest src n : Drv σ (CmdError × Word × Word × Nat)) := by
  apply Ends.ite ((sdIssueReadCmd_ends hrun _ _ _ _).bind fun _ => .pure _)
  refine .ite (.ite ?_ (readSingleBlocks_ends hrun _ _ _ _)) (.pure _)
  apply (sdIssueCmd_ends hrun _ _).bind
  intro error
  exact .ite ((sdIssueReadCmd_ends hrun _ _ _ _).bind fun _ => .pure _) (.pure _)

/-- **A read returns**, by induction on what is left to read. -/
theorem sdReadBlocksCard_ends (card : Card) (dest lba : Word) (n : Int) :
    Ends polls (sdReadBlocksCard dest lba n card : Drv σ Bool) := by
  have hpass : ∀ dest lba k, Ends polls (sdReadBlocksCardPass dest lba k card : Drv σ Bool) := by
    intro dest lba k
    apply Ends.ite .logged
    apply (transferBlocks_ends hrun _ _ _ _).bind
    rintro ⟨error, dest', src', n'⟩
    exact .ite .logged (.pure _)
  induction hk : n.toNat using Nat.strong_induction_on generalizing n dest lba with
  | _ k ih =>
    unfold sdReadBlocksCard
    by_cases hpos : 0 < n
    · rw [dif_pos hpos]
      apply (hpass _ _ _).bind
      intro readOk
      refine .ite (.pure _) ?_
      exact ih _ (by simp only [uint16Max]; omega) _ _ _ rfl
    · rw [dif_neg hpos]
      exact .pure _

end Clock

end Ends

section Prompt

variable {S : Setup} {c : Controller S} {polls : Nat}

/-- A round that finds no flag is one in which the controller paused, or has none to raise. -/
theorem raises_of_idleRound {ts : Word} (hirpt : c.tick.irpt = 0)
    (hdone : (idleRound ts c).1 = false) : S.raises c.now = 0 := by
  by_contra hne
  obtain ⟨n, hn⟩ := Nat.exists_eq_succ_of_ne_zero hne
  replace hdone : c.tick.phase.raise.isNone = false := hdone
  cases hraise : c.phase.raise with
  | none =>
    rw [tick_quiet hraise, phase_into, hraise] at hdone
    cases hdone
  | some fp =>
    have hf : c.advance.irpt ≠ 0 := by
      rw [advance_some hraise, irpt_into]
      exact fun h0 => Phase.raise_ne_zero hraise (BitVec.or_eq_zero_iff.mp h0).2
    apply irpt_advance_ne_zero hf n
    rw [tick, hn, Function.iterate_succ_apply] at hirpt
    exact hirpt

/-- The poll loops come to an end on a prompt controller: `left` is how long it still pauses. -/
theorem Setup.Prompt.runsOut (h : S.Prompt polls) : RunsOut (Controller S) polls := by
  have hex : ∀ k, ∃ i, S.raises (k + i) ≠ 0 := by
    intro k
    obtain ⟨j, hj, -, hne⟩ := h k
    exact ⟨j - k, by rwa [Nat.add_sub_cancel' hj]⟩
  refine ⟨fun _ c => Nat.find (hex c.now), ?_, ?_⟩
  · intro ms c
    obtain ⟨j, hj, hlt, hne⟩ := h c.now
    have hle : Nat.find (hex c.now) ≤ j - c.now :=
      Nat.find_min' (hex c.now) (by rwa [Nat.add_sub_cancel' hj])
    show Nat.find (hex c.now) < polls
    omega
  · intro ts c hirpt hdone
    have hzero : S.raises c.now = 0 := raises_of_idleRound hirpt hdone
    have hnow : (idleRound ts c).2 = c.tick := rfl
    rw [hnow, tick_zero hzero, now_into]
    have hspec := Nat.find_spec (hex c.now)
    obtain ⟨i, hi⟩ : ∃ i, Nat.find (hex c.now) = i + 1 := by
      apply Nat.exists_eq_succ_of_ne_zero
      intro h0
      rw [h0] at hspec
      exact hspec hzero
    have hle : Nat.find (hex (c.now + 1)) ≤ i := by
      apply Nat.find_min'
      rwa [hi, Nat.add_comm i, ← Nat.add_assoc] at hspec
    omega

end Prompt

/-! ### Exact reads -/

/-- A card without CMD23 is only sent single block reads. -/
theorem singlePlan_idx (card : Card) (a : Word) (n : Nat) :
    ∀ s ∈ singlePlan card a n, s.idx = .readSingleBlock := by
  induction n generalizing a with
  | zero => exact fun s hs => absurd hs List.not_mem_nil
  | succ n ih =>
    intro s hs
    rcases List.mem_cons.mp hs with rfl | hs
    · rfl
    · exact ih _ s hs

theorem readPlan_idx {card : Card} (h23 : card.cmd23Supported = false) (lba : Word) (n : Nat) :
    ∀ s ∈ readPlan card lba n, s.idx = .readSingleBlock := by
  have hpass : ∀ a k, ∀ s ∈ passPlan card a k, s.idx = .readSingleBlock := by
    intro a k s hs
    have hno23 : ¬ (k > 1 ∧ card.cmd23Supported = true) := by
      rintro ⟨-, h⟩
      exact Bool.false_ne_true (h23.symm.trans h)
    rw [passPlan, if_neg hno23] at hs
    split at hs
    · rw [List.mem_singleton.mp hs]
    · exact singlePlan_idx card a k s hs
  induction n using Nat.strong_induction_on generalizing lba with
  | _ n ih =>
    intro s hs
    unfold readPlan at hs
    split at hs
    case isTrue hlong =>
      rcases List.mem_append.mp hs with hs | hs
      · exact hpass _ _ s hs
      · have hless : n - uint16Max < n := by
          simp only [uint16Max] at hlong ⊢
          omega
        exact ih (n - uint16Max) hless _ s hs
    case isFalse => exact hpass _ _ s hs

section Medium

variable {M : Medium} {b n : Nat}

/-- Blocks that do not reach around the end of the card. -/
theorem Medium.blocksFrom_eq_range' (h : b + n ≤ M.capacity) :
    M.blocksFrom b n = List.range' b n := by
  rw [Medium.blocksFrom, List.range'_eq_map_range]
  apply List.map_congr_left
  intro i hi
  have hlt : i < n := List.mem_range.mp hi
  exact Nat.mod_eq_of_lt (by omega)

theorem Medium.byteFrom_of_le (h : b + n ≤ M.capacity) {j : Nat} (hj : j < sdBlksz * n) :
    M.byteFrom b j = M.block (b + j / sdBlksz) (j % sdBlksz) := by
  have hlt : j / sdBlksz < n := Nat.div_lt_of_lt_mul hj
  rw [Medium.byteFrom, Nat.mod_eq_of_lt (by omega)]

end Medium

/-- The `n` blocks from `lba` on were delivered, each once and in order; block `lba + i` is in RAM
at `dest + 512 * i`, and the rest of RAM is as it was and as a loop over single blocks leaves it. -/
structure ReadOut {S : Setup} (card : Card) (dest lba : Word) (n : Nat)
    (w w' : World (Controller S)) : Prop where
  commands : delivers S.medium none (readPlan card lba n) = List.range' lba.toNat n
  served : w'.dev.served = w.dev.served ++ List.range' lba.toNat n
  ram : w'.ram = overlay w.ram dest (sdBlksz * n) fun j =>
    S.medium.block (lba.toNat + j / sdBlksz) (j % sdBlksz)
  plain : S.Steady → w'.ram = (readSingleBlocks card dest (sdSrcAddr card lba) n w).state.ram

/-- Without a failing command a read issues the whole plan and returns `true`.  Where a command
fails it is the last one, and the read returns `false` (or goes on waiting for the controller);
the blocks read until then are at the beginning of the destination. -/
structure ReadRun (card : Card) (dest lba : Word) (n : Nat) (ram ram' : Ram) (t : List Event)
    (r : Except Halt Bool) : Prop where
  commands : ∃ xs : List Taken, (transcript t).exchanges = xs.map Taken.exchange ∧
    (r = .ok true ∧ Complete Prod.fst Went (readPlan card lba n) xs ∨
      (r = .ok false ∨ r = .error .hang) ∧ Partial Prod.fst Went (readPlan card lba n) xs)
  stored : ∃ k ≤ n, (dataReads t).length = sdBlksz / 4 * k ∧
    ram' = overlay ram dest (sdBlksz * k) (wordBytes (dataReads t)) ∧ (r = .ok true → k = n)

section Controller

variable {S : Setup} {card : Card} {w : World (Controller S)} {dest lba : Word} {n : Nat}

/-- What a loop that read consecutive blocks leaves in RAM. -/
theorem Fetched.ram_eq {w' : World (Controller S)}
    (h : Fetched dest (S.medium.blocksFrom lba.toNat n) w w') (hdest : sdBlksz * n ≤ 2 ^ 32)
    (hlba : lba.toNat + n ≤ S.medium.capacity) :
    w'.ram = overlay w.ram dest (sdBlksz * n) fun j =>
      S.medium.block (lba.toNat + j / sdBlksz) (j % sdBlksz) := by
  have hlen : (S.medium.blocksFrom lba.toNat n).length = n := length_blocksFrom _ _ _
  rw [h.ram, storeBlocks_eq_overlay _ _ _ (by rw [hlen]; exact hdest), hlen]
  apply overlay_congr
  intro j hj
  rw [Medium.bytesOf_blocksFrom _ hj, Medium.byteFrom_of_le hlba hj]

/-- Against a controller. -/
theorem sdReadBlocksCard_readsOut (hcard : Matches card S) (hidle : Idle w.dev)
    (hprompt : S.Prompt w.polls) (haligned : addressAligned dest 4 = true)
    (hdest : sdBlksz * n ≤ 2 ^ 32) (hlba : lba.toNat + n ≤ S.medium.capacity) :
    (sdReadBlocksCard dest lba n card).Returns
      (fun _ ok w' => (S.Steady → ok = true) ∧ (ok = true → ReadOut card dest lba n w w')) w := by
  apply ((sdReadBlocksCard_reads lba hcard hidle haligned n).returns hprompt).mono
  rintro t ok w' ⟨-, ⟨rfl, hfetched⟩ | ⟨hunsteady, hok⟩⟩
  · refine ⟨fun _ => rfl, fun _ => ⟨?_, ?_, hfetched.ram_eq hdest hlba, ?_⟩⟩
    · rw [delivers_readPlan hcard, Medium.blocksFrom_eq_range' hlba]
    · rw [hfetched.served, Medium.blocksFrom_eq_range' hlba]
    · intro hsteady
      have hsingles : Reads (readSingleBlocks card dest (sdSrcAddr card lba) n) (·.1 = .none) dest
          (S.medium.blocksFrom lba.toNat n) w := readSingleBlocks_reads hcard hidle n
      obtain ⟨t', r, w'', hrun, -, ⟨-, hplain⟩ | ⟨hunsteady, -⟩⟩ := hsingles.returns hprompt
      · rw [hrun, hplain.ram_eq hdest hlba, hfetched.ram_eq hdest hlba]
      · exact absurd hsteady hunsteady
  · exact ⟨fun hsteady => absurd hsteady hunsteady, fun htrue => absurd htrue hok⟩

end Controller

/-- Against any device. -/
theorem sdReadBlocksCard_runs {σ : Type} [Device σ] (card : Card) (dest lba : Word) {n : Nat}
    (hdest : sdBlksz * n ≤ 2 ^ 32) (w : World σ) :
    (sdReadBlocksCard dest lba n card).wp
      (fun t r w' => ReadRun card dest lba n w.ram w'.ram t r) w := by
  have hfollows : Watched observe {} (sdReadBlocksCard dest lba n card : Drv σ Bool) fun c r =>
      ∃ xs : List Taken, c.exchanges = xs.map Taken.exchange ∧
        ((∃ a, r = .ok a ∧ a = true ∧ Complete Prod.fst Went (readPlan card lba n) xs) ∨
          ((∀ a, r = .ok a → ¬ a = true) ∧ Partial Prod.fst Went (readPlan card lba n) xs)) := by
    apply (sdReadBlocksCard_follows card dest lba n {} {} Transcript.Said.refl).mono
    rintro c r ⟨ys, ⟨-, hys⟩, hxs⟩
    rw [hys, List.nil_append]
    exact hxs
  apply Program.wp_mono (Program.wp_and (hfollows w) (sdReadBlocksCard_copies card dest lba n w))
  rintro t r w' ⟨⟨xs, hxs, hplan⟩, hram, ⟨k, hk, hlen, hall⟩, hcut⟩
  constructor
  · refine ⟨xs, hxs, ?_⟩
    rcases hplan with ⟨_, rfl, rfl, hcomplete⟩ | ⟨hbad, hpartial⟩
    · exact .inl ⟨rfl, hcomplete⟩
    · refine .inr ⟨?_, hpartial⟩
      cases r with
      | error e => exact .inr (congrArg Except.error (hcut e rfl))
      | ok ok =>
        left
        rw [Bool.eq_false_of_not_eq_true (hbad ok rfl)]
  · have hwords : 4 * (dataReads t).length = sdBlksz * k := by
      rw [hlen, ← Nat.mul_assoc]
      rfl
    have hle : sdBlksz * k ≤ 2 ^ 32 := Nat.le_trans (Nat.mul_le_mul_left _ hk) hdest
    refine ⟨k, hk, hlen, ?_, ?_⟩
    · rw [hram, storeWords_eq_overlay _ _ (by rw [hwords]; exact hle), hwords]
    · rintro rfl
      exact hall ⟨true, rfl, rfl⟩

/-- **Reads are exact**, for each kind of card.  Against an idle controller with an error-free
card a read returns, with `true` unless flags are raised together, and has then read out what
was asked for; on every device it keeps to its commands and stops at the first that fails, and it
returns there too if the timers run out. -/
theorem sdReadBlocksCard_exact (card : Card) (dest lba : Word) (n : Nat)
    (haligned : addressAligned dest 4 = true) (hdest : dest.toNat + sdBlksz * n ≤ 2 ^ 32) :
    (∀ (S : Setup) (w : World (Controller S)), Matches card S → Idle w.dev → S.Prompt w.polls →
      lba.toNat + n ≤ S.medium.capacity →
      (sdReadBlocksCard dest lba n card).Returns (fun _ ok w' =>
        (S.Steady → ok = true) ∧ (ok = true → ReadOut card dest lba n w w')) w) ∧
    (card.cmd23Supported = false → ∀ s ∈ readPlan card lba n, s.idx = .readSingleBlock) ∧
    ∀ (σ : Type) [Device σ] (w : World σ),
      (sdReadBlocksCard dest lba n card).wp (fun t r w' =>
        ReadRun card dest lba n w.ram w'.ram t r ∧
          (RunsOut σ w.polls → ∃ ok, r = .ok ok)) w := by
  have hfits : sdBlksz * n ≤ 2 ^ 32 := Nat.le_trans (Nat.le_add_left _ _) hdest
  refine ⟨?_, fun h23 => readPlan_idx h23 lba n, ?_⟩
  · intro S w hcard hidle hprompt hlba
    exact sdReadBlocksCard_readsOut hcard hidle hprompt haligned hfits hlba
  · intro σ _ w
    refine Program.wp_and (sdReadBlocksCard_runs card dest lba hfits w) ?_
    intro hrun
    obtain ⟨t, ok, w', hreturn, -⟩ := sdReadBlocksCard_ends hrun card dest lba n w rfl
    exact ⟨ok, by rw [hreturn]⟩

/-- Two blocks of a card of zeros. -/
theorem sdReadBlocksCard_exact_twoBlocks :
    (sdReadBlocksCard 0 0 (2 : Nat) { sdhcOrSdxc := true }).Returns (fun _ ok w' =>
      ((evenSetup 1).Steady → ok = true) ∧
        (ok = true → ReadOut { sdhcOrSdxc := true } 0 0 2 (twoBlocksWorld 1) w'))
      (twoBlocksWorld 1) :=
  (sdReadBlocksCard_exact { sdhcOrSdxc := true } 0 0 2 (by decide) (by decide)).1
    (evenSetup 1) (twoBlocksWorld 1) rfl ⟨rfl, rfl⟩ (evenSetup_prompt (by decide)) (by decide)

end RpiBld
