/-
RpiBld/Sd/Drive.lean

Running the driver against a `Controller`.

`Does E m Q w` says what `m` does from `w`: it returns with `Q`, issues no call
of `sd_read_blocks`, signals no error, and may be cut off only if `E` holds.
A poll loop is cut off only by a controller that pauses for all of its rounds,
so `E` is `¬ Prompt` everywhere above the loops.

The invariant between two waits is `Due`: exactly one flag is pending or about
to be raised, and it is the one the driver waits for next.  The first flag of a
read command is different, because there `READ_READY` may follow before the
driver has looked:
* `sdWaitForInterrupt_due` -- a wait for the flag that is due succeeds;
* `sdWaitForInterrupt_sent` -- the wait for `CMD_COMPLETE` keeps `READ_READY`
  due exactly on a calm schedule, and otherwise clears it unseen.
-/
import RpiBld.Sd.Controller
import RpiBld.Sd.Exchange

namespace RpiBld

open Traced

/-- The calls of `sd_read_blocks` in a run: destination, first block, number of blocks. -/
def Event.sdRead? : Event → Option (Word × Word × Int)
  | .sdRead dest lba nblks => some (dest, lba, nblks)
  | _ => none

def sdReads (t : List Event) : List (Word × Word × Int) := t.filterMap Event.sdRead?

@[simp] theorem sdReads_append (t t' : List Event) : sdReads (t ++ t') = sdReads t ++ sdReads t' :=
  List.filterMap_append

/-- A run that may be cut off only if `E`. -/
def EndsWell {α : Type} (E : Prop) (P : α → Prop) : Except Halt α → Prop
  | .ok a => P a
  | .error e => e = .hang ∧ E

/-- What `m` does from `w`. -/
def Does {S : Setup} {α : Type} (E : Prop) (m : Drv (Controller S) α)
    (Q : α → World (Controller S) → Prop) (w : World (Controller S)) : Prop :=
  m.wp (fun t r w' => sdReads t = [] ∧ EndsWell E (fun a => Q a w') r) w

variable {S : Setup} {α β : Type}

namespace Does

variable {E E' : Prop} {m : Drv (Controller S) α} {f : α → Drv (Controller S) β}
variable {w : World (Controller S)}
variable {P Q : α → World (Controller S) → Prop} {R : β → World (Controller S) → Prop}

theorem mono (h : Does E m P w) (hPQ : ∀ a w', P a w' → Q a w') : Does E m Q w := by
  refine Program.wp_mono h ?_
  rintro t (e | a) w' ⟨ht, hend⟩
  · exact ⟨ht, hend⟩
  · exact ⟨ht, hPQ a w' hend⟩

/-- A weaker excuse for being cut off. -/
theorem weaken (h : Does E m Q w) (hE : E → E') : Does E' m Q w := by
  refine Program.wp_mono h ?_
  rintro t (e | a) w' ⟨ht, hend⟩
  · exact ⟨ht, hend.1, hE hend.2⟩
  · exact ⟨ht, hend⟩

theorem pure {a : α} (h : Q a w) : Does E (Pure.pure a : Drv (Controller S) α) Q w := ⟨rfl, h⟩

/-- Cut off. -/
theorem hang (h : E) : Does E (Program.halt .hang : Drv (Controller S) α) Q w := ⟨rfl, rfl, h⟩

theorem bind (h : Does E m P w) (hf : ∀ a w', P a w' → Does E (f a) R w') :
    Does E (m >>= f) R w := by
  refine Program.wp_bind h ?_ ?_
  · rintro t a w' ⟨ht, ha⟩
    refine Program.wp_mono (hf a w' ha) ?_
    rintro t' r w'' ⟨ht', hend⟩
    exact ⟨by rw [sdReads_append, ht, ht', List.append_nil], hend⟩
  · rintro t e w' ⟨ht, he⟩
    exact ⟨ht, he⟩

theorem ite {p : Prop} [Decidable p] {m' : Drv (Controller S) α} (ht : p → Does E m Q w)
    (hf : ¬ p → Does E m' Q w) : Does E (if p then m else m') Q w :=
  Program.wp_ite ht hf

/-! ### One step, and the rest -/

/-- A step with a known outcome that issues no `sd_read_blocks`. -/
theorem step_bind {t : List Event} {a : α} {w' : World (Controller S)}
    (hm : m w = ⟨t, .ok a, w'⟩) (ht : sdReads t = []) (h : Does E (f a) R w') :
    Does E (m >>= f) R w := by
  have hone : Does E m (fun b w'' => b = a ∧ w'' = w') w := by
    unfold Does Program.wp
    rw [hm]
    exact ⟨ht, rfl, rfl⟩
  apply hone.bind
  rintro _ _ ⟨rfl, rfl⟩
  exact h

theorem irpt_bind {f : Word → Drv (Controller S) β}
    (h : Does E (f w.dev.tick.irpt) R { w with dev := w.dev.tick }) :
    Does E (registerGet (.sd .interrupt) >>= f) R w := step_bind rfl rfl h

theorem resp_bind {f : Word → Drv (Controller S) β}
    (h : Does E (f S.cardStatus) R { w with dev := w.dev.tick }) :
    Does E (registerGet (.sd .resp0) >>= f) R w := step_bind rfl rfl h

theorem status_bind {f : Word → Drv (Controller S) β}
    (h : Does E (f w.dev.tick.status) R { w with dev := w.dev.tick }) :
    Does E (registerGet (.sd .status) >>= f) R w := step_bind rfl rfl h

theorem data_bind {f : Word → Drv (Controller S) β}
    (h : Does E (f w.dev.tick.drain.1) R { w with dev := w.dev.tick.drain.2 }) :
    Does E (registerGet (.sd .data) >>= f) R w := step_bind rfl rfl h

theorem set_bind {r : Reg} {v : Word} {f : Unit → Drv (Controller S) β}
    (h : Does E (f ()) R { w with dev := Device.set r v w.dev }) :
    Does E (registerSet r v >>= f) R w := step_bind rfl rfl h

theorem store_bind {a v : Word} {f : Unit → Drv (Controller S) β}
    (h : Does E (f ()) R { w with ram := store32 w.ram a v }) :
    Does E (ramStore32 a v >>= f) R w := step_bind rfl rfl h

theorem log_bind {fmt : String} {args : List LogArg} {f : Unit → Drv (Controller S) β}
    (h : Does E (f ()) R w) : Does E (serialLog fmt args >>= f) R w := step_bind rfl rfl h

theorem view_bind {g : World (Controller S) → α} (h : Does E (f (g w)) R w) :
    Does E (Program.view g >>= f) R w := step_bind rfl rfl h

theorem usleep_bind {us : Int} {f : Unit → Drv (Controller S) β} (h : Does E (f ()) R w) :
    Does E (usleep us >>= f) R w := step_bind rfl rfl h

theorem timerStart_bind {ms : Int} {f : Word → Drv (Controller S) β} (h : Does E (f 0) R w) :
    Does E (timerPollStart ms >>= f) R w := step_bind rfl rfl h

theorem timerDone_bind {ts : Word} {f : Bool → Drv (Controller S) β}
    (h : Does E (f w.dev.phase.raise.isNone) R w) :
    Does E (timerPollDone ts >>= f) R w := step_bind rfl rfl h

end Does

/-! ### The flag that is due -/

theorem FlagOk.ne_zero {mask v : Word} (h : FlagOk mask v) : v ≠ 0 := by
  rintro rfl
  exact h.2 BitVec.zero_and

namespace Controller

/-- One flag is pending or about to be raised, and nothing follows it before the driver
has done something. -/
structure Due (mask : Word) (next : Phase) (c : Controller S) : Prop where
  quiet : next.raise = none
  flag : c.irpt = 0 ∧ c.phase.raise = some (mask, next) ∨ c.irpt = mask ∧ c.phase = next

variable {c : Controller S} {mask : Word} {next : Phase}

/-- A flag that is due stays due, and is there after a tick that raises anything. -/
theorem Due.tick_cases (h : Due mask next c) :
    (S.raises c.now = 0 ∧ c.irpt = 0 ∧ c.phase.raise = some (mask, next) ∧
      c.tick = c.into (c.now + 1) 0 c.phase) ∨ c.tick = c.into (c.now + 1) mask next := by
  obtain ⟨hquiet, ⟨hirpt, hraise⟩ | ⟨hirpt, hphase⟩⟩ := h
  · by_cases hz : S.raises c.now = 0
    · left
      rw [tick_zero hz, hirpt]
      exact ⟨hz, rfl, hraise, rfl⟩
    · right
      rw [tick_raise hraise hquiet hz, hirpt]
      exact congrArg (c.into _ · next) BitVec.zero_or
  · right
    rw [tick_quiet (by rw [hphase]; exact hquiet), hirpt, hphase]

/-- However far the controller gets, the flag stays due. -/
theorem Due.tick (h : Due mask next c) :
    ∃ f p, c.tick = c.into (c.now + 1) f p ∧ Due mask next c.tick := by
  rcases h.tick_cases with ⟨-, -, hraise, htick⟩ | htick
  · exact ⟨0, c.phase, htick, h.quiet, .inl (by rw [htick]; exact ⟨rfl, hraise⟩)⟩
  · exact ⟨mask, next, htick, h.quiet, .inr (by rw [htick]; exact ⟨rfl, rfl⟩)⟩

/-- The flags of a wait were cleared, some time later. -/
def after (c : Controller S) (now : Nat) (mask : Word) (irpt : Word) (phase : Phase) :
    Controller S :=
  { c.into now irpt phase with acked := c.acked ++ [mask] }

/-- Writing back the flags that were read. -/
theorem set_irpt_self (h : c.phase.raise = none) :
    Device.set (.sd .interrupt) c.irpt c = c.after (c.now + 1) c.irpt 0 c.phase := by
  show c.tick.ack c.irpt = _
  rw [tick_quiet h, ack, irpt_into, BitVec.and_self, BitVec.and_not_self]
  rfl

/-- `READ_READY` may come before `CMD_COMPLETE` is cleared, and is not cleared with it. -/
theorem set_irpt_fetching {b : Nat} {todo : List Nat} (hirpt : c.irpt = interruptCmdComplete)
    (hphase : c.phase = .fetching b todo) :
    ∃ f p, Device.set (.sd .interrupt) interruptCmdComplete c =
        c.after (c.now + 1) interruptCmdComplete f p ∧
      Due interruptReadReady (.draining b 0 todo)
        (c.after (c.now + 1) interruptCmdComplete f p) := by
  have hraise : c.phase.raise = some (interruptReadReady, .draining b 0 todo) := by
    rw [hphase]
    rfl
  have hset : Device.set (.sd .interrupt) interruptCmdComplete c =
      c.tick.ack interruptCmdComplete := rfl
  rw [hset]
  by_cases hz : S.raises c.now = 0
  · refine ⟨0, c.phase, ?_, rfl, .inl ⟨rfl, hraise⟩⟩
    rw [tick_zero hz, hirpt, ack, irpt_into, BitVec.and_self, BitVec.and_not_self]
    rfl
  · refine ⟨interruptReadReady, .draining b 0 todo, ?_, rfl, .inr ⟨rfl, rfl⟩⟩
    have hclear : (interruptCmdComplete ||| interruptReadReady) &&& ~~~interruptCmdComplete =
        interruptReadReady := by decide
    have hacked : (interruptCmdComplete ||| interruptReadReady) &&& interruptCmdComplete =
        interruptCmdComplete := by decide
    rw [tick_raise hraise rfl hz, hirpt, ack, irpt_into, hclear, hacked]
    rfl

end Controller

open Controller

variable {w : World (Controller S)} {mask : Word} {next : Phase}

/-- One more round without a flag. -/
theorem pause_succ {k n : Nat} (hz : S.raises k = 0)
    (h : ∀ i < n, S.raises (k + 1 + i) = 0) : ∀ i < n + 1, S.raises (k + i) = 0 := by
  intro i hi
  cases i with
  | zero => exact hz
  | succ i =>
    have hi' := h i (Nat.lt_of_succ_lt_succ hi)
    rwa [Nat.add_assoc, Nat.add_comm 1 i] at hi'

/-- The poll loop sees the flag that is due, clears it, and nothing else. -/
theorem pollInterrupt_due (ts : Word) (n : Nat) (h : Due mask next w.dev) (hmask : mask ≠ 0) :
    Does (∀ i < n, S.raises (w.dev.now + i) = 0) (pollInterrupt ts n)
      (fun v w' => v = mask ∧ ∃ k, w' = { w with dev := w.dev.after k mask 0 next }) w := by
  induction n generalizing w with
  | zero => exact Does.hang fun i hi => absurd hi (Nat.not_lt_zero i)
  | succ n ih =>
    apply Does.irpt_bind
    rcases h.tick_cases with ⟨hz, -, hraise, htick⟩ | htick
    · rw [htick]
      apply Does.ite (fun hne => absurd rfl hne)
      intro _
      apply Does.usleep_bind
      apply Does.timerDone_bind
      rw [phase_into, hraise]
      apply Does.ite (fun hdone => absurd hdone Bool.false_ne_true)
      intro _
      apply (ih (w := { w with dev := w.dev.into (w.dev.now + 1) 0 w.dev.phase })
        ⟨h.quiet, .inl ⟨rfl, hraise⟩⟩).weaken
      exact pause_succ hz
    · rw [htick]
      apply Does.ite
      · intro _
        apply Does.set_bind
        rw [set_irpt_self h.quiet]
        apply Does.pure
        exact ⟨rfl, w.dev.now + 1 + 1, rfl⟩
      · intro hz
        exact absurd hmask hz

/-- A poll loop that was cut off saw nothing, which a prompt controller excludes. -/
theorem sdWaitForAnyInterrupt_does {Q : Word → World (Controller S) → Prop}
    (h : ∀ ts n, Does (∀ i < n, S.raises (w.dev.now + i) = 0) (pollInterrupt ts n) Q w) :
    Does (¬ S.Prompt w.polls) sdWaitForAnyInterrupt Q w := by
  apply Does.timerStart_bind
  apply Does.view_bind
  exact (h 0 w.polls).weaken Setup.not_prompt

/-- `sd_wait_for_interrupt` after a flag that ends it well. -/
theorem sdWaitForInterrupt_does {Q : World (Controller S) → Prop}
    (h : Does (¬ S.Prompt w.polls) sdWaitForAnyInterrupt (fun v w' => FlagOk mask v ∧ Q w') w) :
    Does (¬ S.Prompt w.polls) (sdWaitForInterrupt mask) (fun e w' => e = .none ∧ Q w') w := by
  apply h.bind
  rintro v w' ⟨hflag, hQ⟩
  rw [if_neg hflag.ne_zero, hflag.1, if_neg Bool.false_ne_true, if_neg hflag.2]
  exact Does.pure ⟨rfl, hQ⟩

/-- Waiting for the flag that is due succeeds. -/
theorem sdWaitForInterrupt_due (h : Due mask next w.dev) (hflag : FlagOk mask mask) :
    Does (¬ S.Prompt w.polls) (sdWaitForInterrupt mask)
      (fun e w' => e = .none ∧ ∃ k, w' = { w with dev := w.dev.after k mask 0 next }) w := by
  apply sdWaitForInterrupt_does
  apply sdWaitForAnyInterrupt_does
  intro ts n
  apply (pollInterrupt_due ts n h hflag.ne_zero).mono
  rintro _ w' ⟨rfl, hw'⟩
  exact ⟨hflag, hw'⟩

/-- Waiting for a flag that never comes times out. -/
theorem sdWaitForInterrupt_never (hirpt : w.dev.irpt = 0) (hphase : w.dev.phase.raise = none) :
    Does (¬ S.Prompt w.polls) (sdWaitForInterrupt mask) (fun e _ => e ≠ .none) w := by
  have hpoll : ∀ ts n, Does (∀ i < n, S.raises (w.dev.now + i) = 0) (pollInterrupt ts n)
      (fun v _ => v = 0) w := by
    rintro ts (_ | n)
    · exact Does.hang fun i hi => absurd hi (Nat.not_lt_zero i)
    · apply Does.irpt_bind
      rw [tick_quiet hphase, irpt_into, hirpt]
      apply Does.ite (fun hne => absurd rfl hne)
      intro _
      apply Does.usleep_bind
      apply Does.timerDone_bind
      rw [phase_into, hphase]
      exact Does.pure rfl
  apply (sdWaitForAnyInterrupt_does hpoll).bind
  rintro _ w' rfl
  rw [if_pos rfl]
  apply Does.log_bind
  exact Does.pure (by simp)

/-! ### The first flag of a read command -/

/-- What is left of a read after the wait for `CMD_COMPLETE` has cleared the flags `v`:
`READ_READY` is due, or it was raised together with `CMD_COMPLETE` and is gone. -/
inductive FirstFlag (calm : Prop) (b : Nat) (todo : List Nat) (v : Word) (c : Controller S) : Prop
  | due : calm → v = interruptCmdComplete → Due interruptReadReady (.draining b 0 todo) c →
      FirstFlag calm b todo v c
  | lost : ¬ calm → c.irpt = 0 → c.phase = .draining b 0 todo → FirstFlag calm b todo v c

theorem flagOk_cmdComplete : FlagOk interruptCmdComplete interruptCmdComplete :=
  ⟨by decide, by decide⟩

theorem flagOk_readReady : FlagOk interruptReadReady interruptReadReady :=
  ⟨by decide, by decide⟩

theorem flagOk_transferComplete : FlagOk interruptTransferComplete interruptTransferComplete :=
  ⟨by decide, by decide⟩

/-- The two flags together also end the wait for the first of them. -/
theorem flagOk_both : FlagOk interruptCmdComplete (interruptCmdComplete ||| interruptReadReady) :=
  ⟨by decide, by decide⟩

variable {b : Nat} {todo : List Nat}

theorem pollInterrupt_sent (ts : Word) (n : Nat) (hirpt : w.dev.irpt = 0)
    (hphase : w.dev.phase = .sent (b :: todo)) :
    Does (∀ i < n, S.raises (w.dev.now + i) = 0) (pollInterrupt ts n)
      (fun v w' => FlagOk interruptCmdComplete v ∧ ∃ k f p,
        w' = { w with dev := w.dev.after k v f p } ∧
          FirstFlag (S.Calm w.dev.now) b todo v w'.dev) w := by
  have hraise : w.dev.phase.raise = some (interruptCmdComplete, .fetching b todo) := by
    rw [hphase]
    rfl
  induction n generalizing w with
  | zero => exact Does.hang fun i hi => absurd hi (Nat.not_lt_zero i)
  | succ n ih =>
    apply Does.irpt_bind
    by_cases hz : S.raises w.dev.now = 0
    -- nothing was raised: one more round
    · rw [tick_zero hz, irpt_into, hirpt]
      apply Does.ite (fun hne => absurd rfl hne)
      intro _
      apply Does.usleep_bind
      apply Does.timerDone_bind
      rw [phase_into, hraise, Setup.calm_of_zero hz]
      apply Does.ite (fun hdone => absurd hdone Bool.false_ne_true)
      intro _
      apply (ih (w := { w with dev := w.dev.into (w.dev.now + 1) 0 w.dev.phase })
        rfl hphase hraise).weaken
      exact pause_succ hz
    · rcases Nat.lt_or_ge 1 (S.raises w.dev.now) with htwo | hone
      -- both flags were raised, are read together and cleared together
      · rw [tick_two hraise rfl rfl htwo, hirpt]
        apply Does.ite
        · intro _
          apply Does.set_bind
          rw [set_irpt_self rfl]
          apply Does.pure
          refine ⟨flagOk_both, _, _, _, rfl, .lost ?_ rfl rfl⟩
          rw [Setup.calm_of_ne_zero hz]
          omega
        · intro hne
          exact absurd flagOk_both.ne_zero hne
      -- only `CMD_COMPLETE` was raised
      · rw [tick_one hraise (by omega), hirpt, show 0 ||| interruptCmdComplete =
          interruptCmdComplete by decide]
        apply Does.ite
        · intro _
          apply Does.set_bind
          obtain ⟨f, p, hset, hdue⟩ := set_irpt_fetching
            (c := w.dev.into (w.dev.now + 1) interruptCmdComplete (.fetching b todo)) rfl rfl
          rw [irpt_into, hset]
          apply Does.pure
          refine ⟨flagOk_cmdComplete, _, f, p, rfl, .due ?_ rfl hdue⟩
          rw [Setup.calm_of_ne_zero hz]
          omega
        · intro hne
          exact absurd flagOk_cmdComplete.ne_zero hne

/-- Waiting for `CMD_COMPLETE` of a read succeeds, but may take `READ_READY` with it. -/
theorem sdWaitForInterrupt_sent (hirpt : w.dev.irpt = 0)
    (hphase : w.dev.phase = .sent (b :: todo)) :
    Does (¬ S.Prompt w.polls) (sdWaitForInterrupt interruptCmdComplete)
      (fun e w' => e = .none ∧ ∃ k v f p, w' = { w with dev := w.dev.after k v f p } ∧
        FirstFlag (S.Calm w.dev.now) b todo v w'.dev) w := by
  apply sdWaitForInterrupt_does
  apply sdWaitForAnyInterrupt_does
  intro ts n
  apply (pollInterrupt_sent ts n hirpt hphase).mono
  rintro v w' ⟨hflag, k, f, p, hw'⟩
  exact ⟨hflag, k, v, f, p, hw'⟩

end RpiBld
