/-
RpiBld/Timer.lean

Sleeping (`timer.c`), polled.

`Machine` takes a sleep for granted; here is what the code does for one.  It
reads the low 32 bits of the microsecond counter, adds the time to sleep, and
reads them again until they are no longer below the sum.  The sum wraps, and so
do the bits that are read, so what is compared is the time and the end of the
sleep in the 2 ^ 32 microseconds (71 minutes) that each of them lies in.  A
sample is compared well if it lies in the same 2 ^ 32 microseconds as the end.
One that lies in those before seems to be behind the end, and the sleep is over
at once; one that lies in those after may seem to be before it, and the sleep
goes on for another 71 minutes.

Main results:
* `usleep_returns_iff` -- the sample at which the loop stops;
* `usleep_lastsAsAsked_iff` -- the sleeps that last as long as asked.
-/
import RpiBld.Machine
import Mathlib.Order.Monotone.Basic
import Mathlib.Order.Bounds.Defs

namespace RpiBld

open Traced

namespace Timer

/-! ### The polled sleep -/

section Driver

variable {σ : Type} [Device σ]

/-- The loop of `usleep`.  The `int` is converted for the comparison. -/
def usleepLoop (endTicks : Int) : Nat → Drv σ Unit
  | 0 => Program.halt .hang
  | n + 1 => do
    let clo ← registerGet (.timer .clo)
    if clo < BitVec.ofInt 32 endTicks then usleepLoop endTicks n else pure ()

/-- `usleep`, as it is compiled with `ENABLE_GIC`. -/
def usleep (microseconds : Int) : Drv σ Unit := do
  let clo ← registerGet (.timer .clo)
  let endTicks := (clo + BitVec.ofInt 32 microseconds).toInt
  let polls ← Program.view World.polls
  usleepLoop endTicks polls

end Driver

/-! ### The counter -/

/-- A machine whose microsecond counter stands at `time k` when `CLO` is read for the `k`th
time. -/
structure Counter (time : Nat → Nat) where
  reads : Nat

instance (time : Nat → Nat) : Device (Counter time) where
  get r d :=
    match r with
    | .timer .clo => (BitVec.ofNat 32 (time d.reads), ⟨d.reads + 1⟩)
    | _ => (0, d)
  set _ _ d := d
  timerStart _ d := (0, d)
  timerDone _ d := (false, d)
  sleep _ d := d
  videocore ram d := (ram, d)

/-- The times of the samples increase, from the start of the sleep on. -/
structure Sampled (time : Nat → Nat) : Prop where
  start : time 0 ≤ time 1
  samples : StrictMono fun k => time (k + 1)

/-- The samples that are taken when `us` microseconds are over. -/
def Elapsed (time : Nat → Nat) (us : Nat) : Set Nat := {k | time 0 + us ≤ time (k + 1)}

/-- A sleep returns at the first sample that is taken when its time is over: it takes that
sample, and none after it. -/
def LastsAsAsked (time : Nat → Nat) (us : Nat) : Prop :=
  ∀ k, IsLeast (Elapsed time us) k → ∀ w : World (Counter time), w.dev.reads = 0 → k < w.polls →
    (usleep us).Returns (fun _ _ w' => w'.dev.reads = k + 2) w

section Counter

variable {time : Nat → Nat} {us : Nat}

/-! ### Where the loop stops -/

theorem registerGet_clo (w : World (Counter time)) :
    registerGet (.timer .clo) w = ⟨[.get (.timer .clo) (BitVec.ofNat 32 (time w.dev.reads))],
      .ok (BitVec.ofNat 32 (time w.dev.reads)), { w with dev := ⟨w.dev.reads + 1⟩ }⟩ := rfl

/-- The loop stops at the first sample that is not below the end, by induction on the rounds
that are left. -/
theorem usleepLoop_returns_iff (endTicks : Int) (n r : Nat) (w : World (Counter time)) :
    (usleepLoop endTicks n).Returns (fun _ _ w' => w'.dev.reads = r) w ↔
      ∃ m < n, r = w.dev.reads + m + 1 ∧
        (∀ j < m, BitVec.ofNat 32 (time (w.dev.reads + j)) < BitVec.ofInt 32 endTicks) ∧
        ¬ BitVec.ofNat 32 (time (w.dev.reads + m)) < BitVec.ofInt 32 endTicks := by
  induction n generalizing w with
  | zero =>
    constructor
    · rintro ⟨t, a, w', ⟨⟩, -⟩
    · rintro ⟨m, hm, -⟩
      omega
  | succ n ih =>
    rw [usleepLoop, Program.returns_bind_iff (registerGet_clo w)]
    by_cases hclo : BitVec.ofNat 32 (time w.dev.reads) < BitVec.ofInt 32 endTicks
    · rw [if_pos hclo, ih]
      dsimp only
      constructor
      · rintro ⟨m, hm, hr, hbelow, hend⟩
        refine ⟨m + 1, by omega, by omega, ?_, by rwa [← Nat.add_assoc, Nat.add_right_comm]⟩
        rintro (_ | j) hj
        · exact hclo
        · have := hbelow j (by omega)
          rwa [← Nat.add_assoc, Nat.add_right_comm]
      · rintro ⟨_ | m, hm, hr, hbelow, hend⟩
        · exact absurd hclo hend
        · refine ⟨m, by omega, by omega, ?_, by rwa [← Nat.add_assoc, Nat.add_right_comm] at hend⟩
          intro j hj
          have := hbelow (j + 1) (by omega)
          rwa [← Nat.add_assoc, Nat.add_right_comm] at this
    · rw [if_neg hclo]
      constructor
      · rintro ⟨t, a, w', hrun, hr⟩
        obtain rfl := congrArg Run.state hrun
        exact ⟨0, by omega, hr.symm, by omega, hclo⟩
      · rintro ⟨_ | m, hm, rfl, hbelow, hend⟩
        · exact Program.Returns.pure rfl
        · exact absurd (hbelow 0 (by omega)) hclo

/-- **Where a sleep stops**: at the first sample whose low 32 bits are not below those of the
end of the sleep. -/
theorem usleep_returns_iff (w : World (Counter time)) (hreads : w.dev.reads = 0) (r : Nat) :
    (usleep us).Returns (fun _ _ w' => w'.dev.reads = r) w ↔
      ∃ m < w.polls, r = m + 2 ∧
        (∀ j < m, time (j + 1) % 2 ^ 32 < (time 0 + us) % 2 ^ 32) ∧
        (time 0 + us) % 2 ^ 32 ≤ time (m + 1) % 2 ^ 32 := by
  have hend : BitVec.ofNat 32 (time 0) + BitVec.ofInt 32 us = BitVec.ofNat 32 (time 0 + us) := by
    rw [BitVec.ofInt_natCast, ← BitVec.ofNat_add]
  have hbelow : ∀ x, BitVec.ofNat 32 x < BitVec.ofNat 32 (time 0 + us) ↔
      x % 2 ^ 32 < (time 0 + us) % 2 ^ 32 := fun x => by
    rw [BitVec.lt_def, BitVec.toNat_ofNat, BitVec.toNat_ofNat]
  have hview : (Program.view World.polls : Drv (Counter time) Nat) { w with dev := ⟨1⟩ } =
      ⟨[], .ok w.polls, { w with dev := ⟨1⟩ }⟩ := rfl
  rw [usleep, Program.returns_bind_iff (registerGet_clo w), hreads, hend]
  dsimp only
  rw [Program.returns_bind_iff hview, usleepLoop_returns_iff]
  dsimp only
  rw [BitVec.ofInt_toInt]
  simp only [hbelow, Nat.not_lt, Nat.add_comm 1]

/-! ### When a sleep lasts as long as asked -/

theorem Sampled.start_le (htime : Sampled time) (k : Nat) : time 0 ≤ time (k + 1) :=
  htime.start.trans (htime.samples.monotone (Nat.zero_le k))

/-- Some sample is the first that is taken when the time is over. -/
theorem Sampled.exists_isLeast (htime : Sampled time) (us : Nat) :
    ∃ k, IsLeast (Elapsed time us) k := by
  classical
  have h : ∃ k, time 0 + us ≤ time (k + 1) := ⟨time 0 + us, htime.samples.le_apply⟩
  exact ⟨Nat.find h, Nat.find_spec h, fun k hk => Nat.find_min' h hk⟩

/-- The samples before that one are those that are taken while the time is not over. -/
theorem Sampled.lt_iff (htime : Sampled time) {k : Nat} (hk : IsLeast (Elapsed time us) k)
    (j : Nat) : j < k ↔ time (j + 1) < time 0 + us := by
  constructor
  · intro hj
    by_contra hle
    exact Nat.lt_irrefl k (Nat.lt_of_le_of_lt (hk.2 (Nat.le_of_not_lt hle)) hj)
  · intro hj
    by_contra hle
    have hmono : time (k + 1) ≤ time (j + 1) := htime.samples.monotone (Nat.le_of_not_lt hle)
    exact Nat.lt_irrefl _ (Nat.lt_of_le_of_lt (hk.1.trans hmono) hj)

/-- A sample that is taken less than 2 ^ 31 microseconds before the end seems to be before it
where no wrap of the counter lies between the two. -/
theorem mod_lt_mod_iff {start x : Nat} (hus : us < 2 ^ 31) (hx : start ≤ x)
    (hend : x < start + us) :
    x % 2 ^ 32 < (start + us) % 2 ^ 32 ↔ x / 2 ^ 32 = (start + us) / 2 ^ 32 := by
  omega

/-- **A sleep lasts as long as asked** exactly where the counter does not wrap between a sample
that is taken before the end and the end, and the first sample that is taken after it does not
read lower than the end. -/
theorem usleep_lastsAsAsked_iff (time : Nat → Nat) (htime : Sampled time) (us : Nat)
    (hus : us < 2 ^ 31) :
    LastsAsAsked time us ↔
      (∀ j, time (j + 1) < time 0 + us → time (j + 1) / 2 ^ 32 = (time 0 + us) / 2 ^ 32) ∧
        ∀ k, IsLeast (Elapsed time us) k → (time 0 + us) % 2 ^ 32 ≤ time (k + 1) % 2 ^ 32 := by
  have hsame : ∀ j, time (j + 1) < time 0 + us →
      (time (j + 1) % 2 ^ 32 < (time 0 + us) % 2 ^ 32 ↔
        time (j + 1) / 2 ^ 32 = (time 0 + us) / 2 ^ 32) :=
    fun j => mod_lt_mod_iff hus (htime.start_le j)
  constructor
  · intro hlasts
    obtain ⟨k, hk⟩ := htime.exists_isLeast us
    have hreturns := hlasts k hk ⟨⟨0⟩, fun _ => 0, k + 1, 0⟩ rfl (Nat.lt_succ_self k)
    obtain ⟨m, -, hm, hbelow, hend⟩ := (usleep_returns_iff _ rfl _).mp hreturns
    obtain rfl : m = k := by omega
    refine ⟨fun j hj => (hsame j hj).mp (hbelow j ((htime.lt_iff hk j).mpr hj)), ?_⟩
    intro k' hk'
    rwa [hk'.unique hk]
  · rintro ⟨hbelow, hend⟩ k hk w hreads hpolls
    refine (usleep_returns_iff w hreads _).mpr ⟨k, hpolls, rfl, ?_, hend k hk⟩
    intro j hj
    have hj' := (htime.lt_iff hk j).mp hj
    exact (hsame j hj').mpr (hbelow j hj')

/-- A sleep of 100 microseconds just after power-on, sampled every 50. -/
theorem usleep_lastsAsAsked_powerOn : LastsAsAsked (fun k => 50 * k) 100 := by
  have hmono : StrictMono fun k => 50 * (k + 1) := fun a b hab => by
    show 50 * (a + 1) < 50 * (b + 1)
    omega
  apply (usleep_lastsAsAsked_iff (fun k => 50 * k) ⟨by decide, hmono⟩ 100 (by decide)).mpr
  constructor
  · intro j hj
    omega
  · intro k hk
    have h1 : k ≤ 1 := hk.2 (show 50 * 0 + 100 ≤ 50 * (1 + 1) by decide)
    have h2 : 50 * 0 + 100 ≤ 50 * (k + 1) := hk.1
    show (50 * 0 + 100) % 2 ^ 32 ≤ 50 * (k + 1) % 2 ^ 32
    omega

/-- The short pause of `signal_error`, where it starts 10 microseconds before the counter wraps,
is over with the first sample. -/
theorem not_lastsAsAsked_wrap : ¬ LastsAsAsked (fun k => 2 ^ 32 - 10 + k) 370000 := by
  intro hlasts
  have hk : IsLeast (Elapsed (fun k => 2 ^ 32 - 10 + k) 370000) 369999 := by
    constructor
    · show 2 ^ 32 - 10 + 0 + 370000 ≤ 2 ^ 32 - 10 + (369999 + 1)
      decide
    · intro k hk
      have hk' : 2 ^ 32 - 10 + 0 + 370000 ≤ 2 ^ 32 - 10 + (k + 1) := hk
      omega
  have hreturns := hlasts 369999 hk ⟨⟨0⟩, fun _ => 0, 370000, 0⟩ rfl (by decide)
  obtain ⟨m, -, hm, hbelow, -⟩ := (usleep_returns_iff _ rfl _).mp hreturns
  have hfirst : (2 ^ 32 - 10 + (0 + 1)) % 2 ^ 32 < (2 ^ 32 - 10 + 0 + 370000) % 2 ^ 32 :=
    hbelow 0 (by omega)
  exact absurd hfirst (by decide)

end Counter

end Timer

end RpiBld
