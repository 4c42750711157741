/-
RpiBld/Sd/SupplyClock.lean

The clock of the card: the divider that `sd_8bit_clock_divider` finds, and the
switch to it in `sd_supply_clock`.

The loop of the divider doubles a divisor until the divided rate is no longer
above the target.  It stops at the least power of two that does
(`clockDivisorLoop_isLeast`), and before `2 ^ 31` since any rate below that is
at most 1 by then.  Half of it is the divider, where half of 1 is 0.

The switch is made of changes to `CONTROL1`, each of which reads the register
and writes it back.  `Switches c c' m` says what such a piece does: it takes the
bits of the driver from `c` to `c'`, whatever the stable bit of the hardware
reads as, and none of its writes changes the frequency with the clock on.  The
first piece turns the clock off and leaves the frequency alone, and the last one
turns it on and leaves the frequency alone; what is between them may change it.

Main results:
* `clockDivisorLoop_isLeast`, `sd8bitClockDivider_eq` -- the divider;
* `sdSupplyClock_switches` -- what the switch does, however it ends;
* `sdSupplyClock_returns` -- it ends where the clock becomes stable in time;
* `sdSupplyClock_correct` -- the two together, for every rate.
-/
import RpiBld.Sd.Card
import Mathlib.Order.Bounds.Defs
import Mathlib.Data.Nat.Cast.Field
import Mathlib.Data.Rat.Cast.Defs

namespace RpiBld

open Traced

/-! ### The loop of the divider -/

/-- The numbers of doublings after which the base rate is divided enough. -/
def Divided (base target : Nat) : Set Nat := {j | base / 2 ^ j ≤ target}

section Divider

variable {base target : Nat}

/-- **The loop stops at the least power of two that divides enough**, by induction on the rounds
that are left; `i` of them are done. -/
theorem clockDivisorLoop_isLeast (hbase : base < 2 ^ 31) (htarget : 1 ≤ target) (n : Nat) :
    ∀ i ≤ 30, 31 ≤ i + n → (∀ k < i, target < base / 2 ^ k) →
      ∃ j ≤ 30, clockDivisorLoop base target ((2 ^ i : Nat) : Int) n = ((2 ^ j : Nat) : Int) ∧
        IsLeast (Divided base target) j := by
  induction n with
  | zero =>
    intro i hi hn _
    omega
  | succ n ih =>
    intro i hi hn habove
    have hdiv : (base : Int).tdiv ((2 ^ i : Nat) : Int) > target ↔ target < base / 2 ^ i := by
      rw [Int.tdiv_eq_ediv_of_nonneg (Int.natCast_nonneg base)]
      exact Int.ofNat_lt
    rw [clockDivisorLoop]
    by_cases hmore : target < base / 2 ^ i
    · -- after 30 doublings no rate is above 1
      have hi30 : i ≠ 30 := by
        rintro rfl
        omega
      rw [if_pos (hdiv.mpr hmore)]
      have hdouble : ((2 ^ i : Nat) : Int) * 2 = ((2 ^ (i + 1) : Nat) : Int) := by
        push_cast
        rw [pow_succ]
      rw [hdouble]
      apply ih (i + 1) (by omega) (by omega)
      intro k hk
      rcases Nat.lt_succ_iff_lt_or_eq.mp hk with hlt | rfl
      · exact habove k hlt
      · exact hmore
    · rw [if_neg fun h => hmore (hdiv.mp h)]
      refine ⟨i, hi, rfl, Nat.le_of_not_lt hmore, fun k hk => ?_⟩
      by_contra hlt
      exact absurd hk (Nat.not_le.mpr (habove k (Nat.lt_of_not_le hlt)))

/-- Halving the divisor and doubling it again; a divisor of 1 is written as the divider 0. -/
theorem max_two_mul_half (j : Nat) : max 1 (2 * (2 ^ j / 2)) = 2 ^ j := by
  cases j with
  | zero => rfl
  | succ j =>
    rw [pow_succ, Nat.mul_div_cancel _ (by decide), Nat.mul_comm]
    exact max_eq_right (Nat.mul_pos (Nat.two_pow_pos j) (by decide))

/-- The dividers of the register: none, or one bit. -/
def IsDivider (N : Nat) : Prop := N = 0 ∨ ∃ k, N = 2 ^ k

/-- Half of a power of two is a divider, and every divider is. -/
theorem isDivider_iff {N : Nat} : IsDivider N ↔ ∃ j, N = 2 ^ j / 2 := by
  have hhalf : ∀ k, 2 ^ (k + 1) / 2 = 2 ^ k := fun k => by
    rw [pow_succ, Nat.mul_div_cancel _ (by decide)]
  constructor
  · rintro (rfl | ⟨k, rfl⟩)
    · exact ⟨0, rfl⟩
    · exact ⟨k + 1, (hhalf k).symm⟩
  · rintro ⟨_ | k, rfl⟩
    · exact .inl rfl
    · exact .inr ⟨k, hhalf k⟩

/-- What the divider of a base rate and a target rate is to be. -/
structure DividesBy (base target N : Nat) : Prop where
  least : IsLeast {N | IsDivider N ∧ base / max 1 (2 * N) ≤ target} N
  fits : N ≤ 128 ↔ base < 256 * (target + 1)

/-- The divider, from the number of doublings. -/
theorem dividesBy_of_isLeast {j : Nat} (h : IsLeast (Divided base target) j) :
    DividesBy base target (2 ^ j / 2) := by
  have hdivided : ∀ k, base / max 1 (2 * (2 ^ k / 2)) ≤ target ↔ k ∈ Divided base target :=
    fun k => by
      rw [max_two_mul_half]
      rfl
  constructor
  · refine ⟨⟨isDivider_iff.mpr ⟨j, rfl⟩, (hdivided j).mpr h.1⟩, ?_⟩
    rintro N ⟨hN, hle⟩
    obtain ⟨k, rfl⟩ := isDivider_iff.mp hN
    have hjk : j ≤ k := h.2 ((hdivided k).mp hle)
    exact Nat.div_le_div_right (Nat.pow_le_pow_right (by decide) hjk)
  · -- the eighth doubling makes the divisor 256
    have hbits : 2 ^ j / 2 ≤ 128 ↔ j ≤ 8 := by
      constructor
      · intro hle
        by_contra hj
        have hpow : 2 ^ 9 ≤ 2 ^ j := Nat.pow_le_pow_right (by decide) (by omega)
        omega
      · intro hj
        have hpow : 2 ^ j ≤ 2 ^ 8 := Nat.pow_le_pow_right (by decide) hj
        omega
    have height : 8 ∈ Divided base target ↔ base < 256 * (target + 1) := by
      show base / 2 ^ 8 ≤ target ↔ _
      omega
    rw [hbits, ← height]
    constructor
    · intro hj
      exact (Nat.div_le_div_left (Nat.pow_le_pow_right (by decide) hj) (by positivity)).trans h.1
    · intro hmem
      exact h.2 hmem

/-- **What `sd_8bit_clock_divider` returns**, from the number of doublings; the loop is over
after 31 rounds, and another round changes nothing. -/
theorem sd8bitClockDivider_eq (hbase : base < 2 ^ 31) (htarget : 1 ≤ target) :
    ∃ j ≤ 30, IsLeast (Divided base target) j ∧
      (∀ n, 31 ≤ n → clockDivisorLoop base target 1 n = ((2 ^ j : Nat) : Int)) ∧
      sd8bitClockDivider base target = ((2 ^ j / 2 : Nat) : Int) := by
  obtain ⟨j, hj, hloop, hleast⟩ := clockDivisorLoop_isLeast hbase htarget 31 0 (by decide)
    (by decide) (by omega)
  refine ⟨j, hj, hleast, fun n hn => ?_, ?_⟩
  · obtain ⟨j', -, hloop', hleast'⟩ := clockDivisorLoop_isLeast hbase htarget n 0 (by decide)
      (by omega) (by omega)
    rw [hleast.unique hleast']
    exact hloop'
  · rw [sd8bitClockDivider]
    refine (congrArg (Int.tdiv · 2) hloop).trans ?_
    exact Int.tdiv_eq_ediv_of_nonneg (Int.natCast_nonneg _)

end Divider

/-- The loop of the divider ends, and its divisor does not overflow. -/
structure DivisorLoopEnds (base target : Nat) (divisor : Nat) : Prop where
  inRange : divisor < 2 ^ 31
  done : ¬ (base : Int).tdiv divisor > target
  rounds : ∀ n, 31 ≤ n → clockDivisorLoop base target 1 n = divisor

/-- From 390625 Hz on the base rate is divided without a remainder. -/
theorem DividesBy.exact {target N : Nat} (h : DividesBy 100000000 target N)
    (htarget : 390625 ≤ target) : (100000000 : ℚ) / (max 1 (2 * N) : Nat) ≤ target := by
  have hle := h.least.1.2
  obtain ⟨j, rfl⟩ := isDivider_iff.mp h.least.1.1
  have hfits : 2 ^ j / 2 ≤ 128 := h.fits.mpr (by omega)
  rw [max_two_mul_half] at hle ⊢
  have hj : j ≤ 8 := by
    by_contra hj
    have hpow : 2 ^ 9 ≤ 2 ^ j := Nat.pow_le_pow_right (by decide) (by omega)
    omega
  have hdvd : 2 ^ j ∣ 100000000 := (Nat.pow_dvd_pow 2 hj).trans (by decide)
  have hcast : ((100000000 / 2 ^ j : Nat) : ℚ) = (100000000 : ℚ) / ((2 ^ j : Nat) : ℚ) := by
    rw [Nat.cast_div hdvd (by positivity)]
    norm_num
  rw [← hcast]
  exact_mod_cast hle

/-! ### The register -/

/-- The bits of `CONTROL1` that the hardware does not change. -/
def driverBits (v : Word) : Word := v &&& ~~~control1IntClkStable

/-- `CONTROL1` as it is read when the hardware has its stable bit so. -/
def withStable (c : Word) (stable : Bool) : Word :=
  if stable then c ||| control1IntClkStable else c &&& ~~~control1IntClkStable

/-- A controller that changes nothing but the stable bit of `CONTROL1`.  `stable k` is that bit
when the register is read for the `k`th time, and `expired k` is whether the timer has run out
at the `k`th look at it. -/
structure ClockHost (stable expired : Nat → Bool) where
  control1 : Word
  reads : Nat
  looks : Nat

instance (stable expired : Nat → Bool) : Device (ClockHost stable expired) where
  get r d :=
    match r with
    | .sd .control1 => (withStable d.control1 (stable d.reads), { d with reads := d.reads + 1 })
    | _ => (0, d)
  set r v d :=
    match r with
    | .sd .control1 => { d with control1 := v }
    | _ => d
  timerStart _ d := (0, d)
  timerDone _ d := (expired d.looks, { d with looks := d.looks + 1 })
  sleep _ d := d
  videocore ram d := (ram, d)

/-- What `CONTROL1` holds after an event. -/
def afterWrite (c : Word) : Event → Word
  | .set (.sd .control1) v => v
  | _ => c

/-- A change of `CONTROL1` from `c` to `v` keeps the frequency, or is made with the clock off. -/
def KeepsFrequency (c v : Word) : Prop :=
  v &&& control1ClkFreqSel = c &&& control1ClkFreqSel ∨
    c &&& control1ClkEn = 0 ∧ v &&& control1ClkEn = 0

/-- No write of a run that starts with `c` in `CONTROL1` changes the frequency with the clock
on. -/
def FrequencyKept : Word → List Event → Prop
  | _, [] => True
  | c, e :: t => KeepsFrequency c (afterWrite c e) ∧ FrequencyKept (afterWrite c e) t

/-- The clock is supplied with the divider `N`: `CONTROL1` was `c` before and is `c'` after. -/
structure ClockSupplied (N : Nat) (c c' : Word) : Prop where
  freqSel : (c'.extractLsb' 8 8).toNat = N
  clkEn : c' &&& control1ClkEn ≠ 0
  intClkEn : c' &&& control1IntClkEn ≠ 0
  /-- All other bits of the driver are as they were. -/
  others : ∀ i < 32, ¬ (8 ≤ i ∧ i ≤ 15) → i ≠ 0 → i ≠ 1 → i ≠ 2 →
    c'.getLsbD i = c.getLsbD i

theorem frequencyKept_append (c : Word) (t t' : List Event) :
    FrequencyKept c (t ++ t') ↔
      FrequencyKept c t ∧ FrequencyKept (t.foldl afterWrite c) t' := by
  induction t generalizing c with
  | nil =>
    show _ ↔ True ∧ _
    rw [true_and]
    rfl
  | cons e t ih =>
    show KeepsFrequency c _ ∧ FrequencyKept _ (t ++ t') ↔ (KeepsFrequency c _ ∧ _) ∧ _
    rw [ih, and_assoc]
    rfl

theorem KeepsFrequency.refl (c : Word) : KeepsFrequency c c := .inl rfl

/-! ### Bits of the driver -/

theorem driverBits_withStable (c : Word) (stable : Bool) :
    driverBits (withStable c stable) = driverBits c := by
  cases stable with
  | false =>
    show c &&& _ &&& _ = c &&& _
    rw [BitVec.and_assoc, BitVec.and_self]
  | true =>
    have hself : control1IntClkStable &&& ~~~control1IntClkStable = 0 := by decide
    show (c ||| _) &&& _ = c &&& _
    rw [BitVec.and_or_distrib_right, hself]
    exact BitVec.or_zero

theorem driverBits_or (v mask : Word) :
    driverBits (v ||| mask) = driverBits v ||| driverBits mask := BitVec.and_or_distrib_right

theorem driverBits_and (v mask : Word) : driverBits (v &&& mask) = driverBits v &&& mask := by
  rw [driverBits, driverBits, BitVec.and_assoc, BitVec.and_comm mask, ← BitVec.and_assoc]

/-- A field that does not hold the stable bit. -/
theorem driverBits_and_of_field {mask : Word} (h : ~~~control1IntClkStable &&& mask = mask)
    (v : Word) : driverBits v &&& mask = v &&& mask := by
  rw [driverBits, BitVec.and_assoc, h]

theorem keepsFrequency_driverBits {c v : Word} :
    KeepsFrequency (driverBits c) (driverBits v) ↔ KeepsFrequency c v := by
  have hfreq : ∀ v, driverBits v &&& control1ClkFreqSel = v &&& control1ClkFreqSel :=
    driverBits_and_of_field (by decide)
  have hen : ∀ v, driverBits v &&& control1ClkEn = v &&& control1ClkEn :=
    driverBits_and_of_field (by decide)
  rw [KeepsFrequency, KeepsFrequency, hfreq, hfreq, hen, hen]

/-! ### Pieces of the switch -/

section Switch

variable {stable expired : Nat → Bool} {α β : Type} {c c' c'' : Word}

/-- `m` takes the bits of the driver from `c` to `c'`, and none of its writes changes the
frequency with the clock on. -/
def Switches (c c' : Word) (m : Drv (ClockHost stable expired) α) : Prop :=
  ∀ w, driverBits w.dev.control1 = c → m.wp (fun t r w' => FrequencyKept w.dev.control1 t ∧
    ∀ a, r = .ok a →
      t.foldl afterWrite w.dev.control1 = w'.dev.control1 ∧ driverBits w'.dev.control1 = c') w

namespace Switches

variable {m : Drv (ClockHost stable expired) α} {f : α → Drv (ClockHost stable expired) β}

theorem bind (h : Switches c c' m) (hf : ∀ a, Switches c' c'' (f a)) :
    Switches c c'' (m >>= f) := by
  intro w hw
  apply Program.wp_bind (h w hw)
  · rintro t a w₁ ⟨hkept, hok⟩
    obtain ⟨hcontent, hw₁⟩ := hok a rfl
    apply Program.wp_mono (hf a w₁ hw₁)
    rintro t' r w' ⟨hkept', hok'⟩
    rw [List.foldl_append, hcontent]
    exact ⟨(frequencyKept_append _ t t').mpr ⟨hkept, hcontent ▸ hkept'⟩, hok'⟩
  · rintro t e w₁ ⟨hkept, -⟩
    refine ⟨hkept, ?_⟩
    rintro a ⟨⟩

theorem pure (a : α) : Switches c c (Pure.pure a : Drv (ClockHost stable expired) α) := by
  intro w hw
  exact ⟨trivial, fun _ _ => ⟨rfl, hw⟩⟩

theorem halt (e : Halt) : Switches c c' (Program.halt e : Drv (ClockHost stable expired) α) := by
  intro w hw
  refine ⟨trivial, ?_⟩
  rintro a ⟨⟩

/-- A look at something else. -/
theorem change {g : World (ClockHost stable expired) → α × World (ClockHost stable expired)}
    (h : ∀ w, (g w).2.dev.control1 = w.dev.control1) :
    Switches c c (Program.change g : Drv (ClockHost stable expired) α) := by
  intro w hw
  refine ⟨trivial, fun _ _ => ⟨(h w).symm, ?_⟩⟩
  show driverBits (g w).2.dev.control1 = c
  rw [h, hw]

theorem ite {p : Prop} [Decidable p] {m' : Drv (ClockHost stable expired) α}
    (ht : Switches c c' m) (hf : Switches c c' m') : Switches c c' (if p then m else m') := by
  by_cases hp : p
  · rwa [if_pos hp]
  · rwa [if_neg hp]

theorem get : Switches c c (registerGet (.sd .control1) : Drv (ClockHost stable expired) Word) := by
  intro w hw
  exact ⟨⟨KeepsFrequency.refl _, trivial⟩, fun _ _ => ⟨rfl, hw⟩⟩

/-- Reading the register and writing it back changed. -/
theorem modify {g : Word → Word} (hg : ∀ v, driverBits v = c → driverBits (g v) = c')
    (hkept : KeepsFrequency c c') :
    Switches c c' (do
      let reg ← registerGet (.sd .control1)
      registerSet (.sd .control1) (g reg) : Drv (ClockHost stable expired) Unit) := by
  intro w hw
  have hnew : driverBits (g (withStable w.dev.control1 (stable w.dev.reads))) = c' :=
    hg _ ((driverBits_withStable _ _).trans hw)
  refine ⟨⟨KeepsFrequency.refl _, ?_, trivial⟩, fun _ _ => ⟨rfl, hnew⟩⟩
  apply keepsFrequency_driverBits.mp
  rw [← hw] at hkept
  rw [← hnew] at hkept
  exact hkept

theorem enable {mask : Word} (h : KeepsFrequency c (c ||| driverBits mask)) :
    Switches c (c ||| driverBits mask)
      (registerEnableBits (.sd .control1) mask : Drv (ClockHost stable expired) Unit) := by
  refine modify (g := (· ||| mask)) ?_ h
  rintro v rfl
  exact driverBits_or v mask

theorem disable {mask : Word} (h : KeepsFrequency c (c &&& ~~~mask)) :
    Switches c (c &&& ~~~mask)
      (registerDisableBits (.sd .control1) mask : Drv (ClockHost stable expired) Unit) := by
  refine modify (g := (· &&& ~~~mask)) ?_ h
  rintro v rfl
  exact driverBits_and v _

/-- The wait for the stable bit writes nothing. -/
theorem wait (timeoutMs : Int) : Switches c c (whileCondTimeoutInfinite sdInternalClockNotStable
    timeoutMs : Drv (ClockHost stable expired) Unit) := by
  have hloop : ∀ ts n, Switches c c
      (whileCondLoop sdInternalClockNotStable ts n : Drv (ClockHost stable expired) Unit) := by
    intro ts n
    induction n with
    | zero => exact halt _
    | succ n ih =>
      refine (get.bind fun v => pure _).bind fun notStable => ?_
      refine ite ?_ (pure _)
      exact (change fun _ => rfl).bind fun done => ite (halt _) ih
  refine (change fun _ => rfl).bind fun ts => ?_
  exact bind (fun w hw => ⟨trivial, fun _ _ => ⟨rfl, hw⟩⟩) fun polls => hloop ts polls

end Switches

/-! ### The switch -/

/-- The bits of `CONTROL1` for the divider `N`. -/
def dividerBits (N : Nat) : Word := BitVec.ofNat 32 N <<< control1ClkFreqSelShift

/-- The bits of the driver after the switch to the divider `N`. -/
def switchedTo (N : Nat) (c : Word) : Word :=
  c &&& ~~~(control1ClkEn ||| control1IntClkEn) &&& ~~~control1ClkFreqSel |||
    driverBits (dividerBits N ||| control1IntClkEn) ||| driverBits control1ClkEn

theorem dividerBits_and_clkEn (N : Nat) : dividerBits N &&& control1ClkEn = 0 := by
  apply (and_bit_eq_zero_iff _ (by decide)).mpr
  rw [dividerBits, control1ClkFreqSelShift, BitVec.getLsbD_shiftLeft]
  rfl

/-- **The switch, however it ends**: the clock is off while the frequency changes. -/
theorem sdSupplyClock_switches {clockRate : Int} {N : Nat}
    (hN : sd8bitClockDivider emmc2ExpectedBaseClockHz clockRate = N) (c : Word) :
    Switches c (switchedTo N c)
      (sdSupplyClock clockRate : Drv (ClockHost stable expired) Unit) := by
  -- the clock is off before the frequency is cleared, and stays off until it is set
  have hoff : c &&& ~~~(control1ClkEn ||| control1IntClkEn) &&& control1ClkEn = 0 := by
    rw [BitVec.and_assoc, show ~~~(control1ClkEn ||| control1IntClkEn) &&& control1ClkEn = 0 by
      decide]
    exact BitVec.and_zero
  have hoff' : c &&& ~~~(control1ClkEn ||| control1IntClkEn) &&& ~~~control1ClkFreqSel &&&
      control1ClkEn = 0 := by
    rw [BitVec.and_assoc, show ~~~control1ClkFreqSel &&& control1ClkEn = control1ClkEn by decide]
    exact hoff
  have hset : driverBits (dividerBits N ||| control1IntClkEn) &&& control1ClkEn = 0 := by
    rw [driverBits_and_of_field (by decide), BitVec.and_or_distrib_right,
      dividerBits_and_clkEn]
    decide
  rw [sdSupplyClock, hN, BitVec.ofInt_natCast]
  apply Switches.bind
  · apply Switches.disable
    left
    rw [BitVec.and_assoc, show ~~~(control1ClkEn ||| control1IntClkEn) &&& control1ClkFreqSel =
      control1ClkFreqSel by decide]
  intro _
  apply Switches.bind
  · apply Switches.disable
    exact .inr ⟨hoff, hoff'⟩
  intro _
  apply Switches.bind
  · apply Switches.enable
    refine .inr ⟨hoff', ?_⟩
    rw [BitVec.and_or_distrib_right, hoff']
    exact BitVec.zero_or.trans hset
  intro _
  refine (Switches.wait 20).bind fun _ => ?_
  apply Switches.enable
  left
  rw [BitVec.and_or_distrib_right, show driverBits control1ClkEn &&& control1ClkFreqSel = 0 by
    decide]
  exact BitVec.or_zero

/-- **After the switch** the register holds the divider, both clocks are on and all else is as it
was. -/
theorem clockSupplied_of_driverBits {N : Nat} (hN : N ≤ 128) {c c' : Word}
    (h : driverBits c' = switchedTo N (driverBits c)) : ClockSupplied N c c' := by
  -- the bits one by one
  have hkeep : ∀ v : Word, ∀ i < 32, i ≠ 1 → (driverBits v).getLsbD i = v.getLsbD i := by
    intro v i hi hne
    rw [driverBits, BitVec.getLsbD_and, BitVec.getLsbD_not, control1IntClkStable,
      getLsbD_bit 1 hi]
    simp [hi, hne]
  have hbits : ∀ i < 32, i ≠ 1 → c'.getLsbD i =
      (c.getLsbD i && !(decide (i = 2) || decide (i = 0)) && !decide (8 ≤ i ∧ i ≤ 15) ||
        ((dividerBits N).getLsbD i || decide (i = 0)) || decide (i = 2)) := by
    intro i hi hne
    rw [← hkeep c' i hi hne, h, switchedTo]
    simp only [BitVec.getLsbD_or, BitVec.getLsbD_and, BitVec.getLsbD_not, hkeep _ i hi hne,
      control1ClkEn, control1IntClkEn, control1ClkFreqSel, getLsbD_bit _ hi,
      getLsbD_bits (show 15 < 32 by decide) hi, hi, decide_true, Bool.true_and]
  have hdivider : ∀ i < 32, (dividerBits N).getLsbD i = (!decide (i < 8) && N.testBit (i - 8)) := by
    intro i hi
    rw [dividerBits, control1ClkFreqSelShift, BitVec.getLsbD_shiftLeft, BitVec.getLsbD_ofNat]
    simp [hi, show i - 8 < 32 by omega]
  constructor
  · have hfield : c'.extractLsb' 8 8 = BitVec.ofNat 8 N := by
      ext i hi
      rw [BitVec.getElem_extractLsb', hbits (8 + i) (by omega) (by omega),
        hdivider (8 + i) (by omega), ← BitVec.getLsbD_eq_getElem, BitVec.getLsbD_ofNat,
        Nat.add_sub_cancel_left]
      simp [hi, show 8 + i ≤ 15 by omega, show 8 + i ≠ 2 by omega]
    rw [hfield, BitVec.toNat_ofNat]
    omega
  · intro hzero
    have hclk := (and_bit_eq_zero_iff c' (by decide)).mp hzero
    rw [hbits 2 (by decide) (by decide)] at hclk
    simp at hclk
  · intro hzero
    have hclk := (and_bit_eq_zero_iff c' (by decide)).mp hzero
    rw [hbits 0 (by decide) (by decide)] at hclk
    simp at hclk
  · intro i hi hfreq h0 h1 h2
    have hout : (dividerBits N).getLsbD i = false := by
      rw [hdivider i hi]
      rcases Nat.lt_or_ge i 8 with hlt | hge
      · simp [hlt]
      · -- a divider of 8 bits does not reach beyond its field
        have hlarge : 2 ^ 8 ≤ 2 ^ (i - 8) := Nat.pow_le_pow_right (by decide) (by omega)
        rw [Nat.testBit_lt_two_pow (by omega)]
        simp
    rw [hbits i hi h1, hout]
    simp [hfreq, h0, h2]

/-! ### The switch returns -/

/-- The clock becomes stable in time: some read of the wait, which comes after the three of the
changes before it, finds the stable bit, and the timer has not run out at a look before it. -/
def StableInTime (w : World (ClockHost stable expired)) : Prop :=
  ∃ k < w.polls, stable (w.dev.reads + 3 + k) = true ∧
    ∀ j < k, expired (w.dev.looks + j) = false

theorem withStable_and_stable (c : Word) (b : Bool) :
    (withStable c b &&& control1IntClkStable == 0) = !b := by
  have hbit : (withStable c b).getLsbD 1 = b := by
    cases b with
    | false =>
      show (c &&& ~~~bit 1).getLsbD 1 = false
      rw [BitVec.getLsbD_and, BitVec.getLsbD_not, getLsbD_bit 1 (by decide)]
      simp
    | true =>
      show (c ||| bit 1).getLsbD 1 = true
      rw [BitVec.getLsbD_or, getLsbD_bit 1 (by decide)]
      simp
  rw [Bool.eq_iff_iff, beq_iff_eq, Bool.not_eq_true']
  refine (and_bit_eq_zero_iff _ (by decide)).trans ?_
  rw [hbit]

theorem sdInternalClockNotStable_run (w : World (ClockHost stable expired)) :
    sdInternalClockNotStable w =
      ⟨[.get (.sd .control1) (withStable w.dev.control1 (stable w.dev.reads))],
        .ok (!stable w.dev.reads), { w with dev := { w.dev with reads := w.dev.reads + 1 } }⟩ := by
  rw [← withStable_and_stable w.dev.control1]
  rfl

/-- The wait, by induction on the polls that find the bit clear. -/
theorem whileCondLoop_returns (ts : Word) (k : Nat) :
    ∀ (n : Nat) (w : World (ClockHost stable expired)), k < n →
      stable (w.dev.reads + k) = true → (∀ j < k, expired (w.dev.looks + j) = false) →
      (whileCondLoop sdInternalClockNotStable ts n).Returns (fun _ _ _ => True) w := by
  -- a wait whose first poll finds the bit is over
  have hnow : ∀ (n : Nat) (w : World (ClockHost stable expired)), 0 < n →
      stable w.dev.reads = true →
      (whileCondLoop sdInternalClockNotStable ts n).Returns (fun _ _ _ => True) w := by
    intro n w hn hbit
    obtain ⟨n, rfl⟩ := Nat.exists_eq_succ_of_ne_zero (Nat.ne_of_gt hn)
    rw [whileCondLoop, Program.returns_bind_iff (sdInternalClockNotStable_run w), hbit]
    exact Program.Returns.pure trivial
  induction k with
  | zero =>
    intro n w hn hbit _
    exact hnow n w hn hbit
  | succ k ih =>
    intro n w hn hbit htimer
    by_cases hfirst : stable w.dev.reads = true
    · exact hnow n w (by omega) hfirst
    · obtain ⟨n, rfl⟩ := Nat.exists_eq_succ_of_ne_zero (Nat.ne_of_gt (Nat.zero_lt_of_lt hn))
      have hlook : expired w.dev.looks = false := htimer 0 (Nat.succ_pos k)
      rw [whileCondLoop, Program.returns_bind_iff (sdInternalClockNotStable_run w),
        Bool.not_eq_true _ |>.mp hfirst]
      refine Program.Returns.bind (P := fun _ done w' => done = false ∧ w'.polls = w.polls ∧
        w'.dev.reads = w.dev.reads + 1 ∧ w'.dev.looks = w.dev.looks + 1)
        (Program.Returns.change ⟨hlook, rfl, rfl, rfl⟩) ?_
      rintro _ _ w' ⟨rfl, -, hreads, hlooks⟩
      apply ih n w' (by omega)
      · rw [hreads, Nat.add_assoc, Nat.add_comm 1]
        exact hbit
      · intro j hj
        rw [hlooks, Nat.add_assoc, Nat.add_comm 1]
        exact htimer (j + 1) (by omega)

/-- A change of the register is one read and no look at the timer. -/
theorem modify_returns (g : Word → Word) (w : World (ClockHost stable expired)) :
    (do
      let reg ← registerGet (.sd .control1)
      registerSet (.sd .control1) (g reg) : Drv (ClockHost stable expired) Unit).Returns
      (fun _ _ w' => w'.polls = w.polls ∧ w'.dev.reads = w.dev.reads + 1 ∧
        w'.dev.looks = w.dev.looks) w :=
  ⟨_, _, _, rfl, rfl, rfl, rfl⟩

/-- **The switch returns** where the clock becomes stable in time. -/
theorem sdSupplyClock_returns (clockRate : Int) (w : World (ClockHost stable expired))
    (hstable : StableInTime w) :
    (sdSupplyClock clockRate).Returns (fun _ _ _ => True) w := by
  obtain ⟨k, hk, hbit, htimer⟩ := hstable
  refine (modify_returns _ w).bind ?_
  rintro _ _ w₁ ⟨hpolls₁, hreads₁, hlooks₁⟩
  refine (modify_returns _ w₁).bind ?_
  rintro _ _ w₂ ⟨hpolls₂, hreads₂, hlooks₂⟩
  refine (modify_returns _ w₂).bind ?_
  rintro _ _ w₃ ⟨hpolls₃, hreads₃, hlooks₃⟩
  have hwait : (whileCondTimeoutInfinite sdInternalClockNotStable 20).Returns
      (fun _ _ _ => True) w₃ := by
    refine Program.Returns.bind (P := fun _ _ w' => w₃ = w') (Program.Returns.change rfl) ?_
    rintro _ ts _ rfl
    refine Program.Returns.bind (P := fun _ n w' => w₃.polls = n ∧ w₃ = w')
      (Program.Returns.view ⟨rfl, rfl⟩) ?_
    rintro _ n _ ⟨rfl, rfl⟩
    apply whileCondLoop_returns ts k
    · rwa [hpolls₃, hpolls₂, hpolls₁]
    · rw [hreads₃, hreads₂, hreads₁]
      exact hbit
    · rw [hlooks₃, hlooks₂, hlooks₁]
      exact htimer
  refine hwait.bind ?_
  intro _ _ w₄ _
  exact (modify_returns _ w₄).mono fun _ _ _ _ => trivial

/-! ### The divider and the switch -/

/-- The switch to the divider `N`. -/
structure SuppliesClock (clockRate : Int) (N : Nat) (w : World (ClockHost stable expired)) :
    Prop where
  kept : FrequencyKept w.dev.control1 (sdSupplyClock clockRate w).events
  supplied : (sdSupplyClock clockRate w).result = .ok () →
    ClockSupplied N w.dev.control1 (sdSupplyClock clockRate w).state.dev.control1
  returns : StableInTime w → (sdSupplyClock clockRate w).result = .ok ()

end Switch

/-- **The clock of the card.**  For every base rate and every target the divider is the least one
that divides enough, and from 390625 Hz on, the switch to it from the base rate of the controller
leaves the register as it should be and the frequency alone while the clock is on. -/
theorem sdSupplyClock_correct (base target : Nat) (hbase : base < 2 ^ 31) (htarget : 1 ≤ target) :
    (∃ divisor, DivisorLoopEnds base target divisor) ∧
      (∃ N : Nat, sd8bitClockDivider base target = N ∧ DividesBy base target N) ∧
      (390625 ≤ target → ∃ N : Nat, sd8bitClockDivider emmc2ExpectedBaseClockHz target = N ∧
        (100000000 : ℚ) / (max 1 (2 * N) : Nat) ≤ target ∧
        ∀ (stable expired : Nat → Bool) (w : World (ClockHost stable expired)),
          SuppliesClock target N w) := by
  obtain ⟨j, hj, hleast, hrounds, hdivider⟩ := sd8bitClockDivider_eq hbase htarget
  refine ⟨⟨2 ^ j, ?_, ?_, hrounds⟩, ⟨2 ^ j / 2, hdivider, dividesBy_of_isLeast hleast⟩, ?_⟩
  · exact Nat.pow_lt_pow_right (by decide) (by omega)
  · rw [Int.tdiv_eq_ediv_of_nonneg (Int.natCast_nonneg base), gt_iff_lt, Int.not_lt]
    exact Int.ofNat_le.mpr hleast.1
  · intro hrate
    obtain ⟨j', -, hleast', -, hN⟩ := sd8bitClockDivider_eq (show 100000000 < 2 ^ 31 by decide)
      htarget
    have hdivides := dividesBy_of_isLeast hleast'
    have hfits : 2 ^ j' / 2 ≤ 128 := hdivides.fits.mpr (by omega)
    refine ⟨2 ^ j' / 2, hN, hdivides.exact hrate, fun stable expired w => ?_⟩
    obtain ⟨hkept, hok⟩ := sdSupplyClock_switches hN _ w rfl
    refine ⟨hkept, fun hresult => clockSupplied_of_driverBits hfits (hok () hresult).2, ?_⟩
    intro hstable
    obtain ⟨t, a, w', hrun, -⟩ := sdSupplyClock_returns target w hstable
    rw [hrun]

/-- The identification clock: the base rate is divided by 256.  The clock was on with the divider
1, and the register has bits of other fields set; the stable bit comes with the third poll. -/
theorem sdSupplyClock_correct_identification :
    let w : World (ClockHost (fun k => decide (5 ≤ k)) fun _ => false) :=
      ⟨⟨0x000e0107, 0, 0⟩, fun _ => 0, 10, 0⟩
    sd8bitClockDivider 100000000 400000 = 128 ∧
      (sdSupplyClock 400000 w).result = .ok () ∧
      ClockSupplied 128 0x000e0107 (sdSupplyClock 400000 w).state.dev.control1 := by
  intro w
  obtain ⟨-, -, hrate⟩ := sdSupplyClock_correct 100000000 400000 (by decide) (by decide)
  obtain ⟨N, hN, -, hsupplies⟩ := hrate (by decide)
  have hdivider : sd8bitClockDivider 100000000 400000 = 128 := by decide
  obtain rfl : N = 128 := by
    have hcast : (128 : Int) = N := hdivider.symm.trans hN
    omega
  have hclock := hsupplies _ _ w
  have hresult : (sdSupplyClock 400000 w).result = .ok () :=
    hclock.returns ⟨2, by decide, by decide, fun _ _ => rfl⟩
  exact ⟨hdivider, hresult, hclock.supplied hresult⟩

end RpiBld
