/-
RpiBld/Sd/HostSetup.lean

The host is set up whenever a command is issued, in every run of `c_entry`.

`HostRegs` follows what is known of the three set-up registers: a value that was
read or written is known until the host is reset, and the host breaks its word
where it reads as something else later (the stable bit of the clock apart, which
is its own).  As long as it keeps its word,

* each command finds the bus powered, the clock on with the divider for 400 kHz
  before `CMD7` and for 25 MHz from it on, and the interrupts the command waits for
  unmasked;
* each write of `CONTROL1` leaves the frequency alone while the clock is on.

The set-up functions are gone through one by one; they change one register and keep
what is known of the others.  Between them there are only commands, which keep all
of it (`Commanding`).

Main result:
* `cEntry_setUp` -- every run of `c_entry` obeys this, on every device.
-/
import RpiBld.Guarding
import RpiBld.Lockstep
import RpiBld.Sd.SupplyClock

namespace RpiBld

open Traced

/-! ### What is known of the host -/

/-- The set-up registers as far as they are known, whether the card was selected, and whether the
registers always read as what they were known to hold. -/
structure HostRegs where
  control0 : Option Word := none
  control1 : Option Word := none
  irptMask : Option Word := none
  selected : Bool := false
  kept : Bool := true

/-- What is known of a register does not contradict a value it is read as. -/
def agrees (mask : Word) (known : Option Word) (v : Word) : Bool :=
  known.all fun u => u &&& mask == v &&& mask

/-- A reset makes the registers unknown, and `CONTROL1` until it is over. -/
def HostRegs.observe (c : HostRegs) : Event → HostRegs
  | .get (.sd .control0) v =>
    { c with control0 := some v, kept := c.kept && agrees (BitVec.allOnes 32) c.control0 v }
  | .get (.sd .control1) v =>
    { c with
      control1 := if v &&& control1SwResetHc = 0 then some v else none
      kept := c.kept && agrees (~~~control1IntClkStable) c.control1 v }
  | .get (.sd .irptMask) v =>
    { c with irptMask := some v, kept := c.kept && agrees (BitVec.allOnes 32) c.irptMask v }
  | .set (.sd .control0) v => { c with control0 := some v }
  | .set (.sd .control1) v =>
    if v &&& control1SwResetHc = 0 then { c with control1 := some v }
    else { c with control0 := none, control1 := none, irptMask := none }
  | .set (.sd .irptMask) v => { c with irptMask := some v }
  | .set (.sd .cmdtm) v => { c with selected := c.selected || v == CmdIndex.selectCard.cmdtm }
  | _ => c

/-- The power control bits of the bus. -/
def busPower : Word := (pwrCtlSdBusVoltSel3v3 ||| pwrCtlSdBusPower) <<< control0PwrCtlShift

/-- `CONTROL1` supplies a clock: the least divider for which it is no faster than `rate`. -/
structure ClockedAt (rate : Nat) (v : Word) : Prop where
  running : v &&& control1SwResetHc = 0
  clkEn : v &&& control1ClkEn ≠ 0
  intClkEn : v &&& control1IntClkEn ≠ 0
  divides : DividesBy 100000000 rate (v.extractLsb' 8 8).toNat

/-- The rate at which a card is talked to. -/
def cardRate (selected : Bool) : Nat := if selected then 25000000 else 400000

/-- The interrupts of a command with data. -/
def dataInterrupts : Word := cmdInterrupts ||| transferInterrupts

/-- The interrupts that are waited for while a command is carried out. -/
def CmdIndex.interrupts (idx : CmdIndex) : Word :=
  if idx.command.type = .adtc then dataInterrupts else cmdInterrupts

/-- The host is set up for the clock rate and the interrupts. -/
structure SetUp (rate : Nat) (irpts : Word) (c : HostRegs) : Prop where
  powered : ∃ v, c.control0 = some v ∧ v &&& busPower = busPower
  clocked : ∃ v, c.control1 = some v ∧ ClockedAt rate v
  unmasked : ∃ v, c.irptMask = some v ∧ v &&& irpts = irpts

/-- What a driver may do to a host that keeps its word. -/
def hostAllowed (c : HostRegs) : Event → Prop
  | .set (.sd .cmdtm) v => c.kept = true →
    ∃ idx : CmdIndex, v = idx.cmdtm ∧ SetUp (cardRate (c.selected || idx == .selectCard)) idx.interrupts c
  | .set (.sd .control1) v => c.kept = true → ∀ u, c.control1 = some u → KeepsFrequency u v
  | _ => True

/-! ### The triple -/

section Driver

variable {σ : Type} [Device σ] {α β : Type}

/-- From `P` to `Q`, for a host that keeps its word. -/
abbrev Controls (P : HostRegs → Prop) (m : Drv σ α) (Q : α → HostRegs → Prop) : Prop :=
  Trusting HostRegs.observe hostAllowed (fun c => c.kept = true) P m Q

theorem reliance : Trusting.Reliance HostRegs.observe hostAllowed fun c => c.kept = true where
  broken c e hc := by
    rw [Bool.not_eq_true] at hc ⊢
    rcases e with ⟨r, v⟩ | ⟨r, v⟩ | ⟨a, v⟩ | ⟨d, l, n⟩ | ⟨fmt, args⟩
    · rcases r with r | r | r | r | r
      · cases r <;> simp [HostRegs.observe, hc]
      all_goals exact hc
    · rcases r with r | r | r | r | r
      · cases r
        case control1 =>
          rw [HostRegs.observe]
          split
          · exact hc
          · exact hc
        all_goals exact hc
      all_goals exact hc
    all_goals exact hc
  free c e hc := by
    rcases e with ⟨r, v⟩ | ⟨r, v⟩ | ⟨a, v⟩ | ⟨d, l, n⟩ | ⟨fmt, args⟩
    · trivial
    · rcases r with r | r | r | r | r
      · cases r
        case cmdtm => exact fun h => absurd h hc
        case control1 => exact fun h => absurd h hc
        all_goals trivial
      all_goals trivial
    all_goals trivial

/-- Reading is always allowed. -/
theorem Controls.get {r : Reg} {P : HostRegs → Prop} {Q : Word → HostRegs → Prop}
    (h : ∀ c v, (c.kept = true → P c) → (c.observe (.get r v)).kept = true →
      Q v (c.observe (.get r v))) : Controls P (registerGet r : Drv σ Word) Q :=
  guard_get fun c v hc => ⟨trivial, h c v hc⟩

omit [Device σ] in
theorem Controls.log {P : HostRegs → Prop} (fmt : String) (args : List LogArg) :
    Controls P (serialLog fmt args : Drv σ Unit) fun _ => P :=
  guard_log fmt args fun _ hc => ⟨trivial, hc⟩

/-! ### The clock -/

/-- A fact that is not about `CONTROL1`. -/
def OffControl1 (I : HostRegs → Prop) : Prop :=
  ∀ c u k, I c → I { c with control1 := u, kept := k }

/-- `CONTROL1` is known, with these bits of the driver. -/
def ClockBits (I : HostRegs → Prop) (x : Word) (c : HostRegs) : Prop :=
  I c ∧ ∃ v, c.control1 = some v ∧ driverBits v = x

section Clock

variable {I : HostRegs → Prop} {x y : Word}

theorem driverBits_and_swResetHc (v : Word) :
    driverBits v &&& control1SwResetHc = v &&& control1SwResetHc :=
  driverBits_and_of_field (by decide) v

/-- Reading the register when it is known. -/
theorem clock_get (hI : OffControl1 I) (hx : x &&& control1SwResetHc = 0) {c : HostRegs} {v : Word}
    (hc : c.kept = true → ClockBits I x c)
    (hkept : (c.observe (.get (.sd .control1) v)).kept = true) :
    I (c.observe (.get (.sd .control1) v)) ∧
      (c.observe (.get (.sd .control1) v)).control1 = some v ∧ driverBits v = x := by
  obtain ⟨hc₀, hagrees⟩ := (Bool.and_eq_true _ _).mp hkept
  obtain ⟨hIc, u, hu, hux⟩ := hc hc₀
  rw [agrees, hu] at hagrees
  have hvx : driverBits v = x := (beq_iff_eq.mp hagrees).symm.trans hux
  have hrun : v &&& control1SwResetHc = 0 := by
    rw [← driverBits_and_swResetHc, hvx]
    exact hx
  refine ⟨hI c _ _ hIc, ?_, hvx⟩
  show (if v &&& control1SwResetHc = 0 then some v else none) = some v
  exact if_pos hrun

/-- Reading the register and writing it back changed. -/
theorem clock_modify (hI : OffControl1 I) {g : Word → Word} (hx : x &&& control1SwResetHc = 0)
    (hy : y &&& control1SwResetHc = 0) (hg : ∀ v, driverBits v = x → driverBits (g v) = y)
    (hkeeps : KeepsFrequency x y) :
    Controls (ClockBits I x) (do
      let reg ← registerGet (.sd .control1)
      registerSet (.sd .control1) (g reg) : Drv σ Unit) fun _ => ClockBits I y := by
  apply Trusting.bind (Q := fun v c => I c ∧ c.control1 = some v ∧ driverBits v = x)
  · exact Controls.get fun c v hc hkept => clock_get hI hx hc hkept
  intro v
  apply guard_set
  intro c hc
  have hnew : c.kept = true → driverBits (g v) = y := fun hk =>
    hg v (hc hk).2.2
  constructor
  · intro hk u hu
    obtain ⟨-, hv, hvx⟩ := hc hk
    obtain rfl := Option.some.inj (hv.symm.trans hu)
    apply keepsFrequency_driverBits.mp
    rw [hvx, hnew hk]
    exact hkeeps
  · intro hk'
    have hk : c.kept = true := by
      by_contra hk
      exact reliance.broken c _ hk hk'
    have hrun : g v &&& control1SwResetHc = 0 := by
      rw [← driverBits_and_swResetHc, hnew hk]
      exact hy
    show ClockBits I y (if g v &&& control1SwResetHc = 0 then { c with control1 := some (g v) } else _)
    rw [if_pos hrun]
    exact ⟨hI c _ _ (hc hk).1, g v, rfl, hnew hk⟩

theorem clock_enable (hI : OffControl1 I) {mask : Word} (hx : x &&& control1SwResetHc = 0)
    (hmask : mask &&& control1SwResetHc = 0) (hkeeps : KeepsFrequency x (x ||| driverBits mask)) :
    Controls (ClockBits I x) (registerEnableBits (.sd .control1) mask : Drv σ Unit)
      fun _ => ClockBits I (x ||| driverBits mask) := by
  refine clock_modify (g := (· ||| mask)) hI hx ?_ ?_ hkeeps
  · rw [BitVec.and_or_distrib_right, driverBits_and_swResetHc, hx, hmask]
    rfl
  · intro v hv
    rw [driverBits_or, hv]

theorem clock_disable (hI : OffControl1 I) {mask : Word} (hx : x &&& control1SwResetHc = 0)
    (hkeeps : KeepsFrequency x (x &&& ~~~mask)) :
    Controls (ClockBits I x) (registerDisableBits (.sd .control1) mask : Drv σ Unit)
      fun _ => ClockBits I (x &&& ~~~mask) := by
  refine clock_modify (g := (· &&& ~~~mask)) hI hx ?_ ?_ hkeeps
  · rw [BitVec.and_assoc, BitVec.and_comm (~~~mask), ← BitVec.and_assoc, hx]
    exact BitVec.zero_and
  · intro v hv
    rw [driverBits_and, hv]

/-- The wait for the stable bit. -/
theorem clock_wait (hI : OffControl1 I) (hx : x &&& control1SwResetHc = 0) (timeoutMs : Int) :
    Controls (ClockBits I x) (whileCondTimeoutInfinite sdInternalClockNotStable timeoutMs : Drv σ Unit)
      fun _ => ClockBits I x := by
  apply guard_wait
  apply Trusting.bind (Q := fun _ => ClockBits I x)
  · apply Controls.get
    intro c v hc hkept
    obtain ⟨hIc, hv, hvx⟩ := clock_get hI hx hc hkept
    exact ⟨hIc, v, hv, hvx⟩
  · intro v
    exact Trusting.pure fun c hc => ⟨fun _ => hc, fun _ => hc⟩

/-- A divider of 8 bits leaves the reset alone. -/
theorem dividerBits_and_swResetHc {N : Nat} (hN : N ≤ 128) :
    (dividerBits N ||| control1IntClkEn) &&& control1SwResetHc = 0 := by
  have hbit : (dividerBits N).getLsbD 24 = false := by
    rw [dividerBits, control1ClkFreqSelShift, BitVec.getLsbD_shiftLeft, BitVec.getLsbD_ofNat]
    have hlt : N.testBit 16 = false := Nat.testBit_lt_two_pow (by omega)
    simp [hlt]
  have hdivider : dividerBits N &&& control1SwResetHc = 0 :=
    (and_bit_eq_zero_iff _ (by decide)).mpr hbit
  rw [BitVec.and_or_distrib_right, hdivider]
  decide

/-- **The switch of the clock**: the clock is off while the frequency changes, and after it the
register supplies the rate. -/
theorem sdSupplyClock_host (hI : OffControl1 I) {rate : Nat} (hrate : 390625 ≤ rate) :
    Controls (fun c => I c ∧ ∃ v, c.control1 = some v ∧ v &&& control1SwResetHc = 0)
      (sdSupplyClock rate : Drv σ Unit)
      fun _ c => I c ∧ ∃ v, c.control1 = some v ∧ ClockedAt rate v := by
  obtain ⟨j, -, hleast, -, hN⟩ := sd8bitClockDivider_eq (show 100000000 < 2 ^ 31 by decide)
    (show 1 ≤ rate by omega)
  have hdivides := dividesBy_of_isLeast hleast
  have hfits := hdivides.fits.mpr (by omega)
  generalize 2 ^ j / 2 = N at hN hdivides hfits
  -- the register as it is found
  have hfixed : ∀ v : Word, v &&& control1SwResetHc = 0 → Controls (ClockBits I (driverBits v))
      (sdSupplyClock rate : Drv σ Unit) fun _ => ClockBits I (switchedTo N (driverBits v)) := by
    intro v hv
    rw [← driverBits_and_swResetHc] at hv
    generalize driverBits v = x at hv
    have hmask : ∀ {x : Word} (m : Word), x &&& control1SwResetHc = 0 →
        x &&& m &&& control1SwResetHc = 0 := by
      intro x m hx
      rw [BitVec.and_assoc, BitVec.and_comm m, ← BitVec.and_assoc, hx]
      exact BitVec.zero_and
    have hoff : x &&& ~~~(control1ClkEn ||| control1IntClkEn) &&& control1ClkEn = 0 := by
      rw [BitVec.and_assoc, show ~~~(control1ClkEn ||| control1IntClkEn) &&& control1ClkEn = 0 by
        decide]
      exact BitVec.and_zero
    have hoff' : x &&& ~~~(control1ClkEn ||| control1IntClkEn) &&& ~~~control1ClkFreqSel &&&
        control1ClkEn = 0 := by
      rw [BitVec.and_assoc, show ~~~control1ClkFreqSel &&& control1ClkEn = control1ClkEn by decide]
      exact hoff
    have hset : driverBits (dividerBits N ||| control1IntClkEn) &&& control1ClkEn = 0 := by
      rw [driverBits_and_of_field (by decide), BitVec.and_or_distrib_right, dividerBits_and_clkEn]
      decide
    have hdivider := dividerBits_and_swResetHc hfits
    have hset' : (x &&& ~~~(control1ClkEn ||| control1IntClkEn) &&& ~~~control1ClkFreqSel |||
        driverBits (dividerBits N ||| control1IntClkEn)) &&& control1SwResetHc = 0 := by
      rw [BitVec.and_or_distrib_right, hmask _ (hmask _ hv), driverBits_and_swResetHc, hdivider]
      rfl
    rw [sdSupplyClock, show emmc2ExpectedBaseClockHz = ((100000000 : Nat) : Int) from rfl, hN,
      BitVec.ofInt_natCast]
    apply Trusting.bind
    · apply clock_disable hI hv
      left
      rw [BitVec.and_assoc, show ~~~(control1ClkEn ||| control1IntClkEn) &&& control1ClkFreqSel =
        control1ClkFreqSel by decide]
    intro _
    apply Trusting.bind
    · exact clock_disable hI (hmask _ hv) (.inr ⟨hoff, hoff'⟩)
    intro _
    apply Trusting.bind
    · apply clock_enable hI (hmask _ (hmask _ hv)) hdivider
      refine .inr ⟨hoff', ?_⟩
      rw [BitVec.and_or_distrib_right, hoff']
      exact BitVec.zero_or.trans hset
    intro _
    apply (clock_wait hI hset' 20).bind
    intro _
    apply clock_enable hI hset' (by decide)
    left
    rw [BitVec.and_or_distrib_right, show driverBits control1ClkEn &&& control1ClkFreqSel = 0 by
      decide]
    exact BitVec.or_zero
  have hknown : Controls (fun c => ∃ v, ∃ _ : v &&& control1SwResetHc = 0, ClockBits I (driverBits v) c)
      (sdSupplyClock rate : Drv σ Unit)
      fun _ c => I c ∧ ∃ v, c.control1 = some v ∧ ClockedAt rate v := by
    apply reliance.exists_pre
    intro v
    apply reliance.exists_pre
    intro hv
    refine (hfixed v hv).weaken (fun _ hc => hc) ?_
    rintro - c ⟨hIc, v', hv', hx⟩
    have hsupplied := clockSupplied_of_driverBits hfits hx
    refine ⟨hIc, v', hv', ?_, hsupplied.clkEn, hsupplied.intClkEn, ?_⟩
    · apply (and_bit_eq_zero_iff v' (by decide)).mpr
      rw [hsupplied.others 24 (by decide) (by decide) (by decide) (by decide) (by decide)]
      exact (and_bit_eq_zero_iff v (by decide)).mp hv
    · rw [hsupplied.freqSel]
      exact hdivides
  refine hknown.weaken ?_ fun _ _ hc => hc
  rintro c ⟨hIc, v, hv, hrun⟩
  exact ⟨v, hrun, hIc, v, hv, rfl⟩

end Clock

/-! ### The other registers -/

/-- The reset, after which `CONTROL1` is known. -/
theorem sdResetHost_host (b : Bool) :
    Controls (fun c => c.selected = b) (sdResetHost : Drv σ Unit) fun _ c => c.selected = b ∧
      ∃ v, c.control1 = some v ∧ v &&& control1SwResetHc = 0 := by
  apply Trusting.bind (Q := fun _ c => c.selected = b)
  · apply Trusting.bind (Q := fun v c => c.selected = b ∧ ∀ u, c.control1 = some u → u = v)
    · apply Controls.get
      intro c v hc hkept
      refine ⟨hc (Bool.and_eq_true _ _ |>.mp hkept).1, ?_⟩
      intro u hu
      have hif : (if v &&& control1SwResetHc = 0 then some v else none) = some u := hu
      split at hif
      · exact (Option.some.inj hif).symm
      · cases hif
    intro v
    apply guard_set
    intro c hc
    constructor
    · intro hk u hu
      obtain rfl := (hc hk).2 u hu
      left
      rw [BitVec.and_or_distrib_right, show control1SwResetHc &&& control1ClkFreqSel = 0 by decide]
      exact BitVec.or_zero
    · intro hk'
      have hreset : ¬ (v ||| control1SwResetHc) &&& control1SwResetHc = 0 := by
        intro h
        have hbit := (and_bit_eq_zero_iff _ (show 24 < 32 by decide)).mp h
        rw [BitVec.getLsbD_or, show control1SwResetHc.getLsbD 24 = true by decide, Bool.or_true]
          at hbit
        cases hbit
      have hobserve : c.observe (.set (.sd .control1) (v ||| control1SwResetHc)) =
          { c with control0 := none, control1 := none, irptMask := none } := if_neg hreset
      rw [hobserve] at hk' ⊢
      exact (hc hk').1
  intro _
  apply guard_wait
  apply Trusting.bind (Q := fun v c => c.selected = b ∧
    (v &&& control1SwResetHc = 0 → c.control1 = some v))
  · apply Controls.get
    intro c v hc hkept
    refine ⟨hc (Bool.and_eq_true _ _ |>.mp hkept).1, ?_⟩
    intro hv
    exact if_pos hv
  intro v
  apply Trusting.pure
  rintro c ⟨hsel, hv⟩
  refine ⟨fun _ => hsel, fun hb => ⟨hsel, v, hv ?_, ?_⟩⟩
  · simpa using hb
  · simpa using hb

/-- Supplying the bus with power; the facts about the other registers stay. -/
theorem sdSupplyBusPower_host {J : HostRegs → Prop}
    (hJ : ∀ c u k, J c → J { c with control0 := u, kept := k }) :
    Controls J (sdSupplyBusPower : Drv σ Unit) fun _ c => J c ∧
      ∃ v, c.control0 = some v ∧ v &&& busPower = busPower := by
  apply Trusting.bind (Q := fun _ => J)
  · apply Controls.get
    intro c v hc hkept
    exact hJ c _ _ (hc ((Bool.and_eq_true _ _).mp hkept).1)
  intro v
  apply guard_set
  intro c hc
  refine ⟨trivial, fun hk => ⟨hJ c _ _ (hc hk), v ||| busPower, rfl, ?_⟩⟩
  rw [BitVec.and_or_distrib_right, BitVec.and_self]
  ext i hi
  simp

/-- The interrupts that are unmasked wherever the mask is read. -/
def ReadsUnmasked (irpts : Word) (c : HostRegs) : Prop :=
  ∀ v, agrees (BitVec.allOnes 32) c.irptMask v = true → v &&& irpts = irpts

/-- The interrupts are known to be unmasked. -/
def Unmasked (irpts : Word) (c : HostRegs) : Prop :=
  ∃ v, c.irptMask = some v ∧ v &&& irpts = irpts

theorem Unmasked.reads {irpts : Word} {c : HostRegs} (h : Unmasked irpts c) :
    ReadsUnmasked irpts c := by
  obtain ⟨u, hu, hirpts⟩ := h
  intro v hv
  rw [agrees, hu] at hv
  have huv : u &&& BitVec.allOnes 32 = v &&& BitVec.allOnes 32 := beq_iff_eq.mp hv
  rw [BitVec.and_allOnes, BitVec.and_allOnes] at huv
  rw [← huv]
  exact hirpts

section Mask

variable {J : HostRegs → Prop} (hJ : ∀ c u k, J c → J { c with irptMask := u, kept := k })

include hJ

/-- A change of the mask. -/
theorem mask_modify {g : Word → Word} (irpts irpts' : Word)
    (hg : ∀ v, v &&& irpts = irpts → g v &&& irpts' = irpts') :
    Controls (fun c => J c ∧ ReadsUnmasked irpts c) (do
      let reg ← registerGet (.sd .irptMask)
      registerSet (.sd .irptMask) (g reg) : Drv σ Unit) fun _ c => J c ∧ Unmasked irpts' c := by
  apply Trusting.bind (Q := fun v c => J c ∧ v &&& irpts = irpts)
  · apply Controls.get
    intro c v hc hkept
    obtain ⟨hk, hagrees⟩ := (Bool.and_eq_true _ _).mp hkept
    exact ⟨hJ c _ _ (hc hk).1, (hc hk).2 v hagrees⟩
  intro v
  apply guard_set
  intro c hc
  exact ⟨trivial, fun hk => ⟨hJ c _ _ (hc hk).1, g v, rfl, hg v (hc hk).2⟩⟩

theorem sdEnableInterrupts_host (irpts irpt : Word) :
    Controls (fun c => J c ∧ ReadsUnmasked irpts c) (sdEnableInterrupts irpt : Drv σ Unit)
      fun _ c => J c ∧ Unmasked (irpts ||| irpt) c := by
  apply mask_modify (g := (· ||| irpt)) hJ irpts (irpts ||| irpt)
  intro v hv
  rw [← hv]
  ext i hi
  simp only [BitVec.getElem_and, BitVec.getElem_or]
  cases v[i] <;> cases irpts[i] <;> cases irpt[i] <;> rfl

end Mask

/-! ### Commands -/

/-- An event of commands: the set-up registers are not written. -/
def Commanding (idxs : List CmdIndex) : Event → Prop
  | .set (.sd .cmdtm) v => ∃ idx ∈ idxs, v = idx.cmdtm
  | .set (.sd .control0) _ | .set (.sd .control1) _ | .set (.sd .irptMask) _ => False
  | _ => True

/-- A read, a command, or nothing the monitor looks at. -/
theorem Commanding.cases {idxs : List CmdIndex} {e : Event} (h : Commanding idxs e) :
    (∃ r v, e = .get r v) ∨ (∃ idx ∈ idxs, e = .set (.sd .cmdtm) idx.cmdtm) ∨
      ∀ c : HostRegs, c.observe e = c ∧ hostAllowed c e := by
  rcases e with ⟨r, v⟩ | ⟨r, v⟩ | ⟨a, v⟩ | ⟨d, l, n⟩ | ⟨fmt, args⟩
  · exact .inl ⟨r, v, rfl⟩
  · rcases r with r | r | r | r | r
    · cases r
      case cmdtm =>
        obtain ⟨idx, hidx, rfl⟩ := h
        exact .inr (.inl ⟨idx, hidx, rfl⟩)
      case control0 => exact h.elim
      case control1 => exact h.elim
      case irptMask => exact h.elim
      all_goals exact .inr (.inr fun c => ⟨rfl, trivial⟩)
    all_goals exact .inr (.inr fun c => ⟨rfl, trivial⟩)
  all_goals exact .inr (.inr fun c => ⟨rfl, trivial⟩)

theorem permits_commanding (idxs : List CmdIndex) :
    Permits (Commanding idxs) (accesses (Commanding idxs)) := permits_accesses fun _ _ => trivial

theorem issuing_commanding (idxs : List CmdIndex) : Issuing (accesses (Commanding idxs)) idxs where
  get _ _ := trivial
  arg1 _ := trivial
  interrupt _ := trivial
  blksizecnt _ := trivial
  cmdtm idx hidx := ⟨idx, hidx, rfl⟩

/-- The host is set up, for a card that was selected or was not. -/
structure HostReady (rate : Nat) (irpts : Word) (b : Bool) (c : HostRegs) : Prop
    extends SetUp rate irpts c where
  selected : c.selected = b

section Ready

variable {rate : Nat} {irpts : Word} {b : Bool} {c : HostRegs}

theorem extractLsb'_driverBits (v : Word) :
    (driverBits v).extractLsb' 8 8 = v.extractLsb' 8 8 := by
  rw [driverBits, BitVec.extractLsb'_and, show (~~~control1IntClkStable).extractLsb' 8 8 =
    BitVec.allOnes 8 by decide]
  exact BitVec.and_allOnes

/-- The stable bit does not matter. -/
theorem ClockedAt.congr {u v : Word} (h : ClockedAt rate u) (huv : driverBits u = driverBits v) :
    ClockedAt rate v := by
  have hfield : ∀ mask : Word, ~~~control1IntClkStable &&& mask = mask →
      v &&& mask = u &&& mask := fun mask hmask => by
    rw [← driverBits_and_of_field hmask v, ← huv, driverBits_and_of_field hmask]
  constructor
  · rw [hfield _ (by decide)]
    exact h.running
  · rw [hfield _ (by decide)]
    exact h.clkEn
  · rw [hfield _ (by decide)]
    exact h.intClkEn
  · rw [← extractLsb'_driverBits v, ← huv, extractLsb'_driverBits]
    exact h.divides

/-- Reading a register of a host that keeps its word. -/
theorem SetUp.get (h : SetUp rate irpts c) (r : Reg) (v : Word)
    (hkept : (c.observe (.get r v)).kept = true) : SetUp rate irpts (c.observe (.get r v)) := by
  by_cases hr : r = .sd .control0 ∨ r = .sd .control1 ∨ r = .sd .irptMask
  · rcases hr with rfl | rfl | rfl
    · obtain ⟨u, hu, hpower⟩ := h.powered
      have hagrees := ((Bool.and_eq_true _ _).mp hkept).2
      rw [agrees, hu] at hagrees
      have huv : u &&& BitVec.allOnes 32 = v &&& BitVec.allOnes 32 := beq_iff_eq.mp hagrees
      rw [BitVec.and_allOnes, BitVec.and_allOnes] at huv
      exact ⟨⟨v, rfl, huv ▸ hpower⟩, h.clocked, h.unmasked⟩
    · obtain ⟨u, hu, hclocked⟩ := h.clocked
      have hagrees := ((Bool.and_eq_true _ _).mp hkept).2
      rw [agrees, hu] at hagrees
      have hv : ClockedAt rate v := hclocked.congr (beq_iff_eq.mp hagrees)
      exact ⟨h.powered, ⟨v, if_pos hv.running, hv⟩, h.unmasked⟩
    · have hagrees := ((Bool.and_eq_true _ _).mp hkept).2
      exact ⟨h.powered, h.clocked, v, rfl, Unmasked.reads h.unmasked v hagrees⟩
  · have hsame : c.observe (.get r v) = c := by
      unfold HostRegs.observe
      split <;> simp_all
    rw [hsame]
    exact h

theorem observe_get_selected (c : HostRegs) (r : Reg) (v : Word) :
    (c.observe (.get r v)).selected = c.selected := by
  unfold HostRegs.observe
  split <;> simp_all

theorem kept_of_observe {e : Event} (h : (c.observe e).kept = true) : c.kept = true := by
  by_contra hc
  exact reliance.broken c e hc h

theorem cmdtm_beq_selectCard {idx : CmdIndex} (h : idx ≠ .selectCard) :
    (idx.cmdtm == CmdIndex.selectCard.cmdtm) = false :=
  beq_eq_false_iff_ne.mpr fun he => h (CmdIndex.cmdtm_injective he)

omit [Device σ] in
/-- Without commands nothing is asked of the host. -/
theorem quiet_host {m : Drv σ α} (hm : Program.Emits (Commanding []) m) :
    Controls (fun c => c.selected = b) m fun _ c => c.selected = b := by
  apply Trusting.of_emits hm
  intro c e hc he
  rcases he.cases with ⟨r, v, rfl⟩ | ⟨idx, hidx, -⟩ | hsame
  · exact ⟨trivial, fun hk => (observe_get_selected c r v).trans (hc (kept_of_observe hk))⟩
  · cases hidx
  · rw [(hsame c).1]
    exact ⟨(hsame c).2, hc⟩

omit [Device σ] in
/-- **Commands keep the host set up**, and are allowed where it is set up for them. -/
theorem commands_host {idxs : List CmdIndex} {m : Drv σ α} (hm : Program.Emits (Commanding idxs) m)
    (hrate : rate = cardRate b)
    (hidxs : ∀ idx ∈ idxs, idx ≠ .selectCard ∧ irpts &&& idx.interrupts = idx.interrupts) :
    Controls (HostReady rate irpts b) m fun _ => HostReady rate irpts b := by
  apply Trusting.of_emits hm
  intro c e hc he
  rcases he.cases with ⟨r, v, rfl⟩ | ⟨idx, hidx, rfl⟩ | hsame
  · refine ⟨trivial, fun hk => ?_⟩
    obtain ⟨hsetUp, hselected⟩ := hc (kept_of_observe hk)
    exact ⟨hsetUp.get r v hk, (observe_get_selected c r v).trans hselected⟩
  · obtain ⟨hne, hirpts⟩ := hidxs idx hidx
    constructor
    · intro hk
      obtain ⟨⟨hpowered, hclocked, v, hv, hunmasked⟩, hselected⟩ := hc hk
      refine ⟨idx, rfl, hpowered, ?_, v, hv, ?_⟩
      · rw [hselected, beq_eq_false_iff_ne.mpr hne, Bool.or_false, ← hrate]
        exact hclocked
      · rw [← hirpts, ← BitVec.and_assoc, hunmasked]
    · intro hk
      obtain ⟨⟨hpowered, hclocked, hunmasked⟩, hselected⟩ := hc hk
      refine ⟨⟨hpowered, hclocked, hunmasked⟩, ?_⟩
      show (c.selected || idx.cmdtm == CmdIndex.selectCard.cmdtm) = b
      rw [cmdtm_beq_selectCard hne, Bool.or_false]
      exact hselected
  · rw [(hsame c).1]
    exact ⟨(hsame c).2, hc⟩

end Ready

/-! ### Initialising -/

/-- A program with the accesses of commands. -/
theorem lockstep_commanding (idxs : List CmdIndex) :
    Lockstep (emitting (σ := σ) (Commanding idxs)) (accesses (Commanding idxs)) :=
  (permits_commanding idxs).lockstep

theorem mailing_commanding (idxs : List CmdIndex) : Mailing (accesses (Commanding idxs)) :=
  fun _ => ⟨fun _ => trivial, fun _ => trivial⟩

theorem wiring_commanding (idxs : List CmdIndex) : Wiring (accesses (Commanding idxs)) :=
  ⟨fun _ _ => trivial, fun _ _ => trivial, fun _ _ => trivial⟩

/-- **Before the first command** the host is set up for the identification. -/
theorem sdPreCmdInit_host : Controls (fun c => c.selected = false) (sdPreCmdInit : Drv σ Unit)
    fun _ => HostReady 400000 cmdInterrupts false := by
  have htags := (permits_commanding []).ramLockstep.tags (σ := σ) (mailing_commanding [])
  apply (quiet_host htags.sdAssertVcInit).bind
  intro _
  apply (sdResetHost_host false).bind
  intro _
  apply (sdSupplyBusPower_host fun _ _ _ hc => hc).bind
  intro _
  have hclock := sdSupplyClock_host (σ := σ) (I := fun c => c.selected = false ∧
    ∃ v, c.control0 = some v ∧ v &&& busPower = busPower) (fun _ _ _ hc => hc)
    (show 390625 ≤ 400000 by decide)
  refine (hclock.weaken ?_ fun _ _ hc => hc).bind ?_
  · rintro c ⟨⟨hsel, hclocked⟩, hpowered⟩
    exact ⟨⟨hsel, hpowered⟩, hclocked⟩
  intro _
  have hmask := sdEnableInterrupts_host (σ := σ) (J := fun c => (c.selected = false ∧
    ∃ v, c.control0 = some v ∧ v &&& busPower = busPower) ∧
    ∃ v, c.control1 = some v ∧ ClockedAt 400000 v) (fun _ _ _ hc => hc) 0 cmdInterrupts
  refine hmask.weaken ?_ ?_
  · rintro c hc
    exact ⟨hc, fun v _ => BitVec.and_zero⟩
  · rintro - c ⟨⟨⟨hsel, hpowered⟩, hclocked⟩, hunmasked⟩
    exact ⟨⟨hpowered, hclocked, hunmasked⟩, hsel⟩

/-- The command that selects the card; it is on its way wherever there is no error. -/
theorem sdIssueCmd7_host (rca : Int) :
    Controls (HostReady 25000000 cmdInterrupts false) (sdIssueCmd7 rca : Drv σ CmdError)
      fun error c => error = .none → HostReady 25000000 cmdInterrupts true c := by
  have hissue := issuing_commanding []
  have hquiet := lockstep_commanding (σ := σ) []
  have hrate : 25000000 = cardRate true := rfl
  have hfailed : ∀ (fmt : String) (args : List LogArg) (error : CmdError), error ≠ .none →
      Controls (HostReady 25000000 cmdInterrupts false)
        (do serialLog fmt args; pure error : Drv σ CmdError)
        fun error c => error = .none → HostReady 25000000 cmdInterrupts true c := by
    intro fmt args error herror
    exact (Controls.log fmt args).bind fun _ => Trusting.pure fun c _ h => absurd h herror
  unfold sdIssueCmd7 sdIssueCmd
  rw [getCommand_code]
  apply Trusting.bind (Q := fun _ => HostReady 25000000 cmdInterrupts false)
  · apply Controls.get
    intro c v hc hk
    exact hc hk
  intro status
  apply Trusting.ite fun _ => hfailed _ _ _ (by decide)
  intro _
  apply Trusting.ite fun _ => hfailed _ _ _ (by decide)
  intro _
  apply Trusting.bind (Q := fun _ => HostReady 25000000 cmdInterrupts false)
  · apply guard_set
    intro c hc
    exact ⟨trivial, hc⟩
  intro _
  apply Trusting.bind (Q := fun _ => HostReady 25000000 cmdInterrupts true)
  · apply guard_set
    intro c hc
    constructor
    · intro hk
      obtain ⟨⟨hpowered, hclocked, hunmasked⟩, -⟩ := hc hk
      refine ⟨.selectCard, rfl, hpowered, ?_, hunmasked⟩
      rw [beq_self_eq_true, Bool.or_true]
      exact hclocked
    · intro hk
      obtain ⟨⟨hpowered, hclocked, hunmasked⟩, -⟩ := hc hk
      refine ⟨⟨hpowered, hclocked, hunmasked⟩, ?_⟩
      show (c.selected || _) = true
      rw [CmdIndex.cmdtm, beq_self_eq_true, Bool.or_true]
  intro _
  -- the answer
  refine (commands_host ?_ hrate (List.forall_mem_nil _)).weaken (fun _ hc => hc)
    fun _ _ hc _ => hc
  apply hquiet.bind (hquiet.sdWaitForInterrupt hissue.waiting _)
  intro error
  apply Congruence.ite
  · apply hquiet.bind (hquiet.get _ (hissue.get _))
    intro cs
    exact Congruence.ite (hquiet.logged _ _ _) (hquiet.pure _)
  · exact Congruence.ite (hquiet.logged _ _ _) (hquiet.pure _)

/-- The host follows the card to the 4-bit bus width; the mask is as it was in the end. -/
theorem sdSet4bitDataBusWidth_host (rca : Int) :
    Controls (HostReady 25000000 dataInterrupts true) (sdSet4bitDataBusWidth rca : Drv σ SdInitError)
      fun _ => HostReady 25000000 dataInterrupts true := by
  have hrate : 25000000 = cardRate true := rfl
  -- the mask that is read first
  apply Trusting.bind (Q := fun v c => ∃ _ : v &&& dataInterrupts = dataInterrupts,
    HostReady 25000000 dataInterrupts true c)
  · apply Controls.get
    intro c v hc hk
    obtain ⟨hsetUp, hselected⟩ := hc (kept_of_observe hk)
    have hagrees := ((Bool.and_eq_true _ _).mp hk).2
    exact ⟨Unmasked.reads hsetUp.unmasked v hagrees, hsetUp.get _ v hk, hselected⟩
  intro prev
  apply reliance.exists_pre
  intro hprev
  apply Trusting.bind (Q := fun _ => HostReady 25000000 dataInterrupts true)
  · have hmask := mask_modify (σ := σ) (J := fun c =>
      (∃ v, c.control0 = some v ∧ v &&& busPower = busPower) ∧
      (∃ v, c.control1 = some v ∧ ClockedAt 25000000 v) ∧ c.selected = true)
      (g := (· &&& ~~~cardInterrupt)) (fun _ _ _ hc => hc) dataInterrupts dataInterrupts ?_
    · refine hmask.weaken ?_ ?_
      · rintro c ⟨⟨hpowered, hclocked, hunmasked⟩, hselected⟩
        exact ⟨⟨hpowered, hclocked, hselected⟩, Unmasked.reads hunmasked⟩
      · rintro - c ⟨⟨hpowered, hclocked, hselected⟩, hunmasked⟩
        exact ⟨⟨hpowered, hclocked, hunmasked⟩, hselected⟩
    · intro v hv
      rw [BitVec.and_assoc, show ~~~cardInterrupt &&& dataInterrupts = dataInterrupts by decide]
      exact hv
  intro _
  -- the card
  apply Trusting.bind (Q := fun _ => HostReady 25000000 dataInterrupts true)
  · exact commands_host ((lockstep_commanding configureIdxs).sdIssueAcmd6 (issuing_commanding _) _ _)
      hrate (by decide)
  intro error
  -- the host
  apply Trusting.bind (Q := fun _ => HostReady 25000000 dataInterrupts true)
  · apply Trusting.ite
    · intro _
      apply Trusting.bind (Q := fun v c => ∃ _ : v &&& busPower = busPower,
        HostReady 25000000 dataInterrupts true c)
      · apply Controls.get
        intro c v hc hk
        obtain ⟨hsetUp, hselected⟩ := hc (kept_of_observe hk)
        have hget := hsetUp.get _ v hk
        obtain ⟨v', hv', hpower⟩ := hget.powered
        obtain rfl : v = v' := Option.some.inj hv'
        exact ⟨hpower, hget, hselected⟩
      intro v
      apply reliance.exists_pre
      intro hpower
      apply guard_set
      intro c hc
      refine ⟨trivial, fun hk => ?_⟩
      obtain ⟨⟨-, hclocked, hunmasked⟩, hselected⟩ := hc hk
      refine ⟨⟨⟨_, rfl, ?_⟩, hclocked, hunmasked⟩, hselected⟩
      rw [BitVec.and_or_distrib_right, hpower]
      decide
    · intro _
      exact Trusting.pure fun c hc => hc
  intro _
  apply Trusting.bind (Q := fun _ => HostReady 25000000 dataInterrupts true)
  · apply guard_set
    intro c hc
    refine ⟨trivial, fun hk => ?_⟩
    obtain ⟨⟨hpowered, hclocked, -⟩, hselected⟩ := hc hk
    exact ⟨⟨hpowered, hclocked, prev, rfl, hprev⟩, hselected⟩
  intro _
  exact Trusting.pure fun c hc => hc

omit [Device σ] in
/-- A result that is not a success. -/
theorem Controls.failed {P : HostRegs → Prop} {Q : HostRegs → Prop} {error : SdInitError}
    (h : error ≠ .none) (card : Card) :
    Controls P (pure (error, card) : Drv σ (SdInitError × Card)) fun r c => r.1 = .none → Q c :=
  Trusting.pure fun _ _ he => absurd he h

/-- From the identification to the last command before the reads. -/
theorem sdInitCardTransfer_host (card : Card) :
    Controls (HostReady 400000 cmdInterrupts false) (sdInitCardTransfer card : Drv σ _)
      fun r c => r.1 = .none → HostReady 25000000 dataInterrupts true c := by
  have hrate : 25000000 = cardRate true := rfl
  have hclock := sdSupplyClock_host (σ := σ) (I := fun c =>
    (∃ v, c.control0 = some v ∧ v &&& busPower = busPower) ∧
    Unmasked cmdInterrupts c ∧ c.selected = false) (fun _ _ _ hc => hc)
    (show 390625 ≤ 25000000 by decide)
  apply Trusting.bind (Q := fun _ => HostReady 25000000 cmdInterrupts false)
  · refine hclock.weaken ?_ ?_
    · rintro c ⟨⟨hpowered, ⟨v, hv, hclocked⟩, hunmasked⟩, hselected⟩
      exact ⟨⟨hpowered, hunmasked, hselected⟩, v, hv, hclocked.running⟩
    · rintro - c ⟨⟨hpowered, hunmasked, hselected⟩, hclocked⟩
      exact ⟨⟨hpowered, hclocked, hunmasked⟩, hselected⟩
  intro _
  apply (sdIssueCmd7_host card.rca).bind
  intro error
  apply Trusting.ite fun _ => Controls.failed (by decide) _
  intro herror
  obtain rfl := not_not.mp herror
  -- the card was selected
  apply Trusting.bind (Q := fun _ => HostReady 25000000 cmdInterrupts true)
  · have hcmd13 := (lockstep_commanding (σ := σ) [.sendStatus]).sdIssueCmd13
      (issuing_commanding _) (by decide) card.rca 0
    exact (commands_host hcmd13 hrate (by decide)).weaken (fun _ hc => hc rfl) fun _ _ hc => hc
  rintro ⟨error, cs⟩
  apply Trusting.ite fun _ => Controls.failed (by decide) _
  intro _
  apply Trusting.ite fun _ => (Controls.log _ _).bind fun _ => Controls.failed (by decide) _
  intro _
  apply Trusting.bind (Q := fun _ => HostReady 25000000 dataInterrupts true)
  · have hmask := sdEnableInterrupts_host (σ := σ) (J := fun c =>
      (∃ v, c.control0 = some v ∧ v &&& busPower = busPower) ∧
      (∃ v, c.control1 = some v ∧ ClockedAt 25000000 v) ∧ c.selected = true)
      (fun _ _ _ hc => hc) cmdInterrupts transferInterrupts
    refine hmask.weaken ?_ ?_
    · rintro c ⟨⟨hpowered, hclocked, hunmasked⟩, hselected⟩
      exact ⟨⟨hpowered, hclocked, hselected⟩, Unmasked.reads hunmasked⟩
    · rintro - c ⟨⟨hpowered, hclocked, hselected⟩, hunmasked⟩
      exact ⟨⟨hpowered, hclocked, hunmasked⟩, hselected⟩
  intro _
  apply Trusting.bind (Q := fun _ => HostReady 25000000 dataInterrupts true)
  · exact commands_host ((lockstep_commanding configureIdxs).sdIssueAcmd51 (issuing_commanding _) _)
      hrate (by decide)
  rintro ⟨error, scr⟩
  apply Trusting.ite fun _ => Controls.failed (by decide) _
  intro _
  apply Trusting.ite
  · intro _
    apply (sdSet4bitDataBusWidth_host _).bind
    intro error
    apply Trusting.ite fun herror => Controls.failed herror _
    intro _
    exact (Controls.log _ _).bind fun _ => Trusting.pure fun c hc _ => hc
  · intro _
    exact (Controls.log _ _).bind fun _ => Trusting.pure fun c hc _ => hc

/-- `init_peripherals` leaves the host set up for reads. -/
theorem initPeripherals_host : Controls (fun c => c.selected = false) (initPeripherals : Drv σ Card)
    fun _ => HostReady 25000000 dataInterrupts true := by
  have hrate : 400000 = cardRate false := rfl
  have hcard : Controls (fun c => c.selected = false) (sdInitCard : Drv σ (SdInitError × Card))
      fun r c => r.1 = .none → HostReady 25000000 dataInterrupts true c := by
    apply (Controls.log _ _).bind
    intro _
    apply sdPreCmdInit_host.bind
    intro _
    have hidentify := (lockstep_commanding (σ := σ) identifyIdxs).sdCardInitAndIdentify
      (issuing_commanding _) {}
    apply (commands_host hidentify hrate (by decide)).bind
    rintro ⟨error, card⟩
    apply Trusting.ite fun herror => Controls.failed herror _
    intro _
    exact sdInitCardTransfer_host card
  have htags := (permits_commanding []).ramLockstep.tags (σ := σ) (mailing_commanding [])
  apply (quiet_host (htags.uartInit (wiring_commanding []))).bind
  intro _
  apply (Controls.log _ _).bind
  intro _
  apply hcard.bind
  rintro ⟨error, card⟩
  apply Trusting.ite
  · intro _
    exact (Controls.log _ _).bind fun _ => Trusting.halt _
  · intro herror
    exact Trusting.pure fun c hc => hc (not_not.mp herror)

/-- The reset of the card, and of the host after it. -/
theorem resetPeripherals_host (card : Card) : Controls (HostReady 25000000 dataInterrupts true)
    (resetPeripherals card : Drv σ Unit) fun _ _ => True := by
  have hrate : 25000000 = cardRate true := rfl
  have hcmd0 := (lockstep_commanding (σ := σ) [.goIdleState]).sdIssueCmd (issuing_commanding _)
    (show CmdIndex.goIdleState ∈ [.goIdleState] by decide) 0
  apply Trusting.bind (Q := fun _ _ => True)
  · apply Trusting.bind (commands_host hcmd0 hrate (by decide))
    intro error
    apply Trusting.ite fun _ => Trusting.pure fun _ _ => trivial
    intro _
    apply Trusting.bind (Q := fun _ _ => True)
    · exact (sdResetHost_host true).weaken (fun _ hc => hc.selected) fun _ _ _ => trivial
    · intro _
      exact Trusting.pure fun _ _ => trivial
  rintro ⟨ok, card⟩
  apply Trusting.ite
  · intro _
    exact (Controls.log _ _).bind fun _ => Trusting.halt _
  · intro _
    exact Trusting.pure fun _ _ => trivial

/-! ### The whole run -/

/-- **The host is set up whenever `c_entry` issues a command**, on every device that keeps its word,
and the frequency of the clock is not changed while it is on. -/
theorem cEntry_setUp (labels : Labels) (imagePartition : Int) (w : World σ) :
    Obeys HostRegs.observe hostAllowed {} (cEntry labels imagePartition w).events := by
  have hrate : 25000000 = cardRate true := rfl
  have hentry : Controls (fun c => c.selected = false) (cEntry labels imagePartition : Drv σ Word)
      fun _ _ => True := by
    apply (Trusting.change _).bind
    intro _
    apply initPeripherals_host.bind
    intro card
    have hread := (permits_commanding readIdxs).readLockstep (σ := σ) (fun _ _ _ => trivial)
      fun _ _ => trivial
    have hload := hread.loadImage
      (hread.readAccess (issuing_commanding _) (List.Subset.refl _) card) imagePartition
    apply (commands_host hload hrate (by decide)).bind
    intro _
    apply (resetPeripherals_host card).bind
    intro _
    exact (Controls.log _ _).bind fun _ => Trusting.pure fun _ _ => trivial
  exact (hentry {} (fun _ => rfl) w).1

end Driver

end RpiBld
