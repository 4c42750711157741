/-
RpiBld/Help.lean

The helpers the rest of the bootloader is built from: `bits.h`, `help.c`,
`heap.c`, and the address map of `addrmap.h`.

`mzero` and `mcopy` are byte loops on RAM.  Each is shown to be an overlay, so
nothing after this module looks at the loops again; for `mcopy` this needs the
two areas to be disjoint, since the loop reads what it has already written.
-/
import RpiBld.Machine

namespace RpiBld

open Traced

/-! ### Bits -/

/-- `BIT(n)`. -/
def bit (n : Nat) : Word := 1#32 <<< n

/-- `BITS(stop, start)`. -/
def bits (stop start : Nat) : Word := (0xffffffff#32 <<< start) &&& (0xffffffff#32 >>> (31 - stop))

theorem getLsbD_bit (n : Nat) {i : Nat} (hi : i < 32) : (bit n).getLsbD i = decide (i = n) := by
  rw [bit, BitVec.getLsbD_shiftLeft, BitVec.getLsbD_one, Bool.eq_iff_iff]
  simp only [hi, Bool.and_eq_true, Bool.not_eq_true', decide_eq_true_eq, decide_eq_false_iff_not,
    true_and, decide_true]
  omega

theorem getLsbD_bits {stop start i : Nat} (hstop : stop < 32) (hi : i < 32) :
    (bits stop start).getLsbD i = decide (start ≤ i ∧ i ≤ stop) := by
  have hones : (0xffffffff#32 : Word) = BitVec.allOnes 32 := by decide
  rw [bits, hones, BitVec.getLsbD_and, BitVec.getLsbD_shiftLeft, BitVec.getLsbD_ushiftRight,
    BitVec.getLsbD_allOnes, BitVec.getLsbD_allOnes, Bool.eq_iff_iff]
  simp only [hi, Bool.and_eq_true, Bool.not_eq_true', decide_eq_true_eq, decide_eq_false_iff_not,
    true_and, decide_true]
  omega

/-- Testing a bit. -/
theorem and_bit_eq_zero_iff (v : Word) {n : Nat} (hn : n < 32) :
    v &&& bit n = 0 ↔ v.getLsbD n = false := by
  constructor
  · intro h
    have hbit := congrArg (fun w : Word => w.getLsbD n) h
    simpa [bit, hn] using hbit
  · intro h
    apply BitVec.eq_of_getLsbD_eq
    intro i hi
    rw [BitVec.getLsbD_and]
    rw [getLsbD_bit n hi]
    by_cases hin : i = n
    · simp [hin, h]
    · simp [hin]

/-- The value of a C comparison. -/
def cBool (b : Bool) : Word := if b then 1 else 0

/-- `bswap32`. -/
def bswap32 (value : Word) : Word :=
  (value &&& 0x000000ff) <<< 24 ||| (value &&& 0x0000ff00) <<< 8 |||
  (value &&& 0x00ff0000) >>> 8 ||| (value &&& 0xff000000) >>> 24

/-! ### Address map -/

/-- `HEAP_RAM_ADDR`, 256 MiB. -/
def heapRamAddr : Word := 0x10000000

/-- `DTB_RAM_ADDR`, 128 MiB. -/
def dtbRamAddr : Word := 0x8000000

/-- `KERN_RAM_ADDR`, 32 MiB. -/
def kernRamAddr : Word := 0x2000000

/-- `IRQ_STACK_START_ADDR`, 31 MiB; the stack grows downwards. -/
def irqStackStartAddr : Word := 0x1f00000

/-- `SVC_STACK_START_ADDR`. -/
def svcStackStartAddr : Word := 0x1e00000

/-- `ARM_LO_MAIN_PERIPH_BASE_ADDR`: the peripheral window starts here. -/
def armLoMainPeriphBaseAddr : Word := 0xfc000000

/-- `heap_get_base_address`. -/
def heapGetBaseAddress : Word := heapRamAddr

/-! ### Memory areas -/

/-- `mzero`. -/
def mzero (ram : Ram) (mem : Word) : Nat → Ram
  | 0 => ram
  | n + 1 => Function.update (mzero ram mem n) (mem + BitVec.ofNat 32 n) 0

/-- `mcopy`.  Byte `n` is read from the memory that holds the first `n` copies. -/
def mcopy (ram : Ram) (src dest : Word) : Nat → Ram
  | 0 => ram
  | n + 1 =>
    let ram' := mcopy ram src dest n
    Function.update ram' (dest + BitVec.ofNat 32 n) (ram' (src + BitVec.ofNat 32 n))

/-- One more cell at the end of an overlay. -/
theorem overlay_succ {ram : Ram} {a : Word} {n : Nat} {f : Nat → Byte} (hn : n + 1 ≤ 2 ^ 32) :
    Function.update (overlay ram a n f) (a + BitVec.ofNat 32 n) (f n) = overlay ram a (n + 1) f := by
  funext x
  by_cases hx : x = a + BitVec.ofNat 32 n
  · subst hx
    rw [Function.update_self, overlay_offset (by omega) hn]
  · rw [Function.update_of_ne hx]
    have hne : (x - a).toNat ≠ n := by
      intro h
      apply hx
      rw [← h, add_ofNat_toNat_sub]
    by_cases hr : Region a n x
    · have hr' : Region a (n + 1) x := by unfold Region at hr ⊢; omega
      rw [overlay_of_region hr, overlay_of_region hr']
    · have hr' : ¬ Region a (n + 1) x := by unfold Region at hr ⊢; omega
      rw [overlay_of_not_region hr, overlay_of_not_region hr']

theorem mzero_eq_overlay (ram : Ram) (mem : Word) {n : Nat} (hn : n ≤ 2 ^ 32) :
    mzero ram mem n = overlay ram mem n fun _ => 0 := by
  induction n with
  | zero => simp [mzero]
  | succ n ih =>
    rw [mzero, ih (by omega)]
    exact overlay_succ (f := fun _ => 0) hn

/-- Copying between disjoint areas. -/
theorem mcopy_eq_overlay (ram : Ram) {src dest : Word} {n : Nat} (hn : n ≤ 2 ^ 32)
    (hdisj : ∀ i < n, ¬ Region dest n (src + BitVec.ofNat 32 i)) :
    mcopy ram src dest n = overlay ram dest n fun i => ram (src + BitVec.ofNat 32 i) := by
  -- the invariant is stated for every prefix, with the full area kept disjoint
  have key : ∀ k ≤ n, mcopy ram src dest k =
      overlay ram dest k fun i => ram (src + BitVec.ofNat 32 i) := by
    intro k hk
    induction k with
    | zero => simp [mcopy]
    | succ k ih =>
      have hout : ¬ Region dest k (src + BitVec.ofNat 32 k) := by
        have := hdisj k (by omega)
        unfold Region at this ⊢
        omega
      rw [mcopy, ih (by omega), overlay_of_not_region hout]
      exact overlay_succ (f := fun i => ram (src + BitVec.ofNat 32 i)) (by omega)
  exact key n (Nat.le_refl n)

/-- Copying changes nothing outside the destination. -/
theorem mcopy_of_not_region (ram : Ram) (src dest : Word) {n : Nat} (hn : n ≤ 2 ^ 32) {x : Word}
    (hx : ¬ Region dest n x) : mcopy ram src dest n x = ram x := by
  induction n with
  | zero => rfl
  | succ n ih =>
    have hne : x ≠ dest + BitVec.ofNat 32 n := by
      rintro rfl
      exact hx (Region.of_offset (Nat.lt_succ_self n) hn)
    rw [mcopy, Function.update_of_ne hne]
    apply ih (by omega)
    unfold Region at hx ⊢
    omega

/-! ### Alignment -/

/-- `address_aligned`. -/
def addressAligned (addr : Word) (n : Int) : Bool := addr.toInt.tmod n == 0

/-- The loop of `align_address`. -/
def alignLoop (n : Int) (addr : Word) : Nat → Word
  | 0 => addr
  | k + 1 => if addr.toInt.tmod n ≠ 0 then alignLoop n (addr + 1) k else addr

/-- `align_address`; an `n`-byte boundary is at most `n - 1` bytes away. -/
def alignAddress (addr : Word) (n : Nat) : Word := alignLoop n addr n

/-- Whether an address is aligned does not depend on reading it as signed. -/
theorem toInt_tmod_eq_zero_iff {n : Nat} (hn : n ∣ 2 ^ 32) (addr : Word) :
    addr.toInt.tmod n = 0 ↔ addr.toNat % n = 0 := by
  obtain ⟨c, hc⟩ := hn
  rw [← Int.dvd_iff_tmod_eq_zero, ← Nat.dvd_iff_mod_eq_zero, ← Int.natCast_dvd_natCast]
  rw [BitVec.toInt_eq_toNat_cond]
  split
  · rfl
  · have h32 : (n : Int) ∣ ((2 ^ 32 : Nat) : Int) := ⟨c, by rw [hc]; push_cast; rfl⟩
    constructor
    · intro h
      have hsum := Int.dvd_add h h32
      rwa [Int.sub_add_cancel] at hsum
    · intro h
      exact Int.dvd_sub h h32

/-- How far the next `n`-byte boundary is. -/
def alignGap (addr : Word) (n : Nat) : Nat := (n - addr.toNat % n) % n

theorem alignGap_lt (addr : Word) {n : Nat} (hn : 0 < n) : alignGap addr n < n :=
  Nat.mod_lt _ hn

theorem alignLoop_eq {n : Nat} (hpos : 0 < n) (hn : n ∣ 2 ^ 32) (k : Nat) (addr : Word)
    (hk : alignGap addr n ≤ k) :
    alignLoop n addr k = addr + BitVec.ofNat 32 (alignGap addr n) := by
  induction k generalizing addr with
  | zero =>
    have h0 : alignGap addr n = 0 := by omega
    simp [alignLoop, h0]
  | succ k ih =>
    have hlt : addr.toNat % n < n := Nat.mod_lt _ hpos
    rw [alignLoop]
    by_cases hz : addr.toNat % n = 0
    · have h0 : alignGap addr n = 0 := by simp [alignGap, hz]
      rw [if_neg (not_not.mpr ((toInt_tmod_eq_zero_iff hn addr).mpr hz)), h0]
      simp
    · have hgap : alignGap addr n = n - addr.toNat % n := Nat.mod_eq_of_lt (by omega)
      -- one address further, the boundary is one step nearer
      have hmod : (addr + 1).toNat % n = (addr.toNat % n + 1) % n := by
        rw [BitVec.toNat_add, Nat.mod_mod_of_dvd _ hn, Nat.mod_add_mod]
        rfl
      have hgap' : alignGap (addr + 1) n = alignGap addr n - 1 := by
        unfold alignGap
        rw [hmod, ← alignGap, hgap]
        rcases Nat.lt_or_ge (addr.toNat % n + 1) n with hr | hr
        · rw [Nat.mod_eq_of_lt hr, Nat.mod_eq_of_lt (by omega)]
          omega
        · rw [show addr.toNat % n + 1 = n by omega, Nat.mod_self, Nat.sub_zero, Nat.mod_self]
          omega
      rw [if_pos (fun h => hz ((toInt_tmod_eq_zero_iff hn addr).mp h)),
        ih (addr + 1) (by omega), hgap']
      rw [BitVec.add_assoc, show (1 : Word) = BitVec.ofNat 32 1 from rfl, ← BitVec.ofNat_add,
        show 1 + (alignGap addr n - 1) = alignGap addr n by omega]

/-- `align_address` moves to the next boundary. -/
theorem alignAddress_eq {n : Nat} (hpos : 0 < n) (hn : n ∣ 2 ^ 32) (addr : Word) :
    alignAddress addr n = addr + BitVec.ofNat 32 (alignGap addr n) :=
  alignLoop_eq hpos hn n addr (Nat.le_of_lt (alignGap_lt addr hpos))

theorem addressAligned_iff {n : Nat} (hn : n ∣ 2 ^ 32) (addr : Word) :
    addressAligned addr n = true ↔ addr.toNat % n = 0 := by
  rw [addressAligned, beq_iff_eq]
  exact toInt_tmod_eq_zero_iff hn addr

end RpiBld
