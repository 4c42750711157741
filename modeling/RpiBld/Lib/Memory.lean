/-
RpiBld/Lib/Memory.lean

Byte-addressed memories whose addresses wrap.  A memory is a function on
`BitVec w`; everything a program does to one is an *overlay*

    overlay m a n f  =  m with the n cells from a on replaced by f 0, ..., f (n-1),

where the cell that belongs to offset `i` is the one at address `a + i`, modulo
`2 ^ w`.  An address `x` lies in the region iff `(x - a).toNat < n`: the
subtraction wraps too, so no statement below needs a side condition that a
region does not cross the top of the address space.

The second half is the little-endian reading of four bytes as a 32-bit word.
-/
import Mathlib.Data.List.Basic
import Mathlib.Tactic.IntervalCases

namespace Traced

variable {w : Nat} {β : Type}

/-! ### Regions -/

/-- The `n` addresses from `a` on. -/
def Region (a : BitVec w) (n : Nat) (x : BitVec w) : Prop := (x - a).toNat < n

instance (a : BitVec w) (n : Nat) (x : BitVec w) : Decidable (Region a n x) := by
  unfold Region; infer_instance

/-- The offset of an address that is given as base plus offset. -/
theorem toNat_add_ofNat_sub (a : BitVec w) {i : Nat} (hi : i < 2 ^ w) :
    (a + BitVec.ofNat w i - a).toNat = i := by
  have h : a + BitVec.ofNat w i - a = BitVec.ofNat w i := by
    rw [BitVec.add_comm, BitVec.add_sub_cancel]
  rw [h, BitVec.toNat_ofNat, Nat.mod_eq_of_lt hi]

/-- Every address is base plus its offset. -/
theorem add_ofNat_toNat_sub (a x : BitVec w) : a + BitVec.ofNat w (x - a).toNat = x := by
  rw [BitVec.ofNat_toNat, BitVec.setWidth_eq, BitVec.add_comm, BitVec.sub_add_cancel]

theorem Region.of_offset {a : BitVec w} {n i : Nat} (hi : i < n) (hn : n ≤ 2 ^ w) :
    Region a n (a + BitVec.ofNat w i) := by
  unfold Region
  rw [toNat_add_ofNat_sub a (by omega)]
  exact hi

/-- Regions and addresses given by offsets that do not wrap. -/
theorem region_ofNat_iff {a n x : Nat} (ha : a + n ≤ 2 ^ w) (hx : x < 2 ^ w) :
    Region (BitVec.ofNat w a) n (BitVec.ofNat w x) ↔ a ≤ x ∧ x < a + n := by
  unfold Region
  rw [BitVec.toNat_sub, BitVec.toNat_ofNat, BitVec.toNat_ofNat, Nat.mod_eq_of_lt hx]
  rcases Nat.eq_zero_or_pos n with rfl | hn
  · omega
  rw [Nat.mod_eq_of_lt (show a < 2 ^ w by omega)]
  rcases Nat.lt_or_ge x a with hlt | hge
  · rw [Nat.mod_eq_of_lt (by omega)]
    omega
  · rw [show 2 ^ w - a + x = x - a + 2 ^ w by omega, Nat.add_mod_right, Nat.mod_eq_of_lt (by omega)]
    omega

/-- The same for any base. -/
theorem region_iff {a x : BitVec w} {n : Nat} (ha : a.toNat + n ≤ 2 ^ w) :
    Region a n x ↔ a.toNat ≤ x.toNat ∧ x.toNat < a.toNat + n := by
  have h := region_ofNat_iff ha x.isLt
  rwa [BitVec.ofNat_toNat, BitVec.ofNat_toNat, BitVec.setWidth_eq, BitVec.setWidth_eq] at h

/-! ### Overlays -/

/-- `m` with the `n` cells from `a` on replaced by `f`. -/
def overlay (m : BitVec w → β) (a : BitVec w) (n : Nat) (f : Nat → β) : BitVec w → β := fun x =>
  if Region a n x then f (x - a).toNat else m x

section Overlay

variable {m : BitVec w → β} {a b x : BitVec w} {n k : Nat} {f g : Nat → β}

@[simp] theorem overlay_zero : overlay m a 0 f = m := by
  funext x
  simp [overlay, Region]

theorem overlay_of_region (h : Region a n x) : overlay m a n f x = f (x - a).toNat := by
  rw [overlay, if_pos h]

theorem overlay_of_not_region (h : ¬ Region a n x) : overlay m a n f x = m x := by
  rw [overlay, if_neg h]

/-- Reading back offset `i` of the region just written. -/
theorem overlay_offset {i : Nat} (hi : i < n) (hn : n ≤ 2 ^ w) :
    overlay m a n f (a + BitVec.ofNat w i) = f i := by
  rw [overlay_of_region (Region.of_offset hi hn), toNat_add_ofNat_sub a (by omega)]

theorem overlay_congr (h : ∀ i < n, f i = g i) : overlay m a n f = overlay m a n g := by
  funext x
  by_cases hx : Region a n x
  · rw [overlay_of_region hx, overlay_of_region hx]
    exact h _ hx
  · rw [overlay_of_not_region hx, overlay_of_not_region hx]

theorem overlay_ofNat_of_mem {a x : Nat} (ha : a + n ≤ 2 ^ w) (hx : a ≤ x ∧ x < a + n) :
    overlay m (BitVec.ofNat w a) n f (BitVec.ofNat w x) = f (x - a) := by
  have hoff : BitVec.ofNat w x = BitVec.ofNat w a + BitVec.ofNat w (x - a) := by
    rw [← BitVec.ofNat_add, Nat.add_sub_cancel' hx.1]
  rw [hoff, overlay_offset (by omega) (by omega)]

theorem overlay_ofNat_of_not_mem {a x : Nat} (ha : a + n ≤ 2 ^ w) (hw : x < 2 ^ w)
    (hx : x < a ∨ a + n ≤ x) : overlay m (BitVec.ofNat w a) n f (BitVec.ofNat w x) =
      m (BitVec.ofNat w x) := by
  apply overlay_of_not_region
  rw [region_ofNat_iff ha hw]
  omega

/-- Two overlays of adjoining regions are one overlay. -/
theorem overlay_overlay_append (hnk : n + k ≤ 2 ^ w) :
    overlay (overlay m a n f) (a + BitVec.ofNat w n) k g =
      overlay m a (n + k) (fun i => if i < n then f i else g (i - n)) := by
  funext x
  have hlt : (x - a).toNat < 2 ^ w := BitVec.isLt _
  -- the offset from the second base, in terms of the offset from the first
  have hoff : (x - (a + BitVec.ofNat w n)).toNat = (2 ^ w - n % 2 ^ w + (x - a).toNat) % 2 ^ w := by
    rw [← BitVec.sub_sub, BitVec.toNat_sub, BitVec.toNat_ofNat]
  by_cases hn : n = 2 ^ w
  · have hk : k = 0 := by omega
    subst hk
    have hx : Region a n x := by unfold Region; omega
    have hx' : Region a (n + 0) x := hx
    rw [overlay_zero, overlay_of_region hx, overlay_of_region hx']
    exact (if_pos hx).symm
  · have hmod : n % 2 ^ w = n := Nat.mod_eq_of_lt (by omega)
    rw [hmod] at hoff
    rcases Nat.lt_or_ge (x - a).toNat n with hx | hx
    · have hout : ¬ Region (a + BitVec.ofNat w n) k x := by
        unfold Region
        rw [hoff, Nat.mod_eq_of_lt (by omega)]
        omega
      have hin : Region a n x := hx
      have hin' : Region a (n + k) x := by unfold Region; omega
      rw [overlay_of_not_region hout, overlay_of_region hin, overlay_of_region hin', if_pos hx]
    · have hoff' : (x - (a + BitVec.ofNat w n)).toNat = (x - a).toNat - n := by
        rw [hoff, show 2 ^ w - n + (x - a).toNat = (x - a).toNat - n + 2 ^ w by omega,
          Nat.add_mod_right, Nat.mod_eq_of_lt (by omega)]
      by_cases hk : (x - a).toNat < n + k
      · have hin : Region (a + BitVec.ofNat w n) k x := by unfold Region; omega
        have hin' : Region a (n + k) x := hk
        rw [overlay_of_region hin, overlay_of_region hin', hoff', if_neg (by omega)]
      · have hout : ¬ Region (a + BitVec.ofNat w n) k x := by unfold Region; omega
        have hout' : ¬ Region a n x := by unfold Region; omega
        have hout'' : ¬ Region a (n + k) x := hk
        rw [overlay_of_not_region hout, overlay_of_not_region hout', overlay_of_not_region hout'']

/-- A second overlay from the same base hides a first one that is no longer. -/
theorem overlay_overlay_self (hnk : n ≤ k) : overlay (overlay m a n f) a k g = overlay m a k g := by
  funext x
  by_cases hx : Region a k x
  · rw [overlay_of_region hx, overlay_of_region hx]
  · have hx' : ¬ Region a n x := by unfold Region at hx ⊢; omega
    rw [overlay_of_not_region hx, overlay_of_not_region hx, overlay_of_not_region hx']

end Overlay

/-! ### Areas as lists -/

/-- The `n` cells from `a` on. -/
def cells (m : BitVec w → β) (a : BitVec w) (n : Nat) : List β :=
  (List.range n).map fun i => m (a + BitVec.ofNat w i)

@[simp] theorem cells_zero (m : BitVec w → β) (a : BitVec w) : cells m a 0 = [] := rfl

@[simp] theorem length_cells (m : BitVec w → β) (a : BitVec w) (n : Nat) :
    (cells m a n).length = n := by
  rw [cells, List.length_map, List.length_range]

/-- Two adjoining areas, one after the other. -/
theorem cells_append (m : BitVec w → β) (a : BitVec w) (n k : Nat) :
    cells m a n ++ cells m (a + BitVec.ofNat w n) k = cells m a (n + k) := by
  have h : ∀ i, m (a + BitVec.ofNat w n + BitVec.ofNat w i) = m (a + BitVec.ofNat w (n + i)) := by
    intro i
    rw [BitVec.add_assoc, ← BitVec.ofNat_add]
  simp only [cells, h]
  rw [List.range_add, List.map_append, List.map_map]
  rfl

/-- What an area holds, cell by cell. -/
theorem cells_eq_iff {m : BitVec w → β} {a : BitVec w} {l : List β} :
    cells m a l.length = l ↔ ∀ i, ∀ h : i < l.length, m (a + BitVec.ofNat w i) = l[i] := by
  rw [List.ext_getElem_iff]
  constructor
  · rintro ⟨-, h⟩ i hi
    rw [← h i (by rwa [length_cells]) hi]
    simp [cells]
  · intro h
    refine ⟨length_cells m a l.length, fun i _ hi => ?_⟩
    rw [← h i hi]
    simp [cells]

/-- An area over which a list was laid holds that list. -/
theorem cells_overlay_getD {m : BitVec w → β} {a : BitVec w} {l : List β} {d : β}
    (hl : l.length ≤ 2 ^ w) :
    cells (overlay m a l.length fun i => l.getD i d) a l.length = l := by
  apply cells_eq_iff.mpr
  intro i hi
  rw [overlay_offset hi hl]
  simp [hi]

/-! ### Little-endian words -/

/-- Byte `i` of a word, least significant first. -/
def leByte (v : BitVec 32) (i : Nat) : BitVec 8 := v.extractLsb' (8 * i) 8

/-- The word whose bytes, least significant first, are `f 0`, ..., `f 3`. -/
def leWord (f : Nat → BitVec 8) : BitVec 32 := f 3 ++ f 2 ++ f 1 ++ f 0

/-- A word is what its four bytes say. -/
@[simp] theorem leWord_leByte (v : BitVec 32) : leWord (leByte v) = v := by
  apply BitVec.eq_of_getLsbD_eq
  intro i hi
  simp only [leWord, leByte, BitVec.getLsbD_append, BitVec.getLsbD_extractLsb']
  grind

/-- The bytes of a word made of four bytes are those bytes. -/
theorem leByte_leWord (f : Nat → BitVec 8) {i : Nat} (hi : i < 4) : leByte (leWord f) i = f i := by
  ext j hj
  have h8 : 8 * i + j < 32 := by omega
  simp only [leByte, BitVec.getElem_extractLsb', leWord, BitVec.getLsbD_append]
  interval_cases i
  · simp [hj]
  · have h : ¬ (8 * 1 + j < 8) := by omega
    simp [h, hj]
  · have h : ¬ (8 * 2 + j < 8) := by omega
    have h' : ¬ (8 * 2 + j - 8 < 8) := by omega
    have h'' : 8 * 2 + j - 8 - 8 = j := by omega
    simp [h, h', h'', hj]
  · have h : ¬ (8 * 3 + j < 8) := by omega
    have h' : ¬ (8 * 3 + j - 8 < 8) := by omega
    have h'' : ¬ (8 * 3 + j - 8 - 8 < 8) := by omega
    have h3 : 8 * 3 + j - 8 - 8 - 8 = j := by omega
    simp [h, h', h'', h3, hj]

theorem leWord_congr {f g : Nat → BitVec 8} (h : ∀ i < 4, f i = g i) : leWord f = leWord g := by
  simp only [leWord, h 0 (by decide), h 1 (by decide), h 2 (by decide), h 3 (by decide)]

/-- Read the word at `a`. -/
def load32 (m : BitVec w → BitVec 8) (a : BitVec w) : BitVec 32 :=
  leWord fun i => m (a + BitVec.ofNat w i)

/-- Write the word `v` at `a`. -/
def store32 (m : BitVec w → BitVec 8) (a : BitVec w) (v : BitVec 32) : BitVec w → BitVec 8 :=
  overlay m a 4 (leByte v)

theorem load32_store32 {m : BitVec w → BitVec 8} {a : BitVec w} {v : BitVec 32} (hw : 4 ≤ 2 ^ w) :
    load32 (store32 m a v) a = v := by
  have h : ∀ i < 4, store32 m a v (a + BitVec.ofNat w i) = leByte v i :=
    fun i hi => overlay_offset hi hw
  rw [load32, leWord_congr h, leWord_leByte]

/-- A word read inside an overlay is made of the overlay's bytes. -/
theorem load32_overlay {m : BitVec w → BitVec 8} {a : BitVec w} {n i : Nat} {f : Nat → BitVec 8}
    (hi : i + 4 ≤ n) (hn : n ≤ 2 ^ w) :
    load32 (overlay m a n f) (a + BitVec.ofNat w i) = leWord fun j => f (i + j) := by
  refine leWord_congr fun j hj => ?_
  rw [BitVec.add_assoc, ← BitVec.ofNat_add]
  exact overlay_offset (by omega) hn

/-! ### Frames -/

/-- Two memories agree between two offsets. -/
def Agree (m m' : BitVec w → β) (lo hi : Nat) : Prop :=
  ∀ x, lo ≤ x → x < hi → m' (BitVec.ofNat w x) = m (BitVec.ofNat w x)

section Agree

variable {m m' m'' : BitVec w → β} {lo hi lo' hi' a n : Nat}

theorem Agree.refl : Agree m m lo hi := fun _ _ _ => rfl

theorem Agree.mono (h : Agree m m' lo hi) (hlo : lo ≤ lo') (hhi : hi' ≤ hi) :
    Agree m m' lo' hi' :=
  fun x hx hx' => h x (by omega) (by omega)

theorem Agree.trans (h : Agree m m' lo hi) (h' : Agree m' m'' lo hi) : Agree m m'' lo hi :=
  fun x hx hx' => (h' x hx hx').trans (h x hx hx')

/-- Writing elsewhere. -/
theorem agree_overlay {f : Nat → β} (ha : a + n ≤ 2 ^ w) (hhi : hi ≤ 2 ^ w)
    (hout : hi ≤ a ∨ a + n ≤ lo) : Agree m (overlay m (BitVec.ofNat w a) n f) lo hi :=
  fun x _ _ => overlay_ofNat_of_not_mem ha (by omega) (by omega)

theorem Agree.load32 {m m' : BitVec w → BitVec 8} (h : Agree m m' lo hi) (hlo : lo ≤ a)
    (hhi : a + 4 ≤ hi) :
    Traced.load32 m' (BitVec.ofNat w a) = Traced.load32 m (BitVec.ofNat w a) := by
  refine leWord_congr fun i hi' => ?_
  rw [← BitVec.ofNat_add]
  exact h (a + i) (by omega) (by omega)

theorem Agree.cells (h : Agree m m' lo hi) (hlo : lo ≤ a) (hhi : a + n ≤ hi) :
    Traced.cells m' (BitVec.ofNat w a) n = Traced.cells m (BitVec.ofNat w a) n := by
  apply List.map_congr_left
  intro i hi'
  rw [← BitVec.ofNat_add]
  have := List.mem_range.mp hi'
  exact h (a + i) (by omega) (by omega)

end Agree

end Traced
