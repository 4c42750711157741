/-
RpiBld/Debug/Strings.lean

The string functions of `debug.c`.

A `char *` is the array it points into from there on, so `fmt+r` is
`fmt.drop r`; the functions are loops over arrays that fault outside of them.
On a string, an array with a NUL, none of them does, and each lemma says what
it computes there.  `int` values that come from characters are words, since
their arithmetic wraps.
-/
import RpiBld.Machine
import RpiBld.Lib.CArray
import RpiBld.Lib.Numeral
import Mathlib.Data.List.Induction

namespace RpiBld

open Traced

instance : Faults Halt := ⟨.fault⟩

/-- A character constant. -/
def ch (c : Char) : Byte := BitVec.ofNat 8 c.toNat

/-- A string constant, without its NUL. -/
def chars (cs : List Char) : List Byte := cs.map ch

namespace Debug

/-! ### The functions -/

/-- The loop of `Strlen`. -/
def strlenLoop : List Byte → Nat → Except Halt Nat
  | [], _ => .error .fault
  | c :: s, n => if c ≠ 0 then strlenLoop s (n + 1) else .ok n

/-- `Strlen`. -/
def strlen (s : List Byte) : Except Halt Nat := strlenLoop s 0

/-- `Strncpy` to `s+w`: the copy, without the number of bytes, which is its argument. -/
def strncpy (s : List Byte) (w : Nat) (src : List Byte) : Nat → Except Halt (List Byte)
  | 0 => .ok s
  | i + 1 => do
    let s ← strncpy s w src i
    let c ← load src i
    store s (w + i) c

/-- The loop of `strreverse`. -/
def strreverseLoop (s : List Byte) (i j : Nat) : Except Halt (List Byte) :=
  if i < j then do
    let tmp ← load s i
    let c ← load s j
    let s ← store s i c
    let s ← store s j tmp
    strreverseLoop s (i + 1) (j - 1)
  else .ok s
termination_by j - i

/-- `strreverse`. -/
def strreverse (s : List Byte) : Except Halt (List Byte) := do
  let len ← strlen s
  strreverseLoop s 0 (len - 1)

/-- `char_digit_to_int`. -/
def charDigitToInt (digit : Byte) : Word := digit.setWidth 32 - (ch '0').setWidth 32

/-- `DECIMAL_BASE`. -/
def decimalBase : Nat := 10

/-- `HEX_BASE`. -/
def hexBase : Nat := 16

/-- `hex_digits`. -/
def hexDigits : List Byte :=
  chars ['0', '1', '2', '3', '4', '5', '6', '7', '8', '9', 'a', 'b', 'c', 'd', 'e', 'f'] ++ [0]

/-- The loop of `uint_to_str_base`.  A round stores into the buffer, so there are no more rounds
than cells. -/
def uintToStrBaseLoop (base : Nat) : Nat → List Byte → Nat → Nat → Except Halt (List Byte × Nat)
  | 0, _, _, _ => .error .hang
  | rounds + 1, str, i, n =>
    if n ≠ 0 then do
      let c ← load hexDigits (n % base)
      let str ← store str i c
      uintToStrBaseLoop base rounds str (i + 1) (n / base)
    else .ok (str, i)

/-- The first half of `uint_to_str_base`: the digits, the least significant first, and how many they
are. -/
def uintToStrBaseDigits (str : List Byte) (n : Word) (base : Nat) :
    Except Halt (List Byte × Nat) := do
  if n = 0 then
    let str ← store str 0 (ch '0')
    pure (str, 1)
  else uintToStrBaseLoop base (str.length + 1) str 0 n.toNat

/-- `uint_to_str_base`, with its static buffer as it was and as it is left; the string returned is
in the buffer. -/
def uintToStrBase (str : List Byte) (n : Word) (base : Nat) : Except Halt (List Byte) := do
  let (str, i) ← uintToStrBaseDigits str n base
  let str ← store str i 0
  strreverse str

/-- `uint_to_str`. -/
def uintToStr (str : List Byte) (n : Word) : Except Halt (List Byte) :=
  uintToStrBase str n decimalBase

/-- `uint_to_hexstr`. -/
def uintToHexstr (str : List Byte) (n : Word) : Except Halt (List Byte) :=
  uintToStrBase str n hexBase

/-- The loop of `str_to_int`, from the last character to the first. -/
def strToIntLoop (s : List Byte) : Nat → Word → Word → Except Halt Word
  | 0, _, n => .ok n
  | i + 1, mult, n => do
    let c ← load s i
    strToIntLoop s i (mult * BitVec.ofNat 32 decimalBase) (n + charDigitToInt c * mult)

/-- `str_to_int`. -/
def strToInt (s : List Byte) (len : Nat) : Except Halt Int := do
  let n ← strToIntLoop s len 1 0
  pure n.toInt

/-- `str_find`: the rest of the string from the first occurrence on. -/
def strFind : List Byte → Byte → Except Halt (Option (List Byte))
  | [], _ => .error .fault
  | a :: s, c =>
    if a = c then .ok (some (a :: s))
    else if a ≠ 0 then strFind s c
    else .ok none

/-- The loop of `str_find_char_not_in_set`. -/
def strFindCharNotInSetLoop (set : List Byte) : List Byte → Nat → Except Halt Int
  | [], _ => .error .fault
  | c :: s, i =>
    if c ≠ 0 then do
      match ← strFind set c with
      | none => .ok i
      | some _ => strFindCharNotInSetLoop set s (i + 1)
    else .ok (-1)

/-- `str_find_char_not_in_set`. -/
def strFindCharNotInSet (s set : List Byte) : Except Halt Int := strFindCharNotInSetLoop set s 0

/-! ### Lengths and copies -/

section Length

variable {t rest : List Byte}

theorem strlenLoop_eq (ht : 0 ∉ t) (n : Nat) :
    strlenLoop (t ++ 0 :: rest) n = .ok (n + t.length) := by
  induction t generalizing n with
  | nil => rfl
  | cons c t ih =>
    have hc : c ≠ 0 := fun h => ht (h ▸ List.mem_cons_self)
    rw [List.cons_append, strlenLoop, if_pos hc, ih (fun h => ht (List.mem_cons_of_mem _ h)),
      List.length_cons, Nat.add_assoc, Nat.add_comm 1]

/-- The length of a string. -/
theorem strlen_eq (ht : 0 ∉ t) : strlen (t ++ 0 :: rest) = .ok t.length := by
  rw [strlen, strlenLoop_eq ht, Nat.zero_add]

/-- A copy of what still fits extends the output. -/
theorem strncpy_fill {n k : Nat} {s out : List Byte} (hn : n ≤ s.length) (hk : k ≤ t.length)
    (hout : out.length + k ≤ n) :
    strncpy (fill n s out) out.length (t ++ rest) k = .ok (fill n s (out ++ t.take k)) := by
  induction k with
  | zero => rw [strncpy, List.take_zero, List.append_nil]
  | succ k ih =>
    have hload : (load (t ++ rest) k : Except Halt Byte) = .ok t[k] :=
      load_of_getElem? (by rw [List.getElem?_append_left hk, List.getElem?_eq_getElem hk])
    have hlen : out.length + k = (out ++ t.take k).length := by
      rw [List.length_append, List.length_take, Nat.min_eq_left (Nat.le_of_succ_le hk)]
    have hstore : (store (fill n s (out ++ t.take k)) (out.length + k) t[k] : Except Halt _) =
        .ok (fill n s (out ++ t.take k ++ [t[k]])) := by
      rw [hlen]
      exact store_fill hn (by omega) _
    rw [strncpy, ih (Nat.le_of_succ_le hk) (by omega)]
    rw [ok_bind, hload, ok_bind]
    refine hstore.trans ?_
    rw [List.append_assoc, List.take_concat_get' t k hk]

/-- `w += Strncpy(s+w, src, min(n-w, Strlen(src)))`: all of the string is output. -/
theorem strncpy_min {n : Nat} {s : List Byte} (hn : n ≤ s.length) (t rest out : List Byte) :
    strncpy (fill n s out) (min out.length n) (t ++ rest) (min (n - min out.length n) t.length) =
        .ok (fill n s (out ++ t)) ∧
      min out.length n + min (n - min out.length n) t.length = min (out ++ t).length n := by
  rw [List.length_append]
  by_cases hfull : n ≤ out.length
  · rw [Nat.min_eq_right hfull, Nat.sub_self, Nat.zero_min, strncpy, fill_append_of_full hfull]
    exact ⟨rfl, by omega⟩
  · rw [Nat.min_eq_left (by omega)]
    refine ⟨?_, by omega⟩
    rw [strncpy_fill hn (by omega) (by omega)]
    refine congrArg Except.ok (fill_congr ?_)
    rw [List.take_append, List.take_append, List.take_take]
    congr 1
    rw [List.take_eq_take_iff]
    omega

end Length

/-! ### Numbers -/

/-- Reversing the middle of an array. -/
theorem strreverseLoop_eq (pre mid post : List Byte) :
    strreverseLoop (pre ++ (mid ++ post)) pre.length (pre.length + mid.length - 1) =
      .ok (pre ++ (mid.reverse ++ post)) := by
  induction mid using List.bidirectionalRec generalizing pre post with
  | nil =>
    have hdone : ¬ pre.length < pre.length + 0 - 1 := by omega
    rw [strreverseLoop, List.length_nil, if_neg hdone]
    rfl
  | singleton a =>
    have hdone : ¬ pre.length < pre.length + 1 - 1 := by omega
    rw [strreverseLoop, List.length_singleton, if_neg hdone]
    rfl
  | cons_append a l b ih =>
    have hlen : ∀ x : Byte, pre.length + (a :: (l ++ [b])).length - 1 = (pre ++ x :: l).length := by
      simp
    have hlt : pre.length < (pre ++ a :: l).length := by simp
    have harray : ∀ x y : Byte, pre ++ (x :: (l ++ [y]) ++ post) = pre ++ x :: l ++ y :: post := by
      simp
    have hfront : ∀ (x : Byte) (l' : List Byte), pre ++ x :: l ++ l' = pre ++ x :: (l ++ l') := by
      simp
    -- the two characters at the ends change places
    have htmp : (load (pre ++ a :: l ++ b :: post) pre.length : Except Halt Byte) = .ok a := by
      rw [hfront]
      exact load_append _ _ _
    have hc : (load (pre ++ a :: l ++ b :: post) (pre ++ a :: l).length : Except Halt Byte) =
        .ok b :=
      load_append _ _ _
    have hstore : (store (pre ++ a :: l ++ b :: post) pre.length b : Except Halt _) =
        .ok (pre ++ b :: l ++ b :: post) := by
      rw [hfront, hfront]
      exact store_append _ _ _ _
    have hstore' : (store (pre ++ b :: l ++ b :: post) (pre ++ a :: l).length a : Except Halt _) =
        .ok (pre ++ b :: l ++ a :: post) := by
      rw [← hlen a, hlen b]
      exact store_append _ _ _ _
    -- and what is between them is reversed by the rounds that are left
    have hrest := ih (pre ++ [b]) (a :: post)
    rw [hlen a, harray, strreverseLoop, if_pos hlt, htmp]
    simp only [ok_bind, hc, hstore, hstore']
    convert hrest using 2
    · simp
    · simp
    · simp
    · simp

/-- Reversing a string. -/
theorem strreverse_eq {t : List Byte} (ht : 0 ∉ t) (rest : List Byte) :
    strreverse (t ++ 0 :: rest) = .ok (t.reverse ++ 0 :: rest) := by
  have hloop := strreverseLoop_eq [] t (0 :: rest)
  rw [strreverse, strlen_eq ht, ok_bind]
  simpa using hloop

/-- The character of a digit. -/
def hexDigit (d : Nat) : Byte := hexDigits.getD d 0

/-- The characters of a numeral. -/
def numeralText {b n : Nat} (m : Numeral b n) : List Byte := m.digits.map hexDigit

theorem load_hexDigits {d : Nat} (hd : d < 16) :
    (load hexDigits d : Except Halt Byte) = .ok (hexDigit d) := by
  have hlen : d < hexDigits.length := by
    show d < 17
    omega
  apply load_of_getElem?
  rw [hexDigit, List.getD_eq_getElem?_getD, List.getElem?_eq_getElem hlen]
  rfl

/-- The digits of a number, the least significant first. -/
theorem uintToStrBaseLoop_eq {base : Nat} (hbase : 1 < base ∧ base ≤ 16) (rounds : Nat)
    (pre cells : List Byte) (n : Nat) (hcells : (Nat.digits base n).length ≤ cells.length)
    (hrounds : cells.length < rounds) :
    uintToStrBaseLoop base rounds (pre ++ cells) pre.length n =
      .ok (pre ++ (Nat.digits base n).map hexDigit ++ cells.drop (Nat.digits base n).length,
        pre.length + (Nat.digits base n).length) := by
  induction rounds generalizing pre cells n with
  | zero => omega
  | succ rounds ih =>
    rw [uintToStrBaseLoop]
    by_cases hn : n = 0
    · subst hn
      simp
    · have hdigits : Nat.digits base n = n % base :: Nat.digits base (n / base) :=
        Nat.digits_def' hbase.1 (Nat.pos_of_ne_zero hn)
      rw [hdigits, List.length_cons] at hcells
      rcases cells with - | ⟨c, cells⟩
      · simp at hcells
      · have hdigit : n % base < 16 := (Nat.mod_lt _ (by omega)).trans_le hbase.2
        have hrest := ih (pre ++ [hexDigit (n % base)]) cells (n / base)
          (by simpa using hcells) (by simpa using hrounds)
        rw [if_pos hn, load_hexDigits hdigit]
        simp only [ok_bind, store_append]
        rw [hdigits]
        simpa [Nat.add_assoc, Nat.add_comm 1] using hrest

theorem hexDigit_ne_zero : ∀ d < 16, hexDigit d ≠ 0 := by decide

theorem zero_not_mem_map_hexDigit {ds : List Nat} (hds : ∀ d ∈ ds, d < 16) :
    0 ∉ ds.map hexDigit := by
  intro h
  obtain ⟨d, hd, hzero⟩ := List.mem_map.mp h
  exact hexDigit_ne_zero d (hds d hd) hzero

section Numbers

variable {base : Nat} {hbase : 1 < base}

theorem zero_not_mem_numeralText (h16 : base ≤ 16) {n : Nat} (m : Numeral base n) :
    0 ∉ numeralText m :=
  zero_not_mem_map_hexDigit fun d hd => (m.lt_base d hd).trans_le h16

/-- The digits are in the buffer, the least significant first. -/
theorem uintToStrBaseDigits_eq (h16 : base ≤ 16) {str : List Byte} {n : Word}
    (hlen : (numeral base hbase n.toNat).digits.length < str.length) :
    ∃ c rest, str.length = (numeral base hbase n.toNat).digits.length + 1 + rest.length ∧
      uintToStrBaseDigits str n base =
        .ok ((numeralText (numeral base hbase n.toNat)).reverse ++ c :: rest,
          (numeral base hbase n.toNat).digits.length) := by
  by_cases hn : n = 0
  · subst hn
    rcases str with - | ⟨a, - | ⟨c, rest⟩⟩
    · simp at hlen
    · simp [numeral_zero] at hlen
    · refine ⟨c, rest, ?_, rfl⟩
      show rest.length + 1 + 1 = 1 + 1 + rest.length
      omega
  · have hne : n.toNat ≠ 0 := fun h => hn (BitVec.eq_of_toNat_eq h)
    rw [numeral_of_ne_zero hne, List.length_reverse] at hlen ⊢
    have hloop := uintToStrBaseLoop_eq ⟨hbase, h16⟩ (str.length + 1) [] str n.toNat
      (Nat.le_of_lt hlen) (Nat.lt_succ_self _)
    refine ⟨str[(Nat.digits base n.toNat).length], str.drop ((Nat.digits base n.toNat).length + 1),
      ?_, ?_⟩
    · rw [List.length_drop]
      omega
    · rw [uintToStrBaseDigits, if_neg hn, numeralText, numeral_of_ne_zero hne,
        ← List.drop_eq_getElem_cons hlen, List.map_reverse, List.reverse_reverse]
      simpa using hloop

/-- The numeral is in the buffer. -/
theorem uintToStrBase_eq (h16 : base ≤ 16) {str : List Byte} {n : Word}
    (hlen : (numeral base hbase n.toNat).digits.length < str.length) :
    ∃ rest, uintToStrBase str n base =
        .ok (numeralText (numeral base hbase n.toNat) ++ 0 :: rest) ∧
      (numeralText (numeral base hbase n.toNat) ++ 0 :: rest).length = str.length := by
  obtain ⟨c, rest, hstr, hdigits⟩ := uintToStrBaseDigits_eq h16 hlen
  have htext := zero_not_mem_numeralText h16 (numeral base hbase n.toNat)
  have hpos : (numeral base hbase n.toNat).digits.length =
      (numeralText (numeral base hbase n.toNat)).reverse.length := by
    rw [List.length_reverse, numeralText, List.length_map]
  have hreverse := strreverse_eq (fun h => htext (List.mem_reverse.mp h)) rest
  refine ⟨rest, ?_, ?_⟩
  · rw [uintToStrBase, hdigits, ok_bind]
    dsimp only
    rw [hpos, store_append, ok_bind, hreverse, List.reverse_reverse]
  · rw [hstr, numeralText, List.length_append, List.length_map, List.length_cons]
    omega

end Numbers

/-- The characters of a decimal number. -/
def decimalDigits : List Byte := chars ['0', '1', '2', '3', '4', '5', '6', '7', '8', '9']

/-- The number a digit string stands for. -/
def decimalValue (ds : List Byte) : Nat :=
  Nat.ofDigits 10 (ds.map fun c => c.toNat - (ch '0').toNat).reverse

theorem decimalValue_append_singleton (ds : List Byte) (c : Byte) :
    decimalValue (ds ++ [c]) = c.toNat - (ch '0').toNat + 10 * decimalValue ds := by
  rw [decimalValue, List.map_append, List.reverse_append]
  exact Nat.ofDigits_cons

theorem digitValue_lt : ∀ c ∈ decimalDigits, c.toNat - (ch '0').toNat < 10 := by decide

theorem charDigitToInt_eq : ∀ c ∈ decimalDigits,
    charDigitToInt c = BitVec.ofNat 32 (c.toNat - (ch '0').toNat) := by decide

theorem decimalValue_lt {ds : List Byte} (hds : ∀ c ∈ ds, c ∈ decimalDigits) :
    decimalValue ds < 10 ^ ds.length := by
  have hlt := Nat.ofDigits_lt_base_pow_length (b := 10)
    (l := (ds.map fun c => c.toNat - (ch '0').toNat).reverse) (by decide) (by
      intro d hd
      obtain ⟨c, hc, rfl⟩ := List.mem_map.mp (List.mem_reverse.mp hd)
      exact digitValue_lt c (hds c hc))
  simpa [decimalValue] using hlt

/-- The digits before position `i`, at this multiplier. -/
theorem strToIntLoop_eq {ds rest : List Byte} (hds : ∀ c ∈ ds, c ∈ decimalDigits) {i : Nat}
    (hi : i ≤ ds.length) (mult n : Word) :
    strToIntLoop (ds ++ rest) i mult n =
      .ok (n + BitVec.ofNat 32 (decimalValue (ds.take i)) * mult) := by
  induction i generalizing mult n with
  | zero => simp [strToIntLoop, decimalValue]
  | succ i ih =>
    have hload : (load (ds ++ rest) i : Except Halt Byte) = .ok ds[i] :=
      load_of_getElem? (by rw [List.getElem?_append_left hi, List.getElem?_eq_getElem hi])
    rw [strToIntLoop, hload, ok_bind, ih (Nat.le_of_succ_le hi), charDigitToInt_eq _
      (hds _ (List.getElem_mem hi)), ← List.take_concat_get' ds i hi, decimalValue_append_singleton,
      BitVec.ofNat_add, BitVec.ofNat_mul]
    refine congrArg Except.ok ?_
    rw [decimalBase, BitVec.add_mul, ← BitVec.add_assoc, BitVec.mul_comm mult, ← BitVec.mul_assoc,
      BitVec.mul_comm (BitVec.ofNat 32 (decimalValue _))]

/-- The value of a short digit string. -/
theorem strToInt_eq {ds rest : List Byte} (hds : ∀ c ∈ ds, c ∈ decimalDigits)
    (hlen : ds.length ≤ 9) : strToInt (ds ++ rest) ds.length = .ok (decimalValue ds : Int) := by
  have hlt : decimalValue ds < 10 ^ 9 :=
    (decimalValue_lt hds).trans_le (Nat.pow_le_pow_right (by decide) hlen)
  have hnat : (BitVec.ofNat 32 (decimalValue ds)).toNat = decimalValue ds := by
    rw [BitVec.toNat_ofNat, Nat.mod_eq_of_lt (by omega)]
  have hint : (BitVec.ofNat 32 (decimalValue ds)).toInt = decimalValue ds := by
    rw [BitVec.toInt_eq_toNat_of_lt (by omega), hnat]
  rw [strToInt, strToIntLoop_eq hds (Nat.le_refl _), ok_bind, List.take_length,
    BitVec.ofNat_eq_ofNat, BitVec.ofNat_eq_ofNat, BitVec.mul_one, BitVec.zero_add, hint]
  rfl

/-! ### Searching -/

section Find

variable {set rest : List Byte} {c : Byte}

theorem strFind_of_mem (hset : 0 ∉ set) (hc : c ∈ set) (rest : List Byte) :
    ∃ p, strFind (set ++ rest) c = .ok (some p) := by
  induction set with
  | nil => cases hc
  | cons a set ih =>
    rw [List.cons_append, strFind]
    by_cases hac : a = c
    · rw [if_pos hac]
      exact ⟨_, rfl⟩
    · have ha : a ≠ 0 := fun h => hset (h ▸ List.mem_cons_self)
      rw [if_neg hac, if_pos ha]
      rcases List.mem_cons.mp hc with rfl | hc
      · exact absurd rfl hac
      · exact ih (fun h => hset (List.mem_cons_of_mem _ h)) hc

theorem strFind_of_not_mem (hset : 0 ∉ set) (hc : c ∉ set) (hzero : c ≠ 0) :
    strFind (set ++ 0 :: rest) c = .ok none := by
  induction set with
  | nil =>
    rw [List.nil_append, strFind, if_neg hzero.symm]
    rfl
  | cons a set ih =>
    have hac : a ≠ c := fun h => hc (h ▸ List.mem_cons_self)
    have ha : a ≠ 0 := fun h => hset (h ▸ List.mem_cons_self)
    rw [List.cons_append, strFind, if_neg hac, if_pos ha]
    exact ih (fun h => hset (List.mem_cons_of_mem _ h)) fun h => hc (List.mem_cons_of_mem _ h)

/-- The characters in the set are passed over. -/
theorem strFindCharNotInSetLoop_append (hset : 0 ∉ set) {ds : List Byte} (hds : ∀ d ∈ ds, d ∈ set)
    (s : List Byte) (i : Nat) :
    strFindCharNotInSetLoop (set ++ 0 :: rest) (ds ++ s) i =
      strFindCharNotInSetLoop (set ++ 0 :: rest) s (i + ds.length) := by
  induction ds generalizing i with
  | nil => rfl
  | cons d ds ih =>
    have hd := hds d List.mem_cons_self
    have hne : d ≠ 0 := fun h => hset (h ▸ hd)
    obtain ⟨p, hp⟩ := strFind_of_mem hset hd (0 :: rest)
    rw [List.cons_append, strFindCharNotInSetLoop, if_pos hne, hp, ok_bind,
      ih fun d hd => hds d (List.mem_cons_of_mem _ hd), List.length_cons, Nat.add_assoc,
      Nat.add_comm 1]

/-- The first character that is not in the set. -/
theorem strFindCharNotInSet_eq (hset : 0 ∉ set) {ds : List Byte} (hds : ∀ d ∈ ds, d ∈ set)
    (hc : c ∉ set) (hzero : c ≠ 0) (s : List Byte) :
    strFindCharNotInSet (ds ++ c :: s) (set ++ 0 :: rest) = .ok ds.length := by
  rw [strFindCharNotInSet, strFindCharNotInSetLoop_append hset hds, strFindCharNotInSetLoop,
    if_pos hzero, strFind_of_not_mem hset hc hzero, ok_bind, Nat.zero_add]

/-- There is none up to the end of the string. -/
theorem strFindCharNotInSet_end (hset : 0 ∉ set) {ds : List Byte} (hds : ∀ d ∈ ds, d ∈ set)
    (s : List Byte) : strFindCharNotInSet (ds ++ 0 :: s) (set ++ 0 :: rest) = .ok (-1) := by
  rw [strFindCharNotInSet, strFindCharNotInSetLoop_append hset hds, strFindCharNotInSetLoop]
  rfl

end Find

end Debug

end RpiBld
