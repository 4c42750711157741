/-
RpiBld/Debug/Vsnprintf.lean

The formatter of `debug.c` (`Vsnprintf`).

The loop of the source has two indices: `r` reads the format and `w` writes the
output.  One invariant carries every part of it, the copies, the padding, the
numbers: with `out` all that the pieces read so far stand for, the array is
`fill n s out` and `w` is how much of `out` fits (`Written`).  Each piece of
the format extends `out` by what it stands for, so the whole run leaves the
expansion of the format, cut where the array ends.

An access outside of an array is a `fault`.  So that a run does not end in one
for a format that is an array of exactly its characters and the NUL, and for an
array of exactly `n` bytes, says that nothing else is read or written.
-/
import RpiBld.Debug.Format

namespace RpiBld

open Traced

namespace Debug

/-! ### The formatter -/

/-- What the loop changes besides `r`: the destination, where to write to it next, the static buffer
of `uint_to_str_base`, and the arguments that are left. -/
structure Output where
  s : List Byte
  w : Nat
  str : List Byte
  ap : List FmtArg

/-- `va_arg(ap, uint32_t)`. -/
def vaArgUint32 : List FmtArg → Except Halt (Word × List FmtArg)
  | .num v :: ap => .ok (v, ap)
  | _ => .error .fault

/-- `va_arg(ap, char *)`. -/
def vaArgStr : List FmtArg → Except Halt (List Byte × List FmtArg)
  | .str a :: ap => .ok (a, ap)
  | _ => .error .fault

/-- `specifier_supports_field_width`. -/
def specifierSupportsFieldWidth (spec : Byte) : Bool := spec == ch 'u' || spec == ch 'x'

/-- The character used to pad the field width, with `r` on the character after the `%`. -/
def readPad (fmt : List Byte) (fmtlen r : Nat) : Except Halt (Byte × Nat) := do
  let c ← load fmt r
  if c = ch '0' then
    if r ≥ fmtlen then .error (.signalled .vsnprintf) else .ok (ch '0', r + 1)
  else .ok (ch ' ', r)

/-- The field width, and `r` at the start of the specifier. -/
def readFieldWidth (fmt : List Byte) (fmtlen r : Nat) : Except Halt (Int × Nat) := do
  let i ← strFindCharNotInSet (fmt.drop r) (decimalDigits ++ [0])
  if i > 0 then
    let fieldWidth ← strToInt (fmt.drop r) i.toNat
    let r := r + i.toNat
    if r ≥ fmtlen then .error (.signalled .vsnprintf)
    else
    let c ← load fmt r
    if ¬ specifierSupportsFieldWidth c then .error (.signalled .vsnprintf)
    else .ok (fieldWidth, r)
  else .ok (0, r)

/-- The switch on the specifier: `sarg`, the output of the conversion. -/
def convert (n : Nat) (spec : Byte) (o : Output) : Except Halt (List Byte × Output) :=
  if spec = ch 'u' then do
    let (v, ap) ← vaArgUint32 o.ap
    let str ← uintToStr o.str v
    .ok (str, { o with str, ap })
  else if spec = ch 'x' then do
    let (v, ap) ← vaArgUint32 o.ap
    let str ← uintToHexstr o.str v
    let s ← strncpy o.s o.w (hexPrefix ++ [0]) (min (n - o.w) 2)
    .ok (str, { s, w := o.w + min (n - o.w) 2, str, ap })
  else if spec = ch 's' then do
    let (sarg, ap) ← vaArgStr o.ap
    .ok (sarg, { o with ap })
  else .error (.signalled .vsnprintf)

/-- Fill the left of the argument to meet the field width, with so much of it missing. -/
def padLeft (pad : Byte) (n : Nat) : Nat → List Byte → Nat → Except Halt (List Byte × Nat)
  | 0, s, w => .ok (s, w)
  | fieldWidth + 1, s, w =>
    if w < n then do
      let s ← store s w pad
      padLeft pad n fieldWidth s (w + 1)
    else .ok (s, w)

/-- The argument goes out in its field. -/
def writeArg (n : Nat) (pad : Byte) (fieldWidth : Int) (sarg : List Byte) (o : Output) :
    Except Halt Output := do
  let len ← strlen sarg
  let (s, w) ← padLeft pad n (fieldWidth - len).toNat o.s o.w
  let s ← strncpy s w sarg (min (n - w) len)
  .ok { o with s, w := w + min (n - w) len }

/-- The body of the loop on a `%`, which `r` is on; `r` is left on the specifier. -/
def convertSpecifier (fmt : List Byte) (fmtlen n r : Nat) (o : Output) :
    Except Halt (Nat × Output) := do
  if r ≥ fmtlen then .error (.signalled .vsnprintf)
  else
  let (pad, r) ← readPad fmt fmtlen (r + 1)
  let (fieldWidth, r) ← readFieldWidth fmt fmtlen r
  let spec ← load fmt r
  let (sarg, o) ← convert n spec o
  let o ← writeArg n pad fieldWidth sarg o
  .ok (r, o)

/-- The body of the loop. -/
def formatChar (fmt : List Byte) (fmtlen n r : Nat) (o : Output) : Except Halt (Nat × Output) := do
  let c ← load fmt r
  if c = ch '%' then convertSpecifier fmt fmtlen n r o
  else
    let s ← store o.s o.w c
    .ok (r, { o with s, w := o.w + 1 })

/-- The loop of `Vsnprintf`.  Every round advances `r`, so there are no more rounds than
characters. -/
def vsnprintfLoop (fmt : List Byte) (fmtlen n : Nat) : Nat → Nat → Output → Except Halt Output
  | 0, _, _ => .error .hang
  | rounds + 1, r, o =>
    if r < fmtlen ∧ o.w < n then do
      let (r, o) ← formatChar fmt fmtlen n r o
      vsnprintfLoop fmt fmtlen n rounds (r + 1) o
    else .ok o

/-- Null terminate. -/
def terminate (s : List Byte) (w n : Nat) : Except Halt (List Byte) :=
  if w < n then store s w 0 else store s (n - 1) 0

/-- `Vsnprintf`, from and to the contents of the destination and of the static buffer of
`uint_to_str_base`. -/
def vsnprintf (s : List Byte) (n : Nat) (fmt : List Byte) (str : List Byte) (ap : List FmtArg) :
    Except Halt (List Byte × List Byte) := do
  let fmtlen ← strlen fmt
  let o ← vsnprintfLoop fmt fmtlen n (fmtlen + 1) 0 ⟨s, 0, str, ap⟩
  let s ← terminate o.s o.w n
  .ok (s, o.str)

/-! ### The invariant -/

/-- So far, `out` was to be written to `s`. -/
structure Written (n : Nat) (s out : List Byte) (ap : List FmtArg) (o : Output) : Prop where
  s_eq : o.s = fill n s out
  w_eq : o.w = min out.length n
  str : o.str.length = 32
  ap_eq : o.ap = ap

section Pieces

variable {n : Nat} {s out : List Byte} {ap : List FmtArg} {o : Output}

theorem padLeft_fill (hn : n ≤ s.length) (pad : Byte) (k : Nat) (out : List Byte) :
    padLeft pad n k (fill n s out) (min out.length n) =
      .ok (fill n s (out ++ List.replicate k pad), min (out ++ List.replicate k pad).length n) := by
  induction k generalizing out with
  | zero => rw [padLeft, List.replicate_zero, List.append_nil]
  | succ k ih =>
    rw [padLeft]
    by_cases hfull : n ≤ out.length
    · have hw : ¬ min out.length n < n := by omega
      rw [if_neg hw, fill_append_of_full hfull, List.length_append]
      refine congrArg Except.ok (Prod.ext rfl ?_)
      show min out.length n = _
      omega
    · have hw : min out.length n = out.length := by omega
      have hlt : out.length < n := by omega
      have hnext : out.length + 1 = min (out ++ [pad]).length n := by
        rw [List.length_append, List.length_singleton]
        omega
      rw [hw, if_pos hlt, store_fill hn hlt, ok_bind, hnext, ih, List.append_assoc,
        List.singleton_append, ← List.replicate_succ]

/-- A string goes out as it is. -/
theorem strncpy_written (hn : n ≤ s.length) (t rest : List Byte) (h : Written n s out ap o) :
    strncpy o.s o.w (t ++ rest) (min (n - o.w) t.length) = .ok (fill n s (out ++ t)) ∧
      o.w + min (n - o.w) t.length = min (out ++ t).length n := by
  rw [h.s_eq, h.w_eq]
  exact strncpy_min hn t rest out

/-- The string of what fits. -/
theorem terminate_fill (hn : n ≤ s.length) (hpos : 1 ≤ n) (out : List Byte) :
    terminate (fill n s out) (min out.length n) n =
      .ok (out.take (n - 1) ++ 0 :: s.drop (min out.length (n - 1) + 1)) := by
  rw [terminate]
  by_cases hfull : n ≤ out.length
  · -- the last character makes place for the NUL
    have hlast : out.take n = out.take (n - 1) ++ [out[n - 1]] := by
      have hsucc : n - 1 + 1 = n := Nat.sub_add_cancel hpos
      rw [List.take_concat_get', hsucc]
    have hlen : n - 1 = (out.take (n - 1)).length := by
      rw [List.length_take]
      omega
    have hw : ¬ min out.length n < n := by omega
    have hdrop : min out.length (n - 1) + 1 = n := by omega
    rw [if_neg hw, fill, hdrop, List.length_take, Nat.min_eq_left hfull, hlast, List.append_assoc,
      List.singleton_append]
    conv_lhs => arg 2; rw [hlen]
    exact store_append _ _ _ _
  · have hw : min out.length n = out.length := by omega
    have hlt : out.length < n := by omega
    rw [hw, if_pos hlt, store_fill hn hlt, fill, List.take_of_length_le (by simp; omega),
      List.take_of_length_le (by omega), Nat.min_eq_left (by omega), List.length_append,
      List.append_assoc]
    rfl

/-! ### Conversion specifications -/

section Specifier

variable {fmt post : List Byte} {fl : Flags} {c : Byte} {fmtlen r : Nat}

theorem readPad_eq (hdrop : fmt.drop r = fl.text ++ c :: post) (hc : c ∉ decimalDigits)
    (hlen : r + fl.text.length ≤ fmtlen) :
    readPad fmt fmtlen r = .ok (fl.pad, r + fl.zeroText.length) := by
  rcases fl with ⟨zero, width, hdigits, hgreedy⟩
  cases zero with
  | true =>
    have hload : (load fmt r : Except Halt Byte) = .ok (ch '0') := load_of_drop hdrop
    have hlt : ¬ r ≥ fmtlen := by
      have hpos : 1 ≤ (Flags.text ⟨true, width, hdigits, hgreedy⟩).length := Nat.le_add_left 1 _
      omega
    rw [readPad, hload, ok_bind, if_pos rfl, if_neg hlt]
    rfl
  | false =>
    -- the character is a digit other than 0, or none
    have hload : ∃ c', (load fmt r : Except Halt Byte) = .ok c' ∧ c' ≠ ch '0' := by
      rcases width with - | ⟨d, width⟩
      · refine ⟨c, load_of_drop hdrop, fun h => hc ?_⟩
        rw [h]
        decide
      · exact ⟨d, load_of_drop hdrop, fun h => hgreedy rfl (congrArg some h)⟩
    obtain ⟨c', hload, hc'⟩ := hload
    rw [readPad, hload, ok_bind, if_neg hc']
    rfl

theorem drop_zeroText (hdrop : fmt.drop r = fl.text ++ c :: post) :
    fmt.drop (r + fl.zeroText.length) = fl.width ++ c :: post := by
  rw [← List.drop_drop, hdrop, Flags.text, List.append_assoc, List.drop_left]

theorem drop_width {width : List Byte} (hdrop : fmt.drop r = width ++ c :: post) :
    fmt.drop (r + width.length) = c :: post := by
  rw [← List.drop_drop, hdrop, List.drop_left]

theorem zero_not_mem_decimalDigits : 0 ∉ decimalDigits := by decide

/-- A field width that the specifier supports. -/
theorem readFieldWidth_eq {width : List Byte} (hdrop : fmt.drop r = width ++ c :: post)
    (hwidth : ∀ d ∈ width, d ∈ decimalDigits) (hnarrow : width.length ≤ 9)
    (hc : c ∉ decimalDigits) (hzero : c ≠ 0) (hlen : r + width.length < fmtlen)
    (hsupports : width ≠ [] → specifierSupportsFieldWidth c = true) :
    readFieldWidth fmt fmtlen r = .ok ((decimalValue width : Int), r + width.length) := by
  rw [readFieldWidth, hdrop, strFindCharNotInSet_eq zero_not_mem_decimalDigits hwidth hc hzero,
    ok_bind]
  by_cases hempty : width = []
  · subst hempty
    rfl
  · have hpos : (width.length : Int) > 0 := by
      have hne := List.length_pos_iff.mpr hempty
      omega
    have hlt : ¬ r + width.length ≥ fmtlen := by omega
    rw [if_pos hpos, Int.toNat_natCast, strToInt_eq hwidth hnarrow, ok_bind]
    dsimp only
    rw [if_neg hlt, load_of_drop (drop_width hdrop), ok_bind, if_neg (by simp [hsupports hempty])]

/-- Behind flags that start no specification the field width is refused, or the switch will refuse
the character `r` is on. -/
theorem readFieldWidth_bad {fl : Flags} {rest junk : List Byte} (fmtlen : Nat)
    (hdrop : fmt.drop r = fl.width ++ (rest ++ 0 :: junk)) (hrest : 0 ∉ rest)
    (hnone : ∀ c ∈ rest.head?, c ∉ decimalDigits)
    (hbad : ∀ (cv : Conv) (rest' : List Byte), rest = cv.char :: rest' → fl.width ≠ [] ∧ cv = .s) :
    readFieldWidth fmt fmtlen r = .error (.signalled .vsnprintf) ∨
      ∃ v r' c, readFieldWidth fmt fmtlen r = .ok (v, r') ∧
        (load fmt r' : Except Halt Byte) = .ok c ∧ ∀ cv : Conv, c ≠ cv.char := by
  rcases rest with - | ⟨c, rest⟩
  · -- digits up to the end: none of them, nor the NUL, is a conversion
    right
    rw [readFieldWidth, hdrop, List.nil_append,
      strFindCharNotInSet_end zero_not_mem_decimalDigits fl.digits, ok_bind]
    rcases hwidth : fl.width with - | ⟨d, width⟩
    · rw [hwidth] at hdrop
      exact ⟨0, r, 0, rfl, load_of_drop hdrop, fun cv h => cv.char_ne_zero h.symm⟩
    · rw [hwidth] at hdrop
      have hd : d ∈ decimalDigits := fl.digits d (hwidth ▸ List.mem_cons_self)
      exact ⟨0, r, d, rfl, load_of_drop hdrop, fun cv h => cv.char_not_digit (h ▸ hd)⟩
  · -- the character behind the digits decides
    have hc : c ∉ decimalDigits := hnone c rfl
    have hzero : c ≠ 0 := fun h => hrest (h ▸ List.mem_cons_self)
    rw [readFieldWidth, hdrop, List.cons_append,
      strFindCharNotInSet_eq zero_not_mem_decimalDigits fl.digits hc hzero, ok_bind]
    by_cases hempty : fl.width = []
    · right
      rw [hempty] at hdrop ⊢
      refine ⟨0, r, c, rfl, load_of_drop hdrop, fun cv h => ?_⟩
      exact (hbad cv rest (by rw [h])).1 hempty
    · left
      have hpos : (fl.width.length : Int) > 0 := by
        have hne := List.length_pos_iff.mpr hempty
        omega
      have hunsupported : ¬ specifierSupportsFieldWidth c = true := by
        intro h
        rcases (Bool.or_eq_true _ _).mp h with h | h
        · exact absurd (hbad .u rest (by rw [beq_iff_eq.mp h]; rfl)).2 (by decide)
        · exact absurd (hbad .x rest (by rw [beq_iff_eq.mp h]; rfl)).2 (by decide)
      rw [if_pos hpos, Int.toNat_natCast, strToInt, strToIntLoop_eq fl.digits (Nat.le_refl _),
        ok_bind]
      show (if r + fl.width.length ≥ fmtlen then _ else _) = _
      by_cases hend : r + fl.width.length ≥ fmtlen
      · rw [if_pos hend]
      · rw [if_neg hend, load_of_drop (drop_width hdrop), ok_bind, if_pos hunsupported]

theorem convert_bad {n : Nat} {o : Output} {c : Byte} (hc : ∀ cv : Conv, c ≠ cv.char) :
    convert n c o = .error (.signalled .vsnprintf) := by
  have hu : c ≠ ch 'u' := hc .u
  have hx : c ≠ ch 'x' := hc .x
  have hs : c ≠ ch 's' := hc .s
  rw [convert, if_neg hu, if_neg hx, if_neg hs]

/-- A conversion that has written `front` already and leaves `body` to be padded and copied. -/
def Converts (n : Nat) (s out : List Byte) (ap : List FmtArg)
    (r : Except Halt (List Byte × Output)) (front body : List Byte) : Prop :=
  ∃ o' rest, r = .ok (body ++ 0 :: rest, o') ∧ Written n s (out ++ front) ap o' ∧ 0 ∉ body

/-- A numeral fits into the buffer of `uint_to_str_base`. -/
theorem uintToStrBase_fits (base : Nat) (hbase : 10 ≤ base ∧ base ≤ 16) {str : List Byte}
    (hstr : str.length = 32) (v : Word) (hone : 1 < base) :
    ∃ rest, uintToStrBase str v base = .ok (numeralText (numeral base hone v.toNat) ++ 0 :: rest) ∧
      (numeralText (numeral base hone v.toNat) ++ 0 :: rest).length = 32 := by
  have hlt : v.toNat < base ^ 10 :=
    calc v.toNat < 10 ^ 10 := by omega
      _ ≤ base ^ 10 := Nat.pow_le_pow_left hbase.1 10
  have hlen : (numeral base hone v.toNat).digits.length < str.length := by
    have hle := length_numeral_le hone (by decide : 0 < 10) hlt
    omega
  obtain ⟨rest, hrun, hlength⟩ := uintToStrBase_eq hbase.2 hlen
  exact ⟨rest, hrun, hlength.trans hstr⟩

theorem convert_u {v : Word} (h : Written n s out (.num v :: ap) o) :
    Converts n s out ap (convert n (ch 'u') o) [] (decimal v) := by
  obtain ⟨rest, hstr, hlen⟩ := uintToStrBase_fits 10 (by decide) h.str v (by decide)
  refine ⟨{ o with str := decimal v ++ 0 :: rest, ap := ap }, rest, ?_, ?_,
    zero_not_mem_numeralText (by decide) _⟩
  · rw [convert, if_pos rfl, h.ap_eq, vaArgUint32, ok_bind]
    dsimp only
    rw [uintToStr, decimalBase, hstr]
    rfl
  · rw [List.append_nil]
    exact ⟨h.s_eq, h.w_eq, hlen, rfl⟩

theorem convert_x {v : Word} (hn : n ≤ s.length) (h : Written n s out (.num v :: ap) o) :
    Converts n s out ap (convert n (ch 'x') o) hexPrefix (hexadecimal v) := by
  obtain ⟨rest, hstr, hlen⟩ := uintToStrBase_fits 16 (by decide) h.str v (by decide)
  obtain ⟨hcopy, hw⟩ := strncpy_written hn hexPrefix [0] h
  have htwo : hexPrefix.length = 2 := rfl
  rw [htwo] at hcopy hw
  refine ⟨⟨fill n s (out ++ hexPrefix), o.w + min (n - o.w) 2, hexadecimal v ++ 0 :: rest, ap⟩,
    rest, ?_, ⟨rfl, hw, hlen, rfl⟩, zero_not_mem_numeralText (by decide) _⟩
  rw [convert, if_neg (by decide), if_pos rfl, h.ap_eq, vaArgUint32, ok_bind]
  dsimp only
  rw [uintToHexstr, hexBase, hstr, ok_bind, hcopy]
  rfl

theorem convert_s {a t : List Byte} (ht : stringIn a = some t)
    (h : Written n s out (.str a :: ap) o) : Converts n s out ap (convert n (ch 's') o) [] t := by
  obtain ⟨rest, rfl, hzero⟩ := stringIn_eq_some ht
  refine ⟨{ o with ap := ap }, rest, ?_, ?_, hzero⟩
  · rw [convert, if_neg (by decide), if_neg (by decide), if_pos rfl, h.ap_eq]
    rfl
  · rw [List.append_nil]
    exact ⟨h.s_eq, h.w_eq, h.str, rfl⟩

/-- What a conversion leaves is the rest of what the specification stands for. -/
theorem convert_eq {sp : Spec} {a : FmtArg} {t : List Byte} (hn : n ≤ s.length)
    (h : Written n s out (a :: ap) o) (ht : sp.render a = some t) :
    ∃ front body, Converts n s out ap (convert n sp.conv.char o) front body ∧
      t = front ++ (sp.padding body.length ++ body) := by
  unfold Spec.render at ht
  cases a with
  | num v =>
    cases hconv : sp.conv with
    | u =>
      rw [hconv] at ht
      obtain rfl := Option.some.inj ht
      exact ⟨[], decimal v, convert_u h, rfl⟩
    | x =>
      rw [hconv] at ht
      obtain rfl := Option.some.inj ht
      exact ⟨hexPrefix, hexadecimal v, convert_x hn h, rfl⟩
    | s =>
      rw [hconv] at ht
      cases ht
  | str a =>
    cases hconv : sp.conv with
    | u =>
      rw [hconv] at ht
      cases ht
    | x =>
      rw [hconv] at ht
      cases ht
    | s =>
      rw [hconv] at ht
      -- a string has no field width
      have hwidth : sp.width = [] := by
        by_contra hne
        exact sp.supported hne hconv
      refine ⟨[], t, convert_s ht h, ?_⟩
      rw [Flags.padding, hwidth]
      simp [decimalValue]

theorem writeArg_eq {body : List Byte} (rest : List Byte) (hn : n ≤ s.length)
    (h : Written n s out ap o) (hzero : 0 ∉ body) (fl : Flags) :
    ∃ o', writeArg n fl.pad (decimalValue fl.width : Int) (body ++ 0 :: rest) o = .ok o' ∧
      Written n s (out ++ (fl.padding body.length ++ body)) ap o' := by
  have hmissing : ((decimalValue fl.width : Int) - (body.length : Int)).toNat =
      decimalValue fl.width - body.length := by omega
  have hpad := padLeft_fill hn fl.pad (decimalValue fl.width - body.length) out
  obtain ⟨hcopy, hw⟩ := strncpy_min hn body (0 :: rest) (out ++ fl.padding body.length)
  rw [← List.append_assoc]
  refine ⟨⟨_, _, o.str, o.ap⟩, ?_, rfl, hw, h.str, h.ap_eq⟩
  rw [writeArg, strlen_eq hzero, ok_bind, hmissing, h.s_eq, h.w_eq, hpad, ok_bind]
  exact (congrArg (· >>= _) hcopy).trans rfl

/-- A specification extends the output by what it stands for. -/
theorem convertSpecifier_eq {sp : Spec} {a : FmtArg} {t : List Byte} (hn : n ≤ s.length)
    (hdrop : fmt.drop r = sp.text ++ post) (hlen : r + sp.text.length ≤ fmtlen)
    (hnarrow : sp.width.length ≤ 9) (h : Written n s out (a :: ap) o)
    (ht : sp.render a = some t) :
    ∃ r' o', convertSpecifier fmt fmtlen n r o = .ok (r', o') ∧ r' + 1 = r + sp.text.length ∧
      Written n s (out ++ t) ap o' := by
  obtain ⟨front, body, ⟨o', rest, hconvert, hfront, hzero⟩, rfl⟩ := convert_eq hn h ht
  obtain ⟨o'', hwrite, hwritten⟩ := writeArg_eq rest hn hfront hzero sp.toFlags
  have htext : sp.text.length = 1 + (sp.zeroText.length + sp.width.length) + 1 := by
    simp [Spec.text, Flags.text]
    omega
  have hflags : fmt.drop (r + 1) = sp.toFlags.text ++ sp.conv.char :: post := by
    rw [← List.drop_drop, hdrop, Spec.text]
    simp
  have hsupports : sp.width ≠ [] → specifierSupportsFieldWidth sp.conv.char = true := by
    intro hne
    have hs := sp.supported hne
    cases hconv : sp.conv with
    | u => rfl
    | x => rfl
    | s => exact absurd hconv hs
  have hdigit := sp.conv.char_not_digit
  have hflagsLen : r + 1 + sp.toFlags.text.length ≤ fmtlen := by
    rw [Flags.text, List.length_append]
    omega
  -- the flags are read in the order they are written in
  have hpad := readPad_eq hflags hdigit hflagsLen
  have hwidth := drop_zeroText hflags
  have hwidthLen : r + 1 + sp.zeroText.length + sp.width.length < fmtlen := by omega
  have hfield := readFieldWidth_eq hwidth sp.digits hnarrow hdigit sp.conv.char_ne_zero hwidthLen
    hsupports
  have hload := load_of_drop (ε := Halt) (drop_width hwidth)
  have hr : ¬ r ≥ fmtlen := by omega
  refine ⟨r + 1 + sp.zeroText.length + sp.width.length, o'', ?_, by omega, ?_⟩
  · rw [convertSpecifier, if_neg hr, hpad, ok_bind]
    dsimp only
    rw [hfield, ok_bind]
    dsimp only
    rw [hload, ok_bind, hconvert, ok_bind]
    dsimp only
    rw [hwrite]
    rfl
  · rwa [List.append_assoc] at hwritten

/-- A `%` that starts no specification is an error. -/
theorem convertSpecifier_bad {bad junk : List Byte} (hdrop : fmt.drop r = bad ++ 0 :: junk)
    (hzero : 0 ∉ bad) (hlen : r + bad.length = fmtlen) (hbad : Malformed bad) :
    convertSpecifier fmt fmtlen n r o = .error (.signalled .vsnprintf) := by
  obtain ⟨hpercent, hnone⟩ := hbad
  obtain ⟨t, rfl⟩ := List.head?_eq_some_iff.mp hpercent
  obtain ⟨fl, rest, rfl, hrest⟩ := exists_flags t
  have hflags : fmt.drop (r + 1) = fl.text ++ (rest ++ 0 :: junk) := by
    rw [← List.drop_drop, hdrop]
    simp
  have hzero' : 0 ∉ rest := fun h =>
    hzero (List.mem_cons_of_mem _ (List.mem_append_right _ h))
  -- the first character behind the flags, which may be the NUL
  obtain ⟨c, post, hpost, hc⟩ : ∃ c post, rest ++ 0 :: junk = c :: post ∧ c ∉ decimalDigits := by
    rcases rest with - | ⟨c, rest⟩
    · exact ⟨0, junk, rfl, zero_not_mem_decimalDigits⟩
    · exact ⟨c, rest ++ 0 :: junk, rfl, hrest c rfl⟩
  -- a conversion there would make it a specification, but for a width that `%s` does not take
  have hconv : ∀ (cv : Conv) (rest' : List Byte), rest = cv.char :: rest' →
      fl.width ≠ [] ∧ cv = .s := by
    intro cv rest' hcv
    by_contra hnot
    have hsupported : fl.width ≠ [] → cv ≠ .s := fun hne hs => hnot ⟨hne, hs⟩
    refine hnone ⟨fl, cv, hsupported⟩ ⟨rest', ?_⟩
    rw [Spec.text, hcv]
    simp
  have hr : ¬ r ≥ fmtlen := by
    rw [List.length_cons] at hlen
    omega
  have hflagsLen : r + 1 + fl.text.length ≤ fmtlen := by
    rw [List.length_cons, List.length_append] at hlen
    omega
  have hwidth := drop_zeroText (hpost ▸ hflags)
  rw [← hpost] at hwidth
  rw [convertSpecifier, if_neg hr, readPad_eq (hpost ▸ hflags) hc hflagsLen, ok_bind]
  dsimp only
  rcases readFieldWidth_bad fmtlen hwidth hzero' hrest hconv with
    hfield | ⟨v, r', c', hfield, hload, hc'⟩
  · rw [hfield]
    rfl
  · rw [hfield, ok_bind]
    dsimp only
    rw [hload, ok_bind, convert_bad hc']
    rfl

end Specifier

/-! ### The run -/

theorem Written.w_lt_iff (h : Written n s out ap o) : o.w < n ↔ out.length < n := by
  rw [h.w_eq]
  omega

/-- What does not fit changes nothing. -/
theorem Written.append_of_full (h : Written n s out ap o) (hfull : n ≤ out.length)
    (more : List Byte) : Written n s (out ++ more) ap o := by
  refine ⟨h.s_eq.trans (fill_append_of_full hfull more).symm, h.w_eq.trans ?_, h.str, h.ap_eq⟩
  rw [List.length_append]
  omega

/-- How the loop ends where `out` was to be written and `bad` remains: a malformed specification is
an error if there is still room when it is reached. -/
structure Ends (n : Nat) (s out bad : List Byte) (res : Except Halt Output) : Prop where
  signals : bad ≠ [] ∧ out.length < n → res = .error (.signalled .vsnprintf)
  returns : ¬ (bad ≠ [] ∧ out.length < n) → ∃ o ap, res = .ok o ∧ Written n s out ap o

section Run

variable {fmt bad junk : List Byte} {fmtlen : Nat}

/-- A round on a plain character. -/
theorem formatChar_char {c : Byte} {post : List Byte} {r : Nat} (fmtlen : Nat) (hn : n ≤ s.length)
    (hdrop : fmt.drop r = c :: post) (hc : c ≠ ch '%') (hout : out.length < n)
    (h : Written n s out ap o) :
    ∃ o', formatChar fmt fmtlen n r o = .ok (r, o') ∧ Written n s (out ++ [c]) ap o' := by
  have hw : o.w = out.length := by
    rw [h.w_eq]
    omega
  refine ⟨{ o with s := fill n s (out ++ [c]), w := o.w + 1 }, ?_, rfl, ?_, h.str, h.ap_eq⟩
  · rw [formatChar, load_of_drop hdrop, ok_bind, if_neg hc, h.s_eq, hw, store_fill hn hout]
    rfl
  · show o.w + 1 = _
    rw [hw, List.length_append, List.length_singleton]
    omega

/-- Behind the last piece the loop ends, one way or the other. -/
theorem vsnprintfLoop_rest {rounds r : Nat} (hbad : bad = [] ∨ Malformed bad) (hzero : 0 ∉ bad)
    (hdrop : fmt.drop r = bad ++ 0 :: junk) (hlen : r + bad.length = fmtlen)
    (h : Written n s out ap o) :
    Ends n s out bad (vsnprintfLoop fmt fmtlen n (rounds + 1) r o) := by
  rw [vsnprintfLoop]
  rcases hbad with rfl | hbad
  · -- the end of the format
    have hdone : ¬ (r < fmtlen ∧ o.w < n) := by
      have hend : r = fmtlen := hlen
      omega
    rw [if_neg hdone]
    exact ⟨fun hfail => absurd rfl hfail.1, fun _ => ⟨o, ap, rfl, h⟩⟩
  · -- a malformed specification, which is looked at where there is room
    have hne : bad ≠ [] := by
      rintro rfl
      cases hbad.1
    have hpos : 0 < bad.length := List.length_pos_iff.mpr hne
    by_cases hout : out.length < n
    · obtain ⟨post, hpost⟩ := List.head?_eq_some_iff.mp hbad.1
      have hload : (load fmt r : Except Halt Byte) = .ok (ch '%') := by
        refine load_of_drop (?_ : fmt.drop r = ch '%' :: (post ++ 0 :: junk))
        rw [hdrop, hpost]
        rfl
      rw [if_pos ⟨by omega, h.w_lt_iff.mpr hout⟩, formatChar, hload, ok_bind, if_pos rfl,
        convertSpecifier_bad hdrop hzero hlen hbad]
      exact ⟨fun _ => rfl, fun hok => absurd ⟨hne, hout⟩ hok⟩
    · rw [if_neg fun hgo => hout (h.w_lt_iff.mp hgo.2)]
      exact ⟨fun hfail => absurd hfail.2 hout, fun _ => ⟨o, ap, rfl, h⟩⟩

/-- The rest of the format extends the output by its expansion. -/
theorem vsnprintfLoop_ends {ps : List Piece} {rounds r : Nat} {t : List Byte} (hn : n ≤ s.length)
    (hbad : bad = [] ∨ Malformed bad) (hzero : 0 ∉ bad)
    (hdrop : fmt.drop r = format ps ++ (bad ++ 0 :: junk))
    (hlen : r + (format ps ++ bad).length = fmtlen) (hrounds : (format ps ++ bad).length < rounds)
    (hnarrow : Narrow ps) (ht : expand ps ap = some t) (h : Written n s out ap o) :
    Ends n s (out ++ t) bad (vsnprintfLoop fmt fmtlen n rounds r o) := by
  induction ps generalizing rounds r out ap o t with
  | nil =>
    obtain rfl := Option.some.inj ht
    rcases rounds with - | rounds
    · omega
    rw [List.append_nil]
    exact vsnprintfLoop_rest hbad hzero hdrop hlen h
  | cons p ps ih =>
    rcases rounds with - | rounds
    · omega
    rw [vsnprintfLoop]
    by_cases hout : out.length < n
    · have hw := h.w_lt_iff.mpr hout
      have hlens : (format (p :: ps) ++ bad).length =
          p.text.length + (format ps ++ bad).length := by
        simp
      rw [format_cons, List.append_assoc] at hdrop
      have hnarrow' : Narrow ps := fun sp hsp => hnarrow sp (List.mem_cons_of_mem _ hsp)
      cases p with
      | char c plain =>
        have hone : (Piece.char c plain).text.length = 1 := rfl
        obtain ⟨t', ht', rfl⟩ := Option.map_eq_some_iff.mp ht
        obtain ⟨o', hstep, h'⟩ := formatChar_char fmtlen hn hdrop plain.1 hout h
        have hnext : fmt.drop (r + 1) = format ps ++ (bad ++ 0 :: junk) := by
          rw [← List.drop_drop, hdrop]
          rfl
        rw [if_pos ⟨by omega, hw⟩, hstep, ok_bind, List.append_cons]
        exact ih hnext (by omega) (by omega) hnarrow' ht' h'
      | spec sp =>
        rcases ap with - | ⟨a, ap⟩
        · cases ht
        obtain ⟨t', out', hrender, ht', rfl⟩ := expand_spec_cons ht
        have htext : (Piece.spec sp).text = sp.text := rfl
        rw [htext] at hdrop hlens
        have hpos : 0 < sp.text.length := Nat.succ_pos _
        have hfits : r + sp.text.length ≤ fmtlen := by omega
        obtain ⟨r', o', hstep, hr', h'⟩ := convertSpecifier_eq hn hdrop hfits
          (hnarrow sp List.mem_cons_self) h hrender
        have hload : (load fmt r : Except Halt Byte) = .ok (ch '%') := load_of_drop hdrop
        have hnext : fmt.drop (r' + 1) = format ps ++ (bad ++ 0 :: junk) := by
          rw [hr', ← List.drop_drop, hdrop, List.drop_left]
        rw [if_pos ⟨by omega, hw⟩, formatChar, hload, ok_bind, if_pos rfl, hstep, ok_bind,
          ← List.append_assoc]
        exact ih hnext (by omega) (by omega) hnarrow' ht' h'
    · -- the output is full, and the loop ends before the rest of the format
      have hfull : n ≤ out.length := by omega
      have hfull' : ¬ (out ++ t).length < n := by
        rw [List.length_append]
        omega
      rw [if_neg fun hgo => hout (h.w_lt_iff.mp hgo.2)]
      exact ⟨fun hfail => absurd hfail.2 hfull',
        fun _ => ⟨o, ap, rfl, h.append_of_full hfull t⟩⟩

end Run

end Pieces

/-! ### Formatting -/

/-- What a run of `Vsnprintf` on a format string and arguments is to do with the first `n` bytes of
`s`.  The string can be read as a format; and however it is, if the arguments match, a malformed
specification that is reached with less than `n` bytes of output ends the run in an error, and
every other run leaves the first `n-1` bytes of the expansion and a NUL. -/
structure Formats (text : List Byte) (n : Nat) (s : List Byte) (ap : List FmtArg)
    (res : Except Halt (List Byte × List Byte)) : Prop where
  readable : ∃ ps bad, Reads text ps bad
  signals : ∀ ps bad out, Reads text ps bad → Narrow ps → expand ps ap = some out →
    (res = .error (.signalled .vsnprintf) ↔ bad ≠ [] ∧ out.length < n)
  returns : ∀ ps bad out, Reads text ps bad → Narrow ps → expand ps ap = some out →
    ¬ (bad ≠ [] ∧ out.length < n) → ∃ str, str.length = 32 ∧
      res = .ok (out.take (n - 1) ++ 0 :: s.drop (min out.length (n - 1) + 1), str)

section Formats

variable {text junk s str : List Byte} {n : Nat} {ap : List FmtArg}

/-- How `Vsnprintf` ends on a format that is read so. -/
theorem vsnprintf_ends {ps : List Piece} {bad out : List Byte} (htext : 0 ∉ text)
    (hreads : Reads text ps bad) (hnarrow : Narrow ps) (hout : expand ps ap = some out)
    (hpos : 1 ≤ n) (hn : n ≤ s.length) (hstr : str.length = 32) (junk : List Byte) :
    (bad ≠ [] ∧ out.length < n →
      vsnprintf s n (text ++ 0 :: junk) str ap = .error (.signalled .vsnprintf)) ∧
    (¬ (bad ≠ [] ∧ out.length < n) → ∃ str', str'.length = 32 ∧
      vsnprintf s n (text ++ 0 :: junk) str ap =
        .ok (out.take (n - 1) ++ 0 :: s.drop (min out.length (n - 1) + 1), str')) := by
  have hzero : 0 ∉ bad := fun h => htext (hreads.text_eq ▸ List.mem_append_right _ h)
  have hdrop : (text ++ 0 :: junk).drop 0 = format ps ++ (bad ++ 0 :: junk) := by
    rw [List.drop_zero, hreads.text_eq, List.append_assoc]
  have hlen : 0 + (format ps ++ bad).length = text.length := by
    rw [Nat.zero_add, ← hreads.text_eq]
  have hstart : Written n s [] ap ⟨s, 0, str, ap⟩ :=
    ⟨fill_nil.symm, (Nat.zero_min n).symm, hstr, rfl⟩
  have hrounds : (format ps ++ bad).length < text.length + 1 := by omega
  have hends := vsnprintfLoop_ends hn hreads.rest hzero hdrop hlen hrounds hnarrow hout hstart
  rw [List.nil_append] at hends
  constructor
  · intro hfail
    rw [vsnprintf, strlen_eq htext, ok_bind, hends.signals hfail]
    rfl
  · intro hok
    obtain ⟨o, ap', hloop, h⟩ := hends.returns hok
    refine ⟨o.str, h.str, ?_⟩
    rw [vsnprintf, strlen_eq htext, ok_bind, hloop, ok_bind, h.s_eq, h.w_eq,
      terminate_fill hn hpos]
    rfl

/-- **The formatter is correct under truncation**, for every format string, every buffer and all
arguments. -/
theorem vsnprintf_formats (htext : 0 ∉ text) (hpos : 1 ≤ n) (hn : n ≤ s.length)
    (hstr : str.length = 32) (junk : List Byte) (ap : List FmtArg) :
    Formats text n s ap (vsnprintf s n (text ++ 0 :: junk) str ap) := by
  have hends := fun ps bad out (hreads : Reads text ps bad) hnarrow
      (hout : expand ps ap = some out) =>
    vsnprintf_ends htext hreads hnarrow hout hpos hn hstr junk
  refine ⟨exists_reads htext, ?_, ?_⟩
  · intro ps bad out hreads hnarrow hout
    refine ⟨fun herror => ?_, (hends ps bad out hreads hnarrow hout).1⟩
    by_contra hok
    obtain ⟨str', -, hres⟩ := (hends ps bad out hreads hnarrow hout).2 hok
    cases herror.symm.trans hres
  · intro ps bad out hreads hnarrow hout
    exact (hends ps bad out hreads hnarrow hout).2

/-- `0x%02x` of 255 and a malformed `%q`, in four bytes. -/
theorem vsnprintf_formats_cut :
    Formats (chars ['%', '0', '2', 'x', '%', 'q']) 4 [1, 1, 1, 1, 1] [.num 255]
      (vsnprintf [1, 1, 1, 1, 1] 4 (chars ['%', '0', '2', 'x', '%', 'q'] ++ 0 :: [])
        (List.replicate 32 0) [.num 255]) :=
  vsnprintf_formats (by decide) (by decide) (by decide) (by decide) [] [.num 255]

end Formats

end Debug

end RpiBld
