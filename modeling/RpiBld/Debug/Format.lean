/-
RpiBld/Debug/Format.lean

What a format string stands for.

A format is a sequence of pieces, plain characters and conversion
specifications, up to its end or to the first `%` that starts no
specification (`Reads`; every string reads as one, `exists_reads`).  With an
argument for every specification it has an expansion (`expand`), whatever the
size of the buffer it is to go into.  Expanding is a homomorphism
(`expand_append`).
-/
import RpiBld.Debug.Strings

namespace RpiBld

open Traced

namespace Debug

/-! ### Arguments -/

/-- An argument: a `uint32_t`, or the array that a `char *` points into. -/
inductive FmtArg
  | num (v : Word)
  | str (a : List Byte)
  deriving DecidableEq, Repr

/-- The string in an array, if there is a NUL in it. -/
def stringIn (a : List Byte) : Option (List Byte) :=
  if 0 ∈ a then some (a.takeWhile (· ≠ 0)) else none

theorem stringIn_append {t : List Byte} (ht : 0 ∉ t) (rest : List Byte) :
    stringIn (t ++ 0 :: rest) = some t := by
  have hmem : 0 ∈ t ++ 0 :: rest := by simp
  have hne : ∀ c ∈ t, decide (c ≠ 0) = true :=
    fun c hc => decide_eq_true fun h => ht (h ▸ hc)
  rw [stringIn, if_pos hmem, List.takeWhile_append_of_pos hne]
  simp

theorem stringIn_eq_some {a t : List Byte} (h : stringIn a = some t) :
    ∃ rest, a = t ++ 0 :: rest ∧ 0 ∉ t := by
  by_cases hmem : 0 ∈ a
  · obtain ⟨t', rest, rfl, ht'⟩ := List.eq_append_cons_of_mem hmem
    obtain rfl := Option.some.inj ((stringIn_append ht' rest).symm.trans h)
    exact ⟨rest, rfl, ht'⟩
  · rw [stringIn, if_neg hmem] at h
    cases h

/-! ### Conversion specifications -/

/-- The conversions. -/
inductive Conv
  | u | x | s
  deriving DecidableEq, Repr

/-- The character of a conversion. -/
def Conv.char : Conv → Byte
  | .u => ch 'u'
  | .x => ch 'x'
  | .s => ch 's'

/-- What may stand between the `%` and the conversion: a `0` that asks for padding with zeros, and
the digits of the field width.  A `0` that can be the flag is. -/
structure Flags where
  zero : Bool
  width : List Byte
  digits : ∀ c ∈ width, c ∈ decimalDigits
  greedy : zero = false → width.head? ≠ some (ch '0')

namespace Flags

def zeroText (fl : Flags) : List Byte := if fl.zero then [ch '0'] else []

def text (fl : Flags) : List Byte := fl.zeroText ++ fl.width

/-- What the field is padded with. -/
def pad (fl : Flags) : Byte := if fl.zero then ch '0' else ch ' '

/-- The characters before a text to fill the field. -/
def padding (fl : Flags) (len : Nat) : List Byte :=
  List.replicate (decimalValue fl.width - len) fl.pad

/-- A text in its field. -/
def padded (fl : Flags) (t : List Byte) : List Byte := fl.padding t.length ++ t

end Flags

/-- A conversion specification; the field of a string has no width. -/
structure Spec extends Flags where
  conv : Conv
  supported : width ≠ [] → conv ≠ .s

def Spec.text (sp : Spec) : List Byte := ch '%' :: (sp.toFlags.text ++ [sp.conv.char])

/-- The decimal numeral of a word. -/
def decimal (v : Word) : List Byte := numeralText (numeral 10 (by decide) v.toNat)

/-- The hexadecimal numeral of a word. -/
def hexadecimal (v : Word) : List Byte := numeralText (numeral 16 (by decide) v.toNat)

/-- `0x`. -/
def hexPrefix : List Byte := chars ['0', 'x']

/-- What a specification makes of an argument of its type. -/
def Spec.render (sp : Spec) : FmtArg → Option (List Byte)
  | .num v =>
    match sp.conv with
    | .u => some (sp.padded (decimal v))
    | .x => some (hexPrefix ++ sp.padded (hexadecimal v))
    | .s => none
  | .str a =>
    match sp.conv with
    | .s => stringIn a
    | _ => none

/-! ### Formats -/

/-- A piece of a format. -/
inductive Piece
  | char (c : Byte) (plain : c ≠ ch '%' ∧ c ≠ 0)
  | spec (sp : Spec)

def Piece.text : Piece → List Byte
  | .char c _ => [c]
  | .spec sp => sp.text

/-- The text of a sequence of pieces. -/
def format (ps : List Piece) : List Byte := ps.flatMap Piece.text

/-- A `%` that starts no specification, and what follows it. -/
def Malformed (bad : List Byte) : Prop :=
  bad.head? = some (ch '%') ∧ ∀ sp : Spec, ¬ sp.text <+: bad

/-- How a format string is read: these pieces, and then its end or a malformed specification. -/
structure Reads (text : List Byte) (ps : List Piece) (bad : List Byte) : Prop where
  text_eq : text = format ps ++ bad
  rest : bad = [] ∨ Malformed bad

/-- The expansion of pieces with arguments that match them, one for each specification. -/
def expand : List Piece → List FmtArg → Option (List Byte)
  | [], _ => some []
  | .char c _ :: ps, ap => (expand ps ap).map (c :: ·)
  | .spec sp :: ps, a :: ap =>
    match sp.render a, expand ps ap with
    | some t, some out => some (t ++ out)
    | _, _ => none
  | .spec _ :: _, [] => none

/-- No field width has more than nine digits. -/
def Narrow (ps : List Piece) : Prop := ∀ sp, .spec sp ∈ ps → sp.width.length ≤ 9

section Format

variable {ps qs : List Piece} {ap : List FmtArg} {out out' : List Byte}

@[simp] theorem format_cons (p : Piece) (ps : List Piece) : format (p :: ps) = p.text ++ format ps :=
  List.flatMap_cons

@[simp] theorem format_append (ps qs : List Piece) : format (ps ++ qs) = format ps ++ format qs :=
  List.flatMap_append

theorem zero_not_mem_flags (fl : Flags) : 0 ∉ fl.text := by
  intro h
  rcases List.mem_append.mp h with h | h
  · unfold Flags.zeroText at h
    split_ifs at h
    · exact absurd (List.mem_singleton.mp h) (by decide)
    · cases h
  · exact absurd (fl.digits 0 h) (by decide)

theorem Conv.char_ne_zero : ∀ cv : Conv, cv.char ≠ 0
  | .u => by decide
  | .x => by decide
  | .s => by decide

theorem Conv.char_not_digit : ∀ cv : Conv, cv.char ∉ decimalDigits
  | .u => by decide
  | .x => by decide
  | .s => by decide

/-- A format is a string. -/
theorem zero_not_mem_format (ps : List Piece) : 0 ∉ format ps := by
  intro h
  obtain ⟨p, -, hp⟩ := List.mem_flatMap.mp h
  cases p with
  | char c plain => exact plain.2 (List.mem_singleton.mp hp).symm
  | spec sp =>
    rcases List.mem_cons.mp hp with h | h
    · exact absurd h (by decide)
    · rcases List.mem_append.mp h with h | h
      · exact zero_not_mem_flags _ h
      · exact sp.conv.char_ne_zero (List.mem_singleton.mp h).symm

/-- The number of arguments a format takes. -/
def arity : List Piece → Nat
  | [] => 0
  | .char _ _ :: ps => arity ps
  | .spec _ :: ps => arity ps + 1

theorem expand_spec_cons {sp : Spec} {a : FmtArg}
    (h : expand (.spec sp :: ps) (a :: ap) = some out) :
    ∃ t out', sp.render a = some t ∧ expand ps ap = some out' ∧ out = t ++ out' := by
  rw [expand] at h
  rcases hrender : sp.render a with - | t
  · rw [hrender] at h
    cases h
  · rcases hexpand : expand ps ap with - | out'
    · rw [hrender, hexpand] at h
      cases h
    · rw [hrender, hexpand] at h
      exact ⟨t, out', rfl, rfl, (Option.some.inj h).symm⟩

/-- **Expanding is a homomorphism**: the second format takes the arguments the first one leaves. -/
theorem expand_append (h : expand ps ap = some out)
    (h' : expand qs (ap.drop (arity ps)) = some out') :
    expand (ps ++ qs) ap = some (out ++ out') := by
  induction ps generalizing ap out with
  | nil =>
    obtain rfl := Option.some.inj h
    exact h'
  | cons p ps ih =>
    cases p with
    | char c plain =>
      obtain ⟨out₁, hout₁, rfl⟩ := Option.map_eq_some_iff.mp h
      have hrest := ih hout₁ h'
      rw [List.cons_append, expand, hrest]
      rfl
    | spec sp =>
      rcases ap with - | ⟨a, ap⟩
      · cases h
      · obtain ⟨t, out₁, hrender, hout₁, rfl⟩ := expand_spec_cons h
        have hrest := ih hout₁ h'
        rw [List.cons_append, expand, hrender, hrest, List.append_assoc]

/-- Text without a `%` stands for itself. -/
theorem exists_literal {cs : List Byte} (hcs : ∀ c ∈ cs, c ≠ ch '%' ∧ c ≠ 0) :
    ∃ ps, format ps = cs ∧ arity ps = 0 ∧ Narrow ps ∧ ∀ ap, expand ps ap = some cs := by
  induction cs with
  | nil => exact ⟨[], rfl, rfl, fun sp hsp => (by cases hsp), fun ap => rfl⟩
  | cons c cs ih =>
    obtain ⟨ps, hformat, harity, hnarrow, hexpand⟩ :=
      ih fun c hc => hcs c (List.mem_cons_of_mem _ hc)
    refine ⟨.char c (hcs c List.mem_cons_self) :: ps, ?_, harity, ?_, fun ap => ?_⟩
    · rw [format_cons, hformat]
      rfl
    · intro sp hsp
      rcases List.mem_cons.mp hsp with h | h
      · cases h
      · exact hnarrow sp h
    · rw [expand, hexpand]
      rfl

theorem zero_not_mem_padded (fl : Flags) {t : List Byte} (ht : 0 ∉ t) : 0 ∉ fl.padded t := by
  intro h
  rcases List.mem_append.mp h with h | h
  · have hpad : fl.pad = 0 := (List.eq_of_mem_replicate h).symm
    unfold Flags.pad at hpad
    split_ifs at hpad <;> exact absurd hpad (by decide)
  · exact ht h

theorem zero_not_mem_render {sp : Spec} {a : FmtArg} {t : List Byte} (h : sp.render a = some t) :
    0 ∉ t := by
  unfold Spec.render at h
  cases a with
  | num v =>
    cases hconv : sp.conv with
    | u =>
      rw [hconv] at h
      obtain rfl := Option.some.inj h
      exact zero_not_mem_padded _ (zero_not_mem_numeralText (by decide) _)
    | x =>
      rw [hconv] at h
      obtain rfl := Option.some.inj h
      intro hmem
      rcases List.mem_append.mp hmem with hmem | hmem
      · exact absurd hmem (by decide)
      · exact zero_not_mem_padded _ (zero_not_mem_numeralText (by decide) _) hmem
    | s =>
      rw [hconv] at h
      cases h
  | str a =>
    cases hconv : sp.conv with
    | u =>
      rw [hconv] at h
      cases h
    | x =>
      rw [hconv] at h
      cases h
    | s =>
      rw [hconv] at h
      obtain ⟨-, -, ht⟩ := stringIn_eq_some h
      exact ht

/-- An expansion is a string. -/
theorem zero_not_mem_expand (h : expand ps ap = some out) : 0 ∉ out := by
  induction ps generalizing ap out with
  | nil =>
    obtain rfl := Option.some.inj h
    simp
  | cons p ps ih =>
    cases p with
    | char c plain =>
      obtain ⟨out', hout', rfl⟩ := Option.map_eq_some_iff.mp h
      intro hmem
      rcases List.mem_cons.mp hmem with hc | hmem
      · exact plain.2 hc.symm
      · exact ih hout' hmem
    | spec sp =>
      rcases ap with - | ⟨a, ap⟩
      · cases h
      · obtain ⟨t, out', hrender, hout', rfl⟩ := expand_spec_cons h
        intro hmem
        rcases List.mem_append.mp hmem with hmem | hmem
        · exact zero_not_mem_render hrender hmem
        · exact ih hout' hmem

end Format

/-! ### Reading -/

/-- The flags behind a `%`, up to the first character that belongs to none. -/
theorem exists_flags (t : List Byte) : ∃ (fl : Flags) (rest : List Byte),
    t = fl.text ++ rest ∧ ∀ c ∈ rest.head?, c ∉ decimalDigits := by
  have hsplit : ∀ t : List Byte, ∃ ds rest, t = ds ++ rest ∧ (∀ c ∈ ds, c ∈ decimalDigits) ∧
      ∀ c ∈ rest.head?, c ∉ decimalDigits := by
    intro t
    induction t with
    | nil => exact ⟨[], [], rfl, by simp, by simp⟩
    | cons c t ih =>
      by_cases hc : c ∈ decimalDigits
      · obtain ⟨ds, rest, rfl, hds, hrest⟩ := ih
        exact ⟨c :: ds, rest, rfl, List.forall_mem_cons.mpr ⟨hc, hds⟩, hrest⟩
      · refine ⟨[], c :: t, rfl, by simp, fun c' hc' => ?_⟩
        rwa [← Option.some.inj hc']
  by_cases hzero : t.head? = some (ch '0')
  · obtain ⟨t', rfl⟩ := List.head?_eq_some_iff.mp hzero
    obtain ⟨ds, rest, rfl, hds, hrest⟩ := hsplit t'
    exact ⟨⟨true, ds, hds, fun h => by cases h⟩, rest, rfl, hrest⟩
  · obtain ⟨ds, rest, rfl, hds, hrest⟩ := hsplit t
    refine ⟨⟨false, ds, hds, fun _ hhead => hzero ?_⟩, rest, rfl, hrest⟩
    rw [List.head?_append, hhead]
    rfl

/-- Every string can be read as a format. -/
theorem exists_reads {text : List Byte} (htext : 0 ∉ text) : ∃ ps bad, Reads text ps bad := by
  induction hlen : text.length using Nat.strong_induction_on generalizing text with
  | h n ih =>
    subst hlen
    rcases text with - | ⟨c, t⟩
    · exact ⟨[], [], rfl, .inl rfl⟩
    · have ht : 0 ∉ t := fun h => htext (List.mem_cons_of_mem _ h)
      by_cases hc : c = ch '%'
      · by_cases hspec : ∃ sp : Spec, sp.text <+: c :: t
        · obtain ⟨sp, rest, hrest⟩ := hspec
          have hzero : 0 ∉ rest := fun h => htext (hrest ▸ List.mem_append_right _ h)
          have hshort : rest.length < (c :: t).length := by
            rw [← hrest, List.length_append, Spec.text, List.length_cons]
            omega
          obtain ⟨ps, bad, hreads, hbad⟩ := ih _ hshort hzero rfl
          refine ⟨.spec sp :: ps, bad, ?_, hbad⟩
          rw [format_cons, List.append_assoc, ← hreads]
          exact hrest.symm
        · exact ⟨[], c :: t, rfl, .inr ⟨congrArg some hc, fun sp h => hspec ⟨sp, h⟩⟩⟩
      · have hzero : c ≠ 0 := fun h => htext (h ▸ List.mem_cons_self)
        obtain ⟨ps, bad, rfl, hbad⟩ := ih _ (Nat.lt_succ_self _) ht rfl
        exact ⟨.char c ⟨hc, hzero⟩ :: ps, bad, rfl, hbad⟩

end Debug

end RpiBld
