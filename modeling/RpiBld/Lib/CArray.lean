/-
RpiBld/Lib/CArray.lean

Arrays of C, and output into an array of bounded size.

An array is the list of its cells, a pointer into it is what is left of the
list from there on, and an access outside of it is a fault.  A buffer of which
`n` cells may be used is at every moment

    fill n s out  =  s with the first n cells of out over its beginning,

where `out` is all that was to be written so far, whether it fitted or not:
what is written next extends `out`.
-/
import Mathlib.Data.List.Basic

namespace Traced

/-- Errors with one for an access outside of an array. -/
class Faults (ε : Type) where
  fault : ε

variable {ε α β : Type}

@[simp] theorem ok_bind (a : α) (f : α → Except ε β) : (.ok a >>= f) = f a := rfl

@[simp] theorem error_bind (e : ε) (f : α → Except ε β) : (.error e >>= f) = .error e := rfl

variable [Faults ε]

/-- `a[i]`. -/
def load (a : List α) (i : Nat) : Except ε α :=
  match a[i]? with
  | some x => .ok x
  | none => .error Faults.fault

/-- `a[i] = x`. -/
def store (a : List α) (i : Nat) (x : α) : Except ε (List α) :=
  if i < a.length then .ok (a.set i x) else .error Faults.fault

theorem load_of_getElem? {a : List α} {i : Nat} {x : α} (h : a[i]? = some x) :
    (load a i : Except ε α) = .ok x := by
  rw [load, h]

/-- The cell a pointer points to. -/
theorem load_of_drop {a : List α} {i : Nat} {x : α} {rest : List α} (h : a.drop i = x :: rest) :
    (load a i : Except ε α) = .ok x := by
  apply load_of_getElem?
  rw [← List.head?_drop, h]
  rfl

@[simp] theorem load_append (pre : List α) (x : α) (post : List α) :
    (load (pre ++ x :: post) pre.length : Except ε α) = .ok x :=
  load_of_getElem? (by simp)

@[simp] theorem store_append (pre : List α) (x y : α) (post : List α) :
    (store (pre ++ x :: post) pre.length y : Except ε (List α)) = .ok (pre ++ y :: post) := by
  have hlt : pre.length < (pre ++ x :: post).length := by simp
  rw [store, if_pos hlt, List.set_append_right _ _ (Nat.le_refl _), Nat.sub_self]
  rfl

/-! ### Bounded output -/

/-- The first `n` cells of `out` over the beginning of `s`. -/
def fill (n : Nat) (s out : List α) : List α := out.take n ++ s.drop (out.take n).length

section Fill

variable {n : Nat} {s out : List α}

@[simp] theorem fill_nil : fill n s [] = s := by
  simp [fill]

/-- Only what fits counts. -/
theorem fill_congr {out' : List α} (h : out.take n = out'.take n) :
    fill n s out = fill n s out' := by
  rw [fill, fill, h]

/-- A full buffer stays as it is. -/
theorem fill_append_of_full (h : n ≤ out.length) (more : List α) :
    fill n s (out ++ more) = fill n s out :=
  fill_congr (List.take_append_of_le_length h)

/-- The next cell. -/
theorem store_fill (hn : n ≤ s.length) (hout : out.length < n) (x : α) :
    (store (fill n s out) out.length x : Except ε (List α)) = .ok (fill n s (out ++ [x])) := by
  have hlen : (out ++ [x]).length ≤ n := by simp; omega
  have hdrop : s.drop out.length = s[out.length] :: s.drop (out.length + 1) :=
    List.drop_eq_getElem_cons (by omega)
  rw [fill, fill, List.take_of_length_le (Nat.le_of_lt hout), List.take_of_length_le hlen, hdrop,
    store_append, List.append_assoc, List.length_append]
  rfl

end Fill

end Traced
