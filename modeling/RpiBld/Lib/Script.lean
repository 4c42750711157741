/-
RpiBld/Lib/Script.lean

Conversations that follow a script.  A *conversation* is a list of steps, each
with the label of the request it made and a verdict on how it went; a *script*
is a list of labels.

* `Complete script xs` -- all of the script was carried out, every step went
  well;
* `Partial script xs` -- a beginning of the script was carried out, and only
  the last step may have gone badly: nothing follows a failed step.

The two compose along `++` the way sequencing with an early exit does: what is
partial stays partial when the script goes on, and what is complete can be
followed by anything.
-/
import Mathlib.Data.List.Basic

namespace Traced

variable {α ρ : Type} {label : α → ρ} {ok : α → Prop} {script script' : List ρ} {xs ys : List α}

/-- The whole script was carried out. -/
structure Complete (label : α → ρ) (ok : α → Prop) (script : List ρ) (xs : List α) : Prop where
  labels : xs.map label = script
  ok : ∀ x ∈ xs, ok x

/-- A beginning of the script was carried out, up to the first failure at most. -/
structure Partial (label : α → ρ) (ok : α → Prop) (script : List ρ) (xs : List α) : Prop where
  labels : xs.map label <+: script
  ok : ∀ x ∈ xs.dropLast, ok x

theorem Partial.nil : Partial label ok script [] where
  labels := List.nil_prefix
  ok x h := by simp at h

/-- The first step of a script, however it went. -/
theorem Partial.singleton (x : α) : Partial label ok (label x :: script) [x] where
  labels := List.cons_prefix_cons.mpr ⟨rfl, List.nil_prefix⟩
  ok y h := by simp at h

/-- Only labels of the script occur. -/
theorem Partial.label_mem (h : Partial label ok script xs) {x : α} (hx : x ∈ xs) :
    label x ∈ script :=
  h.labels.subset (List.mem_map_of_mem hx)

/-- Before the last step, only labels before the last one occur. -/
theorem Partial.label_mem_dropLast (h : Partial label ok script xs) {x : α}
    (hx : x ∈ xs.dropLast) : label x ∈ script.dropLast := by
  obtain ⟨rest, hrest⟩ := h.labels
  rcases List.eq_nil_or_concat xs with rfl | ⟨ys, y, rfl⟩
  · simp at hx
  · rw [List.concat_eq_append, List.dropLast_concat] at hx
    rw [← hrest, List.concat_eq_append, List.map_append, List.append_assoc,
      List.dropLast_append_of_ne_nil (by simp)]
    exact List.mem_append_left _ (List.mem_map_of_mem hx)

theorem Complete.nil : Complete label ok [] [] where
  labels := rfl
  ok x h := by simp at h

theorem Complete.singleton {x : α} (h : ok x) : Complete label ok [label x] [x] where
  labels := rfl
  ok y hy := by
    rw [List.mem_singleton.mp hy]
    exact h

theorem Complete.toPartial (h : Complete label ok script xs) : Partial label ok script xs where
  labels := h.labels ▸ List.prefix_rfl
  ok x hx := h.ok x (List.dropLast_subset _ hx)

/-- A script may go on after the conversation broke off. -/
theorem Partial.extend (h : Partial label ok script xs) (script' : List ρ) :
    Partial label ok (script ++ script') xs where
  labels := h.labels.trans (List.prefix_append _ _)
  ok := h.ok

theorem Complete.append (h : Complete label ok script xs) (h' : Complete label ok script' ys) :
    Complete label ok (script ++ script') (xs ++ ys) where
  labels := by rw [List.map_append, h.labels, h'.labels]
  ok x hx := by
    rcases List.mem_append.mp hx with hx | hx
    · exact h.ok x hx
    · exact h'.ok x hx

theorem Complete.followedBy (h : Complete label ok script xs)
    (h' : Partial label ok script' ys) : Partial label ok (script ++ script') (xs ++ ys) where
  labels := by
    rw [List.map_append, h.labels]
    exact (List.prefix_append_right_inj _).mpr h'.labels
  ok x hx := by
    rcases List.eq_nil_or_concat ys with rfl | ⟨ys', y, rfl⟩
    · rw [List.append_nil] at hx
      exact h.ok x (List.dropLast_subset _ hx)
    · rw [List.concat_eq_append, ← List.append_assoc, List.dropLast_concat] at hx
      rcases List.mem_append.mp hx with hx | hx
      · exact h.ok x hx
      · apply h'.ok x
        rwa [List.concat_eq_append, List.dropLast_concat]

/-- A script carried out over and over. -/
theorem Complete.replicate_succ {n : Nat}
    (h : Complete label ok script xs)
    (h' : Complete label ok (List.replicate n script).flatten ys) :
    Complete label ok (List.replicate (n + 1) script).flatten (xs ++ ys) := by
  rw [List.replicate_succ, List.flatten_cons]
  exact h.append h'

end Traced
