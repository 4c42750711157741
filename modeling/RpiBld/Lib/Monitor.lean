/-
RpiBld/Lib/Monitor.lean

Watching a program's events with a monitor.  A monitor is a state `M` and a
function `observe : M → ev → M`; along a run it is folded over the events.

`Watched observe c m Q` is a Hoare triple about the monitor: every run of `m`
that starts with the monitor in `c` leaves it in a state that satisfies `Q`.
Nothing is assumed of the machine state, so what is proved holds for whatever
the environment of the program does.
-/
import RpiBld.Lib.Program

namespace Traced

variable {ε ev S M α β : Type} {observe : M → ev → M} {c : M}

/-- Every run of `m` takes the monitor from `c` to a state in `Q`. -/
def Watched (observe : M → ev → M) (c : M) (m : Program ε ev S α) (Q : M → Except ε α → Prop) :
    Prop :=
  ∀ s, m.wp (fun t r _ => Q (t.foldl observe c) r) s

namespace Watched

variable {m : Program ε ev S α} {f : α → Program ε ev S β}
variable {P Q : M → Except ε α → Prop} {R : M → Except ε β → Prop}

theorem mono (h : Watched observe c m P) (hPQ : ∀ c' r, P c' r → Q c' r) :
    Watched observe c m Q :=
  fun s => hPQ _ _ (h s)

theorem pure {a : α} (h : Q c (.ok a)) : Watched observe c (Pure.pure a : Program ε ev S α) Q :=
  fun _ => h

theorem halt {e : ε} (h : Q c (.error e)) :
    Watched observe c (Program.halt e : Program ε ev S α) Q :=
  fun _ => h

theorem view {g : S → α} (h : ∀ a, Q c (.ok a)) :
    Watched observe c (Program.view g : Program ε ev S α) Q :=
  fun _ => h _

theorem change {g : S → α × S} (h : ∀ a, Q c (.ok a)) :
    Watched observe c (Program.change g : Program ε ev S α) Q :=
  fun _ => h _

theorem emit {Q : M → Except ε Unit → Prop} {e : ev} (h : Q (observe c e) (.ok ())) :
    Watched observe c (Program.emit e : Program ε ev S Unit) Q :=
  fun _ => h

/-- The sequencing rule: the second program starts with the monitor the first one left. -/
theorem bind (h : Watched observe c m P)
    (hok : ∀ c' a, P c' (.ok a) → Watched observe c' (f a) R)
    (herr : ∀ c' e, P c' (.error e) → R c' (.error e)) :
    Watched observe c (m >>= f) R := by
  intro s
  apply Program.wp_bind (h s)
  · intro t a s' ha
    apply Program.wp_mono (hok _ a ha s')
    intro t' r _ hr
    rwa [List.foldl_append]
  · intro t e _ he
    exact herr _ e he

theorem ite {p : Prop} [Decidable p] {m' : Program ε ev S α}
    (ht : p → Watched observe c m Q) (hf : ¬ p → Watched observe c m' Q) :
    Watched observe c (if p then m else m') Q := by
  by_cases hp : p
  · rw [if_pos hp]; exact ht hp
  · rw [if_neg hp]; exact hf hp

/-- The sequencing rule after a program that always returns. -/
theorem bind_ok {P : M → α → Prop}
    (h : Watched observe c m fun c' r => ∃ a, r = .ok a ∧ P c' a)
    (hf : ∀ c' a, P c' a → Watched observe c' (f a) R) : Watched observe c (m >>= f) R := by
  apply bind h
  · rintro c' a ⟨a', ha, hP⟩
    cases ha
    exact hf c' a hP
  · rintro c' e ⟨a', ha, -⟩
    cases ha

/-- A look at the state may have shown anything. -/
theorem view_bind {g : S → α} (h : ∀ a, Watched observe c (f a) R) :
    Watched observe c (Program.view g >>= f) R :=
  bind_ok (P := fun c' _ => c' = c) (fun _ => ⟨_, rfl, rfl⟩) fun _ a hc => hc ▸ h a

/-- A change of the state may have returned anything. -/
theorem change_bind {g : S → α × S} (h : ∀ a, Watched observe c (f a) R) :
    Watched observe c (Program.change g >>= f) R :=
  bind_ok (P := fun c' _ => c' = c) (fun _ => ⟨_, rfl, rfl⟩) fun _ a hc => hc ▸ h a

theorem emit_bind {e : ev} {f : Unit → Program ε ev S β}
    (h : Watched observe (observe c e) (f ()) R) : Watched observe c (Program.emit e >>= f) R :=
  bind_ok (P := fun c' _ => c' = observe c e) (fun _ => ⟨_, rfl, rfl⟩) fun _ _ hc => hc ▸ h

/-- A program whose events the monitor ignores leaves it alone. -/
theorem of_emits {P : ev → Prop} (h : Program.Emits P m) (hP : ∀ c e, P e → observe c e = c) :
    Watched observe c m (fun c' _ => c' = c) := by
  intro s
  have key : ∀ t : List ev, (∀ e ∈ t, P e) → t.foldl observe c = c := by
    intro t ht
    induction t with
    | nil => rfl
    | cons e t ih =>
      rw [List.foldl_cons, hP c e (ht e List.mem_cons_self)]
      exact ih fun e' he' => ht e' (List.mem_cons_of_mem _ he')
  exact key _ (h s)

end Watched

end Traced
