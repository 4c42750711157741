/-
RpiBld/Lib/Guard.lean

Events that are allowed where they happen.  What is allowed depends on what came
before, as far as a monitor remembers it:

    Obeys observe allowed c t   iff   allowed (observe .. (observe c e₀) .. eᵢ₋₁) eᵢ for each i.

`Guarded observe allowed c m Q` is the triple: every run of `m` that starts with
the monitor in `c` obeys, and leaves the monitor in `Q`.  A program whose events
keep an invariant of the monitor, under which they are allowed, is guarded by that
invariant (`Guarded.of_emits`); for the others the triple is composed along `>>=`.

`Trusting observe allowed trusted P m Q` is the triple with a precondition, for an
environment that the monitor can find out to be broken: `P` and `Q` are about the
monitors that still trust it.
-/
import RpiBld.Lib.Monitor

namespace Traced

variable {ε ev S M α β : Type}

/-- Every event of the trace is allowed where it happens. -/
def Obeys (observe : M → ev → M) (allowed : M → ev → Prop) : M → List ev → Prop
  | _, [] => True
  | c, e :: t => allowed c e ∧ Obeys observe allowed (observe c e) t

section Obeys

variable {observe : M → ev → M} {allowed : M → ev → Prop} {c : M} {t t' : List ev}

theorem obeys_append : Obeys observe allowed c (t ++ t') ↔
    Obeys observe allowed c t ∧ Obeys observe allowed (t.foldl observe c) t' := by
  induction t generalizing c with
  | nil =>
    show _ ↔ True ∧ _
    rw [true_and]
    rfl
  | cons e t ih =>
    show _ ∧ Obeys observe allowed (observe c e) (t ++ t') ↔ (_ ∧ _) ∧ _
    rw [ih, and_assoc]
    rfl

/-- An event of a trace that obeys, with what the monitor remembers of those before it. -/
theorem Obeys.at {e : ev} (h : Obeys observe allowed c (t ++ e :: t')) :
    allowed (t.foldl observe c) e :=
  (obeys_append.mp h).2.1

/-- Where each event keeps an invariant and is allowed under it, the trace obeys and keeps the
invariant. -/
theorem obeys_of_invariant {I : M → Prop} {P : ev → Prop}
    (hstep : ∀ c e, I c → P e → allowed c e ∧ I (observe c e)) (hc : I c) (ht : ∀ e ∈ t, P e) :
    Obeys observe allowed c t ∧ I (t.foldl observe c) := by
  induction t generalizing c with
  | nil => exact ⟨trivial, hc⟩
  | cons e t ih =>
    obtain ⟨hallowed, hI⟩ := hstep c e hc (ht e List.mem_cons_self)
    obtain ⟨hobeys, hI'⟩ := ih hI fun e' he' => ht e' (List.mem_cons_of_mem _ he')
    exact ⟨⟨hallowed, hobeys⟩, hI'⟩

end Obeys

/-- Every run of `m` obeys, and takes the monitor from `c` to a state in `Q`. -/
def Guarded (observe : M → ev → M) (allowed : M → ev → Prop) (c : M) (m : Program ε ev S α)
    (Q : M → Except ε α → Prop) : Prop :=
  ∀ s, m.wp (fun t r _ => Obeys observe allowed c t ∧ Q (t.foldl observe c) r) s

namespace Guarded

variable {observe : M → ev → M} {allowed : M → ev → Prop} {c : M}
variable {m : Program ε ev S α} {f : α → Program ε ev S β}
variable {P Q : M → Except ε α → Prop} {R : M → Except ε β → Prop}

theorem mono (h : Guarded observe allowed c m P) (hPQ : ∀ c' r, P c' r → Q c' r) :
    Guarded observe allowed c m Q :=
  fun s => ⟨(h s).1, hPQ _ _ (h s).2⟩

theorem pure {a : α} (h : Q c (.ok a)) :
    Guarded observe allowed c (Pure.pure a : Program ε ev S α) Q :=
  fun _ => ⟨trivial, h⟩

theorem halt {e : ε} (h : Q c (.error e)) :
    Guarded observe allowed c (Program.halt e : Program ε ev S α) Q :=
  fun _ => ⟨trivial, h⟩

/-- The sequencing rule. -/
theorem bind (h : Guarded observe allowed c m P)
    (hok : ∀ c' a, P c' (.ok a) → Guarded observe allowed c' (f a) R)
    (herr : ∀ c' e, P c' (.error e) → R c' (.error e)) :
    Guarded observe allowed c (m >>= f) R := by
  intro s
  apply Program.wp_bind (h s)
  · rintro t a s' ⟨hobeys, ha⟩
    apply Program.wp_mono (hok _ a ha s')
    rintro t' r _ ⟨hobeys', hr⟩
    rw [List.foldl_append]
    exact ⟨obeys_append.mpr ⟨hobeys, hobeys'⟩, hr⟩
  · rintro t e _ ⟨hobeys, he⟩
    exact ⟨hobeys, herr _ e he⟩

theorem ite {p : Prop} [Decidable p] {m' : Program ε ev S α}
    (ht : p → Guarded observe allowed c m Q) (hf : ¬ p → Guarded observe allowed c m' Q) :
    Guarded observe allowed c (if p then m else m') Q := by
  by_cases hp : p
  · rw [if_pos hp]; exact ht hp
  · rw [if_neg hp]; exact hf hp

theorem view_bind {g : S → α} (h : ∀ a, Guarded observe allowed c (f a) R) :
    Guarded observe allowed c (Program.view g >>= f) R := by
  intro s
  rw [Program.wp, Program.view_bind_run]
  exact h _ s

theorem change_bind {g : S → α × S} (h : ∀ a, Guarded observe allowed c (f a) R) :
    Guarded observe allowed c (Program.change g >>= f) R := by
  intro s
  rw [Program.wp, Program.change_bind_run]
  exact h _ _

theorem emit_bind {e : ev} {f : Unit → Program ε ev S β} (he : allowed c e)
    (h : Guarded observe allowed (observe c e) (f ()) R) :
    Guarded observe allowed c (Program.emit e >>= f) R := by
  intro s
  obtain ⟨hobeys, hR⟩ := h s
  exact ⟨⟨he, hobeys⟩, hR⟩

/-- A program whose events keep an invariant, under which they are allowed. -/
theorem of_emits {I : M → Prop} {P : ev → Prop} (hm : Program.Emits P m)
    (hstep : ∀ c e, I c → P e → allowed c e ∧ I (observe c e)) (hc : I c) :
    Guarded observe allowed c m fun c' _ => I c' :=
  fun s => obeys_of_invariant hstep hc (hm s)

end Guarded

/-! ### Trusted environments -/

/-- Every run of `m` obeys, and takes the monitor from `P` to `Q` as long as the environment can be
trusted. -/
def Trusting (observe : M → ev → M) (allowed : M → ev → Prop) (trusted P : M → Prop)
    (m : Program ε ev S α) (Q : α → M → Prop) : Prop :=
  ∀ c, (trusted c → P c) → Guarded observe allowed c m fun c' r =>
    ∀ a, r = .ok a → trusted c' → Q a c'

namespace Trusting

variable {observe : M → ev → M} {allowed : M → ev → Prop} {trusted P P' : M → Prop}
variable {m m' : Program ε ev S α} {f : α → Program ε ev S β} {Q Q' : α → M → Prop}
variable {R : β → M → Prop}

theorem weaken (h : Trusting observe allowed trusted P' m Q') (hP : ∀ c, P c → P' c)
    (hQ : ∀ a c, Q' a c → Q a c) : Trusting observe allowed trusted P m Q := by
  intro c hc
  apply (h c fun ht => hP c (hc ht)).mono
  intro c' r hr a ha ht
  exact hQ a c' (hr a ha ht)

theorem bind (h : Trusting observe allowed trusted P m Q)
    (hf : ∀ a, Trusting observe allowed trusted (Q a) (f a) R) :
    Trusting observe allowed trusted P (m >>= f) R := by
  intro c hc
  apply (h c hc).bind
  · intro c' a ha
    exact hf a c' (ha a rfl)
  · intro c' e _ b hb
    cases hb

theorem pure {a : α} (h : ∀ c, P c → Q a c) :
    Trusting observe allowed trusted P (Pure.pure a : Program ε ev S α) Q := by
  intro c hc
  apply Guarded.pure
  intro b hb ht
  obtain rfl := Except.ok.inj hb
  exact h c (hc ht)

theorem halt (e : ε) : Trusting observe allowed trusted P (Program.halt e : Program ε ev S α) Q := by
  intro c _
  apply Guarded.halt
  intro a ha
  cases ha

theorem ite {p : Prop} [Decidable p] (hp : p → Trusting observe allowed trusted P m Q)
    (hn : ¬ p → Trusting observe allowed trusted P m' Q) :
    Trusting observe allowed trusted P (if p then m else m') Q := by
  intro c hc
  exact Guarded.ite (fun h => hp h c hc) fun h => hn h c hc

theorem view (g : S → α) :
    Trusting observe allowed trusted P (Program.view g : Program ε ev S α) fun _ => P :=
  fun _ hc _ => ⟨trivial, fun _ _ ht => hc ht⟩

theorem change (g : S → α × S) :
    Trusting observe allowed trusted P (Program.change g : Program ε ev S α) fun _ => P :=
  fun _ hc _ => ⟨trivial, fun _ _ ht => hc ht⟩

/-- A change that always returns something of a kind. -/
theorem change_of {g : S → α × S} {φ : α → Prop} (h : ∀ s, φ (g s).1) :
    Trusting observe allowed trusted P (Program.change g : Program ε ev S α)
      fun a c => φ a ∧ P c := by
  intro c hc s
  refine ⟨trivial, ?_⟩
  intro a ha ht
  obtain rfl := Except.ok.inj ha
  exact ⟨h s, hc ht⟩

/-- A program that emits one event and returns. -/
theorem one (h : ∀ c s, (trusted c → P c) → ∃ e a s', m s = ⟨[e], .ok a, s'⟩ ∧ allowed c e ∧
      (trusted (observe c e) → Q a (observe c e))) :
    Trusting observe allowed trusted P m Q := by
  intro c hc s
  obtain ⟨e, a, s', hrun, hallowed, hQ⟩ := h c s hc
  rw [Program.wp, hrun]
  refine ⟨⟨hallowed, trivial⟩, ?_⟩
  intro b hb ht
  obtain rfl := Except.ok.inj hb
  exact hQ ht

/-- A program whose events keep the precondition, under which they are allowed. -/
theorem of_emits {P' : ev → Prop} (hm : Program.Emits P' m)
    (hstep : ∀ c e, (trusted c → P c) → P' e →
      allowed c e ∧ (trusted (observe c e) → P (observe c e))) :
    Trusting observe allowed trusted P m fun _ => P := by
  intro c hc
  apply (Guarded.of_emits hm hstep hc).mono
  intro c' r hc' a _ ht
  exact hc' ht

/-- An environment that broke its word stays broken, and everything is allowed from then on. -/
structure Reliance (observe : M → ev → M) (allowed : M → ev → Prop) (trusted : M → Prop) :
    Prop where
  broken : ∀ c e, ¬ trusted c → ¬ trusted (observe c e)
  free : ∀ c e, ¬ trusted c → allowed c e

theorem Reliance.guarded (h : Reliance observe allowed trusted) {c : M} (hc : ¬ trusted c)
    (m : Program ε ev S α) : Guarded observe allowed c m fun c' _ => ¬ trusted c' :=
  Guarded.of_emits (P := fun _ => True) (fun _ _ _ => trivial)
    (fun c e hc _ => ⟨h.free c e hc, h.broken c e hc⟩) hc

/-- What is known to exist is known as long as the environment is trusted. -/
theorem Reliance.exists_pre {X : Sort*} {P : X → M → Prop}
    (h : Reliance observe allowed trusted)
    (hm : ∀ x, Trusting observe allowed trusted (P x) m Q) :
    Trusting observe allowed trusted (fun c => ∃ x, P x c) m Q := by
  intro c hc
  by_cases ht : trusted c
  · obtain ⟨x, hx⟩ := hc ht
    exact hm x c fun _ => hx
  · apply (h.guarded ht m).mono
    intro c' r hc' a _ ht'
    exact absurd ht' hc'

end Trusting

end Traced
