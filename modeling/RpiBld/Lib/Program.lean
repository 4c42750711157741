/-
RpiBld/Lib/Program.lean

Programs over a machine state.  A `Program ε ev S α` runs from a state,
emits observable events, and either returns an `α` or halts for good with an
`ε`; the events emitted and the state reached are kept in both cases:

    Run ε ev S α  =  events × (ok α | error ε) × S

Two judgments are used throughout:

* `m.wp Q s` -- however the run of `m` from `s` ends, it satisfies `Q`;
* `m.Returns Q s` -- the run of `m` from `s` returns, and satisfies `Q`.

The second is the total-correctness reading: a program that halts, or whose
loop is cut off, has no `Returns` proof at all.  `Yields m Q` and `Gives m Q` are
the two on results alone, and `Emits P m` is the safety judgment on events alone.
-/
import Mathlib.Logic.Basic
import Mathlib.Data.List.Basic

namespace Traced

/-- One run: the events emitted, how it ended, and the state it left. -/
structure Run (ε ev S α : Type) where
  events : List ev
  result : Except ε α
  state : S

/-- A program over states `S` that emits `ev`s and may halt with an `ε`. -/
def Program (ε ev S α : Type) : Type := S → Run ε ev S α

namespace Program

variable {ε ev S α β : Type}

/-- Sequencing: the second program runs where the first one returned. -/
def andThen (m : Program ε ev S α) (f : α → Program ε ev S β) : Program ε ev S β := fun s =>
  match m s with
  | ⟨t, .ok a, s'⟩ =>
    let run := f a s'
    ⟨t ++ run.events, run.result, run.state⟩
  | ⟨t, .error e, s'⟩ => ⟨t, .error e, s'⟩

instance : Monad (Program ε ev S) where
  pure a := fun s => ⟨[], .ok a, s⟩
  bind := andThen

/-- Emit one event. -/
def emit (e : ev) : Program ε ev S Unit := fun s => ⟨[e], .ok (), s⟩

/-- Stop for good. -/
def halt (e : ε) : Program ε ev S α := fun s => ⟨[], .error e, s⟩

/-- Observe the state. -/
def view (f : S → α) : Program ε ev S α := fun s => ⟨[], .ok (f s), s⟩

/-- Change the state and return a value computed from the old one. -/
def change (f : S → α × S) : Program ε ev S α := fun s => ⟨[], .ok (f s).1, (f s).2⟩

/-- A computation that does not touch the state. -/
def ofExcept (r : Except ε α) : Program ε ev S α := fun s => ⟨[], r, s⟩

/-! ### Running the primitives -/

section Run

variable {m : Program ε ev S α} {f : α → Program ε ev S β} {s s' : S} {t : List ev}

@[simp] theorem pure_run (a : α) (s : S) :
    (pure a : Program ε ev S α) s = ⟨[], .ok a, s⟩ := rfl

@[simp] theorem emit_run (e : ev) (s : S) :
    (emit e : Program ε ev S Unit) s = ⟨[e], .ok (), s⟩ := rfl

@[simp] theorem halt_run (e : ε) (s : S) :
    (halt e : Program ε ev S α) s = ⟨[], .error e, s⟩ := rfl

@[simp] theorem view_run (g : S → α) (s : S) :
    (view g : Program ε ev S α) s = ⟨[], .ok (g s), s⟩ := rfl

@[simp] theorem change_run (g : S → α × S) (s : S) :
    (change g : Program ε ev S α) s = ⟨[], .ok (g s).1, (g s).2⟩ := rfl

/-- Where the first program returns, the second one takes over. -/
theorem bind_of_ok {a : α} (h : m s = ⟨t, .ok a, s'⟩) :
    (m >>= f) s = ⟨t ++ (f a s').events, (f a s').result, (f a s').state⟩ := by
  show andThen m f s = _
  simp only [andThen, h]

/-- Where the first program halts, the second one never runs. -/
theorem bind_of_error {e : ε} (h : m s = ⟨t, .error e, s'⟩) :
    (m >>= f) s = ⟨t, .error e, s'⟩ := by
  show andThen m f s = _
  simp only [andThen, h]

/-- Nothing is seen of a look at the state. -/
theorem view_bind_run (g : S → α) (f : α → Program ε ev S β) (s : S) :
    (view g >>= f) s = f (g s) s := bind_of_ok rfl

theorem change_bind_run (g : S → α × S) (f : α → Program ε ev S β) (s : S) :
    (change g >>= f) s = f (g s).1 (g s).2 := bind_of_ok rfl

/-- Sequencing is associative, and `pure` is its unit. -/
instance : LawfulMonad (Program ε ev S) := by
  refine LawfulMonad.mk' _ ?_ ?_ ?_
  · intro α m
    funext s
    rcases hm : m s with ⟨t, r, s'⟩
    cases r with
    | ok a =>
      refine (bind_of_ok hm).trans ?_
      exact congrArg (Run.mk · _ _) (List.append_nil t)
    | error e => exact bind_of_error hm
  · intro α β a f
    funext s
    exact bind_of_ok rfl
  · intro α β γ m f g
    funext s
    rcases hm : m s with ⟨t, r, s'⟩
    cases r with
    | error e => rw [bind_of_error hm, bind_of_error (bind_of_error hm)]
    | ok a =>
      rcases hf : f a s' with ⟨t', r', s''⟩
      have hmf : (m >>= f) s = ⟨t ++ t', r', s''⟩ := by rw [bind_of_ok hm, hf]
      rw [bind_of_ok hm]
      cases r' with
      | error e => rw [bind_of_error hmf, bind_of_error hf]
      | ok b => rw [bind_of_ok hmf, bind_of_ok hf, List.append_assoc]

end Run

/-! ### Every way a run can end -/

/-- `m.wp Q s`: the run of `m` from `s` satisfies `Q`, however it ends. -/
def wp (m : Program ε ev S α) (Q : List ev → Except ε α → S → Prop) (s : S) : Prop :=
  Q (m s).events (m s).result (m s).state

section Wp

variable {m : Program ε ev S α} {f : α → Program ε ev S β} {s : S}
variable {P Q : List ev → Except ε α → S → Prop} {R : List ev → Except ε β → S → Prop}

theorem wp_mono (h : m.wp P s) (hPQ : ∀ t r s', P t r s' → Q t r s') : m.wp Q s :=
  hPQ _ _ _ h

theorem wp_and (hP : m.wp P s) (hQ : m.wp Q s) :
    m.wp (fun t r s' => P t r s' ∧ Q t r s') s :=
  ⟨hP, hQ⟩

@[simp] theorem wp_pure (a : α) : (pure a : Program ε ev S α).wp Q s ↔ Q [] (.ok a) s := Iff.rfl

@[simp] theorem wp_emit {Q : List ev → Except ε Unit → S → Prop} (e : ev) :
    (emit e : Program ε ev S Unit).wp Q s ↔ Q [e] (.ok ()) s := Iff.rfl

@[simp] theorem wp_halt (e : ε) : (halt e : Program ε ev S α).wp Q s ↔ Q [] (.error e) s := Iff.rfl

@[simp] theorem wp_view (g : S → α) :
    (view g : Program ε ev S α).wp Q s ↔ Q [] (.ok (g s)) s := Iff.rfl

@[simp] theorem wp_change (g : S → α × S) :
    (change g : Program ε ev S α).wp Q s ↔ Q [] (.ok (g s).1) (g s).2 := Iff.rfl

/-- The sequencing rule: prove the first program's postcondition, then the second
program from every state it may return in. -/
theorem wp_bind (h : m.wp P s)
    (hok : ∀ t a s', P t (.ok a) s' → (f a).wp (fun t' r => R (t ++ t') r) s')
    (herr : ∀ t e s', P t (.error e) s' → R t (.error e) s') :
    (m >>= f).wp R s := by
  unfold wp at h ⊢
  rcases hm : m s with ⟨t, r, s'⟩
  rw [hm] at h
  cases r with
  | ok a => rw [bind_of_ok hm]; exact hok t a s' h
  | error e => rw [bind_of_error hm]; exact herr t e s' h

theorem wp_ite {c : Prop} [Decidable c] {m' : Program ε ev S α}
    (ht : c → m.wp Q s) (hf : ¬ c → m'.wp Q s) :
    (if c then m else m').wp Q s := by
  by_cases hc : c
  · rw [if_pos hc]; exact ht hc
  · rw [if_neg hc]; exact hf hc

end Wp

/-! ### Runs that return -/

/-- `m.Returns Q s`: the run of `m` from `s` returns a value, and `Q` holds of it. -/
def Returns (m : Program ε ev S α) (Q : List ev → α → S → Prop) (s : S) : Prop :=
  ∃ t a s', m s = ⟨t, .ok a, s'⟩ ∧ Q t a s'

section Returns

variable {m : Program ε ev S α} {f : α → Program ε ev S β} {s : S}
variable {P Q : List ev → α → S → Prop} {R : List ev → β → S → Prop}

theorem Returns.mono (h : m.Returns P s) (hPQ : ∀ t a s', P t a s' → Q t a s') :
    m.Returns Q s := by
  obtain ⟨t, a, s', hrun, hP⟩ := h
  exact ⟨t, a, s', hrun, hPQ t a s' hP⟩

theorem Returns.pure {a : α} (h : Q [] a s) : (Pure.pure a : Program ε ev S α).Returns Q s :=
  ⟨[], a, s, rfl, h⟩

theorem Returns.emit {Q : List ev → Unit → S → Prop} {e : ev} (h : Q [e] () s) :
    (Program.emit e : Program ε ev S Unit).Returns Q s :=
  ⟨[e], (), s, rfl, h⟩

theorem Returns.view {g : S → α} (h : Q [] (g s) s) :
    (Program.view g : Program ε ev S α).Returns Q s :=
  ⟨[], g s, s, rfl, h⟩

theorem Returns.change {g : S → α × S} (h : Q [] (g s).1 (g s).2) :
    (Program.change g : Program ε ev S α).Returns Q s :=
  ⟨[], (g s).1, (g s).2, rfl, h⟩

theorem Returns.ofExcept {r : Except ε α} {a : α} (hr : r = .ok a) (h : Q [] a s) :
    (Program.ofExcept r : Program ε ev S α).Returns Q s :=
  ⟨[], a, s, by rw [hr]; rfl, h⟩

theorem Returns.bind (h : m.Returns P s)
    (hf : ∀ t a s', P t a s' → (f a).Returns (fun t' b => R (t ++ t') b) s') :
    (m >>= f).Returns R s := by
  obtain ⟨t, a, s', hrun, hP⟩ := h
  obtain ⟨t', b, s'', hrun', hR⟩ := hf t a s' hP
  refine ⟨t ++ t', b, s'', ?_, hR⟩
  rw [bind_of_ok hrun, hrun']

/-- After a program that is known to return, what is returned is up to the second one. -/
theorem returns_bind_iff {t : List ev} {a : α} {s' : S} {T : β → S → Prop}
    (h : m s = ⟨t, .ok a, s'⟩) :
    (m >>= f).Returns (fun _ => T) s ↔ (f a).Returns (fun _ => T) s' := by
  constructor
  · rintro ⟨t₁, b, s₁, hrun, hT⟩
    rw [bind_of_ok h] at hrun
    injection hrun with _ hresult hstate
    exact ⟨(f a s').events, b, s₁, by rw [← hresult, ← hstate], hT⟩
  · rintro ⟨t₁, b, s₁, hrun, hT⟩
    exact ⟨t ++ t₁, b, s₁, by rw [bind_of_ok h, hrun], hT⟩

/-- A run that returns satisfies whatever every run satisfies. -/
theorem Returns.and_wp {T : List ev → Except ε α → S → Prop}
    (h : m.Returns P s) (hT : m.wp T s) :
    m.Returns (fun t a s' => P t a s' ∧ T t (.ok a) s') s := by
  obtain ⟨t, a, s', hrun, hP⟩ := h
  refine ⟨t, a, s', hrun, hP, ?_⟩
  have hT' := hT
  rw [wp, hrun] at hT'
  exact hT'

end Returns

/-! ### What is returned -/

/-- Whatever a run of `m` returns, from any state, satisfies `Q`. -/
def Yields (m : Program ε ev S α) (Q : α → Prop) : Prop :=
  ∀ s a, (m s).result = .ok a → Q a

section Yields

variable {m : Program ε ev S α} {f : α → Program ε ev S β} {P Q : α → Prop} {R : β → Prop}

theorem Yields.mono (h : Yields m P) (hPQ : ∀ a, P a → Q a) : Yields m Q :=
  fun s a ha => hPQ a (h s a ha)

theorem Yields.true (m : Program ε ev S α) : Yields m fun _ => True := fun _ _ _ => trivial

theorem Yields.pure {a : α} (h : Q a) : Yields (Pure.pure a : Program ε ev S α) Q := by
  rintro s _ ⟨⟩
  exact h

theorem Yields.halt (e : ε) : Yields (Program.halt e : Program ε ev S α) Q := by
  rintro s _ ⟨⟩

theorem Yields.bind (h : Yields m P) (hf : ∀ a, P a → Yields (f a) R) : Yields (m >>= f) R := by
  intro s b hb
  rcases hm : m s with ⟨t, r, s'⟩
  cases r with
  | ok a =>
    have ha : P a := h s a (by rw [hm])
    rw [bind_of_ok hm] at hb
    exact hf a ha s' b hb
  | error e =>
    rw [bind_of_error hm] at hb
    cases hb

theorem Yields.ite {c : Prop} [Decidable c] {m' : Program ε ev S α}
    (ht : c → Yields m Q) (hf : ¬ c → Yields m' Q) : Yields (if c then m else m') Q := by
  by_cases hc : c
  · rw [if_pos hc]; exact ht hc
  · rw [if_neg hc]; exact hf hc

end Yields

/-! ### What every run returns -/

/-- From any state a run of `m` returns, and `Q` holds of what it returns. -/
def Gives (m : Program ε ev S α) (Q : α → Prop) : Prop := ∀ s, m.Returns (fun _ a _ => Q a) s

section Gives

variable {m : Program ε ev S α} {f : α → Program ε ev S β} {P Q : α → Prop} {R : β → Prop}

theorem Gives.yields (h : Gives m Q) : Yields m Q := by
  intro s a ha
  obtain ⟨t, a', s', hrun, hQ⟩ := h s
  rw [hrun] at ha
  cases ha
  exact hQ

theorem Gives.mono (h : Gives m P) (hPQ : ∀ a, P a → Q a) : Gives m Q :=
  fun s => (h s).mono fun _ a _ => hPQ a

theorem Gives.pure {a : α} (h : Q a) : Gives (Pure.pure a : Program ε ev S α) Q :=
  fun _ => Returns.pure h

theorem Gives.change {g : S → α × S} (h : ∀ s, Q (g s).1) :
    Gives (Program.change g : Program ε ev S α) Q :=
  fun s => Returns.change (h s)

theorem Gives.bind (h : Gives m P) (hf : ∀ a, P a → Gives (f a) R) : Gives (m >>= f) R :=
  fun s => (h s).bind fun _ a s' ha => hf a ha s'

theorem Gives.ite {c : Prop} [Decidable c] {m' : Program ε ev S α}
    (ht : c → Gives m Q) (hf : ¬ c → Gives m' Q) : Gives (if c then m else m') Q := by
  by_cases hc : c
  · rw [if_pos hc]; exact ht hc
  · rw [if_neg hc]; exact hf hc

end Gives

/-! ### Safety of the emitted events -/

/-- Every event a run of `m` emits, from any state, satisfies `P`. -/
def Emits (P : ev → Prop) (m : Program ε ev S α) : Prop :=
  ∀ s, ∀ e ∈ (m s).events, P e

section Emits

variable {P Q : ev → Prop} {m : Program ε ev S α} {f : α → Program ε ev S β}

theorem Emits.mono (h : Emits P m) (hPQ : ∀ e, P e → Q e) : Emits Q m :=
  fun s e he => hPQ e (h s e he)

theorem Emits.pure (a : α) : Emits P (Pure.pure a : Program ε ev S α) := by
  intro s e he
  simp at he

theorem Emits.emit {e : ev} (h : P e) : Emits P (Program.emit e : Program ε ev S Unit) := by
  intro s e' he
  simp only [emit_run, List.mem_singleton] at he
  exact he ▸ h

theorem Emits.halt (e : ε) : Emits P (Program.halt e : Program ε ev S α) := by
  intro s e' he
  simp at he

theorem Emits.view (g : S → α) : Emits P (Program.view g : Program ε ev S α) := by
  intro s e he
  simp at he

theorem Emits.change (g : S → α × S) : Emits P (Program.change g : Program ε ev S α) := by
  intro s e he
  simp at he

theorem Emits.bind (hm : Emits P m) (hf : ∀ a, Emits P (f a)) : Emits P (m >>= f) := by
  intro s e he
  rcases hr : m s with ⟨t, r, s'⟩
  have ht : ∀ e ∈ t, P e := by
    intro e he
    exact hm s e (by rw [hr]; exact he)
  cases r with
  | ok a =>
    rw [bind_of_ok hr] at he
    rcases List.mem_append.mp he with h | h
    · exact ht e h
    · exact hf a s' e h
  | error x =>
    rw [bind_of_error hr] at he
    exact ht e he

theorem Emits.ite {c : Prop} [Decidable c] {m' : Program ε ev S α}
    (ht : Emits P m) (hf : Emits P m') : Emits P (if c then m else m') := by
  by_cases hc : c
  · rw [if_pos hc]; exact ht
  · rw [if_neg hc]; exact hf

theorem Emits.wp (h : Emits P m) (s : S) : m.wp (fun t _ _ => ∀ e ∈ t, P e) s := h s

end Emits

end Program

end Traced
