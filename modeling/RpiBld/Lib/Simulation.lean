/-
RpiBld/Lib/Simulation.lean

Programs run side by side.  `Simulates rel m m'` says that from related states
the runs of `m` and `m'` emit the same events, end the same way and leave
related states; a refinement between two machines is a `Simulates` for each of
their operations.

A relation between programs that returning and sequencing keep is a
`Congruence`.  Simulation is one, and so is safety of the events with the second
program forgotten: what is proved of every congruence, by going through the
functions of a program once, is proved of each of these.
-/
import RpiBld.Lib.Program

namespace Traced

variable {ε ev S T α β : Type}

/-! ### Simulation -/

/-- From related states the two programs show the same, and leave related states. -/
def Simulates (rel : S → T → Prop) (m : Program ε ev S α) (m' : Program ε ev T α) : Prop :=
  ∀ s t, rel s t → (m s).events = (m' t).events ∧ (m s).result = (m' t).result ∧
    rel (m s).state (m' t).state

namespace Simulates

variable {rel : S → T → Prop} {m : Program ε ev S α} {m' : Program ε ev T α}
variable {f : α → Program ε ev S β} {f' : α → Program ε ev T β}

theorem pure (a : α) : Simulates rel (Pure.pure a : Program ε ev S α) (Pure.pure a) :=
  fun _ _ h => ⟨rfl, rfl, h⟩

theorem halt (e : ε) : Simulates rel (Program.halt e : Program ε ev S α) (Program.halt e) :=
  fun _ _ h => ⟨rfl, rfl, h⟩

theorem emit (e : ev) : Simulates rel (Program.emit e : Program ε ev S Unit) (Program.emit e) :=
  fun _ _ h => ⟨rfl, rfl, h⟩

theorem view {g : S → α} {g' : T → α} (h : ∀ s t, rel s t → g s = g' t) :
    Simulates rel (Program.view g : Program ε ev S α) (Program.view g') := by
  intro s t hst
  refine ⟨rfl, ?_, hst⟩
  exact congrArg Except.ok (h s t hst)

theorem change {g : S → α × S} {g' : T → α × T}
    (h : ∀ s t, rel s t → (g s).1 = (g' t).1 ∧ rel (g s).2 (g' t).2) :
    Simulates rel (Program.change g : Program ε ev S α) (Program.change g') := by
  intro s t hst
  obtain ⟨hval, hrel⟩ := h s t hst
  exact ⟨rfl, congrArg Except.ok hval, hrel⟩

/-- A first step after which the states are related more closely, for as long as the rest
lasts. -/
theorem tighten {rel' : S → T → Prop}
    (hm : ∀ s t, rel s t → (m s).events = (m' t).events ∧ (m s).result = (m' t).result ∧
      rel' (m s).state (m' t).state)
    (hf : ∀ a, Simulates rel' (f a) (f' a)) (hrel' : ∀ s t, rel' s t → rel s t) :
    Simulates rel (m >>= f) (m' >>= f') := by
  intro s t hst
  obtain ⟨hev, hres, hrel⟩ := hm s t hst
  rcases hms : m s with ⟨t₁, r, s₁⟩
  rcases hmt : m' t with ⟨t₂, r', s₂⟩
  rw [hms, hmt] at hev hres hrel
  dsimp only at hev hres hrel
  subst hev hres
  cases r with
  | ok a =>
    obtain ⟨hev', hres', hrest⟩ := hf a s₁ s₂ hrel
    rw [Program.bind_of_ok hms, Program.bind_of_ok hmt]
    exact ⟨congrArg (t₁ ++ ·) hev', hres', hrel' _ _ hrest⟩
  | error e =>
    rw [Program.bind_of_error hms, Program.bind_of_error hmt]
    exact ⟨rfl, rfl, hrel' _ _ hrel⟩

theorem bind (hm : Simulates rel m m') (hf : ∀ a, Simulates rel (f a) (f' a)) :
    Simulates rel (m >>= f) (m' >>= f') :=
  tighten hm hf fun _ _ h => h

theorem ite {p : Prop} [Decidable p] {n : Program ε ev S α} {n' : Program ε ev T α}
    (ht : Simulates rel m m') (hf : Simulates rel n n') :
    Simulates rel (if p then m else n) (if p then m' else n') := by
  by_cases hp : p
  · rw [if_pos hp, if_pos hp]; exact ht
  · rw [if_neg hp, if_neg hp]; exact hf

/-- What the second program returns, the first one does. -/
theorem returns (h : Simulates rel m m') {s : S} {t : T} (hst : rel s t)
    {Q : List ev → α → T → Prop} (hm' : m'.Returns Q t) :
    m.Returns (fun ts a s' => ∃ t', rel s' t' ∧ Q ts a t') s := by
  obtain ⟨hev, hres, hrel⟩ := h s t hst
  obtain ⟨ts, a, t', hrun, hQ⟩ := hm'
  rcases hms : m s with ⟨t₁, r, s₁⟩
  rw [hms, hrun] at hev hres hrel
  dsimp only at hev hres hrel
  subst hev hres
  exact ⟨t₁, a, s₁, hms, t', hrel, hQ⟩

end Simulates

/-! ### Relations that sequencing keeps -/

/-- A relation between the programs of two machines, for each type they return. -/
abbrev Related (ε ev S T : Type) : Type 1 :=
  (α : Type) → Program ε ev S α → Program ε ev T α → Prop

/-- Returning and sequencing keep the relation. -/
structure Congruence (R : Related ε ev S T) : Prop where
  pure : ∀ {α : Type} (a : α), R α (Pure.pure a) (Pure.pure a)
  bind : ∀ {α β : Type} {m : Program ε ev S α} {m' : Program ε ev T α}
    {f : α → Program ε ev S β} {f' : α → Program ε ev T β},
    R α m m' → (∀ a, R β (f a) (f' a)) → R β (m >>= f) (m' >>= f')

theorem Congruence.ite {R : Related ε ev S T} {p : Prop} [Decidable p]
    {m n : Program ε ev S α} {m' n' : Program ε ev T α} (ht : R α m m') (hf : R α n n') :
    R α (if p then m else n) (if p then m' else n') := by
  by_cases hp : p
  · rw [if_pos hp, if_pos hp]; exact ht
  · rw [if_neg hp, if_neg hp]; exact hf

/-- Simulation along `rel`. -/
theorem congruence_simulates (rel : S → T → Prop) :
    Congruence (fun _ m m' => Simulates rel m m' : Related ε ev S T) where
  pure a := Simulates.pure a
  bind hm hf := hm.bind hf

/-- Safety of the events of the first program. -/
theorem congruence_emits (P : ev → Prop) :
    Congruence (fun _ m _ => Program.Emits P m : Related ε ev S S) where
  pure a := Program.Emits.pure a
  bind hm hf := hm.bind hf

end Traced
