/-
RpiBld/Guarding.lean

The guard's triples for the accesses of the driver, whatever the monitor: an access
to a register emits its event, and a wait reads its condition until it is false.
-/
import RpiBld.Machine
import RpiBld.Lib.Guard

namespace RpiBld

open Traced

variable {σ M α : Type} {observe : M → Event → M} {allowed : M → Event → Prop}
variable {trusted P : M → Prop}

theorem guard_log (fmt : String) (args : List LogArg)
    (h : ∀ c, (trusted c → P c) → allowed c (.log fmt args) ∧
      (trusted (observe c (.log fmt args)) → P (observe c (.log fmt args)))) :
    Trusting observe allowed trusted P (serialLog fmt args : Drv σ Unit) fun _ => P := by
  apply Trusting.one
  intro c w hc
  exact ⟨_, _, _, rfl, h c hc⟩

variable [Device σ]

theorem guard_get {r : Reg} {Q : Word → M → Prop}
    (h : ∀ c v, (trusted c → P c) → allowed c (.get r v) ∧
      (trusted (observe c (.get r v)) → Q v (observe c (.get r v)))) :
    Trusting observe allowed trusted P (registerGet r : Drv σ Word) Q := by
  apply Trusting.one
  intro c w hc
  exact ⟨_, _, _, rfl, h c _ hc⟩

theorem guard_set {r : Reg} {v : Word} {Q : Unit → M → Prop}
    (h : ∀ c, (trusted c → P c) → allowed c (.set r v) ∧
      (trusted (observe c (.set r v)) → Q () (observe c (.set r v)))) :
    Trusting observe allowed trusted P (registerSet r v : Drv σ Unit) Q := by
  apply Trusting.one
  intro c w hc
  exact ⟨_, _, _, rfl, h c hc⟩

/-- A wait, which ends where its condition is found to be false. -/
theorem guard_wait {Q : M → Prop} {condition : Drv σ Bool}
    (h : Trusting observe allowed trusted P condition
      fun b c => (b = true → P c) ∧ (b = false → Q c)) (timeoutMs : Int) :
    Trusting observe allowed trusted P (whileCondTimeoutInfinite condition timeoutMs)
      fun _ => Q := by
  have hloop : ∀ ts n, Trusting observe allowed trusted P (whileCondLoop condition ts n)
      fun _ => Q := by
    intro ts n
    induction n with
    | zero => exact Trusting.halt _
    | succ n ih =>
      apply h.bind
      intro b
      apply Trusting.ite
      · intro hb
        refine (Trusting.change _).weaken (fun c hc => hc.1 hb) (fun _ _ hc => hc) |>.bind ?_
        intro done
        exact Trusting.ite (fun _ => Trusting.halt _) fun _ => ih
      · intro hb
        exact Trusting.pure fun c hc => hc.2 (Bool.not_eq_true b |>.mp hb)
  apply (Trusting.change _).bind
  intro ts
  apply (Trusting.view _).bind
  intro polls
  exact hloop ts polls

end RpiBld
