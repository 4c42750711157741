/-
RpiBld/Interrupted.lean

Runs with interrupts.

Between any two instructions there may be an interrupt, and there may be any number
of them.  Code that does not look at what an interrupt changes, which is the stack of
IRQ mode and what the C function of the handler writes, cannot tell: every run has a
counterpart without interrupts.

Main result:
* `interrupts_unseen` -- the counterpart ends with the same registers and memory.
-/
import RpiBld.Interrupts
import RpiBld.Lib.Unseen

namespace RpiBld

open Traced Arm

/-- Code that does not run in IRQ mode never looks at these registers. -/
theorem hiddenFrom_exceptionCells {m : Mode} (hm : m ≠ .irq) : HiddenFrom exceptionCells m where
  cell n := by
    have hlink : m.linkBank ≠ .irq := by
      cases m <;> first | exact absurd rfl hm | decide
    unfold Mode.cell
    split_ifs <;> simp [exceptionCells, hlink]
  spsr := by simp [exceptionCells, hm]
  pc := by decide
  cpsr := by decide
  elrHyp := by decide
  spsrHyp := by decide
  scr := by decide
  hsctlr := by decide
  hvbar := by decide

/-- An interrupt, from where it is taken to where the interrupted code goes on: the memory that
it uses is `unseen`. -/
inductive Serviced (externs : Externs) (unseen : Word → Prop) (s : Core) : Core → Prop
  | intro {m : Mode} {s₀ s₁ s₂ s₃ s₄ : Core} (interruptible : Interruptible externs m s)
      (takes : s.takeIrq = some s₀) (calls : StateTransition.Reaches step s₀ s₁)
      (handler : InHandler externs s s₁) (returns : Returned s₁ s₂)
      (stack : ∀ x, Region (frameAddr s) 24 x → unseen x)
      (writes : ∀ x, ¬ unseen x → s₂.mem x = s₁.mem x) (pops : step s₂ = some s₃)
      (resumes : step s₃ = some s₄) : Serviced externs unseen s s₄

/-- What the core does: the next instruction of code that does not look at `unseen`, or an
interrupt before it. -/
inductive CoreMoves (externs : Externs) (unseen : Word → Prop) (s : Core) : Core → Prop
  | step {m : Mode} {s' : Core} (mode : modeOf (s.cells .cpsr) = some m) (notIrq : m ≠ .irq)
      (blind : s.Blind unseen m) (steps : Arm.step s = some s') : CoreMoves externs unseen s s'
  | irq {s' : Core} (serviced : Serviced externs unseen s s') : CoreMoves externs unseen s s'

section Runs

variable {externs : Externs} {unseen : Word → Prop} {s s' t : Core}

/-- An interrupt changes nothing that is seen. -/
theorem Serviced.like (h : Serviced externs unseen s s') : Like exceptionCells unseen s s' := by
  obtain ⟨hinterruptible, -, -, h₁, h₂, hstack, hwrites, hpop, hsubs⟩ := h
  obtain ⟨s₃, s₄, hpop', hsubs', hresumed⟩ := hinterruptible.resumes h₁ h₂
  obtain rfl := Option.some.inj (hpop.symm.trans hpop')
  obtain rfl := Option.some.inj (hsubs.symm.trans hsubs')
  refine ⟨hresumed.cells, ?_⟩
  intro x hx
  rw [hresumed.mem, hwrites x hx]
  exact h₁.mem x fun hframe => hx (hstack x hframe)

/-- What the core does, a core does that is alike and not interrupted. -/
theorem like_of_coreMoves (h : CoreMoves externs unseen s s')
    (hlike : Like exceptionCells unseen s t) :
    ∃ t', StateTransition.Reaches step t t' ∧ Like exceptionCells unseen s' t' := by
  cases h with
  | step mode notIrq blind steps =>
    have hrel := step_like hlike mode (hiddenFrom_exceptionCells notIrq) blind
    rw [steps] at hrel
    generalize ht : step t = r at hrel
    cases hrel with
    | some hlike' => exact ⟨_, .single ht, hlike'⟩
  | irq serviced => exact ⟨t, .refl, serviced.like.symm.trans hlike⟩

/-- **Interrupts are not seen.** -/
theorem interrupts_unseen (h : Relation.ReflTransGen (CoreMoves externs unseen) s s') :
    ∃ t, StateTransition.Reaches step s t ∧ Like exceptionCells unseen t s' := by
  induction h with
  | refl => exact ⟨s, .refl, Like.refl⟩
  | tail _ hmove ih =>
    obtain ⟨t, hreach, hlike⟩ := ih
    obtain ⟨t', hreach', hlike'⟩ := like_of_coreMoves hmove hlike.symm
    exact ⟨t', hreach.trans hreach', hlike'.symm⟩

end Runs

/-! ### A run with an interrupt in it -/

/-- The stack frame of the interrupt. -/
def idleFrame : Word → Prop := Region (frameAddr idleCore) 24

/-- The core is interrupted before the first instruction, and executes it then. -/
theorem coreMoves_idle : ∃ s₁ s₂, Serviced smallExterns idleFrame idleCore s₁ ∧
    CoreMoves smallExterns idleFrame s₁ s₂ := by
  have hlinked : Linked smallExterns.icIrqExceptionHandler 4 := ⟨by decide, by decide, by decide⟩
  obtain ⟨s₀, s₁, htake, hreach, h₁⟩ := interruptible_idle.reachesC hlinked
  obtain ⟨hbx, hreturned⟩ := h₁.returns_idle
  obtain ⟨s₃, s₄, hpop, hsubs, -⟩ := interruptible_idle.resumes h₁ hreturned
  have hserviced : Serviced smallExterns idleFrame idleCore s₄ :=
    .intro interruptible_idle htake hreach h₁ hreturned (fun _ hx => hx) (fun _ _ => rfl) hpop hsubs
  have hlike := hserviced.like
  have hpc : s₄.cells .pc = smallExterns.cEntry := hlike.cells _ (by decide)
  have hcpsr : s₄.cells .cpsr = 0x53 := hlike.cells _ (by decide)
  have hseen : ∀ x, Region (s₄.cells .pc) 4 x → ¬ idleFrame x := by
    intro x hx hframe
    have hbase : (frameAddr idleCore).toNat = irqStackStartAddr.toNat - 24 := by decide
    have hstack : irqStackStartAddr.toNat = 0x1f00000 := by decide
    rw [hpc, region_iff (by decide)] at hx
    rw [idleFrame, region_iff (by rw [hbase, hstack]; decide), hbase, hstack] at hframe
    have hentry : smallExterns.cEntry.toNat = 0x80a0 := rfl
    omega
  have hnop : load32 s₄.mem (s₄.cells .pc) = encode .nop := by
    obtain ⟨-, hword, -⟩ := (placed_append.mp idleRam_placed.2).2
    rw [hlike.load32 hseen, hpc]
    exact hword
  have hin : s₄.In .svc := ⟨by rw [hcpsr]; decide, by rw [hcpsr]; decide⟩
  refine ⟨s₄, s₄.next, hserviced, .step hin.mode (by decide) ⟨hseen, ?_⟩ ?_⟩
  · intro i hi
    rw [hnop, decode_encode] at hi
    obtain rfl := Option.some.inj hi
    exact fun _ hx => hx.elim
  · rw [step_of_load32 hnop, hin.execute]
    rfl

/-- The run of the core that is interrupted, and the one without the interrupt. -/
theorem interrupts_unseen_idle :
    ∃ s t, StateTransition.Reaches step idleCore t ∧ Like exceptionCells idleFrame t s := by
  obtain ⟨s₁, s₂, hirq, hmove⟩ := coreMoves_idle
  obtain ⟨t, hreach, hlike⟩ := interrupts_unseen (.tail (.single (.irq hirq)) hmove)
  exact ⟨s₂, t, hreach, hlike⟩

end RpiBld
