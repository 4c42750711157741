/-
RpiBld/Board/Running.lean

Running the driver on the board.

`Leads m Q w` says that `m` returns from `w`, with `Q`.  Between two functions of the
driver the board is at rest (`Stands`), with the host and the card in a state that is
known; there is one rule for each kind of register access.  What the driver waits for
comes: a flag (`sdWaitForInterrupt_leads`), or what a poll loop looks for
(`whileCond_leads`).
-/
import RpiBld.Board.Machine
import RpiBld.Sd.ReadCommand

namespace RpiBld

open Traced Controller

variable {B : Bench} {α β : Type}

/-! ### Runs -/

/-- The machine with the board in another state. -/
def World.on (w : World (Board B)) (b : Board B) : World (Board B) := { w with dev := b }

section On

variable (w : World (Board B)) (b b' : Board B)

@[simp] theorem World.dev_on : (w.on b).dev = b := rfl
@[simp] theorem World.ram_on : (w.on b).ram = w.ram := rfl
@[simp] theorem World.polls_on : (w.on b).polls = w.polls := rfl
@[simp] theorem World.frame_on : (w.on b).frame = w.frame := rfl
@[simp] theorem World.on_on : (w.on b).on b' = w.on b' := rfl

end On

/-- From `w` the run returns, with `Q`. -/
def Leads (m : Drv (Board B) α) (Q : α → World (Board B) → Prop) (w : World (Board B)) : Prop :=
  m.Returns (fun _ => Q) w

namespace Leads

variable {m : Drv (Board B) α} {f : α → Drv (Board B) β} {w w' : World (Board B)}
variable {P Q : α → World (Board B) → Prop} {R : β → World (Board B) → Prop}

theorem mono (h : Leads m P w) (hPQ : ∀ a w', P a w' → Q a w') : Leads m Q w :=
  Program.Returns.mono h fun _ a w' => hPQ a w'

theorem pure {a : α} (h : Q a w) : Leads (Pure.pure a : Drv (Board B) α) Q w :=
  Program.Returns.pure h

theorem bind (h : Leads m P w) (hf : ∀ a w', P a w' → Leads (f a) R w') :
    Leads (m >>= f) R w := by
  obtain ⟨t, a, w', hrun, hP⟩ := h
  obtain ⟨t', b, w'', hrun', hR⟩ := hf a w' hP
  refine ⟨t ++ t', b, w'', ?_, hR⟩
  rw [Program.bind_of_ok hrun, hrun']

/-- A step with a known outcome. -/
theorem step_bind {t : List Event} {a : α} (hm : m w = ⟨t, .ok a, w'⟩) (h : Leads (f a) R w') :
    Leads (m >>= f) R w :=
  bind (P := fun b w'' => b = a ∧ w'' = w') ⟨t, a, w', hm, rfl, rfl⟩
    (by rintro _ _ ⟨rfl, rfl⟩; exact h)

theorem get_bind {r : Reg} {f : Word → Drv (Board B) β}
    (h : Leads (f (Device.get r w.dev).1) R (w.on (Device.get r w.dev).2)) :
    Leads (registerGet r >>= f) R w := step_bind rfl h

theorem set_bind {r : Reg} {v : Word} {f : Unit → Drv (Board B) β}
    (h : Leads (f ()) R (w.on (Device.set r v w.dev))) :
    Leads (registerSet r v >>= f) R w := step_bind rfl h

/-- A register write at the end. -/
theorem set {r : Reg} {v : Word} {T : World (Board B) → Prop}
    (h : T (w.on (Device.set r v w.dev))) :
    Leads (registerSet r v) (fun _ w' => T w') w :=
  ⟨_, (), _, rfl, h⟩

theorem log_bind {fmt : String} {args : List LogArg} {f : Unit → Drv (Board B) β}
    (h : Leads (f ()) R w) : Leads (serialLog fmt args >>= f) R w := step_bind rfl h

theorem view_bind {g : World (Board B) → α} (h : Leads (f (g w)) R w) :
    Leads (Program.view g >>= f) R w := step_bind rfl h

theorem change_bind {g : World (Board B) → α × World (Board B)}
    (h : Leads (f (g w).1) R (g w).2) : Leads (Program.change g >>= f) R w := step_bind rfl h

theorem timerStart_bind {ms : Int} {f : Word → Drv (Board B) β} (h : Leads (f 0) R w) :
    Leads (timerPollStart ms >>= f) R w := step_bind rfl h

theorem timerDone_bind {ts : Word} {f : Bool → Drv (Board B) β}
    (h : Leads (f (!w.dev.pending)) R w) : Leads (timerPollDone ts >>= f) R w := step_bind rfl h

theorem usleep_bind {us : Int} {f : Unit → Drv (Board B) β} (h : Leads (f ()) R w) :
    Leads (usleep us >>= f) R w := step_bind rfl h

end Leads

/-- From `w` the run ends with an error. -/
def EndsWith (m : Drv (Board B) α) (e : Halt) (w : World (Board B)) : Prop :=
  ∃ t w', m w = ⟨t, .error e, w'⟩

namespace EndsWith

variable {m : Drv (Board B) α} {f : α → Drv (Board B) β} {e : Halt} {w : World (Board B)}
variable {P : α → World (Board B) → Prop}

theorem halt : EndsWith (Program.halt e : Drv (Board B) α) e w := ⟨[], w, rfl⟩

theorem bind (h : EndsWith m e w) : EndsWith (m >>= f) e w := by
  obtain ⟨t, w', hrun⟩ := h
  exact ⟨t, w', Program.bind_of_error hrun⟩

/-- What follows ends with the error. -/
theorem after (h : Leads m P w) (hf : ∀ a w', P a w' → EndsWith (f a) e w') :
    EndsWith (m >>= f) e w := by
  obtain ⟨t, a, w', hrun, hP⟩ := h
  obtain ⟨t', w'', hrun'⟩ := hf a w' hP
  refine ⟨t ++ t', w'', ?_⟩
  rw [Program.bind_of_ok hrun, hrun']

theorem log_bind {fmt : String} {args : List LogArg} {f : Unit → Drv (Board B) β}
    (h : EndsWith (f ()) e w) : EndsWith (serialLog fmt args >>= f) e w :=
  after (P := fun _ w' => w' = w) ⟨_, (), w, rfl, rfl⟩ (by rintro _ _ rfl; exact h)

end EndsWith

/-! ### Boards at rest -/

/-- What the driver counts on: the hardware raises at most one flag between two accesses, it does
not pause for as long as a poll timer, the card starts before one runs out, and the local variables
are on the stack. -/
structure Fit (w : World (Board B)) : Prop where
  steady : B.setup.SteadyFrom 0
  prompt : B.setup.Prompt w.polls
  starts : B.card.powerUp < w.polls
  onStack : OnStack w

namespace Board

variable {b : Board B}

/-- Only the controller may have something to do. -/
structure Settled (b : Board B) : Prop where
  host : b.host.settle = b.host
  mail : b.mail.settle = b.mail

theorem Settled.tick (h : b.Settled) : b.tick = b.withCtl b.ctl.tick := by
  unfold Board.tick
  split_ifs
  · rfl
  · rw [h.host, h.mail]
    rfl

theorem Settled.withCtl (h : b.Settled) (c : Controller B.setup) : (b.withCtl c).Settled :=
  ⟨h.host, h.mail⟩

/-- Reading the flags of a board at rest. -/
theorem Settled.get_interrupt (h : b.Settled) : Device.get (.sd .interrupt) b =
    (b.ctl.tick.irpt &&& b.host.irptMask, b.withCtl b.ctl.tick) := by
  show (b.tick.ctl.irpt &&& b.tick.host.irptMask, b.tick) = _
  rw [h.tick]
  rfl

/-- Writing to the controller of a board at rest. -/
theorem Settled.set_interrupt (h : b.Settled) (v : Word) :
    Device.set (.sd .interrupt) v b = b.withCtl (Device.set (.sd .interrupt) v b.ctl) := by
  show b.tick.withCtl (b.tick.ctl.ack v) = _
  rw [h.tick]
  rfl

/-- A controller that has something to do keeps the poll timers from running out. -/
theorem pending_of_raise {f : Word} {p : Phase} (h : b.ctl.phase.raise = some (f, p)) :
    b.pending = true := by
  rw [pending, h]
  simp

end Board

/-- The board is at rest, with its host and card in these states. -/
structure Stands (host : HostPort) (card : CardRegs) (w : World (Board B)) : Prop where
  fit : Fit w
  idle : Idle w.dev.ctl
  settled : host.settle = host
  host : w.dev.host = host
  card : w.dev.card = card
  register : w.dev.register = false
  mail : w.dev.mail = ⟨false, none, none⟩

/-! ### Waiting for interrupts -/

section Waiting

variable {w : World (Board B)} {mask : Word} {next : Phase}

/-- The flag is raised next, or it is there and nothing follows it. -/
def Coming (mask : Word) (next : Phase) (c : Controller B.setup) : Prop :=
  c.irpt = 0 ∧ c.phase.raise = some (mask, next) ∨
    c.irpt = mask ∧ c.phase = next ∧ next.raise = none

theorem Controller.Due.coming {c : Controller B.setup} (h : Due mask next c) :
    Coming mask next c := by
  obtain ⟨hquiet, hflag | ⟨hirpt, hphase⟩⟩ := h
  · exact .inl hflag
  · exact .inr ⟨hirpt, hphase, hquiet⟩

/-- The wait for a flag sees that flag alone, and clears it. -/
theorem pollInterrupt_leads (ts : Word) (n : Nat) (hset : w.dev.Settled)
    (hsteady : B.setup.SteadyFrom 0) (hcoming : Coming mask next w.dev.ctl)
    (hmask : mask &&& w.dev.host.irptMask = mask) (hne : mask ≠ 0)
    (hprompt : ¬ ∀ i < n, B.setup.raises (w.dev.ctl.now + i) = 0) :
    Leads (pollInterrupt ts n)
      (fun v w' => v = mask ∧ ∃ k, w' = w.on (w.dev.withCtl
        (Device.set (.sd .interrupt) mask (w.dev.ctl.into k mask next)))) w := by
  induction n generalizing w with
  | zero => exact absurd (fun i hi => absurd hi (Nat.not_lt_zero i)) hprompt
  | succ n ih =>
    have hzero : (0 : Word) &&& w.dev.host.irptMask = 0 := BitVec.zero_and
    apply Leads.get_bind
    rw [hset.get_interrupt]
    dsimp only
    by_cases htick : w.dev.ctl.tick = w.dev.ctl.into (w.dev.ctl.now + 1) mask next
    · rw [htick, irpt_into, hmask, if_pos hne]
      apply Leads.set_bind
      apply Leads.pure
      refine ⟨rfl, w.dev.ctl.now + 1, ?_⟩
      rw [World.dev_on, (hset.withCtl _).set_interrupt]
      rfl
    · -- nothing was raised: one more round
      rcases hcoming with ⟨hirpt, hraise⟩ | ⟨hirpt, hphase, hquiet⟩
      swap
      · rw [tick_quiet (by rw [hphase]; exact hquiet), hirpt, hphase] at htick
        exact absurd rfl htick
      have hz : B.setup.raises w.dev.ctl.now = 0 := by
        by_contra hz
        have hone : B.setup.raises w.dev.ctl.now = 1 := by
          have := hsteady w.dev.ctl.now (Nat.zero_le _)
          omega
        rw [tick_one hraise hone, hirpt] at htick
        exact htick (congrArg (w.dev.ctl.into _ · next) BitVec.zero_or)
      have hpending : (w.dev.withCtl
          (w.dev.ctl.into (w.dev.ctl.now + 1) 0 w.dev.ctl.phase)).pending = true :=
        Board.pending_of_raise hraise
      rw [tick_zero hz, hirpt, irpt_into, if_neg (not_not.mpr hzero)]
      apply Leads.usleep_bind
      apply Leads.timerDone_bind
      rw [World.dev_on, hpending]
      exact ih (hset.withCtl _) (.inl ⟨rfl, hraise⟩) hmask fun h => hprompt (pause_succ hz h)

theorem sdWaitForInterrupt_leads (hfit : Fit w) (hset : w.dev.Settled)
    (hcoming : Coming mask next w.dev.ctl) (hmask : mask &&& w.dev.host.irptMask = mask)
    (hflag : FlagOk mask mask) :
    Leads (sdWaitForInterrupt mask)
      (fun e w' => e = .none ∧ ∃ k, w' = w.on (w.dev.withCtl
        (Device.set (.sd .interrupt) mask (w.dev.ctl.into k mask next)))) w := by
  have hany : Leads sdWaitForAnyInterrupt
      (fun v w' => v = mask ∧ ∃ k, w' = w.on (w.dev.withCtl
        (Device.set (.sd .interrupt) mask (w.dev.ctl.into k mask next)))) w := by
    apply Leads.timerStart_bind
    apply Leads.view_bind
    exact pollInterrupt_leads 0 w.polls hset hfit.steady hcoming hmask hflag.ne_zero
      fun h => Setup.not_prompt h hfit.prompt
  apply hany.bind
  rintro _ w' ⟨rfl, hw'⟩
  rw [if_neg hflag.ne_zero, hflag.1, if_neg Bool.false_ne_true, if_neg hflag.2]
  exact Leads.pure ⟨rfl, hw'⟩

/-- Where nothing follows the flag, the controller then waits for the driver. -/
theorem sdWaitForInterrupt_quiet (hfit : Fit w) (hset : w.dev.Settled)
    (hcoming : Coming mask next w.dev.ctl) (hmask : mask &&& w.dev.host.irptMask = mask)
    (hflag : FlagOk mask mask) (hquiet : next.raise = none) :
    Leads (sdWaitForInterrupt mask)
      (fun e w' => e = .none ∧ ∃ k, w' = w.on (w.dev.withCtl (w.dev.ctl.after k mask 0 next)))
      w := by
  apply (sdWaitForInterrupt_leads hfit hset hcoming hmask hflag).mono
  rintro e _ ⟨he, k, rfl⟩
  have hack := set_irpt_self (c := w.dev.ctl.into k mask next) hquiet
  rw [irpt_into] at hack
  rw [hack]
  exact ⟨he, k + 1, rfl⟩

end Waiting

/-! ### Poll loops -/

theorem Board.now_tick (b : Board B) : b.tick.ctl.now = b.ctl.now + 1 := by
  unfold Board.tick
  split_ifs <;> rfl

theorem Board.resp0_tick (b : Board B) : b.tick.resp0 = b.resp0 := by
  unfold Board.tick
  split_ifs <;> rfl

theorem Fit.on {w : World (Board B)} (h : Fit w) (b : Board B) : Fit (w.on b) :=
  ⟨h.steady, h.prompt, h.starts, h.onStack.above, h.onStack.below⟩

/-- A poll loop that reads a register.  While it waits the board is as `W` says, and there is
something left to be done, which is done as soon as the hardware gets to it. -/
theorem whileCond_leads {w : World (Board B)} {r : Reg} (val : Board B → Word)
    (test : Word → Bool) (W Q : Board B → Prop) (ms : Int)
    (hget : ∀ b : Board B, Device.get r b = (val b.tick, b.tick))
    (hstep : ∀ b, W b → test (val b.tick) = true →
      W b.tick ∧ b.tick.pending = true ∧ B.raises b.ctl.now = 0)
    (hdone : ∀ b, W b → test (val b.tick) = false → Q b.tick) (hfit : Fit w) (hw : W w.dev) :
    Leads (whileCondTimeoutInfinite (do let v ← registerGet r; pure (test v)) ms)
      (fun _ w' => ∃ b, w' = w.on b ∧ Q b) w := by
  have hloop : ∀ ts n (w : World (Board B)), W w.dev →
      (¬ ∀ i < n, B.raises (w.dev.ctl.now + i) = 0) →
      Leads (whileCondLoop (do let v ← registerGet r; pure (test v)) ts n)
        (fun _ w' => ∃ b, w' = w.on b ∧ Q b) w := by
    intro ts n
    induction n with
    | zero => exact fun w _ hprompt => absurd (fun i hi => absurd hi (Nat.not_lt_zero i)) hprompt
    | succ n ih =>
      intro w hw hprompt
      have hcond : (do let v ← registerGet r; pure (test v) : Drv (Board B) Bool) w =
          ⟨[.get r (val w.dev.tick)], .ok (test (val w.dev.tick)), w.on w.dev.tick⟩ := by
        have hreg : (registerGet r : Drv (Board B) Word) w =
            ⟨[.get r (val w.dev.tick)], .ok (val w.dev.tick), w.on w.dev.tick⟩ := by
          unfold registerGet
          rw [hget]
          rfl
        rw [Program.bind_of_ok hreg]
        rfl
      apply Leads.step_bind hcond
      cases htest : test (val w.dev.tick) with
      | false => exact Leads.pure ⟨_, rfl, hdone _ hw htest⟩
      | true =>
        obtain ⟨hw', hpending, hz⟩ := hstep _ hw htest
        apply Leads.timerDone_bind
        rw [World.dev_on, hpending]
        refine ih (w.on w.dev.tick) hw' fun h => hprompt (pause_succ (S := B.setup) hz ?_)
        intro i hi
        have hi' := h i hi
        rwa [World.dev_on, Board.now_tick] at hi'
  apply Leads.timerStart_bind
  apply Leads.view_bind
  exact hloop 0 w.polls w hw fun h => Setup.not_prompt (S := B.setup) h hfit.prompt

/-! ### Registers of a board at rest -/

section Registers

variable {host h₀ : HostPort} {card : CardRegs} {w : World (Board B)}
variable {f : Word → Drv (Board B) β} {g : Unit → Drv (Board B) β}
variable {R : β → World (Board B) → Prop}

theorem Leads.resp0_bind (hf : Leads (f w.dev.resp0) R (w.on w.dev.tick)) :
    Leads (registerGet (.sd .resp0) >>= f) R w := by
  apply Leads.get_bind
  show Leads (f w.dev.tick.resp0) R (w.on w.dev.tick)
  rw [Board.resp0_tick]
  exact hf

namespace Stands

theorem dev_settled (h : Stands host card w) : w.dev.Settled :=
  ⟨by rw [h.host]; exact h.settled, by rw [h.mail]; rfl⟩

/-- The controller may have got on, or been spoken to. -/
theorem withCtl (h : Stands host card w) {c : Controller B.setup} (hc : Idle c) :
    Stands host card (w.on (w.dev.withCtl c)) :=
  ⟨h.fit.on _, hc, h.settled, h.host, h.card, h.register, h.mail⟩

theorem tick_eq (h : Stands host card w) :
    w.dev.tick = w.dev.withCtl (w.dev.ctl.into (w.dev.ctl.now + 1) 0 .idle) := by
  rw [h.dev_settled.tick, h.idle.tick]

theorem tick (h : Stands host card w) : Stands host card (w.on w.dev.tick) := by
  rw [h.tick_eq]
  exact h.withCtl ⟨rfl, rfl⟩

theorem blksizecnt_tick (h : Stands host card w) :
    w.dev.tick.ctl.blksizecnt = w.dev.ctl.blksizecnt := by
  rw [h.tick_eq]
  rfl

/-- The host with other registers. -/
theorem hosted (h : Stands host card w) (hs : h₀.settle = h₀) :
    Stands h₀ card (w.on { w.dev.tick with host := h₀ }) :=
  ⟨h.fit.on _, h.tick.idle, hs, rfl, h.tick.card, h.tick.register, h.tick.mail⟩

theorem control0_bind (h : Stands host card w)
    (hf : ∀ w', Stands host card w' → Leads (f host.control0) R w') :
    Leads (registerGet (.sd .control0) >>= f) R w := by
  apply Leads.get_bind
  show Leads (f w.dev.tick.host.control0) R (w.on w.dev.tick)
  rw [show w.dev.tick.host = host from h.tick.host]
  exact hf _ h.tick

theorem control1_bind (h : Stands host card w)
    (hf : ∀ w', Stands host card w' → Leads (f host.control1) R w') :
    Leads (registerGet (.sd .control1) >>= f) R w := by
  apply Leads.get_bind
  show Leads (f w.dev.tick.host.control1) R (w.on w.dev.tick)
  rw [show w.dev.tick.host = host from h.tick.host]
  exact hf _ h.tick

theorem irptMask_bind (h : Stands host card w)
    (hf : ∀ w', Stands host card w' → Leads (f host.irptMask) R w') :
    Leads (registerGet (.sd .irptMask) >>= f) R w := by
  apply Leads.get_bind
  show Leads (f w.dev.tick.host.irptMask) R (w.on w.dev.tick)
  rw [show w.dev.tick.host = host from h.tick.host]
  exact hf _ h.tick

theorem setControl0_leads (h : Stands host card w) (v : Word) :
    Leads (registerSet (.sd .control0) v)
      (fun _ w' => Stands { host with control0 := v } card w') w := by
  apply Leads.set
  show Stands _ card (w.on { w.dev.tick with host := { w.dev.tick.host with control0 := v } })
  rw [show w.dev.tick.host = host from h.tick.host]
  apply h.hosted
  have hs := congrArg HostPort.control1 h.settled
  exact congrArg (fun c => (⟨v, c, host.irptMask⟩ : HostPort)) hs

theorem setIrptMask_leads (h : Stands host card w) (v : Word) :
    Leads (registerSet (.sd .irptMask) v)
      (fun _ w' => Stands { host with irptMask := v } card w') w := by
  apply Leads.set
  show Stands _ card (w.on { w.dev.tick with host := { w.dev.tick.host with irptMask := v } })
  rw [show w.dev.tick.host = host from h.tick.host]
  apply h.hosted
  have hs := congrArg HostPort.control1 h.settled
  exact congrArg (fun c => (⟨host.control0, c, v⟩ : HostPort)) hs

theorem enableControl0_leads (h : Stands host card w) (mask : Word) :
    Leads (registerEnableBits (.sd .control0) mask)
      (fun _ w' => Stands { host with control0 := host.control0 ||| mask } card w') w :=
  h.control0_bind fun _ h' => h'.setControl0_leads _

theorem enableIrptMask_leads (h : Stands host card w) (mask : Word) :
    Leads (registerEnableBits (.sd .irptMask) mask)
      (fun _ w' => Stands { host with irptMask := host.irptMask ||| mask } card w') w :=
  h.irptMask_bind fun _ h' => h'.setIrptMask_leads _

theorem disableIrptMask_leads (h : Stands host card w) (mask : Word) :
    Leads (registerDisableBits (.sd .irptMask) mask)
      (fun _ w' => Stands { host with irptMask := host.irptMask &&& ~~~mask } card w') w :=
  h.irptMask_bind fun _ h' => h'.setIrptMask_leads _

end Stands

/-- The board is at rest but for its host, which is in the state `h₀` and on its way to another. -/
structure Turns (h₀ host : HostPort) (card : CardRegs) (w : World (Board B)) : Prop where
  fit : Fit w
  idle : Idle w.dev.ctl
  settles : h₀.settle = host
  settled : host.settle = host
  host : w.dev.host = h₀
  card : w.dev.card = card
  register : w.dev.register = false
  mail : w.dev.mail = ⟨false, none, none⟩

/-- Waiting for the host. -/
theorem Turns.wait_leads (h : Turns h₀ host card w) (test : Word → Bool) (ms : Int)
    (hbefore : test h₀.control1 = true) (hafter : test host.control1 = false) :
    Leads (whileCondTimeoutInfinite (do let v ← registerGet (.sd .control1); pure (test v)) ms)
      (fun _ w' => Stands host card w') w := by
  have htick : ∀ b : Board B, Turns h₀ host card (w.on b) →
      (Turns h₀ host card (w.on b.tick) ∧ B.raises b.ctl.now = 0) ∨
        Stands host card (w.on b.tick) := by
    intro b hb
    have hidle : b.ctl.tick = b.ctl.into (b.ctl.now + 1) 0 .idle := hb.idle.tick
    unfold Board.tick
    by_cases hz : B.raises b.ctl.now = 0
    · left
      rw [if_pos hz, hidle]
      exact ⟨⟨h.fit.on _, ⟨rfl, rfl⟩, h.settles, h.settled, hb.host, hb.card, hb.register,
        hb.mail⟩, hz⟩
    · right
      have hhost : b.host.settle = host := by
        rw [← h.settles]
        exact congrArg HostPort.settle hb.host
      have hmail : b.mail.settle = ⟨false, none, none⟩ := congrArg Mailbox.settle hb.mail
      rw [if_neg hz, hidle, hhost, hmail]
      exact ⟨h.fit.on _, ⟨rfl, rfl⟩, h.settled, rfl, hb.card, hb.register, rfl⟩
  have hne : h₀.settle ≠ h₀ := by
    rw [h.settles]
    rintro rfl
    rw [hbefore] at hafter
    exact absurd hafter (by simp)
  have hloop := whileCond_leads (w := w) (r := .sd .control1) (fun b => b.host.control1) test
    (fun b => Turns h₀ host card (w.on b)) (fun b => Stands host card (w.on b)) ms (fun _ => rfl)
    ?_ ?_ h.fit h
  · apply hloop.mono
    rintro _ _ ⟨b, rfl, hb⟩
    exact hb
  · intro b hb htest
    rcases htick b hb with ⟨hb', hz⟩ | hb'
    · refine ⟨hb', ?_, hz⟩
      have hpending : b.tick.host.settle ≠ b.tick.host := by
        rw [show b.tick.host = h₀ from hb'.host]
        exact hne
      rw [Board.pending]
      simp [hpending]
    · rw [show b.tick.host = host from hb'.host, hafter] at htest
      exact absurd htest (by simp)
  · intro b hb htest
    rcases htick b hb with ⟨hb', -⟩ | hb'
    · rw [show b.tick.host = h₀ from hb'.host, hbefore] at htest
      exact absurd htest (by simp)
    · exact hb'

/-- A host that is there. -/
theorem Turns.stands (h : Turns host host card w) : Stands host card w :=
  ⟨h.fit, h.idle, h.settled, h.host, h.card, h.register, h.mail⟩

namespace Stands

variable {h₁ : HostPort} {v : Word}

theorem setControl1_turns (h : Stands host card w) (hv : v &&& control1SwResetHc = 0)
    (hwrite : host.writeControl1 v = h₀) (hsettles : h₀.settle = h₁) (hsettled : h₁.settle = h₁) :
    Leads (registerSet (.sd .control1) v) (fun _ w' => Turns h₀ h₁ card w') w := by
  have hset : Device.set (.sd .control1) v w.dev = { w.dev.tick with host := h₀ } := by
    show w.dev.tick.setControl1 v = _
    rw [Board.setControl1, if_neg (not_not.mpr hv), show w.dev.tick.host = host from h.tick.host,
      hwrite]
  apply Leads.set
  rw [hset]
  exact ⟨h.fit.on _, h.tick.idle, hsettles, hsettled, rfl, h.tick.card, h.tick.register,
    h.tick.mail⟩

theorem enableControl1_turns (h : Stands host card w) (mask : Word)
    (hv : (host.control1 ||| mask) &&& control1SwResetHc = 0)
    (hwrite : host.writeControl1 (host.control1 ||| mask) = h₀) (hsettles : h₀.settle = h₁)
    (hsettled : h₁.settle = h₁) :
    Leads (registerEnableBits (.sd .control1) mask) (fun _ w' => Turns h₀ h₁ card w') w :=
  h.control1_bind fun _ h' => h'.setControl1_turns hv hwrite hsettles hsettled

theorem disableControl1_leads (h : Stands host card w) (mask : Word)
    (hv : (host.control1 &&& ~~~mask) &&& control1SwResetHc = 0)
    (hwrite : host.writeControl1 (host.control1 &&& ~~~mask) = h₁)
    (hsettled : h₁.settle = h₁) :
    Leads (registerDisableBits (.sd .control1) mask) (fun _ w' => Stands h₁ card w') w :=
  h.control1_bind fun _ h' =>
    (h'.setControl1_turns hv hwrite hsettled hsettled).mono fun _ _ => Turns.stands

end Stands

end Registers

end RpiBld
