/-
RpiBld/Gpio.lean

Selecting the operations of the GPIO pins (`gpio.c`).

A GPFSEL register holds the operations of ten pins, three bits each.
`gpio_pin_select_op` does not look at what the register holds: it writes the
operation of one pin, and with it zeros for the nine others, which make inputs
of them.  So a register holds the last call that was made for one of its pins
and nothing of the calls before it, nor of what it held at the start.

Main results:
* `selectOps_returns` -- what a sequence of calls leaves in the registers;
* `extractLsb'_onlyFunction` -- what a pin reads out of a register so written;
* `selectOps_selectsEach_iff` -- the sequences of calls that give each pin its
  own last operation and leave the other pins alone.
-/
import RpiBld.Machine
import Mathlib.Data.List.Nodup

namespace RpiBld

open Traced

/-! ### Pins and operations -/

/-- `enum gpio_op`. -/
inductive GpioOp
  | input | output | altFn0 | altFn1 | altFn2 | altFn3 | altFn4 | altFn5
  deriving DecidableEq, Repr

/-- `PINS_PER_GPFSEL`. -/
def pinsPerGpfsel : Nat := 10

/-- `GPIO_OP_BITS`. -/
abbrev gpioOpBits : Nat := 3

/-- The bits of an operation. -/
def GpioOp.code : GpioOp → BitVec gpioOpBits
  | .input => 0b000
  | .output => 0b001
  | .altFn0 => 0b100
  | .altFn1 => 0b101
  | .altFn2 => 0b110
  | .altFn3 => 0b111
  | .altFn4 => 0b011
  | .altFn5 => 0b010

/-- `GPIO_PIN_TXD1`. -/
def gpioPinTxd1 : Nat := 14

/-- The array of `gpio_pin_select_op`. -/
def gpfselRegs : List GpioRegister := [.gpfsel0, .gpfsel1, .gpfsel2, .gpfsel3, .gpfsel4, .gpfsel5]

/-- Where in its register a pin's operation starts. -/
def gpfselShift (pin : Nat) : Nat := pin % pinsPerGpfsel * gpioOpBits

/-- `gpio_pin_select_op`; a pin behind the last register is looked up past the end of the
array. -/
def gpioPinSelectOp {σ : Type} [Device σ] (pin : Nat) (op : GpioOp) : Drv σ Unit :=
  match gpfselRegs[pin / pinsPerGpfsel]? with
  | some gpfsel => registerSet (.gpio gpfsel) (op.code.zeroExtend 32 <<< gpfselShift pin)
  | none => Program.halt .fault

/-- The pins of the chip. -/
abbrev Pin := Fin 58

theorem Pin.gpfsel_lt (pin : Pin) : pin / pinsPerGpfsel < gpfselRegs.length := by
  show pin.val / 10 < 6
  omega

/-- The register that a pin is in. -/
def Pin.gpfsel (pin : Pin) : GpioRegister := gpfselRegs.get ⟨pin / pinsPerGpfsel, pin.gpfsel_lt⟩

/-! ### Registers that keep what is written to them -/

/-- The registers of a device that changes none of them by itself. -/
structure RegisterFile where
  value : Reg → Word

instance : Device RegisterFile where
  get r d := (d.value r, d)
  set r v d := ⟨Function.update d.value r v⟩
  timerStart _ d := (0, d)
  timerDone _ d := (false, d)
  sleep _ d := d
  videocore ram d := (ram, d)

/-- The operation that the registers select for a pin. -/
def RegisterFile.function (d : RegisterFile) (pin : Pin) : BitVec gpioOpBits :=
  (d.value (.gpio pin.gpfsel)).extractLsb' (gpfselShift pin) gpioOpBits

/-! ### Sequences of calls -/

/-- Calls of `gpio_pin_select_op`, in order. -/
abbrev Calls := List (Pin × GpioOp)

def selectOps {σ : Type} [Device σ] : Calls → Drv σ Unit
  | [] => pure ()
  | (pin, op) :: calls => do
    gpioPinSelectOp pin op
    selectOps calls

/-- The last call for a pin that satisfies `p`. -/
def Calls.last (calls : Calls) (p : Pin → Prop) [DecidablePred p] : Option (Pin × GpioOp) :=
  calls.reverse.find? fun call => p call.1

/-- The operation a pin is to have after the calls. -/
def Calls.wanted (calls : Calls) (d : RegisterFile) (pin : Pin) : BitVec gpioOpBits :=
  match calls.last (· = pin) with
  | some (_, op) => op.code
  | none => d.function pin

/-- Each pin has the operation of the last call for it afterwards, and a pin without a call
the one it had. -/
def SelectsEach (calls : Calls) (w : World RegisterFile) : Prop :=
  (selectOps calls).Returns (fun _ _ w' => ∀ pin, w'.dev.function pin = calls.wanted w.dev pin) w

/-! ### What the calls leave in the registers -/

/-- A register after a call for one of its pins: that pin's operation, and nothing else. -/
def onlyFunction (call : Pin × GpioOp) : Word :=
  call.2.code.zeroExtend 32 <<< gpfselShift call.1

theorem gpioPinSelectOp_run (pin : Pin) (op : GpioOp) (w : World RegisterFile) :
    gpioPinSelectOp pin op w = ⟨[.set (.gpio pin.gpfsel) (onlyFunction (pin, op))], .ok (),
      { w with dev :=
        ⟨Function.update w.dev.value (.gpio pin.gpfsel) (onlyFunction (pin, op))⟩ }⟩ := by
  have hreg : gpfselRegs[pin.val / pinsPerGpfsel]? = some pin.gpfsel :=
    List.getElem?_eq_getElem pin.gpfsel_lt
  rw [gpioPinSelectOp, hreg]
  rfl

theorem Calls.last_cons (call : Pin × GpioOp) (calls : Calls) (p : Pin → Prop) [DecidablePred p] :
    Calls.last (call :: calls) p = (calls.last p).or (if p call.1 then some call else none) := by
  simp only [Calls.last, List.reverse_cons, List.find?_append, List.find?_singleton,
    decide_eq_true_eq]

/-- **A register holds the last call for one of its pins**, by induction on the calls. -/
theorem selectOps_returns (calls : Calls) (w : World RegisterFile) :
    (selectOps calls).Returns (fun _ _ w' => ∀ reg,
      w'.dev.value (.gpio reg) = ((calls.last (Pin.gpfsel · = reg)).map onlyFunction).getD
        (w.dev.value (.gpio reg))) w := by
  induction calls generalizing w with
  | nil => exact Program.Returns.pure fun reg => rfl
  | cons call calls ih =>
    obtain ⟨pin, op⟩ := call
    refine Program.Returns.bind (P := fun _ _ w₁ => w₁.dev.value =
      Function.update w.dev.value (.gpio pin.gpfsel) (onlyFunction (pin, op)))
      ⟨_, _, _, gpioPinSelectOp_run pin op w, rfl⟩ ?_
    intro _ _ w₁ hw₁
    apply (ih w₁).mono
    intro _ _ w' hw' reg
    rw [hw', hw₁, Calls.last_cons]
    rcases hlast : Calls.last calls (Pin.gpfsel · = reg) with _ | call
    · -- no later call for this register: the first one is the last
      by_cases hreg : pin.gpfsel = reg
      · subst hreg
        simp
      · have hne : Reg.gpio reg ≠ Reg.gpio pin.gpfsel := by
          rintro ⟨⟩
          exact hreg rfl
        simp [hreg, hne]
    · simp

/-! ### What a pin reads -/

/-- A word that holds nothing but field `i`, read at field `j`. -/
theorem extractLsb'_shiftLeft {k i j : Nat} (x : BitVec k) (hj : j * k + k ≤ 32) :
    ((x.zeroExtend 32 : Word) <<< (i * k)).extractLsb' (j * k) k = if i = j then x else 0 := by
  ext b hb
  rw [BitVec.getElem_extractLsb', BitVec.getLsbD_shiftLeft, BitVec.zeroExtend,
    BitVec.getLsbD_setWidth]
  rcases Nat.lt_trichotomy i j with hij | rfl | hij
  · -- the field lies above the one that was written
    have hle : (i + 1) * k ≤ j * k := Nat.mul_le_mul_right k hij
    rw [Nat.succ_mul] at hle
    rw [BitVec.getLsbD_of_ge x _ (by omega), if_neg (by omega)]
    simp
  · rw [if_pos rfl, Nat.add_sub_cancel_left]
    simp [hb, show i * k + b < 32 by omega, show b < 32 by omega]
  · -- it lies below
    have hle : (j + 1) * k ≤ i * k := Nat.mul_le_mul_right k hij
    rw [Nat.succ_mul] at hle
    rw [if_neg (by omega)]
    simp [show j * k + b < i * k by omega]

/-- A pin is given by its register and its place there. -/
theorem Pin.eq_of_gpfsel_eq {p q : Pin} (hreg : p.gpfsel = q.gpfsel)
    (hplace : p % pinsPerGpfsel = q % pinsPerGpfsel) : p = q := by
  have hnodup : gpfselRegs.Nodup := by decide
  have hindex : p.val / pinsPerGpfsel = q.val / pinsPerGpfsel :=
    congrArg Fin.val (List.nodup_iff_injective_get.mp hnodup hreg)
  apply Fin.ext
  rw [← Nat.div_add_mod p pinsPerGpfsel, ← Nat.div_add_mod q pinsPerGpfsel, hindex, hplace]

/-- **What a pin reads out of a register that was written by a call**: its operation where the
call was for that pin, and `GPIO_OP_INPUT` otherwise. -/
theorem extractLsb'_onlyFunction {pin : Pin} {call : Pin × GpioOp}
    (hreg : call.1.gpfsel = pin.gpfsel) :
    (onlyFunction call).extractLsb' (gpfselShift pin) gpioOpBits =
      if call.1 = pin then call.2.code else GpioOp.input.code := by
  have hiff : call.1 % pinsPerGpfsel = pin % pinsPerGpfsel ↔ call.1 = pin :=
    ⟨Pin.eq_of_gpfsel_eq hreg, fun h => by rw [h]⟩
  rw [onlyFunction, gpfselShift, gpfselShift, extractLsb'_shiftLeft]
  · simp only [hiff]
    rfl
  · show pin.val % 10 * 3 + 3 ≤ 32
    omega

/-! ### Sequences that leave the other pins alone -/

/-- Without a call for the register of a pin there is none for the pin. -/
theorem Calls.wanted_of_last_eq_none {calls : Calls} {d : RegisterFile} {pin : Pin}
    (h : Calls.last calls (Pin.gpfsel · = pin.gpfsel) = none) :
    Calls.wanted calls d pin = d.function pin := by
  have hnone : Calls.last calls (· = pin) = none := by
    apply List.find?_eq_none.mpr
    intro call hcall hpin
    apply List.find?_eq_none.mp h call hcall
    rw [of_decide_eq_true hpin]
    exact decide_eq_true rfl
  rw [Calls.wanted, hnone]

/-- The last call for the register of a pin, where it is one for the pin. -/
theorem Calls.wanted_of_last_eq_some {calls : Calls} {d : RegisterFile} {call : Pin × GpioOp}
    (h : Calls.last calls (Pin.gpfsel · = call.1.gpfsel) = some call) :
    Calls.wanted calls d call.1 = call.2.code := by
  obtain ⟨-, before, after, hcalls, hbefore⟩ := List.find?_eq_some_iff_append.mp h
  have hsome : Calls.last calls (· = call.1) = some call := by
    refine List.find?_eq_some_iff_append.mpr ⟨decide_eq_true rfl, before, after, hcalls, ?_⟩
    intro c hc
    have hreg := hbefore c hc
    simp only [Bool.not_eq_true', decide_eq_false_iff_not] at hreg ⊢
    exact fun hpin => hreg (congrArg Pin.gpfsel hpin)
  rw [Calls.wanted, hsome]

/-- **A sequence of calls gives each pin its own last operation and leaves the others alone**
exactly where every pin whose register was last written by a call for another pin is to be an
input. -/
theorem selectOps_selectsEach_iff (calls : Calls) (w : World RegisterFile) :
    SelectsEach calls w ↔ ∀ (pin : Pin) (call : Pin × GpioOp),
      Calls.last calls (Pin.gpfsel · = pin.gpfsel) = some call → call.1 ≠ pin →
      Calls.wanted calls w.dev pin = GpioOp.input.code := by
  obtain ⟨t, _, w', hrun, hregs⟩ := selectOps_returns calls w
  -- what a pin reads depends on the last call for its register only
  have hread : ∀ pin, w'.dev.function pin =
      match Calls.last calls (Pin.gpfsel · = pin.gpfsel) with
      | some call => if call.1 = pin then call.2.code else GpioOp.input.code
      | none => w.dev.function pin := by
    intro pin
    rw [RegisterFile.function, hregs]
    rcases hlast : Calls.last calls (Pin.gpfsel · = pin.gpfsel) with _ | call
    · rfl
    · have hreg : call.1.gpfsel = pin.gpfsel := by
        obtain ⟨h, -⟩ := List.find?_eq_some_iff_append.mp hlast
        exact of_decide_eq_true h
      exact extractLsb'_onlyFunction hreg
  have hiff : SelectsEach calls w ↔ ∀ pin, w'.dev.function pin = Calls.wanted calls w.dev pin := by
    constructor
    · rintro ⟨t₁, _, w₁, hrun₁, hwanted⟩
      obtain rfl : w' = w₁ := congrArg Run.state (hrun.symm.trans hrun₁)
      exact hwanted
    · intro hwanted
      exact ⟨t, _, w', hrun, hwanted⟩
  rw [hiff]
  apply forall_congr'
  intro pin
  rw [hread pin]
  rcases hlast : Calls.last calls (Pin.gpfsel · = pin.gpfsel) with _ | call
  · show w.dev.function pin = _ ↔ _
    rw [Calls.wanted_of_last_eq_none hlast]
    simp
  · show (if call.1 = pin then _ else _) = _ ↔ _
    by_cases hpin : call.1 = pin
    · subst hpin
      rw [if_pos rfl, Calls.wanted_of_last_eq_some hlast]
      simp
    · rw [if_neg hpin, eq_comm]
      constructor
      · intro hinput call' hcall' _
        exact hinput
      · intro hinput
        exact hinput call rfl hpin

/-- Making pin 14 the transmitter makes pin 15 an input, which had its alternate function 5. -/
theorem not_selectsEach_txd1 :
    ¬ SelectsEach [(⟨gpioPinTxd1, by decide⟩, .altFn5)]
      ⟨⟨fun _ => 0b010#32 <<< 15⟩, fun _ => 0, 0, 0⟩ := by
  rintro ⟨t, _, w', hrun, hwanted⟩
  have hpin := hwanted ⟨15, by decide⟩
  obtain rfl := congrArg Run.state hrun
  revert hpin
  decide

end RpiBld
