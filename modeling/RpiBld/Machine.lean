/-
RpiBld/Machine.lean

The bare machine the bootloader runs on: RAM, the memory-mapped registers of
the peripherals, and the system timer.

Everything outside the CPU is a `Device σ`: a state type `σ` with one
operation for each way the CPU can touch it.  Quantifying over all devices and
all their states is quantifying over every behaviour of the hardware: a
register may read as anything at every access, and a poll timer may or may not
have run out at every look.  The timer functions of `timer.c` are part of the
device for that reason: what a driver sees of them is only whether the time it
asked for is over.

A driver function is a `Drv σ α`, a program over `World σ` that emits an
`Event` for every register access, for every word it stores to RAM while
copying from the SD controller, for every call of `sd_read_blocks` and for
every log line.
-/
import RpiBld.Lib.Program
import RpiBld.Lib.Memory

namespace RpiBld

open Traced

abbrev Byte := BitVec 8
abbrev Word := BitVec 32

/-- RAM: one byte for each 32-bit address. -/
abbrev Ram := Word → Byte

/-! ### Errors -/

/-- `enum error_code`. -/
inductive ErrorCode
  | vcmailbox
  | vcNotInitMmc
  | infiniteLoop
  | vsnprintf
  | sdInit
  | sdRead
  | noMbrMagic
  | invalidPartition
  | noImageMagic
  | imageOverflow
  | imageContents
  | kernOverflow
  | sdReset
  deriving DecidableEq, Repr

/-- Why a run ends without returning: an error is signalled until power-off, a
poll loop is cut off after the number of rounds the world allows, or the code
reads past the end of an array or a word where none can be read. -/
inductive Halt
  | signalled (e : ErrorCode)
  | hang
  | fault
  deriving DecidableEq, Repr

/-! ### Registers -/

/-- `enum sd_register`. -/
inductive SdRegister
  | blksizecnt | arg1 | cmdtm | resp0 | data | status | control0 | control1
  | interrupt | irptMask | irptEn | forceIrpt
  deriving DecidableEq, Repr

/-- `enum vcmailbox_register`. -/
inductive VcmailboxRegister
  | mbox0Read | mbox0Status | mbox1Write | mbox1Status
  deriving DecidableEq, Repr

/-- `enum timer_register`. -/
inductive TimerRegister
  | cs | clo | c0 | c1 | c2 | c3
  deriving DecidableEq, Repr

/-- `enum gpio_register`. -/
inductive GpioRegister
  | gpfsel0 | gpfsel1 | gpfsel2 | gpfsel3 | gpfsel4 | gpfsel5 | gpset0 | gpset1 | gpclr0 | gpclr1
  deriving DecidableEq, Repr

/-- `enum uart_register`. -/
inductive UartRegister
  | auxEnables | auxMuIoReg | auxMuLcrReg | auxMuLsrReg | auxMuCntlReg | auxMuBaudReg
  deriving DecidableEq, Repr

/-- A memory-mapped register: a peripheral and which of its registers. -/
inductive Reg
  | sd (r : SdRegister)
  | vcmailbox (r : VcmailboxRegister)
  | timer (r : TimerRegister)
  | gpio (r : GpioRegister)
  | uart (r : UartRegister)
  deriving DecidableEq, Repr

/-! ### Devices and worlds -/

/-- What the CPU can do to the hardware around it.  `videocore` is what the
VideoCore has done to RAM by the time its mailbox message is read. -/
class Device (σ : Type) where
  get : Reg → σ → Word × σ
  set : Reg → Word → σ → σ
  timerStart : Int → σ → Word × σ
  timerDone : Word → σ → Bool × σ
  sleep : Int → σ → σ
  videocore : Ram → σ → Ram × σ

/-- The machine state: the hardware, RAM, the number of rounds after which the
model cuts a poll loop off, and the address the compiler gave to the local
variables of the mailbox tag functions. -/
structure World (σ : Type) where
  dev : σ
  ram : Ram
  polls : Nat
  frame : Word

/-- An argument of a log line.  A string is `none` where the code passes a
pointer that no statement has set. -/
inductive LogArg
  | num (v : Word)
  | str (s : Option String)
  deriving DecidableEq, Repr

/-- What can be seen of a run from outside. -/
inductive Event
  | get (r : Reg) (v : Word)
  | set (r : Reg) (v : Word)
  | store (a v : Word)
  | sdRead (dest lba : Word) (nblks : Int)
  | log (fmt : String) (args : List LogArg)
  deriving DecidableEq, Repr

/-- A program of the bootloader. -/
abbrev Drv (σ : Type) := Program Halt Event (World σ)

section Access

variable {σ : Type} [Device σ]

/-- `register_get`. -/
def registerGet (r : Reg) : Drv σ Word := fun w =>
  let (v, d) := Device.get r w.dev
  ⟨[.get r v], .ok v, { w with dev := d }⟩

/-- `register_set`. -/
def registerSet (r : Reg) (v : Word) : Drv σ Unit := fun w =>
  ⟨[.set r v], .ok (), { w with dev := Device.set r v w.dev }⟩

/-- `register_enable_bits`. -/
def registerEnableBits (r : Reg) (mask : Word) : Drv σ Unit := do
  let reg ← registerGet r
  registerSet r (reg ||| mask)

/-- `register_disable_bits`. -/
def registerDisableBits (r : Reg) (mask : Word) : Drv σ Unit := do
  let reg ← registerGet r
  registerSet r (reg &&& ~~~mask)

/-- `timer_poll_start`. -/
def timerPollStart (milliseconds : Int) : Drv σ Word :=
  Program.change fun w =>
    let (ts, d) := Device.timerStart milliseconds w.dev
    (ts, { w with dev := d })

/-- `timer_poll_done`. -/
def timerPollDone (ts : Word) : Drv σ Bool :=
  Program.change fun w =>
    let (b, d) := Device.timerDone ts w.dev
    (b, { w with dev := d })

/-- `usleep`. -/
def usleep (microseconds : Int) : Drv σ Unit :=
  Program.change fun w => ((), { w with dev := Device.sleep microseconds w.dev })

/-- `sleep`. -/
def sleep (milliseconds : Int) : Drv σ Unit := usleep (milliseconds * 1000)

/-- `signal_error`: the LED blinks until the board is switched off. -/
def signalError {α : Type} (e : ErrorCode) : Drv σ α := Program.halt (.signalled e)

/-- `serial_log`. -/
def serialLog (fmt : String) (args : List LogArg) : Drv σ Unit := Program.emit (.log fmt args)

/-- The word at a RAM address. -/
def ramLoad32 (a : Word) : Drv σ Word := Program.view fun w => load32 w.ram a

/-- Store a word to RAM. -/
def ramStore32 (a v : Word) : Drv σ Unit := fun w =>
  ⟨[.store a v], .ok (), { w with ram := store32 w.ram a v }⟩

/-- The rounds of `while_cond_timeout_infinite` after its timer was started. -/
def whileCondLoop (condition : Drv σ Bool) (ts : Word) : Nat → Drv σ Unit
  | 0 => Program.halt .hang
  | n + 1 => do
    if ← condition then
      if ← timerPollDone ts then signalError .infiniteLoop
      else whileCondLoop condition ts n
    else pure ()

/-- `while_cond_timeout_infinite`. -/
def whileCondTimeoutInfinite (condition : Drv σ Bool) (timeoutMs : Int) : Drv σ Unit := do
  let ts ← timerPollStart timeoutMs
  let polls ← Program.view World.polls
  whileCondLoop condition ts polls

/-- A poll loop emits what its condition emits. -/
theorem whileCondTimeoutInfinite_emits {P : Event → Prop} {condition : Drv σ Bool}
    (h : Program.Emits P condition) (timeoutMs : Int) :
    Program.Emits P (whileCondTimeoutInfinite condition timeoutMs) := by
  have hloop : ∀ ts n, Program.Emits P (whileCondLoop condition ts n) := by
    intro ts n
    induction n with
    | zero => exact Program.Emits.halt _
    | succ n ih =>
      apply h.bind
      intro b
      refine Program.Emits.ite ?_ (Program.Emits.pure _)
      refine (Program.Emits.change _).bind fun done => ?_
      exact Program.Emits.ite (Program.Emits.halt _) ih
  refine (Program.Emits.change _).bind fun ts => ?_
  refine (Program.Emits.view _).bind fun polls => ?_
  exact hloop ts polls

end Access

end RpiBld
