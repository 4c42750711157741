/-
RpiBld/Entry.lean

The bootloader from its entry point to the kernel (`boot.c`, `uart.c`, and
`sd_init` of `sd/sd.c`).

The source keeps what it knows of the card in a static variable; here
`initPeripherals` returns it and the reads and the reset are given it.  The
labels of the assembly code are wherever the linker put them.  `cEntry` returns
where `boot_kernel` executes its `hvc`, with the address that `r3` holds there:
the supervisor never gets back from it.

The branches that are compiled without `ENABLE_GIC`, which enable and disable
the interrupts, are not part of the program.
-/
import RpiBld.BootReport
import RpiBld.Gpio

namespace RpiBld

open Traced

/-- `AUX_ENABLES_MINI_UART_ENABLE`. -/
def auxEnablesMiniUartEnable : Word := bit 0

/-- `AUX_MU_LCR_REG_DATA_SIZE`. -/
def auxMuLcrRegDataSize : Word := bits 1 0

/-- `AUX_MU_CNTL_REG_RX_EN`. -/
def auxMuCntlRegRxEn : Word := bit 0

/-- `CLK_CORE`. -/
def clkCore : Word := 0x4

/-- The value `uart_set_baudrate` writes, of the clock that drives the UART. -/
def baudrateReg (systemClkFreq baudrate : Int) : Int :=
  let oversampling := 8
  systemClkFreq.tdiv (baudrate * oversampling) - 1

/-- Where the linker put the labels of the assembly code. -/
structure Labels where
  vectorTable : Word
  vectorTablePoolEnd : Word

section Driver

variable {σ : Type} [Device σ]

/-! ### The mini UART -/

/-- `uart_set_baudrate`. -/
def uartSetBaudrate (baudrate : Int) : Drv σ Unit := do
  let systemClkFreq ← tagClockGetRate clkCore
  registerSet (.uart .auxMuBaudReg) (BitVec.ofInt 32 (baudrateReg systemClkFreq.toInt baudrate))

/-- `uart_init`. -/
def uartInit : Drv σ Unit := do
  gpioPinSelectOp gpioPinTxd1 .altFn5
  registerSet (.uart .auxEnables) auxEnablesMiniUartEnable
  registerDisableBits (.uart .auxMuCntlReg) auxMuCntlRegRxEn
  uartSetBaudrate 115200
  registerSet (.uart .auxMuLcrReg) auxMuLcrRegDataSize

/-! ### The peripherals -/

/-- `install_vector_table`. -/
def installVectorTable (labels : Labels) : Drv σ Unit :=
  ramCopy labels.vectorTable 0x0 (labels.vectorTablePoolEnd - labels.vectorTable).toInt

/-- `sd_init`. -/
def sdInit : Drv σ (SdInitError × Card) := sdInitCard

/-- `init_peripherals`. -/
def initPeripherals : Drv σ Card := do
  uartInit
  serialLog "Bootloader started: enabled mini UART" []
  let (error, card) ← sdInit
  if error ≠ .none then
    serialLog "Failed to initialise SD" []
    signalError .sdInit
  else pure card

/-! ### The entry point -/

/-- `c_entry`, up to the `hvc` of `boot_kernel`. -/
def cEntry (labels : Labels) (imagePartition : Int) : Drv σ Word := do
  installVectorTable labels
  let card ← initPeripherals
  loadImage card imagePartition
  resetPeripherals card
  bootKernel
  pure kernRamAddr

end Driver

end RpiBld
