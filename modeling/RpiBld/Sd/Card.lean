/-
RpiBld/Sd/Card.lean

Initialising the SD card and reading blocks from it (`sd/sd.c`).

The static `card` of the source is passed to and returned from the functions
that use it.  A function that fills in a `struct card` returns it next to its
error code, so the bookkeeping an early exit leaves behind is part of the
result.
-/
import RpiBld.Mailbox
import RpiBld.Sd.Command

namespace RpiBld

open Traced

/-- `EMMC2_EXPECTED_BASE_CLOCK_HZ`. -/
def emmc2ExpectedBaseClockHz : Int := 100000000

/-- `IDENTIFICATION_CLOCK_RATE_HZ`. -/
def identificationClockRateHz : Int := 400000

/-- `DEFAULT_SPEED_CLOCK_RATE_HZ`. -/
def defaultSpeedClockRateHz : Int := 25000000

/-- `UINT16_MAX`. -/
def uint16Max : Nat := 65535

/-- `CLK_EMMC2`. -/
def clkEmmc2 : Word := 0xc

/-- `GPIO_EXPANDER_VDD_SD_IO_SEL`. -/
def gpioExpanderVddSdIoSel : Word := 4

/-- `GPIO_EXPANDER_SD_PWR_ON`. -/
def gpioExpanderSdPwrOn : Word := 6

/-- `enum card_state`. -/
inductive CardState
  | inactive | idle | ready | identification | standby | transfer
  | sendingData | receiveData | programming | disconnect
  deriving DecidableEq, Repr

/-- `CARD_STATE_TRANSFER`, as a card reports it. -/
def cardStateTransfer : BitVec 4 := 4

/-- `struct card`; the defaults are what `mzero` leaves. -/
structure Card where
  state : CardState := .idle
  sdhcOrSdxc : Bool := false
  rca : Int := 0
  cmd23Supported : Bool := false
  deriving DecidableEq, Repr

/-- `enum sd_init_error`. -/
inductive SdInitError
  | none | issueCmd | unusableCard
  deriving DecidableEq, Repr

/-! ### Register fields -/

def control0DataTransferWidth : Word := bit 1
def control0PwrCtlShift : Nat := 8
def pwrCtlSdBusVoltSel3v3 : Word := bits 3 1
def pwrCtlSdBusPower : Word := bit 0

def control1IntClkEn : Word := bit 0
def control1IntClkStable : Word := bit 1
def control1ClkEn : Word := bit 2
def control1ClkFreqSel : Word := bits 15 8
def control1ClkFreqSelShift : Nat := 8
def control1SwResetHc : Word := bit 24

/-- The `struct interrupt` of `sd_enable_cmd_interrupts`: command complete, and the
command timeout, CRC, end bit and index errors. -/
def cmdInterrupts : Word := bit 0 ||| bit 16 ||| bit 17 ||| bit 18 ||| bit 19

/-- The `struct interrupt` of `sd_enable_transfer_interrupts`: read ready, transfer
complete, and the data timeout, CRC and end bit errors. -/
def transferInterrupts : Word := bit 5 ||| bit 1 ||| bit 20 ||| bit 21 ||| bit 22

/-- The `card` field of `struct interrupt`. -/
def cardInterrupt : Word := bit 8

/-! ### The clock divider -/

/-- The loop of `sd_8bit_clock_divider`.  From a base rate below `2 ^ 31` and a
positive target it stops before the 31 rounds are used up. -/
def clockDivisorLoop (baseRate targetRate divisor : Int) : Nat → Int
  | 0 => divisor
  | n + 1 =>
    if baseRate.tdiv divisor > targetRate then
      clockDivisorLoop baseRate targetRate (divisor * 2) n
    else divisor

/-- `sd_8bit_clock_divider`. -/
def sd8bitClockDivider (baseRate targetRate : Int) : Int :=
  (clockDivisorLoop baseRate targetRate 1 31).tdiv 2

section Driver

variable {σ : Type} [Device σ]

/-! ### Checking what the VideoCore set up -/

/-- `sd_assert_base_clock`. -/
def sdAssertBaseClock : Drv σ Unit := do
  let state ← tagClockGetState clkEmmc2
  if state.getLsbD 1 ∨ ¬ state.getLsbD 0 then
    serialLog "SD init error: EMMC2 clock either doesn't exist or isn't on" []
    signalError .vcNotInitMmc
  else
    let rate ← tagClockGetRate clkEmmc2
    if rate.toInt ≠ emmc2ExpectedBaseClockHz then
      serialLog "SD init error: EMMC2 clock rate %u Hz doesn't match expected clock rate %u Hz"
        [.num rate, .num (BitVec.ofInt 32 emmc2ExpectedBaseClockHz)]
      signalError .vcNotInitMmc
    else pure ()

/-- `sd_assert_voltage`. -/
def sdAssertVoltage : Drv σ Unit := do
  let cfg ← tagGpioGetConfig gpioExpanderVddSdIoSel
  if ¬ gpioConfigPinIsOutput cfg ∨ ¬ gpioConfigPinIsActiveHigh cfg then
    serialLog
      "SD init error: expected GPIO expander pin SD voltage select to be both an output and active high"
      []
    signalError .vcNotInitMmc
  else
    let state ← tagGpioGetState gpioExpanderVddSdIoSel
    if state ≠ 0 then
      serialLog
        "SD init error: GPIO expander pin SD voltage select has 1.8V selected, but expected 3.3V"
        []
      signalError .vcNotInitMmc
    else pure ()

/-- `sd_assert_card_power`. -/
def sdAssertCardPower : Drv σ Unit := do
  let cfg ← tagGpioGetConfig gpioExpanderSdPwrOn
  if ¬ gpioConfigPinIsOutput cfg ∨ ¬ gpioConfigPinIsActiveHigh cfg then
    serialLog
      "SD init error: expected GPIO expander pin SD card power to be both an output and active high"
      []
    signalError .vcNotInitMmc
  else
    let state ← tagGpioGetState gpioExpanderSdPwrOn
    if state = 0 then
      serialLog
        "SD init error: GPIO expander pin SD card power not selected to supply power" []
      signalError .vcNotInitMmc
    else pure ()

/-- `sd_assert_vc_init`. -/
def sdAssertVcInit : Drv σ Unit := do
  sdAssertBaseClock
  sdAssertVoltage
  sdAssertCardPower

/-! ### Setting up the host -/

/-- `sd_sw_reset_hc_bit_set`. -/
def sdSwResetHcBitSet : Drv σ Bool := do
  let control1 ← registerGet (.sd .control1)
  pure (control1 &&& control1SwResetHc != 0)

/-- `sd_reset_host`. -/
def sdResetHost : Drv σ Unit := do
  registerEnableBits (.sd .control1) control1SwResetHc
  whileCondTimeoutInfinite sdSwResetHcBitSet 20

/-- `sd_supply_bus_power`. -/
def sdSupplyBusPower : Drv σ Unit :=
  registerEnableBits (.sd .control0)
    ((pwrCtlSdBusVoltSel3v3 ||| pwrCtlSdBusPower) <<< control0PwrCtlShift)

/-- `sd_internal_clock_not_stable`. -/
def sdInternalClockNotStable : Drv σ Bool := do
  let control1 ← registerGet (.sd .control1)
  pure (control1 &&& control1IntClkStable == 0)

/-- `sd_supply_clock`. -/
def sdSupplyClock (clockRate : Int) : Drv σ Unit := do
  let clockDivider := sd8bitClockDivider emmc2ExpectedBaseClockHz clockRate
  registerDisableBits (.sd .control1) (control1ClkEn ||| control1IntClkEn)
  registerDisableBits (.sd .control1) control1ClkFreqSel
  registerEnableBits (.sd .control1)
    (BitVec.ofInt 32 clockDivider <<< control1ClkFreqSelShift ||| control1IntClkEn)
  whileCondTimeoutInfinite sdInternalClockNotStable 20
  registerEnableBits (.sd .control1) control1ClkEn

/-- `sd_enable_interrupts`. -/
def sdEnableInterrupts (irpt : Word) : Drv σ Unit := registerEnableBits (.sd .irptMask) irpt

/-- `sd_enable_cmd_interrupts`. -/
def sdEnableCmdInterrupts : Drv σ Unit := sdEnableInterrupts cmdInterrupts

/-- `sd_enable_transfer_interrupts`. -/
def sdEnableTransferInterrupts : Drv σ Unit := sdEnableInterrupts transferInterrupts

/-- `sd_pre_cmd_init`. -/
def sdPreCmdInit : Drv σ Unit := do
  sdAssertVcInit
  sdResetHost
  sdSupplyBusPower
  sdSupplyClock identificationClockRateHz
  sdEnableCmdInterrupts

/-! ### Initialising the card -/

/-- `sd_card_init_and_identify`. -/
def sdCardInitAndIdentify (card : Card) : Drv σ (SdInitError × Card) := do
  let card := { card with state := .idle }
  let error ← sdIssueCmd CmdIndex.goIdleState.code 0
  if error ≠ .none then pure (.issueCmd, card)
  else
  let error ← sdIssueCmd8
  if error = .responseContents then pure (.unusableCard, card)
  else if error ≠ .none then pure (.issueCmd, card)
  else
  let (error, ccs) ← sdIssueAcmd41 false
  if error = .responseContents then pure (.unusableCard, card)
  else if error ≠ .none then pure (.issueCmd, card)
  else
  let card := { card with sdhcOrSdxc := ccs, state := .ready }
  let error ← sdIssueCmd CmdIndex.allSendCid.code 0
  if error ≠ .none then pure (.issueCmd, card)
  else
  let card := { card with state := .identification }
  let (error, rca) ← sdIssueCmd3 card.rca
  let card := { card with rca := rca }
  if error ≠ .none then pure (.issueCmd, card)
  else pure (.none, { card with state := .standby })

/-- The host follows the card to the 4-bit bus width. -/
def sdWidenHost (error : CmdError) : Drv σ Unit :=
  if error = .none then registerEnableBits (.sd .control0) control0DataTransferWidth
  else pure ()

/-- `sd_set_4bit_data_bus_width`. -/
def sdSet4bitDataBusWidth (rca : Int) : Drv σ SdInitError := do
  let prevIrptMask ← registerGet (.sd .irptMask)
  registerDisableBits (.sd .irptMask) cardInterrupt
  let error ← sdIssueAcmd6 rca true
  sdWidenHost error
  registerSet (.sd .irptMask) prevIrptMask
  pure (if error = .none then .none else .issueCmd)

/-- What `sd_init_card` logs at its end. -/
def logInitialised (card : Card) (scr : Word) : Drv σ Unit :=
  serialLog
    "Successfully initialised SD: %s capacity, CMD23 %s, %s-bit data bus width, 25 MHz clock, default speed bus mode"
    [.str (some (if card.sdhcOrSdxc then "SDHC/SDXC" else "SDSC")),
      .str (some (if card.cmd23Supported then "supported" else "not supported")),
      .str (some (if Scr.fourBit scr then "4" else "1"))]

/-- The part of `sd_init_card` after the card was identified. -/
def sdInitCardTransfer (card : Card) : Drv σ (SdInitError × Card) := do
  sdSupplyClock defaultSpeedClockRateHz
  let error ← sdIssueCmd7 card.rca
  if error ≠ .none then pure (.issueCmd, card)
  else
  let (error, cs) ← sdIssueCmd13 card.rca 0
  if error ≠ .none then pure (.issueCmd, card)
  else if CardStatus.currentState cs ≠ cardStateTransfer then
    serialLog "SD init error: cmd 13 didn't put card into transfer state" []
    pure (.issueCmd, card)
  else
  let card := { card with state := .transfer }
  sdEnableTransferInterrupts
  let (error, scr) ← sdIssueAcmd51 card.rca
  if error ≠ .none then pure (.issueCmd, card)
  else
  let card := { card with cmd23Supported := Scr.cmd23Supported scr }
  if Scr.fourBit scr then
    let sdInitError ← sdSet4bitDataBusWidth card.rca
    if sdInitError ≠ .none then pure (sdInitError, card)
    else
      logInitialised card scr
      pure (.none, card)
  else
    logInitialised card scr
    pure (.none, card)

/-- `sd_init_card`. -/
def sdInitCard : Drv σ (SdInitError × Card) := do
  serialLog "Initialising SD..." []
  sdPreCmdInit
  let (sdInitError, card) ← sdCardInitAndIdentify {}
  if sdInitError ≠ .none then pure (sdInitError, card)
  else sdInitCardTransfer card

/-! ### Reading blocks -/

/-- The distance between two blocks in the unit the card is addressed in. -/
def sdAddrStep (card : Card) : Word := if card.sdhcOrSdxc then 1 else BitVec.ofNat 32 sdBlksz

/-- The loop over single block transfers of `_sd_read_blocks_card`, with the values it
leaves in the variables. -/
def readSingleBlocks (card : Card) (ramDestAddr sdSrcAddr : Word) :
    Nat → Drv σ (CmdError × Word × Word × Nat)
  | 0 => pure (.none, ramDestAddr, sdSrcAddr, 0)
  | nblks + 1 => do
    let error ← sdIssueCmd17 ramDestAddr sdSrcAddr
    if error ≠ .none then pure (error, ramDestAddr, sdSrcAddr, nblks + 1)
    else
      readSingleBlocks card (ramDestAddr + BitVec.ofNat 32 sdBlksz) (sdSrcAddr + sdAddrStep card)
        nblks

/-- The transfer of `_sd_read_blocks_card`: one block, one multi block transfer, or one
block at a time. -/
def transferBlocks (card : Card) (ramDestAddr sdSrcAddr : Word) (nblks : Nat) :
    Drv σ (CmdError × Word × Word × Nat) := do
  if nblks = 1 then
    let error ← sdIssueCmd17 ramDestAddr sdSrcAddr
    pure (error, ramDestAddr, sdSrcAddr, nblks)
  else if nblks > 1 then
    if card.cmd23Supported then
      let error ← sdIssueCmd CmdIndex.setBlockCount.code (BitVec.ofNat 32 nblks)
      if error = .none then
        let error ← sdIssueCmd18 ramDestAddr sdSrcAddr nblks
        pure (error, ramDestAddr, sdSrcAddr, nblks)
      else pure (error, ramDestAddr, sdSrcAddr, nblks)
    else readSingleBlocks card ramDestAddr sdSrcAddr nblks
  else pure (.none, ramDestAddr, sdSrcAddr, nblks)

/-- `_sd_read_blocks_card`, one pass of `sd_read_blocks_card`. -/
def sdReadBlocksCardPass (ramDestAddr sdSrcLba : Word) (nblks : Nat) (card : Card) :
    Drv σ Bool := do
  if ¬ addressAligned ramDestAddr 4 then
    serialLog "SD read error: RAM destination address %08x not 4-byte aligned" [.num ramDestAddr]
    pure false
  else
    let sdSrcAddr :=
      if card.sdhcOrSdxc then sdSrcLba else sdSrcLba * BitVec.ofNat 32 sdBlksz
    let (error, ramDestAddr, sdSrcAddr, nblks) ← transferBlocks card ramDestAddr sdSrcAddr nblks
    if error ≠ .none then
      serialLog "SD read error: RAM dest addr %08x, SD src addr %08x, number of blocks %u"
        [.num ramDestAddr, .num sdSrcAddr, .num (BitVec.ofNat 32 nblks)]
      pure false
    else pure true

/-- `sd_read_blocks_card`. -/
def sdReadBlocksCard (ramDestAddr sdSrcLba : Word) (nblks : Int) (card : Card) : Drv σ Bool :=
  if _h : 0 < nblks then do
    let readOk ← sdReadBlocksCardPass ramDestAddr sdSrcLba (min nblks.toNat uint16Max) card
    if ¬ readOk then pure false
    else
      sdReadBlocksCard (ramDestAddr + BitVec.ofNat 32 (sdBlksz * uint16Max))
        (sdSrcLba + BitVec.ofNat 32 uint16Max) (nblks - uint16Max) card
  else pure true
termination_by nblks.toNat
decreasing_by
  simp only [uint16Max]
  omega

/-- `sd_read_blocks`. -/
def sdReadBlocks (card : Card) (ramDestAddr sdSrcLba : Word) (nblks : Int) : Drv σ Bool := do
  Program.emit (.sdRead ramDestAddr sdSrcLba nblks)
  sdReadBlocksCard ramDestAddr sdSrcLba nblks card

/-- `bytes_to_blocks`: division and remainder truncate towards zero. -/
def bytesToBlocks (bytes : Int) : Int :=
  let nblks := bytes.tdiv sdBlksz
  if bytes.tmod sdBlksz ≠ 0 then nblks + 1 else nblks

/-- `sd_read_bytes`. -/
def sdReadBytes (card : Card) (ramDestAddr sdSrcLba : Word) (bytes : Int) : Drv σ Bool :=
  sdReadBlocks card ramDestAddr sdSrcLba (bytesToBlocks bytes)

/-- `sd_reset_card`. -/
def sdResetCard (card : Card) : Drv σ (Bool × Card) := do
  let error ← sdIssueCmd CmdIndex.goIdleState.code 0
  if error ≠ .none then pure (false, card)
  else
    sdResetHost
    pure (true, { card with state := .idle })

end Driver

end RpiBld
