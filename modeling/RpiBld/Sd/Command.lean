/-
RpiBld/Sd/Command.lean

The SD commands (`sd/cmd.h`, `sd/cmd.c`) and the registers they go through
(`sd/reg.h`).

Packed bit-field structs are read and built as words: `Cmdtm.toWord` is the
cast of a `struct cmdtm`, the `CardStatus` and `Interrupt` functions pick the
named fields out of a register value.  Out-parameters are returned next to the
error code, with the value the caller passed in where the code leaves them
alone.
-/
import RpiBld.Help
import RpiBld.Img.Format

namespace RpiBld

open Traced

/-! ### Register fields -/

def interruptCmdComplete : Word := bit 0
def interruptTransferComplete : Word := bit 1
def interruptReadReady : Word := bit 5

/-- The `error` field of `struct interrupt`. -/
def Interrupt.error (irpt : Word) : Bool := irpt.getLsbD 15

def statusCommandInhibitCmd : Word := bit 0
def statusCommandInhibitDat : Word := bit 1

/-- `struct blksizecnt`, cast to a word. -/
def blksizecnt (blksize blkcnt : Nat) : Word :=
  BitVec.ofNat 16 blkcnt ++ 0#6 ++ BitVec.ofNat 10 blksize

/-- `struct cmdtm`, without its reserved fields. -/
structure Cmdtm where
  blockCntEn : Bool := false
  autoCmdEn : BitVec 2 := 0
  dataTransferDirection : Bool := false
  multiBlock : Bool := false
  responseType : BitVec 2 := 0
  cmdCrcChkEn : Bool := false
  cmdIndexChkEn : Bool := false
  dataPresent : Bool := false
  cmdType : BitVec 2 := 0
  cmdIndex : BitVec 6 := 0

/-- The fields of `struct cmdtm` from its most significant bits down. -/
def Cmdtm.toWord (c : Cmdtm) : Word :=
  0#2 ++ c.cmdIndex ++ c.cmdType ++ BitVec.ofBool c.dataPresent ++
    BitVec.ofBool c.cmdIndexChkEn ++ BitVec.ofBool c.cmdCrcChkEn ++ 0#1 ++ c.responseType ++
    0#10 ++ BitVec.ofBool c.multiBlock ++ BitVec.ofBool c.dataTransferDirection ++
    c.autoCmdEn ++ BitVec.ofBool c.blockCntEn ++ 0#1

namespace CardStatus

/-! The fields of `struct card_status` that the code looks at. -/

def akeSeqError (cs : Word) : Bool := cs.getLsbD 3
def appCmd (cs : Word) : Bool := cs.getLsbD 5
def currentState (cs : Word) : BitVec 4 := cs.extractLsb' 9 4
def wpEraseSkip (cs : Word) : Bool := cs.getLsbD 15
def csdOverwrite (cs : Word) : Bool := cs.getLsbD 16
def error (cs : Word) : Bool := cs.getLsbD 19
def ccError (cs : Word) : Bool := cs.getLsbD 20
def cardEccFailed (cs : Word) : Bool := cs.getLsbD 21
def illegalCommand (cs : Word) : Bool := cs.getLsbD 22
def comCrcError (cs : Word) : Bool := cs.getLsbD 23
def lockUnlockFailed (cs : Word) : Bool := cs.getLsbD 24
def wpViolation (cs : Word) : Bool := cs.getLsbD 26
def eraseParam (cs : Word) : Bool := cs.getLsbD 27
def eraseSeqError (cs : Word) : Bool := cs.getLsbD 28
def blockLenError (cs : Word) : Bool := cs.getLsbD 29
def addressError (cs : Word) : Bool := cs.getLsbD 30
def outOfRange (cs : Word) : Bool := cs.getLsbD 31

end CardStatus

/-- `sd_card_status_error_bit_set`. -/
def sdCardStatusErrorBitSet (cs : Word) : Bool :=
  CardStatus.akeSeqError cs || CardStatus.wpEraseSkip cs || CardStatus.csdOverwrite cs ||
  CardStatus.error cs || CardStatus.ccError cs || CardStatus.cardEccFailed cs ||
  CardStatus.illegalCommand cs || CardStatus.comCrcError cs || CardStatus.lockUnlockFailed cs ||
  CardStatus.wpViolation cs || CardStatus.eraseParam cs || CardStatus.eraseSeqError cs ||
  CardStatus.blockLenError cs || CardStatus.addressError cs || CardStatus.outOfRange cs

/-! ### The command table -/

/-- `enum cmd_index`. -/
inductive CmdIndex
  | goIdleState | allSendCid | sendRelativeAddr | selectCard | sendIfCond | sendStatus
  | readSingleBlock | readMultipleBlock | setBlockCount | appCmd
  | setBusWidth | sdSendOpCond | sdSendScr
  deriving DecidableEq, Repr

/-- `IS_APP_CMD`. -/
def isAppCmd : Word := 0x80

/-- The value of an enumerator; the last three are application commands. -/
def CmdIndex.code : CmdIndex → Word
  | .goIdleState => 0
  | .allSendCid => 2
  | .sendRelativeAddr => 3
  | .selectCard => 7
  | .sendIfCond => 8
  | .sendStatus => 13
  | .readSingleBlock => 17
  | .readMultipleBlock => 18
  | .setBlockCount => 23
  | .appCmd => 55
  | .setBusWidth => 6 ||| isAppCmd
  | .sdSendOpCond => 41 ||| isAppCmd
  | .sdSendScr => 51 ||| isAppCmd

/-- `enum cmd_error`. -/
inductive CmdError
  | none
  | commandInhibitCmdBitSet
  | commandInhibitDatBitSet
  | commandUnimplemented
  | waitForInterruptTimeout
  | interruptError
  | expectedInterruptNotTriggered
  | cardStatusError
  | responseContents
  | generalTimeout
  deriving DecidableEq, Repr

/-- `enum cmd_type`. -/
inductive CmdType
  | bc | bcr | ac | adtc
  deriving DecidableEq, Repr

/-- `enum cmd_response`. -/
inductive CmdResponse
  | none | r1Normal | r1bNormalBusy | r2CidOrCsdReg | r3OcrReg | r6PublishedRca
  | r7CardInterfaceCondition
  deriving DecidableEq, Repr

/-- `struct command`. -/
structure Command where
  index : CmdIndex
  type : CmdType
  response : CmdResponse
  deriving DecidableEq, Repr

/-- `commands`: the implemented commands. -/
def commands : List Command :=
  [ ⟨.goIdleState, .bc, .none⟩,
    ⟨.allSendCid, .bcr, .r2CidOrCsdReg⟩,
    ⟨.sendRelativeAddr, .bcr, .r6PublishedRca⟩,
    ⟨.selectCard, .ac, .r1bNormalBusy⟩,
    ⟨.sendIfCond, .bcr, .r7CardInterfaceCondition⟩,
    ⟨.sendStatus, .ac, .r1Normal⟩,
    ⟨.readSingleBlock, .adtc, .r1Normal⟩,
    ⟨.readMultipleBlock, .adtc, .r1Normal⟩,
    ⟨.setBlockCount, .ac, .r1Normal⟩,
    ⟨.appCmd, .ac, .r1Normal⟩,
    ⟨.setBusWidth, .ac, .r1Normal⟩,
    ⟨.sdSendOpCond, .bcr, .r3OcrReg⟩,
    ⟨.sdSendScr, .adtc, .r1Normal⟩ ]

/-- `get_command`: an index outside the table has no command. -/
def getCommand (idx : Word) : Option Command := commands.find? fun cmd => cmd.index.code == idx

/-- `set_cmdtm_response_type`. -/
def setCmdtmResponseType (cmd : Command) (cmdtm : Cmdtm) : Cmdtm :=
  match cmd.response with
  | .none => { cmdtm with responseType := 0 }
  | .r1Normal | .r3OcrReg | .r6PublishedRca | .r7CardInterfaceCondition =>
    { cmdtm with responseType := 2 }
  | .r1bNormalBusy => { cmdtm with responseType := 3 }
  | .r2CidOrCsdReg => { cmdtm with responseType := 1 }

/-- `set_cmdtm_idx_and_crc_chk`. -/
def setCmdtmIdxAndCrcChk (cmd : Command) (cmdtm : Cmdtm) : Cmdtm :=
  match cmd.response with
  | .none | .r3OcrReg => cmdtm
  | .r2CidOrCsdReg => { cmdtm with cmdCrcChkEn := true }
  | .r1Normal | .r1bNormalBusy | .r6PublishedRca | .r7CardInterfaceCondition =>
    { cmdtm with cmdIndexChkEn := true, cmdCrcChkEn := true }

/-- `set_cmdtm_transfer_mode`. -/
def setCmdtmTransferMode (cmd : Command) (cmdtm : Cmdtm) : Cmdtm :=
  let cmdtm :=
    if cmd.index = .readSingleBlock ∨ cmd.index = .readMultipleBlock ∨ cmd.index = .sdSendScr then
      { cmdtm with dataTransferDirection := true }
    else cmdtm
  if cmd.index = .readMultipleBlock then { cmdtm with blockCntEn := true, multiBlock := true }
  else cmdtm

/-- `set_cmdtm`. -/
def setCmdtm (cmd : Command) : Cmdtm :=
  let cmdtm : Cmdtm := { cmdIndex := (cmd.index.code &&& ~~~isAppCmd).setWidth 6 }
  let cmdtm := setCmdtmResponseType cmd cmdtm
  let cmdtm := setCmdtmIdxAndCrcChk cmd cmdtm
  let cmdtm := if cmd.type = .adtc then { cmdtm with dataPresent := true } else cmdtm
  setCmdtmTransferMode cmd cmdtm

/-- `sd_cmd_has_card_status_response`. -/
def sdCmdHasCardStatusResponse (cmd : Command) : Bool :=
  cmd.response == .r1Normal || cmd.response == .r1bNormalBusy

/-! ### Waiting for interrupts -/

section Driver

variable {σ : Type} [Device σ]

/-- The poll loop of `sd_wait_for_any_interrupt`.  A non-zero `INTERRUPT` is
written back as it was read, which clears every flag in it. -/
def pollInterrupt (ts : Word) : Nat → Drv σ Word
  | 0 => Program.halt .hang
  | n + 1 => do
    let irpt ← registerGet (.sd .interrupt)
    if irpt ≠ 0 then
      registerSet (.sd .interrupt) irpt
      pure irpt
    else
      usleep 50
      if ← timerPollDone ts then pure irpt
      else pollInterrupt ts n

/-- `sd_wait_for_any_interrupt`: zero means it timed out. -/
def sdWaitForAnyInterrupt : Drv σ Word := do
  let ts ← timerPollStart 500
  let polls ← Program.view World.polls
  pollInterrupt ts polls

/-- `sd_wait_for_interrupt`. -/
def sdWaitForInterrupt (interruptMask : Word) : Drv σ CmdError := do
  let irpt ← sdWaitForAnyInterrupt
  if irpt = 0 then
    serialLog "SD cmd error: timeout waiting for interrupt %08x" [.num interruptMask]
    pure .waitForInterruptTimeout
  else if Interrupt.error irpt then
    serialLog "SD cmd error: error interrupt triggered: %08x" [.num irpt]
    pure .interruptError
  else if irpt &&& interruptMask = 0 then
    serialLog "SD cmd error: expected interrupt %08x not triggered: %08x"
      [.num interruptMask, .num irpt]
    pure .expectedInterruptNotTriggered
  else pure .none

/-! ### Issuing commands -/

/-- `IDX_SPEC_ARGS`. -/
def idxSpecArgs (idx : Word) : List LogArg :=
  [.str (some (if idx &&& isAppCmd ≠ 0 then "APP" else "")), .num (idx &&& ~~~isAppCmd)]

/-- `sd_issue_cmd` once the command was found and neither inhibit bit stops it. -/
def sdIssueCmdUninhibited (cmd : Command) (idx args : Word) : Drv σ CmdError := do
  registerSet (.sd .arg1) args
  registerSet (.sd .cmdtm) (setCmdtm cmd).toWord
  let error ← sdWaitForInterrupt interruptCmdComplete
  if error = .none ∧ sdCmdHasCardStatusResponse cmd then
    let cs ← registerGet (.sd .resp0)
    if sdCardStatusErrorBitSet cs then
      serialLog
        "SD cmd error: command %s%u has error returned in card status register: %08x"
        (idxSpecArgs idx ++ [.num cs])
      pure .cardStatusError
    else pure error
  else if error ≠ .none then
    serialLog "SD cmd error: command %s%u failed" (idxSpecArgs idx)
    pure error
  else pure error

/-- `sd_issue_cmd`. -/
def sdIssueCmd (idx args : Word) : Drv σ CmdError :=
  match getCommand idx with
  | none => do
    serialLog "SD cmd error: command %s%u not implemented" (idxSpecArgs idx)
    pure .commandUnimplemented
  | some cmd => do
    let status ← registerGet (.sd .status)
    if status &&& statusCommandInhibitCmd ≠ 0 then
      serialLog "SD cmd error: CMD line already set when trying to issue command %s%u"
        (idxSpecArgs idx)
      pure .commandInhibitCmdBitSet
    else if (cmd.type = .adtc ∨ cmd.response = .r1bNormalBusy) ∧
        status &&& statusCommandInhibitDat ≠ 0 then
      serialLog "SD cmd error: command %s%u uses DAT line but DAT line already set"
        (idxSpecArgs idx)
      pure .commandInhibitDatBitSet
    else sdIssueCmdUninhibited cmd idx args

/-- `struct ac_rca_args`, cast to a word: the address is cut to its 16 bits. -/
def acRcaArgs (rca : Int) : Word := BitVec.ofInt 16 rca ++ 0#16

/-- `sd_issue_acmd`. -/
def sdIssueAcmd (idx args : Word) (rca : Int) : Drv σ CmdError := do
  let error ← sdIssueCmd CmdIndex.appCmd.code (acRcaArgs rca)
  if error ≠ .none then pure error
  else
    let cs ← registerGet (.sd .resp0)
    if ¬ CardStatus.appCmd cs then
      serialLog
        "SD cmd error: application command bit not set by cmd 55 when trying to issue command %s%u"
        (idxSpecArgs idx)
      pure .responseContents
    else sdIssueCmd idx args

/-- The argument of CMD8: the check pattern, and 2.7-3.6 V. -/
def cmd8Args : Word := 0#20 ++ 1#4 ++ 0b10101010#8

/-- `sd_issue_cmd8`. -/
def sdIssueCmd8 : Drv σ CmdError := do
  let error ← sdIssueCmd CmdIndex.sendIfCond.code cmd8Args
  if error = .none then
    let resp ← registerGet (.sd .resp0)
    if cmd8Args ≠ resp then
      serialLog
        "SD cmd error: cmd 8: sent voltage and check pattern %08x doesn't match response %08x"
        [.num cmd8Args, .num resp]
      pure .responseContents
    else pure error
  else pure error

/-- `OCR_VDD_2V7_TO_3V6`. -/
def ocrVdd2v7To3v6 : Word := 0x00ff8000

/-- `OCR_CARD_CAPACITY_STATUS`. -/
def ocrCardCapacityStatus : Word := bit 30

/-- `OCR_CARD_POWER_UP_STATUS`. -/
def ocrCardPowerUpStatus : Word := bit 31

/-- `ACMD41_HOST_CAPACITY_SUPPORT`. -/
def acmd41HostCapacitySupport : Word := bit 30

/-- The test of the inquiry's OCR in `sd_issue_acmd41`.  `!=` binds tighter than
`&`, so the mask is compared with itself first. -/
def ocrVoltageMismatch (ocr : Word) : Bool :=
  ocr &&& cBool (ocrVdd2v7To3v6 != ocrVdd2v7To3v6) != 0

/-- The argument of the init ACMD41. -/
def acmd41InitArgs : Word := 0 ||| ocrVdd2v7To3v6 ||| acmd41HostCapacitySupport

/-- What `sd_issue_acmd41` does once the retry loop has left it with `ocr`. -/
def sdAcmd41Finish (ocr : Word) (cardCapacitySupportOut : Bool) : Drv σ (CmdError × Bool) :=
  if ocr &&& ocrCardPowerUpStatus ≠ 0 then pure (.none, ocr &&& ocrCardCapacityStatus != 0)
  else do
    serialLog "SD cmd error: app cmd 41: timeout waiting for card to power up" []
    pure (.generalTimeout, cardCapacitySupportOut)

/-- The pause before every try but the first. -/
def sdAcmd41Pause (i : Nat) : Drv σ Unit := if i ≠ 0 then sleep 20 else pure ()

/-- The retry loop of `sd_issue_acmd41`; `i` counts the tries made so far. -/
def sdAcmd41Retry (ts : Word) (cardCapacitySupportOut : Bool) (i : Nat) :
    Nat → Drv σ (CmdError × Bool)
  | 0 => Program.halt .hang
  | n + 1 => do
    sdAcmd41Pause i
    let error ← sdIssueAcmd CmdIndex.sdSendOpCond.code acmd41InitArgs 0
    if error ≠ .none then pure (error, cardCapacitySupportOut)
    else
      let ocr ← registerGet (.sd .resp0)
      if ocr &&& ocrCardPowerUpStatus ≠ 0 then sdAcmd41Finish ocr cardCapacitySupportOut
      else if ← timerPollDone ts then sdAcmd41Finish ocr cardCapacitySupportOut
      else sdAcmd41Retry ts cardCapacitySupportOut (i + 1) n

/-- `sd_issue_acmd41`. -/
def sdIssueAcmd41 (cardCapacitySupportOut : Bool) : Drv σ (CmdError × Bool) := do
  let error ← sdIssueAcmd CmdIndex.sdSendOpCond.code 0 0
  if error ≠ .none then pure (error, cardCapacitySupportOut)
  else
    let ocr ← registerGet (.sd .resp0)
    if ocrVoltageMismatch ocr then
      serialLog
        "SD cmd error: app cmd 41: card does not support the voltage range: ocr reg %08x"
        [.num ocr]
      pure (.responseContents, cardCapacitySupportOut)
    else
      let ts ← timerPollStart 1000
      let polls ← Program.view World.polls
      sdAcmd41Retry ts cardCapacitySupportOut 0 polls

/-- The error bits in the low half of a CMD3 response. -/
def cmd3ErrorBitSet (resp : Word) : Bool :=
  resp.getLsbD 3 || resp.getLsbD 13 || resp.getLsbD 14 || resp.getLsbD 15

/-- `sd_issue_cmd3`. -/
def sdIssueCmd3 (rcaOut : Int) : Drv σ (CmdError × Int) := do
  let error ← sdIssueCmd CmdIndex.sendRelativeAddr.code 0
  if error = .none then
    let resp ← registerGet (.sd .resp0)
    if cmd3ErrorBitSet resp then
      serialLog "SD cmd error: cmd 3: error set in response: %08x" [.num resp]
      pure (.cardStatusError, rcaOut)
    else pure (error, ((resp.extractLsb' 16 16).toNat : Int))
  else pure (error, rcaOut)

/-- `sd_issue_cmd7`. -/
def sdIssueCmd7 (rca : Int) : Drv σ CmdError := sdIssueCmd CmdIndex.selectCard.code (acRcaArgs rca)

/-- `sd_issue_cmd13`. -/
def sdIssueCmd13 (rca : Int) (csOut : Word) : Drv σ (CmdError × Word) := do
  let error ← sdIssueCmd CmdIndex.sendStatus.code (acRcaArgs rca)
  if error = .none then
    let cs ← registerGet (.sd .resp0)
    pure (error, cs)
  else pure (error, csOut)

/-- The argument of ACMD6. -/
def acmd6Args (fourBit : Bool) : Word := 0#30 ++ (if fourBit then 0b10#2 else 0b00#2)

/-- `sd_issue_acmd6`. -/
def sdIssueAcmd6 (rca : Int) (fourBit : Bool) : Drv σ CmdError :=
  sdIssueAcmd CmdIndex.setBusWidth.code (acmd6Args fourBit) rca

/-- `set_blkszcnt`. -/
def setBlkszcnt (blksz blkcnt : Nat) : Drv σ Unit :=
  registerSet (.sd .blksizecnt) (blksizecnt blksz blkcnt)

/-! ### Reading data -/

/-- The inline copy loop of `sd_issue_read_cmd`: `n` words from `DATA` to `dest`
on.  The address it ends with stays in its register for the next block. -/
def copyBlock (dest : Word) : Nat → Drv σ Word
  | 0 => pure dest
  | n + 1 => do
    let v ← registerGet (.sd .data)
    ramStore32 dest v
    copyBlock (dest + 4) n

/-- The block loop of `sd_issue_read_cmd`, with the final wait. -/
def readBlocksLoop (dest : Word) : Nat → Drv σ CmdError
  | 0 => sdWaitForInterrupt interruptTransferComplete
  | nblks + 1 => do
    let error ← sdWaitForInterrupt interruptReadReady
    if error ≠ .none then pure error
    else
      let dest ← copyBlock dest (sdBlksz / 4)
      readBlocksLoop dest nblks

/-- `sd_issue_read_cmd`. -/
def sdIssueReadCmd (idx ramDestAddr sdSrcAddr : Word) (nblks : Nat) : Drv σ CmdError := do
  setBlkszcnt sdBlksz nblks
  let error ← sdIssueCmd idx sdSrcAddr
  if error ≠ .none then pure error
  else readBlocksLoop ramDestAddr nblks

/-- `sd_issue_cmd17`. -/
def sdIssueCmd17 (ramDestAddr sdSrcAddr : Word) : Drv σ CmdError :=
  sdIssueReadCmd CmdIndex.readSingleBlock.code ramDestAddr sdSrcAddr 1

/-- `sd_issue_cmd18`. -/
def sdIssueCmd18 (ramDestAddr sdSrcAddr : Word) (nblks : Nat) : Drv σ CmdError :=
  sdIssueReadCmd CmdIndex.readMultipleBlock.code ramDestAddr sdSrcAddr nblks

namespace Scr

/-! The fields of `struct scr`. -/

def cmd23Supported (scr : Word) : Bool := scr.getLsbD 1
def busWidths (scr : Word) : BitVec 4 := scr.extractLsb' 16 4

/-- `SCR_BUS_WIDTHS_4BIT`, tested against the field. -/
def fourBit (scr : Word) : Bool := (busWidths scr).setWidth 32 &&& bit 2 != 0

end Scr

/-- `sd_issue_acmd51`.  The out-parameter is zeroed first. -/
def sdIssueAcmd51 (rca : Int) : Drv σ (CmdError × Word) := do
  setBlkszcnt 8 1
  let error ← sdIssueAcmd CmdIndex.sdSendScr.code 0 rca
  if error ≠ .none then pure (error, 0)
  else
    let error ← sdWaitForInterrupt interruptReadReady
    if error ≠ .none then pure (error, 0)
    else
      let data ← registerGet (.sd .data)
      let scr := bswap32 data
      let _ ← registerGet (.sd .data)
      let error ← sdWaitForInterrupt interruptTransferComplete
      pure (error, scr)

end Driver

end RpiBld
