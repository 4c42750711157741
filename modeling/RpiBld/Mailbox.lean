/-
RpiBld/Mailbox.lean

The VideoCore mailbox (`vcmailbox.c`): building a property buffer on the heap,
sending it, and walking the tags of the answer.

A `struct tag` is a 12-byte header (id, value buffer size, code) and the value
buffer; a `struct property_buffer` is an 8-byte header and the tags.  Fields
are read and written at their offsets in RAM, so that a tag looked for at the
wrong address is whatever bytes are there, or a fault where the address is no
multiple of 4.
-/
import RpiBld.Help

namespace RpiBld

open Traced

/-- `enum tag_id`, the tags that are requested here. -/
inductive TagId
  | clockGetState | clockGetRate | gpioGetState | gpioGetConfig
  deriving DecidableEq, Repr

def TagId.code : TagId → Word
  | .clockGetState => 0x00030001
  | .clockGetRate => 0x00030002
  | .gpioGetState => 0x00030041
  | .gpioGetConfig => 0x00030043

/-- `enum vcmailbox_error`. -/
inductive VcmailboxError
  | none
  | receiveWrongChannel
  | bufferResponseAddrMismatch
  | bufferResponseBitNotSet
  | parsingRequest
  | tagResponseBitNotSet
  | tagResponseSizeMismatch
  | tagResponseOutOfOrder
  | tagResponseMissed
  deriving DecidableEq, Repr

/-- `struct tag_request`; `args` and `ret` point into RAM. -/
structure TagRequest where
  id : Word
  args : Word
  argsSz : Int
  ret : Word
  retSz : Int
  deriving DecidableEq, Repr

/-- `TAG_RESPONSE_CODE_RESPONSE`. -/
def tagResponseCodeResponse : Word := bit 31

/-- `PROP_RESPONSE_CODE_RESPONSE`. -/
def propResponseCodeResponse : Word := bit 31

/-- `PROP_RESPONSE_CODE_ERROR`. -/
def propResponseCodeError : Word := bit 0

/-- `CHANNEL_PROPERTY`. -/
def channelProperty : Word := 8

/-- `CHANNEL_BITS`. -/
def channelBits : Word := bits 3 0

def mbox1StatusFull : Word := bit 31
def mbox0StatusEmpty : Word := bit 30

/-! ### Building -/

/-- The size of a request's value buffer. -/
def TagRequest.valueBufsz (req : TagRequest) : Int := max req.argsSz req.retSz

/-- `build_tag`: the RAM after it, and the size of the tag. -/
def buildTag (ram : Ram) (tag : Word) (req : TagRequest) : Ram × Word :=
  let valueBufsz : Word := BitVec.ofInt 32 req.valueBufsz
  let ram := store32 ram tag req.id
  let ram := store32 ram (tag + 4) valueBufsz
  let ram := store32 ram (tag + 8) 0
  let tagEnd := tag + 12 + valueBufsz
  let ram := mzero ram (tag + 12) valueBufsz.toInt.toNat
  let ram := if req.argsSz ≠ 0 then mcopy ram req.args (tag + 12) req.argsSz.toNat else ram
  let tagEnd := alignAddress tagEnd 4
  (ram, tagEnd - tag)

/-- The loop of `build_property_buffer`: the RAM after it, and where the tags end. -/
def buildTags (ram : Ram) (propEnd : Word) : List TagRequest → Ram × Word
  | [] => (ram, propEnd)
  | req :: reqs =>
    let (ram, size) := buildTag ram propEnd req
    buildTags ram (propEnd + size) reqs

/-- `build_property_buffer`: the RAM after it, and the address of the buffer. -/
def buildPropertyBuffer (ram : Ram) (tagRequests : List TagRequest) : Ram × Word :=
  let prop := alignAddress heapGetBaseAddress 16
  let ram := store32 ram (prop + 4) 0
  let (ram, propEnd) := buildTags ram (prop + 8) tagRequests
  let ram := store32 ram propEnd 0
  let propEnd := propEnd + 4
  let propEnd := alignAddress propEnd 16
  (store32 ram prop (propEnd - prop), prop)

/-! ### Reading the answer -/

section Driver

variable {σ : Type} [Device σ]

/-- Copy between RAM areas. -/
def ramCopy (src dest : Word) (n : Int) : Drv σ Unit :=
  Program.change fun w => ((), { w with ram := mcopy w.ram src dest n.toNat })

/-- The value of a tag, copied to its request's `ret` buffer. -/
def returnTagValue (tag : Word) (req : TagRequest) : Drv σ Unit :=
  if req.retSz ≠ 0 then ramCopy (tag + 12) req.ret req.retSz else pure ()

/-- The end marker: all `n` requests must have been answered. -/
def returnTagEnd (n i : Int) : Drv σ VcmailboxError := do
  if i ≠ n then
    serialLog "Vcmailbox error: requested %u tags but only found %u"
      [.num (BitVec.ofInt 32 n), .num (BitVec.ofInt 32 i)]
    pure .tagResponseMissed
  else pure .none

/-- "Needs to be 32-bit aligned." -/
def TagAligned (tag : Word) : Prop := tag.toNat % 4 = 0

instance (tag : Word) : Decidable (TagAligned tag) := inferInstanceAs (Decidable (_ = _))

/-- `tag->id`.  With the MMU off a word is loaded from a multiple of 4 or the CPU faults; every
look at a tag starts with this one, and the other words of an aligned tag are aligned too. -/
def loadTagId (tag : Word) : Drv σ Word :=
  if TagAligned tag then ramLoad32 tag else Program.halt .fault

omit [Device σ] in
/-- The id of an aligned tag. -/
theorem loadTagId_of_aligned {tag : Word} (h : TagAligned tag) :
    (loadTagId tag : Drv σ Word) = ramLoad32 tag := if_pos h

omit [Device σ] in
theorem loadTagId_of_not_aligned {tag : Word} (h : ¬ TagAligned tag) :
    (loadTagId tag : Drv σ Word) = Program.halt .fault := if_neg h

/-- The loop of `return_tag_responses`.  `n` requests were sent, `i` of them have
been answered and the rest are still in the list; the request pointer has no
bound of its own, so with the list used up the code reads past the array. -/
def returnTagLoop (n : Int) (tag : Word) : List TagRequest → Int → Drv σ VcmailboxError
  | [], i => do
    let id ← loadTagId tag
    if id = 0 then returnTagEnd n i
    else Program.halt .fault
  | req :: reqs, i => do
    let id ← loadTagId tag
    if id = 0 then returnTagEnd n i
    else if id ≠ req.id then
      serialLog "Vcmailbox error: requested tag %08x but response is tag %08x"
        [.num req.id, .num id]
      pure .tagResponseOutOfOrder
    else
      let code ← ramLoad32 (tag + 8)
      if code &&& tagResponseCodeResponse = 0 then
        serialLog "Vcmailbox error: tag %08x response bit not set: %08x" [.num id, .num code]
        pure .tagResponseBitNotSet
      else
        let respRetSz : Int := (code &&& ~~~tagResponseCodeResponse).toInt
        if req.retSz ≠ respRetSz then
          serialLog
            "Vcmailbox error: requested tag %08x expects return size %u but response returned size %u"
            [.num id, .num (BitVec.ofInt 32 req.retSz), .num (BitVec.ofInt 32 respRetSz)]
          pure .tagResponseSizeMismatch
        else
          returnTagValue tag req
          let valueBufsz ← ramLoad32 (tag + 4)
          returnTagLoop n (tag + 12 + valueBufsz) reqs (i + 1)

/-- `return_tag_responses`. -/
def returnTagResponses (prop : Word) (tagRequests : List TagRequest) : Drv σ VcmailboxError :=
  returnTagLoop tagRequests.length (prop + 8) tagRequests 0

/-! ### Sending and receiving -/

/-- `mbox1_status_full_flag_set`. -/
def mbox1StatusFullFlagSet : Drv σ Bool := do
  let status ← registerGet (.vcmailbox .mbox1Status)
  pure (status &&& mbox1StatusFull != 0)

/-- `vcmailbox_write_message`. -/
def vcmailboxWriteMessage (data chan : Word) : Drv σ Unit := do
  whileCondTimeoutInfinite mbox1StatusFullFlagSet 200
  registerSet (.vcmailbox .mbox1Write) ((data &&& ~~~channelBits) ||| chan)

/-- `mbox0_status_empty_flag_set`. -/
def mbox0StatusEmptyFlagSet : Drv σ Bool := do
  let status ← registerGet (.vcmailbox .mbox0Status)
  pure (status &&& mbox0StatusEmpty != 0)

/-- `vcmailbox_read_message`.  By the time the message is there, the VideoCore
has written its answer to RAM. -/
def vcmailboxReadMessage : Drv σ Word := do
  whileCondTimeoutInfinite mbox0StatusEmptyFlagSet 200
  Program.change fun w =>
    let (ram, d) := Device.videocore w.ram w.dev
    ((), { w with ram := ram, dev := d })
  registerGet (.vcmailbox .mbox0Read)

/-- The channel test of `vcmailbox_request_tags`.  `!=` binds tighter than `&`. -/
def wrongChannel (recvMsg : Word) : Bool :=
  recvMsg &&& cBool (channelBits != channelProperty) != 0

/-- `vcmailbox_request_tags`. -/
def vcmailboxRequestTags (tagRequests : List TagRequest) : Drv σ VcmailboxError := do
  let sendProp ← Program.change fun w =>
    let (ram, prop) := buildPropertyBuffer w.ram tagRequests
    (prop, { w with ram := ram })
  vcmailboxWriteMessage sendProp channelProperty
  let recvMsg ← vcmailboxReadMessage
  if wrongChannel recvMsg then
    serialLog
      "Vcmailbox error: sent message on channel %u but received message on channel %u"
      [.num channelProperty, .num (recvMsg &&& channelBits)]
    pure .receiveWrongChannel
  else
    let recvProp := recvMsg &&& ~~~channelBits
    if recvProp ≠ sendProp then
      serialLog
        "Vcmailbox error: address of sent property %08x doesn't match address of received property %08x"
        [.num sendProp, .num recvProp]
      pure .bufferResponseAddrMismatch
    else
      let code ← ramLoad32 (recvProp + 4)
      if code &&& propResponseCodeResponse = 0 then
        serialLog "Vcmailbox error: property response bit not set: %08x" [.num code]
        pure .bufferResponseBitNotSet
      else if code &&& propResponseCodeError ≠ 0 then
        serialLog "Vcmailbox error: property response signalled error" []
        pure .parsingRequest
      else returnTagResponses recvProp tagRequests

/-! ### Tags -/

/-- What the tag functions of `tag.c` share: send one tag whose argument is the
word `arg`, and return the error with the words of the answer.  Argument and
answer are local variables. -/
def requestTag (id : TagId) (arg : Word) (retSz : Nat) : Drv σ (VcmailboxError × (Nat → Word)) := do
  let frame ← Program.view World.frame
  Program.change fun w => ((), { w with ram := store32 w.ram frame arg })
  let ret := frame + 4
  let error ← vcmailboxRequestTags [⟨id.code, frame, 4, ret, retSz⟩]
  let words ← Program.view fun w i => load32 w.ram (ret + BitVec.ofNat 32 (4 * i))
  pure (error, words)

/-- `tag_clock_get_state`. -/
def tagClockGetState (clkId : Word) : Drv σ Word := do
  let (error, ret) ← requestTag .clockGetState clkId 8
  if error ≠ .none ∨ ret 0 ≠ clkId then
    serialLog "Vcmailbox error: clock get state: %08x %08x" [.num clkId, .num (ret 0)]
    signalError .vcmailbox
  else pure (ret 1)

/-- `tag_clock_get_rate`. -/
def tagClockGetRate (clkId : Word) : Drv σ Word := do
  let (error, ret) ← requestTag .clockGetRate clkId 8
  if error ≠ .none ∨ ret 0 ≠ clkId then
    serialLog "Vcmailbox error: clock get rate: %08x %08x" [.num clkId, .num (ret 0)]
    signalError .vcmailbox
  else pure (ret 1)

/-- `convert_pin_to_vc`. -/
def convertPinToVc (pin : Word) : Word := 128 + pin

/-- `tag_gpio_get_state`. -/
def tagGpioGetState (pin : Word) : Drv σ Word := do
  let (error, ret) ← requestTag .gpioGetState (convertPinToVc pin) 8
  if error ≠ .none ∨ ret 0 ≠ 0 then
    serialLog "Vcmailbox error: gpio get state: %08x" [.num (ret 0)]
    signalError .vcmailbox
  else pure (ret 1)

/-- `struct gpio_expander_pin_config`, the fields that are looked at. -/
structure GpioExpanderPinConfig where
  direction : Word
  polarity : Word

/-- `tag_gpio_get_config`. -/
def tagGpioGetConfig (pin : Word) : Drv σ GpioExpanderPinConfig := do
  let (error, cfg) ← requestTag .gpioGetConfig (convertPinToVc pin) 20
  if error ≠ .none ∨ cfg 0 ≠ 0 then
    serialLog "Vcmailbox error: gpio get config: %08x" [.num (cfg 0)]
    signalError .vcmailbox
  else pure ⟨cfg 1, cfg 2⟩

/-- `gpio_config_pin_is_output`. -/
def gpioConfigPinIsOutput (cfg : GpioExpanderPinConfig) : Bool := cfg.direction != 0

/-- `gpio_config_pin_is_active_high`. -/
def gpioConfigPinIsActiveHigh (cfg : GpioExpanderPinConfig) : Bool := cfg.polarity == 0

end Driver

end RpiBld
