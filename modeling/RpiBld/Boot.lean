/-
RpiBld/Boot.lean

Loading the image from the SD card (`boot.c`, `mbr.c`).

Everything the loader decides on it reads back from RAM after the SD reads put
it there, at the moment the source reads it.  `load_item` returns a pointer to
the item; here its caller keeps the address it passed in.
-/
import RpiBld.Img.Format
import RpiBld.Sd.Card

namespace RpiBld

open Traced

/-! ### Formats -/

/-- `DTB_MAGIC`. -/
def dtbMagic : Word := 0xd00dfeed

/-- `ZIMAGE_MAGIC`. -/
def zimageMagic : Word := 0x016F2818

/-- `ZIMAGE_MAGIC_OFF`. -/
def zimageMagicOff : Word := 0x24

/-- `MBR_MAGIC`. -/
def mbrMagicValue : BitVec 16 := 0xaa55

/-- `MBR_MAGIC_OFF`. -/
def mbrMagicOff : Word := 0x01fe

/-- `MBR_PART_ENTRIES_OFF`. -/
def mbrPartEntriesOff : Word := 0x01be

/-- `MBR_FIRST_PART_NR`. -/
def mbrFirstPartNr : Int := 1

/-- `MBR_LAST_PART_NR`. -/
def mbrLastPartNr : Int := 4

/-- `PART_ENTRY_SZ`. -/
def partEntrySz : Int := 16

/-- `PART_ENTRY_LBA_OFF`. -/
def partEntryLbaOff : Word := 0x08

/-- `PART_ENTRY_NBLOCKS_OFF`. -/
def partEntryNblocksOff : Word := 0x0c

/-- `mbr_magic`. -/
def mbrMagic (ram : Ram) (mbrBaseAddr : Word) : Bool :=
  ram (mbrBaseAddr + mbrMagicOff + 1) ++ ram (mbrBaseAddr + mbrMagicOff) == mbrMagicValue

/-- `mbr_partition_valid`. -/
def mbrPartitionValid (partition : Int) : Bool :=
  mbrFirstPartNr ≤ partition && partition ≤ mbrLastPartNr

/-- `mbr_get_part_entry_field`; its byte-wise copy is how `load32` reads. -/
def mbrGetPartEntryField (ram : Ram) (mbrBaseAddr : Word) (partition : Int) (fieldOffset : Word) :
    Word :=
  let partEntry := mbrBaseAddr + mbrPartEntriesOff + BitVec.ofInt 32 ((partition - 1) * partEntrySz)
  load32 ram (partEntry + fieldOffset)

/-- `mbr_get_partition_lba`. -/
def mbrGetPartitionLba (ram : Ram) (mbrBaseAddr : Word) (partition : Int) : Word :=
  mbrGetPartEntryField ram mbrBaseAddr partition partEntryLbaOff

/-- `mbr_get_partition_nblks`. -/
def mbrGetPartitionNblks (ram : Ram) (mbrBaseAddr : Word) (partition : Int) : Word :=
  mbrGetPartEntryField ram mbrBaseAddr partition partEntryNblocksOff

/-- A word that is passed as an `enum item_id`.  On the target an enumeration has the size its
values need, here one byte. -/
def toItemId (id : Word) : Byte := id.setWidth 8

/-- `stritem`; its parameter is an `enum item_id`.  The switch has no default: for any other id the
function ends without returning a pointer. -/
def stritem (id : Word) : Option String :=
  let id := toItemId id
  if id = toItemId ItemId.endItem.code then some "end"
  else if id = toItemId ItemId.kernel.code then some "kernel"
  else if id = toItemId ItemId.deviceTreeBlob.code then some "device tree blob"
  else none

/-- `itemsz`: an unsigned sum, returned as an `int`. -/
def itemsz (datasz : Word) : Int := (BitVec.ofNat 32 sizeofItem + datasz).toInt

section Driver

variable {σ : Type} [Device σ]

/-- `load_mbr`. -/
def loadMbr (card : Card) (imagePartition : Int) : Drv σ Word := do
  let mbrBaseAddr := heapGetBaseAddress
  serialLog "Loading MBR..." []
  if ¬ (← sdReadBlocks card mbrBaseAddr 0 1) then signalError .sdRead
  else
  if ¬ (← Program.view fun w => mbrMagic w.ram mbrBaseAddr) then
    serialLog "Error: couldn't find MBR on SD card: no MBR magic" []
    signalError .noMbrMagic
  else if ¬ mbrPartitionValid imagePartition then
    serialLog "Error: partition %u not a valid primary partition"
      [.num (BitVec.ofInt 32 imagePartition)]
    signalError .invalidPartition
  else
    serialLog "Successfully loaded and validated MBR" []
    pure mbrBaseAddr

/-- `load_image_head`. -/
def loadImageHead (card : Card) (imagePartition : Int) (mbrBaseAddr : Word) : Drv σ Word := do
  let imgPartLba ← Program.view fun w => mbrGetPartitionLba w.ram mbrBaseAddr imagePartition
  let imgPartNblks ← Program.view fun w => mbrGetPartitionNblks w.ram mbrBaseAddr imagePartition
  let img := heapGetBaseAddress
  serialLog "Loading image head from partition %u" [.num (BitVec.ofInt 32 imagePartition)]
  if ¬ (← sdReadBlocks card img imgPartLba 1) then signalError .sdRead
  else
  let magic ← ramLoad32 img
  let imgsz ← ramLoad32 (img + 4)
  if magic ≠ imgMagic then
    serialLog "Error: couldn't find image at start of partition %u: no image magic"
      [.num (BitVec.ofInt 32 imagePartition)]
    signalError .noImageMagic
  else if imgsz > imgPartNblks * BitVec.ofNat 32 sdBlksz then
    serialLog
      "Error: image overflow: image size %u bytes is greater than size of image partition %u bytes"
      [.num imgsz, .num (imgPartNblks * BitVec.ofNat 32 sdBlksz)]
    signalError .imageOverflow
  else
    serialLog "Successfully loaded and validated image head, image size %u bytes" [.num imgsz]
    pure imgPartLba

/-- The second read of `load_item`: the whole item, where the first block does not
hold it. -/
def loadItemRest (card : Card) (ramItemDestAddr sdItemSrcLba : Word) : Drv σ Unit := do
  let datasz ← ramLoad32 (ramItemDestAddr + 4)
  if itemsz datasz > sdBlksz then
    if ¬ (← sdReadBytes card ramItemDestAddr sdItemSrcLba (itemsz datasz)) then signalError .sdRead
    else pure ()
  else pure ()

/-- `load_item`. -/
def loadItem (card : Card) (id : ItemId) (ramItemDestAddr sdItemSrcLba : Word) : Drv σ Unit := do
  serialLog "Loading %s item to RAM address %08x..." [.str (stritem id.code), .num ramItemDestAddr]
  if ¬ (← sdReadBlocks card ramItemDestAddr sdItemSrcLba 1) then signalError .sdRead
  else
  let itemId ← ramLoad32 ramItemDestAddr
  if itemId ≠ id.code then
    serialLog "Error: loaded image item %s but expected %s"
      [.str (stritem itemId), .str (stritem id.code)]
    signalError .imageContents
  else
    loadItemRest card ramItemDestAddr sdItemSrcLba
    let datasz ← ramLoad32 (ramItemDestAddr + 4)
    serialLog "Successfully loaded %s item, data size %u bytes"
      [.str (stritem id.code), .num datasz]

/-- Where the kernel item goes: its data starts at `KERN_RAM_ADDR`. -/
def kernItemRamAddr : Word := kernRamAddr - BitVec.ofNat 32 sizeofItem

/-- Where the device tree item goes: its data starts at `DTB_RAM_ADDR`. -/
def dtbItemRamAddr : Word := dtbRamAddr - BitVec.ofNat 32 sizeofItem

/-- The checks `load_image_items` makes on the kernel it loaded. -/
def validateKernel : Drv σ Unit := do
  let datasz ← ramLoad32 (kernItemRamAddr + 4)
  if kernRamAddr + datasz > dtbRamAddr then
    serialLog "Error: kernel size %u bytes overflows into device tree blob" [.num datasz]
    signalError .kernOverflow
  else
  let magic ← ramLoad32 (kernRamAddr + zimageMagicOff)
  if magic ≠ zimageMagic then
    serialLog "Error: couldn't find kernel zImage magic" []
    signalError .imageContents
  else serialLog "Successfully validated kernel" []

/-- The check `load_image_items` makes on the device tree it loaded. -/
def validateDeviceTreeBlob : Drv σ Unit := do
  let magic ← ramLoad32 dtbRamAddr
  if bswap32 magic ≠ dtbMagic then
    serialLog "Error: couldn't find device tree blob magic" []
    signalError .imageContents
  else serialLog "Successfully validated device tree blob" []

/-- The number of blocks of the item at a RAM address, as an LBA increment. -/
def itemNblks (ramItemAddr : Word) : Drv σ Word := do
  let datasz ← ramLoad32 (ramItemAddr + 4)
  pure (BitVec.ofInt 32 (bytesToBlocks (itemsz datasz)))

/-- `load_image_items`. -/
def loadImageItems (card : Card) (imgPartLba : Word) : Drv σ Unit := do
  let itemLba := imgPartLba + 1
  loadItem card .kernel kernItemRamAddr itemLba
  validateKernel
  let itemLba := itemLba + (← itemNblks kernItemRamAddr)
  loadItem card .deviceTreeBlob dtbItemRamAddr itemLba
  validateDeviceTreeBlob
  let itemLba := itemLba + (← itemNblks dtbItemRamAddr)
  loadItem card .endItem heapGetBaseAddress itemLba

/-- The part of `c_entry` that reads the SD card. -/
def loadImage (card : Card) (imagePartition : Int) : Drv σ Unit := do
  let mbrBaseAddr ← loadMbr card imagePartition
  let imgPartLba ← loadImageHead card imagePartition mbrBaseAddr
  loadImageItems card imgPartLba

end Driver

end RpiBld
