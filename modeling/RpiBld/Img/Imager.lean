/-
RpiBld/Img/Imager.lean

The imager (`img/img.c`), a program of the host that builds an image out of a
kernel and a device tree file and writes it to a partition.

The operating system is a `Host η`, a state type with one operation for each
call the imager makes.  Allocated memory holds whatever the host left there,
any call may fail, and `read` and `write` may be short; the result types say
what the two can return.  An image is a block of host memory, and its fields
are words in it: `img->imgsz` is the word at offset 4, also where the code has
just overwritten it.

Integers are converted as a 64-bit host does; a sum that leaves the range of
`int` wraps.
-/
import RpiBld.Img.Format

namespace RpiBld

open Traced

/-! ### Integers of the host -/

/-- The conversion to `int`. -/
def cInt (x : Int) : Int := (x + 2 ^ 31) % 2 ^ 32 - 2 ^ 31

/-- The conversion to `size_t`. -/
def cSizeT (x : Int) : Int := x % 2 ^ 64

/-! ### The operating system -/

/-- Memory of the host, from the start of an allocated block on. -/
abbrev HostMem := BitVec 64 → Byte

/-- What `read` returns where `avail` bytes of the file are left for it. -/
inductive ReadResult (avail : Nat)
  | error
  | count (n : Nat) (le : n ≤ avail) (eof : n = 0 → avail = 0)

/-- What `write` returns: `-1`, or how many of the requested bytes it wrote. -/
inductive WriteResult (requested : Nat)
  | error
  | count (n : Nat) (pos : 0 < n) (le : n ≤ requested)

/-- What the imager asks of the operating system. -/
class Host (η : Type) where
  openFile : String → η → Bool × η
  fstat : String → η → Bool × η
  read : (avail : Nat) → η → ReadResult avail × η
  malloc : Int → η → Option HostMem × η
  write : (requested : Nat) → η → WriteResult requested × η
  strerror : η → String

/-- The files of the host. -/
abbrev Files := String → List Byte

/-- What can be seen of a run of the imager: what it prints, and what is written to the
partition. -/
inductive HostEvent
  | print (fmt : String) (args : List String)
  | write (bytes : List Byte)
  deriving DecidableEq, Repr

/-- The imager goes wrong: it follows a null pointer, or writes past a block. -/
inductive HostHalt
  | fault
  deriving DecidableEq, Repr

/-- A program of the host. -/
abbrev HostProg (η : Type) := Program HostHalt HostEvent η

/-- An allocated block. -/
structure Block where
  mem : HostMem
  size : Int

section Imager

variable {η : Type} [Host η]

/-- `RDWR_SZ`. -/
def rdwrSz : Int := 4096

/-- `fprintf` and `printf`. -/
def printMessage (fmt : String) (args : List String) : HostProg η Unit :=
  Program.emit (.print fmt args)

/-- A message that ends with `strerror(errno)`. -/
def printError (fmt : String) (args : List String) : HostProg η Unit := do
  let reason ← Program.view Host.strerror
  printMessage fmt (args ++ [reason])

/-- `malloc`. -/
def malloc (size : Int) : HostProg η (Option Block) := do
  let mem ← Program.change (Host.malloc size)
  pure (mem.map fun mem => ⟨mem, size⟩)

/-- `realloc`: what fits of the old block is in the new one. -/
def realloc (block : Block) (size : Int) : HostProg η (Option Block) := do
  let mem ← Program.change (Host.malloc size)
  pure (mem.map fun mem =>
    ⟨overlay mem 0 (min block.size size).toNat fun i => block.mem (BitVec.ofNat 64 i), size⟩)

/-! ### Reading the files -/

/-- `filesz`: the `off_t` of the file's size is cut to an `int`. -/
def filesz (files : Files) (fpath : String) : HostProg η Int := do
  if ← Program.change (Host.fstat fpath) then pure (cInt (files fpath).length)
  else pure (-1)

/-- The read loop of `file_read`; `cur` bytes have been read. -/
def fileReadLoop (fpath : String) (content : List Byte) (block : Block) (cur : Nat) :
    HostProg η (Option Block) := do
  match ← Program.change (Host.read (min rdwrSz.toNat (content.length - cur))) with
  | .error =>
    printError "Error reading from file %s: %s\n" [fpath]
    pure none
  | .count n _le _eof =>
    if _h : 0 < n then
      if block.size < cur + n then Program.halt .fault
      else
        let bytes := overlay block.mem (BitVec.ofNat 64 cur) n fun i => content.getD (cur + i) 0
        fileReadLoop fpath content { block with mem := bytes } (cur + n)
    else pure (some block)
termination_by content.length - cur
decreasing_by omega

/-- `file_read`: the contents and the size of a file. -/
def fileRead (files : Files) (fpath : String) : HostProg η (Option (Block × Int)) := do
  if ¬ (← Program.change (Host.openFile fpath)) then
    printError "Error opening file %s for reading: %s\n" [fpath]
    pure none
  else
  let fsz ← filesz files fpath
  if fsz = -1 then
    printError "Error getting size of file %s: %s\n" [fpath]
    pure none
  else
  match ← malloc (cSizeT fsz) with
  | none =>
    printError "Error allocating memory: %s\n" []
    pure none
  | some mem =>
    let mem ← fileReadLoop fpath (files fpath) mem 0
    pure (mem.map fun mem => (mem, fsz))

/-! ### Building the image -/

/-- `round_up_multiple`. -/
def roundUpMultiple (n m : Int) : Int :=
  if n.tmod m ≠ 0 then cInt (n + (m - n.tmod m)) else n

/-- The data size `image_append_item` gives an item. -/
def dataszAfterPad (datasz : Int) : Int :=
  cInt (cSizeT (roundUpMultiple (cInt (cSizeT (sizeofItem + datasz))) sdBlksz - sizeofItem))

/-- `img->imgsz`. -/
def Block.imgsz (img : Block) : Word := load32 img.mem 4

/-- The part of `image_append_item` after the `realloc`: a new item at the end of the
image. -/
def imageAppendAtEnd (img : Block) (id : ItemId) (datasz : Int) (data : HostMem) : Block :=
  let item : BitVec 64 := img.imgsz.zeroExtend 64
  let mem := store32 img.mem item id.code
  let mem := store32 mem (item + 4) (BitVec.ofInt 32 (dataszAfterPad datasz))
  let mem :=
    if datasz ≠ 0 then
      overlay mem (item + 8) (cSizeT datasz).toNat fun i => data (BitVec.ofNat 64 i)
    else mem
  let imgsz := load32 mem 4 + BitVec.ofInt 32 (sizeofItem + dataszAfterPad datasz)
  { img with mem := store32 mem 4 imgsz }

/-- `image_append_item`. -/
def imageAppendItem (img : Block) (id : ItemId) (datasz : Int) (data : HostMem) :
    HostProg η (Option Block) := do
  match ← realloc img (cSizeT (img.imgsz.toNat + (sizeofItem + dataszAfterPad datasz))) with
  | none =>
    printError "Error allocating memory: %s\n" []
    pure none
  | some img => pure (some (imageAppendAtEnd img id datasz data))

/-- `image_append_file`.  The image and the file's contents are freed where
`image_append_file_free_on_fail` and this function free them; nothing is kept of either. -/
def imageAppendFile (files : Files) (img : Block) (fpath : String) (id : ItemId) :
    HostProg η (Option Block) := do
  match ← fileRead files fpath with
  | none => pure none
  | some (fileContents, fsz) => imageAppendItem img id fsz fileContents.mem

/-- `build_image`.  The first allocation is not checked. -/
def buildImage (files : Files) (kernFpath dtbFpath : String) : HostProg η (Option Block) := do
  match ← malloc sizeofImage with
  | none => Program.halt .fault
  | some img =>
    let img := { img with mem := store32 img.mem 0 imgMagic }
    let img := { img with mem := store32 img.mem 4 (BitVec.ofNat 32 sizeofImage) }
    match ← imageAppendFile files img kernFpath .kernel with
    | none => pure none
    | some img =>
      match ← imageAppendFile files img dtbFpath .deviceTreeBlob with
      | none => pure none
      | some img => imageAppendItem img .endItem 0 fun _ => 0

/-! ### Writing the image -/

/-- The write loop of `file_write`: `n` bytes from `mem` on are left. -/
def fileWriteLoop (fpath : String) (img : HostMem) (mem : BitVec 64) (n : Int) :
    HostProg η Bool :=
  if _h : 0 < n then do
    match ← Program.change (Host.write (if n < rdwrSz then n else rdwrSz).toNat) with
    | .error =>
      printError "Error writing to file %s: %s\n" [fpath]
      pure false
    | .count bytesWritten _pos _le =>
      Program.emit (.write (cells img mem bytesWritten))
      fileWriteLoop fpath img (mem + BitVec.ofNat 64 bytesWritten) (n - bytesWritten)
  else pure true
termination_by n.toNat
decreasing_by omega

/-- `file_write`. -/
def fileWrite (fpath : String) (img : HostMem) (n : Int) : HostProg η Bool := do
  if ¬ (← Program.change (Host.openFile fpath)) then
    printError "Error opening file %s for writing: %s\n" [fpath]
    pure false
  else fileWriteLoop fpath img 0 n

/-! ### The program -/

/-- `EXIT_SUCCESS`. -/
def exitSuccess : Int := 0

/-- `EXIT_FAILURE`. -/
def exitFailure : Int := 1

/-- `print_usage`. -/
def printUsage : HostProg η Unit :=
  printMessage
    "Usage: 'imager <part> <kern> <dtb>' where <part> is the block\ndevice partition for a MBR primary partition, e.g. /dev/sdc2, and\nis where the remaining arguments will be stored. <kern> is the\n(compressed) 32-bit Linux kernel ARM zImage to boot, and <dtb> is\nthe device tree blob that will be passed to the kernel.\n\nUse arg -h or --help to print this message again.\n"
    []

/-- `any_arg_is_help`. -/
def anyArgIsHelp (argv : List String) : Bool :=
  argv.tail.any fun arg => arg == "-h" || arg == "--help"

/-- What `main` does with what `build_image` returned. -/
def writeImage (part : String) : Option Block → HostProg η Int
  | none => pure exitFailure
  | some img => do
    if ← fileWrite part img.mem img.imgsz.toInt then
      printMessage "Wrote image of size %d bytes to partition %s\n"
        [toString img.imgsz.toInt, part]
      pure exitSuccess
    else pure exitFailure

/-- `main`. -/
def main (files : Files) (argv : List String) : HostProg η Int :=
  if anyArgIsHelp argv then do
    printUsage
    pure exitSuccess
  else
    match argv with
    | [_, part, kernFpath, dtbFpath] => do
      let img ← buildImage files kernFpath dtbFpath
      writeImage part img
    | _ => do
      printUsage
      pure exitFailure

end Imager

end RpiBld
