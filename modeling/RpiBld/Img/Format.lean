/-
RpiBld/Img/Format.lean

The image format (`include/img.h`, `include/sd_blksz.h`), shared between the
imager, which builds an image, and the bootloader, which loads it.
-/
import RpiBld.Machine

namespace RpiBld

open Traced

/-- `SD_BLKSZ`. -/
def sdBlksz : Nat := 512

/-- `IMG_MAGIC`. -/
def imgMagic : Word := 0xF00BA12

/-- `enum item_id`. -/
inductive ItemId
  | endItem | kernel | deviceTreeBlob
  deriving DecidableEq, Repr

def ItemId.code : ItemId → Word
  | .endItem => 0
  | .kernel => 1
  | .deviceTreeBlob => 2

/-- `sizeof(struct item)`: the id and the data size. -/
def sizeofItem : Nat := 8

/-- `sizeof(struct image)`: the magic, the image size, and padding up to a block. -/
def sizeofImage : Nat := sdBlksz

end RpiBld
