/-
RpiBld/PartitionSize.lean

The check of the image head against the size of its partition (`load_mbr`,
`load_image_head`).

The loader compares the image size in bytes with `nblks*SD_BLKSZ`, a product of
32-bit words.  It never lets an image pass that does not fit
(`le_of_wrapped_le`); but from 4 GiB on the product has wrapped, and an image
is turned away although it fits.  The verdict is right exactly where it has not
wrapped or what is left of it suffices (`loadImageHead_judges_iff`).
-/
import RpiBld.ErrorFree

namespace RpiBld

open Traced

/-! ### MBR and image head -/

/-- A field of the entry of partition `i`. -/
def partEntryField (mbr : Nat → Byte) (i off : Nat) : Word :=
  leWord fun k => mbr (0x1be + 16 * (i - 1) + off + k)

/-- The first block of partition `i`. -/
def partLba (mbr : Nat → Byte) (i : Nat) : Word := partEntryField mbr i 8

/-- The number of blocks of partition `i`. -/
def partNblks (mbr : Nat → Byte) (i : Nat) : Word := partEntryField mbr i 12

/-- The magic of an image head. -/
def headMagic (head : Nat → Byte) : Word := leWord head

/-- The image size an image head declares. -/
def headImgsz (head : Nat → Byte) : Word := leWord fun k => head (4 + k)

/-- The verdict on the image of partition `i`: an image that fits is accepted, nothing else is, and
the block it starts at is returned. -/
structure Judges (mbr head : Nat → Byte) (i : Nat) (r : Except Halt Word) : Prop where
  accepts : (∃ lba, r = .ok lba) ↔
    headMagic head = imgMagic ∧ (headImgsz head).toNat ≤ sdBlksz * (partNblks mbr i).toNat
  returns : ∀ lba, r = .ok lba → lba = partLba mbr i

/-! ### The product -/

theorem toNat_nblks_mul (nblks : Word) :
    (nblks * BitVec.ofNat 32 sdBlksz).toNat = sdBlksz * nblks.toNat % 2 ^ 32 := by
  rw [BitVec.toNat_mul, Nat.mul_comm]
  rfl

/-- What fits into the wrapped size fits. -/
theorem le_of_wrapped_le {imgsz nblks : Word} (h : imgsz ≤ nblks * BitVec.ofNat 32 sdBlksz) :
    imgsz.toNat ≤ sdBlksz * nblks.toNat := by
  have hle : imgsz.toNat ≤ sdBlksz * nblks.toNat % 2 ^ 32 := by
    rw [← toNat_nblks_mul]
    exact BitVec.le_def.mp h
  exact hle.trans (Nat.mod_le _ _)

/-- The wrapped size decides right on an image of this size. -/
theorem fits_iff_wrapped {imgsz nblks : Word} :
    (imgsz ≤ nblks * BitVec.ofNat 32 sdBlksz ↔ imgsz.toNat ≤ sdBlksz * nblks.toNat) ↔
      sdBlksz * nblks.toNat < 2 ^ 32 ∨ imgsz.toNat ≤ sdBlksz * nblks.toNat % 2 ^ 32 := by
  have hword : imgsz ≤ nblks * BitVec.ofNat 32 sdBlksz ↔
      imgsz.toNat ≤ sdBlksz * nblks.toNat % 2 ^ 32 := by
    rw [BitVec.le_def, toNat_nblks_mul]
  constructor
  · intro h
    by_cases hsmall : sdBlksz * nblks.toNat < 2 ^ 32
    · exact .inl hsmall
    · -- Every image fits into 4 GiB.
      have hfits : imgsz.toNat ≤ sdBlksz * nblks.toNat := by
        have hlt := imgsz.isLt
        omega
      exact .inr (hword.mp (h.mpr hfits))
  · rintro (hsmall | hle)
    · rw [hword, Nat.mod_eq_of_lt hsmall]
    · exact ⟨fun h => le_of_wrapped_le h, fun _ => hword.mpr hle⟩

/-! ### The verdict -/

section Verdict

variable {σ : Type} [Device σ] {card : Card} {w w' w'' : World σ} {mbr head : Nat → Byte} {i : Nat}

/-- How the loader ends on an MBR with the signature and an image head. -/
theorem loadImageHead_result (hi : 1 ≤ i ∧ i ≤ 4) (hsig : mbr 0x1ff ++ mbr 0x1fe = mbrMagicValue)
    (hmbr : ReadsBlock card heapGetBaseAddress 0 mbr w w') :
    ((loadMbr card i >>= loadImageHead card i) w).result =
      match failure (headChecks card (partLba mbr i) (partNblks mbr i) w') with
      | none => .ok (partLba mbr i)
      | some h => .error h := by
  have hlba : mbrGetPartitionLba w'.ram heapGetBaseAddress i = partLba mbr i :=
    hmbr.partEntryField hi _ (by decide)
  have hnblks : mbrGetPartitionNblks w'.ram heapGetBaseAddress i = partNblks mbr i :=
    hmbr.partEntryField hi _ (by decide)
  have hmbrPass : failure (mbrChecks card i w) = none := by
    rw [mbrChecks_pass_iff, hmbr.world]
    refine ⟨hmbr.check, hmbr.mbrMagic.mpr hsig, ?_⟩
    rw [mbrPartitionValid, mbrFirstPartNr, mbrLastPartNr]
    simp only [Bool.and_eq_true, decide_eq_true_eq]
    omega
  have hload : Performs (loadMbr card i) (mbrChecks card i w) heapGetBaseAddress w
      (reading card heapGetBaseAddress 0 1 w).world := loadMbr_performs card i
  rw [hmbr.world] at hload
  have hresult := (hload.bind (loadImageHead_performs card i)).result
  rw [failure_append, hmbrPass, hlba, hnblks] at hresult
  exact hresult

theorem headChecks_verdict (hhead : ReadsBlock card heapGetBaseAddress (partLba mbr i) head w' w'') :
    failure (headChecks card (partLba mbr i) (partNblks mbr i) w') = none ↔
      headMagic head = imgMagic ∧ headImgsz head ≤ partNblks mbr i * BitVec.ofNat 32 sdBlksz := by
  have himgsz : load32 w''.ram (heapGetBaseAddress + 4) = headImgsz head :=
    hhead.load32 4 (by decide)
  rw [headChecks_pass_iff, hhead.world, hhead.load32_first, himgsz]
  exact and_iff_right hhead.check

/-- **The verdict on an image is right** exactly if the image head lacks the magic, or the partition
is smaller than 4 GiB, or what is left of its wrapped size holds the image. -/
theorem loadImageHead_judges_iff (hi : 1 ≤ i ∧ i ≤ 4)
    (hsig : mbr 0x1ff ++ mbr 0x1fe = mbrMagicValue)
    (hmbr : ReadsBlock card heapGetBaseAddress 0 mbr w w')
    (hhead : ReadsBlock card heapGetBaseAddress (partLba mbr i) head w' w'') :
    Judges mbr head i ((loadMbr card i >>= loadImageHead card i) w).result ↔
      headMagic head ≠ imgMagic ∨ sdBlksz * (partNblks mbr i).toNat < 2 ^ 32 ∨
        (headImgsz head).toNat ≤ sdBlksz * (partNblks mbr i).toNat % 2 ^ 32 := by
  have hresult := loadImageHead_result hi hsig hmbr
  have hverdict := headChecks_verdict hhead
  generalize failure (headChecks card (partLba mbr i) (partNblks mbr i) w') = f at hresult hverdict
  rw [hresult]
  have hok : (∃ lba, (match f with
      | none => .ok (partLba mbr i)
      | some h => .error h : Except Halt Word) = .ok lba) ↔ f = none := by
    cases f with
    | none => simp
    | some h => simp
  have hreturns : ∀ lba, (match f with
      | none => .ok (partLba mbr i)
      | some h => .error h : Except Halt Word) = .ok lba → lba = partLba mbr i := by
    intro lba hlba
    cases f with
    | none => exact (Except.ok.inj hlba).symm
    | some h => cases hlba
  rw [← fits_iff_wrapped]
  constructor
  · intro h
    by_cases hmagic : headMagic head = imgMagic
    · right
      have haccepts := h.accepts
      rw [hok, hverdict] at haccepts
      simpa only [hmagic, true_and] using haccepts
    · exact .inl hmagic
  · intro h
    refine ⟨?_, hreturns⟩
    rw [hok, hverdict]
    rcases h with hmagic | hfits
    · simp only [hmagic, false_and]
    · rw [hfits]

end Verdict

/-! ### Two cards -/

/-- A card with a partition from block 1 on whose number of blocks is this word, and the head of an
image of 2048 bytes in it. -/
def sizedPartition (nblks : Word) (b j : Nat) : Byte :=
  match b, j with
  | 0, 0x1c6 => 1
  | 0, 0x1ca => leByte nblks 0
  | 0, 0x1cb => leByte nblks 1
  | 0, 0x1cc => leByte nblks 2
  | 0, 0x1cd => leByte nblks 3
  | 0, 0x1fe => 0x55
  | 0, 0x1ff => 0xaa
  | 1, 0 => 0x12
  | 1, 1 => 0xba
  | 1, 3 => 0x0f
  | 1, 5 => 8
  | _, _ => 0

theorem partLba_sizedPartition (nblks : Word) : partLba (sizedPartition nblks 0) 1 = 1 := by
  rw [partLba, partEntryField]
  simp only [leWord, sizedPartition]
  decide

/-- Both blocks of such a card are read. -/
theorem sizedPartition_reads (nblks : Word) : ∃ w' w'',
    ReadsBlock sdhcCard heapGetBaseAddress 0 (sizedPartition nblks 0)
        (cardWorld (sizedPartition nblks)) w' ∧
      ReadsBlock sdhcCard heapGetBaseAddress (partLba (sizedPartition nblks 0) 1)
        (sizedPartition nblks 1) w' w'' := by
  have haligned : addressAligned heapGetBaseAddress 4 = true := by decide
  obtain ⟨w', hmbr, hready⟩ :=
    (cardWorld_ready (sizedPartition nblks)).readsBlock heapGetBaseAddress haligned 0
  obtain ⟨w'', hhead, -⟩ := hready.readsBlock heapGetBaseAddress haligned 1
  have hcapacity : (cardSetup (sizedPartition nblks)).medium.capacity = 2 ^ 32 := rfl
  rw [partLba_sizedPartition]
  refine ⟨w', w'', hmbr.congr fun j hj => ?_, hhead.congr fun j hj => ?_⟩
  · exact Medium.byteFrom_of_lt hj (by rw [hcapacity]; decide)
  · exact Medium.byteFrom_of_lt hj (by rw [hcapacity]; decide)

/-- A partition of four blocks holds the image. -/
theorem loadImageHead_judges_iff_four : Judges (sizedPartition 4 0) (sizedPartition 4 1) 1
    ((loadMbr sdhcCard 1 >>= loadImageHead sdhcCard 1) (cardWorld (sizedPartition 4))).result := by
  obtain ⟨w', w'', hmbr, hhead⟩ := sizedPartition_reads 4
  have hi : 1 ≤ 1 ∧ 1 ≤ 4 := by decide
  exact (loadImageHead_judges_iff hi (by decide) hmbr hhead).mpr (.inr (.inl (by decide)))

/-- So does one of 4 GiB, and the image is turned away. -/
theorem not_judges_fourGiB :
    (∃ w' w'', ReadsBlock sdhcCard heapGetBaseAddress 0 (sizedPartition 0x800000 0)
        (cardWorld (sizedPartition 0x800000)) w' ∧
      ReadsBlock sdhcCard heapGetBaseAddress (partLba (sizedPartition 0x800000 0) 1)
        (sizedPartition 0x800000 1) w' w'') ∧
    ¬ Judges (sizedPartition 0x800000 0) (sizedPartition 0x800000 1) 1
      ((loadMbr sdhcCard 1 >>= loadImageHead sdhcCard 1)
        (cardWorld (sizedPartition 0x800000))).result := by
  refine ⟨sizedPartition_reads _, fun h => ?_⟩
  obtain ⟨w', w'', hmbr, hhead⟩ := sizedPartition_reads 0x800000
  obtain ⟨lba, hlba⟩ := h.accepts.mpr (by decide)
  have hi : 1 ≤ 1 ∧ 1 ≤ 4 := by decide
  have hfail : failure (headChecks sdhcCard (partLba (sizedPartition 0x800000 0) 1)
      (partNblks (sizedPartition 0x800000 0) 1) w') ≠ none := by
    rw [Ne, headChecks_verdict hhead]
    decide
  obtain ⟨x, hx⟩ := Option.ne_none_iff_exists'.mp hfail
  have hresult := loadImageHead_result hi (by decide) hmbr
  rw [hx] at hresult
  cases hresult.symm.trans hlba

end RpiBld
