/-
RpiBld/ErrorFree.lean

What a read of the loader leaves in RAM where the card is error-free and the
controller neither too fast nor too slow for the driver (`Ready`): the blocks,
and nothing else.  `Ready` is kept by every read, so a whole load is read off
block by block.  Too fast is a controller on whose schedule a read command fails
(`Setup.steady_iff_noneFails`); a read that does not fail leaves the same on any
other schedule (`reading_or_fails`).
-/
import RpiBld.BootChecks
import RpiBld.Sd.ReadBlocks

namespace RpiBld

open Traced Controller

variable {S : Setup} {card : Card} {w : World (Controller S)} {dest lba : Word}

/-- An idle controller that raises its flags soon enough, and not so fast that a read command fails,
with a card in it that the driver takes for what it is. -/
structure Ready (card : Card) (w : World (Controller S)) : Prop where
  card : Matches card S
  steady : S.Steady
  prompt : S.Prompt w.polls
  idle : Idle w.dev

/-- A read of whole blocks. -/
structure ReadsWell (dest : Word) (b n : Nat) (w : World (Controller S))
    (r : Reading (Controller S)) : Prop where
  result : r.result = .ok true
  ram : r.world.ram = overlay w.ram dest (sdBlksz * n) (S.medium.byteFrom b)
  served : r.world.dev.served = w.dev.served ++ S.medium.blocksFrom b n

/-- On every prompt schedule a read fails or reads what it was asked for; it does not fail on a
steady one. -/
theorem reading_or_fails (hcard : Matches card S) (hprompt : S.Prompt w.polls)
    (hidle : Idle w.dev) (haligned : addressAligned dest 4 = true) (lba : Word) {n : Nat}
    (hn : sdBlksz * n ≤ 2 ^ 32) :
    (ReadsWell dest lba.toNat n w (reading card dest lba n w) ∧
        (reading card dest lba n w).world.polls = w.polls ∧
        Idle (reading card dest lba n w).world.dev) ∨
      ¬ S.Steady ∧ (reading card dest lba n w).result = .ok false := by
  obtain ⟨t, ok, w', hrun, -, hread⟩ :=
    (sdReadBlocksCard_reads lba hcard hidle haligned n).returns hprompt
  have hemit : sdReadBlocks card dest lba n w = ⟨.sdRead dest lba n :: t, .ok ok, w'⟩ := by
    refine (Program.bind_of_ok rfl).trans ?_
    rw [hrun]
    rfl
  have hreading : reading card dest lba n w = ⟨.ok ok, w', dest, lba, n⟩ := by
    rw [reading, hemit]
  rw [hreading]
  rcases hread with ⟨rfl, hfetched⟩ | ⟨hunsteady, hok⟩
  · have hlen : (S.medium.blocksFrom lba.toNat n).length = n := length_blocksFrom _ _ _
    refine .inl ⟨⟨rfl, ?_, hfetched.served⟩, hfetched.polls, hfetched.idle⟩
    rw [hfetched.ram, storeBlocks_eq_overlay _ _ _ (by rw [hlen]; exact hn), hlen]
    exact overlay_congr fun j hj => Medium.bytesOf_blocksFrom _ hj
  · rw [Bool.eq_false_of_not_eq_true hok]
    exact .inr ⟨hunsteady, rfl⟩

theorem Ready.reading (h : Ready card w) (haligned : addressAligned dest 4 = true) (lba : Word)
    {n : Nat} (hn : sdBlksz * n ≤ 2 ^ 32) :
    ReadsWell dest lba.toNat n w (reading card dest lba n w) ∧
      Ready card (RpiBld.reading card dest lba n w).world := by
  rcases reading_or_fails h.card h.prompt h.idle haligned lba hn with
    ⟨hread, hpolls, hidle⟩ | ⟨hunsteady, -⟩
  · exact ⟨hread, h.card, h.steady, by rw [hpolls]; exact h.prompt, hidle⟩
  · exact absurd h.steady hunsteady

/-- One block. -/
theorem Ready.readsBlock (h : Ready card w) (dest : Word)
    (haligned : addressAligned dest 4 = true) (lba : Word) :
    ∃ w', ReadsBlock card dest lba (S.medium.byteFrom lba.toNat) w w' ∧ Ready card w' := by
  obtain ⟨hread, hready⟩ := h.reading haligned lba (n := 1) (by decide)
  refine ⟨_, ⟨?_, ?_⟩, hready⟩
  · calc RpiBld.reading card dest lba 1 w
        = ⟨(RpiBld.reading card dest lba ((1 : Nat) : Int) w).result,
            (RpiBld.reading card dest lba ((1 : Nat) : Int) w).world, dest, lba, 1⟩ := rfl
      _ = _ := by rw [hread.result]
  · intro j hj
    rw [hread.ram]
    exact overlay_offset (by omega) (by decide)

/-! ### A card -/

/-- A block-addressed card with these blocks, in a controller that raises a flag before every
access. -/
def cardSetup (block : Nat → Nat → Byte) : Setup where
  medium := ⟨true, block⟩
  raises _ := 1
  cardStatus := 0
  cardStatus_ok := sdCardStatusErrorBitSet_zero

/-- A machine with such a card. -/
def cardWorld (block : Nat → Nat → Byte) : World (Controller (cardSetup block)) where
  dev := ⟨0, 0, 0, 0, none, .idle, [], []⟩
  ram _ := 0
  polls := 1
  frame := 0

/-- What the driver takes the card for. -/
def sdhcCard : Card := { sdhcOrSdxc := true }

theorem cardWorld_ready (block : Nat → Nat → Byte) : Ready sdhcCard (cardWorld block) where
  card := rfl
  steady _ _ := Nat.le_refl 1
  prompt k := ⟨k, Nat.le_refl k, Nat.lt_succ_self k, Nat.one_ne_zero⟩
  idle := ⟨rfl, rfl⟩

end RpiBld
