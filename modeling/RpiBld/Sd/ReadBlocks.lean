/-
RpiBld/Sd/ReadBlocks.lean

`sd_read_blocks_card` against a controller, for each kind of card.

The loops of the source cut a read into passes of at most 65535 blocks, and a
pass into single or multi block commands, in the unit the card is addressed in.
`Fetched dest bs` says what any such piece does: the controller delivered the
blocks `bs` in order, and they are in RAM from `dest` on, one after the other.
Pieces compose (`Fetched.trans`), so each loop is one induction.

A controller that raises flags too fast may make a command fail (see
`RpiBld/Sd/ReadCommand.lean`); a `Steady` one never does.  `Reads` is the
outcome both ways.
-/
import RpiBld.Sd.ReadCommand

namespace RpiBld

open Traced Controller

/-! ### Lists of blocks -/

namespace Medium

variable (M : Medium)

/-- LBAs are 32 bits wide, and wrap as block numbers do. -/
theorem capacity_dvd : M.capacity ∣ 2 ^ 32 := by
  unfold capacity
  split
  · exact Nat.dvd_refl _
  · exact ⟨2 ^ 9, rfl⟩

/-- Only the block numbers modulo the capacity matter. -/
theorem blocksFrom_congr {b b' : Nat} (n : Nat) (h : b % M.capacity = b' % M.capacity) :
    M.blocksFrom b n = M.blocksFrom b' n := by
  apply List.map_congr_left
  intro i _
  rw [Nat.add_mod, h, ← Nat.add_mod]

theorem blocksFrom_one (b : Nat) : M.blocksFrom b 1 = [b % M.capacity] := rfl

theorem blocksFrom_append (b n k : Nat) :
    M.blocksFrom b n ++ M.blocksFrom (b + n) k = M.blocksFrom b (n + k) := by
  simp only [blocksFrom, List.range_add, List.map_append, List.map_map, Nat.add_assoc]
  rfl

/-- Advancing an LBA. -/
theorem blocksFrom_toNat_add (lba : Word) (k n : Nat) :
    M.blocksFrom (lba + BitVec.ofNat 32 k).toNat n = M.blocksFrom (lba.toNat + k) n := by
  apply M.blocksFrom_congr
  rw [BitVec.toNat_add, BitVec.toNat_ofNat, Nat.add_mod_mod, Nat.mod_mod_of_dvd _ M.capacity_dvd]

variable {M} in
theorem byteFrom_of_lt {b j : Nat} (hj : j < sdBlksz) (hb : b < M.capacity) :
    M.byteFrom b j = M.block b j := by
  rw [byteFrom, Nat.div_eq_of_lt hj, Nat.add_zero, Nat.mod_eq_of_lt hb, Nat.mod_eq_of_lt hj]

/-- The bytes of consecutive blocks. -/
theorem bytesOf_blocksFrom {b n j : Nat} (hj : j < sdBlksz * n) :
    M.bytesOf (M.blocksFrom b n) j = M.byteFrom b j := by
  have hlt : j / sdBlksz < n := Nat.div_lt_of_lt_mul hj
  have hget : (M.blocksFrom b n)[j / sdBlksz]? = some ((b + j / sdBlksz) % M.capacity) := by
    rw [blocksFrom, List.getElem?_map, List.getElem?_range hlt]
    rfl
  rw [bytesOf, byteFrom, List.getD_eq_getElem?_getD, hget]
  rfl

end Medium

theorem storeBlocks_append (M : Medium) (ram : Ram) (dest : Word) (bs bs' : List Nat) :
    storeBlocks M ram dest (bs ++ bs') =
      storeBlocks M (storeBlocks M ram dest bs) (dest + BitVec.ofNat 32 (sdBlksz * bs.length))
        bs' := by
  induction bs generalizing ram dest with
  | nil => rw [List.length_nil, Nat.mul_zero, BitVec.add_zero]; rfl
  | cons b bs ih =>
    rw [List.cons_append, storeBlocks, ih, storeBlocks, List.length_cons, Nat.mul_succ,
      BitVec.add_assoc, ← BitVec.ofNat_add, Nat.add_comm sdBlksz]

variable {S : Setup} {w w' w'' : World (Controller S)} {bs bs' : List Nat} {dest : Word}

/-- Blocks were delivered and are in RAM from `dest` on. -/
def Fetched (dest : Word) (bs : List Nat) (w w' : World (Controller S)) : Prop :=
  ∃ c, w' = { w with dev := c, ram := storeBlocks S.medium w.ram dest bs } ∧ Delivered w.dev c bs

namespace Fetched

theorem nil (hidle : Idle w.dev) : Fetched dest [] w w :=
  ⟨w.dev, rfl, hidle, (List.append_nil _).symm⟩

theorem idle (h : Fetched dest bs w w') : Idle w'.dev := by
  obtain ⟨c, rfl, hdelivered⟩ := h
  exact hdelivered.idle

theorem polls (h : Fetched dest bs w w') : w'.polls = w.polls := by
  obtain ⟨c, rfl, -⟩ := h
  rfl

theorem served (h : Fetched dest bs w w') : w'.dev.served = w.dev.served ++ bs := by
  obtain ⟨c, rfl, hdelivered⟩ := h
  exact hdelivered.served

theorem ram (h : Fetched dest bs w w') : w'.ram = storeBlocks S.medium w.ram dest bs := by
  obtain ⟨c, rfl, -⟩ := h
  rfl

/-- One read after the other, to adjoining places. -/
theorem trans (h : Fetched dest bs w w')
    (h' : Fetched (dest + BitVec.ofNat 32 (sdBlksz * bs.length)) bs' w' w'') :
    Fetched dest (bs ++ bs') w w'' := by
  obtain ⟨c, rfl, hdelivered⟩ := h
  obtain ⟨c', rfl, hdelivered'⟩ := h'
  refine ⟨c', ?_, hdelivered.trans hdelivered'⟩
  rw [storeBlocks_append]

/-- The same for consecutive blocks. -/
theorem append {lba : Word} {n k : Nat}
    (h : Fetched dest (S.medium.blocksFrom lba.toNat n) w w')
    (h' : Fetched (dest + BitVec.ofNat 32 (sdBlksz * n))
      (S.medium.blocksFrom (lba + BitVec.ofNat 32 n).toNat k) w' w'') :
    Fetched dest (S.medium.blocksFrom lba.toNat (n + k)) w w'' := by
  rw [← Medium.blocksFrom_append, ← Medium.blocksFrom_toNat_add]
  apply h.trans
  rw [length_blocksFrom]
  exact h'

end Fetched

/-- How a read of blocks ends: well, or on an unsteady schedule without success. -/
def Reads {α : Type} (m : Drv (Controller S) α) (good : α → Prop) (dest : Word) (bs : List Nat)
    (w : World (Controller S)) : Prop :=
  Does (¬ S.Prompt w.polls) m
    (fun a w' => good a ∧ Fetched dest bs w w' ∨ ¬ S.Steady ∧ ¬ good a) w

/-! ### Commands -/

variable {a : Word}

/-- `sd_issue_cmd17` reads the block at an address. -/
theorem sdIssueCmd17_reads (hidle : Idle w.dev) :
    Reads (sdIssueCmd17 dest a) (· = .none) dest [S.medium.blockAt a] w := by
  apply (sdIssueReadCmd_does dest hidle (.single a)).mono
  rintro e w' (⟨-, rfl, c, rfl, hdelivered, -⟩ | ⟨hrush, he⟩)
  · exact .inl ⟨rfl, c, rfl, hdelivered⟩
  · exact .inr ⟨fun hsteady => hrush (hsteady.calm _), he⟩

/-- `sd_issue_cmd18` reads as many blocks as CMD23 has announced. -/
theorem sdIssueCmd18_reads {n : Nat} (hidle : Idle w.dev) (hn : 1 ≤ n)
    (hpreset : w.dev.preset = some n) :
    Reads (sdIssueCmd18 dest a n) (· = .none) dest
      (S.medium.blocksFrom (S.medium.blockAt a) n) w := by
  have hdoes := sdIssueReadCmd_does dest hidle (.multi a n hn hpreset)
  rw [length_blocksFrom] at hdoes
  apply hdoes.mono
  rintro e w' (⟨-, rfl, c, rfl, hdelivered, -⟩ | ⟨hrush, he⟩)
  · exact .inl ⟨rfl, c, rfl, hdelivered⟩
  · exact .inr ⟨fun hsteady => hrush (hsteady.calm _), he⟩

/-- CMD23 sets the block count of the command that follows. -/
theorem setBlockCount_does (hidle : Idle w.dev) {n : Nat} (hn : n < 2 ^ 32) :
    Does (¬ S.Prompt w.polls) (sdIssueCmd CmdIndex.setBlockCount.code (BitVec.ofNat 32 n))
      (fun e w' => e = .none ∧ ∃ c, w' = { w with dev := c } ∧ Delivered w.dev c [] ∧
        c.preset = some n) w := by
  have hphase : (w.dev.issued CmdIndex.setBlockCount.cmdtm (BitVec.ofNat 32 n)).phase =
      .sent [] := by
    show Phase.sent (blocksAsked (S := S) _ CmdIndex.setBlockCount.field) = _
    unfold Controller.blocksAsked
    rw [if_neg (show CmdIndex.setBlockCount.field ≠ 17 by decide),
      if_neg (show CmdIndex.setBlockCount.field ≠ 18 by decide), ite_self]
  have hpreset : (w.dev.issued CmdIndex.setBlockCount.cmdtm (BitVec.ofNat 32 n)).preset =
      some n := by
    show (if CmdIndex.setBlockCount.field = 23 then some (BitVec.ofNat 32 n).toNat else none) = _
    rw [if_pos (by decide), BitVec.toNat_ofNat, Nat.mod_eq_of_lt hn]
  have hdue : Due interruptCmdComplete .idle
      (w.dev.issued CmdIndex.setBlockCount.cmdtm (BitVec.ofNat 32 n)) :=
    ⟨rfl, .inl ⟨rfl, by rw [hphase]; rfl⟩⟩
  have hissue := sdIssueCmd_does hidle rfl
    (sdWaitForInterrupt_due (w := { w with dev := w.dev.issued _ _ }) hdue flagOk_cmdComplete)
  apply hissue.mono
  rintro _ _ ⟨rfl, _, ⟨k, rfl⟩, rfl⟩
  refine ⟨rfl, _, rfl, ⟨⟨?_, ?_⟩, ?_⟩, ?_⟩ <;> dsimp only <;> rw [tick_quiet rfl]
  · rfl
  · rfl
  · exact (List.append_nil _).symm
  · exact hpreset

/-! ### The loops -/

/-- The address a card takes for an LBA. -/
def sdSrcAddr (card : Card) (lba : Word) : Word :=
  if card.sdhcOrSdxc then lba else lba * BitVec.ofNat 32 sdBlksz

/-- The driver takes the card for what it is. -/
def Matches (card : Card) (S : Setup) : Prop := card.sdhcOrSdxc = S.medium.blockAddressed

variable {card : Card} {lba : Word}

theorem blockAt_sdSrcAddr (hcard : Matches card S) (lba : Word) :
    S.medium.blockAt (sdSrcAddr card lba) = lba.toNat % S.medium.capacity := by
  unfold Matches at hcard
  unfold Medium.blockAt Medium.capacity sdSrcAddr
  rw [← hcard]
  cases card.sdhcOrSdxc with
  | true => exact (Nat.mod_eq_of_lt lba.isLt).symm
  | false =>
    have hsplit : 2 ^ 32 = sdBlksz * 2 ^ 23 := rfl
    simp only [Bool.false_eq_true, if_false]
    rw [BitVec.toNat_mul, BitVec.toNat_ofNat, Nat.mod_eq_of_lt (show sdBlksz < 2 ^ 32 by decide),
      hsplit, Nat.mul_comm, Nat.mul_mod_mul_left, Nat.mul_div_cancel_left _ (by decide)]

/-- One block further on the card. -/
theorem sdSrcAddr_succ (card : Card) (lba : Word) :
    sdSrcAddr card lba + sdAddrStep card = sdSrcAddr card (lba + BitVec.ofNat 32 1) := by
  unfold sdSrcAddr sdAddrStep
  cases card.sdhcOrSdxc with
  | true => rfl
  | false =>
    simp only [Bool.false_eq_true, if_false]
    rw [BitVec.add_mul, show BitVec.ofNat 32 1 * BitVec.ofNat 32 sdBlksz = BitVec.ofNat 32 sdBlksz
      from BitVec.one_mul _]

/-- The loop over single block transfers reads block after block. -/
theorem readSingleBlocks_reads (hcard : Matches card S) (hidle : Idle w.dev) (n : Nat) :
    Reads (readSingleBlocks card dest (sdSrcAddr card lba) n) (·.1 = .none) dest
      (S.medium.blocksFrom lba.toNat n) w := by
  induction n generalizing w dest lba with
  | zero => exact Does.pure (.inl ⟨rfl, Fetched.nil hidle⟩)
  | succ n ih =>
    apply (sdIssueCmd17_reads hidle).bind
    rintro e w' (⟨rfl, hfirst⟩ | ⟨hunsteady, he⟩)
    · apply Does.ite (fun hne => absurd rfl hne)
      intro _
      rw [sdSrcAddr_succ, ← hfirst.polls]
      apply (ih hfirst.idle).mono
      rintro ⟨e, d⟩ w'' (⟨he, hrest⟩ | hbad)
      · left
        refine ⟨he, ?_⟩
        rw [blockAt_sdSrcAddr hcard, ← Medium.blocksFrom_one] at hfirst
        have hboth := hfirst.append hrest
        rwa [Nat.add_comm] at hboth
      · exact .inr hbad
    · apply Does.ite
      · intro _
        exact Does.pure (.inr ⟨hunsteady, he⟩)
      · intro hnone
        exact absurd (not_not.mp hnone) he

/-- The commands of one pass, whichever the card calls for. -/
theorem transferBlocks_reads (hcard : Matches card S) (hidle : Idle w.dev) {n : Nat}
    (hn : n < 2 ^ 32) :
    Reads (transferBlocks card dest (sdSrcAddr card lba) n) (·.1 = .none) dest
      (S.medium.blocksFrom lba.toNat n) w := by
  apply Does.ite
  · rintro rfl
    apply (sdIssueCmd17_reads hidle).bind
    rw [Medium.blocksFrom_one, blockAt_sdSrcAddr hcard]
    intro e w' h
    exact Does.pure h
  intro hne
  apply Does.ite
  · intro hlt
    apply Does.ite
    · intro _
      apply (setBlockCount_does hidle hn).bind
      rintro _ _ ⟨rfl, c, rfl, hannounced, hpreset⟩
      apply Does.ite
      · intro _
        apply (sdIssueCmd18_reads (w := { w with dev := c }) hannounced.idle (Nat.le_of_lt hlt)
          hpreset).bind
        rintro e w' (⟨he, c', rfl, hdelivered⟩ | hbad)
        · refine Does.pure (.inl ⟨he, c', ?_, ?_⟩)
          · rw [blockAt_sdSrcAddr hcard, Medium.blocksFrom_congr _ n (Nat.mod_mod _ _)]
          · have hboth := hannounced.trans hdelivered
            rwa [List.nil_append, blockAt_sdSrcAddr hcard,
              Medium.blocksFrom_congr _ n (Nat.mod_mod _ _)] at hboth
        · exact Does.pure (.inr hbad)
      · intro hfailed
        exact absurd rfl hfailed
    · intro _
      exact readSingleBlocks_reads hcard hidle n
  · intro hle
    obtain rfl : n = 0 := by omega
    exact Does.pure (.inl ⟨rfl, Fetched.nil hidle⟩)

/-- One pass. -/
theorem sdReadBlocksCardPass_reads (hcard : Matches card S) (hidle : Idle w.dev) {n : Nat}
    (hn : n < 2 ^ 32) (haligned : addressAligned dest 4 = true) :
    Reads (sdReadBlocksCardPass dest lba n card) (· = true) dest
      (S.medium.blocksFrom lba.toNat n) w := by
  apply Does.ite (fun hne => absurd haligned hne)
  intro _
  apply (transferBlocks_reads hcard hidle hn).bind
  rintro ⟨e, d, s, m⟩ w' (⟨rfl, hfetched⟩ | ⟨hunsteady, he⟩)
  · apply Does.ite (fun hne => absurd rfl hne)
    intro _
    exact Does.pure (.inl ⟨rfl, hfetched⟩)
  · apply Does.ite
    · intro _
      apply Does.log_bind
      exact Does.pure (.inr ⟨hunsteady, Bool.false_ne_true⟩)
    · intro hnone
      exact absurd (not_not.mp hnone) he

/-- The address of the next pass is aligned if this one is. -/
theorem addressAligned_add (haligned : addressAligned dest 4 = true) (n : Nat) :
    addressAligned (dest + BitVec.ofNat 32 (sdBlksz * n)) 4 = true := by
  have h4 : (4 : Nat) ∣ 2 ^ 32 := ⟨2 ^ 30, rfl⟩
  have h512 : sdBlksz * n % 4 = 0 := by
    rw [show sdBlksz * n = 4 * (128 * n) by rw [← Nat.mul_assoc]; rfl, Nat.mul_mod_right]
  rw [show (4 : Int) = ((4 : Nat) : Int) from rfl, addressAligned_iff h4] at haligned ⊢
  rw [BitVec.toNat_add, Nat.mod_mod_of_dvd _ h4, Nat.add_mod, haligned, BitVec.toNat_ofNat,
    Nat.mod_mod_of_dvd _ h4, h512]

theorem sdReadBlocksCard_of_nonpos {σ : Type} [Device σ] {n : Int} (hn : n ≤ 0) :
    (sdReadBlocksCard dest lba n card : Drv σ Bool) = pure true := by
  unfold sdReadBlocksCard
  exact dif_neg (by omega)

/-- `sd_read_blocks_card` reads the blocks from `lba` on, all of them or, on an unsteady
schedule, maybe fewer. -/
theorem sdReadBlocksCard_reads (lba : Word) (hcard : Matches card S) (hidle : Idle w.dev)
    (haligned : addressAligned dest 4 = true) (n : Nat) :
    Reads (sdReadBlocksCard dest lba n card) (· = true) dest
      (S.medium.blocksFrom lba.toNat n) w := by
  induction n using Nat.strong_induction_on generalizing w dest lba with
  | _ n ih =>
    unfold sdReadBlocksCard
    by_cases hpos : 0 < (n : Int)
    · rw [dif_pos hpos]
      rw [Int.toNat_natCast]
      apply (sdReadBlocksCardPass_reads hcard hidle (by simp only [uint16Max]; omega) haligned).bind
      rintro ok w' (⟨rfl, hfirst⟩ | ⟨hunsteady, hok⟩)
      · apply Does.ite (fun hne => absurd rfl hne)
        intro _
        rcases Nat.lt_or_ge uint16Max n with hlong | hshort
        -- a full pass, and the rest
        · rw [Nat.min_eq_right (Nat.le_of_lt hlong)] at hfirst
          rw [← Int.ofNat_sub (Nat.le_of_lt hlong), ← hfirst.polls]
          apply (ih (n - uint16Max) (by simp only [uint16Max]; omega) _ hfirst.idle
            (addressAligned_add haligned uint16Max)).mono
          rintro ok w'' (⟨rfl, hsecond⟩ | hbad)
          · left
            refine ⟨rfl, ?_⟩
            have hboth := hfirst.append hsecond
            rwa [Nat.add_sub_cancel' (Nat.le_of_lt hlong)] at hboth
          · exact .inr hbad
        -- the last pass
        · rw [Nat.min_eq_left hshort] at hfirst
          rw [sdReadBlocksCard_of_nonpos (by omega)]
          exact Does.pure (.inl ⟨rfl, hfirst⟩)
      · apply Does.ite
        · intro _
          exact Does.pure (.inr ⟨hunsteady, Bool.false_ne_true⟩)
        · intro hok'
          exact absurd (not_not.mp hok') hok
    · rw [dif_neg hpos]
      obtain rfl : n = 0 := by omega
      exact Does.pure (.inl ⟨rfl, Fetched.nil hidle⟩)

end RpiBld
