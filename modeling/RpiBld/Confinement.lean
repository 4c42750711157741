/-
RpiBld/Confinement.lean

Where the SD reads of the loader may write, whatever the card and the
controller do.

`StaysWithin lo hi k m` says of every run of `m`, on every device and however
it ends: each word stored and each `sd_read_blocks` request lies in
`[lo, hi)`, at most `k` words are read from `DATA`, and no byte of RAM outside
`[lo, hi)` changes.  It composes along `>>=` with the budgets added up, so the
only places where an address is looked at are the copy loop, the two block
loops and the multi-pass loop.

Main results:
* `sdReadBlocksCard_staysWithin` -- a read of `n` blocks stays within them;
* `loadItem_staysWithin` -- a card-supplied size never reaches past 2 GiB;
* `loadImage_confined` -- the whole loader, for every card content.
-/
import RpiBld.Boot

namespace RpiBld

open Traced

/-- The events that read a word of card data. -/
def isDataRead : Event → Bool
  | .get (.sd .data) _ => true
  | _ => false

/-- What the events and the RAM of a run may show. -/
structure Confined (lo hi k : Nat) (t : List Event) (ram ram' : Ram) : Prop where
  store : ∀ a v, Event.store a v ∈ t → lo ≤ a.toNat ∧ a.toNat + 4 ≤ hi
  sdRead : ∀ dest lba n, Event.sdRead dest lba n ∈ t →
    0 ≤ n ∧ lo ≤ dest.toNat ∧ (dest.toNat : Int) + sdBlksz * n ≤ hi
  words : t.countP isDataRead ≤ k
  frame : ∀ x : Word, x.toNat < lo ∨ hi ≤ x.toNat → ram' x = ram x

namespace Confined

variable {lo hi k k' : Nat} {t t' : List Event} {ram ram' ram'' : Ram}

theorem nil : Confined lo hi k [] ram ram where
  store a v h := by simp at h
  sdRead dest lba n h := by simp at h
  words := by simp
  frame x _ := rfl

/-- Runs one after the other; their budgets add up. -/
theorem append (h : Confined lo hi k t ram ram') (h' : Confined lo hi k' t' ram' ram'') :
    Confined lo hi (k + k') (t ++ t') ram ram'' where
  store a v ha := by
    rcases List.mem_append.mp ha with ha | ha
    · exact h.store a v ha
    · exact h'.store a v ha
  sdRead dest lba n hd := by
    rcases List.mem_append.mp hd with hd | hd
    · exact h.sdRead dest lba n hd
    · exact h'.sdRead dest lba n hd
  words := by
    rw [List.countP_append]
    exact Nat.add_le_add h.words h'.words
  frame x hx := (h'.frame x hx).trans (h.frame x hx)

theorem mono {lo' hi' : Nat} (h : Confined lo hi k t ram ram') (hlo : lo' ≤ lo) (hhi : hi ≤ hi')
    (hk : k ≤ k') : Confined lo' hi' k' t ram ram' where
  store a v ha := by
    obtain ⟨h1, h2⟩ := h.store a v ha
    omega
  sdRead dest lba n hd := by
    obtain ⟨h0, h1, h2⟩ := h.sdRead dest lba n hd
    omega
  words := Nat.le_trans h.words hk
  frame x hx := h.frame x (by omega)

end Confined

section Judgment

variable {σ : Type} {α β : Type} {lo hi k k' : Nat}

/-- Every run of `m` is confined, however it ends. -/
def StaysWithin (lo hi k : Nat) (m : Drv σ α) : Prop :=
  ∀ w, m.wp (fun t _ w' => Confined lo hi k t w.ram w'.ram) w

namespace StaysWithin

theorem mono {lo' hi' : Nat} {m : Drv σ α} (h : StaysWithin lo hi k m) (hlo : lo' ≤ lo)
    (hhi : hi ≤ hi') (hk : k ≤ k') : StaysWithin lo' hi' k' m :=
  fun w => (h w).mono hlo hhi hk

theorem pure (a : α) : StaysWithin lo hi k (Pure.pure a : Drv σ α) := fun _ => Confined.nil

theorem halt (e : Halt) : StaysWithin lo hi k (Program.halt e : Drv σ α) := fun _ => Confined.nil

theorem view (f : World σ → α) : StaysWithin lo hi k (Program.view f) := fun _ => Confined.nil

/-- A change of the device alone. -/
theorem change {f : World σ → α × World σ} (hf : ∀ w, (f w).2.ram = w.ram) :
    StaysWithin lo hi k (Program.change f) := by
  intro w
  rw [Program.wp_change, hf]
  exact Confined.nil

theorem bind {m : Drv σ α} {f : α → Drv σ β} (hm : StaysWithin lo hi k m)
    (hf : ∀ a, StaysWithin lo hi k' (f a)) : StaysWithin lo hi (k + k') (m >>= f) := by
  intro w
  apply Program.wp_bind (hm w)
  · intro t a w' ht
    exact Program.wp_mono (hf a w') fun t' r w'' ht' => ht.append ht'
  · intro t e w' ht
    exact ht.mono (Nat.le_refl _) (Nat.le_refl _) (Nat.le_add_right _ _)

/-- The second program reads no data. -/
theorem bind_zero {m : Drv σ α} {f : α → Drv σ β} (hm : StaysWithin lo hi k m)
    (hf : ∀ a, StaysWithin lo hi 0 (f a)) : StaysWithin lo hi k (m >>= f) :=
  bind hm hf

/-- The first program reads no data. -/
theorem zero_bind {m : Drv σ α} {f : α → Drv σ β} (hm : StaysWithin lo hi 0 m)
    (hf : ∀ a, StaysWithin lo hi k (f a)) : StaysWithin lo hi k (m >>= f) := by
  have h := bind hm hf
  rwa [Nat.zero_add] at h

theorem ite {c : Prop} [Decidable c] {m m' : Drv σ α} (hm : StaysWithin lo hi k m)
    (hm' : StaysWithin lo hi k m') : StaysWithin lo hi k (if c then m else m') := by
  by_cases hc : c
  · rw [if_pos hc]; exact hm
  · rw [if_neg hc]; exact hm'

/-- An event that neither stores nor reads data. -/
theorem emit {e : Event} (hs : ∀ a v, e ≠ .store a v) (hr : ∀ d l n, e ≠ .sdRead d l n)
    (hd : isDataRead e = false) : StaysWithin lo hi k (Program.emit e : Drv σ Unit) := by
  intro w
  refine ⟨?_, ?_, ?_, fun x _ => rfl⟩
  · intro a v h
    exact absurd (List.mem_singleton.mp h).symm (hs a v)
  · intro d l n h
    exact absurd (List.mem_singleton.mp h).symm (hr d l n)
  · simp [Program.emit, hd]

end StaysWithin

theorem serialLog_staysWithin (fmt : String) (args : List LogArg) :
    StaysWithin lo hi k (serialLog fmt args : Drv σ Unit) := by
  apply StaysWithin.emit
  · intro a v h
    cases h
  · intro d l n h
    cases h
  · rfl

theorem signalError_staysWithin (e : ErrorCode) :
    StaysWithin lo hi k (signalError e : Drv σ α) := .halt _

theorem ramStore32_staysWithin {a v : Word} (hlo : lo ≤ a.toNat) (hhi : a.toNat + 4 ≤ hi)
    (hw : hi ≤ 2 ^ 32) : StaysWithin lo hi k (ramStore32 a v : Drv σ Unit) := by
  intro w
  refine ⟨?_, by simp [ramStore32], by simp [ramStore32, isDataRead], ?_⟩
  · intro a' v' h
    cases List.mem_singleton.mp h
    exact ⟨hlo, hhi⟩
  · intro x hx
    apply overlay_of_not_region
    unfold Region
    have := x.isLt
    rw [BitVec.toNat_sub]
    omega

/-- Log lines and an error signal write nothing. -/
theorem failure_staysWithin (fmt : String) (args : List LogArg) (e : ErrorCode) :
    StaysWithin lo hi k (do serialLog fmt args; signalError e : Drv σ α) :=
  .bind_zero (serialLog_staysWithin _ _) fun _ => signalError_staysWithin _

end Judgment

section Driver

variable {σ : Type} [Device σ] {α : Type} {lo hi k : Nat}

/-! ### Accesses -/

theorem registerGet_staysWithin {r : Reg} (hr : r ≠ .sd .data) :
    StaysWithin lo hi k (registerGet r : Drv σ Word) := by
  intro w
  refine ⟨by simp [registerGet], by simp [registerGet], ?_, fun x _ => rfl⟩
  have hd : ∀ v, isDataRead (.get r v) = false := by
    intro v
    unfold isDataRead
    split
    · rename_i h
      cases h
      exact absurd rfl hr
    · rfl
  simp [registerGet, hd]

theorem data_staysWithin : StaysWithin lo hi 1 (registerGet (.sd .data) : Drv σ Word) := by
  intro w
  exact ⟨by simp [registerGet], by simp [registerGet], by simp [registerGet, isDataRead],
    fun x _ => rfl⟩

theorem registerSet_staysWithin (r : Reg) (v : Word) :
    StaysWithin lo hi k (registerSet r v : Drv σ Unit) := by
  intro w
  exact ⟨by simp [registerSet], by simp [registerSet], by simp [registerSet, isDataRead],
    fun x _ => rfl⟩

theorem timerPollDone_staysWithin (ts : Word) :
    StaysWithin lo hi k (timerPollDone ts : Drv σ Bool) := .change fun _ => rfl

theorem timerPollStart_staysWithin (ms : Int) :
    StaysWithin lo hi k (timerPollStart ms : Drv σ Word) := .change fun _ => rfl

theorem usleep_staysWithin (us : Int) : StaysWithin lo hi k (usleep us : Drv σ Unit) :=
  .change fun _ => rfl

/-! ### Commands -/

theorem pollInterrupt_staysWithin (ts : Word) (n : Nat) :
    StaysWithin lo hi 0 (pollInterrupt ts n : Drv σ Word) := by
  induction n with
  | zero => exact .halt _
  | succ n ih =>
    apply StaysWithin.zero_bind (registerGet_staysWithin (by decide))
    intro irpt
    apply StaysWithin.ite
    · exact .zero_bind (registerSet_staysWithin _ _) fun _ => .pure _
    · apply StaysWithin.zero_bind (usleep_staysWithin _)
      intro _
      exact .zero_bind (timerPollDone_staysWithin ts) fun _ => .ite (.pure _) ih

theorem sdWaitForInterrupt_staysWithin (mask : Word) :
    StaysWithin lo hi 0 (sdWaitForInterrupt mask : Drv σ CmdError) := by
  have hany : StaysWithin lo hi 0 (sdWaitForAnyInterrupt : Drv σ Word) :=
    .zero_bind (timerPollStart_staysWithin _) fun ts =>
      .zero_bind (.view _) fun polls => pollInterrupt_staysWithin ts polls
  apply StaysWithin.zero_bind hany
  intro irpt
  have hlog : ∀ fmt args (e : CmdError),
      StaysWithin lo hi 0 (do serialLog fmt args; Pure.pure e : Drv σ CmdError) :=
    fun fmt args e => .zero_bind (serialLog_staysWithin fmt args) fun _ => .pure e
  exact .ite (hlog _ _ _) (.ite (hlog _ _ _) (.ite (hlog _ _ _) (.pure _)))

theorem sdIssueCmd_staysWithin (idx args : Word) :
    StaysWithin lo hi 0 (sdIssueCmd idx args : Drv σ CmdError) := by
  have hlog : ∀ fmt args (e : CmdError),
      StaysWithin lo hi 0 (do serialLog fmt args; Pure.pure e : Drv σ CmdError) :=
    fun fmt args e => .zero_bind (serialLog_staysWithin fmt args) fun _ => .pure e
  unfold sdIssueCmd
  split
  · exact hlog _ _ _
  · apply StaysWithin.zero_bind (registerGet_staysWithin (by decide))
    intro status
    apply StaysWithin.ite (hlog _ _ _)
    apply StaysWithin.ite (hlog _ _ _)
    apply StaysWithin.zero_bind (registerSet_staysWithin _ _)
    intro _
    apply StaysWithin.zero_bind (registerSet_staysWithin _ _)
    intro _
    apply StaysWithin.zero_bind (sdWaitForInterrupt_staysWithin _)
    intro error
    apply StaysWithin.ite
    · apply StaysWithin.zero_bind (registerGet_staysWithin (by decide))
      intro cs
      exact .ite (hlog _ _ _) (.pure _)
    · exact .ite (hlog _ _ _) (.pure _)

/-! ### Block reads -/

theorem copyBlock_staysWithin {dest : Word} {n : Nat} (hlo : lo ≤ dest.toNat)
    (hhi : dest.toNat + 4 * n ≤ hi) (hw : hi ≤ 2 ^ 32) :
    StaysWithin lo hi n (copyBlock dest n : Drv σ Word) := by
  induction n generalizing dest with
  | zero => exact .pure _
  | succ n ih =>
    have hnext : StaysWithin lo hi n (copyBlock (dest + 4) n : Drv σ Word) := by
      rcases Nat.eq_zero_or_pos n with rfl | hn
      · exact .pure _
      · have hdest : (dest + 4).toNat = dest.toNat + 4 := by
          rw [BitVec.toNat_add]
          exact Nat.mod_eq_of_lt (show dest.toNat + 4 < 2 ^ 32 by omega)
        exact ih (by omega) (by omega)
    have hword : StaysWithin lo hi (1 + n) (copyBlock dest (n + 1) : Drv σ Word) := by
      apply StaysWithin.bind data_staysWithin
      intro v
      exact .zero_bind (ramStore32_staysWithin hlo (by omega) hw) fun _ => hnext
    rwa [Nat.add_comm] at hword

/-- Copying returns the address behind the block. -/
theorem copyBlock_wp (dest : Word) (n : Nat) (w : World σ) :
    (copyBlock dest n).wp (fun _ r _ => r = .ok (dest + BitVec.ofNat 32 (4 * n))) w := by
  induction n generalizing dest w with
  | zero => simp [copyBlock]
  | succ n ih =>
    unfold copyBlock
    have hget : (registerGet (.sd .data) : Drv σ Word).wp (fun _ r _ => ∃ v, r = .ok v) w :=
      ⟨_, rfl⟩
    apply Program.wp_bind hget
    · intro _ v w' _
      have hset : (ramStore32 dest v : Drv σ Unit).wp (fun _ r _ => r = .ok ()) w' := rfl
      apply Program.wp_bind hset
      · intro _ _ _ _
        apply Program.wp_mono (ih (dest + 4) _)
        intro _ r _ hr
        rw [hr, BitVec.add_assoc, show 4 * (n + 1) = 4 + 4 * n by omega, BitVec.ofNat_add]
        rfl
      · rintro _ _ _ ⟨⟩
    · rintro _ _ _ ⟨_, ⟨⟩⟩

/-- The address behind blocks that do not reach the top of RAM. -/
theorem toNat_add_blocks (dest : Word) {n : Nat} (h : dest.toNat + sdBlksz * n < 2 ^ 32) :
    (dest + BitVec.ofNat 32 (sdBlksz * n)).toNat = dest.toNat + sdBlksz * n := by
  rw [BitVec.toNat_add, BitVec.toNat_ofNat, Nat.add_mod_mod]
  exact Nat.mod_eq_of_lt h

/-- Where more than one block fits, its successor starts where the first one ends. -/
theorem next_block_fits {dest : Word} {n : Nat} (h : dest.toNat + sdBlksz * (n + 2) ≤ hi)
    (hw : hi ≤ 2 ^ 32) :
    dest.toNat ≤ (dest + BitVec.ofNat 32 sdBlksz).toNat ∧
      (dest + BitVec.ofNat 32 sdBlksz).toNat + sdBlksz * (n + 1) ≤ hi := by
  have hpos : 0 < sdBlksz := by decide
  rw [Nat.mul_succ] at h
  have hge : sdBlksz * 1 ≤ sdBlksz * (n + 1) := Nat.mul_le_mul_left _ (by omega)
  have hdest := toNat_add_blocks dest (n := 1) (by omega)
  rw [Nat.mul_one] at hdest hge
  omega

theorem first_block_fits {dest : Word} {n : Nat} (h : dest.toNat + sdBlksz * (n + 1) ≤ hi) :
    dest.toNat + sdBlksz ≤ hi := by
  rw [Nat.mul_succ] at h
  omega

theorem readBlocksLoop_staysWithin {dest : Word} {nblks : Nat} (hlo : lo ≤ dest.toNat)
    (hhi : dest.toNat + sdBlksz * nblks ≤ hi) (hw : hi ≤ 2 ^ 32) :
    StaysWithin lo hi (128 * nblks) (readBlocksLoop dest nblks : Drv σ CmdError) := by
  induction nblks generalizing dest with
  | zero => exact sdWaitForInterrupt_staysWithin _
  | succ nblks ih =>
    have hblock : StaysWithin lo hi 128 (copyBlock dest (sdBlksz / 4) : Drv σ Word) :=
      copyBlock_staysWithin (n := 128) hlo (first_block_fits hhi) hw
    have hnext : StaysWithin lo hi (128 * nblks)
        (readBlocksLoop (dest + BitVec.ofNat 32 sdBlksz) nblks : Drv σ CmdError) := by
      cases nblks with
      | zero => exact sdWaitForInterrupt_staysWithin _
      | succ n =>
        obtain ⟨hlo', hhi'⟩ := next_block_fits hhi hw
        exact ih (Nat.le_trans hlo hlo') hhi'
    apply StaysWithin.zero_bind (sdWaitForInterrupt_staysWithin _)
    intro error
    apply StaysWithin.ite (.pure _)
    rw [show 128 * (nblks + 1) = 128 + 128 * nblks by omega]
    -- the loop goes on from the address the copy returned, so the bind rule is not enough
    intro w
    apply Program.wp_bind (Program.wp_and (hblock w) (copyBlock_wp dest _ w))
    · rintro t a w' ⟨ht, ha⟩
      rw [show 4 * (sdBlksz / 4) = sdBlksz from rfl] at ha
      obtain rfl := Except.ok.inj ha
      exact Program.wp_mono (hnext w') fun t' r w'' ht' => ht.append ht'
    · rintro t e w' ⟨ht, ha⟩
      cases ha

theorem sdIssueReadCmd_staysWithin (idx : Word) {dest : Word} (src : Word) (nblks : Nat)
    (hlo : lo ≤ dest.toNat) (hhi : dest.toNat + sdBlksz * nblks ≤ hi) (hw : hi ≤ 2 ^ 32) :
    StaysWithin lo hi (128 * nblks) (sdIssueReadCmd idx dest src nblks : Drv σ CmdError) := by
  apply StaysWithin.zero_bind (registerSet_staysWithin _ _)
  intro _
  apply StaysWithin.zero_bind (sdIssueCmd_staysWithin _ _)
  intro error
  exact .ite (.pure _) (readBlocksLoop_staysWithin hlo hhi hw)

theorem readSingleBlocks_staysWithin (card : Card) {dest : Word} (src : Word) {nblks : Nat}
    (hlo : lo ≤ dest.toNat) (hhi : dest.toNat + sdBlksz * nblks ≤ hi) (hw : hi ≤ 2 ^ 32) :
    StaysWithin lo hi (128 * nblks)
      (readSingleBlocks card dest src nblks : Drv σ (CmdError × Word × Word × Nat)) := by
  induction nblks generalizing dest src with
  | zero => exact .pure _
  | succ nblks ih =>
    have hone : StaysWithin lo hi 128 (sdIssueCmd17 dest src : Drv σ CmdError) :=
      sdIssueReadCmd_staysWithin _ src 1 hlo (first_block_fits hhi) hw
    rw [show 128 * (nblks + 1) = 128 + 128 * nblks by omega]
    apply StaysWithin.bind hone
    intro error
    apply StaysWithin.ite (.pure _)
    cases nblks with
    | zero => exact .pure _
    | succ n =>
      obtain ⟨hlo', hhi'⟩ := next_block_fits hhi hw
      exact ih _ (Nat.le_trans hlo hlo') hhi'

theorem transferBlocks_staysWithin (card : Card) {dest : Word} (src : Word) {nblks : Nat}
    (hlo : lo ≤ dest.toNat) (hhi : dest.toNat + sdBlksz * nblks ≤ hi) (hw : hi ≤ 2 ^ 32) :
    StaysWithin lo hi (128 * nblks)
      (transferBlocks card dest src nblks : Drv σ (CmdError × Word × Word × Nat)) := by
  unfold transferBlocks
  split
  · rename_i h1
    subst h1
    exact .bind_zero (sdIssueReadCmd_staysWithin _ src _ hlo hhi hw) fun _ => .pure _
  · apply StaysWithin.ite _ (.pure _)
    apply StaysWithin.ite _ (readSingleBlocks_staysWithin card src hlo hhi hw)
    apply StaysWithin.zero_bind (sdIssueCmd_staysWithin _ _)
    intro error
    apply StaysWithin.ite _ (.pure _)
    exact .bind_zero (sdIssueReadCmd_staysWithin _ src _ hlo hhi hw) fun _ => .pure _

theorem sdReadBlocksCardPass_staysWithin (card : Card) {dest : Word} (lba : Word) {nblks : Nat}
    (hlo : lo ≤ dest.toNat) (hhi : dest.toNat + sdBlksz * nblks ≤ hi) (hw : hi ≤ 2 ^ 32) :
    StaysWithin lo hi (128 * nblks) (sdReadBlocksCardPass dest lba nblks card : Drv σ Bool) := by
  apply StaysWithin.ite
  · exact .zero_bind (serialLog_staysWithin _ _) fun _ => .pure _
  · apply StaysWithin.bind_zero (transferBlocks_staysWithin card _ hlo hhi hw)
    rintro ⟨error, dest', src', nblks'⟩
    exact .ite (.zero_bind (serialLog_staysWithin _ _) fun _ => .pure _) (.pure _)

/-- A read of `n` blocks writes to these `n` blocks of RAM only, over all its passes. -/
theorem sdReadBlocksCard_staysWithin (card : Card) {dest : Word} (lba : Word) {n : Nat}
    (hlo : lo ≤ dest.toNat) (hhi : dest.toNat + sdBlksz * n ≤ hi) (hw : hi ≤ 2 ^ 32) :
    StaysWithin lo hi (128 * n) (sdReadBlocksCard dest lba n card : Drv σ Bool) := by
  induction n using Nat.strong_induction_on generalizing dest lba with
  | _ n ih =>
    unfold sdReadBlocksCard
    split
    · rename_i hpos
      have hpass : StaysWithin lo hi (128 * min n uint16Max)
          (sdReadBlocksCardPass dest lba (min (n : Int).toNat uint16Max) card : Drv σ Bool) := by
        rw [Int.toNat_natCast]
        exact sdReadBlocksCardPass_staysWithin card lba hlo
          (by simp only [sdBlksz] at *; omega) hw
      rw [show 128 * n = 128 * min n uint16Max + 128 * (n - uint16Max) by omega]
      apply StaysWithin.bind hpass
      intro readOk
      apply StaysWithin.ite (.pure _)
      rcases Nat.lt_or_ge uint16Max n with hlast | hlast
      · -- another pass follows: the destination has moved by a whole pass
        have hdest := toNat_add_blocks dest (n := uint16Max)
          (by simp only [sdBlksz, uint16Max] at *; omega)
        have hcast : (n : Int) - uint16Max = ((n - uint16Max : Nat) : Int) := by omega
        rw [hcast]
        apply ih
        · simp only [uint16Max] at *
          omega
        · omega
        · simp only [sdBlksz, uint16Max] at *
          omega
      · -- the last pass: the loop condition fails, whatever the variables are
        unfold sdReadBlocksCard
        rw [dif_neg (by omega)]
        exact .pure _
    · exact .pure _

theorem sdReadBlocks_staysWithin (card : Card) {dest : Word} (lba : Word) {n : Nat}
    (hlo : lo ≤ dest.toNat) (hhi : dest.toNat + sdBlksz * n ≤ hi) (hw : hi ≤ 2 ^ 32) :
    StaysWithin lo hi (128 * n) (sdReadBlocks card dest lba n : Drv σ Bool) := by
  refine .zero_bind ?_ fun _ => sdReadBlocksCard_staysWithin card lba hlo hhi hw
  intro w
  refine ⟨by simp [Program.emit], ?_, by simp [Program.emit, isDataRead], fun x _ => rfl⟩
  intro d l m h
  cases List.mem_singleton.mp h
  exact ⟨by omega, hlo, by exact_mod_cast hhi⟩

/-! ### The loader -/

/-- The most blocks an item can take: its size is a positive `int`. -/
def maxItemBlocks : Nat := 2 ^ 22

theorem bytesToBlocks_le (bytes : Int) (hpos : 0 ≤ bytes) (hlt : bytes < 2 ^ 31) :
    ∃ n : Nat, bytesToBlocks bytes = n ∧ n ≤ maxItemBlocks := by
  unfold bytesToBlocks maxItemBlocks
  rw [Int.tdiv_eq_ediv_of_nonneg hpos, Int.tmod_eq_emod_of_nonneg hpos,
    show ((sdBlksz : Nat) : Int) = 512 from rfl]
  by_cases hrem : bytes % 512 ≠ 0
  · exact ⟨(bytes / 512 + 1).toNat, by simp only [if_pos hrem]; omega, by omega⟩
  · exact ⟨(bytes / 512).toNat, by simp only [if_neg hrem]; omega, by omega⟩

/-- The whole-item read: a size that exceeds a block is positive as an `int`, whatever the
card holds. -/
theorem loadItemRest_staysWithin (card : Card) {dest : Word} (lba : Word) (hlo : lo ≤ dest.toNat)
    (hhi : dest.toNat + sdBlksz * maxItemBlocks ≤ hi) (hw : hi ≤ 2 ^ 32) :
    StaysWithin lo hi (128 * maxItemBlocks) (loadItemRest card dest lba : Drv σ Unit) := by
  apply StaysWithin.zero_bind (.view _)
  intro datasz
  by_cases hbig : itemsz datasz > sdBlksz
  · rw [if_pos hbig]
    have hlt : itemsz datasz < 2 ^ 31 := BitVec.toInt_lt
    obtain ⟨n, hn, hle⟩ := bytesToBlocks_le (itemsz datasz) (by omega) hlt
    have hread : StaysWithin lo hi (128 * maxItemBlocks)
        (sdReadBytes card dest lba (itemsz datasz) : Drv σ Bool) := by
      unfold sdReadBytes
      rw [hn]
      have hfit : dest.toNat + sdBlksz * n ≤ hi := by
        have := Nat.mul_le_mul_left sdBlksz hle
        omega
      exact (sdReadBlocks_staysWithin card lba hlo hfit hw).mono (Nat.le_refl _) (Nat.le_refl _)
        (Nat.mul_le_mul_left _ hle)
    apply StaysWithin.bind_zero hread
    intro readOk
    exact .ite (signalError_staysWithin _) (.pure _)
  · rw [if_neg hbig]
    exact .pure _

theorem loadItem_staysWithin (card : Card) (id : ItemId) {dest : Word} (lba : Word)
    (hlo : lo ≤ dest.toNat) (hhi : dest.toNat + sdBlksz * maxItemBlocks ≤ hi) (hw : hi ≤ 2 ^ 32) :
    StaysWithin lo hi (128 * (1 + maxItemBlocks)) (loadItem card id dest lba : Drv σ Unit) := by
  have hfirst : StaysWithin lo hi 128 (sdReadBlocks card dest lba 1 : Drv σ Bool) :=
    sdReadBlocks_staysWithin card lba (n := 1) hlo
      (by simp only [sdBlksz, maxItemBlocks] at *; omega) hw
  apply StaysWithin.zero_bind (serialLog_staysWithin _ _)
  intro _
  rw [Nat.mul_add, Nat.mul_one]
  apply StaysWithin.bind hfirst
  intro readOk
  apply StaysWithin.ite (signalError_staysWithin _)
  apply StaysWithin.zero_bind (.view _)
  intro itemId
  apply StaysWithin.ite
  · exact .zero_bind (serialLog_staysWithin _ _) fun _ => signalError_staysWithin _
  · apply StaysWithin.bind_zero (loadItemRest_staysWithin card lba hlo hhi hw)
    intro _
    exact .zero_bind (.view _) fun _ => serialLog_staysWithin _ _

theorem loadMbr_staysWithin (card : Card) (imagePartition : Int)
    (hlo : lo ≤ heapRamAddr.toNat) (hhi : heapRamAddr.toNat + sdBlksz ≤ hi) (hw : hi ≤ 2 ^ 32) :
    StaysWithin lo hi 128 (loadMbr card imagePartition : Drv σ Word) := by
  apply StaysWithin.zero_bind (serialLog_staysWithin _ _)
  intro _
  apply StaysWithin.bind_zero (sdReadBlocks_staysWithin card 0 (n := 1) hlo hhi hw)
  intro readOk
  apply StaysWithin.ite (signalError_staysWithin _)
  apply StaysWithin.zero_bind (.view _)
  intro magic
  apply StaysWithin.ite (failure_staysWithin _ _ _)
  apply StaysWithin.ite (failure_staysWithin _ _ _)
  exact .zero_bind (serialLog_staysWithin _ _) fun _ => .pure _

theorem loadImageHead_staysWithin (card : Card) (imagePartition : Int) (mbrBaseAddr : Word)
    (hlo : lo ≤ heapRamAddr.toNat) (hhi : heapRamAddr.toNat + sdBlksz ≤ hi) (hw : hi ≤ 2 ^ 32) :
    StaysWithin lo hi 128 (loadImageHead card imagePartition mbrBaseAddr : Drv σ Word) := by
  apply StaysWithin.zero_bind (.view _)
  intro lba
  apply StaysWithin.zero_bind (.view _)
  intro nblks
  apply StaysWithin.zero_bind (serialLog_staysWithin _ _)
  intro _
  apply StaysWithin.bind_zero (sdReadBlocks_staysWithin card lba (n := 1) hlo hhi hw)
  intro readOk
  apply StaysWithin.ite (signalError_staysWithin _)
  apply StaysWithin.zero_bind (.view _)
  intro magic
  apply StaysWithin.zero_bind (.view _)
  intro imgsz
  apply StaysWithin.ite (failure_staysWithin _ _ _)
  apply StaysWithin.ite (failure_staysWithin _ _ _)
  exact .zero_bind (serialLog_staysWithin _ _) fun _ => .pure _

omit [Device σ] in
theorem validateKernel_staysWithin : StaysWithin lo hi 0 (validateKernel : Drv σ Unit) := by
  apply StaysWithin.zero_bind (.view _)
  intro datasz
  apply StaysWithin.ite (failure_staysWithin _ _ _)
  apply StaysWithin.zero_bind (.view _)
  intro magic
  exact .ite (failure_staysWithin _ _ _) (serialLog_staysWithin _ _)

omit [Device σ] in
theorem validateDeviceTreeBlob_staysWithin :
    StaysWithin lo hi 0 (validateDeviceTreeBlob : Drv σ Unit) := by
  apply StaysWithin.zero_bind (.view _)
  intro magic
  exact .ite (failure_staysWithin _ _ _) (serialLog_staysWithin _ _)

omit [Device σ] in
theorem itemNblks_staysWithin (a : Word) : StaysWithin lo hi 0 (itemNblks a : Drv σ Word) :=
  .zero_bind (.view _) fun _ => .pure _

/-- Above the heap, where the END item goes, there is room for the biggest item; below
the kernel item nothing is written. -/
theorem loadImageItems_staysWithin (card : Card) (imgPartLba : Word) :
    StaysWithin kernItemRamAddr.toNat 0x90000000 (3 * (128 * (1 + maxItemBlocks)))
      (loadImageItems card imgPartLba : Drv σ Unit) := by
  have hitem : ∀ (id : ItemId) (dest lba : Word), kernItemRamAddr.toNat ≤ dest.toNat →
      dest.toNat ≤ heapRamAddr.toNat →
      StaysWithin kernItemRamAddr.toNat 0x90000000 (128 * (1 + maxItemBlocks))
        (loadItem card id dest lba : Drv σ Unit) := by
    intro id dest lba hlo hhi
    have hheap : heapRamAddr.toNat + sdBlksz * maxItemBlocks = 0x90000000 := by decide
    exact loadItem_staysWithin card id lba hlo (by omega) (by decide)
  rw [show 3 * (128 * (1 + maxItemBlocks)) =
    128 * (1 + maxItemBlocks) + (128 * (1 + maxItemBlocks) + 128 * (1 + maxItemBlocks)) by omega]
  apply StaysWithin.bind (hitem _ _ _ (by decide) (by decide))
  intro _
  apply StaysWithin.zero_bind validateKernel_staysWithin
  intro _
  apply StaysWithin.zero_bind (itemNblks_staysWithin _)
  intro kernNblks
  apply StaysWithin.bind (hitem _ _ _ (by decide) (by decide))
  intro _
  apply StaysWithin.zero_bind validateDeviceTreeBlob_staysWithin
  intro _
  apply StaysWithin.zero_bind (itemNblks_staysWithin _)
  intro dtbNblks
  exact hitem _ _ _ (by decide) (by decide)

/-- **The SD reads of the loader are confined.**  On every device, from every machine
state, for every partition and every kind of card, and however the run ends. -/
theorem loadImage_confined (card : Card) (imagePartition : Int) (w : World σ) :
    let run := loadImage card imagePartition w
    Confined kernItemRamAddr.toNat 0x90000000 (128 * (5 + 3 * maxItemBlocks)) run.events
        w.ram run.state.ram ∧
      irqStackStartAddr.toNat ≤ kernItemRamAddr.toNat ∧
      0x90000000 ≤ armLoMainPeriphBaseAddr.toNat := by
  have hrun : StaysWithin kernItemRamAddr.toNat 0x90000000 (128 * (5 + 3 * maxItemBlocks))
      (loadImage card imagePartition : Drv σ Unit) := by
    rw [show 128 * (5 + 3 * maxItemBlocks) =
      128 + (128 + 3 * (128 * (1 + maxItemBlocks))) by omega]
    apply StaysWithin.bind (loadMbr_staysWithin card imagePartition (by decide) (by decide)
      (by decide))
    intro mbrBaseAddr
    apply StaysWithin.bind (loadImageHead_staysWithin card imagePartition mbrBaseAddr (by decide)
      (by decide) (by decide))
    intro imgPartLba
    exact loadImageItems_staysWithin card imgPartLba
  exact ⟨hrun w, by decide, by decide⟩

end Driver

end RpiBld
