/-
RpiBld/Sd/BlockCopy.lean

What a read command copies, whatever the controller answers.

The events of the block loop of `sd_issue_read_cmd` are a sequence of blocks:
a wait that saw `READ_READY`, and then 128 times a word read from `DATA` and
stored at the next address (`BlocksRead`).  What comes before and after the
blocks neither reads data nor stores.  The invariant of the loop ties the
destination to the number of blocks copied, and an error exit leaves exactly
the blocks before it.

Main result: `sdIssueReadCmd_copies` -- the trace and the RAM of a read command.
-/
import RpiBld.Sd.IssueCommand
import RpiBld.Sd.ReadCommand

namespace RpiBld

open Traced

def Event.dataRead? : Event → Option Word
  | .get (.sd .data) v => some v
  | _ => none

def Event.store? : Event → Option (Word × Word)
  | .store a v => some (a, v)
  | _ => none

/-- The words read from `DATA`. -/
def dataReads (t : List Event) : List Word := t.filterMap Event.dataRead?

/-- The words stored to RAM while copying, with their addresses. -/
def stores (t : List Event) : List (Word × Word) := t.filterMap Event.store?

@[simp] theorem dataReads_append (t t' : List Event) :
    dataReads (t ++ t') = dataReads t ++ dataReads t' :=
  List.filterMap_append

@[simp] theorem stores_append (t t' : List Event) : stores (t ++ t') = stores t ++ stores t' :=
  List.filterMap_append

/-! ### Words in RAM -/

/-- Words stored one after the other. -/
def storeWords (ram : Ram) (dest : Word) : List Word → Ram
  | [] => ram
  | v :: vs => storeWords (store32 ram dest v) (dest + 4) vs

theorem storeWords_append (ram : Ram) (dest : Word) (vs ws : List Word) :
    storeWords ram dest (vs ++ ws) =
      storeWords (storeWords ram dest vs) (dest + BitVec.ofNat 32 (4 * vs.length)) ws := by
  induction vs generalizing ram dest with
  | nil => rw [List.length_nil, Nat.mul_zero, BitVec.add_zero]; rfl
  | cons v vs ih =>
    rw [List.cons_append, storeWords, ih, storeWords, List.length_cons, Nat.mul_succ,
      BitVec.add_assoc, show (4 : Word) = BitVec.ofNat 32 4 from rfl, ← BitVec.ofNat_add,
      Nat.add_comm 4]

/-- The bytes of a list of words. -/
def wordBytes (vs : List Word) (j : Nat) : Byte := leByte (vs.getD (j / 4) 0) (j % 4)

/-- Words that do not reach around the address space are one area. -/
theorem storeWords_eq_overlay (ram : Ram) (dest : Word) {vs : List Word}
    (hlen : 4 * vs.length ≤ 2 ^ 32) :
    storeWords ram dest vs = overlay ram dest (4 * vs.length) (wordBytes vs) := by
  induction vs generalizing ram dest with
  | nil => exact overlay_zero.symm
  | cons v vs ih =>
    rw [List.length_cons, Nat.mul_succ] at hlen ⊢
    rw [storeWords, ih _ _ (by omega), store32, show (4 : Word) = BitVec.ofNat 32 4 from rfl,
      overlay_overlay_append (by omega), Nat.add_comm (4 * vs.length)]
    apply overlay_congr
    intro j _
    by_cases hj : j < 4
    · rw [if_pos hj, wordBytes, Nat.div_eq_of_lt hj, Nat.mod_eq_of_lt hj]
      rfl
    · have hle : 4 ≤ j := Nat.le_of_not_lt hj
      rw [if_neg hj, wordBytes, wordBytes, Nat.div_eq_sub_div (by decide) hle,
        Nat.mod_eq_sub_mod hle, List.getD_cons_succ]

/-! ### The shape of a trace -/

/-- Neither data nor a store among the events, and RAM as it was. -/
structure Still (t : List Event) (ram ram' : Ram) : Prop where
  data : dataReads t = []
  stores : RpiBld.stores t = []
  ram : ram' = ram

theorem Confined.still {t : List Event} {ram ram' : Ram} (h : Confined 0 0 0 t ram ram') :
    Still t ram ram' where
  data := by
    apply List.filterMap_eq_nil_iff.mpr
    intro e he
    have hnone := List.countP_eq_zero.mp (Nat.le_zero.mp h.words) e he
    unfold Event.dataRead?
    split
    · exact absurd rfl hnone
    · rfl
  stores := by
    apply List.filterMap_eq_nil_iff.mpr
    intro e he
    unfold Event.store?
    split
    case h_1 a v =>
      have hout := h.store a v he
      omega
    case h_2 => rfl
  ram := by
    funext x
    exact h.frame x (.inr (Nat.zero_le _))

theorem Still.append {t t' : List Event} {ram ram' ram'' : Ram} (h : Still t ram ram')
    (h' : Still t' ram' ram'') : Still (t ++ t') ram ram'' where
  data := by rw [dataReads_append, h.data, h'.data]; rfl
  stores := by rw [stores_append, h.stores, h'.stores]; rfl
  ram := h'.ram.trans h.ram

/-- The events of the copy loop. -/
def copyEvents (dest : Word) : List Word → List Event
  | [] => []
  | v :: vs => .get (.sd .data) v :: .store dest v :: copyEvents (dest + 4) vs

theorem dataReads_copyEvents (dest : Word) (vs : List Word) :
    dataReads (copyEvents dest vs) = vs := by
  induction vs generalizing dest with
  | nil => rfl
  | cons v vs ih => exact congrArg (v :: ·) (ih (dest + 4))

/-- The events of `k` blocks: each is a wait that saw `READ_READY`, followed by the words of
one block, read and stored one by one. -/
inductive BlocksRead : Word → List Word → Nat → List Event → Prop
  | nil (dest : Word) : BlocksRead dest [] 0 []
  | cons {dest : Word} {t t' : List Event} {vs ws : List Word} {k : Nat} :
      dataReads t = [] → stores t = [] → Saw interruptReadReady t → vs.length = sdBlksz / 4 →
      BlocksRead (dest + BitVec.ofNat 32 sdBlksz) ws k t' →
      BlocksRead dest (vs ++ ws) (k + 1) (t ++ copyEvents dest vs ++ t')

theorem BlocksRead.length {dest : Word} {ws : List Word} {k : Nat} {t : List Event}
    (h : BlocksRead dest ws k t) : ws.length = sdBlksz / 4 * k := by
  induction h with
  | nil => rfl
  | cons _ _ _ hvs _ ih => rw [List.length_append, hvs, ih, Nat.mul_succ, Nat.add_comm]

/-- The words are the ones read from `DATA`. -/
theorem BlocksRead.dataReads {dest : Word} {ws : List Word} {k : Nat} {t : List Event}
    (h : BlocksRead dest ws k t) : dataReads t = ws := by
  induction h with
  | nil => rfl
  | cons hdata _ _ _ _ ih =>
    rw [dataReads_append, dataReads_append, hdata, dataReads_copyEvents, ih, List.nil_append]

section Driver

variable {σ : Type} [Device σ]

/-! ### One read command -/

theorem copyBlock_copies (dest : Word) (n : Nat) (w : World σ) :
    (copyBlock dest n).wp (fun t r w' => ∃ vs, vs.length = n ∧ t = copyEvents dest vs ∧
      r = .ok (dest + BitVec.ofNat 32 (4 * n)) ∧ w'.ram = storeWords w.ram dest vs) w := by
  induction n generalizing dest w with
  | zero => exact ⟨[], rfl, rfl, congrArg Except.ok (BitVec.add_zero dest).symm, rfl⟩
  | succ n ih =>
    unfold copyBlock Program.wp
    rw [Program.bind_of_ok (show registerGet (.sd .data) w =
      ⟨[.get (.sd .data) _], .ok _, _⟩ from rfl), Program.bind_of_ok (show ramStore32 dest _ _ =
      ⟨[.store dest _], .ok (), _⟩ from rfl)]
    obtain ⟨vs, hlen, ht, hr, hram⟩ := ih (dest + 4) _
    refine ⟨_ :: vs, congrArg (· + 1) hlen, congrArg ([_] ++ [_] ++ ·) ht, ?_, hram⟩
    refine hr.trans (congrArg Except.ok ?_)
    rw [BitVec.add_assoc, show (4 : Word) = BitVec.ofNat 32 4 from rfl, ← BitVec.ofNat_add,
      Nat.mul_succ, Nat.add_comm 4]

/-- A run that copied `k` of `n` blocks, the words `ws`, in the events `tb`, before it ended
with the events `t₁` and the result `r`. -/
structure CopiedBlocks (dest : Word) (n k : Nat) (ws : List Word) (tb t₁ : List Event)
    (r : Except Halt CmdError) : Prop where
  blocks : BlocksRead dest ws k tb
  le : k ≤ n
  data : dataReads t₁ = []
  stores : stores t₁ = []
  stopped : k < n → ¬ Saw interruptReadReady t₁
  ok : r = .ok .none ↔ k = n ∧ Saw interruptTransferComplete t₁
  cut : ∀ e, r = .error e → e = .hang

/-- A wait neither reads data nor stores. -/
theorem sdWaitForInterrupt_still (mask : Word) (w : World σ) :
    (sdWaitForInterrupt mask).wp (fun t r w' => Still t w.ram w'.ram ∧
      (r = .ok .none ↔ Saw mask t) ∧ ∀ e, r = .error e → e = .hang) w := by
  apply Program.wp_mono
    (Program.wp_and (sdWaitForInterrupt_staysWithin mask w) (sdWaitForInterrupt_saw mask w))
  rintro t r w' ⟨hconfined, -, hsaw, hcut⟩
  exact ⟨hconfined.still, hsaw, hcut⟩

/-- The block loop. -/
theorem readBlocksLoop_copies (dest : Word) (n : Nat) (w : World σ) :
    (readBlocksLoop dest n).wp (fun t r w' => ∃ ws k tb t₁, t = tb ++ t₁ ∧
      CopiedBlocks dest n k ws tb t₁ r ∧ w'.ram = storeWords w.ram dest ws) w := by
  induction n generalizing dest w with
  | zero =>
    apply Program.wp_mono (sdWaitForInterrupt_still interruptTransferComplete w)
    rintro t r w' ⟨hstill, hsaw, hcut⟩
    refine ⟨[], 0, [], t, rfl, ⟨.nil dest, Nat.le_refl 0, hstill.data, hstill.stores, ?_, ?_, hcut⟩,
      hstill.ram⟩
    · intro hlt
      exact absurd hlt (Nat.lt_irrefl 0)
    · rw [hsaw]
      exact ⟨fun h => ⟨rfl, h⟩, fun h => h.2⟩
  | succ n ih =>
    -- nothing was copied where the first wait fails
    have hnone : ∀ {t : List Event} {r : Except Halt CmdError} {w' : World σ},
        Still t w.ram w'.ram → ¬ Saw interruptReadReady t → r ≠ .ok .none →
        (∀ e, r = .error e → e = .hang) → ∃ ws k tb t₁, t = tb ++ t₁ ∧
          CopiedBlocks dest (n + 1) k ws tb t₁ r ∧ w'.ram = storeWords w.ram dest ws := by
      intro t r w' hstill hunseen hr hcut
      refine ⟨[], 0, [], t, rfl, ⟨.nil dest, Nat.zero_le _, hstill.data, hstill.stores,
        fun _ => hunseen, ⟨fun h => absurd h hr, fun h => ?_⟩, hcut⟩, hstill.ram⟩
      exact absurd h.1 (Nat.succ_ne_zero n).symm
    apply Program.wp_bind (sdWaitForInterrupt_still interruptReadReady w)
    · rintro t error w₁ ⟨hstill, hsaw, -⟩
      apply Program.wp_ite
      · -- the wait failed
        intro herror
        rw [Program.wp_pure, List.append_nil]
        have hr : (.ok error : Except Halt CmdError) ≠ .ok .none := by simpa using herror
        exact hnone hstill (fun h => hr (hsaw.mpr h)) hr fun _ h => (by cases h)
      intro hok
      obtain rfl := not_not.mp hok
      apply Program.wp_bind (copyBlock_copies dest (sdBlksz / 4) w₁)
      · rintro _ _ w₂ ⟨vs, hvs, rfl, hd, hram⟩
        obtain rfl := Except.ok.inj hd
        apply Program.wp_mono (ih _ w₂)
        rintro _ r w₃ ⟨ws, k, tb, t₁, rfl, hcopied, hram'⟩
        -- this block, and then those of the rounds that are left
        refine ⟨vs ++ ws, k + 1, t ++ copyEvents dest vs ++ tb, t₁, by simp,
          ⟨.cons hstill.data hstill.stores (hsaw.mp rfl) hvs hcopied.blocks, ?_, hcopied.data,
            hcopied.stores, ?_, ?_, hcopied.cut⟩, ?_⟩
        · exact Nat.succ_le_succ hcopied.le
        · intro hlt
          exact hcopied.stopped (Nat.lt_of_succ_lt_succ hlt)
        · rw [hcopied.ok, Nat.succ_inj]
        · rw [hram', hram, hstill.ram, storeWords_append, hvs]
      · rintro _ _ _ ⟨_, _, _, hd, _⟩
        cases hd
    · -- the wait was cut off
      rintro t e w₁ ⟨hstill, hsaw, hcut⟩
      have hr : (.error e : Except Halt CmdError) ≠ .ok .none := fun h => (by cases h)
      exact hnone hstill (fun h => hr (hsaw.mpr h)) hr hcut

/-- Neither does a command. -/
theorem sdIssueCmd_still (idx a : Word) (w : World σ) :
    (sdIssueCmd idx a).wp (fun t r w' => Still t w.ram w'.ram ∧ ∀ e, r = .error e → e = .hang)
      w := by
  apply Program.wp_mono
    (Program.wp_and (sdIssueCmd_staysWithin idx a w) (sdIssueCmd_outcome idx a w))
  rintro t r w' ⟨hconfined, hout⟩
  exact ⟨hconfined.still, hout.cut⟩

/-- A read command, from the block count on. -/
theorem sdIssueReadCmd_blocks (idx dest a : Word) (n : Nat) (w : World σ) :
    (sdIssueReadCmd idx dest a n).wp (fun t r w' => ∃ ws k t₀ tb t₁, t = t₀ ++ tb ++ t₁ ∧
      dataReads t₀ = [] ∧ stores t₀ = [] ∧ CopiedBlocks dest n k ws tb t₁ r ∧
      w'.ram = storeWords w.ram dest ws) w := by
  have hfailed : ∀ {t : List Event} {r : Except Halt CmdError} {w' : World σ},
      Still t w.ram w'.ram → r ≠ .ok .none → (∀ e, r = .error e → e = .hang) →
      ∃ ws k t₀ tb t₁, t = t₀ ++ tb ++ t₁ ∧ dataReads t₀ = [] ∧ stores t₀ = [] ∧
        CopiedBlocks dest n k ws tb t₁ r ∧ w'.ram = storeWords w.ram dest ws := by
    intro t r w' hstill hr hcut
    have hunseen : ∀ mask, ¬ Saw mask [] := fun mask => not_saw_of_zeros (k := 0) rfl
    refine ⟨[], 0, t, [], [], by simp, hstill.data, hstill.stores, ⟨.nil dest, Nat.zero_le _, rfl,
      rfl, fun _ => hunseen _, ⟨fun h => absurd h hr, fun h => absurd h.2 (hunseen _)⟩, hcut⟩,
      hstill.ram⟩
  have hset : (setBlkszcnt sdBlksz n).wp (fun t r w' => Still t w.ram w'.ram ∧ r = .ok ()) w :=
    ⟨⟨rfl, rfl, rfl⟩, rfl⟩
  apply Program.wp_bind hset
  · rintro t _ w₁ ⟨hstill, -⟩
    apply Program.wp_bind (sdIssueCmd_still idx a w₁)
    · rintro t' error w₂ ⟨hstill', -⟩
      have hboth := hstill.append hstill'
      apply Program.wp_ite
      · intro herror
        rw [Program.wp_pure, List.append_nil]
        exact hfailed hboth (by simpa using herror) fun _ h => (by cases h)
      · intro _
        apply Program.wp_mono (readBlocksLoop_copies dest n w₂)
        rintro _ r w₃ ⟨ws, k, tb, t₁, rfl, hcopied, hram⟩
        refine ⟨ws, k, t ++ t', tb, t₁, by simp, hboth.data, hboth.stores, hcopied, ?_⟩
        rw [hram, hboth.ram]
    · rintro t' e w₂ ⟨hstill', hcut⟩
      exact hfailed (hstill.append hstill') (by simp) hcut
  · rintro _ _ _ ⟨_, ⟨⟩⟩

/-- **Exact block copy**: whatever the controller answers, a read command copies `k` of its
`n` blocks, each after a wait that saw `READ_READY`, to the beginning of the destination and
nowhere else.  It returns without error exactly if these are all and `TRANSFER_COMPLETE` was
seen after the last word; otherwise the wait for the next flag failed, and no data was read
after it. -/
theorem sdIssueReadCmd_copies (idx dest a : Word) {n : Nat} (hn : n ≤ uint16Max) (w : World σ) :
    (sdIssueReadCmd idx dest a n).wp (fun t r w' => ∃ ws k t₀ tb t₁, t = t₀ ++ tb ++ t₁ ∧
      dataReads t₀ = [] ∧ stores t₀ = [] ∧ CopiedBlocks dest n k ws tb t₁ r ∧
      dataReads t = ws ∧ w'.ram = overlay w.ram dest (sdBlksz * k) (wordBytes ws)) w := by
  apply Program.wp_mono (sdIssueReadCmd_blocks idx dest a n w)
  rintro t r w' ⟨ws, k, t₀, tb, t₁, rfl, hdata, hstores, hcopied, hram⟩
  refine ⟨ws, k, t₀, tb, t₁, rfl, hdata, hstores, hcopied, ?_, ?_⟩
  · rw [dataReads_append, dataReads_append, hdata, hcopied.data, hcopied.blocks.dataReads,
      List.nil_append, List.append_nil]
  · have hle := hcopied.le
    have hlen : 4 * ws.length = sdBlksz * k := by
      rw [hcopied.blocks.length, ← Nat.mul_assoc]
      rfl
    have hfits : 4 * ws.length ≤ 2 ^ 32 := by
      rw [hlen]
      have hmax : sdBlksz * k ≤ sdBlksz * uint16Max := Nat.mul_le_mul_left _ (Nat.le_trans hle hn)
      exact Nat.le_trans hmax (by decide)
    rw [hram, storeWords_eq_overlay _ _ hfits, hlen]

end Driver

/-- On a controller with two blocks to deliver. -/
theorem sdIssueReadCmd_copies_twoBlocks :
    (sdIssueReadCmd CmdIndex.readMultipleBlock.code 0 0 2).wp
      (fun t r w' => ∃ ws k t₀ tb t₁, t = t₀ ++ tb ++ t₁ ∧
        dataReads t₀ = [] ∧ stores t₀ = [] ∧ CopiedBlocks 0 2 k ws tb t₁ r ∧
        dataReads t = ws ∧
        w'.ram = overlay (twoBlocksWorld 1).ram 0 (sdBlksz * k) (wordBytes ws)) (twoBlocksWorld 1) :=
  sdIssueReadCmd_copies CmdIndex.readMultipleBlock.code 0 0 (by decide) (twoBlocksWorld 1)

end RpiBld
