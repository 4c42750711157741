/-
RpiBld/BootChecks.lean

The loader as a list of checks.

`load_mbr`, `load_image_head` and `load_image_items` read blocks and check what
they got, and stop at the first check that fails.  `bootChecks` is the list of
these checks in program order, each with what failing it ends the boot with;
what a check looks at is what the read before it left in RAM.  A failed read is
a failed check.

`Performs m cs a w w'` says that `m` does just these checks from `w` on: it
ends the way the first failing one says, or returns `a` in `w'`, it reads what
the checks up to that one read, and it logs nothing that is not a string but
where that check is about an item whose id has no name.  It composes along
`>>=` with the lists appended, on every device.
-/
import RpiBld.Boot
import RpiBld.Sd.Drive

namespace RpiBld

open Traced

/-! ### Reads -/

/-- Every string of a log line is one. -/
def Event.Legible : Event → Prop
  | .log _ args => .str none ∉ args
  | _ => True

/-- An event of the SD driver below `sd_read_blocks`. -/
def Event.Plain (e : Event) : Prop := e.Legible ∧ e.sdRead? = none

section Plain

open Program (Emits)

variable {σ : Type} {α : Type}

theorem serialLog_plain {fmt : String} {args : List LogArg} (h : .str none ∉ args) :
    Emits Event.Plain (serialLog fmt args : Drv σ Unit) := .emit ⟨h, rfl⟩

/-- A message, and a result. -/
theorem logged_plain {fmt : String} {args : List LogArg} {a : α} (h : .str none ∉ args) :
    Emits Event.Plain (do serialLog fmt args; pure a : Drv σ α) :=
  (serialLog_plain h).bind fun _ => .pure a

theorem ramStore32_plain (a v : Word) :
    Emits Event.Plain (ramStore32 a v : Drv σ Unit) := by
  intro w e he
  rw [List.mem_singleton.mp he]
  exact ⟨trivial, rfl⟩

variable [Device σ]

theorem registerGet_plain (r : Reg) : Emits Event.Plain (registerGet r : Drv σ Word) := by
  intro w e he
  rw [List.mem_singleton.mp he]
  exact ⟨trivial, rfl⟩

theorem registerSet_plain (r : Reg) (v : Word) :
    Emits Event.Plain (registerSet r v : Drv σ Unit) := by
  intro w e he
  rw [List.mem_singleton.mp he]
  exact ⟨trivial, rfl⟩

theorem pollInterrupt_plain (ts : Word) (n : Nat) :
    Emits Event.Plain (pollInterrupt ts n : Drv σ Word) := by
  induction n with
  | zero => exact .halt _
  | succ n ih =>
    apply Emits.bind (registerGet_plain _)
    intro irpt
    apply Emits.ite
    · exact .bind (registerSet_plain _ _) fun _ => .pure _
    · refine (Emits.change _).bind fun done => ?_
      refine (Emits.change _).bind fun _ => ?_
      exact Emits.ite (.pure _) ih

theorem sdWaitForInterrupt_plain (mask : Word) :
    Emits Event.Plain (sdWaitForInterrupt mask : Drv σ CmdError) := by
  have hany : Emits Event.Plain (sdWaitForAnyInterrupt : Drv σ Word) :=
    .bind (.change _) fun ts => .bind (.view _) fun polls => pollInterrupt_plain ts polls
  apply Emits.bind hany
  intro irpt
  apply Emits.ite (logged_plain (by simp))
  apply Emits.ite (logged_plain (by simp))
  exact .ite (logged_plain (by simp)) (.pure _)

theorem sdIssueCmd_plain (idx args : Word) :
    Emits Event.Plain (sdIssueCmd idx args : Drv σ CmdError) := by
  unfold sdIssueCmd
  split
  · exact logged_plain (by simp [idxSpecArgs])
  · apply Emits.bind (registerGet_plain _)
    intro status
    apply Emits.ite (logged_plain (by simp [idxSpecArgs]))
    apply Emits.ite (logged_plain (by simp [idxSpecArgs]))
    apply Emits.bind (registerSet_plain _ _)
    intro _
    apply Emits.bind (registerSet_plain _ _)
    intro _
    apply Emits.bind (sdWaitForInterrupt_plain _)
    intro error
    apply Emits.ite
    · apply Emits.bind (registerGet_plain _)
      intro cs
      exact .ite (logged_plain (by simp [idxSpecArgs])) (.pure _)
    · exact .ite (logged_plain (by simp [idxSpecArgs])) (.pure _)

theorem copyBlock_plain (dest : Word) (n : Nat) :
    Emits Event.Plain (copyBlock dest n : Drv σ Word) := by
  induction n generalizing dest with
  | zero => exact .pure _
  | succ n ih =>
    refine (registerGet_plain _).bind fun v => ?_
    exact (ramStore32_plain _ _).bind fun _ => ih _

theorem readBlocksLoop_plain (dest : Word) (n : Nat) :
    Emits Event.Plain (readBlocksLoop dest n : Drv σ CmdError) := by
  induction n generalizing dest with
  | zero => exact sdWaitForInterrupt_plain _
  | succ n ih =>
    apply Emits.bind (sdWaitForInterrupt_plain _)
    intro error
    exact .ite (.pure _) (.bind (copyBlock_plain _ _) fun _ => ih _)

theorem sdIssueReadCmd_plain (idx dest src : Word) (n : Nat) :
    Emits Event.Plain (sdIssueReadCmd idx dest src n : Drv σ CmdError) := by
  apply Emits.bind (registerSet_plain _ _)
  intro _
  apply Emits.bind (sdIssueCmd_plain _ _)
  intro error
  exact .ite (.pure _) (readBlocksLoop_plain _ _)

theorem readSingleBlocks_plain (card : Card) (dest src : Word) (n : Nat) :
    Emits Event.Plain
      (readSingleBlocks card dest src n : Drv σ (CmdError × Word × Word × Nat)) := by
  induction n generalizing dest src with
  | zero => exact .pure _
  | succ n ih =>
    apply Emits.bind (sdIssueReadCmd_plain _ _ _ _)
    intro error
    exact .ite (.pure _) (ih _ _)

theorem transferBlocks_plain (card : Card) (dest src : Word) (n : Nat) :
    Emits Event.Plain (transferBlocks card dest src n : Drv σ (CmdError × Word × Word × Nat)) := by
  apply Emits.ite (.bind (sdIssueReadCmd_plain _ _ _ _) fun _ => .pure _)
  refine Emits.ite ?_ (.pure _)
  refine Emits.ite ?_ (readSingleBlocks_plain _ _ _ _)
  apply Emits.bind (sdIssueCmd_plain _ _)
  intro error
  exact .ite (.bind (sdIssueReadCmd_plain _ _ _ _) fun _ => .pure _) (.pure _)

/-- `sd_read_blocks_card`, by induction on what is left to read. -/
theorem sdReadBlocksCard_plain (card : Card) (dest lba : Word) (n : Int) :
    Emits Event.Plain (sdReadBlocksCard dest lba n card : Drv σ Bool) := by
  induction hk : n.toNat using Nat.strong_induction_on generalizing n dest lba with
  | _ k ih =>
    unfold sdReadBlocksCard
    split
    · next hpos =>
      have hpass : ∀ n, Emits Event.Plain (sdReadBlocksCardPass dest lba n card : Drv σ Bool) := by
        intro n
        apply Emits.ite (logged_plain (by simp))
        apply Emits.bind (transferBlocks_plain _ _ _ _)
        rintro ⟨error, dest', src', n'⟩
        exact .ite (logged_plain (by simp)) (.pure _)
      apply Emits.bind (hpass _)
      intro readOk
      refine Emits.ite (.pure _) ?_
      exact ih _ (by simp only [uint16Max]; omega) _ _ _ rfl
    · exact .pure _

end Plain

/-! ### Checks -/

/-- One check: what the boot ends with if it fails, the item id it is about, and the read it makes:
destination, first block, number of blocks. -/
structure Check where
  halt : Option Halt
  found : Option Word
  read : Option (Word × Word × Int)

/-- What the boot ends with: the first check that fails decides. -/
def failure (cs : List Check) : Option Halt := cs.findSome? Check.halt

/-- The checks that are made, up to the first that fails. -/
def reached : List Check → List Check
  | [] => []
  | c :: cs => if c.halt.isSome then [c] else c :: reached cs

/-- A failing check that has no name for the item it found. -/
def Check.Unnamed (c : Check) : Prop := c.halt.isSome ∧ ∃ id ∈ c.found, stritem id = none

/-- A condition on what was loaded. -/
def test (holds : Prop) [Decidable holds] (e : ErrorCode) : Check :=
  ⟨if holds then none else some (.signalled e), none, none⟩

/-- The id of a loaded item. -/
def testItem (found : Word) (id : ItemId) : Check :=
  ⟨if found = id.code then none else some (.signalled .imageContents), some found, none⟩

theorem test_halt_iff {holds : Prop} [Decidable holds] {e : ErrorCode} :
    (test holds e).halt = none ↔ holds := by
  rw [test]
  by_cases hp : holds
  · simp [hp]
  · simp [hp]

theorem testItem_halt_iff {found : Word} {id : ItemId} :
    (testItem found id).halt = none ↔ found = id.code := by
  rw [testItem]
  by_cases hp : found = id.code
  · simp [hp]
  · simp [hp]

theorem failure_eq_none_iff {cs : List Check} : failure cs = none ↔ ∀ c ∈ cs, c.halt = none :=
  List.findSome?_eq_none_iff

theorem failure_append (cs cs' : List Check) :
    failure (cs ++ cs') = (failure cs).or (failure cs') := List.findSome?_append

theorem reached_append (cs cs' : List Check) :
    reached (cs ++ cs') = if failure cs = none then reached cs ++ reached cs' else reached cs := by
  induction cs with
  | nil => rfl
  | cons c cs ih =>
    rw [List.cons_append, reached, reached]
    cases hc : c.halt with
    | some h => simp [failure, hc]
    | none =>
      have hrest : failure (c :: cs) = failure cs := by simp [failure, hc]
      rw [hrest, ih]
      by_cases hf : failure cs = none
      · simp [hf]
      · simp [hf]

/-- Where no check fails, none fails without a name. -/
theorem not_unnamed_of_passed {cs : List Check} (h : failure cs = none) :
    ∀ c ∈ reached cs, ¬ c.Unnamed := by
  induction cs with
  | nil => exact fun c hc => by cases hc
  | cons c cs ih =>
    have hc : c.halt = none := by
      cases hc : c.halt with
      | none => rfl
      | some x => simp [failure, hc] at h
    have hcs : failure cs = none := by simpa [failure, hc] using h
    intro c' hc'
    rw [reached, hc] at hc'
    rcases List.mem_cons.mp hc' with rfl | hc'
    · rintro ⟨hsome, -⟩
      rw [hc] at hsome
      cases hsome
    · exact ih hcs c' hc'

/-! ### Programs that perform checks -/

/-- `m` performs the checks `cs` from `w` on. -/
structure Performs {σ α : Type} (m : Drv σ α) (cs : List Check) (a : α) (w w' : World σ) :
    Prop where
  result : (m w).result = match failure cs with
    | none => .ok a
    | some h => .error h
  state : failure cs = none → (m w).state = w'
  legible : (∀ e ∈ (m w).events, e.Legible) ↔ ∀ c ∈ reached cs, ¬ c.Unnamed
  reads : sdReads (m w).events = (reached cs).filterMap Check.read

namespace Performs

variable {σ : Type} {α β : Type} {m : Drv σ α} {f : α → Drv σ β} {cs cs' : List Check}
variable {a : α} {b : β} {w w' w'' : World σ}

/-- A run without a check. -/
theorem of_run {t : List Event} (h : m w = ⟨t, .ok a, w'⟩) (ht : ∀ e ∈ t, e.Plain) :
    Performs m [] a w w' := by
  refine ⟨by rw [h]; rfl, fun _ => by rw [h], ?_, ?_⟩
  · rw [h]
    exact ⟨fun _ c hc => (by cases hc), fun _ e he => (ht e he).1⟩
  · rw [h]
    apply List.filterMap_eq_nil_iff.mpr
    exact fun e he => (ht e he).2

theorem bind (h : Performs m cs a w w') (h' : Performs (f a) cs' b w' w'') :
    Performs (m >>= f) (cs ++ cs') b w w'' := by
  rcases hm : m w with ⟨t, r, s⟩
  have hresult := h.result
  rw [hm] at hresult
  cases hf : failure cs with
  | none =>
    -- the first part passes all its checks, and the second one goes on
    have hs : s = w' := by
      have hstate := h.state hf
      rwa [hm] at hstate
    rw [hf] at hresult
    dsimp only at hresult
    subst hs hresult
    have hboth : failure (cs ++ cs') = failure cs' := by rw [failure_append, hf]; rfl
    have hreached : reached (cs ++ cs') = reached cs ++ reached cs' := by
      rw [reached_append, if_pos hf]
    have hlegible := h.legible.mpr (not_unnamed_of_passed hf)
    have hreads := h.reads
    rw [hm] at hlegible hreads
    have hrun := Program.bind_of_ok (f := f) hm
    refine ⟨?_, ?_, ?_, ?_⟩
    · rw [hrun, hboth]
      exact h'.result
    · rw [hrun, hboth]
      exact h'.state
    · rw [hrun, hreached]
      constructor
      · intro hall c hc
        rcases List.mem_append.mp hc with hc | hc
        · exact not_unnamed_of_passed hf c hc
        · exact h'.legible.mp (fun e he => hall e (List.mem_append_right _ he)) c hc
      · intro hall e he
        rcases List.mem_append.mp he with he | he
        · exact hlegible e he
        · exact h'.legible.mpr (fun c hc => hall c (List.mem_append_right _ hc)) e he
    · rw [hrun, hreached, sdReads_append, List.filterMap_append, h'.reads]
      exact congrArg (· ++ _) hreads
  | some x =>
    -- the first failing check ends the run, and no later one is reached
    rw [hf] at hresult
    dsimp only at hresult
    subst hresult
    have hboth : failure (cs ++ cs') = some x := by rw [failure_append, hf]; rfl
    have hreached : reached (cs ++ cs') = reached cs := by
      rw [reached_append, if_neg (by rw [hf]; simp)]
    have hlegible := h.legible
    have hreads := h.reads
    rw [hm] at hlegible hreads
    have hrun := Program.bind_of_error (f := f) hm
    refine ⟨by rw [hrun, hboth], fun hnone => ?_, by rw [hrun, hreached]; exact hlegible,
      by rw [hrun, hreached]; exact hreads⟩
    rw [hboth] at hnone
    cases hnone

/-- A part that makes no check, and the rest. -/
theorem unchecked_bind (h : Performs m [] a w w') (h' : Performs (f a) cs b w' w'') :
    Performs (m >>= f) cs b w w'' :=
  bind h h'

/-- A step that makes no check, and the rest. -/
theorem step {t : List Event} (hm : m w = ⟨t, .ok a, w'⟩) (ht : ∀ e ∈ t, e.Plain)
    (h : Performs (f a) cs b w' w'') : Performs (m >>= f) cs b w w'' :=
  bind (of_run hm ht) h

theorem pure (a : α) (w : World σ) : Performs (Pure.pure a : Drv σ α) [] a w w :=
  of_run rfl fun e he => by cases he

theorem log_bind {fmt : String} {args : List LogArg} {f : Unit → Drv σ β}
    (hargs : .str none ∉ args) (h : Performs (f ()) cs b w w'') :
    Performs (serialLog fmt args >>= f) cs b w w'' := by
  refine step (t := [.log fmt args]) rfl ?_ h
  intro e he
  rw [List.mem_singleton.mp he]
  exact ⟨hargs, rfl⟩

theorem log {fmt : String} {args : List LogArg} (hargs : .str none ∉ args) :
    Performs (serialLog fmt args : Drv σ Unit) [] () w w := by
  refine of_run (t := [.log fmt args]) rfl ?_
  intro e he
  rw [List.mem_singleton.mp he]
  exact ⟨hargs, rfl⟩

theorem view_bind {g : World σ → α} (h : Performs (f (g w)) cs b w w'') :
    Performs (Program.view g >>= f) cs b w w'' :=
  step rfl (fun e he => by cases he) h

/-- A check that fails, or the rest. -/
theorem check {p : Prop} [Decidable p] {bad : Drv σ α} {c : Check} {x : Halt} {t : List Event}
    (hread : c.read = none) (hfail : p → c.halt = some x ∧ bad w = ⟨t, .error x, w⟩ ∧
      ((∀ e ∈ t, e.Legible) ↔ ¬ c.Unnamed) ∧ sdReads t = [])
    (hpass : ¬ p → c.halt = none ∧ Performs m cs a w w') :
    Performs (if p then bad else m) (c :: cs) a w w' := by
  by_cases hp : p
  · -- the check fails, and is the last one that is reached
    obtain ⟨hhalt, hbad, hlegible, hreads⟩ := hfail hp
    rw [if_pos hp]
    have hreached : reached (c :: cs) = [c] := by rw [reached, hhalt]; rfl
    have hfailure : failure (c :: cs) = some x := by simp [failure, hhalt]
    refine ⟨by rw [hbad, hfailure], fun hnone => ?_, ?_, ?_⟩
    · rw [hfailure] at hnone
      cases hnone
    · rw [hbad, hreached]
      refine hlegible.trans ⟨fun h c' hc' => ?_, fun h => h c List.mem_cons_self⟩
      rwa [List.mem_singleton.mp hc']
    · rw [hbad, hreached]
      simp [hreads, hread]
  · -- it passes, and is reached before the others
    obtain ⟨hhalt, hperforms⟩ := hpass hp
    rw [if_neg hp]
    have hreached : reached (c :: cs) = c :: reached cs := by rw [reached, hhalt]; rfl
    have hfailure : failure (c :: cs) = failure cs := by simp [failure, hhalt]
    refine ⟨by rw [hfailure]; exact hperforms.result, by rw [hfailure]; exact hperforms.state,
      ?_, ?_⟩
    · rw [hreached]
      refine hperforms.legible.trans ⟨fun h c' hc' => ?_, fun h c' hc' => ?_⟩
      · rcases List.mem_cons.mp hc' with rfl | hc'
        · rintro ⟨hsome, -⟩
          rw [hhalt] at hsome
          cases hsome
        · exact h c' hc'
      · exact h c' (List.mem_cons_of_mem _ hc')
    · rw [hreached, List.filterMap_cons_none hread]
      exact hperforms.reads

/-- A condition that is not met ends the boot. -/
theorem test {p holds : Prop} [Decidable p] [Decidable holds] {fmt : String} {args : List LogArg}
    {e : ErrorCode} (hiff : p ↔ ¬ holds) (hargs : .str none ∉ args) (h : Performs m cs a w w') :
    Performs (if p then (do serialLog fmt args; signalError e) else m) (test holds e :: cs) a w
      w' := by
  refine check (x := .signalled e) (t := [.log fmt args]) rfl (fun hp => ?_) fun hp => ?_
  · refine ⟨if_neg (hiff.mp hp), rfl, ⟨fun _ => ?_, fun _ => ?_⟩, rfl⟩
    · rintro ⟨-, id, hid, -⟩
      cases hid
    · intro e' he'
      rw [List.mem_singleton.mp he']
      exact hargs
  · exact ⟨if_pos (not_not.mp (mt hiff.mpr hp)), h⟩

end Performs

/-! ### The checks of the loader -/

/-- How a read of blocks ended: what it returned, if it did, the world it left, and what was to be
read. -/
structure Reading (σ : Type) where
  result : Except Halt Bool
  world : World σ
  request : Word × Word × Int

/-- A failed read is a failed check. -/
def Reading.check {σ : Type} (r : Reading σ) : Check where
  halt := match r.result with
    | .ok true => none
    | .ok false => some (.signalled .sdRead)
    | .error h => some h
  found := none
  read := some r.request

section Loader

variable {σ : Type}

/-- The checks on a loaded kernel. -/
def kernelChecks (ram : Ram) : List Check :=
  [test (kernRamAddr + load32 ram (kernItemRamAddr + 4) ≤ dtbRamAddr) .kernOverflow,
    test (load32 ram (kernRamAddr + zimageMagicOff) = zimageMagic) .imageContents]

/-- The check on a loaded device tree. -/
def deviceTreeBlobChecks (ram : Ram) : List Check :=
  [test (bswap32 (load32 ram dtbRamAddr) = dtbMagic) .imageContents]

/-- How many blocks further on the next item is. -/
def loadedNblks (ram : Ram) (ramItemAddr : Word) : Word :=
  BitVec.ofInt 32 (bytesToBlocks (itemsz (load32 ram (ramItemAddr + 4))))

variable {w : World σ}

theorem validateKernel_performs :
    Performs (validateKernel : Drv σ Unit) (kernelChecks w.ram) () w w := by
  apply Performs.view_bind
  apply Performs.test BitVec.not_le.symm (by simp)
  apply Performs.view_bind
  apply Performs.test Iff.rfl (by simp)
  exact Performs.log (by simp)

theorem validateDeviceTreeBlob_performs :
    Performs (validateDeviceTreeBlob : Drv σ Unit) (deviceTreeBlobChecks w.ram) () w w := by
  apply Performs.view_bind
  apply Performs.test Iff.rfl (by simp)
  exact Performs.log (by simp)

theorem itemNblks_performs (ramItemAddr : Word) :
    Performs (itemNblks ramItemAddr) [] (loadedNblks w.ram ramItemAddr) w w :=
  Performs.view_bind (Performs.pure _ _)

variable [Device σ] {card : Card} {lba : Word}

/-- The read of `n` blocks that the driver makes from `w` on. -/
def reading (card : Card) (dest lba : Word) (n : Int) (w : World σ) : Reading σ :=
  let run := sdReadBlocks card dest lba n w
  ⟨run.result, run.state, dest, lba, n⟩

/-- The second read of an item, where there is one. -/
def itemRest (card : Card) (dest lba : Word) (w : World σ) : Option (Reading σ) :=
  let size := itemsz (load32 w.ram (dest + 4))
  if size > sdBlksz then some (reading card dest lba (bytesToBlocks size) w) else none

/-- The checks of `load_item`. -/
def itemChecks (card : Card) (id : ItemId) (dest lba : Word) (w : World σ) : List Check :=
  let first := reading card dest lba 1 w
  [first.check, testItem (load32 first.world.ram dest) id] ++
    ((itemRest card dest lba first.world).map Reading.check).toList

/-- The world after an item was loaded. -/
def itemWorld (card : Card) (dest lba : Word) (w : World σ) : World σ :=
  let first := reading card dest lba 1 w
  ((itemRest card dest lba first.world).map Reading.world).getD first.world

/-- The checks of `load_mbr`. -/
def mbrChecks (card : Card) (imagePartition : Int) (w : World σ) : List Check :=
  let mbr := reading card heapGetBaseAddress 0 1 w
  [mbr.check, test (mbrMagic mbr.world.ram heapGetBaseAddress = true) .noMbrMagic,
    test (mbrPartitionValid imagePartition = true) .invalidPartition]

/-- The checks of `load_image_head` on an image at `lba`, in a partition of so many blocks. -/
def headChecks (card : Card) (lba nblks : Word) (w : World σ) : List Check :=
  let head := reading card heapGetBaseAddress lba 1 w
  [head.check, test (load32 head.world.ram heapGetBaseAddress = imgMagic) .noImageMagic,
    test (load32 head.world.ram (heapGetBaseAddress + 4) ≤ nblks * BitVec.ofNat 32 sdBlksz)
      .imageOverflow]

theorem mbrChecks_pass_iff {imagePartition : Int} :
    failure (mbrChecks card imagePartition w) = none ↔ (reading card heapGetBaseAddress 0 1 w).check.halt = none ∧
      mbrMagic (reading card heapGetBaseAddress 0 1 w).world.ram heapGetBaseAddress = true ∧
      mbrPartitionValid imagePartition = true := by
  rw [failure_eq_none_iff, mbrChecks]
  simp only [List.forall_mem_cons, test_halt_iff]
  simp

theorem headChecks_pass_iff {nblks : Word} : failure (headChecks card lba nblks w) = none ↔
    (reading card heapGetBaseAddress lba 1 w).check.halt = none ∧
      load32 (reading card heapGetBaseAddress lba 1 w).world.ram heapGetBaseAddress = imgMagic ∧
      load32 (reading card heapGetBaseAddress lba 1 w).world.ram (heapGetBaseAddress + 4) ≤
        nblks * BitVec.ofNat 32 sdBlksz := by
  rw [failure_eq_none_iff, headChecks]
  simp only [List.forall_mem_cons, test_halt_iff]
  simp

/-- The checks of `load_image_items`. -/
def itemsChecks (card : Card) (imgPartLba : Word) (w : World σ) : List Check :=
  let kernLba := imgPartLba + 1
  let wKern := itemWorld card kernItemRamAddr kernLba w
  let dtbLba := kernLba + loadedNblks wKern.ram kernItemRamAddr
  let wDtb := itemWorld card dtbItemRamAddr dtbLba wKern
  let endLba := dtbLba + loadedNblks wDtb.ram dtbItemRamAddr
  itemChecks card .kernel kernItemRamAddr kernLba w ++ (kernelChecks wKern.ram ++
    (itemChecks card .deviceTreeBlob dtbItemRamAddr dtbLba wKern ++
      (deviceTreeBlobChecks wDtb.ram ++ itemChecks card .endItem heapGetBaseAddress endLba wDtb)))

/-- The world after the items were loaded. -/
def itemsWorld (card : Card) (imgPartLba : Word) (w : World σ) : World σ :=
  let kernLba := imgPartLba + 1
  let wKern := itemWorld card kernItemRamAddr kernLba w
  let dtbLba := kernLba + loadedNblks wKern.ram kernItemRamAddr
  let wDtb := itemWorld card dtbItemRamAddr dtbLba wKern
  let endLba := dtbLba + loadedNblks wDtb.ram dtbItemRamAddr
  itemWorld card heapGetBaseAddress endLba wDtb

/-- The checks of the loader, in program order. -/
def bootChecks (card : Card) (imagePartition : Int) (w : World σ) : List Check :=
  let wMbr := (reading card heapGetBaseAddress 0 1 w).world
  let lba := mbrGetPartitionLba wMbr.ram heapGetBaseAddress imagePartition
  let nblks := mbrGetPartitionNblks wMbr.ram heapGetBaseAddress imagePartition
  let wHead := (reading card heapGetBaseAddress lba 1 wMbr).world
  mbrChecks card imagePartition w ++ (headChecks card lba nblks wMbr ++ itemsChecks card lba wHead)

/-- The world after the loader. -/
def bootWorld (card : Card) (imagePartition : Int) (w : World σ) : World σ :=
  let wMbr := (reading card heapGetBaseAddress 0 1 w).world
  let lba := mbrGetPartitionLba wMbr.ram heapGetBaseAddress imagePartition
  itemsWorld card lba (reading card heapGetBaseAddress lba 1 wMbr).world

variable {α : Type} {dest : Word} {w' : World σ} {cs : List Check} {a : α}

/-- A read, and what it returned. -/
theorem sdReadBlocks_performs (n : Int) :
    Performs (do if ¬ (← sdReadBlocks card dest lba n) then signalError .sdRead else pure () :
        Drv σ Unit)
      [(reading card dest lba n w).check] () w (reading card dest lba n w).world := by
  have hrun : sdReadBlocks card dest lba n w =
      ⟨.sdRead dest lba n :: (sdReadBlocksCard dest lba n card w).events,
        (sdReadBlocksCard dest lba n card w).result,
        (sdReadBlocksCard dest lba n card w).state⟩ := Program.bind_of_ok rfl
  have hplain := sdReadBlocksCard_plain card dest lba n w
  generalize sdReadBlocksCard dest lba n card w = run at hrun hplain
  obtain ⟨t, r, s⟩ := run
  have hlegible : ∀ e ∈ Event.sdRead dest lba n :: t, e.Legible := by
    intro e he
    rcases List.mem_cons.mp he with rfl | he
    · trivial
    · exact (hplain e he).1
  have hreads : sdReads (.sdRead dest lba n :: t) = [(dest, lba, n)] := by
    have hnone : sdReads t = [] := List.filterMap_eq_nil_iff.mpr fun e he => (hplain e he).2
    have hsplit := sdReads_append [.sdRead dest lba n] t
    rw [hnone] at hsplit
    exact hsplit
  have hunnamed : ∀ c : Check, c.found = none → ¬ c.Unnamed := by
    rintro c hc ⟨-, id, hid, -⟩
    rw [hc] at hid
    cases hid
  have hcheck : reading card dest lba n w = ⟨r, s, dest, lba, n⟩ := by
    rw [reading, hrun]
  rw [hcheck]
  have hreached : ∀ c : Check, reached [c] = [c] := by
    intro c
    rw [reached, reached, ite_self]
  -- the read is all that is seen, however it ends
  let m : Drv σ Unit :=
    do if ¬ (← sdReadBlocks card dest lba n) then signalError .sdRead else pure ()
  have hevents : (m w).events = .sdRead dest lba n :: t := by
    rcases r with h | ok
    · exact congrArg Run.events (Program.bind_of_error hrun)
    · refine (congrArg Run.events (Program.bind_of_ok hrun)).trans ?_
      cases ok with
      | true => exact List.append_nil _
      | false => exact List.append_nil _
  refine ⟨?_, ?_, ?_, ?_⟩
  · rcases r with h | ok
    · rw [Program.bind_of_error hrun]
      rfl
    · rw [Program.bind_of_ok hrun]
      cases ok <;> rfl
  · rcases r with h | ok
    · intro hnone
      cases hnone
    · rw [Program.bind_of_ok hrun]
      cases ok with
      | true => exact fun _ => rfl
      | false => exact fun hnone => by cases hnone
  · show (∀ e ∈ (m w).events, e.Legible) ↔ _
    rw [hreached, hevents]
    exact ⟨fun _ c hc => hunnamed c (by rw [List.mem_singleton.mp hc]; rfl), fun _ => hlegible⟩
  · show sdReads (m w).events = _
    rw [hreached, hevents]
    exact hreads

/-- A read, and what follows it. -/
theorem Performs.read {n : Int} {k : Drv σ α}
    (h : Performs k cs a (reading card dest lba n w).world w') :
    Performs (do if ¬ (← sdReadBlocks card dest lba n) then signalError .sdRead else k)
      ((reading card dest lba n w).check :: cs) a w w' := by
  have hguard : (do if ¬ (← sdReadBlocks card dest lba n) then signalError .sdRead else k) =
      (do if ¬ (← sdReadBlocks card dest lba n) then signalError .sdRead else Pure.pure () :
        Drv σ Unit) >>= fun _ => k := by
    rw [bind_assoc]
    congr 1
    funext ok
    cases ok with
    | true => rfl
    | false => exact (funext fun _ => (Program.bind_of_error rfl).symm)
  rw [hguard]
  exact Performs.bind (sdReadBlocks_performs n) h

theorem loadMbr_performs (card : Card) (imagePartition : Int) :
    Performs (loadMbr card imagePartition) (mbrChecks card imagePartition w) heapGetBaseAddress w
      (reading card heapGetBaseAddress 0 1 w).world := by
  apply Performs.log_bind (by simp)
  apply Performs.read
  apply Performs.view_bind
  apply Performs.test Iff.rfl (by simp)
  apply Performs.test Iff.rfl (by simp)
  apply Performs.log_bind (by simp)
  exact Performs.pure _ _

theorem loadImageHead_performs (card : Card) (imagePartition : Int) :
    let lba := mbrGetPartitionLba w.ram heapGetBaseAddress imagePartition
    let nblks := mbrGetPartitionNblks w.ram heapGetBaseAddress imagePartition
    Performs (loadImageHead card imagePartition heapGetBaseAddress) (headChecks card lba nblks w)
      lba w (reading card heapGetBaseAddress lba 1 w).world := by
  apply Performs.view_bind
  apply Performs.view_bind
  apply Performs.log_bind (by simp)
  apply Performs.read
  apply Performs.view_bind
  apply Performs.view_bind
  apply Performs.test Iff.rfl (by simp)
  apply Performs.test BitVec.not_le.symm (by simp)
  apply Performs.log_bind (by simp)
  exact Performs.pure _ _

/-- Every id of `enum item_id` has a name. -/
theorem stritem_code (id : ItemId) : stritem id.code ≠ none := by
  cases id <;> decide

theorem loadItemRest_performs :
    Performs (loadItemRest card dest lba) ((itemRest card dest lba w).map Reading.check).toList ()
      w (((itemRest card dest lba w).map Reading.world).getD w) := by
  apply Performs.view_bind
  unfold itemRest
  by_cases hsize : itemsz (load32 w.ram (dest + 4)) > sdBlksz
  · simp only [if_pos hsize]
    apply Performs.read
    exact Performs.pure _ _
  · simp only [if_neg hsize]
    exact Performs.pure _ _

theorem loadItem_performs (id : ItemId) :
    Performs (loadItem card id dest lba) (itemChecks card id dest lba w) () w
      (itemWorld card dest lba w) := by
  have hname : LogArg.str none ≠ .str (stritem id.code) := by
    intro h
    exact stritem_code id (LogArg.str.inj h).symm
  apply Performs.log_bind (by simp [hname])
  apply Performs.read
  apply Performs.view_bind
  unfold itemWorld
  dsimp only
  generalize (reading card dest lba 1 w).world = w1
  refine Performs.check (x := .signalled .imageContents)
    (t := [.log "Error: loaded image item %s but expected %s"
      [.str (stritem (load32 w1.ram dest)), .str (stritem id.code)]]) rfl
    (fun hne => ?_) fun heq => ?_
  · refine ⟨if_neg hne, rfl, ?_, rfl⟩
    have hhalt : (testItem (load32 w1.ram dest) id).halt.isSome = true := by
      rw [testItem, if_neg hne]
      rfl
    constructor
    · rintro hlegible ⟨-, x, ⟨⟩, hx⟩
      apply hlegible _ (List.mem_singleton_self _)
      rw [hx]
      exact List.mem_cons_self
    · intro hnamed e he
      rw [List.mem_singleton.mp he]
      intro harg
      rcases List.mem_pair.mp harg with h | h
      · exact hnamed ⟨hhalt, _, rfl, (LogArg.str.inj h).symm⟩
      · exact hname h
  · refine ⟨if_pos (not_not.mp heq), ?_⟩
    show Performs _ ((itemRest card dest lba w1).map Reading.check).toList _ _ _
    rw [← List.append_nil (Option.toList _)]
    apply Performs.bind loadItemRest_performs
    apply Performs.view_bind
    exact Performs.log (by simp [hname])

/-- `load_image_items`. -/
theorem loadImageItems_performs (imgPartLba : Word) :
    Performs (loadImageItems card imgPartLba) (itemsChecks card imgPartLba w) () w
      (itemsWorld card imgPartLba w) := by
  apply Performs.bind (loadItem_performs .kernel)
  apply Performs.bind validateKernel_performs
  apply Performs.unchecked_bind (itemNblks_performs _)
  apply Performs.bind (loadItem_performs .deviceTreeBlob)
  apply Performs.bind validateDeviceTreeBlob_performs
  apply Performs.unchecked_bind (itemNblks_performs _)
  exact loadItem_performs .endItem

/-- The loader. -/
theorem loadImage_performs (card : Card) (imagePartition : Int) :
    Performs (loadImage card imagePartition) (bootChecks card imagePartition w) () w
      (bootWorld card imagePartition w) :=
  Performs.bind (loadMbr_performs card imagePartition)
    (Performs.bind (loadImageHead_performs card imagePartition) (loadImageItems_performs _))

/-! ### Blocks in RAM -/

/-- A read of one block that succeeds and puts these bytes into RAM. -/
structure ReadsBlock (card : Card) (dest lba : Word) (blk : Nat → Byte) (w w' : World σ) : Prop where
  reading : reading card dest lba 1 w = ⟨.ok true, w', dest, lba, 1⟩
  block : ∀ j < sdBlksz, w'.ram (dest + BitVec.ofNat 32 j) = blk j

namespace ReadsBlock

variable {blk : Nat → Byte}

theorem check (h : ReadsBlock card dest lba blk w w') :
    (RpiBld.reading card dest lba 1 w).check.halt = none := by
  rw [h.reading]
  rfl

theorem world (h : ReadsBlock card dest lba blk w w') :
    (RpiBld.reading card dest lba 1 w).world = w' := by
  rw [h.reading]

theorem congr {blk' : Nat → Byte} (h : ReadsBlock card dest lba blk w w')
    (hblk : ∀ j < sdBlksz, blk j = blk' j) : ReadsBlock card dest lba blk' w w' :=
  ⟨h.reading, fun j hj => (h.block j hj).trans (hblk j hj)⟩

/-- A word of the block. -/
theorem load32 (h : ReadsBlock card dest lba blk w w') (off : Nat) (hoff : off + 4 ≤ sdBlksz) :
    Traced.load32 w'.ram (dest + BitVec.ofNat 32 off) = leWord fun i => blk (off + i) := by
  refine leWord_congr fun i hi => ?_
  rw [BitVec.add_assoc, ← BitVec.ofNat_add]
  exact h.block _ (by omega)

/-- Its first word. -/
theorem load32_first (h : ReadsBlock card dest lba blk w w') :
    Traced.load32 w'.ram dest = leWord blk := by
  have h0 := h.load32 0 (by decide)
  simpa using h0

/-- The signature of an MBR. -/
theorem mbrMagic (h : ReadsBlock card dest lba blk w w') :
    mbrMagic w'.ram dest = true ↔ blk 0x1ff ++ blk 0x1fe = mbrMagicValue := by
  have hlow : dest + mbrMagicOff = dest + BitVec.ofNat 32 0x1fe := rfl
  have hhigh : dest + BitVec.ofNat 32 0x1fe + 1 = dest + BitVec.ofNat 32 0x1ff := by
    rw [BitVec.add_assoc]
    rfl
  rw [RpiBld.mbrMagic, hlow, hhigh, h.block _ (by decide), h.block _ (by decide), beq_iff_eq]

/-- A field of a partition entry of an MBR. -/
theorem partEntryField (h : ReadsBlock card dest lba blk w w') {i : Nat} (hi : 1 ≤ i ∧ i ≤ 4)
    (off : Nat) (hoff : off + 4 ≤ 16) :
    mbrGetPartEntryField w'.ram dest i (BitVec.ofNat 32 off) =
      leWord fun k => blk (0x1be + 16 * (i - 1) + off + k) := by
  have hentry : dest + mbrPartEntriesOff + BitVec.ofInt 32 (((i : Int) - 1) * partEntrySz) +
      BitVec.ofNat 32 off = dest + BitVec.ofNat 32 (0x1be + 16 * (i - 1) + off) := by
    have hmul : ((i : Int) - 1) * partEntrySz = ((16 * (i - 1) : Nat) : Int) := by
      rw [partEntrySz]
      omega
    rw [hmul, BitVec.ofInt_natCast, mbrPartEntriesOff, BitVec.ofNat_add, BitVec.ofNat_add,
      ← BitVec.add_assoc, ← BitVec.add_assoc]
    rfl
  rw [mbrGetPartEntryField, hentry]
  exact h.load32 _ (by rw [sdBlksz]; omega)

end ReadsBlock

end Loader

end RpiBld
