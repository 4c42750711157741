/-
RpiBld/BootReport.lean

How the boot reports what went wrong.

Whatever the card holds and whichever reads fail, the loader ends with the code
of its first failing check, and the kernel is not started
(`bootImage_stops`).  Where the timers run out, so that no poll loop is cut off,
this is one of the codes for it (`bootChecks_coded`).  What it logs on the way
is well defined but for one line: `load_item` passes the name of the item it
found to `serial_log`, and `stritem` has no name for an id outside of
`enum item_id`.  It looks at the low byte of the id alone.  So all is well
exactly as long as the first failing check is not about an item whose id has a
low byte of that kind (`loadImage_reportsFailure_iff`).
-/
import RpiBld.ErrorFree
import RpiBld.Sd.ReadExact

namespace RpiBld

open Traced

/-! ### The end of the boot -/

section Driver

variable {σ : Type} [Device σ]

/-- `reset_peripherals`, as far as the SD host is concerned. -/
def resetPeripherals (card : Card) : Drv σ Unit := do
  let (ok, _) ← sdResetCard card
  if ¬ ok then
    serialLog "Error: failed to reset SD" []
    signalError .sdReset
  else pure ()

/-- `boot_kernel`: a message, and the jump. -/
def bootKernel : Drv σ Unit := serialLog "Jumping to kernel..." []

/-- The part of `c_entry` after the peripherals were initialised. -/
def bootImage (card : Card) (imagePartition : Int) : Drv σ Unit := do
  loadImage card imagePartition
  resetPeripherals card
  bootKernel

/-! ### Codes -/

/-- The codes the loader may signal. -/
def bootErrors : List ErrorCode :=
  [.sdRead, .noMbrMagic, .invalidPartition, .noImageMagic, .imageOverflow, .imageContents,
    .kernOverflow]

/-- The check fails with one of these codes. -/
def Check.Coded (c : Check) : Prop := ∀ h ∈ c.halt, ∃ e ∈ bootErrors, h = .signalled e

theorem test_coded {holds : Prop} [Decidable holds] {e : ErrorCode} (he : e ∈ bootErrors) :
    (test holds e).Coded := by
  intro h hh
  unfold test at hh
  by_cases hp : holds
  · rw [if_pos hp] at hh
    cases hh
  · rw [if_neg hp] at hh
    exact ⟨e, he, (Option.some.inj hh).symm⟩

theorem testItem_coded (found : Word) (id : ItemId) : (testItem found id).Coded := by
  intro h hh
  unfold testItem at hh
  by_cases hp : found = id.code
  · rw [if_pos hp] at hh
    cases hh
  · rw [if_neg hp] at hh
    exact ⟨_, by decide, (Option.some.inj hh).symm⟩

section Coded

variable {polls : Nat} (hrun : RunsOut σ polls) (card : Card) {w : World σ}

include hrun

/-- A read that fails has failed with a code: the timers run out before it is cut off. -/
theorem reading_coded (hw : w.polls = polls) (dest lba : Word) (n : Int) :
    (reading card dest lba n w).check.Coded ∧ (reading card dest lba n w).world.polls = polls := by
  obtain ⟨t, ok, w', hreturn, hw'⟩ := sdReadBlocksCard_ends hrun card dest lba n w hw
  have hread : sdReadBlocks card dest lba n w = ⟨.sdRead dest lba n :: t, .ok ok, w'⟩ := by
    refine (Program.bind_of_ok rfl).trans ?_
    rw [hreturn]
    rfl
  have hreading : reading card dest lba n w = ⟨.ok ok, w', dest, lba, n⟩ := by
    rw [reading, hread]
  rw [hreading]
  refine ⟨?_, hw'⟩
  cases ok with
  | true => exact fun h hh => by cases hh
  | false => exact fun h hh => ⟨_, by decide, (Option.some.inj hh).symm⟩

theorem itemChecks_coded (hw : w.polls = polls) (id : ItemId) (dest lba : Word) :
    (∀ c ∈ itemChecks card id dest lba w, c.Coded) ∧
      (itemWorld card dest lba w).polls = polls := by
  obtain ⟨hfirst, hw1⟩ := reading_coded hrun card hw dest lba 1
  unfold itemChecks itemWorld
  dsimp only
  generalize (reading card dest lba 1 w).world = w1 at hw1
  -- the second read, where there is one
  have hrest : (∀ c ∈ ((itemRest card dest lba w1).map Reading.check).toList, c.Coded) ∧
      (((itemRest card dest lba w1).map Reading.world).getD w1).polls = polls := by
    unfold itemRest
    dsimp only
    by_cases hsize : itemsz (load32 w1.ram (dest + 4)) > sdBlksz
    · rw [if_pos hsize]
      obtain ⟨hcoded, hw2⟩ := reading_coded hrun card hw1 dest lba
        (bytesToBlocks (itemsz (load32 w1.ram (dest + 4))))
      refine ⟨fun c hc => ?_, hw2⟩
      rw [List.mem_singleton.mp hc]
      exact hcoded
    · rw [if_neg hsize]
      exact ⟨fun c hc => absurd hc List.not_mem_nil, hw1⟩
  refine ⟨fun c hc => ?_, hrest.2⟩
  rcases List.mem_append.mp hc with hc | hc
  · rcases List.mem_pair.mp hc with rfl | rfl
    · exact hfirst
    · exact testItem_coded _ _
  · exact hrest.1 c hc

/-- Every check of the loader names its error. -/
theorem bootChecks_coded (imagePartition : Int) (hw : w.polls = polls) :
    ∀ c ∈ bootChecks card imagePartition w, c.Coded := by
  have htest : ∀ (holds : Prop) [Decidable holds] (e : ErrorCode) (cs : List Check),
      e ∈ bootErrors → (∀ c ∈ cs, c.Coded) → ∀ c ∈ test holds e :: cs, c.Coded :=
    fun holds _ e cs he hcs => List.forall_mem_cons.mpr ⟨test_coded he, hcs⟩
  have happend : ∀ cs cs' : List Check, (∀ c ∈ cs, c.Coded) → (∀ c ∈ cs', c.Coded) →
      ∀ c ∈ cs ++ cs', c.Coded :=
    fun cs cs' h h' => List.forall_mem_append.mpr ⟨h, h'⟩
  have hnil : ∀ c ∈ ([] : List Check), c.Coded := by simp
  obtain ⟨hmbr, hw1⟩ := reading_coded hrun card hw heapGetBaseAddress 0 1
  apply happend
  · exact List.forall_mem_cons.mpr
      ⟨hmbr, htest _ _ _ (by decide) (htest _ _ _ (by decide) hnil)⟩
  obtain ⟨hhead, hw2⟩ := reading_coded hrun card hw1 heapGetBaseAddress _ 1
  apply happend
  · exact List.forall_mem_cons.mpr
      ⟨hhead, htest _ _ _ (by decide) (htest _ _ _ (by decide) hnil)⟩
  obtain ⟨hkern, hw3⟩ := itemChecks_coded hrun card hw2 .kernel kernItemRamAddr _
  apply happend _ _ hkern
  apply happend
  · exact htest _ _ _ (by decide) (htest _ _ _ (by decide) hnil)
  obtain ⟨hdtb, hw4⟩ := itemChecks_coded hrun card hw3 .deviceTreeBlob dtbItemRamAddr _
  apply happend _ _ hdtb
  apply happend
  · exact htest _ _ _ (by decide) hnil
  exact (itemChecks_coded hrun card hw4 .endItem heapGetBaseAddress _).1

end Coded

/-! ### Reports -/

/-- Every failure is reported as itself: the loader ends as its first failing check says, with one
of its codes; the kernel is not started then; and every string it logs is one. -/
structure ReportsFailure (card : Card) (imagePartition : Int) (w : World σ) : Prop where
  ends : (loadImage card imagePartition w).result =
    match failure (bootChecks card imagePartition w) with
    | none => .ok ()
    | some h => .error h
  coded : ∀ h, failure (bootChecks card imagePartition w) = some h →
    ∃ e ∈ bootErrors, h = .signalled e
  stops : ∀ h, failure (bootChecks card imagePartition w) = some h →
    bootImage card imagePartition w = ⟨(loadImage card imagePartition w).events, .error h,
      (loadImage card imagePartition w).state⟩
  legible : ∀ e ∈ (loadImage card imagePartition w).events, e.Legible

variable (card : Card) (imagePartition : Int) (w : World σ)

theorem bootImage_stops {h : Halt} (hfail : failure (bootChecks card imagePartition w) = some h) :
    bootImage card imagePartition w = ⟨(loadImage card imagePartition w).events, .error h,
      (loadImage card imagePartition w).state⟩ := by
  have hperforms : Performs (loadImage card imagePartition) (bootChecks card imagePartition w) () w
      (bootWorld card imagePartition w) := loadImage_performs card imagePartition
  have hresult := hperforms.result
  rw [hfail] at hresult
  rcases hrun : loadImage card imagePartition w with ⟨t, r, w'⟩
  rw [hrun] at hresult
  dsimp only at hresult
  subst hresult
  exact Program.bind_of_error hrun

/-- An id has a name exactly if its low byte is that of one of the enumeration. -/
theorem stritem_ne_none_iff (id : Word) :
    stritem id ≠ none ↔ ∃ x : ItemId, toItemId id = toItemId x.code := by
  constructor
  · intro h
    unfold stritem at h
    dsimp only at h
    split_ifs at h with h0 h1 h2
    · exact ⟨_, h0⟩
    · exact ⟨_, h1⟩
    · exact ⟨_, h2⟩
    · exact absurd rfl h
  · rintro ⟨x, hx⟩
    have hname : stritem id = stritem x.code := by rw [stritem, stritem, hx]
    rw [hname]
    exact stritem_code x

/-- **Every boot failure is reported as itself**, where the timers run out, exactly as long as the
first failing check, if it is about the id of an item, has found an id whose low byte is one of
`enum item_id`. -/
theorem loadImage_reportsFailure_iff (hrun : RunsOut σ w.polls) :
    ReportsFailure card imagePartition w ↔
      ∀ c ∈ reached (bootChecks card imagePartition w), c.halt.isSome →
        ∀ id ∈ c.found, ∃ x : ItemId, toItemId id = toItemId x.code := by
  have hperforms : Performs (loadImage card imagePartition) (bootChecks card imagePartition w) () w
      (bootWorld card imagePartition w) := loadImage_performs card imagePartition
  have hnamed : (∀ c ∈ reached (bootChecks card imagePartition w), ¬ c.Unnamed) ↔
      ∀ c ∈ reached (bootChecks card imagePartition w), c.halt.isSome →
        ∀ id ∈ c.found, ∃ x : ItemId, toItemId id = toItemId x.code := by
    refine forall₂_congr fun c _ => ?_
    unfold Check.Unnamed
    simp only [not_and, not_exists, ← stritem_ne_none_iff]
  rw [← hnamed]
  constructor
  · intro h
    exact hperforms.legible.mp h.legible
  · intro h
    refine ⟨hperforms.result, ?_, fun _ hfail => bootImage_stops card imagePartition w hfail,
      hperforms.legible.mpr h⟩
    intro x hx
    obtain ⟨c, hc, hhalt⟩ := List.exists_of_findSome?_eq_some hx
    exact bootChecks_coded hrun card imagePartition rfl c hc x hhalt

end Driver

/-! ### Stray items -/

/-- A card with an image in its first partition, whose first item has this id. -/
def strayItem (id : Word) (b j : Nat) : Byte :=
  match b, j with
  | 0, 0x1c6 => 1
  | 0, 0x1ca => 8
  | 0, 0x1fe => 0x55
  | 0, 0x1ff => 0xaa
  | 1, 0 => 0x12
  | 1, 1 => 0xba
  | 1, 3 => 0x0f
  | 2, j => if j < 4 then leByte id j else 0
  | _, _ => 0

theorem mem_reached_append {cs cs' : List Check} {c : Check} (h : failure cs = none)
    (hc : c ∈ reached cs') : c ∈ reached (cs ++ cs') := by
  rw [reached_append, if_pos h]
  exact List.mem_append_right _ hc

/-- The checks stop at one that fails. -/
theorem eq_of_mem_reached {cs : List Check} {c c' : Check} (hc : c ∈ reached cs)
    (hc' : c' ∈ reached cs) (h : c.halt.isSome) (h' : c'.halt.isSome) : c = c' := by
  induction cs with
  | nil => cases hc
  | cons d cs ih =>
    rw [reached] at hc hc'
    by_cases hd : d.halt.isSome
    · rw [if_pos hd] at hc hc'
      exact (List.mem_singleton.mp hc).trans (List.mem_singleton.mp hc').symm
    · rw [if_neg hd] at hc hc'
      have htail : ∀ x ∈ d :: reached cs, x.halt.isSome → x ∈ reached cs := by
        intro x hx hsome
        rcases List.mem_cons.mp hx with rfl | hx
        · exact absurd hsome hd
        · exact hx
      exact ih (htail c hc h) (htail c' hc' h')

/-- The loader gets as far as the id of that item. -/
theorem testItem_mem_reached (id : Word) :
    testItem id .kernel ∈ reached (bootChecks sdhcCard 1 (cardWorld (strayItem id))) := by
  obtain ⟨w1, hmbr, hready1⟩ := (cardWorld_ready (strayItem id)).readsBlock heapGetBaseAddress
    (by decide) 0
  obtain ⟨w2, hhead, hready2⟩ := hready1.readsBlock heapGetBaseAddress (by decide) 1
  obtain ⟨w3, hitem, -⟩ := hready2.readsBlock kernItemRamAddr (by decide) 2
  have hlba : mbrGetPartitionLba w1.ram heapGetBaseAddress 1 = 1 :=
    (hmbr.partEntryField (i := 1) (by decide) 8 (by decide)).trans
      (show (0#8 ++ 0#8 ++ 0#8 ++ 1#8 : Word) = 1 by decide)
  have hnblks : mbrGetPartitionNblks w1.ram heapGetBaseAddress 1 = 8 :=
    (hmbr.partEntryField (i := 1) (by decide) 12 (by decide)).trans
      (show (0#8 ++ 0#8 ++ 0#8 ++ 8#8 : Word) = 8 by decide)
  unfold bootChecks
  simp only [hmbr.world, hlba, hnblks, hhead.world]
  apply mem_reached_append
  · rw [mbrChecks_pass_iff, hmbr.world]
    exact ⟨hmbr.check, hmbr.mbrMagic.mpr (show (0xaa#8 ++ 0x55#8 : BitVec 16) = _ by decide),
      by decide⟩
  apply mem_reached_append
  · have himgsz : load32 w2.ram (heapGetBaseAddress + 4) = 0 :=
      (hhead.load32 4 (by decide)).trans (show (0#8 ++ 0#8 ++ 0#8 ++ 0#8 : Word) = 0 by decide)
    rw [headChecks_pass_iff, hhead.world, hhead.load32_first, himgsz]
    exact ⟨hhead.check, show (0x0f#8 ++ 0#8 ++ 0xba#8 ++ 0x12#8 : Word) = imgMagic by decide,
      by decide⟩
  have hid : load32 w3.ram kernItemRamAddr = id := by
    refine hitem.load32_first.trans ((leWord_congr fun i hi => ?_).trans (leWord_leByte id))
    have hblock : (cardSetup (strayItem id)).medium.byteFrom (2 : Word).toNat i =
        strayItem id 2 i := Medium.byteFrom_of_lt (Nat.lt_trans hi (by decide))
        (show 2 < 2 ^ 32 by decide)
    rw [hblock]
    exact if_pos hi
  show _ ∈ reached ([(reading sdhcCard kernItemRamAddr 2 1 w2).check] ++
    testItem (load32 (reading sdhcCard kernItemRamAddr 2 1 w2).world.ram kernItemRamAddr)
      .kernel :: _)
  rw [hitem.world, hid]
  apply mem_reached_append
  · rw [failure_eq_none_iff]
    exact fun c hc => by rw [List.mem_singleton.mp hc, hitem.check]
  · by_cases hsome : (testItem id .kernel).halt.isSome
    · rw [reached, if_pos hsome]
      exact List.mem_singleton_self _
    · rw [reached, if_neg hsome]
      exact List.mem_cons_self

/-- An item with the id 0x101 is called a kernel, and the boot ends as it should. -/
theorem loadImage_reportsFailure_alias :
    ReportsFailure sdhcCard 1 (cardWorld (strayItem 0x101)) := by
  apply (loadImage_reportsFailure_iff sdhcCard 1 (cardWorld (strayItem 0x101))
    (cardWorld_ready _).prompt.runsOut).mpr
  intro c hc hsome id hid
  rw [eq_of_mem_reached hc (testItem_mem_reached 0x101) hsome rfl] at hid
  obtain rfl := Option.some.inj hid
  exact ⟨.kernel, by decide⟩

/-- The name of an item with the id 7 is logged, and there is none. -/
theorem not_reportsFailure_strayItem :
    ¬ ReportsFailure sdhcCard 1 (cardWorld (strayItem 7)) := by
  intro h
  have hperforms : Performs (loadImage sdhcCard 1) (bootChecks sdhcCard 1 (cardWorld (strayItem 7)))
      () (cardWorld (strayItem 7)) (bootWorld sdhcCard 1 (cardWorld (strayItem 7))) :=
    loadImage_performs sdhcCard 1
  apply hperforms.legible.mp h.legible _ (testItem_mem_reached 7)
  exact ⟨rfl, 7, rfl, by decide⟩

end RpiBld
