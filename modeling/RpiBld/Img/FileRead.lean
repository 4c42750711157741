/-
RpiBld/Img/FileRead.lean

`file_read` for a file of any length.

`filesz` cuts the 64-bit size of a file to an `int`.  Below 2 GiB nothing is
lost, and the file is read as a whole or not at all.  From there on bit 31 of
the size decides.  Where it is set the `int` is negative: it is the `-1` that
stands for an error, or more than any block can have once it is a `size_t`, so
`malloc` refuses it and nothing is read.  Where it is clear the block is smaller
than the file, and the read loop, which does not look at the size again, writes
past the end of the block.

Main results:
* `fileRead_gives` -- `file_read` from its read loop, on every host;
* `fileRead_overruns` -- the run that writes past the block;
* `fileRead_wholeOrNothing_iff` -- the lengths for which a file is read as a
  whole or not at all.
-/
import RpiBld.Img.Write

namespace RpiBld

open Traced

/-- `PTRDIFF_MAX`. -/
def ptrdiffMax : Int := 2 ^ 63 - 1

/-- `malloc` refuses a block of more than `PTRDIFF_MAX` bytes. -/
def RefusesHuge (η : Type) [Host η] : Prop :=
  ∀ size (s : η), ptrdiffMax < size → (Host.malloc size s).1 = none

section FileRead

variable {η : Type} [Host η] {files : Files} {fpath : String}

/-- One run of `file_read` reads all of the file or returns `NULL`. -/
structure WholeOrNothing (files : Files) (fpath : String) (s : η) : Prop where
  /-- Nothing is stored outside the block. -/
  confined : (fileRead files fpath s).result ≠ .error .fault
  /-- What is returned has the file's size and its bytes. -/
  whole : ∀ block fsz, (fileRead files fpath s).result = .ok (some (block, fsz)) →
    fsz = (files fpath).length ∧ block.size = (files fpath).length ∧
      cells block.mem 0 (files fpath).length = files fpath

/-! ### The read loop in a block that is large enough -/

theorem printError_gives (fmt : String) (args : List String) {α : Type} {a : α} {Q : α → Prop}
    (h : Q a) : Program.Gives (do printError fmt args; pure a : HostProg η α) Q :=
  fun _ => ⟨_, a, _, rfl, h⟩

/-- The read loop, by induction on what is left of the file: what has been read of it fits,
and so does the rest. -/
theorem fileReadLoop_gives (fpath : String) (content : List Byte) (left : Nat) :
    ∀ (block : Block) (cur : Nat), content.length - cur = left →
      (content.length : Int) ≤ block.size →
      Program.Gives (fileReadLoop fpath content block cur : HostProg η (Option Block))
        fun o => ∀ block' ∈ o, block'.size = block.size := by
  induction left using Nat.strong_induction_on with
  | _ left ih =>
    intro block cur hleft hsize
    rw [fileReadLoop]
    refine Program.Gives.bind (P := fun _ => True) (Program.Gives.change fun _ => trivial) ?_
    rintro (_ | ⟨n, hle, heof⟩) -
    · exact printError_gives _ _ (by simp)
    dsimp only
    split
    · next hn =>
      -- a read returns no more than what is left of the file
      have hfits : ¬ block.size < cur + n := by omega
      rw [if_neg hfits]
      exact ih (content.length - (cur + n)) (by omega) _ _ rfl hsize
    · apply Program.Gives.pure
      rintro _ ⟨⟩
      rfl

/-! ### From the loop to the function -/

/-- A block that `malloc` returns is not larger than a block can be. -/
theorem malloc_gives (hmalloc : RefusesHuge η) (size : Int) :
    Program.Gives (malloc size : HostProg η (Option Block))
      fun o => ∀ block ∈ o, block.size = size ∧ size ≤ ptrdiffMax := by
  refine Program.Gives.bind (P := fun mem => mem.isSome → size ≤ ptrdiffMax) ?_ ?_
  · apply Program.Gives.change
    intro s hsome
    by_contra hlarge
    rw [hmalloc size s (by omega)] at hsome
    cases hsome
  · intro mem hmem
    apply Program.Gives.pure
    intro block hblock
    obtain ⟨bytes, rfl, rfl⟩ := Option.map_eq_some_iff.mp hblock
    exact ⟨rfl, hmem rfl⟩

/-- **`file_read` from its read loop**: the loop starts in a block of the size that `filesz`
reported, and only where a block can have that size. -/
theorem fileRead_gives (files : Files) (fpath : String) (hmalloc : RefusesHuge η)
    {Q : Block → Prop}
    (hloop : ∀ block, cInt (files fpath).length ≠ -1 →
      block.size = cSizeT (cInt (files fpath).length) → block.size ≤ ptrdiffMax →
      Program.Gives (fileReadLoop fpath (files fpath) block 0 : HostProg η (Option Block))
        fun o => ∀ block' ∈ o, Q block') :
    Program.Gives (fileRead files fpath : HostProg η (Option (Block × Int)))
      fun o => ∀ p ∈ o, Q p.1 ∧ p.2 = cInt (files fpath).length := by
  refine Program.Gives.bind (P := fun _ => True) (Program.Gives.change fun _ => trivial) ?_
  intro opened _
  apply Program.Gives.ite
  · intro _
    exact printError_gives _ _ (by simp)
  intro _
  refine (filesz_gives fpath).bind ?_
  intro fsz hfsz
  apply Program.Gives.ite
  · intro _
    exact printError_gives _ _ (by simp)
  intro hne
  -- not an error, so what is left of the 64-bit size
  have hcut : fsz = cInt (files fpath).length := hfsz.resolve_left hne
  rw [hcut] at hne ⊢
  refine (malloc_gives hmalloc _).bind ?_
  rintro (_ | block) hblock
  · exact printError_gives _ _ (by simp)
  -- the block has that size, however large the file is
  obtain ⟨hsize, hmax⟩ := hblock block rfl
  refine (hloop block hne hsize (hsize ▸ hmax)).bind ?_
  intro o ho
  apply Program.Gives.pure
  intro p hp
  obtain ⟨block', hblock', rfl⟩ := Option.map_eq_some_iff.mp hp
  exact ⟨ho block' hblock', rfl⟩

/-- Below 2 GiB. -/
theorem fileRead_wholeOrNothing_of_lt (hmalloc : RefusesHuge η)
    (hlen : (files fpath).length < 2 ^ 31) (s : η) : WholeOrNothing files fpath s := by
  have hint : cInt (files fpath).length = (files fpath).length := by
    simp only [cInt]
    omega
  have hcount : cSizeT (files fpath).length = (files fpath).length := by
    simp only [cSizeT]
    omega
  have hgives := fileRead_gives files fpath hmalloc
    (Q := fun block => block.size = (files fpath).length) fun block _ hsize _ => by
      rw [hint, hcount] at hsize
      rw [← hsize]
      exact fileReadLoop_gives fpath (files fpath) _ block 0 rfl hsize.ge
  obtain ⟨t, o, s', hrun, ho⟩ := hgives s
  refine ⟨by rw [hrun]; rintro ⟨⟩, fun block fsz hresult => ?_⟩
  have hcells := fileRead_yields fpath hlen s _ hresult _ rfl
  rw [hrun] at hresult
  obtain rfl : o = some (block, fsz) := Except.ok.inj hresult
  exact ⟨hcells.1, (ho _ rfl).1, hcells.2⟩

/-- With bit 31 of the size set nothing is read. -/
theorem fileRead_wholeOrNothing_of_negative (hmalloc : RefusesHuge η)
    (hlen : 2 ^ 31 ≤ (files fpath).length % 2 ^ 32) (s : η) : WholeOrNothing files fpath s := by
  have hgives := fileRead_gives files fpath hmalloc
    (Q := fun _ => False) fun block hne hsize hmax => by
      -- a negative size other than -1 is a huge `size_t`
      simp only [cInt, cSizeT, ptrdiffMax] at hne hsize hmax
      omega
  obtain ⟨t, o, s', hrun, ho⟩ := hgives s
  rcases o with _ | p
  · refine ⟨by rw [hrun]; rintro ⟨⟩, fun block fsz hresult => ?_⟩
    rw [hrun] at hresult
    cases hresult
  · exact (ho p rfl).1.elim

end FileRead

/-! ### A block that is too small -/

/-- An obliging host that refuses a `malloc` of more than `PTRDIFF_MAX`. -/
structure PlainHost where

instance : Host PlainHost where
  openFile _ s := (true, s)
  fstat _ s := (true, s)
  read avail s := ((Host.read avail (⟨⟩ : ObligingHost)).1, s)
  malloc size s := (if ptrdiffMax < size then none else some fun _ => 0, s)
  write requested s := ((Host.write requested (⟨⟩ : ObligingHost)).1, s)
  strerror _ := "Success"

theorem plainHost_refusesHuge : RefusesHuge PlainHost := fun _ _ h => if_pos h

/-- The read loop in a block that is smaller than the file, by induction on what is left of
the file. -/
theorem fileReadLoop_overruns (fpath : String) (content : List Byte) (s : PlainHost) (left : Nat) :
    ∀ (block : Block) (cur : Nat), content.length - cur = left → (cur : Int) ≤ block.size →
      block.size < content.length →
      (fileReadLoop fpath content block cur s).result = .error .fault := by
  induction left using Nat.strong_induction_on with
  | _ left ih =>
    intro block cur hleft hcur hsmall
    have hpos : 0 < min rdwrSz.toNat (content.length - cur) := by
      simp only [rdwrSz]
      omega
    rw [fileReadLoop, Program.change_bind_run]
    dsimp only [Host.read]
    rw [dif_pos hpos]
    split
    · rfl
    · next hfits =>
      -- the file goes on behind what was read, and the block still ends before it
      exact ih _ (by omega) _ _ rfl (by push_cast; omega) hsmall

/-- **A file of 2 GiB or more whose size has bit 31 clear** is read past the end of the block. -/
theorem fileRead_overruns (files : Files) (fpath : String) (hlen : 2 ^ 31 ≤ (files fpath).length)
    (hlow : (files fpath).length % 2 ^ 32 < 2 ^ 31) (s : PlainHost) :
    (fileRead files fpath s).result = .error .fault := by
  obtain ⟨size, hsize⟩ : ∃ size, size = (files fpath).length % 2 ^ 32 := ⟨_, rfl⟩
  have hint : cInt (files fpath).length = size := by
    simp only [cInt]
    omega
  have hcount : cSizeT size = size := by
    simp only [cSizeT]
    omega
  have hrefuse : ¬ ptrdiffMax < size := by
    simp only [ptrdiffMax]
    omega
  have hfsz : (filesz files fpath : HostProg PlainHost Int) s = ⟨[], .ok size, s⟩ := by
    rw [← hint]
    rfl
  have hmalloc : (malloc size : HostProg PlainHost _) s =
      ⟨[], .ok (some ⟨fun _ => 0, size⟩), s⟩ := by
    rw [malloc, Program.change_bind_run]
    dsimp only [Host.malloc]
    rw [if_neg hrefuse]
    rfl
  have hloop := fileReadLoop_overruns fpath (files fpath) s _ ⟨fun _ => 0, size⟩ 0 rfl
    (Int.natCast_nonneg size) (show (size : Int) < (files fpath).length by omega)
  rw [fileRead, Program.change_bind_run]
  dsimp only [Host.openFile]
  rw [if_neg (by simp), Program.bind_of_ok hfsz, if_neg (by omega), hcount,
    Program.bind_of_ok hmalloc]
  dsimp only
  rcases hrun : fileReadLoop fpath (files fpath) ⟨fun _ => 0, size⟩ 0 s with ⟨t, r, s'⟩
  rw [hrun] at hloop
  obtain rfl : r = .error .fault := hloop
  rw [Program.bind_of_error hrun]

/-! ### Which files are read as a whole or not at all -/

/-- **A file is read as a whole or not at all** on every host, whatever its reads and failures,
exactly where its size fits an `int` or has bit 31 set. -/
theorem fileRead_wholeOrNothing_iff (files : Files) (fpath : String) :
    (∀ (η : Type) [Host η], RefusesHuge η → ∀ s : η, WholeOrNothing files fpath s) ↔
      (files fpath).length < 2 ^ 31 ∨ 2 ^ 31 ≤ (files fpath).length % 2 ^ 32 := by
  constructor
  · intro hwhole
    by_contra hlen
    have hfault := fileRead_overruns files fpath (by omega) (by omega) ⟨⟩
    exact (hwhole PlainHost plainHost_refusesHuge ⟨⟩).confined hfault
  · rintro (hlen | hlen) η _ hmalloc s
    · exact fileRead_wholeOrNothing_of_lt hmalloc hlen s
    · exact fileRead_wholeOrNothing_of_negative hmalloc hlen s

/-- A file of one byte more than 4 GiB is not: it is read into a block of one byte. -/
theorem not_wholeOrNothing_large :
    ¬ ∀ (η : Type) [Host η], RefusesHuge η → ∀ s : η,
      WholeOrNothing (fun _ => List.replicate (2 ^ 32 + 1) 0) "zImage" s := by
  have hlen : (List.replicate (2 ^ 32 + 1) (0 : Byte)).length = 2 ^ 32 + 1 :=
    List.length_replicate
  intro hwhole
  apply (hwhole PlainHost plainHost_refusesHuge ⟨⟩).confined
  apply fileRead_overruns
  · rw [hlen]
    decide
  · rw [hlen]
    decide

end RpiBld
