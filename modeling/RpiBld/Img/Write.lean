/-
RpiBld/Img/Write.lean

What the imager has written when it exits with success.

`file_write` is watched by what it has written so far.  However short the
writes are, that is a beginning of the image, and all of the `n` bytes it was
asked for if it returns true (`fileWriteLoop_watched`).  It is asked for
`img->imgsz` bytes as an `int`: the whole image below 2 GiB, and from there on a
negative number or one that has wrapped, for which it writes less than the
image and returns true all the same.
-/
import RpiBld.Img.Build
import RpiBld.Lib.Monitor

namespace RpiBld

open Traced

/-! ### The partition -/

/-- The monitor: the bytes written so far. -/
def recordWrite (c : List Byte) : HostEvent → List Byte
  | .write bytes => c ++ bytes
  | .print _ _ => c

/-- The bytes a run writes to the partition, in order. -/
def written (t : List HostEvent) : List Byte := t.foldl recordWrite []

/-- Events that write nothing. -/
def NoWrite (e : HostEvent) : Prop := ∀ c, recordWrite c e = c

section Imager

variable {η : Type} [Host η] {files : Files} {argv0 part kernFpath dtbFpath : String}

/-- Success means that the image was written completely, on one run of the imager. -/
structure CompleteOnSuccess (files : Files) (argv0 part kernFpath dtbFpath : String) (s : η) :
    Prop where
  /-- With an image built, all of its bytes were written: the header, both items and the END
  item, each once and in order. -/
  complete : ∀ img, (buildImage files kernFpath dtbFpath s).result = .ok (some img) →
    (main files [argv0, part, kernFpath, dtbFpath] s).result = .ok exitSuccess →
    HoldsImage img.mem (files kernFpath) (files dtbFpath) ∧
      written (main files [argv0, part, kernFpath, dtbFpath] s).events =
        cells img.mem 0 (imageSpan (files kernFpath).length (files dtbFpath).length)
  /-- Without one, nothing was written. -/
  nothing : (buildImage files kernFpath dtbFpath s).result = .ok none →
    written (main files [argv0, part, kernFpath, dtbFpath] s).events = [] ∧
      (main files [argv0, part, kernFpath, dtbFpath] s).result ≠ .ok exitSuccess

/-! ### Building writes nothing -/

omit [Host η] in
theorem change_noWrite {α : Type} (f : η → α × η) :
    Program.Emits NoWrite (Program.change f : HostProg η α) := Program.Emits.change f

theorem printError_noWrite (fmt : String) (args : List String) :
    Program.Emits NoWrite (printError fmt args : HostProg η Unit) :=
  (Program.Emits.view _).bind fun _ => Program.Emits.emit fun _ => rfl

/-- A message, and then a result. -/
theorem printError_pure_noWrite {α : Type} (fmt : String) (args : List String) (a : α) :
    Program.Emits NoWrite (do printError fmt args; pure a : HostProg η α) :=
  (printError_noWrite fmt args).bind fun _ => Program.Emits.pure a

theorem fileReadLoop_noWrite (fpath : String) (content : List Byte) (left : Nat) :
    ∀ (block : Block) (cur : Nat), content.length - cur = left →
      Program.Emits NoWrite (fileReadLoop fpath content block cur : HostProg η (Option Block)) := by
  induction left using Nat.strong_induction_on with
  | _ left ih =>
    intro block cur hleft
    rw [fileReadLoop]
    refine (change_noWrite _).bind ?_
    rintro (_ | ⟨n, hle, heof⟩)
    · exact printError_pure_noWrite _ _ _
    dsimp only
    split
    · next hn =>
      exact Program.Emits.ite (Program.Emits.halt _)
        (ih (content.length - (cur + n)) (by omega) _ _ rfl)
    · exact Program.Emits.pure _

theorem fileRead_noWrite (fpath : String) :
    Program.Emits NoWrite (fileRead files fpath : HostProg η (Option (Block × Int))) := by
  refine (change_noWrite _).bind fun opened => ?_
  refine Program.Emits.ite (printError_pure_noWrite _ _ _) ?_
  have hfsz : Program.Emits NoWrite (filesz files fpath : HostProg η Int) :=
    (change_noWrite _).bind fun _ =>
      Program.Emits.ite (Program.Emits.pure _) (Program.Emits.pure _)
  refine hfsz.bind fun fsz => ?_
  refine Program.Emits.ite (printError_pure_noWrite _ _ _) ?_
  have hmalloc : Program.Emits NoWrite (malloc (cSizeT fsz) : HostProg η (Option Block)) :=
    (change_noWrite _).bind fun _ => Program.Emits.pure _
  refine hmalloc.bind ?_
  rintro (_ | mem)
  · exact printError_pure_noWrite _ _ _
  · exact (fileReadLoop_noWrite _ _ _ mem 0 rfl).bind fun _ => Program.Emits.pure _

theorem imageAppendItem_noWrite (img : Block) (id : ItemId) (datasz : Int) (data : HostMem) :
    Program.Emits NoWrite (imageAppendItem img id datasz data : HostProg η (Option Block)) := by
  have hrealloc : ∀ size, Program.Emits NoWrite (realloc img size : HostProg η (Option Block)) :=
    fun size => (change_noWrite _).bind fun _ => Program.Emits.pure _
  refine (hrealloc _).bind ?_
  rintro (_ | img')
  · exact printError_pure_noWrite _ _ _
  · exact Program.Emits.pure _

theorem imageAppendFile_noWrite (img : Block) (fpath : String) (id : ItemId) :
    Program.Emits NoWrite (imageAppendFile files img fpath id : HostProg η (Option Block)) := by
  refine (fileRead_noWrite fpath).bind ?_
  rintro (_ | ⟨mem, fsz⟩)
  · exact Program.Emits.pure _
  · exact imageAppendItem_noWrite _ _ _ _

theorem buildImage_noWrite (kernFpath dtbFpath : String) :
    Program.Emits NoWrite (buildImage files kernFpath dtbFpath : HostProg η (Option Block)) := by
  have hmalloc : Program.Emits NoWrite (malloc sizeofImage : HostProg η (Option Block)) :=
    (change_noWrite _).bind fun _ => Program.Emits.pure _
  refine hmalloc.bind ?_
  rintro (_ | img)
  · exact Program.Emits.halt _
  refine (imageAppendFile_noWrite _ _ _).bind ?_
  rintro (_ | img)
  · exact Program.Emits.pure _
  refine (imageAppendFile_noWrite _ _ _).bind ?_
  rintro (_ | img)
  · exact Program.Emits.pure _
  · exact imageAppendItem_noWrite _ _ _ _

/-! ### Writing -/

theorem printError_bind {α : Type} {c : List Byte} {fmt : String} {args : List String}
    {f : Unit → HostProg η α} {Q : List Byte → Except HostHalt α → Prop}
    (h : Watched recordWrite c (f ()) Q) : Watched recordWrite c (printError fmt args >>= f) Q := by
  have hprint : Watched recordWrite c (printError fmt args : HostProg η Unit)
      fun c' r => ∃ u, r = .ok u ∧ c' = c :=
    Watched.view_bind fun reason => fun _ => ⟨(), rfl, rfl⟩
  apply hprint.bind_ok
  rintro _ _ rfl
  exact h

/-- The write loop, by induction on what is left: it writes the next `k` bytes, and all that
are left if it returns true. -/
theorem fileWriteLoop_watched (fpath : String) (img : HostMem) (left : Nat) :
    ∀ (c : List Byte) (mem : BitVec 64) (n : Int), n.toNat = left →
      Watched recordWrite c (fileWriteLoop fpath img mem n : HostProg η Bool) fun c' r =>
        ∃ k ≤ n.toNat, c' = c ++ cells img mem k ∧ (r = .ok true → k = n.toNat) := by
  induction left using Nat.strong_induction_on with
  | _ left ih =>
    intro c mem n hleft
    rw [fileWriteLoop]
    split
    · next hn =>
      apply Watched.change_bind
      rintro (_ | ⟨written, hpos, hle⟩)
      · apply printError_bind
        apply Watched.pure
        exact ⟨0, Nat.zero_le _, (List.append_nil c).symm, by simp⟩
      · apply Watched.emit_bind
        have hle' : written ≤ n.toNat := by
          split at hle <;> omega
        apply (ih (n - written).toNat (by omega) _ _ _ rfl).mono
        rintro _ r ⟨k, hk, rfl, hall⟩
        refine ⟨written + k, by omega, ?_, fun hr => by have := hall hr; omega⟩
        show c ++ cells img mem written ++ _ = _
        rw [List.append_assoc, cells_append]
    · next hn =>
      apply Watched.pure
      exact ⟨0, Nat.zero_le _, (List.append_nil c).symm, fun _ => by omega⟩

/-- What `main` writes, and when it is all of the image. -/
theorem writeImage_watched (part : String) (img : Block) :
    Watched recordWrite [] (writeImage part (some img) : HostProg η Int) fun c r =>
      ∃ k ≤ img.imgsz.toInt.toNat, c = cells img.mem 0 k ∧
        (r = .ok exitSuccess → k = img.imgsz.toInt.toNat) := by
  have hwrite : Watched recordWrite [] (fileWrite part img.mem img.imgsz.toInt : HostProg η Bool)
      fun c r => ∃ k ≤ img.imgsz.toInt.toNat, c = cells img.mem 0 k ∧
        (r = .ok true → k = img.imgsz.toInt.toNat) := by
    apply Watched.change_bind
    intro opened
    apply Watched.ite
    · intro _
      apply printError_bind
      apply Watched.pure
      exact ⟨0, Nat.zero_le _, rfl, by simp⟩
    · intro _
      exact fileWriteLoop_watched part img.mem _ [] 0 _ rfl
  apply hwrite.bind
  · rintro c success ⟨k, hk, rfl, hall⟩
    apply Watched.ite
    · intro hs
      apply Watched.emit_bind
      apply Watched.pure
      exact ⟨k, hk, rfl, fun _ => hall (by rw [hs])⟩
    · intro _
      apply Watched.pure
      refine ⟨k, hk, rfl, ?_⟩
      rintro ⟨⟩
  · rintro c e ⟨k, hk, rfl, -⟩
    refine ⟨k, hk, rfl, ?_⟩
    rintro ⟨⟩

/-- What `main` does once `build_image` has returned. -/
theorem main_of_built (hargs : anyArgIsHelp [argv0, part, kernFpath, dtbFpath] = false) {s : η}
    {o : Option Block} (h : (buildImage files kernFpath dtbFpath s).result = .ok o) :
    ∃ s', (main files [argv0, part, kernFpath, dtbFpath] s).result =
        ((writeImage part o : HostProg η Int) s').result ∧
      written (main files [argv0, part, kernFpath, dtbFpath] s).events =
        written ((writeImage part o : HostProg η Int) s').events := by
  rcases hb : buildImage files kernFpath dtbFpath s with ⟨t, r, s'⟩
  rw [hb] at h
  obtain rfl : r = .ok o := h
  have hbuild : Watched recordWrite []
      (buildImage files kernFpath dtbFpath : HostProg η (Option Block)) fun c _ => c = [] :=
    Watched.of_emits (buildImage_noWrite kernFpath dtbFpath) fun c e he => he c
  have hnone : t.foldl recordWrite [] = [] := by
    have hs := hbuild s
    rwa [Program.wp, hb] at hs
  refine ⟨s', ?_⟩
  have hmain : (main files [argv0, part, kernFpath, dtbFpath] : HostProg η Int) =
      buildImage files kernFpath dtbFpath >>= writeImage part := by
    rw [main, hargs]
    rfl
  rw [hmain, Program.bind_of_ok hb]
  refine ⟨rfl, ?_⟩
  show (t ++ _).foldl recordWrite [] = _
  rw [List.foldl_append, hnone]
  rfl

end Imager

/-! ### A host on which everything goes well -/

/-- Every call succeeds, and every read and write is as long as it can be. -/
structure ObligingHost where
  deriving DecidableEq

instance : Host ObligingHost where
  openFile _ s := (true, s)
  fstat _ s := (true, s)
  read avail s := (.count avail (le_refl avail) id, s)
  malloc _ s := (some fun _ => 0, s)
  write requested s :=
    (if h : 0 < requested then .count requested h (le_refl requested) else .error, s)
  strerror _ := "Success"

section Oblige

variable {files : Files} {argv0 part kernFpath dtbFpath : String} {s : ObligingHost}

/-- `m` returns a result that satisfies `Q`. -/
abbrev Oblige {α : Type} (m : HostProg ObligingHost α) (Q : α → Prop) : Prop :=
  ∀ s, m.Returns (fun _ a _ => Q a) s

theorem Oblige.bind {α β : Type} {m : HostProg ObligingHost α} {f : α → HostProg ObligingHost β}
    {P : α → Prop} {Q : β → Prop} (h : Oblige m P) (hf : ∀ a, P a → Oblige (f a) Q) :
    Oblige (m >>= f) Q :=
  fun s => (h s).bind fun _ a s' ha => hf a ha s'

theorem Oblige.pure {α : Type} {a : α} {Q : α → Prop} (h : Q a) :
    Oblige (Pure.pure a : HostProg ObligingHost α) Q :=
  fun _ => Program.Returns.pure h

theorem fileReadLoop_oblige (fpath : String) (content : List Byte) (left : Nat) :
    ∀ (block : Block) (cur : Nat), content.length - cur = left → content.length ≤ block.size →
      Oblige (fileReadLoop fpath content block cur) fun o => ∃ block', o = some block' := by
  induction left using Nat.strong_induction_on with
  | _ left ih =>
    intro block cur hleft hsize
    rw [fileReadLoop]
    have hread : Oblige (Program.change (Host.read (min rdwrSz.toNat (content.length - cur))))
        fun r => r = .count _ (le_refl _) id := fun s => Program.Returns.change rfl
    refine hread.bind ?_
    rintro _ rfl
    dsimp only
    split
    · next hn =>
      have hfits : ¬ block.size < cur + (min rdwrSz.toNat (content.length - cur) : Nat) := by
        omega
      rw [if_neg hfits]
      exact ih _ (by omega) _ _ rfl hsize
    · exact Oblige.pure ⟨block, rfl⟩

theorem malloc_oblige (size : Int) :
    Oblige (malloc size) fun o => ∃ block, o = some block ∧ block.size = size :=
  fun _ => ⟨_, _, _, rfl, _, rfl, rfl⟩

theorem fileRead_oblige {fpath : String} (hlen : (files fpath).length < 2 ^ 31) :
    Oblige (fileRead files fpath) fun o => ∃ block, o = some (block, ((files fpath).length : Int)) := by
  have hopen : Oblige (Program.change (Host.openFile fpath)) fun b => b = true :=
    fun s => Program.Returns.change rfl
  refine hopen.bind ?_
  rintro _ rfl
  rw [if_neg (by simp)]
  have hfsz : Oblige (filesz files fpath) fun fsz => fsz = ((files fpath).length : Int) := by
    have hsz : cInt (files fpath).length = (files fpath).length := by
      simp only [cInt]
      omega
    exact fun s => ⟨_, _, _, rfl, hsz⟩
  refine hfsz.bind ?_
  rintro _ rfl
  rw [if_neg (by omega)]
  refine (malloc_oblige _).bind ?_
  rintro _ ⟨block, rfl, hsize⟩
  have hcount : cSizeT (files fpath).length = (files fpath).length := by
    simp only [cSizeT]
    omega
  refine (fileReadLoop_oblige fpath (files fpath) _ block 0 rfl (by omega)).bind ?_
  rintro _ ⟨block', rfl⟩
  exact Oblige.pure ⟨block', rfl⟩

theorem imageAppendItem_oblige (img : Block) (id : ItemId) (datasz : Int) (data : HostMem) :
    Oblige (imageAppendItem img id datasz data) fun o => ∃ img', o = some img' :=
  fun _ => ⟨_, _, _, rfl, _, rfl⟩

theorem imageAppendFile_oblige (img : Block) {fpath : String} (id : ItemId)
    (hlen : (files fpath).length < 2 ^ 31) :
    Oblige (imageAppendFile files img fpath id) fun o => ∃ img', o = some img' := by
  refine (fileRead_oblige hlen).bind ?_
  rintro _ ⟨block, rfl⟩
  exact imageAppendItem_oblige _ _ _ _

theorem buildImage_oblige (files : Files) (hkern : (files kernFpath).length < 2 ^ 31)
    (hdtb : (files dtbFpath).length < 2 ^ 31) :
    Oblige (buildImage files kernFpath dtbFpath) fun o => ∃ img, o = some img := by
  refine (malloc_oblige _).bind ?_
  rintro _ ⟨img, rfl, -⟩
  refine (imageAppendFile_oblige _ _ hkern).bind ?_
  rintro _ ⟨img, rfl⟩
  refine (imageAppendFile_oblige _ _ hdtb).bind ?_
  rintro _ ⟨img, rfl⟩
  exact imageAppendItem_oblige _ _ _ _

theorem fileWriteLoop_oblige (fpath : String) (img : HostMem) (left : Nat) :
    ∀ (mem : BitVec 64) (n : Int), n.toNat = left →
      Oblige (fileWriteLoop fpath img mem n) fun b => b = true := by
  induction left using Nat.strong_induction_on with
  | _ left ih =>
    intro mem n hleft
    rw [fileWriteLoop]
    split
    · next hn =>
      have hpos : 0 < (if n < rdwrSz then n else rdwrSz).toNat := by
        simp only [rdwrSz]
        omega
      have hwrite : Oblige (Program.change (Host.write (if n < rdwrSz then n else rdwrSz).toNat))
          fun r => r = .count _ hpos (le_refl _) :=
        fun s => Program.Returns.change (dif_pos hpos)
      refine hwrite.bind ?_
      rintro _ rfl
      exact Oblige.bind (P := fun _ => True) (fun s => Program.Returns.emit trivial)
        fun _ _ => ih _ (by omega) _ _ rfl
    · exact Oblige.pure rfl

theorem writeImage_oblige (part : String) (img : Block) :
    Oblige (writeImage part (some img)) fun status => status = exitSuccess := by
  have hwrite : Oblige (fileWrite part img.mem img.imgsz.toInt) fun b => b = true := by
    have hopen : Oblige (Program.change (Host.openFile part)) fun b => b = true :=
      fun s => Program.Returns.change rfl
    refine hopen.bind ?_
    rintro _ rfl
    exact fileWriteLoop_oblige part img.mem _ 0 _ rfl
  refine hwrite.bind ?_
  rintro _ rfl
  exact fun s => ⟨_, _, _, rfl, rfl⟩

/-- An image of 2 GiB or more is not written completely, and yet the imager exits with
success. -/
theorem not_completeOnSuccess_of_le
    (hargs : anyArgIsHelp [argv0, part, kernFpath, dtbFpath] = false)
    (hkern : (files kernFpath).length < 2 ^ 31) (hdtb : (files dtbFpath).length < 2 ^ 31)
    (hlarge : 2 ^ 31 ≤ imageSpan (files kernFpath).length (files dtbFpath).length) :
    ¬ CompleteOnSuccess files argv0 part kernFpath dtbFpath s := by
  intro hcomplete
  obtain ⟨t, o, s₁, hbuild, img, rfl⟩ := buildImage_oblige files hkern hdtb s
  have himg : (buildImage files kernFpath dtbFpath s).result = .ok (some img) := by rw [hbuild]
  obtain ⟨s', hresult, hwritten⟩ := main_of_built hargs himg
  obtain ⟨t', status, s₂, hwrite, rfl⟩ := writeImage_oblige part img s'
  rw [hwrite] at hresult
  obtain ⟨-, hall⟩ := hcomplete.complete img himg hresult
  -- an `int` is less than 2 GiB
  obtain ⟨k, hk, hcells, -⟩ := writeImage_watched part img s'
  have hlen : k = imageSpan (files kernFpath).length (files dtbFpath).length := by
    rw [← length_cells img.mem 0 k, ← length_cells img.mem 0 (imageSpan _ _), ← hall, hwritten]
    exact congrArg List.length hcells.symm
  have hint := BitVec.toInt_lt (x := img.imgsz)
  omega

end Oblige

/-! ### Success -/

/-- **Below 2 GiB, and only there, success means that the image was written completely.** -/
theorem main_completeOnSuccess_iff {files : Files} {argv0 part kernFpath dtbFpath : String}
    (hargs : anyArgIsHelp [argv0, part, kernFpath, dtbFpath] = false)
    (hkern : (files kernFpath).length < 2 ^ 31 - 512)
    (hdtb : (files dtbFpath).length < 2 ^ 31 - 512) :
    (∀ (η : Type) [Host η] (s : η), CompleteOnSuccess files argv0 part kernFpath dtbFpath s) ↔
      imageSpan (files kernFpath).length (files dtbFpath).length < 2 ^ 31 := by
  constructor
  · intro hcomplete
    by_contra hlarge
    exact not_completeOnSuccess_of_le hargs (by omega) (by omega) (by omega)
      (hcomplete ObligingHost ⟨⟩)
  · intro hsmall η _ s
    constructor
    · intro img himg hsuccess
      obtain ⟨s', hresult, hwritten⟩ := main_of_built hargs himg
      obtain ⟨hholds, hfilled⟩ := buildImage_yields hkern hdtb (by omega) s _ himg img rfl
      refine ⟨hholds, ?_⟩
      have hint : img.imgsz.toInt.toNat =
          imageSpan (files kernFpath).length (files dtbFpath).length := by
        rw [hfilled.imgsz, BitVec.toInt_ofNat', Int.bmod_eq_of_le (by omega) (by omega)]
        omega
      obtain ⟨k, -, hcells, hall⟩ := writeImage_watched part img s'
      rw [hwritten, ← hint, ← hall (hresult ▸ hsuccess)]
      exact hcells
    · intro hnone
      obtain ⟨s', hresult, hwritten⟩ := main_of_built hargs hnone
      rw [hwritten, hresult]
      refine ⟨rfl, ?_⟩
      rintro ⟨⟩

/-- Two files of 5 MiB are. -/
theorem main_completeOnSuccess_ordinary :
    CompleteOnSuccess (fun _ => List.replicate (5 * 2 ^ 20) 0) "imager" "/dev/sdc2" "zImage"
      "rpi4b.dtb" (⟨⟩ : ObligingHost) := by
  have hlen : (List.replicate (5 * 2 ^ 20) (0 : Byte)).length = 5 * 2 ^ 20 :=
    List.length_replicate
  apply (main_completeOnSuccess_iff (by decide) _ _).mpr
  · rw [hlen]
    decide
  · rw [hlen]
    decide
  · rw [hlen]
    decide

/-- Two files of 1 GiB are not. -/
theorem main_not_completeOnSuccess_large :
    ¬ CompleteOnSuccess (fun _ => List.replicate (2 ^ 30) 0) "imager" "/dev/sdc2" "zImage"
      "rpi4b.dtb" (⟨⟩ : ObligingHost) := by
  have hlen : (List.replicate (2 ^ 30) (0 : Byte)).length = 2 ^ 30 := List.length_replicate
  apply not_completeOnSuccess_of_le (by decide)
  · rw [hlen]
    decide
  · rw [hlen]
    decide
  · rw [hlen]
    decide

end RpiBld
