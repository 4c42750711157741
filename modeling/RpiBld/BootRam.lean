/-
RpiBld/BootRam.lean

What a run of `c_entry` leaves of the bootloader itself.

The map of RAM (`addrmap.h`, `boot.ld`) keeps the bootloader apart from what it
loads: everything below the area of its stacks is its own, and the heap, where the
property buffer is, starts above the kernel and the device tree.  `Keeps` says of a
program that RAM below the stacks is as it was, on a board whose VideoCore answers
in the property buffer (`AnswersOnHeap`).  With `installVectorTable` before it, the
whole run puts a copy of the vector table at the start of RAM and leaves the rest
alone (`cEntry_ram`): when the kernel is to be entered, the assembly code and the
table are intact.
-/
import RpiBld.Confinement
import RpiBld.Lockstep
import RpiBld.MailboxRequests

namespace RpiBld

open Traced

/-! ### The parts of RAM -/

/-- Where the area of the supervisor stack starts: the end of the part of RAM that `boot.ld`
gives to the bootloader. -/
def bootloaderEnd : Word := 0x1d00000

/-- The local variables of the tag functions, argument and answer, are on the stack. -/
structure OnStack {σ : Type} (w : World σ) : Prop where
  above : bootloaderEnd.toNat ≤ w.frame.toNat
  below : w.frame.toNat + 24 ≤ svcStackStartAddr.toNat

/-- The VideoCore writes to the heap only, where the property buffer is. -/
def AnswersOnHeap (σ : Type) [Device σ] : Prop :=
  ∀ (ram : Ram) (d : σ), Agree ram (Device.videocore ram d).1 0 heapRamAddr.toNat

/-! ### What a program does to the machine state -/

section Moves

variable {σ : Type} {α β : Type}

/-- However a run ends, where it starts and where it ends are related. -/
def Moves (rel : World σ → World σ → Prop) (m : Drv σ α) : Prop :=
  ∀ w, m.wp (fun _ _ w' => rel w w') w

/-- A relation that the hardware keeps, and that can be followed through a run. -/
structure Tracks (rel : World σ → World σ → Prop) : Prop where
  trans : ∀ {w w' w''}, rel w w' → rel w' w'' → rel w w''
  dev : ∀ w d, rel w { w with dev := d }

theorem Tracks.refl {rel : World σ → World σ → Prop} (h : Tracks rel) (w : World σ) : rel w w :=
  h.dev w w.dev

theorem Moves.bind {rel : World σ → World σ → Prop} (h : Tracks rel) {m : Drv σ α}
    {f : α → Drv σ β} (hm : Moves rel m) (hf : ∀ a, Moves rel (f a)) : Moves rel (m >>= f) := by
  intro w
  apply Program.wp_bind (hm w)
  · intro t a w₁ hw
    exact Program.wp_mono (hf a w₁) fun _ _ w₂ hw' => h.trans hw hw'
  · intro t e w₁ hw
    exact hw

/-- The relation of `Lockstep`, with the second program forgotten. -/
abbrev moving (rel : World σ → World σ → Prop) : Related Halt Event (World σ) (World σ) :=
  fun _ m _ => Moves rel m

/-- What touches no RAM keeps every such relation. -/
theorem Tracks.lockstep [Device σ] {rel : World σ → World σ → Prop} (h : Tracks rel) :
    Lockstep (moving rel) fun _ => True where
  pure _ := h.refl
  bind hm hf := hm.bind h hf
  halt _ := h.refl
  log _ _ := h.refl
  get _ _ := fun w => h.dev w _
  set _ _ _ := fun w => h.dev w _
  timerStart _ := fun w => h.dev w _
  timerDone _ := fun w => h.dev w _
  usleep _ := fun w => h.dev w _
  polls := h.refl

/-- RAM is as it was. -/
def SameRam (w w' : World σ) : Prop := w'.ram = w.ram

theorem tracks_sameRam : Tracks (SameRam (σ := σ)) where
  trans h h' := h'.trans h
  dev _ _ := rfl

/-- RAM below the stacks is as it was, and the stack is where it was. -/
def SameBelow (w w' : World σ) : Prop :=
  OnStack w → w'.frame = w.frame ∧ Agree w.ram w'.ram 0 bootloaderEnd.toNat

theorem tracks_sameBelow : Tracks (SameBelow (σ := σ)) where
  trans h h' hw := by
    obtain ⟨hframe, hram⟩ := h hw
    obtain ⟨hframe', hram'⟩ := h' ⟨by rw [hframe]; exact hw.above, by rw [hframe]; exact hw.below⟩
    exact ⟨hframe'.trans hframe, hram.trans hram'⟩
  dev _ _ _ := ⟨rfl, Agree.refl⟩

/-- RAM below the stacks is kept. -/
def Keeps (m : Drv σ α) : Prop := Moves SameBelow m

namespace Keeps

theorem pure (a : α) : Keeps (Pure.pure a : Drv σ α) := tracks_sameBelow.refl

theorem bind {m : Drv σ α} {f : α → Drv σ β} (hm : Keeps m) (hf : ∀ a, Keeps (f a)) :
    Keeps (m >>= f) :=
  Moves.bind tracks_sameBelow hm hf

theorem ite {p : Prop} [Decidable p] {m m' : Drv σ α} (hm : Keeps m) (hm' : Keeps m') :
    Keeps (if p then m else m') := by
  by_cases hp : p
  · rw [if_pos hp]; exact hm
  · rw [if_neg hp]; exact hm'

theorem view (f : World σ → α) : Keeps (Program.view f) := tracks_sameBelow.refl

end Keeps

end Moves

section Driver

variable {σ : Type} [Device σ]

/-! ### The mailbox -/

/-- The answer to a request goes to the stack or above. -/
structure ReturnsAbove (req : TagRequest) : Prop where
  above : bootloaderEnd.toNat ≤ req.ret.toNat
  fits : req.ret.toNat + req.retSz.toNat ≤ 2 ^ 32

theorem returnTagLoop_keeps {reqs : List TagRequest} (hreqs : ∀ req ∈ reqs, ReturnsAbove req)
    (n : Int) (tag : Word) (i : Int) :
    Keeps (returnTagLoop n tag reqs i : Drv σ VcmailboxError) := by
  have h := (tracks_sameBelow (σ := σ)).lockstep
  have hload : ∀ a, Keeps (ramLoad32 a : Drv σ Word) := fun a => .view _
  have hid : ∀ tag, Keeps (loadTagId tag : Drv σ Word) := fun tag => .ite (hload _) (h.halt _)
  have hend : Keeps (returnTagEnd n i : Drv σ VcmailboxError) := .ite (h.logged _ _ _) (.pure _)
  induction reqs generalizing tag i with
  | nil => exact (hid _).bind fun id => .ite hend (h.halt _)
  | cons req reqs ih =>
    have hreq := hreqs req List.mem_cons_self
    have hvalue : Keeps (returnTagValue tag req : Drv σ Unit) := by
      apply Keeps.ite _ (Keeps.pure ())
      intro w _
      have hcopy : Agree w.ram (mcopy w.ram (tag + 12) (BitVec.ofNat 32 req.ret.toNat)
          req.retSz.toNat) 0 bootloaderEnd.toNat :=
        agree_mcopy w.ram hreq.fits (by decide) (.inl hreq.above)
      rw [BitVec.ofNat_toNat, BitVec.setWidth_eq] at hcopy
      exact ⟨rfl, hcopy⟩
    have hrest : ∀ tag, Keeps (returnTagLoop n tag reqs (i + 1) : Drv σ VcmailboxError) :=
      fun tag => ih (fun r hr => hreqs r (List.mem_cons_of_mem _ hr)) tag (i + 1)
        (.ite (h.logged _ _ _) (.pure _))
    apply (hid _).bind
    intro id
    apply Keeps.ite hend
    apply Keeps.ite (h.logged _ _ _)
    apply (hload _).bind
    intro code
    apply Keeps.ite (h.logged _ _ _)
    apply Keeps.ite (h.logged _ _ _)
    apply hvalue.bind
    intro _
    exact (hload _).bind fun _ => hrest _

variable (hvc : AnswersOnHeap σ)

include hvc

theorem vcmailboxRequestTags_keeps {reqs : List TagRequest} (hwf : ∀ req ∈ reqs, req.WellFormed)
    (hfit : heapRamAddr.toNat + bufferSpan reqs ≤ 2 ^ 32)
    (hargs : ∀ req ∈ reqs, ∀ y, heapRamAddr.toNat ≤ y →
      y < heapRamAddr.toNat + bufferSpan reqs → ¬ req.Args (BitVec.ofNat 32 y))
    (hret : ∀ req ∈ reqs, ReturnsAbove req) :
    Keeps (vcmailboxRequestTags reqs : Drv σ VcmailboxError) := by
  have h := (tracks_sameBelow (σ := σ)).lockstep
  have hload : ∀ a, Keeps (ramLoad32 a : Drv σ Word) := fun a => .view _
  have hfull : moving (σ := σ) SameBelow Bool mbox1StatusFullFlagSet mbox1StatusFullFlagSet :=
    h.bind (h.get _ trivial) fun _ => h.pure _
  have hempty : moving (σ := σ) SameBelow Bool mbox0StatusEmptyFlagSet mbox0StatusEmptyFlagSet :=
    h.bind (h.get _ trivial) fun _ => h.pure _
  have hwrite : ∀ data chan, Keeps (vcmailboxWriteMessage data chan : Drv σ Unit) :=
    fun data chan => Keeps.bind (h.whileCondTimeoutInfinite hfull _) fun _ => h.set _ _ trivial
  have hanswer : Keeps (vcmailboxReadMessage : Drv σ Word) := by
    refine Keeps.bind (h.whileCondTimeoutInfinite hempty _) fun _ => ?_
    refine Keeps.bind ?_ fun _ => h.get _ trivial
    intro w _
    exact ⟨rfl, (hvc w.ram w.dev).mono (Nat.le_refl 0) (by decide)⟩
  refine Keeps.bind ?_ fun sendProp => ?_
  · intro w _
    obtain ⟨-, -, -, -, hbelow, -⟩ := buildPropertyBuffer_sentAt w.ram hwf hfit hargs
    exact ⟨rfl, hbelow.mono (Nat.le_refl 0) (by decide)⟩
  apply (hwrite _ _).bind
  intro _
  apply hanswer.bind
  intro recvMsg
  apply Keeps.ite (h.logged _ _ _)
  apply Keeps.ite (h.logged _ _ _)
  apply (hload _).bind
  intro code
  apply Keeps.ite (h.logged _ _ _)
  apply Keeps.ite (h.logged _ _ _)
  exact returnTagLoop_keeps hret _ _ _

/-- The request that `requestTag` makes. -/
def tagRequest (id : TagId) (frame : Word) (retSz : Nat) : TagRequest :=
  ⟨id.code, frame, 4, frame + 4, retSz⟩

omit [Device σ] hvc in
theorem tagRequest_spec (id : TagId) {frame : Word} {retSz : Nat} (hretSz : retSz ≤ 20)
    (habove : bootloaderEnd.toNat ≤ frame.toNat)
    (hbelow : frame.toNat + 24 ≤ svcStackStartAddr.toNat) :
    let req := tagRequest id frame retSz
    req.WellFormed ∧ ReturnsAbove req ∧ bufferSpan [req] ≤ 48 ∧
      ∀ y, heapRamAddr.toNat ≤ y → y < 2 ^ 32 → ¬ req.Args (BitVec.ofNat 32 y) := by
  have hend : bootloaderEnd.toNat = 0x1d00000 := rfl
  have hstack : svcStackStartAddr.toNat = 0x1e00000 := rfl
  have hheap : heapRamAddr.toNat = 0x10000000 := rfl
  have hret : (frame + 4).toNat = frame.toNat + 4 := by
    rw [BitVec.toNat_add]
    exact Nat.mod_eq_of_lt (show frame.toNat + 4 < 2 ^ 32 by omega)
  refine ⟨⟨?_, ?_, ?_, ?_, ?_⟩, ⟨?_, ?_⟩, ?_, ?_⟩
  · show id.code ≠ 0
    cases id <;> decide
  · show (0 : Int) ≤ 4
    omega
  · show (4 : Int) < 2 ^ 31
    omega
  · show (0 : Int) ≤ retSz
    omega
  · show (retSz : Int) < 2 ^ 31
    omega
  · show bootloaderEnd.toNat ≤ (frame + 4).toNat
    omega
  · show (frame + 4).toNat + (retSz : Int).toNat ≤ 2 ^ 32
    omega
  · simp only [bufferSpan, tagsSpan, TagRequest.span, TagRequest.valueLen, TagRequest.valueBufsz,
      tagRequest]
    omega
  · intro y hy hlt hin
    have hframe : Region (BitVec.ofNat 32 frame.toNat) 4 (BitVec.ofNat 32 y) := by
      rw [BitVec.ofNat_toNat, BitVec.setWidth_eq]
      exact hin
    rw [region_ofNat_iff (by omega) hlt] at hframe
    omega

/-- Asking the VideoCore for something uses the stack and the heap. -/
theorem keeping_tags : TagLockstep (moving (σ := σ) SameBelow) fun _ => True where
  toLockstep := tracks_sameBelow.lockstep
  requestTag id arg retSz hretSz := by
    intro w hw
    obtain ⟨hwf, hret, hspan, hargs⟩ := tagRequest_spec id hretSz hw.above hw.below
    have hheap : heapRamAddr.toNat = 0x10000000 := rfl
    have hfit : heapRamAddr.toNat + bufferSpan [tagRequest id w.frame retSz] ≤ 2 ^ 32 := by omega
    have hsend := vcmailboxRequestTags_keeps hvc (List.forall_mem_singleton.mpr hwf) hfit
      (List.forall_mem_singleton.mpr fun y hy hlt => hargs y hy (by omega))
      (List.forall_mem_singleton.mpr hret)
    have harg : Keeps (Program.change fun w' : World σ =>
        ((), { w' with ram := store32 w'.ram w.frame arg })) := by
      intro w' _
      have hbelow := hw.below
      have hstack : svcStackStartAddr.toNat = 0x1e00000 := rfl
      have hstore : Agree w'.ram (overlay w'.ram (BitVec.ofNat 32 w.frame.toNat) 4 (leByte arg)) 0
          bootloaderEnd.toNat :=
        agree_overlay (by omega) (by decide) (.inl hw.above)
      rw [BitVec.ofNat_toNat, BitVec.setWidth_eq] at hstore
      exact ⟨rfl, hstore⟩
    have hwords : ∀ error : VcmailboxError, Keeps (do
        let words ← Program.view fun (w' : World σ) i =>
          load32 w'.ram (w.frame + 4 + BitVec.ofNat 32 (4 * i))
        pure (error, words) : Drv σ (VcmailboxError × (Nat → Word))) :=
      fun error => Keeps.bind (.view _) fun _ => .pure _
    have hrest := (harg.bind fun _ => hsend.bind hwords) w hw
    rw [requestTag, Program.view_bind_run]
    exact hrest

/-! ### From the entry point to the kernel -/

theorem initPeripherals_keeps : Keeps (initPeripherals : Drv σ Card) :=
  (keeping_tags hvc).initPeripherals (issuing_true _) (issuing_true _) settingUp_true wiring_true

omit hvc in
theorem resetPeripherals_ram (card : Card) :
    Moves SameRam (resetPeripherals card : Drv σ Unit) :=
  tracks_sameRam.lockstep.resetPeripherals (issuing_true _) settingUp_true card

omit hvc in
/-- The loader writes from the kernel's header on. -/
theorem loadImage_ram (card : Card) (imagePartition : Int) (w : World σ) :
    (loadImage card imagePartition).wp
      (fun _ _ w' => Agree w.ram w'.ram 0 bootloaderEnd.toNat) w := by
  have hrun : StaysWithin kernItemRamAddr.toNat 0x90000000
      (128 + (128 + 3 * (128 * (1 + maxItemBlocks)))) (loadImage card imagePartition : Drv σ Unit) :=
    .bind (loadMbr_staysWithin card imagePartition (by decide) (by decide) (by decide)) fun _ =>
      .bind (loadImageHead_staysWithin card imagePartition _ (by decide) (by decide) (by decide))
        fun _ => loadImageItems_staysWithin card _
  apply Program.wp_mono (hrun w)
  intro _ _ w' h x _ hx
  have hend : bootloaderEnd.toNat ≤ kernItemRamAddr.toNat := by decide
  have hlt : kernItemRamAddr.toNat < 2 ^ 32 := kernItemRamAddr.isLt
  apply h.frame
  rw [BitVec.toNat_ofNat]
  omega

/-- **What a run of `c_entry` leaves of the bootloader**: a copy of the vector table at the start
of RAM, and below the stacks everything else as it was. -/
theorem cEntry_ram (labels : Labels) (imagePartition : Int) {w : World σ} (hw : OnStack w) :
    (cEntry labels imagePartition).wp (fun _ r w' => ∀ a, r = .ok a →
      a = kernRamAddr ∧ Agree (mcopy w.ram labels.vectorTable 0
        (labels.vectorTablePoolEnd - labels.vectorTable).toInt.toNat) w'.ram 0
          bootloaderEnd.toNat) w := by
  have hinstall : (installVectorTable labels).wp (fun _ _ w' => w'.frame = w.frame ∧
      w'.ram = mcopy w.ram labels.vectorTable 0
        (labels.vectorTablePoolEnd - labels.vectorTable).toInt.toNat) w := ⟨rfl, rfl⟩
  apply Program.wp_bind hinstall
  swap
  · rintro t e w' - a ⟨⟩
  rintro _ _ w₁ ⟨hframe, hram⟩
  rw [← hram]
  have hw₁ : OnStack w₁ := ⟨by rw [hframe]; exact hw.above, by rw [hframe]; exact hw.below⟩
  apply Program.wp_bind (initPeripherals_keeps hvc w₁)
  swap
  · rintro t e w' - a ⟨⟩
  rintro _ card w₂ hinit
  apply Program.wp_bind (loadImage_ram card imagePartition w₂)
  swap
  · rintro t e w' - a ⟨⟩
  rintro _ _ w₃ hload
  apply Program.wp_bind (resetPeripherals_ram card w₃)
  swap
  · rintro t e w' - a ⟨⟩
  rintro _ _ w₄ hreset a ha
  refine ⟨(Except.ok.inj ha).symm, ?_⟩
  show Agree w₁.ram w₄.ram 0 bootloaderEnd.toNat
  rw [hreset]
  exact (hinit hw₁).2.trans hload

end Driver

end RpiBld
