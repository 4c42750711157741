/-
RpiBld/Sd/ReadCommand.lean

A read command against a controller, on every schedule.

`sd_issue_read_cmd` waits for three kinds of flags, and each wait writes back
every flag it saw.  Once `CMD_COMPLETE` was cleared, the controller raises one
flag at a time and then waits to be drained, so nothing can be lost: this is
the invariant `Expecting` of the block loop.  Between `CMD_COMPLETE` and the
first `READ_READY` the controller waits for nobody.  Where both come between
two polls, the wait for `CMD_COMPLETE` clears `READ_READY` with it.

Main results:
* `readBlocksLoop_does` -- the block loop copies every block;
* `sdIssueReadCmd_lossless_iff` -- a read command copies every block exactly on
  the schedules that are calm after the command;
* `Setup.steady_iff_noneFails` -- the steady schedules are those on which no read
  command ever fails.
-/
import RpiBld.Sd.Drive

namespace RpiBld

open Traced

/-- The bytes of blocks, one block after the other. -/
def Medium.bytesOf (M : Medium) (bs : List Nat) (j : Nat) : Byte :=
  M.block (bs.getD (j / sdBlksz) 0) (j % sdBlksz)

theorem Medium.bytesOf_cons (M : Medium) (b : Nat) (bs : List Nat) (j : Nat) :
    M.bytesOf (b :: bs) j = if j < sdBlksz then M.block b j else M.bytesOf bs (j - sdBlksz) := by
  unfold bytesOf
  by_cases hj : j < sdBlksz
  · rw [if_pos hj, Nat.div_eq_of_lt hj, Nat.mod_eq_of_lt hj]
    rfl
  · have hle : sdBlksz ≤ j := Nat.le_of_not_lt hj
    have hpos : 0 < sdBlksz := by decide
    rw [if_neg hj, Nat.div_eq_sub_div hpos hle, Nat.mod_eq_sub_mod hle, List.getD_cons_succ]

/-- Blocks stored one after the other. -/
def storeBlocks (M : Medium) (ram : Ram) (dest : Word) : List Nat → Ram
  | [] => ram
  | b :: bs =>
    storeBlocks M (overlay ram dest sdBlksz (M.block b)) (dest + BitVec.ofNat 32 sdBlksz) bs

/-- Where they fit below the top of the address space, they are one area. -/
theorem storeBlocks_eq_overlay (M : Medium) (ram : Ram) (dest : Word) {bs : List Nat}
    (hlen : sdBlksz * bs.length ≤ 2 ^ 32) :
    storeBlocks M ram dest bs = overlay ram dest (sdBlksz * bs.length) (M.bytesOf bs) := by
  induction bs generalizing ram dest with
  | nil => exact overlay_zero.symm
  | cons b bs ih =>
    rw [List.length_cons, Nat.mul_succ] at hlen ⊢
    rw [storeBlocks, ih _ _ (by omega), overlay_overlay_append (by omega),
      Nat.add_comm (sdBlksz * bs.length)]
    apply overlay_congr
    intro j _
    rw [Medium.bytesOf_cons]

variable {S : Setup} {w : World (Controller S)}

/-- A word from `DATA` in RAM. -/
theorem store32_word (ram : Ram) (dest : Word) (M : Medium) (b k : Nat) :
    store32 ram dest (M.word b k) = overlay ram dest 4 fun i => M.block b (4 * k + i) :=
  overlay_congr fun _ hi => leByte_leWord _ hi

namespace Controller

/-- The controller has nothing to do, and no flag is pending. -/
structure Idle (c : Controller S) : Prop where
  irpt : c.irpt = 0
  phase : c.phase = .idle

theorem Idle.quiet {c : Controller S} (h : Idle c) : c.phase.raise = none := by
  rw [h.phase]
  rfl

theorem Idle.tick {c : Controller S} (h : Idle c) : c.tick = c.into (c.now + 1) 0 .idle := by
  rw [tick_quiet h.quiet, h.irpt, h.phase]

/-- The controller with a command written to it. -/
def issued (c : Controller S) (cmdtm args : Word) : Controller S :=
  accept cmdtm { c.into (c.now + 3) 0 .idle with arg1 := args }

/-- Blocks were delivered, and the controller has nothing to do. -/
structure Delivered (c c' : Controller S) (bs : List Nat) : Prop where
  idle : Idle c'
  served : c'.served = c.served ++ bs

theorem Delivered.trans {c c' c'' : Controller S} {bs bs' : List Nat} (h : Delivered c c' bs)
    (h' : Delivered c' c'' bs') : Delivered c c'' (bs ++ bs') where
  idle := h'.idle
  served := by rw [h'.served, h.served, List.append_assoc]

end Controller

open Controller

/-! ### Issuing a command -/

/-- On an idle controller `sd_issue_cmd` writes the command and waits; an R1 response has
no error bits. -/
theorem sdIssueCmd_does {idx : CmdIndex} {args : Word} {P : World (Controller S) → Prop}
    (hidle : Idle w.dev) (hr1 : sdCmdHasCardStatusResponse idx.command = true)
    (hwait : Does (¬ S.Prompt w.polls) (sdWaitForInterrupt interruptCmdComplete)
      (fun e w' => e = .none ∧ P w') { w with dev := w.dev.issued idx.cmdtm args }) :
    Does (¬ S.Prompt w.polls) (sdIssueCmd idx.code args)
      (fun e w' => e = .none ∧ ∃ w'', P w'' ∧ w' = { w'' with dev := w''.dev.tick }) w := by
  unfold sdIssueCmd
  rw [getCommand_code]
  apply Does.status_bind
  -- an idle controller inhibits no command
  have hstatus : w.dev.tick.status = 0 := by
    rw [hidle.tick]
    rfl
  rw [hstatus, hidle.tick]
  apply Does.ite (fun hne => absurd BitVec.zero_and hne)
  intro _
  apply Does.ite (fun hne => absurd BitVec.zero_and hne.2)
  intro _
  apply Does.set_bind
  apply Does.set_bind
  have harg : Device.set (.sd .arg1) args (w.dev.into (w.dev.now + 1) 0 .idle) =
      { w.dev.into (w.dev.now + 2) 0 .idle with arg1 := args } := by
    show ({ tick (w.dev.into (w.dev.now + 1) 0 .idle) with arg1 := args } : Controller S) = _
    rw [tick_quiet rfl]
    rfl
  have hcmd : Device.set (.sd .cmdtm) (setCmdtm idx.command).toWord
      ({ w.dev.into (w.dev.now + 2) 0 .idle with arg1 := args } : Controller S) =
      w.dev.issued idx.cmdtm args := by
    show (tick ({ w.dev.into (w.dev.now + 2) 0 .idle with arg1 := args } : Controller S)).accept
      idx.cmdtm = _
    rw [tick_quiet rfl]
    rfl
  dsimp only
  rw [harg, hcmd]
  apply hwait.bind
  rintro _ w'' ⟨rfl, hP⟩
  apply Does.ite
  · intro _
    -- the card status in the response is good
    apply Does.resp_bind
    rw [S.cardStatus_ok]
    apply Does.ite (fun herror => absurd herror Bool.false_ne_true)
    intro _
    exact Does.pure ⟨rfl, w'', hP, rfl⟩
  · intro hnone
    exact absurd ⟨rfl, hr1⟩ hnone

/-! ### Copying blocks -/

/-- The copy loop takes the rest of a block out of `DATA`. -/
theorem copyBlock_does {E : Prop} {b k n : Nat} {todo : List Nat} (dest : Word)
    (hphase : w.dev.phase = .draining b k todo) (hn : k + (n + 1) = sdBlksz / 4) :
    Does E (copyBlock dest (n + 1))
      (fun d w' => d = dest + BitVec.ofNat 32 (4 * (n + 1)) ∧ ∃ j, w' = { w with
        dev := { w.dev.into j w.dev.irpt (.afterBlock todo) with served := w.dev.served ++ [b] }
        ram := overlay w.ram dest (4 * (n + 1)) fun i => S.medium.block b (4 * k + i) }) w := by
  induction n generalizing w dest k with
  | zero =>
    apply Does.data_bind
    -- the last word, which ends the block
    have hdrain : w.dev.tick.drain = (S.medium.word b k,
        { w.dev.into (w.dev.now + 1) w.dev.irpt (.afterBlock todo) with
          served := w.dev.served ++ [b] }) := by
      rw [tick_quiet (by rw [hphase]; rfl), drain, phase_into, hphase]
      dsimp only
      rw [if_pos hn]
      rfl
    rw [hdrain]
    apply Does.store_bind
    apply Does.pure
    refine ⟨rfl, w.dev.now + 1, ?_⟩
    rw [store32_word]
  | succ n ih =>
    apply Does.data_bind
    have hne : k + 1 ≠ sdBlksz / 4 := by omega
    have hdrain : w.dev.tick.drain = (S.medium.word b k,
        w.dev.into (w.dev.now + 1) w.dev.irpt (.draining b (k + 1) todo)) := by
      rw [tick_quiet (by rw [hphase]; rfl), drain, phase_into, hphase]
      dsimp only
      rw [if_neg hne]
      rfl
    rw [hdrain]
    apply Does.store_bind
    apply (ih (w := { w with
      dev := w.dev.into (w.dev.now + 1) w.dev.irpt (.draining b (k + 1) todo)
      ram := store32 w.ram dest (S.medium.word b k) }) (dest + 4) rfl (by omega)).mono
    rintro _ _ ⟨rfl, j, rfl⟩
    refine ⟨?_, j, ?_⟩
    · -- the words that were copied lie one after the other
      rw [BitVec.add_assoc, show (4 : Word) = BitVec.ofNat 32 4 from rfl, ← BitVec.ofNat_add]
      congr 2
      omega
    · have hle : 4 * (n + 1 + 1) ≤ 2 ^ 32 := by
        have h128 : sdBlksz / 4 = 128 := rfl
        omega
      have hjoin : overlay (overlay w.ram dest 4 fun i => S.medium.block b (4 * k + i))
          (dest + BitVec.ofNat 32 4) (4 * (n + 1)) (fun i => S.medium.block b (4 * (k + 1) + i)) =
          overlay w.ram dest (4 * (n + 1 + 1)) fun i => S.medium.block b (4 * k + i) := by
        rw [overlay_overlay_append (by omega), show 4 + 4 * (n + 1) = 4 * (n + 1 + 1) by omega]
        apply overlay_congr
        intro i _
        split
        · rfl
        · congr 1
          omega
      dsimp only
      rw [store32_word, show (4 : Word) = BitVec.ofNat 32 4 from rfl, hjoin]
      rfl

/-- What the block loop finds: the flag it waits for is due. -/
def Expecting : List Nat → Controller S → Prop
  | [] => Due interruptTransferComplete .idle
  | b :: todo => Due interruptReadReady (.draining b 0 todo)

theorem expecting_afterBlock {c : Controller S} {todo : List Nat} (hirpt : c.irpt = 0)
    (hphase : c.phase = .afterBlock todo) : Expecting todo c := by
  cases todo with
  | nil => exact ⟨rfl, .inl ⟨hirpt, by rw [hphase]; rfl⟩⟩
  | cons b todo => exact ⟨rfl, .inl ⟨hirpt, by rw [hphase]; rfl⟩⟩

/-- The flags the block loop waits for, one at a time. -/
def loopFlags (nblks : Nat) : List Word :=
  List.replicate nblks interruptReadReady ++ [interruptTransferComplete]

theorem loopFlags_succ (n : Nat) : loopFlags (n + 1) = interruptReadReady :: loopFlags n := by
  rw [loopFlags, List.replicate_succ]
  rfl

/-- The block loop copies every block, and each of its waits clears the flag it waits for
and no other. -/
theorem readBlocksLoop_does {bs : List Nat} (dest : Word) (h : Expecting bs w.dev) :
    Does (¬ S.Prompt w.polls) (readBlocksLoop dest bs.length)
      (fun e w' => e = .none ∧ ∃ k, w' = { w with
        dev := { w.dev.into k 0 .idle with
          served := w.dev.served ++ bs
          acked := w.dev.acked ++ loopFlags bs.length }
        ram := storeBlocks S.medium w.ram dest bs }) w := by
  induction bs generalizing w dest with
  | nil =>
    apply (sdWaitForInterrupt_due h flagOk_transferComplete).mono
    rintro _ _ ⟨rfl, k, rfl⟩
    refine ⟨rfl, k, ?_⟩
    rw [List.append_nil]
    rfl
  | cons b todo ih =>
    apply (sdWaitForInterrupt_due h flagOk_readReady).bind
    rintro _ _ ⟨rfl, k, rfl⟩
    apply Does.ite (fun hne => absurd rfl hne)
    intro _
    refine Does.bind (copyBlock_does (n := 127) (k := 0) dest rfl rfl) ?_
    rintro _ _ ⟨rfl, j, rfl⟩
    have hblock : (fun i => S.medium.block b (4 * 0 + i)) = S.medium.block b := by
      funext i
      rw [Nat.mul_zero, Nat.zero_add]
    rw [hblock]
    -- the controller is at the next block, with no flag pending
    have hrest := ih (w := { w with
        dev := { (w.dev.after k interruptReadReady 0 (.draining b 0 todo)).into j 0
          (.afterBlock todo) with served := w.dev.served ++ [b] }
        ram := overlay w.ram dest sdBlksz (S.medium.block b) })
      (dest + BitVec.ofNat 32 sdBlksz) (expecting_afterBlock rfl rfl)
    apply hrest.mono
    rintro _ _ ⟨rfl, k', rfl⟩
    refine ⟨rfl, k', ?_⟩
    have hserved : w.dev.served ++ [b] ++ todo = w.dev.served ++ b :: todo :=
      List.append_assoc _ _ _
    have hacked : w.dev.acked ++ [interruptReadReady] ++ loopFlags todo.length =
        w.dev.acked ++ loopFlags (b :: todo).length := by
      rw [List.length_cons, loopFlags_succ, List.append_assoc]
      rfl
    rw [← hacked, ← hserved]
    rfl

/-- Without a flag to come, the block loop gives up. -/
theorem readBlocksLoop_lost (dest : Word) (n : Nat) (hirpt : w.dev.irpt = 0)
    (hphase : w.dev.phase.raise = none) :
    Does (¬ S.Prompt w.polls) (readBlocksLoop dest (n + 1)) (fun e _ => e ≠ .none) w := by
  refine Does.bind (sdWaitForInterrupt_never hirpt hphase) ?_
  intro e w' he
  apply Does.ite
  · intro _
    exact Does.pure he
  · intro hnone
    exact absurd (not_not.mp hnone) he

/-! ### Read commands -/

/-- The read commands a controller answers with blocks: CMD17, and CMD18 for as many blocks as
CMD23 has set. -/
inductive ReadsBlocks (c : Controller S) : CmdIndex → Word → List Nat → Prop
  | single (a : Word) : ReadsBlocks c .readSingleBlock a [S.medium.blockAt a]
  | multi (a : Word) (n : Nat) (hn : 1 ≤ n) (hpreset : c.preset = some n) :
      ReadsBlocks c .readMultipleBlock a (S.medium.blocksFrom (S.medium.blockAt a) n)

theorem blkSize_blksizecnt (n : Nat) :
    ((blksizecnt sdBlksz n).extractLsb' 0 10).toNat = sdBlksz := by
  rw [blksizecnt, BitVec.extractLsb'_append_eq_right]
  rfl

theorem blkCount_blksizecnt (n : Nat) :
    (blksizecnt sdBlksz n).extractLsb' 16 16 = BitVec.ofNat 16 n := by
  rw [blksizecnt, BitVec.extractLsb'_append_eq_of_le (by decide)]
  exact BitVec.extractLsb'_append_eq_left

@[simp] theorem length_blocksFrom (M : Medium) (b n : Nat) : (M.blocksFrom b n).length = n := by
  rw [Medium.blocksFrom, List.length_map, List.length_range]

variable {idx : CmdIndex} {a : Word} {bs : List Nat}

/-- The index field of a command as the controller decodes it. -/
def CmdIndex.field (idx : CmdIndex) : BitVec 6 := idx.cmdtm.extractLsb' 24 6

/-- An idle controller with the block size and count set. -/
def Controller.sized (c : Controller S) (n : Nat) : Controller S :=
  { c.into (c.now + 1) 0 .idle with blksizecnt := RpiBld.blksizecnt sdBlksz n }

/-- With the block size and count that `sd_issue_read_cmd` sets, these are the blocks. -/
theorem ReadsBlocks.phase_issued {c : Controller S} (h : ReadsBlocks c idx a bs) :
    ((c.sized bs.length).issued idx.cmdtm a).phase = .sent bs := by
  show Phase.sent (blocksAsked (S := S) _ idx.field) = _
  unfold Controller.blocksAsked
  have hsize : blkSize ({ (c.sized bs.length).into (c.now + 4) 0 .idle with arg1 := a } :
      Controller S) = sdBlksz := blkSize_blksizecnt bs.length
  rw [show (c.sized bs.length).now + 3 = c.now + 4 from rfl, if_neg (not_not.mpr hsize)]
  cases h with
  | single => rw [if_pos (by decide)]
  | multi _ n hn hpreset =>
    have hcount : blkCount ({ (c.sized n).into (c.now + 4) 0 .idle with arg1 := a } :
        Controller S) = BitVec.ofNat 16 n := blkCount_blksizecnt n
    rw [if_neg (by decide), if_pos (by decide), multiBlocks, length_blocksFrom]
    dsimp only [sized, into]
    rw [hpreset]
    exact congrArg Phase.sent (if_pos hcount)

theorem ReadsBlocks.ne_nil {c : Controller S} (h : ReadsBlocks c idx a bs) : bs ≠ [] := by
  cases h with
  | single => simp
  | multi _ n hn _ =>
    intro hnil
    have hlen := length_blocksFrom S.medium (S.medium.blockAt a) n
    rw [hnil, List.length_nil] at hlen
    omega

theorem ReadsBlocks.r1 {c : Controller S} (h : ReadsBlocks c idx a bs) :
    sdCmdHasCardStatusResponse idx.command = true := by
  cases h <;> rfl

/-- What a read command does to an idle controller: on a calm schedule it copies all blocks,
and on any other the wait for the first block times out. -/
theorem sdIssueReadCmd_does (dest : Word) (hidle : Idle w.dev) (h : ReadsBlocks w.dev idx a bs) :
    Does (¬ S.Prompt w.polls) (sdIssueReadCmd idx.code dest a bs.length)
      (fun e w' =>
        (S.Calm (w.dev.now + 4) ∧ e = .none ∧ ∃ c,
          w' = { w with dev := c, ram := storeBlocks S.medium w.ram dest bs } ∧
          Delivered w.dev c bs ∧
          c.acked = w.dev.acked ++ interruptCmdComplete :: loopFlags bs.length) ∨
        (¬ S.Calm (w.dev.now + 4) ∧ e ≠ .none)) w := by
  obtain ⟨b, todo, rfl⟩ := List.exists_cons_of_ne_nil h.ne_nil
  apply Does.set_bind
  -- the block size and count are there before the command is
  have hset : Device.set (.sd .blksizecnt) (blksizecnt sdBlksz (b :: todo).length) w.dev =
      w.dev.sized (b :: todo).length := by
    show ({ w.dev.tick with blksizecnt := _ } : Controller S) = _
    rw [hidle.tick]
    rfl
  rw [hset]
  have hwait := sdWaitForInterrupt_sent
    (w := { w with dev := (w.dev.sized (b :: todo).length).issued idx.cmdtm a }) rfl h.phase_issued
  have hissue := sdIssueCmd_does (w := { w with dev := w.dev.sized (b :: todo).length })
    ⟨rfl, rfl⟩ h.r1 hwait
  apply hissue.bind
  rintro _ _ ⟨rfl, _, ⟨k, v, f, p, rfl, hfirst⟩, rfl⟩
  apply Does.ite (fun hne => absurd rfl hne)
  intro _
  have hserved : (((w.dev.sized (b :: todo).length).issued idx.cmdtm a).after k v f p).served =
      w.dev.served := rfl
  have hacked : (((w.dev.sized (b :: todo).length).issued idx.cmdtm a).after k v f p).acked =
      w.dev.acked ++ [v] := rfl
  dsimp only at hfirst ⊢
  -- from here on only what is left of the read matters
  generalize ((w.dev.sized (b :: todo).length).issued idx.cmdtm a).after k v f p = c
    at hfirst hserved hacked ⊢
  cases hfirst with
  | due hcalm hv hdue =>
    -- the first block is announced, now or later
    subst hv
    obtain ⟨f', p', htick, hdue'⟩ := hdue.tick
    have hexpecting : Expecting (b :: todo) c.tick := hdue'
    rw [htick] at hexpecting ⊢
    apply (readBlocksLoop_does (w := { w with dev := c.into _ f' p' }) dest hexpecting).mono
    rintro _ _ ⟨rfl, k', rfl⟩
    refine .inl ⟨hcalm, rfl, _, rfl, ⟨⟨rfl, rfl⟩, ?_⟩, ?_⟩
    · exact congrArg (· ++ b :: todo) hserved
    · refine (congrArg (· ++ loopFlags (b :: todo).length) hacked).trans ?_
      exact List.append_assoc _ _ _
  | lost hcalm hirpt hphase =>
    -- its flag was cleared with that of the command
    rw [tick_quiet (by rw [hphase]; rfl), hirpt, hphase]
    apply (readBlocksLoop_lost (w := { w with dev := c.into _ 0 (.draining b 0 todo) })
      dest todo.length rfl rfl).mono
    intro e w' he
    exact .inr ⟨hcalm, he⟩

/-! ### No flag is lost -/

/-- The read command returns without error, has copied every block, and each of its waits
has cleared the flag it was for and no other. -/
def Lossless (idx : CmdIndex) (dest a : Word) (bs : List Nat) (w : World (Controller S)) : Prop :=
  (sdIssueReadCmd idx.code dest a bs.length).Returns
    (fun _ e w' => e = .none ∧ w'.ram = storeBlocks S.medium w.ram dest bs ∧
      w'.dev.served = w.dev.served ++ bs ∧
      w'.dev.acked = w.dev.acked ++ interruptCmdComplete :: loopFlags bs.length) w

/-- Where the controller is prompt, nothing cuts the run off. -/
theorem Does.returns {α : Type} {m : Drv (Controller S) α}
    {Q : α → World (Controller S) → Prop} (h : Does (¬ S.Prompt w.polls) m Q w)
    (hprompt : S.Prompt w.polls) : m.Returns (fun t a w' => sdReads t = [] ∧ Q a w') w := by
  unfold Does Program.wp at h
  rcases hm : m w with ⟨t, e | a, w'⟩
  · rw [hm] at h
    exact absurd hprompt h.2.2
  · rw [hm] at h
    exact ⟨t, a, w', hm, h⟩

theorem sdIssueReadCmd_lossless (dest : Word) (hprompt : S.Prompt w.polls) (hidle : Idle w.dev)
    (h : ReadsBlocks w.dev idx a bs) (hcalm : S.Calm (w.dev.now + 4)) :
    Lossless idx dest a bs w := by
  apply ((sdIssueReadCmd_does dest hidle h).returns hprompt).mono
  rintro t e w' ⟨-, ⟨-, rfl, c, rfl, hdelivered, hacked⟩ | ⟨hrush, -⟩⟩
  · exact ⟨rfl, rfl, hdelivered.served, hacked⟩
  · exact absurd hcalm hrush

theorem sdIssueReadCmd_not_lossless (dest : Word) (hidle : Idle w.dev)
    (h : ReadsBlocks w.dev idx a bs) (hrush : ¬ S.Calm (w.dev.now + 4)) :
    ¬ Lossless idx dest a bs w := by
  rintro ⟨t, e, w', hrun, rfl, -⟩
  have hdoes := sdIssueReadCmd_does dest hidle h
  unfold Does Program.wp at hdoes
  rw [hrun] at hdoes
  rcases hdoes.2 with ⟨hcalm, -⟩ | ⟨-, hne⟩
  · exact hrush hcalm
  · exact hne rfl

/-- **No flag is lost** exactly on the schedules that are calm after the command: the first
time the controller raises anything once `CMDTM` was written, it raises `CMD_COMPLETE`
alone.  `BLKSIZECNT`, `STATUS`, `ARG1` and `CMDTM` are the four accesses before. -/
theorem sdIssueReadCmd_lossless_iff (dest : Word) (hprompt : S.Prompt w.polls)
    (hidle : Idle w.dev) (h : ReadsBlocks w.dev idx a bs) :
    Lossless idx dest a bs w ↔ S.Calm (w.dev.now + 4) := by
  constructor
  · intro hlossless
    by_contra hrush
    exact sdIssueReadCmd_not_lossless dest hidle h hrush hlossless
  · exact sdIssueReadCmd_lossless dest hprompt hidle h

/-- **What `Steady` shuts out** are the schedules on which a read command fails: where the
controller is prompt, it is steady exactly if every read command that it is given while idle, at
whatever time, returns without an error. -/
theorem Setup.steady_iff_noneFails {polls : Nat} (hprompt : S.Prompt polls) :
    S.Steady ↔ ∀ (w : World (Controller S)) (idx : CmdIndex) (dest a : Word) (bs : List Nat),
      w.polls = polls → Idle w.dev → ReadsBlocks w.dev idx a bs →
        (sdIssueReadCmd idx.code dest a bs.length).Returns (fun _ e _ => e = .none) w := by
  constructor
  · rintro hsteady w idx dest a bs rfl hidle hreads
    exact (sdIssueReadCmd_lossless dest hprompt hidle hreads (hsteady.calm _)).mono
      fun _ _ _ h => h.1
  · intro hnone k hk
    -- CMD17 from an idle controller, so that access `k` is the first one after `CMDTM`
    let w : World (Controller S) := ⟨⟨k - 4, 0, 0, 0, none, .idle, [], []⟩, fun _ => 0, polls, 0⟩
    obtain ⟨t, e, w', hrun, rfl⟩ := hnone w .readSingleBlock 0 0 _ rfl ⟨rfl, rfl⟩ (.single 0)
    have hdoes := sdIssueReadCmd_does (w := w) 0 ⟨rfl, rfl⟩ (.single 0)
    unfold Does Program.wp at hdoes
    rw [hrun] at hdoes
    rcases hdoes.2 with ⟨hcalm, -⟩ | ⟨-, hne⟩
    · replace hcalm : S.Calm (k - 4 + 4) := hcalm
      rw [Nat.sub_add_cancel hk] at hcalm
      exact hcalm k (Nat.le_refl k) fun i hi hlt => absurd hlt (Nat.not_lt.mpr hi)
    · exact absurd rfl hne

/-- A card of zeros in a controller that raises up to `n` flags before every access. -/
def evenSetup (n : Nat) : Setup where
  medium := ⟨true, fun _ _ => 0⟩
  raises _ := n
  cardStatus := 0
  cardStatus_ok := sdCardStatusErrorBitSet_zero

theorem evenSetup_prompt {n : Nat} (hn : n ≠ 0) : (evenSetup n).Prompt 1 :=
  fun k => ⟨k, Nat.le_refl k, Nat.lt_succ_self k, hn⟩

/-- An idle controller that was told to expect two blocks, and a machine around it. -/
def twoBlocksWorld (n : Nat) : World (Controller (evenSetup n)) where
  dev := ⟨0, 0, 0, 0, some 2, .idle, [], []⟩
  ram _ := 0
  polls := 1
  frame := 0

theorem sdIssueReadCmd_lossless_twoBlocks :
    Lossless .readMultipleBlock 0 0 [0, 1] (twoBlocksWorld 1) :=
  (sdIssueReadCmd_lossless_iff 0 (evenSetup_prompt (by decide)) ⟨rfl, rfl⟩
    (.multi 0 2 (by decide) rfl)).mpr fun _ _ _ => Nat.le_refl 1

/-- Both flags come between two polls: the wait for `CMD_COMPLETE` clears `READ_READY`. -/
theorem sdIssueReadCmd_loses_readReady :
    (evenSetup 2).Prompt (twoBlocksWorld 2).polls ∧ Idle (twoBlocksWorld 2).dev ∧
      ReadsBlocks (twoBlocksWorld 2).dev .readMultipleBlock 0 [0, 1] ∧
      ¬ Lossless .readMultipleBlock 0 0 [0, 1] (twoBlocksWorld 2) := by
  have hreads : ReadsBlocks (twoBlocksWorld 2).dev .readMultipleBlock 0 [0, 1] :=
    .multi 0 2 (by decide) rfl
  refine ⟨evenSetup_prompt (by decide), ⟨rfl, rfl⟩, hreads, ?_⟩
  apply sdIssueReadCmd_not_lossless 0 ⟨rfl, rfl⟩ hreads
  intro hcalm
  have htwo : 2 ≤ 1 := hcalm 4 (Nat.le_refl 4) fun i hi hlt => absurd hlt (Nat.not_lt.mpr hi)
  exact absurd htwo (by decide)

end RpiBld
