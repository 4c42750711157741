/-
RpiBld/Sd/ReadPlan.lean

The commands of `sd_read_blocks_card`, on every device, whatever it answers.

`readPlan` is the list of commands a read consists of, worked out from the card
kind, the LBA and the number of blocks alone.  On every device the driver
follows it command by command and stops at the first that does not go well
(`Follows`).

Main results:
* `delivers_readPlan` -- the commands of the plan deliver exactly the blocks asked
  for, in order, on each kind of card;
* `sdReadBlocksCard_follows` -- every run keeps to it.
-/
import RpiBld.Sd.ReadBlocks
import RpiBld.Sd.Talk
import RpiBld.Sd.Quiet

namespace RpiBld

open Traced

/-! ### The plan -/

/-- A command of a read, with its argument and the number of data blocks it transfers. -/
structure ReadStep where
  idx : CmdIndex
  arg : Word
  nblks : Nat
  deriving DecidableEq, Repr

/-- One CMD17 for each block. -/
def singlePlan (card : Card) (a : Word) : Nat → List ReadStep
  | 0 => []
  | n + 1 => ⟨.readSingleBlock, a, 1⟩ :: singlePlan card (a + sdAddrStep card) n

/-- A pass of at most 65535 blocks. -/
def passPlan (card : Card) (a : Word) (n : Nat) : List ReadStep :=
  if n = 1 then [⟨.readSingleBlock, a, 1⟩]
  else if n > 1 ∧ card.cmd23Supported = true then
    [⟨.setBlockCount, BitVec.ofNat 32 n, 0⟩, ⟨.readMultipleBlock, a, n⟩]
  else singlePlan card a n

/-- The passes of a read; the last one takes what is left. -/
def readPlan (card : Card) (lba : Word) (n : Nat) : List ReadStep :=
  if uint16Max < n then
    passPlan card (sdSrcAddr card lba) uint16Max ++
      readPlan card (lba + BitVec.ofNat 32 uint16Max) (n - uint16Max)
  else passPlan card (sdSrcAddr card lba) n
termination_by n
decreasing_by
  simp only [uint16Max] at *
  omega

/-- The blocks a card delivers for a list of commands.  The count of a CMD23 holds for the
command that follows. -/
def delivers (M : Medium) : Option Nat → List ReadStep → List Nat
  | _, [] => []
  | preset, ⟨idx, a, n⟩ :: steps =>
    match idx with
    | .readSingleBlock => M.blockAt a :: delivers M none steps
    | .readMultipleBlock =>
      (if preset = some n then M.blocksFrom (M.blockAt a) n else []) ++ delivers M none steps
    | .setBlockCount => delivers M (some a.toNat) steps
    | _ => delivers M none steps

section Delivers

variable {S : Setup} {card : Card} {lba : Word}

theorem delivers_singlePlan (hcard : Matches card S) (n : Nat) (steps : List ReadStep) :
    delivers S.medium none (singlePlan card (sdSrcAddr card lba) n ++ steps) =
      S.medium.blocksFrom lba.toNat n ++ delivers S.medium none steps := by
  induction n generalizing lba with
  | zero => rfl
  | succ n ih =>
    rw [singlePlan, sdSrcAddr_succ, List.cons_append, delivers, ih, blockAt_sdSrcAddr hcard,
      Medium.blocksFrom_toNat_add, Nat.add_comm n 1, ← Medium.blocksFrom_append,
      Medium.blocksFrom_one]
    rfl

theorem delivers_passPlan (lba : Word) (hcard : Matches card S) {n : Nat} (hn : n < 2 ^ 32)
    (steps : List ReadStep) :
    delivers S.medium none (passPlan card (sdSrcAddr card lba) n ++ steps) =
      S.medium.blocksFrom lba.toNat n ++ delivers S.medium none steps := by
  unfold passPlan
  split
  case isTrue h =>
    subst h
    rw [Medium.blocksFrom_one, ← blockAt_sdSrcAddr hcard]
    rfl
  case isFalse =>
    split
    case isTrue =>
      have hcount : (BitVec.ofNat 32 n).toNat = n := by
        rw [BitVec.toNat_ofNat, Nat.mod_eq_of_lt hn]
      rw [List.cons_append, delivers, hcount, List.cons_append, delivers, if_pos rfl,
        blockAt_sdSrcAddr hcard, Medium.blocksFrom_congr _ n (Nat.mod_mod _ _)]
      rfl
    case isFalse => exact delivers_singlePlan hcard n steps

/-- **The plan is right**: its commands deliver the blocks from `lba` on, each exactly once
and in order, whatever the kind of the card. -/
theorem delivers_readPlan (hcard : Matches card S) (n : Nat) :
    delivers S.medium none (readPlan card lba n) = S.medium.blocksFrom lba.toNat n := by
  induction n using Nat.strong_induction_on generalizing lba with
  | _ n ih =>
    unfold readPlan
    split
    case isTrue hlong =>
      have hpos : 0 < uint16Max := by decide
      rw [delivers_passPlan _ hcard (by decide), ih (n - uint16Max) (by omega),
        Medium.blocksFrom_toNat_add, Medium.blocksFrom_append,
        Nat.add_sub_cancel' (Nat.le_of_lt hlong)]
    case isFalse hshort =>
      have hn : n < 2 ^ 32 := by
        simp only [uint16Max] at hshort
        omega
      have h := delivers_passPlan lba hcard hn []
      rwa [List.append_nil, delivers, List.append_nil] at h

end Delivers

/-! ### Following the plan -/

/-- The flags a command of a read waits for. -/
def ReadStep.flags (s : ReadStep) : List Word :=
  interruptCmdComplete :: if s.nblks = 0 then [] else loopFlags s.nblks

/-- A command together with what the host saw until the next. -/
abbrev Taken : Type := ReadStep × List Answer

def Taken.exchange (x : Taken) : Exchange := ⟨x.1.idx.cmdtm, x.1.arg, x.2⟩

/-- The command went well: its flags came one by one, its response has no error bits, and
all of its data was read. -/
structure Went (x : Taken) : Prop where
  flags : List.Forall₂ FlagOk x.1.flags (RpiBld.flags x.2)
  status : StatusOk x.1.idx x.2
  data : (dataWords x.2).length = sdBlksz / 4 * x.1.nblks

/-- `m` issues the commands of a plan, one after the other: all of them, where it returns
well, and else a beginning in which only the last may not have gone well. -/
def Follows {σ α : Type} (m : Drv σ α) (good : α → Prop) (plan : List ReadStep) : Prop :=
  Talk [] m fun ys r => ∃ xs : List Taken, ys = xs.map Taken.exchange ∧
    ((∃ a, r = .ok a ∧ good a ∧ Complete Prod.fst Went plan xs) ∨
      ((∀ a, r = .ok a → ¬ good a) ∧ Partial Prod.fst Went plan xs))

/-- What follows the last command says nothing and returns badly. -/
def GivesUp {σ α : Type} (m : Drv σ α) (good : α → Prop) : Prop :=
  Talk [] m fun ys r => ys = [] ∧ ∀ a, r = .ok a → ¬ good a

section Driver

variable {σ : Type} {α β : Type} {plan plan' : List ReadStep}
variable {m : Drv σ α} {f : α → Drv σ β} {good : α → Prop} {good' : β → Prop}

namespace Follows

theorem pure {a : α} (h : good a) : Follows (Pure.pure a : Drv σ α) good [] :=
  Talk.pure ⟨[], rfl, .inl ⟨a, rfl, h, Complete.nil⟩⟩

theorem bind (h : Follows m good plan) (hok : ∀ a, good a → Follows (f a) good' plan')
    (hbad : ∀ a, ¬ good a → GivesUp (f a) good') : Follows (m >>= f) good' (plan ++ plan') := by
  apply Talk.bind h
  · rintro _ a ⟨xs, rfl, ⟨a', ha, hgood, hxs⟩ | ⟨ha, hxs⟩⟩
    · obtain rfl := Except.ok.inj ha
      apply (hok a hgood).frame.mono
      rintro _ r ⟨_, rfl, zs, rfl, ⟨b, hb, hgood', hzs⟩ | ⟨hb, hzs⟩⟩
      · exact ⟨xs ++ zs, by rw [List.map_append], .inl ⟨b, hb, hgood', hxs.append hzs⟩⟩
      · exact ⟨xs ++ zs, by rw [List.map_append], .inr ⟨hb, hxs.followedBy hzs⟩⟩
    · apply (hbad a (ha a rfl)).frame.mono
      rintro _ r ⟨_, rfl, rfl, hb⟩
      exact ⟨xs, List.append_nil _, .inr ⟨hb, hxs.extend plan'⟩⟩
  · rintro _ e ⟨xs, rfl, ⟨a, ha, -⟩ | ⟨-, hxs⟩⟩
    · cases ha
    · exact ⟨xs, rfl, .inr ⟨fun _ hb => (by cases hb), hxs.extend plan'⟩⟩

/-- The last part of a plan. -/
theorem bind_last (h : Follows m good plan) (hok : ∀ a, good a → Follows (f a) good' [])
    (hbad : ∀ a, ¬ good a → GivesUp (f a) good') : Follows (m >>= f) good' plan := by
  have hboth := h.bind hok hbad
  rwa [List.append_nil] at hboth

theorem ite {p : Prop} [Decidable p] {m' : Drv σ α} (ht : p → Follows m good plan)
    (hf : ¬ p → Follows m' good plan) : Follows (if p then m else m') good plan :=
  Talk.ite ht hf

end Follows

theorem GivesUp.pure {a : α} (h : ¬ good a) : GivesUp (Pure.pure a : Drv σ α) good := by
  apply Talk.pure
  refine ⟨rfl, ?_⟩
  rintro _ ⟨⟩
  exact h

theorem GivesUp.log {fmt : String} {args : List LogArg} {a : α} (h : ¬ good a) :
    GivesUp (do serialLog fmt args; Pure.pure a : Drv σ α) good :=
  Talk.log_bind (GivesUp.pure h)

/-- A program that issues nothing and returns badly follows any plan. -/
theorem GivesUp.follows (h : GivesUp m good) (plan : List ReadStep) : Follows m good plan := by
  apply Talk.mono h
  rintro _ r ⟨rfl, hbad⟩
  exact ⟨[], rfl, .inr ⟨hbad, Partial.nil⟩⟩

/-! ### What the host hears after a command -/

/-- The answers `m` adds to those of the last command. -/
def Hears (m : Drv σ α) (Q : List Answer → Except Halt α → Prop) : Prop :=
  ∀ xs x, Talk (xs ++ [x]) m fun ys r =>
    ∃ as, ys = xs ++ [{ x with answers := x.answers ++ as }] ∧ Q as r

namespace Hears

variable {P Q : List Answer → Except Halt α → Prop} {R : List Answer → Except Halt β → Prop}

theorem mono (h : Hears m P) (hPQ : ∀ as r, P as r → Q as r) : Hears m Q := by
  intro xs x
  apply (h xs x).mono
  rintro ys r ⟨as, rfl, hP⟩
  exact ⟨as, rfl, hPQ as r hP⟩

theorem pure {a : α} (h : Q [] (.ok a)) : Hears (Pure.pure a : Drv σ α) Q := by
  intro xs x
  apply Talk.pure
  exact ⟨[], by rw [List.append_nil], h⟩

theorem bind (h : Hears m P)
    (hok : ∀ as a, P as (.ok a) → Hears (f a) fun bs r => R (as ++ bs) r)
    (herr : ∀ as e, P as (.error e) → R as (.error e)) : Hears (m >>= f) R := by
  intro xs x
  apply (h xs x).bind
  · rintro _ a ⟨as, rfl, hP⟩
    apply (hok as a hP xs _).mono
    rintro _ r ⟨bs, rfl, hR⟩
    exact ⟨as ++ bs, by rw [List.append_assoc], hR⟩
  · rintro _ e ⟨as, rfl, hP⟩
    exact ⟨as, rfl, herr as e hP⟩

theorem ite {p : Prop} [Decidable p] {m' : Drv σ α} (ht : p → Hears m Q)
    (hf : ¬ p → Hears m' Q) : Hears (if p then m else m') Q :=
  fun xs x => Talk.ite (fun h => ht h xs x) fun h => hf h xs x

variable [Device σ]

theorem wait (mask : Word) : Hears (sdWaitForInterrupt mask : Drv σ CmdError) fun as r =>
    IrptsOnly as ∧ (r = .ok .none ↔ ∃ f, RpiBld.flags as = [f] ∧ FlagOk mask f) := by
  intro xs x c₀ c hc
  apply (sdWaitForInterrupt_watched mask).mono
  rintro c' r ⟨as, rfl, honly, -, hflags⟩
  exact ⟨_, said_foldl_hear hc as, as, rfl, honly, hflags⟩

theorem data : Hears (registerGet (.sd .data) : Drv σ Word) fun as r =>
    ∃ v, as = [.data v] ∧ r = .ok v := by
  intro xs x c₀ c hc
  have hget : Watched observe c (registerGet (.sd .data) >>= Pure.pure : Drv σ Word) fun c' r =>
      ∃ v, c' = observe c (.get (.sd .data) v) ∧ r = .ok v :=
    registerGet_bind fun v => Watched.pure ⟨v, rfl, rfl⟩
  rw [bind_pure] at hget
  apply hget.mono
  rintro _ _ ⟨v, rfl, rfl⟩
  exact ⟨_, said_hear hc _, [.data v], rfl, v, rfl, rfl⟩

end Hears

variable [Device σ]

omit [Device σ] in
/-- Storing to RAM says nothing. -/
theorem ramStore32_hears (a v : Word) : Hears (ramStore32 a v : Drv σ Unit) fun as r =>
    as = [] ∧ r = .ok () := by
  intro xs x c₀ c hc w
  exact ⟨_, hc, [], by rw [List.append_nil], rfl, rfl⟩

theorem copyBlock_hears (dest : Word) (n : Nat) :
    Hears (copyBlock dest n : Drv σ Word) fun as r =>
      flags as = [] ∧ (dataWords as).length = n ∧ ∃ d, r = .ok d := by
  induction n generalizing dest with
  | zero => exact Hears.pure ⟨rfl, rfl, dest, rfl⟩
  | succ n ih =>
    apply Hears.data.bind
    · rintro _ v ⟨_, rfl, -⟩
      apply (ramStore32_hears dest v).bind
      · rintro _ _ ⟨rfl, -⟩
        apply (ih (dest + 4)).mono
        rintro as r ⟨hflags, hdata, d, rfl⟩
        refine ⟨?_, ?_, d, rfl⟩
        · rw [List.nil_append, List.singleton_append, flags_cons, hflags]
          rfl
        · rw [List.nil_append, List.singleton_append, dataWords_cons, List.length_append, hdata,
            Nat.add_comm]
          rfl
      · rintro _ e ⟨-, he⟩
        cases he
    · rintro _ e ⟨v, -, he⟩
      cases he

/-- The block loop returns without error only after all of its flags and data. -/
theorem readBlocksLoop_hears (dest : Word) (n : Nat) :
    Hears (readBlocksLoop dest n : Drv σ CmdError) fun as r => r = .ok .none →
      List.Forall₂ FlagOk (loopFlags n) (flags as) ∧ (dataWords as).length = sdBlksz / 4 * n := by
  induction n generalizing dest with
  | zero =>
    apply (Hears.wait interruptTransferComplete).mono
    rintro as r ⟨honly, hiff⟩ hr
    obtain ⟨f, hf, hok⟩ := hiff.mp hr
    rw [hf, honly.plain.data]
    exact ⟨.cons hok .nil, rfl⟩
  | succ n ih =>
    apply (Hears.wait interruptReadReady).bind
    · rintro as error ⟨honly, hiff⟩
      apply Hears.ite
      · intro herror
        apply Hears.pure
        intro hr
        exact absurd (Except.ok.inj hr) herror
      · intro hnone
        obtain rfl := not_not.mp hnone
        obtain ⟨f, hf, hok⟩ := hiff.mp rfl
        apply (copyBlock_hears dest (sdBlksz / 4)).bind
        · rintro bs d ⟨hflags, hdata, -⟩
          apply (ih d).mono
          intro cs r hrest hr
          obtain ⟨hcs, hlen⟩ := hrest hr
          constructor
          · rw [loopFlags_succ, flags_append, flags_append, hf, hflags, List.nil_append]
            exact .cons hok hcs
          · rw [dataWords_append, dataWords_append, honly.plain.data, List.nil_append,
              List.length_append, hdata, hlen, Nat.mul_succ, Nat.add_comm]
        · rintro bs e ⟨-, -, d, hd⟩
          cases hd
    · rintro as e -
      intro hr
      cases hr

/-! ### The commands of a read -/

/-- A command that went well is all of its own plan. -/
theorem Went.complete {s : ReadStep} {as : List Answer} (h : Went (s, as)) :
    Complete Prod.fst Went [s] [(s, as)] :=
  Complete.singleton (x := (s, as)) h

/-- A command that may not have gone well is the beginning of its own plan. -/
theorem taken_partial (s : ReadStep) (as : List Answer) :
    Partial Prod.fst Went [s] [(s, as)] :=
  Partial.singleton (s, as)

/-- What an unsuccessful command leaves behind is the beginning of its own plan. -/
theorem Unanswered.taken {idx : CmdIndex} {a : Word} {zs : List Exchange}
    (h : Unanswered idx a zs) (n : Nat) : ∃ xs : List Taken, zs = xs.map Taken.exchange ∧
      Partial Prod.fst Went [⟨idx, a, n⟩] xs := by
  cases h with
  | unsaid => exact ⟨[], rfl, Partial.nil⟩
  | @said as _ _ => exact ⟨[(⟨idx, a, n⟩, as)], rfl, taken_partial _ _⟩

/-- CMD23. -/
theorem sdIssueCmd_follows (idx : CmdIndex) (a : Word) :
    Follows (sdIssueCmd idx.code a : Drv σ CmdError) (· = .none) [⟨idx, a, 0⟩] := by
  apply Talk.issue.mono
  rintro _ r (⟨as, rfl, ⟨⟨f, hf, hok⟩, hstatus⟩, hplain, rfl⟩ | ⟨zs, rfl, hun, hr, -⟩)
  · refine ⟨[(⟨idx, a, 0⟩, as)], rfl, .inl ⟨.none, rfl, rfl, ?_⟩⟩
    refine Went.complete ⟨?_, hstatus, ?_⟩
    · rw [hf]
      exact .cons hok .nil
    · rw [hplain.data]
      rfl
  · obtain ⟨xs, rfl, hxs⟩ := hun.taken 0
    refine ⟨xs, rfl, .inr ⟨?_, hxs⟩⟩
    rintro e rfl rfl
    exact hr rfl

/-- A read command. -/
theorem sdIssueReadCmd_follows (idx : CmdIndex) (dest a : Word) (n : Nat) (hn : n ≠ 0) :
    Follows (sdIssueReadCmd idx.code dest a n : Drv σ CmdError) (· = .none) [⟨idx, a, n⟩] := by
  apply Talk.set_bind (quiet_set rfl _)
  apply Talk.issue_bind
  · rintro as ⟨⟨f, hf, hok⟩, hstatus⟩ hplain
    apply Talk.ite (fun hne => absurd rfl hne)
    intro _
    apply (readBlocksLoop_hears dest n [] _).mono
    rintro _ r ⟨bs, rfl, hloop⟩
    refine ⟨[(⟨idx, a, n⟩, as ++ bs)], rfl, ?_⟩
    by_cases hr : r = .ok .none
    · subst hr
      obtain ⟨hflags, hdata⟩ := hloop rfl
      refine .inl ⟨.none, rfl, rfl, Went.complete ⟨?_, ?_, ?_⟩⟩
      · rw [ReadStep.flags, if_neg hn, flags_append, hf]
        exact .cons hok hflags
      · intro hr1
        obtain ⟨cs, hcs, hbits⟩ := hstatus hr1
        refine ⟨cs, ?_, hbits⟩
        rw [responses_append, List.head?_append, hcs]
        rfl
      · rw [dataWords_append, hplain.data, List.nil_append, hdata]
    · refine .inr ⟨?_, taken_partial _ _⟩
      rintro e rfl rfl
      exact hr rfl
  · intro zs e hun he _
    apply Talk.ite
    · intro _
      apply Talk.pure
      obtain ⟨xs, rfl, hxs⟩ := hun.taken n
      refine ⟨xs, rfl, .inr ⟨?_, hxs⟩⟩
      rintro _ ⟨⟩
      exact he
    · intro hnone
      exact absurd (not_not.mp hnone) he
  · intro zs e hun
    obtain ⟨xs, rfl, hxs⟩ := hun.taken n
    exact ⟨xs, rfl, .inr ⟨fun _ h => (by cases h), hxs⟩⟩

/-! ### The loops -/

omit [Device σ] in
/-- The end of a command that was not successful. -/
theorem GivesUp.unless {e : CmdError} {m : Drv σ α} {good : α → Prop} {a : α}
    (he : ¬ e = .none) (ha : ¬ good a) :
    GivesUp (if e ≠ .none then Pure.pure a else m) good :=
  Talk.ite (fun _ => GivesUp.pure ha) fun hnone => absurd (not_not.mp hnone) he

theorem readSingleBlocks_follows (card : Card) (dest a : Word) (n : Nat) :
    Follows (readSingleBlocks card dest a n : Drv σ (CmdError × Word × Word × Nat))
      (·.1 = .none) (singlePlan card a n) := by
  induction n generalizing dest a with
  | zero => exact Follows.pure rfl
  | succ n ih =>
    show Follows _ _ ([⟨.readSingleBlock, a, 1⟩] ++ singlePlan card (a + sdAddrStep card) n)
    apply (sdIssueReadCmd_follows .readSingleBlock dest a 1 Nat.one_ne_zero).bind
    · rintro _ rfl
      apply Follows.ite (fun hne => absurd rfl hne)
      intro _
      exact ih _ _
    · intro e he
      exact GivesUp.unless he he

theorem transferBlocks_follows (card : Card) (dest a : Word) (n : Nat) :
    Follows (transferBlocks card dest a n : Drv σ (CmdError × Word × Word × Nat))
      (·.1 = .none) (passPlan card a n) := by
  unfold transferBlocks passPlan
  by_cases hone : n = 1
  · subst hone
    rw [if_pos rfl, if_pos rfl]
    apply (sdIssueReadCmd_follows .readSingleBlock dest a 1 Nat.one_ne_zero).bind_last
    · rintro _ rfl
      exact Follows.pure rfl
    · intro e he
      exact GivesUp.pure he
  rw [if_neg hone, if_neg hone]
  by_cases hmulti : n > 1
  · rw [if_pos hmulti]
    by_cases h23 : card.cmd23Supported = true
    · rw [if_pos h23, if_pos ⟨hmulti, h23⟩]
      show Follows _ _ ([⟨.setBlockCount, BitVec.ofNat 32 n, 0⟩] ++ [⟨.readMultipleBlock, a, n⟩])
      apply (sdIssueCmd_follows .setBlockCount _).bind
      · rintro _ rfl
        rw [if_pos rfl]
        apply (sdIssueReadCmd_follows .readMultipleBlock dest a n (by omega)).bind_last
        · rintro _ rfl
          exact Follows.pure rfl
        · intro e he
          exact GivesUp.pure he
      · intro e he
        rw [if_neg he]
        exact GivesUp.pure he
    · rw [if_neg h23, if_neg (fun h => h23 h.2)]
      exact readSingleBlocks_follows card dest a n
  · obtain rfl : n = 0 := by omega
    rw [if_neg hmulti, if_neg (fun h => hmulti h.1)]
    exact Follows.pure rfl

/-- One pass. -/
theorem sdReadBlocksCardPass_follows (card : Card) (dest lba : Word) (n : Nat) :
    Follows (sdReadBlocksCardPass dest lba n card : Drv σ Bool) (· = true)
      (passPlan card (sdSrcAddr card lba) n) := by
  apply Follows.ite
  · intro _
    apply GivesUp.follows
    exact GivesUp.log Bool.false_ne_true
  · intro _
    apply (transferBlocks_follows card dest _ n).bind_last
    · rintro ⟨_, d, s, k⟩ rfl
      apply Follows.ite (fun hne => absurd rfl hne)
      intro _
      exact Follows.pure rfl
    · rintro ⟨e, d, s, k⟩ he
      apply Talk.ite
      · intro _
        exact GivesUp.log Bool.false_ne_true
      · intro hnone
        exact absurd (not_not.mp hnone) he

/-- **Every run keeps to the plan**, whatever the device answers. -/
theorem sdReadBlocksCard_follows (card : Card) (dest lba : Word) (n : Nat) :
    Follows (sdReadBlocksCard dest lba n card : Drv σ Bool) (· = true) (readPlan card lba n) := by
  have hgive : ∀ m : Drv σ Bool, ∀ ok, ¬ ok = true →
      GivesUp (if ¬ ok = true then Pure.pure false else m) (· = true) := by
    intro m ok hok
    exact Talk.ite (fun _ => GivesUp.pure Bool.false_ne_true) fun hok' => absurd hok hok'
  induction n using Nat.strong_induction_on generalizing dest lba with
  | _ n ih =>
    unfold sdReadBlocksCard readPlan
    by_cases hpos : 0 < (n : Int)
    · rw [dif_pos hpos, Int.toNat_natCast]
      by_cases hlong : uint16Max < n
      · rw [if_pos hlong, Nat.min_eq_right (Nat.le_of_lt hlong),
          ← Int.ofNat_sub (Nat.le_of_lt hlong)]
        apply (sdReadBlocksCardPass_follows card dest lba uint16Max).bind
        · rintro _ rfl
          apply Follows.ite (fun hne => absurd rfl hne)
          intro _
          have hless : n - uint16Max < n := by
            simp only [uint16Max] at hlong ⊢
            omega
          exact ih (n - uint16Max) hless _ _
        · exact hgive _
      · rw [if_neg hlong, Nat.min_eq_left (Nat.le_of_not_lt hlong)]
        apply (sdReadBlocksCardPass_follows card dest lba n).bind_last
        · rintro _ rfl
          apply Follows.ite (fun hne => absurd rfl hne)
          intro _
          rw [sdReadBlocksCard_of_nonpos (by omega)]
          exact Follows.pure rfl
        · exact hgive _
    · obtain rfl : n = 0 := by omega
      rw [dif_neg hpos]
      exact Follows.pure rfl

end Driver

end RpiBld
