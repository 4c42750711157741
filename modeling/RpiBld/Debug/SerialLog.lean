/-
RpiBld/Debug/SerialLog.lean

Logging over the mini UART (`serial_log`, `uart_transmit`).

`serial_log` formats twice: the first pass puts the caller's format, as an
argument, behind a timestamp, and the second one takes the result for its
format.  The first pass writes the text of a format whose pieces are those of
the caller between plain characters, and expanding is a homomorphism, so both
passes together are one formatting (`serialLog_transmits`).
-/
import RpiBld.Debug.Vsnprintf
import RpiBld.Help

namespace RpiBld

open Traced

namespace Debug

/-! ### The UART -/

/-- `AUX_MU_LSR_REG_TX_EMPTY`. -/
def auxMuLsrRegTxEmpty : Word := bit 5

/-- `AUX_MU_IO_REG_TX_DATA`. -/
def auxMuIoRegTxData : Word := bits 7 0

section Driver

variable {σ : Type} [Device σ]

/-- `uart_lsr_transmitter_not_empty`. -/
def uartLsrTransmitterNotEmpty : Drv σ Bool := do
  let reg ← registerGet (.uart .auxMuLsrReg)
  pure (reg &&& auxMuLsrRegTxEmpty == 0)

/-- `uart_transmit`. -/
def uartTransmit (byte : List Byte) : Nat → Drv σ Unit
  | 0 => pure ()
  | n + 1 => do
    whileCondTimeoutInfinite uartLsrTransmitterNotEmpty 1
    let c ← Program.ofExcept (load byte 0)
    registerSet (.uart .auxMuIoReg) (c.setWidth 32 &&& auxMuIoRegTxData)
    uartTransmit (byte.drop 1) n

/-- `timer_current`. -/
def timerCurrent : Drv σ Word := registerGet (.timer .clo)

/-! ### Logging -/

/-- `sizeof(newfmt)`. -/
def newfmtSize : Nat := 512

/-- `sizeof(buf)`. -/
def bufSize : Nat := 1024

/-- The static buffers of `serial_log` and `uint_to_str_base`. -/
structure Buffers where
  newfmt : List Byte
  buf : List Byte
  str : List Byte

/-- The format of the first pass. -/
def prefixFormat : List Byte := chars ['[', '%', '1', '0', 'u', ']', ' ', '%', 's', '\r', '\n']

/-- `Snprintf`. -/
def snprintf (s : List Byte) (n : Nat) (fmt : List Byte) (str : List Byte) (ap : List FmtArg) :
    Except Halt (List Byte × List Byte) := vsnprintf s n fmt str ap

/-- `serial_log`, with its buffers as they were and as it leaves them. -/
def serialLog (b : Buffers) (fmt : List Byte) (ap : List FmtArg) : Drv σ Buffers := do
  let ts ← timerCurrent
  let (newfmt, str) ← Program.ofExcept
    (snprintf b.newfmt newfmtSize (prefixFormat ++ [0]) b.str [.num ts, .str fmt])
  let (buf, str) ← Program.ofExcept (vsnprintf b.buf bufSize newfmt str ap)
  let len ← Program.ofExcept (strlen buf)
  uartTransmit buf len
  pure ⟨newfmt, buf, str⟩

/-! ### Transmitting -/

/-- The bytes written to the UART's data register, as the words that carry them. -/
def uartData (t : List Event) : List Word :=
  t.filterMap fun e => match e with
    | .set (.uart .auxMuIoReg) v => some v
    | _ => none

@[simp] theorem uartData_append (t t' : List Event) :
    uartData (t ++ t') = uartData t ++ uartData t' :=
  List.filterMap_append

/-- A UART whose transmitter becomes empty within each wait: in these worlds every wait returns, and
logging does not lead out of them. -/
structure Transmits (I : World σ → Prop) : Prop where
  wait : ∀ w, I w →
    (whileCondTimeoutInfinite uartLsrTransmitterNotEmpty 1).Returns (fun _ _ w' => I w') w
  set : ∀ w v, I w → I { w with dev := Device.set (.uart .auxMuIoReg) v w.dev }
  clock : ∀ w, I w → I { w with dev := (Device.get (.timer .clo) w.dev).2 }

variable {I : World σ → Prop} {w : World σ}

/-- Waiting sends nothing. -/
theorem wait_silent : Program.Emits (fun e => uartData [e] = [])
    (whileCondTimeoutInfinite uartLsrTransmitterNotEmpty 1 : Drv σ Unit) := by
  apply whileCondTimeoutInfinite_emits
  intro w e he
  obtain rfl := List.mem_singleton.mp he
  rfl

theorem uartData_eq_nil {t : List Event} (ht : ∀ e ∈ t, uartData [e] = []) : uartData t = [] := by
  induction t with
  | nil => rfl
  | cons e t ih =>
    have happend := uartData_append [e] t
    rw [ht e List.mem_cons_self, ih fun e he => ht e (List.mem_cons_of_mem _ he)] at happend
    exact happend

theorem txData_eq (c : Byte) : c.setWidth 32 &&& auxMuIoRegTxData = c.setWidth 32 := by
  have hmask : auxMuIoRegTxData = 0xff := by decide
  rw [hmask]
  apply BitVec.eq_of_toNat_eq
  have hc : c.toNat < 2 ^ 8 := c.isLt
  rw [BitVec.toNat_and, BitVec.toNat_setWidth, Nat.mod_eq_of_lt (by omega)]
  exact (Nat.and_two_pow_sub_one_eq_mod c.toNat 8).trans (Nat.mod_eq_of_lt hc)

/-- Every byte is sent, once and in order. -/
theorem uartTransmit_returns (hI : Transmits I) (t rest : List Byte) (hw : I w) :
    (uartTransmit (t ++ rest) t.length).Returns
      (fun ev _ w' => uartData ev = t.map (BitVec.setWidth 32) ∧ I w') w := by
  induction t generalizing w with
  | nil => exact Program.Returns.pure ⟨rfl, hw⟩
  | cons c t ih =>
    have hwait := (hI.wait w hw).and_wp (wait_silent.wp w)
    refine hwait.bind fun ev _ w₁ h₁ => ?_
    refine (Program.Returns.ofExcept (Q := fun ev' c' w' => ev' = [] ∧ c' = c ∧ w₁ = w') rfl
      ⟨rfl, rfl, rfl⟩).bind fun ev' c' w' h' => ?_
    obtain ⟨rfl, rfl, rfl⟩ := h'
    refine Program.Returns.bind (P := fun ev _ w' => uartData ev = [c'.setWidth 32] ∧ I w') ?_ ?_
    · refine ⟨_, _, _, rfl, ?_, hI.set _ _ h₁.1⟩
      rw [txData_eq]
      rfl
    · intro ev₂ _ w₂ h₂
      refine (ih h₂.2).mono fun ev₃ _ w₃ h₃ => ⟨?_, h₃.2⟩
      simp only [uartData_append, uartData_eq_nil h₁.2, h₂.1, h₃.1]
      rfl

/-! ### Two passes -/

/-- The timestamp a line starts with, padded to the width of a 32-bit number. -/
def stamp (ts : Word) : List Byte :=
  chars ['['] ++ (List.replicate (10 - (decimal ts).length) (ch ' ') ++ decimal ts) ++ chars [']', ' ']

/-- The end of a line. -/
def crlf : List Byte := chars ['\r', '\n']

/-- `%10u`. -/
def stampSpec : Spec where
  zero := false
  width := chars ['1', '0']
  digits := by decide
  greedy := by decide
  conv := .u
  supported := by decide

/-- `%s`. -/
def textSpec : Spec where
  zero := false
  width := []
  digits := by decide
  greedy := by decide
  conv := .s
  supported := by decide

/-- The pieces of the first format. -/
def prefixPieces : List Piece :=
  [.char (ch '[') (by decide), .spec stampSpec, .char (ch ']') (by decide),
    .char (ch ' ') (by decide), .spec textSpec, .char (ch '\r') (by decide),
    .char (ch '\n') (by decide)]

theorem prefixFormat_reads : Reads prefixFormat prefixPieces [] := ⟨rfl, .inl rfl⟩

theorem prefixPieces_narrow : Narrow prefixPieces := by
  intro sp hsp
  simp only [prefixPieces, List.mem_cons, reduceCtorEq, Piece.spec.injEq, List.not_mem_nil, false_or,
    or_false] at hsp
  rcases hsp with rfl | rfl <;> decide

/-- The first pass puts a text, whatever it is, behind the timestamp. -/
theorem expand_prefixPieces {fmt text : List Byte} (hfmt : stringIn fmt = some text) (ts : Word) :
    expand prefixPieces [.num ts, .str fmt] = some (stamp ts ++ (text ++ crlf)) := by
  have hstamp : stampSpec.render (.num ts) =
      some (List.replicate (10 - (decimal ts).length) (ch ' ') ++ decimal ts) := rfl
  have htext : textSpec.render (.str fmt) = some text := hfmt
  simp only [prefixPieces, expand, hstamp, htext, Option.map_some]
  simp [stamp, crlf, chars]

theorem hexDigit_plain : ∀ d < 16, hexDigit d ≠ ch '%' ∧ hexDigit d ≠ 0 := by decide

/-- The timestamp contains no specification. -/
theorem stamp_plain (ts : Word) : ∀ c ∈ stamp ts, c ≠ ch '%' ∧ c ≠ 0 := by
  intro c hc
  rcases List.mem_append.mp hc with hc | hc
  · rcases List.mem_append.mp hc with hc | hc
    · rw [List.mem_singleton.mp hc]
      decide
    · rcases List.mem_append.mp hc with hc | hc
      · rw [List.eq_of_mem_replicate hc]
        decide
      · obtain ⟨d, hd, rfl⟩ := List.mem_map.mp hc
        exact hexDigit_plain d
          ((Numeral.lt_base _ d hd).trans_le (by decide))
  · rcases List.mem_pair.mp hc with rfl | rfl <;> decide

theorem length_stamp (ts : Word) : (stamp ts).length = 13 := by
  have hle : (decimal ts).length ≤ 10 := by
    rw [decimal, numeralText, List.length_map]
    exact length_numeral_le (by decide) (by decide) (by omega)
  have hframe : (chars ['[']).length = 1 ∧ (chars [']', ' ']).length = 2 := by decide
  rw [stamp, List.length_append, List.length_append, List.length_append, List.length_replicate]
  omega

theorem crlf_plain : ∀ c ∈ crlf, c ≠ ch '%' ∧ c ≠ 0 := by decide

/-- The first pass writes the format of the second one, with room to spare. -/
theorem snprintf_prefix {ps : List Piece} {fmt newfmt str : List Byte}
    (hfmt : stringIn fmt = some (format ps)) (hlen : (format ps).length ≤ 496)
    (hnewfmt : newfmt.length = newfmtSize) (hstr : str.length = 32) (ts : Word) :
    ∃ junk str', snprintf newfmt newfmtSize (prefixFormat ++ [0]) str [.num ts, .str fmt] =
        .ok (stamp ts ++ (format ps ++ crlf) ++ 0 :: junk, str') ∧ str'.length = 32 ∧
      (stamp ts ++ (format ps ++ crlf) ++ 0 :: junk).length = newfmtSize := by
  have hsize : newfmtSize = 512 := rfl
  have hcrlf : crlf.length = 2 := rfl
  have hstamp := length_stamp ts
  have hshort : (stamp ts ++ (format ps ++ crlf)).length ≤ newfmtSize - 1 := by
    rw [List.length_append, List.length_append]
    omega
  obtain ⟨-, hends⟩ := vsnprintf_ends (by decide) prefixFormat_reads prefixPieces_narrow
    (expand_prefixPieces hfmt ts) (by decide) hnewfmt.ge hstr []
  obtain ⟨str', hstr', hrun⟩ := hends fun h => h.1 rfl
  rw [List.take_of_length_le hshort, Nat.min_eq_left hshort] at hrun
  refine ⟨_, str', hrun, hstr', ?_⟩
  rw [List.length_append, List.length_cons, List.length_drop]
  omega

/-- The second pass makes one formatting of both. -/
theorem vsnprintf_second {ps : List Piece} {ap : List FmtArg} {out buf str : List Byte}
    (hnarrow : Narrow ps) (hout : expand ps ap = some out) (hbuf : buf.length = bufSize)
    (hstr : str.length = 32) (ts : Word) (junk : List Byte) :
    ∃ rest str', vsnprintf buf bufSize (stamp ts ++ (format ps ++ crlf) ++ 0 :: junk) str ap =
        .ok ((stamp ts ++ (out ++ crlf)).take (bufSize - 1) ++ 0 :: rest, str') ∧
      str'.length = 32 ∧
      ((stamp ts ++ (out ++ crlf)).take (bufSize - 1) ++ 0 :: rest).length = bufSize := by
  obtain ⟨stampPs, hstampFormat, hstampArity, hstampNarrow, hstampExpand⟩ :=
    exists_literal (stamp_plain ts)
  obtain ⟨crlfPs, hcrlfFormat, -, hcrlfNarrow, hcrlfExpand⟩ := exists_literal crlf_plain
  have hreads : Reads (stamp ts ++ (format ps ++ crlf)) (stampPs ++ (ps ++ crlfPs)) [] := by
    refine ⟨?_, .inl rfl⟩
    rw [format_append, format_append, hstampFormat, hcrlfFormat, List.append_nil]
  have hzero : 0 ∉ stamp ts ++ (format ps ++ crlf) := by
    rw [hreads.text_eq, List.append_nil]
    exact zero_not_mem_format _
  have hnarrow' : Narrow (stampPs ++ (ps ++ crlfPs)) := by
    intro sp hsp
    rcases List.mem_append.mp hsp with hsp | hsp
    · exact hstampNarrow sp hsp
    · rcases List.mem_append.mp hsp with hsp | hsp
      · exact hnarrow sp hsp
      · exact hcrlfNarrow sp hsp
  have hexpand : expand (stampPs ++ (ps ++ crlfPs)) ap = some (stamp ts ++ (out ++ crlf)) := by
    refine expand_append (hstampExpand ap) ?_
    rw [hstampArity, List.drop_zero]
    exact expand_append hout (hcrlfExpand _)
  obtain ⟨-, hends⟩ := vsnprintf_ends hzero hreads hnarrow' hexpand (by decide) hbuf.ge hstr junk
  obtain ⟨str', hstr', hrun⟩ := hends fun h => h.1 rfl
  refine ⟨_, str', hrun, hstr', ?_⟩
  have hsize : bufSize = 1024 := rfl
  rw [List.length_append, List.length_cons, List.length_drop, List.length_take]
  omega

/-! ### Logging is direct -/

/-- The sizes of the buffers. -/
structure Buffers.Sized (b : Buffers) : Prop where
  newfmt : b.newfmt.length = newfmtSize
  buf : b.buf.length = bufSize
  str : b.str.length = 32

/-- What a line is to send: the timestamp, the expansion of the format, and the end of the line, as
far as the buffer goes. -/
def logLine (ts : Word) (out : List Byte) : List Byte :=
  (stamp ts ++ (out ++ crlf)).take 1023

theorem zero_not_mem_logLine {ps : List Piece} {ap : List FmtArg} {out : List Byte}
    (hout : expand ps ap = some out) (ts : Word) : 0 ∉ logLine ts out := by
  intro h
  rcases List.mem_append.mp (List.mem_of_mem_take h) with h | h
  · exact (stamp_plain ts 0 h).2 rfl
  · rcases List.mem_append.mp h with h | h
    · exact zero_not_mem_expand hout h
    · exact (crlf_plain 0 h).2 rfl

/-- **Two-pass logging is direct logging**: the bytes sent are those of the line.  The buffers keep
their sizes, and the UART is ready for the next line. -/
theorem serialLog_transmits (hI : Transmits I) (hw : I w) {b : Buffers} (hb : b.Sized)
    {fmt : List Byte} {ps : List Piece} {ap : List FmtArg} {out : List Byte}
    (hfmt : stringIn fmt = some (format ps)) (hlen : (format ps).length ≤ 496) (hnarrow : Narrow ps)
    (hout : expand ps ap = some out) :
    (serialLog b fmt ap).Returns (fun t b' w' =>
      uartData t = (logLine (Device.get (.timer .clo) w.dev).1 out).map (BitVec.setWidth 32) ∧
        b'.Sized ∧ I w') w := by
  have hclock : (timerCurrent : Drv σ Word).Returns (fun t ts w' =>
      uartData t = [] ∧ ts = (Device.get (.timer .clo) w.dev).1 ∧ I w') w :=
    ⟨_, _, _, rfl, rfl, rfl, hI.clock w hw⟩
  refine hclock.bind fun t ts w₁ hts => ?_
  obtain ⟨ht, rfl, hw₁⟩ := hts
  generalize (Device.get (.timer .clo) w.dev).1 = ts
  obtain ⟨junk, str, hfirst, hstr, hnewfmt⟩ := snprintf_prefix hfmt hlen hb.newfmt hb.str ts
  refine Program.Returns.bind (Program.Returns.ofExcept
    (Q := fun t r w' => t = [] ∧ r = (_, str) ∧ w₁ = w') hfirst ⟨rfl, rfl, rfl⟩) fun _ _ _ hr => ?_
  obtain ⟨rfl, rfl, rfl⟩ := hr
  obtain ⟨rest, str', hsecond, hstr', hbuf⟩ := vsnprintf_second hnarrow hout hb.buf hstr ts
    junk
  refine Program.Returns.bind (Program.Returns.ofExcept
    (Q := fun t r w' => t = [] ∧ r = (_, str') ∧ w₁ = w') hsecond ⟨rfl, rfl, rfl⟩)
    fun _ _ _ hr => ?_
  obtain ⟨rfl, rfl, rfl⟩ := hr
  refine Program.Returns.bind (Program.Returns.ofExcept
    (Q := fun t len w' => t = [] ∧ len = (logLine ts out).length ∧ w₁ = w')
    (strlen_eq (zero_not_mem_logLine hout ts)) ⟨rfl, rfl, rfl⟩) fun _ _ _ hr => ?_
  obtain ⟨rfl, rfl, rfl⟩ := hr
  refine (uartTransmit_returns hI (logLine ts out) (0 :: rest) hw₁).bind fun t' _ w₂ hsent => ?_
  refine Program.Returns.pure ⟨?_, ⟨hnewfmt, hbuf, hstr'⟩, hsent.2⟩
  simp only [uartData_append, ht, hsent.1]
  simp [uartData]

end Driver

/-! ### A line -/

/-- A UART that is busy for two looks after every byte. -/
structure MiniUart where
  clock : Word
  busy : Nat

instance : Device MiniUart where
  get r d :=
    match r with
    | .timer .clo => (d.clock, d)
    | .uart .auxMuLsrReg =>
      if d.busy = 0 then (auxMuLsrRegTxEmpty, d) else (0, { d with busy := d.busy - 1 })
    | _ => (0, d)
  set r _ d :=
    match r with
    | .uart .auxMuIoReg => { d with busy := 2 }
    | _ => d
  timerStart _ d := (0, d)
  timerDone _ d := (false, d)
  sleep _ d := d
  videocore ram d := (ram, d)

/-- A world in which its waits are not cut off. -/
def Patient (w : World MiniUart) : Prop := w.dev.busy ≤ 2 ∧ w.polls = 4

theorem miniUart_transmits : Transmits Patient where
  wait := by
    rintro ⟨⟨clock, busy⟩, ram, polls, frame⟩ ⟨hbusy, hpolls⟩
    obtain rfl : polls = 4 := hpolls
    rcases busy with - | - | - | busy
    · exact ⟨_, _, _, rfl, Nat.zero_le 2, rfl⟩
    · exact ⟨_, _, _, rfl, Nat.zero_le 2, rfl⟩
    · exact ⟨_, _, _, rfl, Nat.zero_le 2, rfl⟩
    · have hlt : busy + 3 ≤ 2 := hbusy
      omega
  set _ _ h := ⟨Nat.le_refl 2, h.2⟩
  clock _ h := h

/-- `%s=%02x`, where the string has a `%` in it. -/
def percentPieces : List Piece :=
  [.spec textSpec, .char (ch '=') (by decide),
    .spec ⟨⟨true, chars ['2'], by decide, by decide⟩, .x, by decide⟩]

theorem percentPieces_narrow : Narrow percentPieces := by
  intro sp hsp
  simp only [percentPieces, List.mem_cons, reduceCtorEq, Piece.spec.injEq, List.not_mem_nil,
    false_or, or_false] at hsp
  rcases hsp with rfl | rfl <;> decide

/-- The buffers before the first line. -/
def blankBuffers : Buffers :=
  ⟨List.replicate newfmtSize 0, List.replicate bufSize 0, List.replicate 32 0⟩

theorem blankBuffers_sized : blankBuffers.Sized :=
  ⟨List.length_replicate, List.length_replicate, List.length_replicate⟩

theorem serialLog_transmits_percent :
    (serialLog blankBuffers (chars ['%', 's', '=', '%', '0', '2', 'x'] ++ [0])
      [.str (chars ['1', '0', '0', '%', 'u'] ++ [0]), .num 255]).Returns
      (fun t b' w' => uartData t = (logLine 7
          (chars ['1', '0', '0', '%', 'u', '=', '0', 'x', 'f', 'f'])).map (BitVec.setWidth 32) ∧
        b'.Sized ∧ Patient w') (⟨⟨7, 0⟩, fun _ => 0, 4, 0⟩ : World MiniUart) := by
  have hfmt : stringIn (chars ['%', 's', '=', '%', '0', '2', 'x'] ++ [0]) =
      some (format percentPieces) := by decide
  have hout : expand percentPieces [.str (chars ['1', '0', '0', '%', 'u'] ++ [0]), .num 255] =
      some (chars ['1', '0', '0', '%', 'u', '=', '0', 'x', 'f', 'f']) := by decide
  have hpatient : Patient ⟨⟨7, 0⟩, fun _ => 0, 4, 0⟩ := ⟨Nat.zero_le 2, rfl⟩
  have hclock : ∀ d : MiniUart, (Device.get (.timer .clo) d).1 = d.clock := fun _ => rfl
  have hlog := serialLog_transmits miniUart_transmits hpatient blankBuffers_sized hfmt (by decide)
    percentPieces_narrow hout
  rw [hclock] at hlog
  exact hlog

end Debug

end RpiBld
