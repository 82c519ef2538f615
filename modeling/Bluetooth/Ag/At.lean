import Mathlib

set_option linter.all false

/-!
# The audio gateway's AT command reader

`bta_ag_at_parse` is fed the octets the hands-free unit sends, in chunks of any size.  It
collects one line in the temporary buffer `p_cmd_buf` of `cmd_max_len` octets: NUL octets
between commands are skipped, CR or LF ends a line, which is handed to `bta_ag_process_at` when
it starts with `AT`, and 0x1A or 0x1B abandons a line with an error.  `bta_ag_process_at` looks
the command up in the table, classifies its argument and calls the command or the error
callback.

The reader is a machine over single octets (`atParseByte`), so a stream gives the same callbacks
however it is cut into chunks (`btaAgAtParse_append`), and every write into the buffer is at an
index of type `Fin cmd_max_len`.  What the buffer holds matters only up to `cmd_pos`: the reader
refines a machine that keeps the current line as a list (`lineParse`).  A line that fills the
buffer is not dropped whole: the buffer is reset when it is full and the next octet arrives, so
the rest of an overlong line is read as a line of its own (`btaAgAtParse_reads_overflow_tail`).
-/

namespace Bluetooth.Ag

/-! ## Characters and tables -/

/-- `BTA_AG_AT_NONE`: no argument. -/
def btaAgAtNone : UInt8 := 0x01

/-- `BTA_AG_AT_SET`: a value is set. -/
def btaAgAtSet : UInt8 := 0x02

/-- `BTA_AG_AT_READ`: the value is read. -/
def btaAgAtRead : UInt8 := 0x04

/-- `BTA_AG_AT_TEST`: the value range is asked for. -/
def btaAgAtTest : UInt8 := 0x08

/-- `BTA_AG_AT_FREE`: a freeform argument. -/
def btaAgAtFree : UInt8 := 0x10

/-- `BTA_AG_AT_INT`: the argument of a set is an integer. -/
def btaAgAtInt : UInt8 := 1

/-- `'\r'`. -/
def charCr : UInt8 := 0x0D

/-- `'\n'`. -/
def charLf : UInt8 := 0x0A

/-- The octets that end a line. -/
def endsLine (byte : UInt8) : Bool := byte = charCr || byte = charLf

/-- 0x1A and 0x1B, which abandon a line. -/
def abandonsLine (byte : UInt8) : Bool := byte = 0x1A || byte = 0x1B

/-- `tBTA_AG_AT_CMD`: a command of the table, whose text is a non-empty C string. -/
structure AtCmd where
  /-- `p_cmd`, in upper case. -/
  pCmd : List UInt8
  /-- `command_id`, passed to the command callback. -/
  commandId : Nat
  /-- `arg_type`: the argument types the command takes, as a mask. -/
  argType : UInt8
  /-- `fmt`: whether the argument of a set is an integer or a string. -/
  fmt : UInt8
  /-- `min`, the least integer argument. -/
  min : UInt8
  /-- `max`, the greatest integer argument. -/
  max : Int
  /-- The table ends at the first command whose text is empty. -/
  pCmd_ne_nil : pCmd ≠ []
  /-- `strlen(p_cmd)` is the length of the text. -/
  pCmd_no_nul : 0 ∉ pCmd

/-- The parts of `tBTA_AG_AT_CB` that stay fixed: the command table and the size of the
buffer, which has room for a line of at least one octet. -/
structure AtConfig where
  /-- `p_at_tbl`, without its terminating entry. -/
  atTbl : List AtCmd
  /-- `cmd_max_len`. -/
  cmdMaxLen : Nat
  /-- `bta_ag` sets `cmd_max_len` to `BTA_AG_CMD_MAX`; with fewer than two octets the reader
  would loop forever on a non-empty chunk. -/
  roomy : 2 ≤ cmdMaxLen

/-- The callbacks of the reader. -/
inductive AtEvent where
  /-- `p_cmd_cback` with the command id, the argument type, the argument string and `int_arg`. -/
  | cmd (commandId : UInt16) (argType : UInt8) (arg : List UInt8) (intArg : Int)
  /-- `p_err_cback` with `unknown` and the text passed, if any. -/
  | err (unknown : Bool) (text : Option (List UInt8))
  deriving DecidableEq, Repr

/-- `bta_ag_hsp_cmd`, the table of the headset profile. -/
def btaAgHspCmd : List AtCmd :=
  [⟨[0x2B, 0x43, 0x4B, 0x50, 0x44], 9, btaAgAtSet, btaAgAtInt, 200, 200, by decide, by decide⟩,
    ⟨[0x2B, 0x56, 0x47, 0x53], 7, btaAgAtSet, btaAgAtInt, 0, 15, by decide, by decide⟩,
    ⟨[0x2B, 0x56, 0x47, 0x4D], 8, btaAgAtSet, btaAgAtInt, 0, 15, by decide, by decide⟩]

/-! ## String helpers of `utl.cc` -/

/-- The C string a list of octets holds: its octets up to the first NUL. -/
def cString (bytes : List UInt8) : List UInt8 := bytes.takeWhile (· ≠ 0)

/-- The octet at `index` of a C string, the terminating NUL past its end. -/
def cAt (bytes : List UInt8) (index : Nat) : UInt8 := bytes.getD index 0

/-- A lower-case letter in upper case. -/
def toUpper (c : UInt8) : UInt8 := if 0x61 ≤ c ∧ c ≤ 0x7A then c - 0x20 else c

/-- `utl_strucmp`: 0 when the upper-case string `s` is a prefix of `t` in upper case, compared
until either string ends. -/
def utlStrucmp : List UInt8 → List UInt8 → Int
  | s :: ss, t :: ts =>
    if s ≠ 0 ∧ t ≠ 0 then
      if s ≠ toUpper t then -1 else utlStrucmp ss ts
    -- `if (*p_t == 0 && *p_s != 0) return 1;`
    else if t = 0 ∧ s ≠ 0 then 1 else 0
  | s :: _, [] => if s ≠ 0 then 1 else 0
  | [], _ => 0

/-- The digit loop of `utl_str2int` from the value so far: -1 at a non-digit or past 32767. -/
def str2intDigits (value : Int) : List UInt8 → Int
  | [] => -1
  | c :: rest =>
    if c < 0x30 ∨ c > 0x39 then -1
    else
      let value := value + (c.toNat - 0x30 : Nat)
      if value > 32767 then -1
      else if cAt rest 0 = 0 then value
      else str2intDigits (value * 10) rest

/-- `utl_str2int`: leading spaces are skipped, and an empty string is -1. -/
def utlStr2int (s : List UInt8) : Int :=
  let s := s.dropWhile (· = 0x20)
  if cAt s 0 = 0 then -1 else str2intDigits 0 s

/-! ## `bta_ag_process_at` -/

/-- The argument type of the text after a command, and the text the argument starts at. -/
def argumentOf (pArg : List UInt8) : UInt8 × List UInt8 :=
  if cAt pArg 0 = 0 then (btaAgAtNone, pArg)
  else if cAt pArg 0 = 0x3F ∧ cAt pArg 1 = 0 then (btaAgAtRead, pArg)
  else if cAt pArg 0 = 0x3D ∧ cAt pArg 1 ≠ 0 then
    if cAt pArg 1 = 0x3F ∧ cAt pArg 2 = 0 then (btaAgAtTest, pArg)
    -- a set: skip past `=`
    else (btaAgAtSet, pArg.drop 1)
  else (btaAgAtFree, pArg)

/-- `bta_ag_process_at` on the text of a line after its `AT`: the first command of the table
that the text starts with, its argument checked against what the command takes. -/
def btaAgProcessAt (atTbl : List AtCmd) (line : List UInt8) : List AtEvent :=
  match atTbl.find? fun entry => utlStrucmp entry.pCmd line = 0 with
  | none => [.err true (some (cString line))]
  | some entry =>
    if entry.pCmd.length > line.length then [.err false none]
    else
      let (argType, pArg) := argumentOf (line.drop entry.pCmd.length)
      if argType &&& entry.argType ≠ 0 then
        if argType = btaAgAtSet ∧ entry.fmt = btaAgAtInt then
          let intArg := utlStr2int pArg
          if intArg < entry.min.toNat ∨ intArg > entry.max then [.err false none]
          else [.cmd (UInt16.ofNat entry.commandId) argType (cString pArg) intArg]
        else [.cmd (UInt16.ofNat entry.commandId) argType (cString pArg) 0]
      else [.err false none]

/-! ## `bta_ag_at_parse` -/

/-- The parsing state of `tBTA_AG_AT_CB` once `p_cmd_buf` is allocated: the buffer and the
position of the next octet in it. -/
structure AtCb (config : AtConfig) where
  /-- `p_cmd_buf`, `cmd_max_len` octets. -/
  cmdBuf : Vector UInt8 config.cmdMaxLen
  /-- `cmd_pos`. -/
  cmdPos : Fin config.cmdMaxLen

/-- Whether the first two octets of the buffer are `AT` in either case. -/
def startsWithAt (buf : List UInt8) : Bool :=
  (buf.getD 0 0 = 0x41 || buf.getD 0 0 = 0x61) && (buf.getD 1 0 = 0x54 || buf.getD 1 0 = 0x74)

section Body

variable (config : AtConfig)

/-- The body of the inner `while` of `bta_ag_at_parse` on one octet, with room in the buffer
for it and a terminating NUL. -/
def atWhileBody (buf : Vector UInt8 config.cmdMaxLen) (pos : Nat)
    (room : pos < config.cmdMaxLen - 1) (byte : UInt8) : AtCb config × List AtEvent :=
  have inside : pos < config.cmdMaxLen := by omega
  have start : 0 < config.cmdMaxLen := by omega
  -- Skip null characters between AT commands.
  if pos = 0 ∧ byte = 0 then (⟨buf, ⟨0, start⟩⟩, [])
  else
    let buf := buf.set pos byte
    if endsLine byte then
      let buf := buf.set pos 0
      let events :=
        if 2 < pos ∧ startsWithAt buf.toList then
          btaAgProcessAt config.atTbl ((buf.toList.take pos).drop 2)
        else []
      (⟨buf, ⟨0, start⟩⟩, events)
    else if abandonsLine byte then
      -- `p_cb->p_cmd_buf[++p_cb->cmd_pos] = 0;`
      let buf := buf.set (pos + 1) 0
      (⟨buf, ⟨0, start⟩⟩, [.err true (some (cString buf.toList))])
    else (⟨buf, ⟨pos + 1, by omega⟩⟩, [])

/-- One octet of the chunk.  When the buffer is full and an octet is left, the `while` stops,
the `for` sets `cmd_pos` to 0, and the next `while` takes the octet there. -/
def atParseByte (cb : AtCb config) (byte : UInt8) : AtCb config × List AtEvent :=
  if room : cb.cmdPos.val < config.cmdMaxLen - 1 then atWhileBody config cb.cmdBuf cb.cmdPos room byte
  else atWhileBody config cb.cmdBuf 0 (by have := config.roomy; omega) byte

/-- The loops of `bta_ag_at_parse` over a chunk, with the callbacks made so far. -/
def atParseLoop (start : AtCb config × List AtEvent) (chunk : List UInt8) :
    AtCb config × List AtEvent :=
  chunk.foldl (fun (cb, events) byte =>
    let (cb, more) := atParseByte config cb byte
    (cb, events ++ more)) start

/-- `bta_ag_at_parse` on a chunk: the buffer is allocated on the first call, and its octets are
never read before they are written. -/
def btaAgAtParse (cb : Option (AtCb config)) (chunk : List UInt8) : AtCb config × List AtEvent :=
  let cb := cb.getD ⟨Vector.replicate config.cmdMaxLen 0, ⟨0, by have := config.roomy; omega⟩⟩
  atParseLoop config (cb, []) chunk

end Body

/-! ## The reader keeps one line -/

section Line

variable (config : AtConfig)

/-- The body of the `while` on a reader that keeps the current line as a list. -/
def lineBody (line : List UInt8) (byte : UInt8) : List UInt8 × List AtEvent :=
  if line = [] ∧ byte = 0 then ([], [])
  else if endsLine byte then
    ([], if 2 < line.length ∧ startsWithAt line then btaAgProcessAt config.atTbl (line.drop 2)
      else [])
  else if abandonsLine byte then ([], [.err true (some (cString (line ++ [byte])))])
  else (line ++ [byte], [])

/-- One octet: a line that fills the buffer is dropped before the octet is taken. -/
def lineStep (line : List UInt8) (byte : UInt8) : List UInt8 × List AtEvent :=
  lineBody config (if line.length < config.cmdMaxLen - 1 then line else []) byte

/-- The line reader over a chunk, with the callbacks made so far. -/
def lineParse (start : List UInt8 × List AtEvent) (chunk : List UInt8) :
    List UInt8 × List AtEvent :=
  chunk.foldl (fun (line, events) byte =>
    let (line, more) := lineStep config line byte
    (line, events ++ more)) start

theorem lineParse_append (start : List UInt8 × List AtEvent) (first second : List UInt8) :
    lineParse config start (first ++ second) =
      lineParse config (lineParse config start first) second :=
  List.foldl_append

end Line

/-- The octets of the buffer before `cmd_pos`: the line read so far. -/
def AtCb.line {config : AtConfig} (cb : AtCb config) : List UInt8 :=
  cb.cmdBuf.toList.take cb.cmdPos

theorem cString_append_nul (bytes rest : List UInt8) :
    cString (bytes ++ 0 :: rest) = cString bytes := by
  induction bytes with
  | nil => simp [cString]
  | cons byte bytes induction =>
    by_cases zero : byte = 0
    · simp [cString, zero]
    · simpa [cString, zero] using induction

theorem startsWithAt_take {bytes : List UInt8} {count : Nat} (two : 2 ≤ count) :
    startsWithAt (bytes.take count) = startsWithAt bytes := by
  simp [startsWithAt, List.getD_eq_getElem?_getD, show 0 < count by omega,
    show 1 < count by omega]

theorem take_succ_set {bytes : List UInt8} {pos : Nat} (inside : pos < bytes.length)
    (byte : UInt8) : (bytes.set pos byte).take (pos + 1) = bytes.take pos ++ [byte] := by
  have length : (bytes.take pos).length = pos := by simp; omega
  rw [List.set_eq_take_append_cons_drop, if_pos inside, List.take_append, length]
  simp

theorem set_set_succ {bytes : List UInt8} {pos : Nat} (inside : pos + 1 < bytes.length)
    (first second : UInt8) :
    (bytes.set pos first).set (pos + 1) second =
      bytes.take pos ++ first :: second :: bytes.drop (pos + 2) := by
  rw [List.set_eq_take_append_cons_drop, if_pos (by simp; omega), take_succ_set (by omega),
    List.drop_set_of_lt (by omega)]
  simp

theorem startsWithAt_set {bytes : List UInt8} {pos : Nat} (two : 2 ≤ pos) (byte : UInt8) :
    startsWithAt (bytes.set pos byte) = startsWithAt bytes := by
  simp [startsWithAt, List.getD_eq_getElem?_getD, List.getElem?_set_ne (show pos ≠ 0 by omega),
    List.getElem?_set_ne (show pos ≠ 1 by omega)]
variable {config : AtConfig}

theorem atWhileBody_line (buf : Vector UInt8 config.cmdMaxLen) (pos : Nat)
    (room : pos < config.cmdMaxLen - 1) (byte : UInt8) :
    Prod.map AtCb.line id (atWhileBody config buf pos room byte) =
      lineBody config (buf.toList.take pos) byte := by
  have length : (buf.toList.take pos).length = pos := by simp; omega
  unfold atWhileBody lineBody
  by_cases skip : pos = 0 ∧ byte = 0
  · simp [skip, AtCb.line]
  · have kept : ¬(buf.toList.take pos = [] ∧ byte = 0) := by
      rintro ⟨empty, zero⟩
      exact skip ⟨by simpa [length] using congrArg List.length empty, zero⟩
    simp only [if_neg skip, if_neg kept]
    have within : pos < buf.toList.length := by simp; omega
    by_cases ends : endsLine byte
    · simp only [if_pos ends, Prod.map, id, AtCb.line, List.take_zero, Prod.mk.injEq, true_and]
      by_cases long : 2 < pos
      · simp only [long, true_and, length, Vector.toList_set, List.take_set_of_le (Nat.le_refl _),
          startsWithAt_set (Nat.le_of_lt long), startsWithAt_take (Nat.le_of_lt long)]
      · simp [long, length]
    · by_cases abandons : abandonsLine byte
      · simp only [if_neg ends, if_pos abandons, Prod.map, id, AtCb.line, List.take_zero,
          Vector.toList_set, set_set_succ (show pos + 1 < buf.toList.length by simp; omega)]
        rw [show buf.toList.take pos ++ byte :: 0 :: buf.toList.drop (pos + 2) =
          (buf.toList.take pos ++ [byte]) ++ 0 :: buf.toList.drop (pos + 2) by simp,
          cString_append_nul]
      · simp only [if_neg ends, if_neg abandons, Prod.map, id, AtCb.line, Vector.toList_set,
          take_succ_set within]

theorem length_line (cb : AtCb config) : cb.line.length = cb.cmdPos := by
  have inside := cb.cmdPos.isLt
  simp [AtCb.line]

/-- One octet of the reader is one octet of the line reader. -/
theorem atParseByte_line (cb : AtCb config) (byte : UInt8) :
    Prod.map AtCb.line id (atParseByte config cb byte) = lineStep config cb.line byte := by
  unfold atParseByte lineStep
  by_cases room : cb.cmdPos.val < config.cmdMaxLen - 1
  · rw [dif_pos room, if_pos (by rw [length_line]; exact room), atWhileBody_line]
    rfl
  · rw [dif_neg room, if_neg (by rw [length_line]; exact room), atWhileBody_line]
    simp

/-- The callbacks made so far are only carried along. -/
theorem atParseLoop_events (cb : AtCb config) (events : List AtEvent) (chunk : List UInt8) :
    atParseLoop config (cb, events) chunk =
      ((atParseLoop config (cb, []) chunk).1, events ++ (atParseLoop config (cb, []) chunk).2) := by
  induction chunk generalizing cb events with
  | nil => simp [atParseLoop]
  | cons byte rest induction =>
    simp only [atParseLoop, List.foldl_cons, List.nil_append] at induction ⊢
    rw [induction, induction (atParseByte config cb byte).1 (atParseByte config cb byte).2]
    simp

/-- The reader on a chunk is the line reader on it. -/
theorem atParseLoop_line (cb : AtCb config) (events : List AtEvent) (chunk : List UInt8) :
    Prod.map AtCb.line id (atParseLoop config (cb, events) chunk) =
      lineParse config (cb.line, events) chunk := by
  induction chunk generalizing cb events with
  | nil => rfl
  | cons byte rest induction =>
    have step := atParseByte_line cb byte
    simp only [Prod.map, id] at step
    simp only [atParseLoop, lineParse, List.foldl_cons] at induction ⊢
    rw [induction, ← step]

/-- A freshly allocated buffer holds an empty line. -/
theorem btaAgAtParse_none_line (chunk : List UInt8) :
    Prod.map AtCb.line id (btaAgAtParse config none chunk) = lineParse config ([], []) chunk := by
  unfold btaAgAtParse
  rw [Option.getD_none, atParseLoop_line]
  rfl

/-- The reader gives the same callbacks however the stream is cut into chunks: reading `first`
and then `second` is reading `first ++ second`. -/
theorem btaAgAtParse_append (cb : Option (AtCb config)) (first second : List UInt8) :
    btaAgAtParse config cb (first ++ second) =
      ((btaAgAtParse config (some (btaAgAtParse config cb first).1) second).1,
        (btaAgAtParse config cb first).2 ++
          (btaAgAtParse config (some (btaAgAtParse config cb first).1) second).2) := by
  unfold btaAgAtParse
  rw [Option.getD_some, atParseLoop, List.foldl_append, ← atParseLoop, ← atParseLoop,
    atParseLoop_events]

/-! ## Overlong lines -/

section Overlong

/-- Octets that neither end nor abandon a line are collected, as long as they fit and a line
does not start with NUL. -/
theorem lineParse_collects (events : List AtEvent) (filler : List UInt8) :
    ∀ line : List UInt8, (line ++ filler).length ≤ config.cmdMaxLen - 1 →
      (line = [] → filler.head? ≠ some 0) →
      (∀ byte ∈ filler, endsLine byte = false ∧ abandonsLine byte = false) →
      lineParse config (line, events) filler = (line ++ filler, events) := by
  induction filler with
  | nil => intro line _ _ _; simp [lineParse]
  | cons byte rest induction =>
    intro line fits first plain
    have room : line.length < config.cmdMaxLen - 1 := by simp at fits; omega
    have stored : ¬(line = [] ∧ byte = 0) := fun ⟨empty, zero⟩ => first empty (by simp [zero])
    have step : lineStep config line byte = (line ++ [byte], []) := by
      simp [lineStep, lineBody, room, stored, (plain byte (by simp)).1, (plain byte (by simp)).2]
    have later := induction (line ++ [byte]) (by simpa using fits) (by simp)
      (fun other mem => plain other (by simp [mem]))
    simp only [lineParse, List.foldl_cons, step, List.append_nil] at later ⊢
    rw [later, List.append_assoc, List.singleton_append]

/-- Once a line fills the buffer, the next octet starts a line of its own. -/
theorem lineParse_of_full {line : List UInt8} (full : config.cmdMaxLen - 1 ≤ line.length)
    (events : List AtEvent) (rest : List UInt8) :
    (lineParse config (line, events) rest).2 = (lineParse config ([], events) rest).2 := by
  cases rest with
  | nil => rfl
  | cons byte rest =>
    have dropped : lineStep config line byte = lineStep config [] byte := by
      have := config.roomy
      simp only [lineStep, if_neg (Nat.not_lt.mpr full), List.length_nil,
        if_pos (show 0 < config.cmdMaxLen - 1 by omega)]
    simp only [lineParse, List.foldl_cons, dropped]

/-- A line shorter than the buffer, of octets that neither end nor abandon it and that does not
start with NUL, is handed to `bta_ag_process_at` when it starts with `AT`. -/
theorem btaAgAtParse_line {line : List UInt8} (short : line.length < config.cmdMaxLen - 1)
    (first : line.head? ≠ some 0)
    (plain : ∀ byte ∈ line, endsLine byte = false ∧ abandonsLine byte = false) :
    (btaAgAtParse config none (line ++ [charCr])).2 =
      if 2 < line.length ∧ startsWithAt line then btaAgProcessAt config.atTbl (line.drop 2)
      else [] := by
  have read := congrArg Prod.snd (@btaAgAtParse_none_line config (line ++ [charCr]))
  simp only [Prod.map, id] at read
  rw [read, lineParse_append, lineParse_collects [] line [] (by simp; omega) (fun _ => first) plain]
  by_cases empty : line = []
  · subst empty
    simp [lineParse, lineStep, lineBody, endsLine, charCr]
  · simp [lineParse, lineStep, lineBody, short, empty, endsLine, charCr]

/-- A line of `cmd_max_len - 1` octets or more is not dropped whole: after its first
`cmd_max_len - 1` octets fill the buffer, the rest of it is read as a line of its own, and a
command there reaches the callbacks. -/
theorem btaAgAtParse_reads_overflow_tail (filler rest : List UInt8)
    (full : filler.length = config.cmdMaxLen - 1) (first : filler.head? ≠ some 0)
    (plain : ∀ byte ∈ filler, endsLine byte = false ∧ abandonsLine byte = false) :
    (btaAgAtParse config none (filler ++ rest)).2 = (btaAgAtParse config none rest).2 := by
  have whole := congrArg Prod.snd (@btaAgAtParse_none_line config (filler ++ rest))
  have tail := congrArg Prod.snd (@btaAgAtParse_none_line config rest)
  simp only [Prod.map, id] at whole tail
  rw [whole, tail, lineParse_append, lineParse_collects [] filler [] (by simp; omega) (fun _ => first) plain]
  exact lineParse_of_full (by simp [full]) [] rest

theorem btaAgAtParse_reads_overflow_tail_at_vgs :
    (List.replicate 15 (0x30 : UInt8)).length =
        (⟨btaAgHspCmd, 16, by decide⟩ : AtConfig).cmdMaxLen - 1 ∧
      (List.replicate 15 (0x30 : UInt8)).head? ≠ some 0 ∧
      (∀ byte ∈ List.replicate 15 (0x30 : UInt8),
        endsLine byte = false ∧ abandonsLine byte = false) ∧
      (btaAgAtParse ⟨btaAgHspCmd, 16, by decide⟩ none (List.replicate 15 0x30 ++
          [0x41, 0x54, 0x2B, 0x56, 0x47, 0x53, 0x3D, 0x35, 0x0D])).2 =
        (btaAgAtParse ⟨btaAgHspCmd, 16, by decide⟩ none
          [0x41, 0x54, 0x2B, 0x56, 0x47, 0x53, 0x3D, 0x35, 0x0D]).2 ∧
      (btaAgAtParse ⟨btaAgHspCmd, 16, by decide⟩ none
          [0x41, 0x54, 0x2B, 0x56, 0x47, 0x53, 0x3D, 0x35, 0x0D]).2 =
        [.cmd 7 btaAgAtSet [0x35] 5] :=
  ⟨by decide, by decide, by decide +kernel,
    btaAgAtParse_reads_overflow_tail (List.replicate 15 0x30)
      [0x41, 0x54, 0x2B, 0x56, 0x47, 0x53, 0x3D, 0x35, 0x0D] (by decide) (by decide)
      (by decide +kernel),
    by decide⟩

end Overlong

end Bluetooth.Ag
