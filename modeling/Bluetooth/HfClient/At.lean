import Mathlib

set_option linter.all false

/-!
# The hands-free client's reader of AT results

`bta_hf_client_at_parse` collects what the audio gateway sends in `at_cb.buf` until the buffer
ends with CR LF, and then `bta_hf_client_at_parse_start` walks it: at each point every parser of
`bta_hf_client_parser_cb` is tried in turn, and a parser answers NULL (it matched and failed,
and the rest of the line is skipped), the pointer it was given (no match), or a pointer past
what it consumed.  A buffer that would overflow is cut after its last complete result.

Every parser but the last starts with `AT_CHECK_EVENT`, which answers no match unless the text
starts with CR LF and the result's name.  The parsers whose bodies call `sscanf` are parameters
of the model (`ScannedParsers`): libc is not part of the source, and every result below holds
for every choice of them.  The others are translated: the result codes, `+CHLD`, `+BIND` and
the two readers of unknown results.

`bta_hf_client_parse_bind` reads to the end of the buffer rather than to the end of its line,
so the results after a `+BIND` line in the same buffer are read as its indicators, and an `OK`
there never reaches `bta_hf_client_handle_ok` (`btaHfClientAtParse_bind_swallows_later_lines`).
-/

namespace Bluetooth.HfClient

/-! ## Constants and events -/

/-- `BTA_HF_CLIENT_AT_PARSER_MAX_LEN`. -/
def btaHfClientAtParserMaxLen : Nat := 4096

/-- `BTA_HF_CLIENT_AT_EVENT_MIN_LEN`. -/
def btaHfClientAtEventMinLen : Nat := 3

/-- `BTA_HF_CLIENT_UNKOWN_EVENT_LEN`. -/
def btaHfClientUnkownEventLen : Nat := 32

/-- `"\r\n"`. -/
def crlf : List UInt8 := [0x0D, 0x0A]

/-- `BTA_HF_CLIENT_AT_RESULT_ERROR`. -/
def btaHfClientAtResultError : Nat := 1

/-- `BTA_HF_CLIENT_AT_RESULT_NO_CARRIER`. -/
def btaHfClientAtResultNoCarrier : Nat := 2

/-- `BTA_HF_CLIENT_AT_RESULT_BUSY`. -/
def btaHfClientAtResultBusy : Nat := 3

/-- `BTA_HF_CLIENT_AT_RESULT_NO_ANSWER`. -/
def btaHfClientAtResultNoAnswer : Nat := 4

/-- `BTA_HF_CLIENT_AT_RESULT_DELAY`. -/
def btaHfClientAtResultDelay : Nat := 5

/-- `BTA_HF_CLIENT_AT_RESULT_REJECTLISTED`. -/
def btaHfClientAtResultRejectlisted : Nat := 6

/-- What the reader does: the handlers it calls, and the reset and close of the connection when
it gives up. -/
inductive HfEvent where
  /-- `bta_hf_client_handle_ok`. -/
  | ok
  /-- `bta_hf_client_handle_error` with the result and the CME error. -/
  | error (result cme : Nat)
  /-- `bta_hf_client_handle_ring`. -/
  | ring
  /-- `bta_hf_client_handle_chld` with one of the `BTA_HF_CLIENT_CHLD_` masks. -/
  | chld (mask : Nat)
  /-- `bta_hf_client_handle_bind_read_supported_ind`. -/
  | bindReadSupportedInd (indicatorId : Nat)
  /-- `bta_hf_client_handle_bind_read_enabled_ind`. -/
  | bindReadEnabledInd (indicatorId : Int) (enable : Bool)
  /-- `bta_hf_client_unknown_response` with the text of the result. -/
  | unknownResponse (text : List UInt8)
  /-- A handler called by one of the parsers that use `sscanf`, with the values it is given. -/
  | scanned (handler : Nat) (values : List Nat)
  /-- `bta_hf_client_at_reset`. -/
  | atReset
  /-- `BTA_HF_CLIENT_API_CLOSE_EVT`: the connection is closed. -/
  | close
  deriving DecidableEq, Repr

/-- What a parser does on the text at `buf`: the handlers it called, and what it returns:
`none` for NULL, `some 0` for `buf` itself, which is no match, and `some n` for `buf + n`. -/
abbrev ParserResult := List HfEvent × Option Nat

/-! ## The macros of the parsers -/

/-- The result of a parser that read `count` octets before the part that produced `result`. -/
def ParserResult.shift (count : Nat) (result : ParserResult) : ParserResult :=
  (result.1, result.2.map (count + ·))

/-- `AT_CHECK_EVENT(buf, event)` and the rest of the parser: no match unless the text starts with
CR LF and `event`, which are then passed over together with the spaces after them. -/
def atCheckEvent (event : List UInt8) (rest : List UInt8 → ParserResult) (buf : List UInt8) :
    ParserResult :=
  if (crlf ++ event).isPrefixOf buf then
    let after := buf.drop (crlf ++ event).length
    let spaces := (after.takeWhile (· = 0x20)).length
    (rest (after.drop spaces)).shift ((crlf ++ event).length + spaces)
  else ([], some 0)

/-- `AT_CHECK_RN(buf)` and the rest of the parser: NULL unless the text starts with CR LF. -/
def atCheckRn (rest : List UInt8 → ParserResult) (buf : List UInt8) : ParserResult :=
  if crlf.isPrefixOf buf then (rest (buf.drop 2)).shift 2 else ([], none)

/-- The offset of the first CR LF in a C string, as `strstr(buf, "\r\n")` finds it. -/
def findCrlf : List UInt8 → Option Nat
  | [] => none
  | [_] => none
  | first :: second :: rest =>
    if first = 0x0D ∧ second = 0x0A then some 0 else (findCrlf (second :: rest)).map (· + 1)

/-! ## The parsers -/

/-- The result codes without parameters: `AT_CHECK_EVENT`, `AT_CHECK_RN` and one handler. -/
def parseResultCode (event : List UInt8) (handler : HfEvent) : List UInt8 → ParserResult :=
  atCheckEvent event (atCheckRn fun _ => ([handler], some 0))

/-- `bta_hf_client_parse_ok`. -/
def btaHfClientParseOk : List UInt8 → ParserResult := parseResultCode [0x4F, 0x4B] .ok

/-- `bta_hf_client_parse_error`. -/
def btaHfClientParseError : List UInt8 → ParserResult :=
  parseResultCode [0x45, 0x52, 0x52, 0x4F, 0x52] (.error btaHfClientAtResultError 0)

/-- `bta_hf_client_parse_ring`. -/
def btaHfClientParseRing : List UInt8 → ParserResult :=
  parseResultCode [0x52, 0x49, 0x4E, 0x47] .ring

/-- `bta_hf_client_parse_busy`. -/
def btaHfClientParseBusy : List UInt8 → ParserResult :=
  parseResultCode [0x42, 0x55, 0x53, 0x59] (.error btaHfClientAtResultBusy 0)

/-- `bta_hf_client_parse_delayed`. -/
def btaHfClientParseDelayed : List UInt8 → ParserResult :=
  parseResultCode [0x44, 0x45, 0x4C, 0x41, 0x59, 0x45, 0x44] (.error btaHfClientAtResultDelay 0)

/-- `bta_hf_client_parse_no_carrier`. -/
def btaHfClientParseNoCarrier : List UInt8 → ParserResult :=
  parseResultCode [0x4E, 0x4F, 0x20, 0x43, 0x41, 0x52, 0x52, 0x49, 0x45, 0x52]
    (.error btaHfClientAtResultNoCarrier 0)

/-- `bta_hf_client_parse_no_answer`. -/
def btaHfClientParseNoAnswer : List UInt8 → ParserResult :=
  parseResultCode [0x4E, 0x4F, 0x20, 0x41, 0x4E, 0x53, 0x57, 0x45, 0x52]
    (.error btaHfClientAtResultNoAnswer 0)

/-- `bta_hf_client_parse_rejectlisted`. -/
def btaHfClientParseRejectlisted : List UInt8 → ParserResult :=
  parseResultCode [0x52, 0x45, 0x4A, 0x45, 0x43, 0x54, 0x4C, 0x49, 0x53, 0x54, 0x45, 0x44]
    (.error btaHfClientAtResultRejectlisted 0)

/-- One call handling option of `+CHLD`, tried in the order of `bta_hf_client_parse_chld`: its
`BTA_HF_CLIENT_CHLD_` mask and the text after it. -/
def chldItem : List UInt8 → Option (Nat × List UInt8)
  | 0x30 :: rest => some (0x01, rest)
  | 0x31 :: 0x78 :: rest => some (0x04, rest)
  | 0x31 :: rest => some (0x02, rest)
  | 0x32 :: 0x78 :: rest => some (0x10, rest)
  | 0x32 :: rest => some (0x08, rest)
  | 0x33 :: rest => some (0x20, rest)
  | 0x34 :: rest => some (0x40, rest)
  | _ => none

theorem length_lt_of_chldItem {bytes after : List UInt8} {mask : Nat}
    (read : chldItem bytes = some (mask, after)) : after.length < bytes.length := by
  unfold chldItem at read
  split at read <;> simp only [Option.some.injEq, Prod.mk.injEq, reduceCtorEq] at read <;>
    simp only [← read.2, List.length_cons] <;> omega

/-- The loop of `bta_hf_client_parse_chld` after `(`: one option, then `,` for another, `)` for
the end, or a failure.  The loop also stops at the end of the buffer. -/
def chldLoop (bytes : List UInt8) : ParserResult :=
  if bytes = [] then atCheckRn (fun _ => ([], some 0)) []
  else
    match read : chldItem bytes with
    | none => ([], none)
    | some (mask, after) =>
      let consumed := bytes.length - after.length
      match after, read with
      | 0x2C :: more, read =>
        have := length_lt_of_chldItem read
        let (events, ret) := (chldLoop more).shift (consumed + 1)
        (.chld mask :: events, ret)
      | 0x29 :: more, _ =>
        let (events, ret) := (atCheckRn (fun _ => ([], some 0)) more).shift (consumed + 1)
        (.chld mask :: events, ret)
      | _, _ => ([.chld mask], none)
termination_by bytes.length
decreasing_by simp only [List.length_cons] at this; omega

/-- `bta_hf_client_parse_chld`. -/
def btaHfClientParseChld : List UInt8 → ParserResult :=
  atCheckEvent [0x2B, 0x43, 0x48, 0x4C, 0x44, 0x3A] fun buf =>
    match buf with
    | 0x28 :: rest => (chldLoop rest).shift 1
    | _ => ([], none)

/-- `BTA_HF_CLIENT_BIND_PARSE_READ_SUPPOETED_IND`. -/
def bindParseReadSupportedInd : Nat := 1

/-- The loop of `bta_hf_client_parse_bind`: to the end of the buffer, `(` switches to the list of
supported indicators, and each of `0`, `1`, `2` is a supported indicator, the indicator of the
status that follows, or that status. -/
def bindLoop (mode : Nat) (idx : Int) : List UInt8 → List HfEvent
  | [] => []
  | c :: rest =>
    if c = 0x28 then bindLoop bindParseReadSupportedInd idx rest
    else if c = 0x30 ∨ c = 0x31 ∨ c = 0x32 then
      if mode = bindParseReadSupportedInd then
        .bindReadSupportedInd (c.toNat - 0x30) :: bindLoop mode idx rest
      else if idx = -1 then bindLoop mode (c.toNat - 0x30 : Nat) rest
      else .bindReadEnabledInd idx (c ≠ 0x30) :: bindLoop mode idx rest
    else bindLoop mode idx rest

/-- `"+BIND:"`. -/
def bindEvent : List UInt8 := [0x2B, 0x42, 0x49, 0x4E, 0x44, 0x3A]

/-- `bta_hf_client_parse_bind`: the loop runs to the NUL that ends the buffer. -/
def btaHfClientParseBind : List UInt8 → ParserResult :=
  atCheckEvent bindEvent fun buf => (bindLoop 0 (-1) buf, some buf.length)

/-- `bta_hf_client_process_unknown`: the text between the first two CR LF is reported when it is
shorter than `BTA_HF_CLIENT_UNKOWN_EVENT_LEN`, and the parser returns the second CR LF, passed
over when the text was reported. -/
def btaHfClientProcessUnknown (buf : List UInt8) : ParserResult :=
  match findCrlf buf with
  | none => ([], none)
  | some first =>
    let start := first + 2
    match findCrlf (buf.drop start) with
    | none => ([], none)
    | some length =>
      let last := start + length
      if length + 1 < btaHfClientUnkownEventLen then
        ([.unknownResponse ((buf.drop start).take length)], some (last + 2))
      else ([], some last)

/-- `bta_hf_client_skip_unknown`: past two octets, and then past the next CR LF. -/
def btaHfClientSkipUnknown (buf : List UInt8) : Option Nat :=
  match findCrlf buf with
  | none => none
  | some _ => (findCrlf (buf.drop 2)).map (· + 2 + 2)

/-- The parsers whose bodies call `sscanf`, each on the text after its `AT_CHECK_EVENT`. -/
structure ScannedParsers where
  /-- The body of `bta_hf_client_parse_brsf`. -/
  brsf : List UInt8 → ParserResult
  /-- The body of `bta_hf_client_parse_cind`. -/
  cind : List UInt8 → ParserResult
  /-- The body of `bta_hf_client_parse_ciev`. -/
  ciev : List UInt8 → ParserResult
  /-- The body of `bta_hf_client_parse_bcs`. -/
  bcs : List UInt8 → ParserResult
  /-- The body of `bta_hf_client_parse_bsir`. -/
  bsir : List UInt8 → ParserResult
  /-- The body of `bta_hf_client_parse_cmeerror`. -/
  cmeerror : List UInt8 → ParserResult
  /-- The body of `bta_hf_client_parse_vgm`. -/
  vgm : List UInt8 → ParserResult
  /-- The body of `bta_hf_client_parse_vgme`. -/
  vgme : List UInt8 → ParserResult
  /-- The body of `bta_hf_client_parse_vgs`. -/
  vgs : List UInt8 → ParserResult
  /-- The body of `bta_hf_client_parse_vgse`. -/
  vgse : List UInt8 → ParserResult
  /-- The body of `bta_hf_client_parse_bvra`. -/
  bvra : List UInt8 → ParserResult
  /-- The body of `bta_hf_client_parse_clip`. -/
  clip : List UInt8 → ParserResult
  /-- The body of `bta_hf_client_parse_ccwa`. -/
  ccwa : List UInt8 → ParserResult
  /-- The body of `bta_hf_client_parse_cops`. -/
  cops : List UInt8 → ParserResult
  /-- The body of `bta_hf_client_parse_binp`. -/
  binp : List UInt8 → ParserResult
  /-- The body of `bta_hf_client_parse_clcc`. -/
  clcc : List UInt8 → ParserResult
  /-- The body of `bta_hf_client_parse_cnum`. -/
  cnum : List UInt8 → ParserResult
  /-- The body of `bta_hf_client_parse_btrh`. -/
  btrh : List UInt8 → ParserResult

/-- Bodies whose `sscanf` never matches: each answers NULL. -/
def ScannedParsers.failing : ScannedParsers :=
  ⟨fun _ => ([], none), fun _ => ([], none), fun _ => ([], none), fun _ => ([], none),
    fun _ => ([], none), fun _ => ([], none), fun _ => ([], none), fun _ => ([], none),
    fun _ => ([], none), fun _ => ([], none), fun _ => ([], none), fun _ => ([], none),
    fun _ => ([], none), fun _ => ([], none), fun _ => ([], none), fun _ => ([], none),
    fun _ => ([], none), fun _ => ([], none)⟩

/-- `bta_hf_client_parser_cb`: the parsers in the order they are tried, with
`bta_hf_client_process_unknown` last. -/
def btaHfClientParserCb (scanned : ScannedParsers) : List (List UInt8 → ParserResult) :=
  [btaHfClientParseOk, btaHfClientParseError, btaHfClientParseRing,
    atCheckEvent [0x2B, 0x42, 0x52, 0x53, 0x46, 0x3A] scanned.brsf,
    atCheckEvent [0x2B, 0x43, 0x49, 0x4E, 0x44, 0x3A] scanned.cind,
    atCheckEvent [0x2B, 0x43, 0x49, 0x45, 0x56, 0x3A] scanned.ciev,
    btaHfClientParseChld,
    atCheckEvent [0x2B, 0x42, 0x43, 0x53, 0x3A] scanned.bcs,
    atCheckEvent [0x2B, 0x42, 0x53, 0x49, 0x52, 0x3A] scanned.bsir,
    atCheckEvent [0x2B, 0x43, 0x4D, 0x45, 0x20, 0x45, 0x52, 0x52, 0x4F, 0x52, 0x3A]
      scanned.cmeerror,
    atCheckEvent [0x2B, 0x56, 0x47, 0x4D, 0x3A] scanned.vgm,
    atCheckEvent [0x2B, 0x56, 0x47, 0x4D, 0x3D] scanned.vgme,
    atCheckEvent [0x2B, 0x56, 0x47, 0x53, 0x3A] scanned.vgs,
    atCheckEvent [0x2B, 0x56, 0x47, 0x53, 0x3D] scanned.vgse,
    atCheckEvent [0x2B, 0x42, 0x56, 0x52, 0x41, 0x3A] scanned.bvra,
    atCheckEvent [0x2B, 0x43, 0x4C, 0x49, 0x50, 0x3A] scanned.clip,
    atCheckEvent [0x2B, 0x43, 0x43, 0x57, 0x41, 0x3A] scanned.ccwa,
    atCheckEvent [0x2B, 0x43, 0x4F, 0x50, 0x53, 0x3A] scanned.cops,
    atCheckEvent [0x2B, 0x42, 0x49, 0x4E, 0x50, 0x3A] scanned.binp,
    atCheckEvent [0x2B, 0x43, 0x4C, 0x43, 0x43, 0x3A] scanned.clcc,
    atCheckEvent [0x2B, 0x43, 0x4E, 0x55, 0x4D, 0x3A] scanned.cnum,
    atCheckEvent [0x2B, 0x42, 0x54, 0x52, 0x48, 0x3A] scanned.btrh,
    btaHfClientParseBind, btaHfClientParseBusy, btaHfClientParseDelayed,
    btaHfClientParseNoCarrier, btaHfClientParseNoAnswer, btaHfClientParseRejectlisted,
    btaHfClientProcessUnknown]

/-! ## `bta_hf_client_at_parse_start` -/

/-- The `for` loop of `bta_hf_client_at_parse_start` over the parsers on the text at `buf`: the
handlers called and the pointer left in `tmp`.  A parser that fails hands the text to
`bta_hf_client_skip_unknown`, and the first parser that moves on ends the loop. -/
def dispatch (buf : List UInt8) : List (List UInt8 → ParserResult) → ParserResult
  | [] => ([], some 0)
  | parser :: rest =>
    match parser buf with
    | (events, none) => (events, btaHfClientSkipUnknown buf)
    | (events, some 0) =>
      let (more, tmp) := dispatch buf rest
      (events ++ more, tmp)
    | (events, some (count + 1)) => (events, some (count + 1))

theorem findCrlf_isSome_of_eq {bytes : List UInt8} {offset : Nat}
    (found : findCrlf bytes = some offset) : offset + 2 ≤ bytes.length := by
  induction bytes generalizing offset with
  | nil => cases found
  | cons first rest induction =>
    match rest, found with
    | [], found => cases found
    | second :: more, found =>
      simp only [findCrlf] at found
      split at found
      · cases found
        simp
      · obtain ⟨inner, read, rfl⟩ := Option.map_eq_some_iff.mp found
        have := induction read
        simp only [List.length_cons] at this ⊢
        omega

/-- `bta_hf_client_process_unknown` never answers no match. -/
theorem btaHfClientProcessUnknown_pos {buf : List UInt8} {events : List HfEvent} {count : Nat}
    (returned : btaHfClientProcessUnknown buf = (events, some count)) : 0 < count := by
  unfold btaHfClientProcessUnknown at returned
  split at returned
  · cases returned
  · dsimp only at returned
    split at returned
    · cases returned
    · split at returned <;> simp only [Prod.mk.injEq, Option.some.injEq] at returned <;> omega

/-- Over a table that ends with `bta_hf_client_process_unknown`, the `for` loop leaves NULL or a
pointer past `buf`. -/
theorem dispatch_pos (buf : List UInt8) (front : List (List UInt8 → ParserResult))
    {events : List HfEvent} {count : Nat}
    (returned : dispatch buf (front ++ [btaHfClientProcessUnknown]) = (events, some count)) :
    0 < count := by
  induction front generalizing events with
  | nil =>
    simp only [List.nil_append, dispatch] at returned
    split at returned
    · simp only [btaHfClientSkipUnknown, Prod.mk.injEq] at returned
      split at returned
      · cases returned.2
      · obtain ⟨_, _, rfl⟩ := Option.map_eq_some_iff.mp returned.2
        omega
    · rename_i stopped
      exact absurd stopped (fun zero => by have := btaHfClientProcessUnknown_pos zero; omega)
    · simp only [Prod.mk.injEq, Option.some.injEq] at returned
      omega
  | cons parser rest induction =>
    simp only [List.cons_append, dispatch] at returned
    split at returned
    · simp only [btaHfClientSkipUnknown, Prod.mk.injEq] at returned
      split at returned
      · cases returned.2
      · obtain ⟨_, _, rfl⟩ := Option.map_eq_some_iff.mp returned.2
        omega
    · simp only [Prod.mk.injEq] at returned
      exact induction (Prod.ext rfl returned.2)
    · simp only [Prod.mk.injEq, Option.some.injEq] at returned
      omega

/-- The table ends with `bta_hf_client_process_unknown`. -/
theorem btaHfClientParserCb_eq_append (scanned : ScannedParsers) :
    btaHfClientParserCb scanned =
      (btaHfClientParserCb scanned).dropLast ++ [btaHfClientProcessUnknown] := rfl

/-- `bta_hf_client_at_parse_start` on the C string of the buffer: the parsers are tried at each
point until the string ends, or the connection is reset and closed when a failed result cannot
be skipped. -/
def btaHfClientAtParseStart (scanned : ScannedParsers) (buf : List UInt8) : List HfEvent :=
  match buf with
  | [] => []
  | byte :: rest =>
    match returned : dispatch (byte :: rest) (btaHfClientParserCb scanned) with
    | (events, none) => events ++ [.atReset, .close]
    | (events, some count) =>
      have : 0 < count := by
        rw [btaHfClientParserCb_eq_append] at returned
        exact dispatch_pos (byte :: rest) _ returned
      events ++ btaHfClientAtParseStart scanned ((byte :: rest).drop count)
termination_by buf.length
decreasing_by simp only [List.length_drop, List.length_cons]; omega

/-! ## `bta_hf_client_at_parse` -/

/-- The C string a buffer holds: its octets up to the first NUL. -/
def cString (bytes : List UInt8) : List UInt8 := bytes.takeWhile (· ≠ 0)

/-- The parsing buffer of `tBTA_HF_CLIENT_AT_CB`: the octets before `offset`. -/
structure HfAtCb where
  /-- `buf[0 .. offset)`. -/
  buf : List UInt8
  /-- `offset` stays within `BTA_HF_CLIENT_AT_PARSER_MAX_LEN`. -/
  fits : buf.length ≤ btaHfClientAtParserMaxLen

/-- `bta_hf_client_at_clear_buf`. -/
def HfAtCb.empty : HfAtCb := ⟨[], Nat.zero_le _⟩

/-- `bta_hf_client_check_at_complete`: the buffer holds at least three octets and ends with
CR LF. -/
def btaHfClientCheckAtComplete (buf : List UInt8) : Bool :=
  btaHfClientAtEventMinLen ≤ buf.length && buf.getD (buf.length - 2) 0 = 0x0D &&
    buf.getD (buf.length - 1) 0 = 0x0A

/-- The search of the overrun recovery for the end of the last complete result: `offset` is
lowered until the octets before it are complete, and there is none when it reaches 0. -/
def lastComplete (buf : List UInt8) : Nat → Option Nat
  | 0 => if btaHfClientCheckAtComplete (buf.take 0) then some 0 else none
  | offset + 1 =>
    if btaHfClientCheckAtComplete (buf.take (offset + 1)) then some (offset + 1)
    else lastComplete buf offset

/-- The end of `bta_hf_client_at_parse`: a chunk that does not fit is dropped; otherwise it is
appended, and a buffer that ends a result is parsed and cleared. -/
def appendChunk (scanned : ScannedParsers) (cb : HfAtCb) (chunk : List UInt8)
    (events : List HfEvent) : HfAtCb × List HfEvent :=
  if room : chunk.length ≤ btaHfClientAtParserMaxLen - cb.buf.length then
    let buf := cb.buf ++ chunk
    if btaHfClientCheckAtComplete buf then
      (HfAtCb.empty, events ++ btaHfClientAtParseStart scanned (cString buf))
    else (⟨buf, by simp only [buf, List.length_append]; have := cb.fits; omega⟩, events)
  else (cb, events)

/-- `bta_hf_client_at_parse` on a chunk.  A chunk that would overrun the buffer first fills it;
the buffer is cut after its last complete result, which is parsed, and the octets after the cut
are kept, or the connection is closed when there is no complete result. -/
def btaHfClientAtParse (scanned : ScannedParsers) (cb : HfAtCb) (chunk : List UInt8) :
    HfAtCb × List HfEvent :=
  if chunk.length + cb.buf.length > btaHfClientAtParserMaxLen then
    let spaceLeft := btaHfClientAtParserMaxLen - cb.buf.length
    let full := cb.buf ++ chunk.take spaceLeft
    match lastComplete full full.length with
    | none => (HfAtCb.empty, [.atReset, .close])
    | some offset =>
      let events := btaHfClientAtParseStart scanned (cString (full.take offset))
      have fits : (full.drop offset).length ≤ btaHfClientAtParserMaxLen := by
        have := cb.fits
        simp only [full, List.length_drop, List.length_append, List.length_take]
        omega
      appendChunk scanned ⟨full.drop offset, fits⟩ (chunk.drop spaceLeft) events
  else appendChunk scanned cb chunk []

/-! ## The reader on its own parts -/

section Parts

variable (scanned : ScannedParsers)

/-- Dropping the longest prefix of a predicate is dropping while it holds. -/
theorem drop_length_takeWhile {α : Type} (p : α → Bool) (bytes : List α) :
    bytes.drop (bytes.takeWhile p).length = bytes.dropWhile p :=
  calc bytes.drop (bytes.takeWhile p).length
      = (bytes.takeWhile p ++ bytes.dropWhile p).drop (bytes.takeWhile p).length := by
        rw [List.takeWhile_append_dropWhile]
    _ = bytes.dropWhile p := List.drop_left

theorem atCheckEvent_of_not_prefix {event : List UInt8} {rest : List UInt8 → ParserResult}
    {buf : List UInt8} (other : (crlf ++ event).isPrefixOf buf = false) :
    atCheckEvent event rest buf = ([], some 0) := by
  simp [atCheckEvent, other]

/-- After its name, `AT_CHECK_EVENT` passes over the spaces and hands on the rest. -/
theorem atCheckEvent_append (event : List UInt8) (rest : List UInt8 → ParserResult)
    (tail : List UInt8) :
    atCheckEvent event rest (crlf ++ event ++ tail) =
      (rest (tail.dropWhile (· = 0x20))).shift
        ((crlf ++ event).length + (tail.takeWhile (· = 0x20)).length) := by
  simp [atCheckEvent, List.isPrefixOf_iff_prefix, drop_length_takeWhile]

/-- Parsers that do not match are passed over. -/
theorem dispatch_append_of_noMatch (buf : List UInt8) (front rest : List (List UInt8 → ParserResult))
    (noMatch : ∀ parser ∈ front, parser buf = ([], some 0)) :
    dispatch buf (front ++ rest) = dispatch buf rest := by
  induction front with
  | nil => rfl
  | cons parser front induction =>
    have first := noMatch parser (by simp)
    have later := induction fun other mem => noMatch other (by simp [mem])
    simp only [List.cons_append, dispatch, first, later, List.nil_append]

/-- A step of `bta_hf_client_at_parse_start` that moves on. -/
theorem btaHfClientAtParseStart_of_dispatch {buf : List UInt8} {events : List HfEvent}
    {count : Nat} (nonempty : buf ≠ [])
    (returned : dispatch buf (btaHfClientParserCb scanned) = (events, some count)) :
    btaHfClientAtParseStart scanned buf =
      events ++ btaHfClientAtParseStart scanned (buf.drop count) := by
  obtain ⟨byte, rest, rfl⟩ := List.exists_cons_of_ne_nil nonempty
  rw [btaHfClientAtParseStart]
  split <;> simp_all

theorem cString_of_ne_zero {bytes : List UInt8} (noNul : ∀ byte ∈ bytes, byte ≠ 0) :
    cString bytes = bytes := by
  exact List.takeWhile_eq_self_iff.mpr (by simpa using noNul)

theorem btaHfClientCheckAtComplete_append_crlf {front : List UInt8} (nonempty : front ≠ []) :
    btaHfClientCheckAtComplete (front ++ crlf) = true := by
  have long : 1 ≤ front.length := List.length_pos_iff.mpr nonempty
  simp [btaHfClientCheckAtComplete, btaHfClientAtEventMinLen, crlf, List.getD_eq_getElem?_getD,
    show front.length + 2 - 2 = front.length by omega,
    show front.length + 2 - 1 = front.length + 1 by omega]
  omega

/-- A chunk that fits in the empty buffer and ends a result is parsed as a whole. -/
theorem btaHfClientAtParse_of_complete {chunk : List UInt8}
    (fits : chunk.length ≤ btaHfClientAtParserMaxLen)
    (complete : btaHfClientCheckAtComplete chunk = true) :
    btaHfClientAtParse scanned HfAtCb.empty chunk =
      (HfAtCb.empty, btaHfClientAtParseStart scanned (cString chunk)) := by
  have room : chunk.length ≤ btaHfClientAtParserMaxLen - HfAtCb.empty.buf.length := by
    simpa [HfAtCb.empty] using fits
  simp [btaHfClientAtParse, appendChunk, HfAtCb.empty, complete, Nat.not_lt.mpr fits]

end Parts

/-! ## A `+BIND` line -/

section Bind

variable (scanned : ScannedParsers)

/-- The parsers before `bta_hf_client_parse_bind` do not match a `+BIND` result. -/
theorem parsers_before_bind (tail : List UInt8) :
    ∀ parser ∈ (btaHfClientParserCb scanned).take 22,
      parser (crlf ++ bindEvent ++ tail) = ([], some 0) := by
  simp only [btaHfClientParserCb, List.take, List.mem_cons, List.not_mem_nil, or_false,
    forall_eq_or_imp, forall_eq]
  simp [btaHfClientParseOk, parseResultCode, btaHfClientParseError, btaHfClientParseRing,
    btaHfClientParseChld, atCheckEvent, crlf, bindEvent, List.isPrefixOf]

/-- `bta_hf_client_parse_bind` reads to the end of the buffer. -/
theorem btaHfClientParseBind_append (tail : List UInt8) :
    btaHfClientParseBind (crlf ++ bindEvent ++ tail) =
      (bindLoop 0 (-1) (tail.dropWhile (· = 0x20)), some (tail.length + 8)) := by
  have whole := List.takeWhile_append_dropWhile (p := (· = 0x20)) (l := tail)
  have length := congrArg List.length whole
  rw [List.length_append] at length
  rw [btaHfClientParseBind, atCheckEvent_append]
  simp only [ParserResult.shift, Option.map_some, Prod.mk.injEq, true_and]
  simp only [crlf, bindEvent, List.length_append, List.length_cons, List.length_nil,
    Option.some.injEq]
  omega

/-- On a `+BIND` result, the `for` loop stops at `bta_hf_client_parse_bind`, which passes over
the whole buffer. -/
theorem dispatch_bind (tail : List UInt8) :
    dispatch (crlf ++ bindEvent ++ tail) (btaHfClientParserCb scanned) =
      (bindLoop 0 (-1) (tail.dropWhile (· = 0x20)), some (tail.length + 8)) := by
  rw [← List.take_append_drop 22 (btaHfClientParserCb scanned),
    dispatch_append_of_noMatch _ _ _ (parsers_before_bind scanned tail)]
  simp only [btaHfClientParserCb, List.drop, dispatch, btaHfClientParseBind_append]

/-- A buffer that starts with a `+BIND` line is read by `bta_hf_client_parse_bind` to its end:
the results after the line are read as indicators of `+BIND`, and none of their handlers is
called, `bta_hf_client_handle_ok` for an `OK` included. -/
theorem btaHfClientAtParse_bind_swallows_later_lines (params later : List UInt8)
    (noNul : ∀ byte ∈ params ++ later, byte ≠ 0)
    (fits : (crlf ++ bindEvent ++ params ++ crlf ++ later ++ crlf).length ≤
      btaHfClientAtParserMaxLen) :
    (btaHfClientAtParse scanned HfAtCb.empty
        (crlf ++ bindEvent ++ params ++ crlf ++ later ++ crlf)).2 =
      bindLoop 0 (-1) ((params ++ crlf ++ later ++ crlf).dropWhile (· = 0x20)) := by
  have tailed : crlf ++ bindEvent ++ params ++ crlf ++ later ++ crlf =
      crlf ++ bindEvent ++ (params ++ crlf ++ later ++ crlf) := by simp
  have complete := btaHfClientCheckAtComplete_append_crlf
    (show crlf ++ bindEvent ++ params ++ crlf ++ later ≠ [] by simp [crlf])
  have fixed : ∀ byte ∈ crlf ++ bindEvent, byte ≠ 0 := by decide +kernel
  have plain : ∀ byte ∈ crlf ++ bindEvent ++ params ++ crlf ++ later ++ crlf, byte ≠ 0 := by
    intro byte mem
    simp only [List.mem_append] at mem fixed noNul
    rcases mem with ((((first | first) | inParams) | last) | inLater) | last
    · exact fixed byte (.inl first)
    · exact fixed byte (.inr first)
    · exact noNul byte (.inl inParams)
    · exact fixed byte (.inl last)
    · exact noNul byte (.inr inLater)
    · exact fixed byte (.inl last)
  rw [btaHfClientAtParse_of_complete scanned fits complete, cString_of_ne_zero plain, tailed,
    btaHfClientAtParseStart_of_dispatch scanned (by simp [crlf]) (dispatch_bind scanned _)]
  simp [crlf, bindEvent, btaHfClientAtParseStart]

theorem btaHfClientAtParse_bind_swallows_later_lines_at_ok :
    (∀ byte ∈ [0x20, 0x31, 0x2C, 0x31] ++ crlf ++ [0x4F, 0x4B], byte ≠ (0 : UInt8)) ∧
      (crlf ++ bindEvent ++ [0x20, 0x31, 0x2C, 0x31] ++ crlf ++ (crlf ++ [0x4F, 0x4B]) ++
        crlf).length ≤ btaHfClientAtParserMaxLen ∧
      (btaHfClientAtParse ScannedParsers.failing HfAtCb.empty
          (crlf ++ bindEvent ++ [0x20, 0x31, 0x2C, 0x31] ++ crlf ++ (crlf ++ [0x4F, 0x4B]) ++
            crlf)).2 =
        [.bindReadEnabledInd 1 true] := by
  refine ⟨by decide +kernel, by decide, ?_⟩
  rw [btaHfClientAtParse_bind_swallows_later_lines ScannedParsers.failing [0x20, 0x31, 0x2C, 0x31]
    (crlf ++ [0x4F, 0x4B]) (by decide +kernel) (by decide)]
  decide

end Bind

end Bluetooth.HfClient
