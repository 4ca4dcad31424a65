import LogRouter.Record.Fields

/-!
Reading syslog lines (RFC 5424).

A line is read when it has the form

    '<' PRI '>' VERSION ' ' T ' ' T ' ' T ' ' T ' ' T [' '] SD (end | ' ' MSG)

where PRI is one to three ASCII digits of value at most 191, VERSION is `[1-9][0-9]?`, each `T` is
a run of units that are not blank (`Text.isBlank`), and SD is `-` or one or more bracketed
elements, inside whose quoted values a backslash hides the next unit.  The five `T` are the
timestamp, host name, application name, process id and message id; a `-` leaves the field out.
The facility and the severity are the high and the low three bits of PRI, by name.  The message is
what follows the space after SD, less one leading byte order mark, and empty when the line ends
with SD.
-/

namespace LogRouter

namespace Syslog

/-- Facility names, by the high bits of the priority. -/
def facilities : List String :=
  ["kern", "user", "mail", "daemon", "auth", "syslog", "lpr", "news", "uucp", "cron", "authpriv",
    "ftp", "ntp", "audit", "alert", "clock", "local0", "local1", "local2", "local3", "local4",
    "local5", "local6", "local7"]

/-- Severity names, by the low three bits of the priority. -/
def severities : List String := ["emerg", "alert", "crit", "err", "warning", "notice", "info", "debug"]

/-- The byte order mark, dropped once from the front of a message. -/
def byteOrderMark : UInt16 := 0xFEFF

/-- The priority between angle brackets at the start of a line, and the rest after `>`. -/
def readPriority : Text → Option (Nat × Text)
  | 0x3C :: r =>
    let digits := r.takeWhile Text.isDigit
    match r.dropWhile Text.isDigit with
    | 0x3E :: rest =>
      if 1 ≤ digits.length ∧ digits.length ≤ 3 then
        some (digits.foldl (fun acc u => acc * 10 + Text.digitValue u) 0, rest)
      else none
    | _ => none
  | _ => none

/-- The version, `[1-9][0-9]?`, and the rest after the space that follows it. -/
def readVersion : Text → Option Text
  | v :: 0x20 :: rest => if Text.isDigit v ∧ v ≠ 0x30 then some rest else none
  | v :: w :: 0x20 :: rest =>
    if Text.isDigit v ∧ v ≠ 0x30 ∧ Text.isDigit w then some rest else none
  | _ => none

/-- A nonempty run of units that are not blank, and the rest after it. -/
def readToken (t : Text) : Option (Text × Text) :=
  let tok := t.takeWhile (fun u => !Text.isBlank u)
  if tok.isEmpty then none else some (tok, t.dropWhile (fun u => !Text.isBlank u))

/-- Four tokens, each followed by one space, and then a fifth token. -/
def readTokens (t : Text) : Option (List Text × Text) := do
  let (a, r) ← readToken t
  let r ← match r with | 0x20 :: r => some r | _ => none
  let (b, r) ← readToken r
  let r ← match r with | 0x20 :: r => some r | _ => none
  let (c, r) ← readToken r
  let r ← match r with | 0x20 :: r => some r | _ => none
  let (d, r) ← readToken r
  let r ← match r with | 0x20 :: r => some r | _ => none
  let (e, r) ← readToken r
  pure ([a, b, c, d, e], r)

/-- Where a reader of structured data is: between elements, inside an element, inside a quoted
value, or just after a backslash in a quoted value. -/
inductive DataState where
  | between
  | inside
  | quoted
  | escaped
deriving DecidableEq, Inhabited

/-- The rest of a line after its structured data, read from state `s`; `none` if an element is
not closed. -/
def dataRest : DataState → Text → Option Text
  | .between, 0x5B :: r => dataRest .inside r
  | .between, t => some t
  | .inside, [] => none
  | .inside, u :: r =>
    if u = 0x22 then dataRest .quoted r
    else if u = 0x5D then dataRest .between r
    else dataRest .inside r
  | .quoted, [] => none
  | .quoted, u :: r =>
    if u = 0x5C then dataRest .escaped r
    else if u = 0x22 then dataRest .inside r
    else dataRest .quoted r
  | .escaped, [] => none
  | .escaped, _ :: r => dataRest .quoted r

/-- The rest of a line after its structured data: `-`, or elements opened by `[`. -/
def structuredDataRest : Text → Option Text
  | 0x2D :: r => some r
  | 0x5B :: r => dataRest .inside r
  | _ => none

/-- The message after the structured data: empty at the end of the line, else what follows one
space, less one leading byte order mark. -/
def messageOf : Text → Option Text
  | [] => some []
  | 0x20 :: m =>
    match m with
    | u :: m' => if u = byteOrderMark then some m' else some m
    | [] => some []
  | _ => none

/-- A header token, left out when it is `-`. -/
def present (t : Text) : Option Text := if t = [0x2D] then none else some t

/-- The fields of a syslog line, or `none` when the line is not RFC 5424. -/
def parse (line : Text) : Option Fields := do
  let (pri, r) ← readPriority line
  if pri > 191 then none
  let r ← readVersion r
  let (toks, r) ← readTokens r
  let rest := match r with
    | 0x20 :: r' => r'
    | r' => r'
  let afterData ← structuredDataRest rest
  let msg ← messageOf afterData
  let tok (i : Nat) : Option Text := present (toks.getD i [])
  pure {
    msg := some msg
    facility := some (Text.ofString (facilities.getD (pri / 8) ""))
    severity := some (Text.ofString (severities.getD (pri % 8) ""))
    timestamp := tok 0
    hostname := tok 1
    appname := tok 2
    procid := tok 3
    msgid := tok 4 }

end Syslog

end LogRouter
