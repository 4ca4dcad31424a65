import LogRouter.Pipeline

/-!
Testing rules on lines.

Each line is read as the route reads it, and every rule's matcher is tried on it, without running
any action; so a stop does not hide the rules after it.  A line that some rule matches gets a
report: its number (from 1) and the rules that matched, each with its index, kind and expression.
A report is written as `Line N matches on:` and a line `\t - [i] kind expression` for each rule.

Text given as a whole is cut into lines at each line feed, carriage return followed by line feed,
and lone carriage return; a break at the very end does not start another line.
-/

namespace LogRouter

/-- A rule that matched a tested line. -/
structure Hit where
  index : Nat
  kind : Text
  source : Text
deriving DecidableEq, Inhabited

/-- The report for a tested line. -/
structure LineReport where
  lineNumber : Nat
  hits : List Hit
deriving DecidableEq, Inhabited

namespace LineReport

/-- The report as text. -/
def text (r : LineReport) : Text :=
  Text.join [0x0A] (Text.ofString ("Line " ++ toString r.lineNumber ++ " matches on:") ::
    r.hits.map fun h =>
      Text.ofString ("\t - [" ++ toString h.index ++ "] ") ++ h.kind ++ [0x20] ++ h.source)

end LineReport

/-- The rules whose matchers match a line, without running actions. -/
def hitsOn (rules : List Rule) (line : Text) : List Hit :=
  let (r, _) := LogRecord.ofLine (Utf8.encode line)
  rules.zipIdx.filterMap fun (rule, i) =>
    (rule.matcher.evaluate r).map fun _ => ⟨i, rule.matcher.kindText, rule.matcher.source⟩

/-- The reports for lines, numbered from 1: one for each line some rule matches. -/
def testRules (rules : List Rule) (lines : List Text) : List LineReport :=
  lines.zipIdx.filterMap fun (line, i) =>
    match hitsOn rules line with
    | [] => none
    | hits => some ⟨i + 1, hits⟩

/-- Cuts text into lines at line feeds, carriage returns followed by line feeds, and lone
carriage returns; a break at the end does not start another line. -/
def splitLines (t : Text) : List Text :=
  let rec go : Text → Text → List Text
    | [], cur => if cur.isEmpty then [] else [cur.reverse]
    | 0x0D :: 0x0A :: rest, cur => cur.reverse :: go rest []
    | 0x0D :: rest, cur => cur.reverse :: go rest []
    | 0x0A :: rest, cur => cur.reverse :: go rest []
    | u :: rest, cur => go rest (u :: cur)
  go t []

end LogRouter
