import LogRouter.Cli
import LogRouter.Config.Load
import LogRouter.Rules.Report
import LogRouter.Lines
import LogRouter.Text.Base64

/-!
The command.

`-c FILE` names the configuration (else `LOGRELAY_CONFIG`, else `logrelay.yml`).  With `-t FILE`
the rules are tried on every line of the file, a report printed for each line some rule matches.
Otherwise lines read from standard input are routed, one envelope printed per line as a JSON object
with its topic and payload (`payload_b64` when the payload is not UTF-8).

A bad command line or configuration is printed to standard error and ends the command with
status 1.
-/

namespace LogRouter

namespace Command

/-- The configuration file to read. -/
def configPath (given : Option Text) (env : Option String) : String :=
  match given with
  | some p => p.toString
  | none => env.getD "logrelay.yml"

/-- Prints a failure and ends with status 1. -/
def fail (message : String) : IO UInt32 := do
  IO.eprintln message
  pure 1

/-- The envelope as one line of JSON. -/
def envelopeLine (e : Envelope) : Text :=
  let payload := if Utf8.isValid e.payload then (Text.ofString "payload", Json.str (Utf8.decode e.payload))
    else (Text.ofString "payload_b64", Json.str (Base64.encode e.payload))
  (Json.obj [(Text.ofString "topic", .str e.topic), payload]).render

/-- Routes lines from standard input until it ends. -/
partial def serve (set : RuleSet) (stdin : IO.FS.Stream) (buffer : LineBuffer) : IO Unit := do
  let chunk ← stdin.read 65536
  let (lines, buffer) := if chunk.isEmpty then buffer.flush else buffer.push chunk.toList
  for line in lines do
    let reading ← IO.monoMsNow
    let clock := Clock.fixed (Instant.ofDouble? (Double.ofNat reading))
    match set.route clock line with
    | .ok r => IO.println (envelopeLine r.envelope).toString
    | .error t => IO.eprintln (t.name.toString ++ ": " ++ t.message.toString)
  if !chunk.isEmpty then serve set stdin buffer

/-- Runs the command on its arguments. -/
def run (args : List String) : IO UInt32 := do
  match Cli.parse (args.map Text.ofString) with
  | .error e => fail ("TypeError [" ++ e.code.toString ++ "]: " ++ e.message.toString)
  | .ok opts =>
    let path := configPath opts.configPath (← IO.getEnv "LOGRELAY_CONFIG")
    let text ← try
        let bytes ← IO.FS.readBinFile path
        pure (some (Utf8.decode bytes.toList))
      catch _ => pure none
    match text with
    | none => fail ("Invalid configuration, refusing to start: Cannot read " ++ path)
    | some text =>
      match Configuration.parse text with
      | .error (.invalid issues) => fail ("Invalid configuration, refusing to start: " ++ (Issue.summary issues).toString)
      | .error (.thrown t) => fail ("Fatal: failed to start: " ++ t.name.toString ++ ": " ++ t.message.toString)
      | .ok config =>
        match opts.testFile with
        | some file =>
          let bytes ← try pure (some (← IO.FS.readBinFile file.toString)) catch _ => pure none
          match bytes with
          | none => fail ("Fatal: failed to start: cannot read " ++ file.toString)
          | some bytes =>
            for report in testRules config.rules (splitLines (Utf8.decode bytes.toList)) do
              IO.println report.text.toString
            pure 0
        | none =>
          let set : RuleSet := ⟨config.rules, config.defaultTopic, Text.ofString "0.3.0"⟩
          serve set (← IO.getStdin) { limit := LineBuffer.defaultLimit }
          pure 0

end Command

end LogRouter

/-- Runs the command. -/
def main (args : List String) : IO UInt32 := LogRouter.Command.run args
