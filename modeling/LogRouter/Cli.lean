import LogRouter.Text.Basic

/-!
Command-line options.

The command takes two options that each want a value, `-c`/`--config` (the configuration file) and
`-t`/`--test` (a log file to try the rules on), and no positional arguments.  The words are first
cut into tokens: `--` ends the options, `-c v` and `--config v` take the next word as the value
(whatever it looks like), `-cv` and `--config=v` carry it inline, and a group `-xyz` of short
options is read as `-x -y -z`, a short option that wants a value taking the rest of the group.
The tokens are then checked in order: an unknown option, a missing value, a value taken from the
next word that looks like an option, or a positional word is refused, the first one found.  The
last value given for an option wins.
-/

namespace LogRouter

/-- An option the command knows: its long name and its one-letter short name. -/
structure OptionSpec where
  long : String
  short : Char

/-- The options of the command line: a configuration file and a test file. -/
structure CliOptions where
  configPath : Option Text := none
  testFile : Option Text := none
deriving Inhabited

/-- A word of the command line after cutting. -/
inductive ArgToken where
  | option (name raw : Text) (value : Option Text) (inline : Bool)
  | positional (value : Text)
  | terminator
deriving Inhabited

/-- Why a command line is refused. -/
inductive ArgError where
  | unknownOption (raw : Text)
  | unexpectedPositional (value : Text)
  | missingValue (spec : OptionSpec)
  | ambiguousValue (name raw : Text)

namespace Cli

/-- The options of the command. -/
def specs : List OptionSpec := [⟨"config", 'c'⟩, ⟨"test", 't'⟩]

/-- The long name for a short option unit; the unit itself when no option has it. -/
def longOf (c : UInt16) : Text :=
  match specs.find? (fun s => Text.ofString s.short.toString == [c]) with
  | some s => Text.ofString s.long
  | none => [c]

/-- The option with a long name. -/
def specOf? (name : Text) : Option OptionSpec := specs.find? (fun s => Text.ofString s.long == name)

/-- Whether a long name belongs to an option that wants a value. -/
def wantsValue (name : Text) : Bool := (specOf? name).isSome

/-- The words a group `-xyz` stands for: each short option alone, except that one wanting a value
before the end takes the rest of the group. -/
def expandGroup (body : Text) : List Text :=
  match body with
  | [] => []
  | c :: rest =>
    if wantsValue (longOf c) && !rest.isEmpty then [0x2D :: c :: rest]
    else [0x2D, c] :: expandGroup rest

/-- Cuts words into tokens; `fuel` bounds the steps. -/
def tokens : Nat → List Text → List ArgToken
  | 0, _ => []
  | _, [] => []
  | fuel + 1, arg :: rest =>
    if arg = [0x2D, 0x2D] then .terminator :: rest.map .positional
    else match arg with
      | [0x2D, c] =>
        if c = 0x2D then .positional arg :: tokens fuel rest
        else
          let name := longOf c
          if wantsValue name then
            match rest with
            | v :: rest' => .option name arg (some v) false :: tokens fuel rest'
            | [] => [.option name arg none false]
          else .option name arg none false :: tokens fuel rest
      | 0x2D :: 0x2D :: body =>
        if (body.drop 1).contains 0x3D then
          let name := body.takeWhile (· ≠ 0x3D)
          .option name ([0x2D, 0x2D] ++ name) (some ((body.dropWhile (· ≠ 0x3D)).drop 1)) true ::
            tokens fuel rest
        else if wantsValue body then
          match rest with
          | v :: rest' => .option body arg (some v) false :: tokens fuel rest'
          | [] => [.option body arg none false]
        else .option body arg none false :: tokens fuel rest
      | 0x2D :: c :: more =>
        if wantsValue (longOf c) then
          .option (longOf c) [0x2D, c] (some more) true :: tokens fuel rest
        else tokens fuel (expandGroup (c :: more) ++ rest)
      | _ => .positional arg :: tokens fuel rest

/-- Whether a value taken from the next word looks like an option. -/
def looksLikeOption (v : Text) : Bool := v.length > 1 && v.head? == some 0x2D

/-- Applies checked tokens to the options, or refuses the first bad one. -/
def apply (acc : CliOptions) : List ArgToken → Except ArgError CliOptions
  | [] => .ok acc
  | .terminator :: rest => apply acc rest
  | .positional v :: _ => .error (.unexpectedPositional v)
  | .option name raw value inline :: rest =>
    match specOf? name with
    | none => .error (.unknownOption raw)
    | some spec =>
      match value with
      | none => .error (.missingValue spec)
      | some v =>
        if !inline && looksLikeOption v then .error (.ambiguousValue name raw)
        else
          let acc := if spec.long = "config" then { acc with configPath := some v }
            else { acc with testFile := some v }
          apply acc rest

/-- The options of a command line, or why it is refused. -/
def parse (args : List Text) : Except ArgError CliOptions :=
  let fuel := (args.map (·.length + 1)).foldl (· + ·) 0 + 1
  apply {} (tokens fuel args)

end Cli

namespace ArgError

/-- The error code of a refusal. -/
def code : ArgError → Text
  | .unknownOption _ => Text.ofString "ERR_PARSE_ARGS_UNKNOWN_OPTION"
  | .unexpectedPositional _ => Text.ofString "ERR_PARSE_ARGS_UNEXPECTED_POSITIONAL"
  | .missingValue _ => Text.ofString "ERR_PARSE_ARGS_INVALID_OPTION_VALUE"
  | .ambiguousValue .. => Text.ofString "ERR_PARSE_ARGS_INVALID_OPTION_VALUE"

/-- The message of a refusal. -/
def message : ArgError → Text
  | .unknownOption raw => Text.ofString "Unknown option " ++ Text.singleQuoted raw
  | .unexpectedPositional v =>
    Text.ofString "Unexpected argument " ++ Text.singleQuoted v ++
      Text.ofString ". This command does not take positional arguments"
  | .missingValue spec =>
    Text.ofString ("Option '-" ++ spec.short.toString ++ ", --" ++ spec.long ++ " <value>' argument missing")
  | .ambiguousValue name raw =>
    let hint : Text :=
      if raw.take 2 = [0x2D, 0x2D] then Text.singleQuoted (raw ++ Text.ofString "=-XYZ")
      else Text.singleQuoted (Text.ofString "--" ++ name ++ Text.ofString "=-XYZ") ++
        Text.ofString " or " ++ Text.singleQuoted (raw ++ Text.ofString "-XYZ")
    Text.ofString "Option " ++ Text.singleQuoted raw ++ Text.ofString " argument is ambiguous.\nDid you forget to specify the option argument for " ++
      Text.singleQuoted raw ++ Text.ofString "?\nTo specify an option argument starting with a dash use " ++
      hint ++ Text.ofString "."

end ArgError

end LogRouter
