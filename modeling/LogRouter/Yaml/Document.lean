import LogRouter.Yaml.Compose
import LogRouter.Json.Write

/-!
Documents and streams.

A document is composed from the properties before its contents (a `---` marker, comments), its
contents, and the tokens after them.  A stream is read token by token: directives set tag handles
for the next document (`%TAG`) or its version (`%YAML 1.1` or `1.2`; another well-formed version
is only warned about and leaves the version as it was); documents are composed in turn; stray
tokens and `...` markers add errors.

Which document an error belongs to follows the order of reading.  Errors before a document belong
to it; errors of `...` markers and stray tokens after a document's start belong to that document.
Only the first document is kept.  A second document adds to the first the error that the source
holds several documents, spanning the second document's start and contents; once a third document
is composed, reading stops.  An empty stream has one empty document.
-/

namespace LogRouter

namespace Yaml

/-- A composed document: its contents, whether it began with `---`, and the span of its start and
contents. -/
structure Document where
  contents : Node
  docStart : Bool
  start : Nat
  contentEnd : Nat
deriving Inhabited

/-- Composes a document. -/
def composeDocument (fuel offset : Nat) (start : List SourceToken) (value : Option Cst)
    (finish : Option (List SourceToken)) : ComposeM Document := do
  let next := match value, finish with
    | some v, _ => Following.node v
    | none, some (t :: _) => Following.token t
    | none, _ => Following.nothing
  let p ← props start none .docStart next offset 0 true
  if p.found.isSome && (value.map Cst.isBlockCollection).getD false && !p.hasNewline then
    report (YamlError.atOffset p.stop "Block collection cannot start on same line with directives-end marker")
  let contents ← match value with
    | some v => composeNode fuel v p
    | none => composeEmptyNode p.stop start none p
  let contentEnd := contents.range.stop
  let (_, errs) := endOf false finish contentEnd
  reportAll errs
  pure ⟨contents, p.found.isSome, offset, contentEnd⟩

/-- The words of a directive line: split at runs of spaces and tabs, blank ends dropped. -/
def directiveWords (src : Text) : List Text :=
  let words := ((Text.splitOnUnit (Text.trim src) 0x20).flatMap (Text.splitOnUnit · 0x09)).filter (!·.isEmpty)
  if words.isEmpty then [[]] else words

/-- Whether a text is a version number: digits, a point, digits. -/
def isVersionText (t : Text) : Bool :=
  match Text.splitOnUnit t 0x2E with
  | [a, b] => !a.isEmpty && !b.isEmpty && a.all Text.isDigit && b.all Text.isDigit
  | _ => false

/-- Sets a tag handle. -/
def setHandle (handles : List (Text × Text)) (h p : Text) : List (Text × Text) :=
  if handles.any (·.1 == h) then handles.map fun e => if e.1 == h then (h, p) else e
  else handles ++ [(h, p)]

/-- Applies a directive line at `offset` to the tag handles and the version, with its errors. -/
def applyDirective (handles : List (Text × Text)) (version : Version) (offset : Nat) (src : Text) :
    List (Text × Text) × Version × List YamlError :=
  let stop := offset + src.length
  let err (shift : Nat) (msg : Text) : YamlError := ⟨offset + shift, stop, false, msg⟩
  match directiveWords src with
  | name :: rest =>
    if name == Text.ofString "%TAG" then
      let errs := if rest.length != 2 then [err 0 (Text.ofString "%TAG directive should contain exactly two parts")] else []
      match rest with
      | h :: p :: _ => (setHandle handles h p, version, errs)
      | _ => (handles, version, errs)
    else if name == Text.ofString "%YAML" then
      match rest with
      | [v] =>
        match Version.ofText v with
        | some known => (handles, known, [])
        | none =>
          if isVersionText v then (handles, version, [])
          else (handles, version, [err 6 (Text.ofString "Unsupported YAML version " ++ v)])
      | _ => (handles, version, [err 0 (Text.ofString "%YAML directive should contain exactly one part")])
    else (handles, version, [])
  | [] => (handles, version, [])

/-- The state of reading a stream. -/
structure Reading where
  handles : List (Text × Text) := defaultHandles
  version : Version := .v1_2
  handlesTaken : Bool := false
  pending : Array YamlError := #[]
  first : Option (Node × Array YamlError) := none
  firstSchema : Version × List (Text × Text) := (.v1_2, defaultHandles)
  documents : Nat := 0
  secondSpan : Nat × Nat := (0, 0)
  atDirectives : Bool := false
  fatal : Option Text := none
  done : Bool := false
deriving Inhabited

namespace Reading

/-- Adds an error to the document being read, or keeps it for the next one. -/
def addError (r : Reading) (e : YamlError) : Reading :=
  if r.atDirectives || r.documents == 0 then { r with pending := r.pending.push e }
  else if r.documents == 1 then { r with first := r.first.map fun (n, es) => (n, es.push e) }
  else r

/-- Moves the errors kept so far to the document being read. -/
def settle (r : Reading) : Reading :=
  if r.documents == 1 then
    { r with first := r.first.map (fun (n, es) => (n, es ++ r.pending)), pending := #[] }
  else { r with pending := #[] }

/-- Reads one node of the stream. -/
def step (fuel : Nat) (r : Reading) (c : Cst) : Reading :=
  if r.done then r
  else
    match c with
    | .directive o src =>
      let handles := if r.handlesTaken then defaultHandles else r.handles
      let (handles, version, errs) := applyDirective handles r.version o src
      { r with handles, version, handlesTaken := false, pending := r.pending ++ errs.toArray, atDirectives := true }
    | .document o start value finish =>
      let (doc, comp) := (composeDocument fuel o start value finish).run
        { handles := r.handles, version := r.version }
      match comp.fatal with
      | some f => { r with fatal := some f, done := true }
      | none =>
        let missing := if r.atDirectives && !doc.docStart then
            #[⟨o, o + 1, false, Text.ofString "Missing directives-end/doc-start indicator line"⟩] else #[]
        let errs := r.pending ++ comp.errors ++ missing
        let n := r.documents + 1
        let r := { r with documents := n, pending := #[], atDirectives := false, handlesTaken := true }
        if n == 1 then { r with first := some (doc.contents, errs), firstSchema := (r.version, r.handles) }
        else if n == 2 then { r with secondSpan := (o, doc.contentEnd) }
        else { r with done := true }
    | .bare t =>
      if t.kind == .byteOrderMark || t.kind == .space || t.kind == .comment || t.kind == .newline then r
      else { r with pending := r.pending.push (c.errorAt (Text.ofString ("Unsupported token " ++ t.kind.name))) }
    | .error o msg src =>
      let msg := if src.isEmpty then msg else msg ++ Text.ofString ": " ++ Json.quote src
      r.addError ⟨o, o + src.length, false, msg⟩
    | .docEnd o src fin =>
      if r.documents == 0 then
        { r with pending := r.pending.push ⟨o, o + src.length, false,
            Text.ofString "Unexpected doc-end without preceding document"⟩ }
      else
        let (_, errs) := endOf true fin (o + src.length)
        settle { r with pending := r.pending ++ errs.toArray }
    | other => { r with pending := r.pending.push (other.errorAt (Text.ofString ("Unsupported token " ++ other.kindName))) }

end Reading

/-- What reading a stream gives: the contents of its first document, its version and tag handles,
and that document's errors, or a fatal error. -/
structure StreamResult where
  contents : Node
  version : Version := .v1_2
  handles : List (Text × Text) := defaultHandles
  errors : List YamlError
  fatal : Option Text
deriving Inhabited

/-- Reads the nodes of a stream whose source has `length` units. -/
def readStream (fuel length : Nat) (nodes : List Cst) : StreamResult :=
  let r := nodes.foldl (Reading.step fuel) {}
  let empty : Node := Node.emptyAt ⟨0, length, length⟩
  match r.fatal with
  | some f => { contents := empty, errors := [], fatal := some f }
  | none =>
    match r.first with
    | none =>
      let missing := if r.atDirectives then
          #[YamlError.atOffset length "Missing directives-end indicator line"] else #[]
      { contents := empty, errors := (r.pending ++ missing).toList, fatal := none }
    | some (contents, errs) =>
      let errs := if r.documents == 1 then errs ++ r.pending else errs
      let errs := if r.documents ≥ 2 then
          errs.push ⟨r.secondSpan.1, r.secondSpan.2, false,
            Text.ofString "Source contains multiple documents; please use YAML.parseAllDocuments()"⟩
        else errs
      { contents, version := r.firstSchema.1, handles := r.firstSchema.2, errors := errs.toList, fatal := none }

end Yaml

end LogRouter
