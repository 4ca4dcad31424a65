import LogRouter.Yaml.Parser
import LogRouter.Yaml.Types

/-!
Composing: from the concrete syntax tree to YAML nodes.

Each node of the tree becomes a `Node`.  On the way the composer checks what the tree alone does
not: properties (anchor, tag) before a node and their spacing, indentation of mapping keys,
implicit keys on one line, unique keys, commas and closing brackets of flow collections, and the
tokens allowed after a node.  Every problem is a `YamlError` at an offset or span of the source.

The composer keeps the errors so far, whether it is still outside every collection (a block scalar
at the top level need not be indented), whether it is reading a key (where YAML 1.1 reads `<<` as
the merge key), the document's version and tag handles, and a fatal error: a double-quoted escape
above U+10FFFF stops reading at once.

Comments are kept on the nodes they belong to.  A comment before a node is its comment before;
a comment after a node on its line is its comment, and so is a comment before an empty node.  In
a flow collection, a comment right after an item's comma belongs to the item before it.  Comment
lines among a collection's items that lead to no item belong to the collection.

A stream is composed document by document.  Errors found between documents belong to the next
document; errors of tokens after a document's start belong to that document.  Only the first
document is kept; a second one adds the error that a source holds several documents, and reading
stops once a third is composed.
-/

namespace LogRouter

namespace Yaml

/-- What the composer carries from node to node. -/
structure Composer where
  errors : Array YamlError := #[]
  atRoot : Bool := true
  atKey : Bool := false
  version : Version := .v1_2
  fatal : Option Text := none
  handles : List (Text × Text) := defaultHandles
deriving Inhabited

/-- Composition: a state of the composer threaded through. -/
abbrev ComposeM := StateM Composer

/-- Records an error; warnings are dropped. -/
def report (e : YamlError) : ComposeM Unit :=
  if e.warning then pure () else modify fun c => { c with errors := c.errors.push e }

/-- Records errors in order. -/
def reportAll (es : List YamlError) : ComposeM Unit := es.forM report

/-- Records the first fatal error. -/
def reportFatal (f : Option Text) : ComposeM Unit :=
  match f with
  | some msg => modify fun c => if c.fatal.isSome then c else { c with fatal := some msg }
  | none => pure ()

namespace Cst

/-- The name of a node's kind, as messages give it. -/
def kindName : Cst → String
  | document .. => "document"
  | docEnd .. => "doc-end"
  | flowScalar k .. => k.name
  | blockScalar .. => "block-scalar"
  | blockMap .. => "block-map"
  | blockSeq .. => "block-seq"
  | flowCollection .. => "flow-collection"
  | error .. => "error"
  | directive .. => "directive"
  | bare t => t.kind.name

/-- The source text of a node, for nodes that have one. -/
def source? : Cst → Option Text
  | docEnd _ s _ | flowScalar _ _ _ s _ | blockScalar _ _ _ s | error _ _ s | directive _ s => some s
  | bare t => some t.source
  | _ => none

/-- The span an error about a node covers: from its offset over its source, or one unit. -/
def span (c : Cst) : Nat × Nat :=
  match c.source? with
  | some s => (c.offset, c.offset + s.length)
  | none => (c.offset, c.offset + 1)

/-- An error about a node. -/
def errorAt (c : Cst) (message : Text) : YamlError :=
  let (a, b) := c.span
  ⟨a, b, false, message⟩

/-- Whether a node is a block sequence. -/
def isBlockSeq : Cst → Bool
  | blockSeq .. => true
  | _ => false

/-- Whether a node is a block mapping. -/
def isBlockMap : Cst → Bool
  | blockMap .. => true
  | _ => false

/-- Whether a node is a block scalar. -/
def isBlockScalar : Cst → Bool
  | blockScalar .. => true
  | _ => false

end Cst

/-- Whether a node spreads over more than one line. Scalars and flow collections are looked into;
any other node counts as spread. -/
def containsNewline : Nat → Option Cst → Bool
  | _, none => false
  | 0, some _ => true
  | fuel + 1, some c =>
    match c with
    | .flowScalar _ _ _ src fin => src.contains 0x0A || (fin.getD []).any (·.kind == .newline)
    | .flowCollection _ _ _ items _ => items.any fun it =>
        it.start.any (·.kind == .newline) || (it.sep.getD []).any (·.kind == .newline) ||
        containsNewline fuel it.key || containsNewline fuel it.value
    | _ => true

/-- What follows a node's properties: nothing, a token, or a node. -/
inductive Following where
  | nothing
  | token (t : SourceToken)
  | node (c : Cst)

namespace Following

/-- The first of a key and the tokens after it. -/
def ofKey (key : Option Cst) (sep : Option (List SourceToken)) : Following :=
  match key, sep with
  | some k, _ => node k
  | none, some (t :: _) => token t
  | none, _ => nothing

/-- A node, if present. -/
def ofNode : Option Cst → Following
  | some c => node c
  | none => nothing

/-- The kind of a following token. -/
def tokenKind? : Following → Option TokenKind
  | token t => some t.kind
  | node (.bare t) => some t.kind
  | node (.flowScalar k ..) => some k
  | _ => none

/-- Whether what follows is white space or a comma. -/
def isGap (f : Following) : Bool :=
  match f.tokenKind? with
  | some k => k == .space || k == .newline || k == .comma
  | none => false

/-- Whether what follows is an empty plain scalar. -/
def isEmptyPlain : Following → Bool
  | token t => t.kind == .scalar && t.source.isEmpty
  | node (.flowScalar .scalar _ _ src _) => src.isEmpty
  | _ => false

/-- Whether what follows is a flow collection. -/
def isFlowCollection : Following → Bool
  | node (.flowCollection ..) => true
  | _ => false

/-- Whether what follows is a block collection. -/
def isBlockCollection : Following → Bool
  | node c => c.isBlockCollection
  | _ => false

/-- Where what follows starts. -/
def offset? : Following → Option Nat
  | token t => some t.offset
  | node c => some c.offset
  | nothing => none

end Following

/-- The properties before a node: the indicator and comma found, the comment read (empty if
none), whether a blank line comes first and whether line breaks were seen, the anchor and tag, a
line break after them, and where the properties start and end. -/
structure Props where
  comma : Option SourceToken := none
  found : Option SourceToken := none
  comment : Text := []
  spaceBefore : Bool := false
  hasNewline : Bool := false
  anchor : Option SourceToken := none
  tag : Option SourceToken := none
  newlineAfterProp : Option SourceToken := none
  stop : Nat := 0
  start : Nat := 0
deriving Inhabited

/-- The state of reading properties token by token. -/
structure PropScan where
  props : Props := {}
  commentSep : Text := []
  atNewline : Bool
  hasSpace : Bool
  reqSpace : Bool := false
  tab : Option SourceToken := none
  errors : Array YamlError := #[]

/-- The message for a tag or anchor run into what follows. -/
def separateMsg : String := "Tags and anchors must be separated from the next token by white space"

/-- Reads one token of a node's properties. `flow` names the flow collection the node is in;
`indicator` is the indicator expected; `tabsMatter` tells whether a tab in white space may be
indentation. -/
def PropScan.step (flow : Option String) (indicator : TokenKind) (tabsMatter : Bool)
    (s : PropScan) (t : SourceToken) : PropScan :=
  let gap := t.kind == .space || t.kind == .newline || t.kind == .comma
  let s := if s.reqSpace then
      { s with reqSpace := false,
               errors := if gap then s.errors else s.errors.push (YamlError.atOffset t.offset separateMsg) }
    else s
  let s := match s.tab with
    | some tab =>
      { s with tab := none,
               errors := if s.atNewline && t.kind != TokenKind.comment && t.kind != TokenKind.newline then
                 s.errors.push (YamlError.onToken tab "Tabs are not allowed as indentation") else s.errors }
    | none => s
  let p := s.props
  match t.kind with
  | .space =>
    { s with tab := if flow.isNone && tabsMatter && t.source.contains 0x09 then some t else none,
             hasSpace := true }
  | .comment =>
    let cb := if t.source.length ≤ 1 then [0x20] else t.source.drop 1
    { s with errors := if s.hasSpace then s.errors else
               s.errors.push (YamlError.onToken t "Comments must be separated from other tokens by white space characters"),
             props := { p with comment := if p.comment.isEmpty then cb else p.comment ++ s.commentSep ++ cb },
             commentSep := [], atNewline := false }
  | .newline =>
    let (comment, spaceBefore, commentSep) :=
      if s.atNewline then
        if !p.comment.isEmpty then (p.comment ++ t.source, p.spaceBefore, s.commentSep)
        else (p.comment, p.spaceBefore || p.found.isNone || indicator != .seqItemInd, s.commentSep)
      else (p.comment, p.spaceBefore, s.commentSep ++ t.source)
    { s with atNewline := true, hasSpace := true, commentSep,
             props := { p with hasNewline := true, comment, spaceBefore,
                               newlineAfterProp := if p.anchor.isSome || p.tag.isSome then some t else p.newlineAfterProp } }
  | .anchor =>
    { s with errors := if p.anchor.isSome then s.errors.push (YamlError.onToken t "A node can have at most one anchor") else s.errors,
             props := { p with anchor := some t, start := if p.anchor.isSome || p.tag.isSome then p.start else t.offset },
             atNewline := false, hasSpace := false, reqSpace := true }
  | .tag =>
    { s with errors := if p.tag.isSome then s.errors.push (YamlError.onToken t "A node can have at most one tag") else s.errors,
             props := { p with tag := some t, start := if p.anchor.isSome || p.tag.isSome then p.start else t.offset },
             atNewline := false, hasSpace := false, reqSpace := true }
  | k =>
    if k == indicator then
      let errs := if p.anchor.isSome || p.tag.isSome then
          s.errors.push ⟨t.offset, t.offset + t.source.length, false,
            Text.ofString "Anchors and tags must be after the " ++ t.source ++ Text.ofString " indicator"⟩
        else s.errors
      let errs := if p.found.isSome then
          errs.push ⟨t.offset, t.offset + t.source.length, false,
            Text.ofString "Unexpected " ++ t.source ++ Text.ofString (" in " ++ flow.getD "collection")⟩
        else errs
      { s with errors := errs, props := { p with found := some t },
               atNewline := indicator == TokenKind.seqItemInd || indicator == TokenKind.explicitKeyInd, hasSpace := false }
    else if k == .comma && flow.isSome then
      let errs := if p.comma.isSome then
          s.errors.push (YamlError.onToken t ("Unexpected , in " ++ flow.getD "")) else s.errors
      { s with errors := errs, props := { p with comma := some t }, atNewline := false, hasSpace := false }
    else
      { s with errors := s.errors.push (YamlError.onToken t ("Unexpected " ++ k.name ++ " token")),
               atNewline := false, hasSpace := false }

/-- Reads the properties of a node from the tokens before it. -/
def readProps (tokens : List SourceToken) (flow : Option String) (indicator : TokenKind) (next : Following)
    (offset parentIndent : Nat) (startOnNewline : Bool) : Props × List YamlError :=
  let tabsMatter := indicator != .docStart || !next.isFlowCollection
  let hasProp (p : Props) := p.anchor.isSome || p.tag.isSome
  let s := tokens.foldl (PropScan.step flow indicator tabsMatter) { atNewline := startOnNewline, hasSpace := startOnNewline }
  let stop := match tokens.getLast? with
    | some t => t.offset + t.source.length
    | none => offset
  let errs := s.errors
  let errs := match next.offset? with
    | some o => if s.reqSpace && !next.isGap && !next.isEmptyPlain then errs.push (YamlError.atOffset o separateMsg) else errs
    | none => errs
  let errs := match s.tab with
    | some tab =>
      if (s.atNewline && tab.indent ≤ parentIndent) || next.isBlockCollection then
        errs.push (YamlError.onToken tab "Tabs are not allowed as indentation")
      else errs
    | none => errs
  let p := s.props
  ({ p with stop, start := if hasProp p then p.start else stop }, errs.toList)

/-- Reads the properties of a node and records their errors. -/
def props (tokens : List SourceToken) (flow : Option String) (indicator : TokenKind) (next : Following)
    (offset parentIndent : Nat) (startOnNewline : Bool) : ComposeM Props := do
  let (p, errs) := readProps tokens flow indicator next offset parentIndent startOnNewline
  reportAll errs
  pure p

/-- Where an empty scalar stands: after the last token before `pos` that is not white space or a
comment, and the spaces after it. -/
def emptyScalarPosition (offset : Nat) (before : List SourceToken) (pos : Option Nat) : Nat :=
  let isGap (t : SourceToken) := t.kind == .space || t.kind == .comment || t.kind == .newline
  let back := (before.take (pos.getD before.length)).reverse
  let trailing := back.takeWhile isGap
  let off := offset - (trailing.map (·.source.length)).foldl (· + ·) 0
  match back.drop trailing.length with
  | [] => off
  | _ => off + ((trailing.reverse.takeWhile (·.kind == .space)).map (·.source.length)).foldl (· + ·) 0

/-- A scalar node from its syntax and tag, read under a version's schema (`atKey` when it is a
key): the node, its errors, and a fatal error if any. -/
def scalarNode (v : Version) (atKey : Bool) (handles : List (Text × Text)) (atRoot : Bool) (token : Cst)
    (tag : Option SourceToken) : Node × List YamlError × Option Text :=
  let (st, range, style) : ScalarText × Range × ScalarStyle :=
    match token with
    | .blockScalar o i ps src =>
      let (st, stop) := blockScalarText atRoot o i ps src
      let folded := match blockHeader o ps with
        | (some h, _) => h.folded
        | (none, _) => false
      (st, ⟨o, stop, stop⟩, if folded then .folded else .literal)
    | .flowScalar k o _ src fin =>
      let (st, style) := match k with
        | .singleQuotedScalar => (singleQuotedText o src, ScalarStyle.singleQuoted)
        | .doubleQuotedScalar => (doubleQuotedText o src, .doubleQuoted)
        | _ => (plainText o src, .plain)
      let valueEnd := o + src.length
      let (stop, endErrs) := endOf true fin valueEnd
      ({ st with errors := st.errors ++ endErrs, comment := trailingComment fin }, ⟨o, valueEnd, stop⟩, style)
    | other => ({ value := [] }, ⟨other.offset, other.offset, other.offset⟩, .plain)
  let (tagName, tagErrs) := match tag with
    | some t => resolveTagName handles t
    | none => (none, [])
  let tagName := tagName.filter (!·.isEmpty)
  let (read, problem) := readScalar v atKey (style == .plain) tagName st.value
  let (a, b) := match tag with
    | some t => (t.offset, t.offset + t.source.length)
    | none => token.span
  let readErrs := match problem with
    | some (warning, msg) => [⟨a, b, warning, msg⟩]
    | none => []
  let form : ScalarForm := ⟨st.value, style, read.format, read.minFractionDigits⟩
  (.scalar read.value form { tag := tagName, comment := st.comment } range, st.errors ++ tagErrs ++ readErrs,
    st.fatal)

/-- The name an anchor token gives. -/
def anchorName (t : SourceToken) : Text := t.source.drop 1

/-- Composes a scalar node and records its errors. -/
def composeScalar (token : Cst) (tag : Option SourceToken) : ComposeM Node := do
  let c ← get
  let (node, errs, fatal) := scalarNode c.version c.atKey c.handles c.atRoot token tag
  reportAll errs
  reportFatal fatal
  pure node

/-- An empty node: an empty plain scalar with the properties given, placed after the tokens
before it.  A comment before it is its own, and its range ends after that comment. -/
def composeEmptyNode (offset : Nat) (before : List SourceToken) (pos : Option Nat) (p : Props) :
    ComposeM Node := do
  let pos := emptyScalarPosition offset before pos
  let node ← composeScalar (.flowScalar .scalar pos 0 [] none) p.tag
  let node := node.withAnchor (p.anchor.map anchorName)
  match p.anchor with
  | some a => if (anchorName a).isEmpty then report (YamlError.onToken a "Anchor cannot be an empty string")
  | none => pure ()
  let node := if p.spaceBefore then node.modifyProps fun q => { q with spaceBefore := true } else node
  if p.comment.isEmpty then pure node
  else pure ((node.modifyProps fun q => { q with comment := p.comment }).modifyRange fun r => { r with stop := p.stop })

/-- An alias node and its errors. -/
def aliasNode (o : Nat) (src : Text) (fin : Option (List SourceToken)) : Node × List YamlError :=
  let name := src.drop 1
  let errs := if name.isEmpty then [YamlError.atOffset o "Alias cannot be an empty string"] else []
  let valueEnd := o + src.length
  let (stop, endErrs) := endOf true fin valueEnd
  (.aliasRef name { comment := trailingComment fin } ⟨o, valueEnd, stop⟩, errs ++ endErrs)

/-- Appends a comment to a node's comment, on a new line if it has one. -/
def addComment (n : Node) (c : Text) : Node :=
  if c.isEmpty then n
  else n.modifyProps fun p => { p with comment := if p.comment.isEmpty then c else p.comment ++ [0x0A] ++ c }

/-- Appends a comment to a collection's own comment. -/
def joinComment (mine c : Text) : Text :=
  if c.isEmpty then mine else if mine.isEmpty then c else mine ++ [0x0A] ++ c

/-- The message for items of a block mapping out of line. -/
def startColMsg : String := "All mapping items must start at the same column"

/-- The message for a block collection inside a flow collection. -/
def blockInFlowMsg : String := "Block collections are not allowed within flow collections"

/-- Whether a map already has a key. -/
def hasKey (pairs : Array (Node × Option Node)) (key : Node) : Bool := pairs.any (·.1.sameKey key)

/-- The kind a tag makes a collection, and the warning or nothing. -/
def collectionKind (tagName : Option Text) (isMap : Bool) : CollectionKind :=
  match tagName with
  | none => .plain
  | some name =>
    if name == yamlTag "set" && isMap then .set
    else if name == yamlTag "omap" && !isMap then .orderedMap
    else if name == yamlTag "pairs" && !isMap then .pairs
    else .plain

/-- The message for a flow collection without its closing bracket. -/
def flowEndMsg (isMap atRoot : Bool) : String :=
  let name := if isMap then "Flow map" else "Flow sequence"
  let bracket := if isMap then "\x7d" else "]"
  if atRoot then name ++ " must end with a " ++ bracket
  else name ++ " in block collection must be sufficiently indented and end with a " ++ bracket

/-- The keys of the pairs a sequence tagged as pairs holds: a mapping item gives its first key
(a null one if it is empty), any other item is a key itself. -/
def pairKeys (items : List Node) : List Node :=
  items.map fun n =>
    match n with
    | .map ((k, _) :: _) .. => k
    | .map [] _ _ r => Node.emptyAt r
    | n => n

/-- The checks a collection tag makes of the collection it tags: a set has only null values; each
item of ordered-map or pairs sequences is one pair, and an ordered map has no key twice. -/
def checkKind (tag : SourceToken) (node : Node) : ComposeM Unit :=
  match node with
  | .map pairs .set _ _ =>
    let isNull (v : Option Node) : Bool :=
      match v with
      | none => true
      | some (.scalar .null _ p _) => p.comment.isEmpty && p.commentBefore.isEmpty && p.tag.isNone
      | _ => false
    if pairs.all (isNull ·.2) then pure ()
    else report (YamlError.onToken tag "Set items must all have null values")
  | .seq items kind _ _ =>
    if kind == .orderedMap || kind == .pairs then do
      for n in items do
        match n with
        | .map (_ :: _ :: _) .. => report (YamlError.onToken tag "Each pair must have its own sequence indicator")
        | _ => pure ()
      if kind == .orderedMap then
        let step (seen : List ScalarValue) (k : Node) : ComposeM (List ScalarValue) :=
          match k with
          | .scalar v .. =>
            if seen.any (·.sameValueZero v) then do
              report ⟨tag.offset, tag.offset + tag.source.length, false,
                Text.ofString "Ordered maps must not include duplicate keys: " ++ v.display⟩
              pure seen
            else pure (seen ++ [v])
          | _ => pure seen
        let _ ← (pairKeys items).foldlM step []
        pure ()
    else pure ()
  | _ => pure ()

/-- The state of a block or flow collection being composed. -/
structure CollState where
  pairs : Array (Node × Option Node) := #[]
  items : Array Node := #[]
  offset : Nat
  commentEnd : Option Nat := none
  comment : Text := []

/-- The text of the comment that follows an item's comma, before anything but spaces: the first
comment among the item's leading tokens if only commas and spaces come before it. -/
def commaComment : List SourceToken → Text
  | [] => []
  | t :: rest =>
    if t.kind == .comma || t.kind == .space then commaComment rest
    else if t.kind == .comment then t.source.drop 1
    else []

/-- Moves the comment that follows an item's comma to the item before it (to a pair's value, or
its key when it has none), and drops it from the item's own comment. -/
def movePreviousComment (st : CollState) (p : Props) (start : List SourceToken) : CollState × Props :=
  let c := commaComment start
  if c.isEmpty then (st, p)
  else
    let p := { p with comment := p.comment.drop (c.length + 1) }
    if st.items.size > 0 then
      let last := st.items.size - 1
      ({ st with items := st.items.modify last (addComment · c) }, p)
    else if st.pairs.size > 0 then
      let last := st.pairs.size - 1
      ({ st with pairs := st.pairs.modify last fun (k, v) =>
          match v with
          | some vn => (k, some (addComment vn c))
          | none => (addComment k c, none) }, p)
    else (st, p)

mutual

/-- Composes a node from its syntax and properties.  The properties' comment is the node's comment
before it, or its own comment when the node is an empty plain scalar. -/
def composeNode : Nat → Cst → Props → ComposeM Node
  | 0, token, p => composeEmptyNode token.offset [] none p
  | fuel + 1, token, p => do
    let node ← match token with
      | .flowScalar .aliasRef o _ src fin => do
        let (n, errs) := aliasNode o src fin
        reportAll errs
        if p.anchor.isSome || p.tag.isSome then
          report (token.errorAt (Text.ofString "An alias node must not specify any properties"))
        pure n
      | .flowScalar .. | .blockScalar .. => do
        let n ← composeScalar token p.tag
        pure (n.withAnchor (p.anchor.map anchorName))
      | .blockMap .. | .blockSeq .. | .flowCollection .. => do
        let n ← composeCollection fuel token p
        pure (n.withAnchor (p.anchor.map anchorName))
      | other => do
        let msg := match other with
          | .error _ m _ => m
          | _ => Text.ofString ("Unsupported token (type: " ++ other.kindName ++ ")")
        report (other.errorAt msg)
        composeEmptyNode other.offset [] none p
    match p.anchor with
    | some a => if node.anchor? == some [] then report (YamlError.onToken a "Anchor cannot be an empty string")
    | none => pure ()
    let node := if p.spaceBefore then node.modifyProps fun q => { q with spaceBefore := true } else node
    let emptyPlain := match token with
      | .flowScalar .scalar _ _ src _ => src.isEmpty
      | _ => false
    if p.comment.isEmpty then pure node
    else if emptyPlain then pure (node.modifyProps fun q => { q with comment := p.comment })
    else pure (node.modifyProps fun q => { q with commentBefore := p.comment })

/-- Composes a collection: its tag decides what kind it is, and is kept on it (the non-specific
tag `!` as the mapping or sequence tag). -/
def composeCollection : Nat → Cst → Props → ComposeM Node
  | 0, token, p => composeEmptyNode token.offset [] none p
  | fuel + 1, token, p => do
    let c ← get
    let tagName ← match p.tag with
      | some t => do
        let (n, errs) := resolveTagName c.handles t
        reportAll errs
        pure n
      | none => pure none
    if token.isBlockSeq then
      let lastProp := match p.anchor, p.tag with
        | some a, some t => some (if a.offset > t.offset then a else t)
        | some a, none => some a
        | none, t => t
      match lastProp with
      | some lp =>
        let missing := match p.newlineAfterProp with
          | none => true
          | some nl => nl.offset < lp.offset
        if missing then report (YamlError.onToken lp "Missing newline after block sequence props")
      | none => pure ()
    let isMap := match token with
      | .blockMap .. => true
      | .flowCollection _ _ start _ _ => start.source == [0x7B]
      | _ => false
    let kind := if p.tag.isSome then collectionKind tagName isMap else .plain
    let node ← match token with
      | .blockMap o ind items => blockMap fuel o ind items kind
      | .blockSeq o ind items => blockSeq fuel o ind items kind
      | .flowCollection o ind start items finish => flowCollection fuel o ind start items finish kind
      | other => composeEmptyNode other.offset [] none p
    let collTag := match tagName with
      | some [0x21] => some (yamlTag (if isMap then "map" else "seq"))
      | some [] => none
      | t => t
    let node := match collTag with
      | some _ => node.modifyProps fun q => { q with tag := collTag }
      | none => node
    match p.tag with
    | some t => checkKind t node
    | none => pure ()
    pure node

/-- Composes a block mapping. -/
def blockMap : Nat → Nat → Nat → List (Item Cst) → CollectionKind → ComposeM Node
  | 0, o, _, _, kind => pure (.map [] kind {} ⟨o, o, o⟩)
  | fuel + 1, o, ind, items, kind => do
    modify fun c => { c with atRoot := false }
    let st ← blockMapItems fuel ind items { offset := o }
    match st.commentEnd with
    | some ce => if ce != 0 && ce < st.offset then
        report (YamlError.atOffset ce "Map comment with trailing content")
    | none => pure ()
    pure (.map st.pairs.toList kind { comment := st.comment } ⟨o, st.offset, st.commentEnd.getD st.offset⟩)

/-- Composes the entries of a block mapping. -/
def blockMapItems : Nat → Nat → List (Item Cst) → CollState → ComposeM CollState
  | 0, _, _, st => pure st
  | _, _, [], st => pure st
  | fuel + 1, ind, it :: rest, st => do
    let keyProps ← props it.start none .explicitKeyInd (Following.ofKey it.key it.sep) st.offset ind true
    let implicitKey := keyProps.found.isNone
    if implicitKey then
      match it.key with
      | some key =>
        if key.isBlockSeq then
          report (YamlError.atOffset st.offset "A block sequence may not be used as an implicit map key")
        else
          match key.indent? with
          | some i => if i != ind then report (YamlError.atOffset st.offset startColMsg)
          | none => pure ()
      | none => pure ()
    if implicitKey && keyProps.anchor.isNone && keyProps.tag.isNone && it.sep.isNone then
      blockMapItems fuel ind rest
        { st with commentEnd := some keyProps.stop, comment := joinComment st.comment keyProps.comment }
    else
      if implicitKey then
        if keyProps.newlineAfterProp.isSome || containsNewline (fuel + 1) it.key then
          let msg := "Implicit keys need to be on a single line"
          match it.key, it.start.getLast? with
          | some k, _ => report (k.errorAt (Text.ofString msg))
          | none, some t => report (YamlError.onToken t msg)
          | none, none => pure ()
      else if (keyProps.found.map (·.indent)) != some ind then
        report (YamlError.atOffset st.offset startColMsg)
      let keyStart := keyProps.stop
      modify fun c => { c with atKey := true }
      let keyNode ← match it.key with
        | some k => composeNode fuel k keyProps
        | none => composeEmptyNode keyStart it.start none keyProps
      modify fun c => { c with atKey := false }
      if hasKey st.pairs keyNode then report (YamlError.atOffset keyStart "Map keys must be unique")
      let startOnNewline := match it.key with
        | none => true
        | some k => k.isBlockScalar
      let valueProps ← props (it.sep.getD []) none .mapValueInd (Following.ofNode it.value)
        keyNode.range.stop ind startOnNewline
      let offset := valueProps.stop
      match valueProps.found with
      | some f => do
        if implicitKey then
          if (it.value.map Cst.isBlockMap).getD false && !valueProps.hasNewline then
            report (YamlError.atOffset offset "Nested mappings are not allowed in compact mappings")
          if keyProps.start + 1024 < f.offset then
            report (YamlError.onRange keyNode.range
              "The : indicator must be at most 1024 chars after the start of an implicit block mapping key")
        let valueNode ← match it.value with
          | some v => composeNode fuel v valueProps
          | none => composeEmptyNode offset (it.sep.getD []) none valueProps
        blockMapItems fuel ind rest
          { st with pairs := st.pairs.push (keyNode, some valueNode), offset := valueNode.range.stop }
      | none => do
        if implicitKey then
          report (YamlError.onRange keyNode.range "Implicit map keys need to be followed by map values")
        let keyNode := addComment keyNode valueProps.comment
        blockMapItems fuel ind rest { st with pairs := st.pairs.push (keyNode, none), offset }

/-- Composes a block sequence. -/
def blockSeq : Nat → Nat → Nat → List (Item Cst) → CollectionKind → ComposeM Node
  | 0, o, _, _, kind => pure (.seq [] kind {} ⟨o, o, o⟩)
  | fuel + 1, o, ind, items, kind => do
    modify fun c => { c with atRoot := false }
    let st ← blockSeqItems fuel ind items { offset := o }
    pure (.seq st.items.toList kind { comment := st.comment } ⟨o, st.offset, st.commentEnd.getD st.offset⟩)

/-- Composes the entries of a block sequence. -/
def blockSeqItems : Nat → Nat → List (Item Cst) → CollState → ComposeM CollState
  | 0, _, _, st => pure st
  | _, _, [], st => pure st
  | fuel + 1, ind, it :: rest, st => do
    let p ← props it.start none .seqItemInd (Following.ofNode it.value) st.offset ind true
    if p.found.isNone && p.anchor.isNone && p.tag.isNone && it.value.isNone then
      blockSeqItems fuel ind rest
        { st with commentEnd := some p.stop, comment := if p.comment.isEmpty then st.comment else p.comment }
    else
      if p.found.isNone then
        if (it.value.map Cst.isBlockSeq).getD false then
          report (YamlError.atOffset p.stop "All sequence items must start at the same column")
        else report (YamlError.atOffset st.offset "Sequence item without - indicator")
      let node ← match it.value with
        | some v => composeNode fuel v p
        | none => composeEmptyNode p.stop it.start none p
      blockSeqItems fuel ind rest { st with items := st.items.push node, offset := node.range.stop }

/-- Composes a flow collection.  Its items are never keys themselves, whatever it stands in. -/
def flowCollection : Nat → Nat → Nat → SourceToken → List (Item Cst) → List SourceToken → CollectionKind →
    ComposeM Node
  | 0, o, _, _, _, _, kind => pure (.seq [] kind {} ⟨o, o, o⟩)
  | fuel + 1, o, ind, start, items, finish, kind => do
    let isMap := start.source == [0x7B]
    let atRoot := (← get).atRoot
    modify fun c => { c with atRoot := false, atKey := false }
    let st ← flowItems fuel isMap ind items.length 0 items { offset := o + start.source.length }
    let expected : Text := if isMap then [0x7D] else [0x5D]
    let (cePos, rest) ← match finish with
      | ce :: ee =>
        if ce.source == expected then pure (ce.offset + ce.source.length, ee)
        else do
          report (YamlError.atOffset st.offset (flowEndMsg isMap atRoot))
          pure (st.offset, if ce.source.length != 1 then ce :: ee else ee)
      | [] => do
        report (YamlError.atOffset st.offset (flowEndMsg isMap atRoot))
        pure (st.offset, [])
    let (stop, comment) ← if rest.isEmpty then pure (cePos, st.comment)
      else do
        let (stop, errs) := endOf true (some rest) cePos
        reportAll errs
        pure (stop, joinComment st.comment (trailingComment (some rest)))
    let range : Range := ⟨o, cePos, stop⟩
    if isMap then pure (.map st.pairs.toList kind { comment } range)
    else pure (.seq st.items.toList kind { comment } range)

/-- Composes the entries of a flow collection; `i` counts them. -/
def flowItems : Nat → Bool → Nat → Nat → Nat → List (Item Cst) → CollState → ComposeM CollState
  | 0, _, _, _, _, _, st => pure st
  | _, _, _, _, _, [], st => pure st
  | fuel + 1, isMap, ind, total, i, it :: rest, st => do
    let name := if isMap then "flow map" else "flow sequence"
    let p ← props it.start (some name) .explicitKeyInd (Following.ofKey it.key it.sep) st.offset ind false
    if p.found.isNone && p.anchor.isNone && p.tag.isNone && it.sep.isNone && it.value.isNone then
      match p.comma with
      | some c =>
        if i == 0 then report (YamlError.onToken c ("Unexpected , in " ++ name))
        else if i + 1 < total then report (YamlError.atOffset p.start ("Unexpected empty item in " ++ name))
      | none =>
        if i + 1 < total then report (YamlError.atOffset p.start ("Unexpected empty item in " ++ name))
      flowItems fuel isMap ind total (i + 1) rest
        { st with offset := p.stop, comment := joinComment st.comment p.comment }
    else
      if p.found.isNone && !isMap && containsNewline (fuel + 1) it.key then
        match it.key with
        | some k => report (k.errorAt (Text.ofString "Implicit keys of flow sequence pairs need to be on a single line"))
        | none => pure ()
      if i == 0 then
        match p.comma with
        | some c => report (YamlError.onToken c ("Unexpected , in " ++ name))
        | none => pure ()
      else if p.comma.isNone then
        report (YamlError.atOffset p.start ("Missing , between " ++ name ++ " items"))
      -- a comment right after the comma belongs to the item before
      let (st, p) := if i == 0 || p.comment.isEmpty then (st, p) else movePreviousComment st p it.start
      if !isMap && it.sep.isNone && p.found.isNone then
        let valueNode ← match it.value with
          | some v => composeNode fuel v p
          | none => composeEmptyNode p.stop [] none p
        if (it.value.map Cst.isBlockCollection).getD false then
          report (YamlError.onRange valueNode.range blockInFlowMsg)
        flowItems fuel isMap ind total (i + 1) rest
          { st with items := st.items.push valueNode, offset := valueNode.range.stop }
      else
        let keyStart := p.stop
        modify fun c => { c with atKey := true }
        let keyNode ← match it.key with
          | some k => composeNode fuel k p
          | none => composeEmptyNode keyStart it.start none p
        modify fun c => { c with atKey := false }
        if (it.key.map Cst.isBlockCollection).getD false then
          report (YamlError.onRange keyNode.range blockInFlowMsg)
        let sep := it.sep.getD []
        let vp ← props sep (some name) .mapValueInd (Following.ofNode it.value) keyNode.range.stop ind false
        match vp.found, it.value with
        | some f, _ =>
          if !isMap && p.found.isNone then
            match (sep.takeWhile (·.offset != f.offset)).find? (·.kind == .newline) with
            | some nl => report (YamlError.onToken nl "Implicit keys of flow sequence pairs need to be on a single line")
            | none => pure ()
            if p.start + 1024 < f.offset then
              report (YamlError.onToken f
                "The : indicator must be at most 1024 chars after the start of an implicit flow sequence key")
        | none, some v =>
          if ((v.source?.bind List.head?) == some 0x3A) then
            report (v.errorAt (Text.ofString ("Missing space after : in " ++ name)))
          else report (YamlError.atOffset vp.start ("Missing , or : between " ++ name ++ " items"))
        | none, none => pure ()
        let valueNode ← match it.value with
          | some v => some <$> composeNode fuel v vp
          | none => if vp.found.isSome then some <$> composeEmptyNode vp.stop sep none vp else pure none
        match valueNode with
        | some vn =>
          if (it.value.map Cst.isBlockCollection).getD false then
            report (YamlError.onRange vn.range blockInFlowMsg)
        | none => pure ()
        let keyNode := match valueNode with
          | some _ => keyNode
          | none => addComment keyNode vp.comment
        let offset := match valueNode with
          | some vn => vn.range.stop
          | none => vp.stop
        if isMap then
          if hasKey st.pairs keyNode then report (YamlError.atOffset keyStart "Map keys must be unique")
          flowItems fuel isMap ind total (i + 1) rest
            { st with pairs := st.pairs.push (keyNode, valueNode), offset }
        else
          let endRange := (valueNode.getD keyNode).range
          let pair : Node := .map [(keyNode, valueNode)] .plain {}
            ⟨keyNode.range.start, endRange.valueEnd, endRange.stop⟩
          flowItems fuel isMap ind total (i + 1) rest { st with items := st.items.push pair, offset }

end

end Yaml

end LogRouter
