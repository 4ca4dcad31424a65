import LogRouter.Yaml.Cst

/-!
YAML parsing: from lexemes to concrete syntax trees.

The parser keeps a stack of open nodes (a document, collections, a scalar whose line is not done)
and feeds each source token to the node on top.  The node takes the token when it can (a block
map takes keys, values and properties at or past its indentation; a flow collection takes
everything up to its closing bracket); otherwise the node is closed, handed to the node below it,
and the token is offered again.  A `:` after an inline node turns that node into the first key of
a new block map.  A closed node with nothing below it is emitted.

Errors are not raised here: a token no node can take becomes an error node in the tree or in the
output, for the composer to report with its position.
-/

namespace LogRouter

namespace Yaml

/-- The parser's state: the stack of open nodes (top first), where the current token stands, and
the nodes emitted so far. -/
structure Parser where
  stack : List Cst := []
  atNewLine : Bool := true
  atScalar : Bool := false
  indent : Nat := 0
  offset : Nat := 0
  onKeyLine : Bool := false
  source : Text := []
  kind : TokenKind := .newline
  out : Array Cst := #[]
deriving Inhabited

/-- Replaces the last item of a list of items. -/
def setLastItem (items : List (Item Cst)) (it : Item Cst) : List (Item Cst) := items.dropLast ++ [it]

/-- Splits the tokens before a key: the part up to the last indicator or line break (and the
spaces after it) stays, the rest belongs to the new key. -/
def splitKeyStart (prev : List SourceToken) : List SourceToken × List SourceToken :=
  let isBreak (t : SourceToken) : Bool :=
    t.kind == .docStart || t.kind == .explicitKeyInd || t.kind == .mapValueInd ||
      t.kind == .seqItemInd || t.kind == .newline
  let cut := match (prev.zipIdx.filter (isBreak ·.1)).getLast? with
    | some (_, i) => i + 1
    | none => 0
  let cut := cut + ((prev.drop cut).takeWhile (·.kind == .space)).length
  (prev.take cut, prev.drop cut)

/-- Takes from a node the tokens that start the key of a new map inside it: from a document's
leading tokens, or the last item of a block collection. -/
def takeKeyStart (parent : Cst) : Cst × List SourceToken :=
  match parent with
  | .document o start v f =>
    let (keep, moved) := splitKeyStart start
    (.document o keep v f, moved)
  | .blockMap o i items =>
    match items.getLast? with
    | some it =>
      match it.sep with
      | some sep =>
        let (keep, moved) := splitKeyStart sep
        (.blockMap o i (setLastItem items { it with sep := some keep }), moved)
      | none =>
        let (keep, moved) := splitKeyStart it.start
        (.blockMap o i (setLastItem items { it with start := keep }), moved)
    | none => (parent, [])
  | .blockSeq o i items =>
    match items.getLast? with
    | some it =>
      let (keep, moved) := splitKeyStart it.start
      (.blockSeq o i (setLastItem items { it with start := keep }), moved)
    | none => (parent, [])
  | _ => (parent, [])

/-- In a flow sequence, an item that has a key but no `:` is a plain entry: its key becomes its
value and the tokens after it follow the value. -/
def fixFlowSeqItems : Cst → Cst
  | .flowCollection o i start items f =>
    if start.kind == .flowSeqStart then
      let fix (it : Item Cst) : Item Cst :=
        match it.sep with
        | some sep =>
          if it.value.isNone && !hasKind it.start .explicitKeyInd && !hasKind sep .mapValueInd then
            match it.key with
            | some v =>
              if v.isFlowToken then { it with key := none, sep := none, value := some (v.appendFinish sep) }
              else { it with key := none, sep := none, value := some v, start := it.start ++ sep }
            | none => { it with key := none, sep := none, start := it.start ++ sep }
          else it
        | none => it
      .flowCollection o i start (items.map fix) f
    else .flowCollection o i start items f
  | c => c

/-- A block collection whose last item holds only blank lines and comments less indented than it
gives that item up: the tokens go to the node that holds the collection. -/
def trailingEmpty (token : Cst) : Cst × Option (List SourceToken) :=
  let check (indent : Nat) (items : List (Item Cst)) : Option (List (Item Cst) × List SourceToken) :=
    match items.getLast? with
    | some last =>
      if last.sep.isNone && last.value.isNone && !last.start.isEmpty && !hasContent last.start &&
          (indent == 0 || last.start.all (fun st => st.kind != .comment || st.indent < indent)) then
        some (items.dropLast, last.start)
      else none
    | none => none
  match token with
  | .blockMap o i items =>
    match check i items with
    | some (items, moved) => (.blockMap o i items, some moved)
    | none => (token, none)
  | .blockSeq o i items =>
    match check i items with
    | some (items, moved) => (.blockSeq o i items, some moved)
    | none => (token, none)
  | _ => (token, none)

/-- What a step of the parser leaves: done, or the top node must be closed and the token offered
again. -/
inductive Outcome where
  | done (p : Parser)
  | again (p : Parser)

namespace Parser

/-- The current token as a source token. -/
def tok (p : Parser) : SourceToken := ⟨p.kind, p.offset, p.indent, p.source⟩

/-- The current token as an inline scalar or alias node. -/
def flowScalar (p : Parser) : Cst := .flowScalar p.kind p.offset p.indent p.source none

/-- Emits a node. -/
def yield (p : Parser) (c : Cst) : Parser := { p with out := p.out.push c }

/-- An error node at the current token. -/
def errorHere (p : Parser) (message : String) : Cst := .error p.offset (Text.ofString message) p.source

/-- Replaces the top of the stack. -/
def setTop (p : Parser) (c : Cst) : Parser := { p with stack := c :: p.stack.drop 1 }

/-- Closes the top node (or takes `error` as the node to close) and hands it to the node below,
or emits it when the stack is empty. -/
def pop (p : Parser) (error : Option Cst) : Parser :=
  let (token?, stack) : Option Cst × List Cst :=
    match error with
    | some e => (some e, p.stack)
    | none =>
      match p.stack with
      | t :: rest => (some t, rest)
      | [] => (none, [])
  match token? with
  | none => p.yield (p.errorHere "Tried to pop an empty stack")
  | some token =>
    match stack with
    | [] => { p with stack := [], out := p.out.push token }
    | top :: rest =>
      let token := match token, top with
        | .blockScalar o _ props src, _ => .blockScalar o (top.indent?.getD 0) props src
        | .flowCollection o _ s items f, .document .. => .flowCollection o 0 s items f
        | t, _ => t
      let token := fixFlowSeqItems token
      match top with
      | .document o start _ f =>
        let (token, moved) := trailingEmpty token
        let f := match moved with
          | some m => some m
          | none => f
        { p with stack := .document o start (some token) f :: rest }
      | .blockMap o i items =>
        let it := items.getLast?.getD {}
        if it.value.isSome then
          { p with stack := .blockMap o i (items ++ [{ key := some token, sep := some [] }]) :: rest, onKeyLine := true }
        else if it.sep.isSome then
          let (token, moved) := trailingEmpty token
          let items := setLastItem items { it with value := some token }
          let items := match moved with
            | some m => items ++ [{ start := m }]
            | none => items
          { p with stack := .blockMap o i items :: rest }
        else
          { p with stack := .blockMap o i (setLastItem items { it with key := some token, sep := some [] }) :: rest,
                   onKeyLine := !it.explicitKey }
      | .blockSeq o i items =>
        let (token, moved) := trailingEmpty token
        let items := match items.getLast? with
          | some it => if it.value.isSome then items ++ [{ value := some token }] else setLastItem items { it with value := some token }
          | none => [{ value := some token }]
        let items := match moved with
          | some m => items ++ [{ start := m }]
          | none => items
        { p with stack := .blockSeq o i items :: rest }
      | .flowCollection o i s items f =>
        let items := match items.getLast? with
          | none => items ++ [{ key := some token, sep := some [] }]
          | some it =>
            if it.value.isSome then items ++ [{ key := some token, sep := some [] }]
            else if it.sep.isSome then setLastItem items { it with value := some token }
            else setLastItem items { it with key := some token, sep := some [] }
        { p with stack := .flowCollection o i s items f :: rest }
      | _ => { p with stack := top :: rest, out := p.out.push token }

/-- Closes every open node. -/
def popAll : Nat → Parser → Parser
  | 0, p => p
  | fuel + 1, p => if p.stack.isEmpty then p else popAll fuel (p.pop none)

/-- The node that a token starts inside `parent`, if it starts one; an explicit key or a `:` takes
the key's leading tokens from the parent. -/
def startBlockValue (p : Parser) (parent : Cst) : Parser × Cst × Option Cst :=
  match p.kind with
  | .aliasRef | .scalar | .singleQuotedScalar | .doubleQuotedScalar => (p, parent, some p.flowScalar)
  | .blockScalarHeader => (p, parent, some (.blockScalar p.offset p.indent [p.tok] []))
  | .flowMapStart | .flowSeqStart => (p, parent, some (.flowCollection p.offset p.indent p.tok [] []))
  | .seqItemInd => (p, parent, some (.blockSeq p.offset p.indent [{ start := [p.tok] }]))
  | .explicitKeyInd =>
    let (parent, start) := takeKeyStart parent
    ({ p with onKeyLine := true }, parent,
      some (.blockMap p.offset p.indent [{ start := start ++ [p.tok], explicitKey := true }]))
  | .mapValueInd =>
    let (parent, start) := takeKeyStart parent
    ({ p with onKeyLine := true }, parent, some (.blockMap p.offset p.indent [{ start, sep := some [p.tok] }]))
  | _ => (p, parent, none)

/-- The end of a line after a document, flow collection or scalar: separators close it, other
tokens follow it, and a line break closes it after following it. -/
def lineEnd (p : Parser) (top : Cst) : Outcome :=
  match p.kind with
  | .comma | .docStart | .docEnd | .flowSeqEnd | .flowMapEnd | .mapValueInd => .again p
  | k =>
    let p := if k == .newline then { p with onKeyLine := false } else p
    let p := p.setTop (top.appendFinish [p.tok])
    if k == .newline then .done (p.pop none) else .done p

/-- A token with no node open: stream-level tokens, or the start of a document. -/
def atStream (p : Parser) : Outcome :=
  match p.kind with
  | .directiveLine => .done (p.yield (.directive p.offset p.source))
  | .byteOrderMark | .space | .comment | .newline => .done (p.yield (.bare p.tok))
  | .docMode => .done { p with stack := [.document p.offset [] none none] }
  | .docStart => .done { p with stack := [.document p.offset [p.tok] none none] }
  | k => .done (p.yield (p.errorHere ("Unexpected " ++ k.name ++ " token in YAML stream")))

/-- A token inside a document. -/
def atDocument (p : Parser) (o : Nat) (start : List SourceToken) (value : Option Cst)
    (f : Option (List SourceToken)) (rest : List Cst) : Outcome :=
  if value.isSome then p.lineEnd (.document o start value f)
  else
    match p.kind with
    | .docStart =>
      if hasContent start then .again p
      else .done (p.setTop (.document o (start ++ [p.tok]) none f))
    | .anchor | .tag | .space | .comment | .newline => .done (p.setTop (.document o (start ++ [p.tok]) none f))
    | k =>
      let (p, parent, bv) := p.startBlockValue (.document o start none f)
      match bv with
      | some bv => .done { p with stack := bv :: parent :: rest }
      | none => .done ((p.setTop parent).yield (p.errorHere ("Unexpected " ++ k.name ++ " token in YAML document")))

/-- A token after an inline scalar: `:` makes the scalar a key, anything else ends its line. -/
def atScalarTop (p : Parser) (top : Cst) (rest : List Cst) : Outcome :=
  match p.kind, top, rest with
  | .mapValueInd, .flowScalar k o i s f, parent :: rest' =>
    let (parent, start) := takeKeyStart parent
    let map := Cst.blockMap o i [{ start, key := some (.flowScalar k o i s none), sep := some (f.getD [] ++ [p.tok]) }]
    .done { p with onKeyLine := true, stack := map :: parent :: rest' }
  | _, _, _ => p.lineEnd top

/-- A token after a block scalar header: its blanks and comment, then its text. -/
def atBlockScalar (p : Parser) (o i : Nat) (props : List SourceToken) (src : Text) : Outcome :=
  match p.kind with
  | .space | .comment | .newline => .done (p.setTop (.blockScalar o i (props ++ [p.tok]) src))
  | .scalar =>
    let p := { p.setTop (.blockScalar o i props p.source) with atNewLine := true, indent := 0 }
    .done (p.pop none)
  | _ => .again p

/-- Whether the current token is a comment indented past `indent` after blank tokens only. -/
def atIndentedComment (p : Parser) (start : List SourceToken) (indent : Nat) : Bool :=
  p.kind == .comment && p.indent > indent && start.all (fun st => st.kind == .newline || st.kind == .space)

/-- A line break or comment after the value of the last item goes after that value when the value
already ends in a comment; otherwise it starts a new item. -/
def afterValue (p : Parser) (items : List (Item Cst)) (it : Item Cst) (v : Cst) : List (Item Cst) :=
  match v.finish? with
  | some fin =>
    if (fin.getLast?.map (·.kind)) == some .comment then setLastItem items { it with value := some (v.appendFinish [p.tok]) }
    else items ++ [{ start := [p.tok] }]
  | none => items ++ [{ start := [p.tok] }]

/-- An indented comment after an item with only blank tokens joins the end of the value before. -/
def joinComment? (p : Parser) (items : List (Item Cst)) (it : Item Cst) : Option (List (Item Cst)) :=
  match items.reverse with
  | _ :: prev :: _ =>
    match prev.value with
    | some v =>
      match v.finish? with
      | some _ =>
        let prev' := { prev with value := some (v.appendFinish (it.start ++ [p.tok])) }
        some (setLastItem items.dropLast prev')
      | none => none
    | none => none
  | _ => none

/-- The tokens of an item's `sep` that belong to the next item: from the second line break after
which only blanks and less indented comments follow. -/
def splitNextItem (sep : List SourceToken) (indent : Nat) : List SourceToken × List SourceToken :=
  let nls := sep.zipIdx.foldl (fun (acc : List Nat) (st, i) =>
    match st.kind with
    | .newline => acc ++ [i]
    | .space => acc
    | .comment => if st.indent > indent then [] else acc
    | _ => []) []
  match nls with
  | _ :: second :: _ => (sep.take second, sep.drop second)
  | _ => (sep, [])

/-- A token inside a block map. -/
def atBlockMap (p : Parser) (o mi : Nat) (items : List (Item Cst)) (rest : List Cst) : Outcome :=
  let it := items.getLast?.getD {}
  let withItems (p : Parser) (items : List (Item Cst)) : Parser := { p with stack := .blockMap o mi items :: rest }
  match p.kind with
  | .newline =>
    let p := { p with onKeyLine := false }
    match it.value with
    | some v => .done (withItems p (p.afterValue items it v))
    | none =>
      match it.sep with
      | some sep => .done (withItems p (setLastItem items { it with sep := some (sep ++ [p.tok]) }))
      | none => .done (withItems p (setLastItem items { it with start := it.start ++ [p.tok] }))
  | .space | .comment =>
    if it.value.isSome then .done (withItems p (items ++ [{ start := [p.tok] }]))
    else match it.sep with
      | some sep => .done (withItems p (setLastItem items { it with sep := some (sep ++ [p.tok]) }))
      | none =>
        match (if p.atIndentedComment it.start mi then p.joinComment? items it else none) with
        | some items => .done (withItems p items)
        | none => .done (withItems p (setLastItem items { it with start := it.start ++ [p.tok] }))
  | kind =>
    if p.indent ≥ mi then
      let atMapIndent := !p.onKeyLine && p.indent == mi
      let atNextItem := atMapIndent && (it.sep.isSome || it.explicitKey) && kind != .seqItemInd
      let (it, start) : Item Cst × List SourceToken :=
        match it.sep with
        | some sep =>
          if atNextItem && it.value.isNone then
            let (keep, moved) := splitNextItem sep mi
            ({ it with sep := some keep }, moved)
          else (it, [])
        | none => (it, [])
      let items := setLastItem items it
      let pushMap (p : Parser) (first : Item Cst) : Parser :=
        { p with stack := .blockMap p.offset p.indent [first] :: .blockMap o mi items :: rest }
      match kind with
      | .anchor | .tag =>
        if atNextItem || it.value.isSome then
          .done { withItems p (items ++ [{ start := start ++ [p.tok] }]) with onKeyLine := true }
        else match it.sep with
          | some sep => .done (withItems p (setLastItem items { it with sep := some (sep ++ [p.tok]) }))
          | none => .done (withItems p (setLastItem items { it with start := it.start ++ [p.tok] }))
      | .explicitKeyInd =>
        let p := { p with onKeyLine := true }
        if it.sep.isNone && !it.explicitKey then
          .done (withItems p (setLastItem items { it with start := it.start ++ [p.tok], explicitKey := true }))
        else if atNextItem || it.value.isSome then
          .done (withItems p (items ++ [{ start := start ++ [p.tok], explicitKey := true }]))
        else .done (pushMap p { start := [p.tok], explicitKey := true })
      | .mapValueInd =>
        let p := { p with onKeyLine := true }
        if it.explicitKey then
          match it.sep with
          | none =>
            if hasKind it.start .newline then
              .done (withItems p (setLastItem items { it with key := none, sep := some [p.tok] }))
            else
              let (keep, moved) := splitKeyStart it.start
              let items := setLastItem items { it with start := keep }
              .done { p with stack := .blockMap p.offset p.indent [{ start := moved, sep := some [p.tok] }] :: .blockMap o mi items :: rest }
          | some sep =>
            if it.value.isSome then .done (withItems p (items ++ [{ sep := some [p.tok] }]))
            else if hasKind sep .mapValueInd then .done (pushMap p { start, sep := some [p.tok] })
            else if (it.key.map Cst.isFlowToken).getD false && !hasKind sep .newline then
              let (keep, moved) := splitKeyStart it.start
              let items := setLastItem items { start := keep, explicitKey := it.explicitKey }
              let inner := Cst.blockMap p.offset p.indent [{ start := moved, key := it.key, sep := some (sep ++ [p.tok]) }]
              .done { p with stack := inner :: .blockMap o mi items :: rest }
            else if !start.isEmpty then
              .done (withItems p (setLastItem items { it with sep := some (sep ++ start ++ [p.tok]) }))
            else .done (withItems p (setLastItem items { it with sep := some (sep ++ [p.tok]) }))
        else
          match it.sep with
          | none => .done (withItems p (setLastItem items { it with key := none, sep := some [p.tok] }))
          | some sep =>
            if it.value.isSome || atNextItem then .done (withItems p (items ++ [{ start, sep := some [p.tok] }]))
            else if hasKind sep .mapValueInd then .done (pushMap p { sep := some [p.tok] })
            else .done (withItems p (setLastItem items { it with sep := some (sep ++ [p.tok]) }))
      | .aliasRef | .scalar | .singleQuotedScalar | .doubleQuotedScalar =>
        let fs := p.flowScalar
        if atNextItem || it.value.isSome then
          .done { withItems p (items ++ [{ start, key := some fs, sep := some [] }]) with onKeyLine := true }
        else if it.sep.isSome then .done { p with stack := fs :: .blockMap o mi items :: rest }
        else .done { withItems p (setLastItem items { it with key := some fs, sep := some [] }) with onKeyLine := true }
      | _ =>
        let (p, parent, bv) := p.startBlockValue (.blockMap o mi items)
        match bv, parent with
        | some bv, .blockMap _ _ items =>
          match bv with
          | .blockSeq .. =>
            if !it.explicitKey && it.sep.isSome && !hasKind (it.sep.getD []) .newline then
              .done ((withItems p items).pop (some (p.errorHere "Unexpected block-seq-ind on same line with key")))
            else .done { p with stack := bv :: .blockMap o mi items :: rest }
          | _ =>
            let items := if atMapIndent then items ++ [{ start }] else items
            .done { p with stack := bv :: .blockMap o mi items :: rest }
        | _, _ => .again (withItems p items)
    else .again p

/-- A token inside a block sequence. -/
def atBlockSeq (p : Parser) (o si : Nat) (items : List (Item Cst)) (rest : List Cst) : Outcome :=
  let it := items.getLast?.getD {}
  let withItems (items : List (Item Cst)) : Parser := { p with stack := .blockSeq o si items :: rest }
  let fallback : Outcome :=
    if p.indent > si then
      let (p, parent, bv) := p.startBlockValue (.blockSeq o si items)
      match bv with
      | some bv => .done { p with stack := bv :: parent :: rest }
      | none => .again p
    else .again p
  match p.kind with
  | .newline =>
    match it.value with
    | some v => .done (withItems (p.afterValue items it v))
    | none => .done (withItems (setLastItem items { it with start := it.start ++ [p.tok] }))
  | .space | .comment =>
    if it.value.isSome then .done (withItems (items ++ [{ start := [p.tok] }]))
    else
      match (if p.atIndentedComment it.start si then p.joinComment? items it else none) with
      | some items => .done (withItems items)
      | none => .done (withItems (setLastItem items { it with start := it.start ++ [p.tok] }))
  | .anchor | .tag =>
    if it.value.isSome || p.indent ≤ si then fallback
    else .done (withItems (setLastItem items { it with start := it.start ++ [p.tok] }))
  | .seqItemInd =>
    if p.indent != si then fallback
    else if it.value.isSome || hasKind it.start .seqItemInd then .done (withItems (items ++ [{ start := [p.tok] }]))
    else .done (withItems (setLastItem items { it with start := it.start ++ [p.tok] }))
  | _ => fallback

/-- Closes flow collections on top of the stack, the top one and those below it. -/
def popFlows : Nat → Parser → Parser
  | 0, p => p
  | fuel + 1, p =>
    let p := p.pop none
    match p.stack with
    | .flowCollection .. :: _ => popFlows fuel p
    | _ => p

/-- A token inside a flow collection. -/
def atFlowCollection (p : Parser) (o fi : Nat) (s : SourceToken) (items : List (Item Cst))
    (f : List SourceToken) (rest : List Cst) : Outcome :=
  let top := Cst.flowCollection o fi s items f
  if p.kind == .flowErrorEnd then .done (popFlows (p.stack.length + 1) p)
  else if f.isEmpty then
    let withItems (items : List (Item Cst)) : Parser := { p with stack := .flowCollection o fi s items f :: rest }
    let it? := items.getLast?
    match p.kind with
    | .comma | .explicitKeyInd =>
      match it? with
      | some it => if it.sep.isSome then .done (withItems (items ++ [{ start := [p.tok] }]))
        else .done (withItems (setLastItem items { it with start := it.start ++ [p.tok] }))
      | none => .done (withItems (items ++ [{ start := [p.tok] }]))
    | .mapValueInd =>
      match it? with
      | some it =>
        if it.value.isSome then .done (withItems (items ++ [{ sep := some [p.tok] }]))
        else match it.sep with
          | some sep => .done (withItems (setLastItem items { it with sep := some (sep ++ [p.tok]) }))
          | none => .done (withItems (setLastItem items { it with key := none, sep := some [p.tok] }))
      | none => .done (withItems (items ++ [{ sep := some [p.tok] }]))
    | .space | .comment | .newline | .anchor | .tag =>
      match it? with
      | some it =>
        if it.value.isSome then .done (withItems (items ++ [{ start := [p.tok] }]))
        else match it.sep with
          | some sep => .done (withItems (setLastItem items { it with sep := some (sep ++ [p.tok]) }))
          | none => .done (withItems (setLastItem items { it with start := it.start ++ [p.tok] }))
      | none => .done (withItems (items ++ [{ start := [p.tok] }]))
    | .aliasRef | .scalar | .singleQuotedScalar | .doubleQuotedScalar =>
      let fs := p.flowScalar
      match it? with
      | some it =>
        if it.value.isSome then .done (withItems (items ++ [{ key := some fs, sep := some [] }]))
        else if it.sep.isSome then .done { p with stack := fs :: top :: rest }
        else .done (withItems (setLastItem items { it with key := some fs, sep := some [] }))
      | none => .done (withItems (items ++ [{ key := some fs, sep := some [] }]))
    | .flowMapEnd | .flowSeqEnd => .done { p with stack := .flowCollection o fi s items [p.tok] :: rest }
    | _ =>
      let (p, parent, bv) := p.startBlockValue top
      match bv with
      | some bv => .done { p with stack := bv :: parent :: rest }
      | none => .again p
  else
    match rest with
    | parent :: rest' =>
      let parentIsMap := match parent with
        | .blockMap .. => true
        | _ => false
      let parentIndent := parent.indent?.getD 0
      let parentLastSep := match parent with
        | .blockMap _ _ pitems => (pitems.getLast?.bind (·.sep)).isSome
        | _ => true
      let parentIsFlow := match parent with
        | .flowCollection .. => true
        | _ => false
      if parentIsMap && ((p.kind == .mapValueInd && parentIndent == fi) || (p.kind == .newline && !parentLastSep)) then
        .again p
      else if p.kind == .mapValueInd && !parentIsFlow then
        let (parent, start) := takeKeyStart parent
        let fixed := match fixFlowSeqItems top with
          | .flowCollection o' i' s' items' _ => Cst.flowCollection o' i' s' items' (f.take 1)
          | c => c
        let map := Cst.blockMap o fi [{ start, key := some fixed, sep := some (f.drop 1 ++ [p.tok]) }]
        .done { p with onKeyLine := true, stack := map :: parent :: rest' }
      else p.lineEnd top
    | [] => p.lineEnd top

/-- A token after a `...` marker: blanks and comments follow it, a line break closes it. -/
def atDocEnd (p : Parser) (o : Nat) (s : Text) (f : Option (List SourceToken)) : Outcome :=
  if p.kind == .docMode then .done p
  else
    let p := p.setTop (.docEnd o s (some (f.getD [] ++ [p.tok])))
    if p.kind == .newline then .done (p.pop none) else .done p

/-- Offers the current token to the node on top of the stack. -/
def dispatch (p : Parser) : Outcome :=
  let isDocEnd := match p.stack with
    | .docEnd .. :: _ => true
    | _ => false
  if p.kind == .docEnd && !isDocEnd then
    let p := popAll (p.stack.length + 1) p
    .done { p with stack := [.docEnd p.offset p.source none] }
  else
    match p.stack with
    | [] => p.atStream
    | top :: rest =>
      match top with
      | .document o start value f => p.atDocument o start value f rest
      | .flowScalar .. => p.atScalarTop top rest
      | .blockScalar o i props src => p.atBlockScalar o i props src
      | .blockMap o i items => p.atBlockMap o i items rest
      | .blockSeq o i items => p.atBlockSeq o i items rest
      | .flowCollection o i s items f => p.atFlowCollection o i s items f rest
      | .docEnd o s f => p.atDocEnd o s f
      | _ => .again p

/-- Offers the current token until a node takes it, closing the nodes that do not. -/
def step : Nat → Parser → Parser
  | 0, p => p
  | fuel + 1, p =>
    match p.dispatch with
    | .done p => p
    | .again p => step fuel (p.pop none)

/-- Feeds one lexeme. -/
def feed (p : Parser) (lx : Lexeme) : Parser :=
  let fuel := p.stack.length + 2
  match lx with
  | .scalarMark => { p with atNewLine := false, atScalar := true, kind := .scalar }
  | .documentMark => step fuel { p with kind := .docMode, source := [0x02] }
  | .flowEndMark => step fuel { p with kind := .flowErrorEnd, source := [0x18] }
  | .piece t =>
    let p := { p with source := t }
    if p.atScalar then
      let p := step fuel { p with atScalar := false }
      { p with offset := p.offset + t.length }
    else
      match TokenKind.ofPiece t with
      | none =>
        let p := p.pop (some (.error p.offset (Text.ofString "Not a YAML token: " ++ t) t))
        { p with offset := p.offset + t.length }
      | some k =>
        let p := step fuel { p with kind := k }
        let p := match k with
          | .newline => { p with atNewLine := true, indent := 0 }
          | .space => if p.atNewLine && t.head? == some 0x20 then { p with indent := p.indent + t.length } else p
          | .explicitKeyInd | .mapValueInd | .seqItemInd =>
            if p.atNewLine then { p with indent := p.indent + t.length } else p
          | _ => { p with atNewLine := false }
        { p with offset := p.offset + t.length }

end Parser

/-- The concrete syntax trees of a YAML source, in order, with stream-level tokens between them. -/
def parseCst (source : Text) : List Cst :=
  let p := (lex source).foldl Parser.feed {}
  (Parser.popAll (p.stack.length + 1) p).out.toList

end Yaml

end LogRouter
