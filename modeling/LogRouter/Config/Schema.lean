import LogRouter.Yaml.Load
import LogRouter.Config.Issue
import LogRouter.Json.Value
import LogRouter.Time.Instant

/-!
Schemas for loaded documents.

A schema says what shape a loaded value must have: strings and numbers with checks, booleans, one
of a set of texts, any JSON value, arrays, objects with known fields (refusing other keys or
passing them through), optional fields and fields with defaults, objects told apart by one field,
and objects with a check of their own.

Validation walks value and schema together and records every issue, each at the path of the
value it is about, in the order the walk meets them.  A failed type check ends the walk below that
value (the result is *aborted*); a failed check of length, range or pattern does not (the result
is *dirty*: it has a value, but the document is refused).  An object or array is aborted when one
of its members is.  Every field of an object is checked, in the order the schema lists them, before
keys the schema does not know are reported.  A check of a whole object runs only on an object that
is not aborted.

The value that validation gives is JSON: defaults filled in, optional fields that are absent left
out, keys that pass through as they are, and no `__proto__` keys.
-/

namespace LogRouter

namespace Loaded

/-- The name of a value's kind, as type errors give it. -/
def kindName : Loaded → String
  | .null => "null"
  | .bool _ => "boolean"
  | .num x => if x.isNaN then "nan" else "number"
  | .str _ => "string"
  | .arr _ => "array"
  | .obj _ | .bytes _ | .circular => "object"
  | .date _ => "date"
  | .set _ => "set"
  | .map _ => "map"
  | .symbol _ => "symbol"

/-- The names a buffer enumerates after its indices: the methods its prototype holds. -/
def bufferMethodNames : List String :=
  ["readBigUInt64LE", "readBigUInt64BE", "readBigUint64LE", "readBigUint64BE", "readBigInt64LE",
   "readBigInt64BE", "writeBigUInt64LE", "writeBigUInt64BE", "writeBigUint64LE", "writeBigUint64BE",
   "writeBigInt64LE", "writeBigInt64BE", "readUIntLE", "readUInt32LE", "readUInt16LE", "readUInt8",
   "readUIntBE", "readUInt32BE", "readUInt16BE", "readUintLE", "readUint32LE", "readUint16LE",
   "readUint8", "readUintBE", "readUint32BE", "readUint16BE", "readIntLE", "readInt32LE",
   "readInt16LE", "readInt8", "readIntBE", "readInt32BE", "readInt16BE", "writeUIntLE",
   "writeUInt32LE", "writeUInt16LE", "writeUInt8", "writeUIntBE", "writeUInt32BE", "writeUInt16BE",
   "writeUintLE", "writeUint32LE", "writeUint16LE", "writeUint8", "writeUintBE", "writeUint32BE",
   "writeUint16BE", "writeIntLE", "writeInt32LE", "writeInt16LE", "writeInt8", "writeIntBE",
   "writeInt32BE", "writeInt16BE", "readFloatLE", "readFloatBE", "readDoubleLE", "readDoubleBE",
   "writeFloatLE", "writeFloatBE", "writeDoubleLE", "writeDoubleBE", "asciiSlice", "base64Slice",
   "base64urlSlice", "latin1Slice", "hexSlice", "ucs2Slice", "utf8Slice", "asciiWrite",
   "base64Write", "base64urlWrite", "latin1Write", "hexWrite", "ucs2Write", "utf8Write", "parent",
   "offset", "copy", "toString", "equals", "inspect", "compare", "indexOf", "lastIndexOf",
   "includes", "fill", "write", "toJSON", "subarray", "slice", "swap16", "swap32", "swap64",
   "toLocaleString"]

/-- The members of a value that is an object, for field access: a buffer's are its bytes by
index. -/
def members : Loaded → List (Text × Loaded)
  | .obj ms => ms
  | .bytes b => b.zipIdx.map fun (x, i) => (Text.ofNat i, .num (Double.ofNat x.toNat))
  | _ => []

/-- The keys a value enumerates as an object: an object's own keys, a buffer's indices and then
its methods. -/
def keyNames : Loaded → List Text
  | .obj ms => ms.map (·.1)
  | .bytes b => (List.range b.length).map Text.ofNat ++ bufferMethodNames.map Text.ofString
  | _ => []

/-- Whether a value is an object for a schema: plain objects, buffers, and circular values. -/
def isObjectLike : Loaded → Bool
  | .obj _ | .bytes _ | .circular => true
  | _ => false

mutual

/-- A loaded value as JSON by its own enumerable members: numbers that are not finite become
`null`, a buffer its bytes by index, and dates, sets and maps, which have no such members, empty
objects. -/
def toJson : Loaded → Json
  | .null => .null
  | .bool b => .bool b
  | .num x => if x.isFinite then .num x else .null
  | .str s => .str s
  | .arr xs => .arr (toJsonItems xs)
  | .obj ms => .obj (toJsonMembers ms)
  | .bytes b => .obj (b.zipIdx.map fun (x, i) => (Text.ofNat i, .num (Double.ofNat x.toNat)))
  | .date _ | .set _ | .map _ => .obj []
  | .symbol _ | .circular => .null

/-- The items of an array as JSON. -/
def toJsonItems : List Loaded → List Json
  | [] => []
  | x :: xs => toJson x :: toJsonItems xs

/-- The members of an object as JSON. -/
def toJsonMembers : List (Text × Loaded) → List (Text × Json)
  | [] => []
  | (k, v) :: rest => (k, toJson v) :: toJsonMembers rest

end

/-- What checking a value as JSON finds. -/
inductive JsonCheck where
  | valid (v : Json)
  | invalid
  | endless

mutual

/-- Checks that a value is JSON: strings, numbers other than not-a-number, booleans, null, and
arrays and plain objects of such values.  The JSON value drops `__proto__` keys.  A circular value
never ends the check. -/
def checkJson : Loaded → JsonCheck
  | .null => .valid .null
  | .bool b => .valid (.bool b)
  | .num x => if x.isNaN then .invalid else .valid (.num x)
  | .str s => .valid (.str s)
  | .arr xs =>
    match checkJsonItems xs with
    | .valid (.arr ys) => .valid (.arr ys)
    | .endless => .endless
    | _ => .invalid
  | .obj ms =>
    match checkJsonMembers ms with
    | .valid (.obj ys) => .valid (.obj ys)
    | .endless => .endless
    | _ => .invalid
  | .circular => .endless
  | _ => .invalid

/-- Checks the items of an array. -/
def checkJsonItems : List Loaded → JsonCheck
  | [] => .valid (.arr [])
  | x :: xs =>
    match checkJson x, checkJsonItems xs with
    | .endless, _ => .endless
    | .valid v, .valid (.arr vs) => .valid (.arr (v :: vs))
    | _, .endless => .endless
    | _, _ => .invalid

/-- Checks the members of an object. -/
def checkJsonMembers : List (Text × Loaded) → JsonCheck
  | [] => .valid (.obj [])
  | (k, v) :: rest =>
    match checkJson v, checkJsonMembers rest with
    | .endless, _ => .endless
    | .valid jv, .valid (.obj vs) =>
      .valid (.obj (if k == Text.ofString "__proto__" then vs else (k, jv) :: vs))
    | _, .endless => .endless
    | _, _ => .invalid

end

end Loaded

/-- A check on a string. -/
inductive StringCheck where
  | minLength (n : Nat)
  | hostPort
deriving Inhabited

/-- A check on a number. -/
inductive NumberCheck where
  | integer
  | atLeast (bound : Nat)
  | above (bound : Nat)
  | atMost (bound : Nat)
deriving Inhabited

/-- What an object does with keys its schema does not list. -/
inductive ExtraKeys where
  | refuse
  | keep
deriving DecidableEq, Inhabited

/-- A schema for loaded values. -/
inductive Schema where
  | string (checks : List StringCheck)
  | number (checks : List NumberCheck)
  | boolean
  | oneOf (options : List Text)
  | json
  | array (item : Schema)
  | object (fields : List (Text × Schema)) (extra : ExtraKeys)
  | optional (inner : Schema)
  | withDefault (inner : Schema) (value : Loaded)
  | tagged (key : Text) (options : List (Text × Schema))
  | refined (inner : Schema) (check : Json → Option Text)
deriving Inhabited

/-- Whether a text is `host:port`: a host without blanks or colons, a colon, and one to five
digits. -/
def isHostPort (t : Text) : Bool :=
  match Text.splitOnUnit t 0x3A with
  | [host, port] =>
    !host.isEmpty && !host.any Text.isBlank && 1 ≤ port.length && port.length ≤ 5 && port.all Text.isDigit
  | _ => false

/-- The options of a choice as messages list them: each quoted, separated by ` | `. -/
def optionsText (options : List Text) : Text :=
  Text.join (Text.ofString " | ") (options.map Text.singleQuoted)

/-- What validating a value gives: whether it passed, passed with refusals, or was cut off, and
the value unless it was cut off or absent. -/
inductive Outcome where
  | valid (v : Option Json)
  | dirty (v : Option Json)
  | aborted
deriving Inhabited

namespace Outcome

/-- The value of an outcome, if any. -/
def value? : Outcome → Option Json
  | valid v | dirty v => v
  | aborted => none

/-- Whether an outcome was cut off. -/
def isAborted : Outcome → Bool
  | aborted => true
  | _ => false

/-- Whether an outcome has refusals. -/
def isDirty : Outcome → Bool
  | dirty _ => true
  | _ => false

/-- An outcome made dirty. -/
def soil : Outcome → Outcome
  | valid v => dirty v
  | o => o

end Outcome

/-- What validation has found so far: the issues, and an error that ended it. -/
structure Findings where
  issues : Array Issue := #[]
  thrown : Option Thrown := none
deriving Inhabited

/-- Validation: findings threaded through. -/
abbrev CheckM := StateM Findings

/-- Records an issue at a path. -/
def addIssue (path : List Text) (message : Text) : CheckM Unit :=
  modify fun f => { f with issues := f.issues.push ⟨Text.join [0x2E] path, message⟩ }

/-- The issue for a value of the wrong kind: `Required` when it is absent. -/
def typeIssue (path : List Text) (expected : Text) (input : Option Loaded) : CheckM Outcome := do
  match input with
  | none => addIssue path (Text.ofString "Required")
  | some v => addIssue path (Text.ofString "Expected " ++ expected ++ Text.ofString ", received " ++
      Text.ofString v.kindName)
  pure .aborted

/-- Applies the checks of a string. -/
def checkString (path : List Text) (s : Text) (checks : List StringCheck) : CheckM Bool :=
  checks.foldlM (fun ok c =>
    match c with
    | .minLength n =>
      if s.length < n then do
        addIssue path (Text.ofString ("String must contain at least " ++ toString n ++ " character(s)"))
        pure false
      else pure ok
    | .hostPort =>
      if isHostPort s then pure ok
      else do
        addIssue path (Text.ofString "Must be host:port")
        pure false) true

/-- Applies the checks of a number. -/
def checkNumber (path : List Text) (x : Double) (checks : List NumberCheck) : CheckM Bool :=
  checks.foldlM (fun ok c =>
    let fail (msg : String) : CheckM Bool := do
      addIssue path (Text.ofString msg)
      pure false
    match c with
    | .integer => if x.isInteger then pure ok else fail "Expected integer, received float"
    | .atLeast b => if x.lt (Double.ofNat b) then fail ("Number must be greater than or equal to " ++ toString b) else pure ok
    | .above b => if x.le (Double.ofNat b) then fail ("Number must be greater than " ++ toString b) else pure ok
    | .atMost b => if (Double.ofNat b).lt x then fail ("Number must be less than or equal to " ++ toString b) else pure ok) true

/-- The outcome of a value that passed its checks or not. -/
def checked (ok : Bool) (v : Json) : Outcome := if ok then .valid (some v) else .dirty (some v)

/-- Sets a member of an object in enumeration order, leaving out `__proto__`. -/
def putMember (ms : Members) (k : Text) (v : Json) : Members :=
  if k == Text.ofString "__proto__" then ms else Members.set ms k v

mutual

/-- The number of nested schemas, a bound on how deep validation goes. -/
def Schema.depth : Schema → Nat
  | .array item | .optional item | .withDefault item _ | .refined item _ => item.depth + 1
  | .object fields _ => Schema.depthOf fields + 1
  | .tagged _ options => Schema.depthOf options + 1
  | _ => 1

/-- The largest depth of named schemas. -/
def Schema.depthOf : List (Text × Schema) → Nat
  | [] => 0
  | (_, s) :: rest => max s.depth (Schema.depthOf rest)

end

/-- Validates a value (absent when `none`) at a path. -/
def validateWith : Nat → Schema → List Text → Option Loaded → CheckM Outcome
  | 0, _, _, _ => pure .aborted
  | fuel + 1, s, path, input =>
    match s with
    | .string checks =>
      match input with
      | some (.str t) => do
        let ok ← checkString path t checks
        pure (checked ok (.str t))
      | _ => typeIssue path (Text.ofString "string") input
    | .number checks =>
      match input with
      | some (.num x) =>
        if x.isNaN then typeIssue path (Text.ofString "number") input
        else do
          let ok ← checkNumber path x checks
          pure (checked ok (.num x))
      | _ => typeIssue path (Text.ofString "number") input
    | .boolean =>
      match input with
      | some (.bool b) => pure (.valid (some (.bool b)))
      | _ => typeIssue path (Text.ofString "boolean") input
    | .oneOf options =>
      match input with
      | some (.str t) =>
        if options.contains t then pure (.valid (some (.str t)))
        else do
          addIssue path (Text.ofString "Invalid enum value. Expected " ++ optionsText options ++
            Text.ofString ", received " ++ Text.singleQuoted t)
          pure .aborted
      | _ => typeIssue path (optionsText options) input
    | .json =>
      match input.map Loaded.checkJson with
      | some (.valid v) => pure (.valid (some v))
      | some .endless => do
        let overflow : Thrown := ⟨Text.ofString "RangeError", Text.ofString "Maximum call stack size exceeded"⟩
        modify fun f => { f with thrown := f.thrown <|> some overflow }
        pure .aborted
      | _ => do
        addIssue path (Text.ofString "Invalid input")
        pure .aborted
    | .array item =>
      match input with
      | some (.arr xs) => do
        let outcomes ← xs.zipIdx.mapM fun (x, i) => validateWith fuel item (path ++ [Text.ofNat i]) (some x)
        if outcomes.any Outcome.isAborted then pure .aborted
        else
          let v := Json.arr (outcomes.map fun o => o.value?.getD .null)
          pure (if outcomes.any Outcome.isDirty then .dirty (some v) else .valid (some v))
      | _ => typeIssue path (Text.ofString "array") input
    | .object fields extra =>
      match input with
      | some v =>
        if !v.isObjectLike then typeIssue path (Text.ofString "object") input
        else do
          let ms := v.members
          let known := fields.map (·.1)
          let extraKeys := v.keyNames.filter (!known.contains ·)
          let outcomes ← fields.mapM fun (k, fs) => do
            let o ← validateWith fuel fs (path ++ [k]) (ms.lookup k)
            pure (k, o)
          let kept : List (Text × Outcome) := match extra with
            | .keep => extraKeys.map fun k => (k, .valid ((ms.lookup k).map Loaded.toJson))
            | .refuse => []
          let refused ← if extra == .refuse && !extraKeys.isEmpty then do
              addIssue path (Text.ofString "Unrecognized key(s) in object: " ++
                Text.join (Text.ofString ", ") (extraKeys.map Text.singleQuoted))
              pure true
            else pure false
          let all := outcomes ++ kept
          if all.any (·.2.isAborted) then pure .aborted
          else
            let obj := all.foldl (fun acc (k, o) =>
              match o.value? with
              | some jv => putMember acc k jv
              | none => acc) []
            pure (if refused || all.any (·.2.isDirty) then .dirty (some (.obj obj)) else .valid (some (.obj obj)))
      | none => typeIssue path (Text.ofString "object") input
    | .optional inner =>
      match input with
      | none => pure (.valid none)
      | some _ => validateWith fuel inner path input
    | .withDefault inner d =>
      match input with
      | none => validateWith fuel inner path (some d)
      | some _ => validateWith fuel inner path input
    | .tagged key options =>
      match input with
      | some v =>
        if !v.isObjectLike then typeIssue path (Text.ofString "object") input
        else
          let chosen := match v.members.lookup key with
            | some (.str t) => options.lookup t
            | _ => none
          match chosen with
          | some option => validateWith fuel option path input
          | none => do
            addIssue (path ++ [key]) (Text.ofString "Invalid discriminator value. Expected " ++
              optionsText (options.map (·.1)))
            pure .aborted
      | none => typeIssue path (Text.ofString "object") input
    | .refined inner check => do
      let o ← validateWith fuel inner path input
      match o with
      | .aborted => pure .aborted
      | o =>
        match o.value?.bind check with
        | some msg => do
          addIssue path msg
          pure o.soil
        | none => pure o

/-- Validates a whole document against a schema: the outcome with the issues found, or the error
that ended validation. -/
def Schema.validate (s : Schema) (doc : Loaded) : Except Thrown (Outcome × List Issue) :=
  let (o, f) := (validateWith (s.depth + 1) s [] (some doc)).run {}
  match f.thrown with
  | some t => .error t
  | none => .ok (o, f.issues.toList)

end LogRouter
