import LogRouter.Json.Value
import LogRouter.Number.Parse

/-!
Client options for the stream sink, and which broker replies are final.

The sink settings are an open mapping.  The client's host and port come from `host` and `port`,
else from the first entry of `bootstrap.servers` (a comma list of `host:port`, cut at its last
colon, the port kept only when it reads as an integer), else `127.0.0.1` and `6379`.  User name,
password, database, connect timeout pass through, `tls` turns on an empty set of TLS settings, and
the client never queues or reconnects by itself.  Keys outside the known ones are reported.

A reply error is final unless its first word names a condition that passes (loading, busy,
failover, out of memory and the like).
-/

namespace LogRouter

/-- Options for the broker client. Fields that are `none` are not set. -/
structure ClientOptions where
  host : Json
  port : Json
  username : Option Json := none
  password : Option Json := none
  db : Option Json := none
  connectTimeout : Option Json := none
  tls : Bool := false
deriving Inhabited

namespace SinkConf

/-- The keys the sink settings know. -/
def knownKeys : List String :=
  ["bootstrap.servers", "host", "port", "username", "password", "db", "tls", "connectTimeout",
    "maxlen"]

/-- The default host. -/
def defaultHost : Text := Text.ofString "127.0.0.1"

/-- The default port. -/
def defaultPort : Nat := 6379

/-- A value that is there and not null. -/
def given? (conf : Members) (k : String) : Option Json :=
  match Members.get? conf (Text.ofString k) with
  | some .null => none
  | v => v

/-- Whether a value counts as true: not null, false, zero, not-a-number or the empty string. -/
def truthy : Json → Bool
  | .null => false
  | .bool b => b
  | .num x => !(x.isZero || x.isNaN)
  | .str s => !s.isEmpty
  | _ => true

/-- Host and port from the first entry of a server list. -/
def bootstrap (servers : Text) : Option Text × Option Double :=
  let first := Text.trim ((servers.splitOn 0x2C).headD [])
  if first.isEmpty then (none, none)
  else
    match Text.lastIndexOf? first 0x3A with
    | none => (some first, none)
    | some i =>
      let port := Double.ofNumberText (first.drop (i + 1))
      (some (first.take i), if port.isInteger then some port else none)

/-- The client options for sink settings, or the reason they cannot be read: a server list that
is not text. -/
def clientOptions (conf : Members) : Except Text ClientOptions := do
  let (bHost, bPort) ← match given? conf "bootstrap.servers" with
    | none => pure (none, none)
    | some (.str s) => pure (bootstrap s)
    | some _ => throw (Text.ofString "servers?.split is not a function")
  let host := (given? conf "host").getD ((bHost.map Json.str).getD (.str defaultHost))
  let port := (given? conf "port").getD ((bPort.map Json.num).getD (Json.ofNat defaultPort))
  pure {
    host := host
    port := port
    username := Members.get? conf (Text.ofString "username")
    password := Members.get? conf (Text.ofString "password")
    db := Members.get? conf (Text.ofString "db")
    connectTimeout := Members.get? conf (Text.ofString "connectTimeout")
    tls := ((Members.get? conf (Text.ofString "tls")).map truthy).getD false }

/-- The keys of the settings that the sink does not know, in their order. -/
def unsupportedKeys (conf : Members) : List Text :=
  (Members.keys conf).filter fun k => !(knownKeys.map Text.ofString).contains k

end SinkConf

namespace Reply

/-- First words of replies that report a passing condition. -/
def passing : List String :=
  ["LOADING", "BUSY", "TRYAGAIN", "CLUSTERDOWN", "MASTERDOWN", "READONLY", "NOREPLICAS", "OOM"]

/-- Whether an error is a final reply: it is named `ReplyError` and its first word (up to the
first space) is not one of the passing conditions. -/
def isFinal (name message : Text) : Bool :=
  name == Text.ofString "ReplyError" &&
    !(passing.map Text.ofString).contains (message.takeWhile (· ≠ 0x20))

end Reply

end LogRouter
