import LogRouter.Text.Basic

/-!
The fields of a log record.

A record read from a line always has a message; a record given by its fields has those it is
given.  Besides the message a record may have the header fields of a syslog line: host name,
application name, process id, message id, facility, severity and timestamp.  `FieldName.all` fixes
their order, the order in which a record lists the fields it has.
-/

namespace LogRouter

/-- The name of a record field. -/
inductive FieldName where
  | msg
  | hostname
  | appname
  | procid
  | msgid
  | facility
  | severity
  | timestamp
deriving DecidableEq, Inhabited, Repr

namespace FieldName

/-- Every field name, in the order records list their fields. -/
def all : List FieldName := [msg, hostname, appname, procid, msgid, facility, severity, timestamp]

/-- The spelling of a field name. -/
def text : FieldName → Text
  | msg => Text.ofString "msg"
  | hostname => Text.ofString "hostname"
  | appname => Text.ofString "appname"
  | procid => Text.ofString "procid"
  | msgid => Text.ofString "msgid"
  | facility => Text.ofString "facility"
  | severity => Text.ofString "severity"
  | timestamp => Text.ofString "timestamp"

/-- The field a spelling names. -/
def ofText? (t : Text) : Option FieldName := all.find? (·.text == t)

end FieldName

/-- The fields of a record: each field when the record has it. -/
structure Fields where
  msg : Option Text := none
  hostname : Option Text := none
  appname : Option Text := none
  procid : Option Text := none
  msgid : Option Text := none
  facility : Option Text := none
  severity : Option Text := none
  timestamp : Option Text := none
deriving DecidableEq, Inhabited

namespace Fields

/-- The value of a field, if the record has it. -/
def get (f : Fields) : FieldName → Option Text
  | .msg => f.msg
  | .hostname => f.hostname
  | .appname => f.appname
  | .procid => f.procid
  | .msgid => f.msgid
  | .facility => f.facility
  | .severity => f.severity
  | .timestamp => f.timestamp

/-- The fields present, in the order of `FieldName.all`. -/
def present (f : Fields) : List (FieldName × Text) :=
  FieldName.all.filterMap fun n => (f.get n).map (n, ·)

end Fields

end LogRouter
