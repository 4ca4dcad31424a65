import LogRouter.Text.Basic

/-!
Configuration issues.

A problem found while loading a configuration is an issue: a dotted path into the document (empty
for the document itself) and a message.  A rejected configuration carries all of its issues in the
order they were found, and its message lists them after `Invalid configuration: `, separated by
`; `, each as `path: message`, or as the bare message when the path is empty.
-/

namespace LogRouter

/-- One problem of a configuration: where it is and what it is. -/
structure Issue where
  path : Text
  message : Text
deriving DecidableEq, Inhabited

namespace Issue

/-- An issue at the document itself. -/
def atRoot (message : Text) : Issue := ⟨[], message⟩

/-- The issue as one line: `path: message`, or the message alone at the root. -/
def render (i : Issue) : Text :=
  if i.path.isEmpty then i.message else i.path ++ Text.ofString ": " ++ i.message

/-- The issue moved under a prefix path: the prefix itself at the root, else `prefix.path`. -/
def under (pre : Text) (i : Issue) : Issue :=
  { i with path := if i.path.isEmpty then pre else pre ++ [0x2E] ++ i.path }

/-- The message of a rejected configuration with these issues. -/
def summary (issues : List Issue) : Text :=
  Text.ofString "Invalid configuration: " ++ Text.join (Text.ofString "; ") (issues.map render)

end Issue

end LogRouter
