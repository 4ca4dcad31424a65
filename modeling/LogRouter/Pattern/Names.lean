import LogRouter.Text.Basic

/-!
The group names a pattern declares, read off its text.

A declaration is `(?<` followed by a name of ASCII letters, digits, `_` and `$` (not starting with
a digit) and `>`, where the `(` does not follow a backslash.  This reads the text only: it does
not know about classes, escaped backslashes or escapes inside names, so on some patterns it lists
a name the pattern does not declare, or misses one it does.  Each name is listed once, where it
first appears.
-/

namespace LogRouter

namespace Pattern

/-- Whether a unit may start a declared name. -/
def isDeclaredStart (u : UInt16) : Bool := Text.isAsciiLetter u || u = 0x5F || u = 0x24

/-- Whether a unit may continue a declared name. -/
def isDeclaredPart (u : UInt16) : Bool := isDeclaredStart u || Text.isDigit u

/-- A name that starts the text and is closed by `>`. -/
def declaredNameAt (t : Text) : Option Text :=
  match t with
  | u :: _ =>
    if isDeclaredStart u then
      let name := t.takeWhile isDeclaredPart
      if (t.drop name.length).head? == some 0x3E then some name else none
    else none
  | [] => none

/-- The names declared from the text `t` on, `prev` being the unit before it, in order and with
repeats. -/
def declarationsFrom : Option UInt16 → Text → List Text
  | _, [] => []
  | prev, u :: rest =>
    let here : List Text :=
      match u, rest with
      | 0x28, 0x3F :: 0x3C :: more =>
        if prev == some 0x5C then [] else (declaredNameAt more).toList
      | _, _ => []
    here ++ declarationsFrom (some u) rest

/-- Keeps the first of equal names. -/
def firstOfEach (names : List Text) : List Text :=
  names.foldl (fun acc n => if acc.contains n then acc else acc ++ [n]) []

/-- The group names a pattern's text declares, each once, in the order they appear. -/
def declaredNames (source : Text) : List Text := firstOfEach (declarationsFrom none source)

end Pattern

end LogRouter
