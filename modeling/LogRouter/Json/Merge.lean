import LogRouter.Json.Value

/-!
Deep merge of JSON values.

Two objects merge key by key: for each member of the patch, in its order, the target's value under
that key (if any) is merged with it, recursively, and the result is set under the key with
`Members.set`, so a key of the target keeps its place and a new key is placed by the object
order rule.  Any other patch (a scalar, an array, null), or any patch into a target that is not an
object, replaces the target outright.
-/

namespace LogRouter

namespace Json

mutual

/-- Merges a patch into a target: objects member by member, anything else replaced by the patch. -/
def merge : Json → Json → Json
  | .obj t, .obj p => .obj (mergeMembers t p)
  | _, p => p

/-- Merges patch members into target members, one at a time in the patch's order. -/
def mergeMembers (target : Members) : Members → Members
  | [] => target
  | (k, v) :: rest =>
    let merged := match Members.get? target k with
      | some existing => merge existing v
      | none => v
    mergeMembers (Members.set target k merged) rest

end

end Json

end LogRouter
