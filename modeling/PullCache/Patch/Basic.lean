import PullCache.Dict
import PullCache.Json.Printer

/-!
# JSON patches

A patch is a list of operations, each at a path of member names and indices. `Patch.applied?`
carries one out, as RFC 6902 says; `PullCache.Patch.Diff` finds one between two values.
-/

namespace PullCache

/-- A way into a value: names of members and indices of items, the latter in decimal. -/
abbrev JsonPath := List String

/-- A change at a path. -/
inductive PatchOp where
  /-- Adds a member, or an item before the one at the index. -/
  | add (path : JsonPath) (value : Json)
  /-- Removes what is there. -/
  | remove (path : JsonPath)
  /-- Puts another value for the one that is there. -/
  | replace (path : JsonPath) (value : Json)
deriving DecidableEq, Repr

/-- Changes that are made one after the other. -/
abbrev Patch := List PatchOp

namespace PatchOp

/-- Where the change is made. -/
def path : PatchOp → JsonPath
  | add path _ | remove path | replace path _ => path

/-- The same change one step further in. -/
def under (token : String) : PatchOp → PatchOp
  | add path value => add (token :: path) value
  | remove path => remove (token :: path)
  | replace path value => replace (token :: path) value

/-! ### Carrying out -/

/-- The index that a token is of an array with so many items. -/
def index? (token : String) (size : Nat) : Option Nat :=
  (List.range size).find? fun i ↦ toString i == token

/-- Changes the array or object in which a path ends, given the path's last token. -/
def atParent? (change : Json → String → Option Json) : JsonPath → Json → Option Json
  | [], _ => none
  | [token], parent => change parent token
  | token :: next :: path, .obj members => do
    let child ← members.lookup token
    let child ← atParent? change (next :: path) child
    return .obj (Dict.insertEntry token child members)
  | token :: next :: path, .arr items => do
    let i ← index? token items.length
    let child ← items[i]?
    let child ← atParent? change (next :: path) child
    return .arr (items.set i child)
  | _, _ => none

/-- Adds a value to an array or object. -/
def addTo? (value parent : Json) (token : String) : Option Json :=
  match parent with
  | .obj members => some (.obj (Dict.insertEntry token value members))
  | .arr items =>
    if token = "-" then some (.arr (items ++ [value]))
    else (index? token (items.length + 1)).map fun i ↦ .arr (items.take i ++ value :: items.drop i)
  | _ => none

/-- Puts a value in an array or object for one that is there. -/
def replaceIn? (value parent : Json) (token : String) : Option Json :=
  match parent with
  | .obj members =>
    if (members.lookup token).isSome then some (.obj (Dict.insertEntry token value members))
    else none
  | .arr items => (index? token items.length).map fun i ↦ .arr (items.set i value)
  | _ => none

/-- Removes a value from an array or object. -/
def removeFrom? (parent : Json) (token : String) : Option Json :=
  match parent with
  | .obj members =>
    if (members.lookup token).isSome then some (.obj (members.filter fun m ↦ m.1 != token))
    else none
  | .arr items => (index? token items.length).map fun i ↦ .arr (items.eraseIdx i)
  | _ => none

/-- The value after a change, if the change can be made. -/
def applied? (value : Json) : PatchOp → Option Json
  | add [] new | replace [] new => some new
  | remove [] => none
  | add path new => atParent? (addTo? new) path value
  | replace path new => atParent? (replaceIn? new) path value
  | remove path => atParent? removeFrom? path value

/-! ### Written form -/

/-- A path as a JSON pointer: a slash before each token, and `~` and `/` inside a token written as
`~0` and `~1`. -/
def pointer (path : JsonPath) : String :=
  String.join <| path.map fun token ↦
    "/" ++ String.ofList (token.toList.flatMap fun c ↦
      if c = '~' then ['~', '0'] else if c = '/' then ['~', '1'] else [c])

/-- A change as a value. -/
def toJson : PatchOp → Json
  | add path value =>
    .obj [("op", .str "add"), ("path", .str (pointer path)), ("value", value)]
  | remove path => .obj [("op", .str "remove"), ("path", .str (pointer path))]
  | replace path value =>
    .obj [("op", .str "replace"), ("path", .str (pointer path)), ("value", value)]

end PatchOp

namespace Patch

/-- The value after all changes, if each can be made in its turn. -/
def applied? (patch : Patch) (value : Json) : Option Json :=
  patch.foldlM PatchOp.applied? value

/-- The text of a patch. -/
def text (patch : Patch) : String :=
  (Json.arr (patch.map PatchOp.toJson)).render

end Patch

end PullCache
