import PullCache.Patch.Basic

/-!
# The difference of two values

`Json.diff` compares objects member by member and arrays index by index. Members that both objects
have are compared, new ones are added, each in the order of the new object, and lost ones are
removed last. Values that are neither both objects nor both arrays are replaced when they differ.
-/

namespace PullCache.Json

/-- The items from an index on are removed, one after the other at the same place. -/
def removeRest (i : Nat) (rest : List Json) : Patch :=
  rest.map fun _ ↦ .remove [toString i]

/-- The members whose names another object lacks are removed. -/
def removeLost (members : List (String × Json)) (old : List (String × Json)) : Patch :=
  (old.filter fun m ↦ (members.lookup m.1).isNone).map fun m ↦ .remove [m.1]

mutual

/-- The changes that lead from one value to another. -/
def diff (old : Json) : Json → Patch
  | .obj members =>
    match old with
    | .obj oldMembers => diffMembers oldMembers members ++ removeLost members oldMembers
    | _ => [.replace [] (.obj members)]
  | .arr items =>
    match old with
    | .arr oldItems => diffItems 0 oldItems items
    | _ => [.replace [] (.arr items)]
  | new => if old = new then [] else [.replace [] new]

/-- The changes that lead from the items of one array, from an index on, to those of another. -/
def diffItems (i : Nat) : List Json → List Json → Patch
  | old, [] => removeRest i old
  | [], new :: news => .add [toString i] new :: diffItems (i + 1) [] news
  | old :: olds, new :: news =>
    (diff old new).map (.under (toString i)) ++ diffItems (i + 1) olds news

/-- The changes to the members of an object that another has. -/
def diffMembers (olds : List (String × Json)) : List (String × Json) → Patch
  | [] => []
  | (key, new) :: news =>
    (match olds.lookup key with
      | some old => (diff old new).map (.under key)
      | none => [.add [key] new]) ++
    diffMembers olds news

end

end PullCache.Json
