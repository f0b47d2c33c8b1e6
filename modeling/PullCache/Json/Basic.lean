/-!
# JSON values

A value in memory. The members of an object stand in a list; objects that this library builds have
them in the order of their keys, each key once. Numbers keep the digits they were written with.
-/

namespace PullCache

/-- A JSON value. -/
inductive Json where
  | null
  | bool (value : Bool)
  | num (literal : String)
  | str (value : String)
  | arr (items : List Json)
  | obj (members : List (String × Json))
deriving Repr, Inhabited

namespace Json

/-! ### Equality -/

mutual

/-- Decides whether two values are the same. -/
def decEq : (a b : Json) → Decidable (a = b)
  | null, null => isTrue rfl
  | bool a, bool b =>
    if h : a = b then isTrue (h ▸ rfl) else isFalse fun h' ↦ h (Json.bool.inj h')
  | num a, num b =>
    if h : a = b then isTrue (h ▸ rfl) else isFalse fun h' ↦ h (Json.num.inj h')
  | str a, str b =>
    if h : a = b then isTrue (h ▸ rfl) else isFalse fun h' ↦ h (Json.str.inj h')
  | arr a, arr b =>
    match decEqItems a b with
    | isTrue h => isTrue (h ▸ rfl)
    | isFalse h => isFalse fun h' ↦ h (Json.arr.inj h')
  | obj a, obj b =>
    match decEqMembers a b with
    | isTrue h => isTrue (h ▸ rfl)
    | isFalse h => isFalse fun h' ↦ h (Json.obj.inj h')
  | null, bool _ | null, num _ | null, str _ | null, arr _ | null, obj _
  | bool _, null | bool _, num _ | bool _, str _ | bool _, arr _ | bool _, obj _
  | num _, null | num _, bool _ | num _, str _ | num _, arr _ | num _, obj _
  | str _, null | str _, bool _ | str _, num _ | str _, arr _ | str _, obj _
  | arr _, null | arr _, bool _ | arr _, num _ | arr _, str _ | arr _, obj _
  | obj _, null | obj _, bool _ | obj _, num _ | obj _, str _ | obj _, arr _ =>
    isFalse nofun

/-- Decides whether two lists of items are the same. -/
def decEqItems : (a b : List Json) → Decidable (a = b)
  | [], [] => isTrue rfl
  | [], _ :: _ => isFalse nofun
  | _ :: _, [] => isFalse nofun
  | x :: xs, y :: ys =>
    match decEq x y, decEqItems xs ys with
    | isTrue h, isTrue hs => isTrue (h ▸ hs ▸ rfl)
    | isFalse h, _ => isFalse fun h' ↦ h (List.cons.inj h').1
    | _, isFalse hs => isFalse fun h' ↦ hs (List.cons.inj h').2

/-- Decides whether two lists of members are the same. -/
def decEqMembers : (a b : List (String × Json)) → Decidable (a = b)
  | [], [] => isTrue rfl
  | [], _ :: _ => isFalse nofun
  | _ :: _, [] => isFalse nofun
  | (k, x) :: xs, (l, y) :: ys =>
    if hk : k = l then
      match decEq x y, decEqMembers xs ys with
      | isTrue h, isTrue hs => isTrue (hk ▸ h ▸ hs ▸ rfl)
      | isFalse h, _ => isFalse fun h' ↦ h (Prod.mk.inj (List.cons.inj h').1).2
      | _, isFalse hs => isFalse fun h' ↦ hs (List.cons.inj h').2
    else isFalse fun h' ↦ hk (Prod.mk.inj (List.cons.inj h').1).1

end

instance : DecidableEq Json := decEq

/-! ### Looking in -/

/-- The member of an object; nothing else has members. -/
def get? : Json → String → Option Json
  | obj members, key => members.lookup key
  | _, _ => none

/-- A member that is there and is not `null`. -/
def field? (value : Json) (key : String) : Option Json :=
  (value.get? key).filter (· ≠ null)

/-- The content of a string. -/
def text? : Json → Option String
  | str value => some value
  | _ => none

/-- The items of an array. -/
def items? : Json → Option (List Json)
  | arr items => some items
  | _ => none

/-- The members of an object. -/
def members? : Json → Option (List (String × Json))
  | obj members => some members
  | _ => none

end Json

end PullCache
