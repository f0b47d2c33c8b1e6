import PullCache.Yaml.Token.Basic

/-!
# YAML nodes

A node is a scalar, a sequence, a mapping, or an alias of a node that is anchored elsewhere. An
alias is a number rather than a copy, since a node may hold an alias of itself. The document that
an alias stands in says which node it is.
-/

namespace PullCache.Yaml

/-- A single text. -/
structure Scalar where
  style : Style := .plain
  /-- The tag in full, each byte as the character of its number. -/
  tag : Option (List Char) := none
  text : String
deriving DecidableEq, Repr, Inhabited

/-- A node. The label of an anchored node is what aliases refer to it by. -/
inductive Node where
  | scalar (label : Option Nat) (scalar : Scalar)
  | sequence (label : Option Nat) (items : List Node)
  | mapping (label : Option Nat) (members : List (Node × Node))
  | aliasOf (label : Nat)
deriving Repr, Inhabited

namespace Node

/-- The label of an anchored node. -/
def label? : Node → Option Nat
  | scalar label _ => label
  | sequence label _ => label
  | mapping label _ => label
  | aliasOf _ => none

/-- A node with its label, if it has one. -/
def anchoredAt (node : Node) : List (Nat × Node) :=
  node.label?.toList.map fun label ↦ (label, node)

mutual

/-- The anchored nodes of a node with their labels, in the order in which they start. -/
def anchored : Node → List (Nat × Node)
  | scalar label s => anchoredAt (scalar label s)
  | sequence label items => anchoredAt (sequence label items) ++ anchoredItems items
  | mapping label members => anchoredAt (mapping label members) ++ anchoredMembers members
  | aliasOf _ => []

/-- The anchored nodes of some items. -/
def anchoredItems : List Node → List (Nat × Node)
  | [] => []
  | item :: items => anchored item ++ anchoredItems items

/-- The anchored nodes of some members. -/
def anchoredMembers : List (Node × Node) → List (Nat × Node)
  | [] => []
  | (key, value) :: members => anchored key ++ (anchored value ++ anchoredMembers members)

end

end Node

/-! ### Documents -/

/-- A document: its root, and the anchored nodes in the order in which they start. -/
structure Document where
  root : Node
  anchored : List (Nat × Node)
deriving Repr, Inhabited

namespace Document

/-- The document with the given root. -/
def ofRoot (root : Node) : Document :=
  { root, anchored := root.anchored }

/-- The node that an alias stands for; any other stands for itself. Of several nodes with one label
the last counts. -/
def resolve (document : Document) : Node → Node
  | .aliasOf label => ((document.anchored.reverse.lookup label)).getD (.aliasOf label)
  | node => node

/-- The scalar that a node stands for. -/
def scalar? (document : Document) (node : Node) : Option Scalar :=
  match document.resolve node with
  | .scalar _ scalar => some scalar
  | _ => none

/-- The text of a scalar, however it is written. -/
def text? (document : Document) (node : Node) : Option String :=
  (document.scalar? node).map Scalar.text

/-- The items of a sequence. A plain scalar without text counts as a sequence without items. -/
def items? (document : Document) (node : Node) : Option (List Node) :=
  match document.resolve node with
  | .sequence _ items => some items
  | .scalar _ scalar => if scalar.style = .plain ∧ scalar.text = "" then some [] else none
  | _ => none

/-- The members of a mapping. -/
def members? (document : Document) (node : Node) : Option (List (Node × Node)) :=
  match document.resolve node with
  | .mapping _ members => some members
  | _ => none

/-- The members of a record with the given names. All keys are scalars; a name stands once at most,
other keys as often as they like. -/
def fields? (document : Document) (names : List String) (node : Node) :
    Option (List (String × Node)) := do
  let members ← document.members? node
  let members ← members.mapM fun (key, value) ↦
    (document.text? key).map fun key ↦ (key, value)
  let fields := members.filter fun (key, _) ↦ names.contains key
  if (fields.map Prod.fst).Nodup then some fields else none

end Document

/-! ### Scalars as values -/

namespace Scalar

/-- The tag of integers in full. -/
def integerTag : List Char := "tag:yaml.org,2002:int".toList

/-- The tag of null in full. -/
def nullTag : List Char := "tag:yaml.org,2002:null".toList

/-- Whether a text is a spelling of null. -/
def isNullText (text : String) : Bool :=
  text == "null" || text == "Null" || text == "NULL" || text == "~"

/-- Whether a scalar is null; `none` if its tag says so and its text does not. -/
def isNull? (s : Scalar) : Option Bool :=
  if s.style ≠ .plain then some false
  else
    match s.tag with
    | none => some (s.text == "" || isNullText s.text)
    | some tag =>
      if tag ≠ nullTag then some false
      else if isNullText s.text then some true else none

/-- The value of a digit in a base up to sixteen. -/
def digit? (base : Nat) (c : Char) : Option Nat :=
  (Text.hexValue? c).filter (· < base)

/-- The number of some digits, of which there is at least one. -/
def ofDigits? (base : Nat) (digits : List Char) : Option Nat :=
  if digits.isEmpty then none
  else (digits.mapM (digit? base)).map (Text.ofValues base)

/-- Reads a natural number, with a plus sign perhaps: in base 16, 8 or 2 after `0x`, `0o` or `0b`,
and else in base 10 without leading zeros. -/
def naturalOfText? (text : List Char) : Option Nat :=
  let unsigned := match text with
    | '+' :: rest => rest
    | rest => rest
  match unsigned with
  | '0' :: 'x' :: digits => ofDigits? 16 digits
  | '0' :: 'o' :: digits => ofDigits? 8 digits
  | '0' :: 'b' :: digits => ofDigits? 2 digits
  | '0' :: _ :: _ => none
  | digits => ofDigits? 10 digits

/-- The natural number of a scalar. A plain one may be a number whatever its tag, a literal one if
its tag says that it is. -/
def natural? (s : Scalar) : Option Nat :=
  if s.style = .plain ∨ (s.style = .literal ∧ s.tag = some integerTag) then
    naturalOfText? s.text.toList
  else none

end Scalar

end PullCache.Yaml
