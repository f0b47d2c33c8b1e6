import PullCache.Json.Document
import PullCache.Json.Number

/-!
# Shapes of documents

A shape says what a document must look like to be read as some type of record. `Shape.fault?` walks
a document under a shape as a reader walks its text, and gives the fault that comes first: the text
is not JSON there, or it is JSON of the wrong shape. The two differ in the answer a client gets.

What counts as a fault depends on why a value is read.

- A value that no field asks for is passed over: it must be JSON, and nothing else is asked of it.
- A value that is kept may not nest 128 deep, and its strings and numbers must have a value.
- A value of the wrong type is a fault where it begins when it is an array or an object, and once it
  has been read when it is not.
-/

namespace PullCache.Json

/-- How the fields of a record may be written. -/
inductive RecordStyle where
  /-- By name, at most once each, or as an array in the order of the fields; other names are passed
  over. -/
  | strict
  /-- By name, the last one counts; other names are passed over. -/
  | lenient
  /-- By name, at most once each; other members belong to the record and are kept. -/
  | «open»
deriving DecidableEq, Repr

/-- What a document must look like. -/
inductive Shape where
  /-- Any JSON text, and its value is not needed. -/
  | skipped
  /-- Any value. -/
  | anything
  /-- No value at all; under `nullable`, only `null`. -/
  | nothing
  /-- A string that passes a test. -/
  | string (accepts : String → Bool)
  | boolean
  /-- An integer between two bounds. -/
  | integer (least most : Int)
  /-- An integer of 32 bits or a string. -/
  | integerOrString
  /-- One of some names, as a string or as the only member of an object, whose value is `null`. -/
  | choice (names : List String)
  /-- `null`, or what the inner shape asks for. -/
  | nullable (inner : Shape)
  | list (item : Shape)
  /-- An object with values of one shape. -/
  | dict (value : Shape)
  /-- An object with known fields: name, shape, and whether it must be there. -/
  | record (style : RecordStyle) (fields : List (String × Shape × Bool))

/-- What is wrong with a document. -/
inductive Fault where
  /-- The text is not JSON, or is more than a reader takes. -/
  | notJson
  /-- The text is JSON of another shape. -/
  | misshapen
deriving DecidableEq, Repr

namespace Shape

/-- Any string. -/
def text : Shape := string fun _ ↦ true

/-- The shape under all `nullable`s. -/
def base : Shape → Shape
  | nullable inner => inner.base
  | shape => shape

/-- Whether `null` will do. -/
def takesNull : Shape → Bool
  | nullable _ | anything | skipped => true
  | _ => false

/-- A kept array or object may have fewer than so many around it. -/
def maxDepth : Nat := 127

/-- Where the array or object of a kept value goes deeper than is read. -/
def depthFault? (depth : Nat) : Option Fault :=
  if depth < maxDepth then none else some .notJson

/-- The end of an array or object that must be closed. -/
def endFault? (closed : Bool) : Option Fault :=
  if closed then none else some .notJson

/-- Where a test is not passed. -/
def misshapenUnless (test : Bool) : Option Fault :=
  if test then none else some .misshapen

mutual

/-- The first fault of a document under a shape, with so many kept arrays and objects around it. -/
def fault? (shape : Shape) (depth : Nat) : Document → Option Fault
  | .broken => some .notJson
  | .null =>
    match shape.base with
    | .choice _ => misshapenUnlessChoice shape
    | _ => misshapenUnless shape.takesNull
  | .bool _ =>
    match shape.base with
    | .skipped | .anything | .boolean => none
    | .choice _ => some .notJson
    | _ => some .misshapen
  | .num literal =>
    match shape.base with
    | .skipped => none
    | .choice _ => some .notJson
    | other =>
      if Number.overflows literal then some .notJson
      else
        match other with
        | .anything => none
        | .integer least most =>
          misshapenUnless ((Number.integer? literal).any fun n ↦ least ≤ n && n ≤ most)
        | .integerOrString =>
          misshapenUnless ((Number.integer? literal).any fun n ↦
            Number.least 32 ≤ n && n ≤ Number.most 32)
        | _ => some .misshapen
  | .str none =>
    match shape.base with
    | .skipped => none
    | _ => some .notJson
  | .str (some content) =>
    match shape.base with
    | .skipped | .anything | .integerOrString => none
    | .string accepts => misshapenUnless (accepts content)
    | .choice names => misshapenUnless (names.contains content)
    | _ => some .misshapen
  | .arr items closed =>
    match shape.base with
    | .skipped => itemsFault? .skipped depth items closed
    | .anything => depthFault? depth <|> itemsFault? .anything (depth + 1) items closed
    | .list item => depthFault? depth <|> itemsFault? item (depth + 1) items closed
    | .record .strict fields =>
      depthFault? depth <|> positionsFault? fields (depth + 1) items closed
    | .choice _ => some .notJson
    | _ => some .misshapen
  | .obj members closed =>
    match shape.base with
    | .skipped => valuesFault? .skipped depth members closed
    | .anything => depthFault? depth <|> valuesFault? .anything (depth + 1) members closed
    | .dict value => depthFault? depth <|> valuesFault? value (depth + 1) members closed
    | .record style fields =>
      depthFault? depth <|> membersFault? style fields (depth + 1) [] members closed
    | .choice names =>
      depthFault? depth <|>
        match members with
        | (some name, value) :: more =>
          misshapenUnless (names.contains name) <|>
            fault? (.nullable .nothing) (depth + 1) value <|>
            endFault? (closed && more.isEmpty)
        | _ => some .notJson
    | _ => some .misshapen
where
  /-- `null` stands for no choice. -/
  misshapenUnlessChoice (shape : Shape) : Option Fault :=
    if shape.takesNull then none else some .notJson

/-- The first fault of the items of a list. -/
def itemsFault? (item : Shape) (depth : Nat) : List Document → Bool → Option Fault
  | [], closed => endFault? closed
  | first :: rest, closed => fault? item depth first <|> itemsFault? item depth rest closed

/-- The first fault of the members of a dictionary. A key that is half a character is a fault unless
the dictionary is passed over. -/
def valuesFault? (value : Shape) (depth : Nat) :
    List (Option String × Document) → Bool → Option Fault
  | [], closed => endFault? closed
  | (key, first) :: rest, closed =>
    (if key.isNone && !value matches .skipped then some .notJson else none) <|>
      fault? value depth first <|> valuesFault? value depth rest closed

/-- The first fault of a record that is written as an array. -/
def positionsFault? (fields : List (String × Shape × Bool)) (depth : Nat) :
    List Document → Bool → Option Fault
  | [], closed => endFault? closed <|> misshapenUnless (fields.all fun field ↦ !field.2.2)
  | first :: rest, closed =>
    match fields with
    | [] => some .notJson
    | field :: fields =>
      fault? field.2.1 depth first <|> positionsFault? fields depth rest closed

/-- The first fault of a record that is written as an object, some names having been seen. -/
def membersFault? (style : RecordStyle) (fields : List (String × Shape × Bool)) (depth : Nat)
    (seen : List String) : List (Option String × Document) → Bool → Option Fault
  | [], closed =>
    endFault? closed <|>
      misshapenUnless (fields.all fun field ↦ !field.2.2 || seen.contains field.1)
  | (none, _) :: _, _ => some .notJson
  | (some key, first) :: rest, closed =>
    match fields.lookup key with
    | some (shape, _) =>
      misshapenUnless (style matches .lenient || !seen.contains key) <|>
        fault? shape depth first <|>
        membersFault? style fields depth (key :: seen) rest closed
    | none =>
      fault? (if style matches .open then .anything else .skipped) depth first <|>
        membersFault? style fields depth seen rest closed

end

/-! ### Values -/

mutual

/-- Whether a value has a shape. A value in memory has no depth to run out of, and its records are
objects. -/
def fits (shape : Shape) : Json → Bool
  | .null => shape.takesNull
  | .bool _ =>
    match shape.base with
    | .skipped | .anything | .boolean => true
    | _ => false
  | .num literal =>
    match shape.base with
    | .skipped | .anything => true
    | .integer least most => (Number.integer? literal).any fun n ↦ least ≤ n && n ≤ most
    | .integerOrString =>
      (Number.integer? literal).any fun n ↦ Number.least 32 ≤ n && n ≤ Number.most 32
    | _ => false
  | .str content =>
    match shape.base with
    | .skipped | .anything | .integerOrString => true
    | .string accepts => accepts content
    | .choice names => names.contains content
    | _ => false
  | .arr items =>
    match shape.base with
    | .skipped | .anything => true
    | .list item => itemsFit item items
    | _ => false
  | .obj members =>
    match shape.base with
    | .skipped | .anything => true
    | .dict value => valuesFit value members
    | .record _ fields =>
      membersFit fields members &&
        fields.all fun field ↦ !field.2.2 || members.any fun member ↦ member.1 == field.1
    | _ => false

/-- Whether all items have a shape. -/
def itemsFit (item : Shape) : List Json → Bool
  | [] => true
  | first :: rest => fits item first && itemsFit item rest

/-- Whether all members have values of a shape. -/
def valuesFit (value : Shape) : List (String × Json) → Bool
  | [] => true
  | (_, first) :: rest => fits value first && valuesFit value rest

/-- Whether all members that are fields have values of the field's shape. -/
def membersFit (fields : List (String × Shape × Bool)) : List (String × Json) → Bool
  | [] => true
  | (key, first) :: rest =>
    (match fields.lookup key with
      | some (shape, _) => fits shape first
      | none => true) &&
    membersFit fields rest

end

end Shape

end PullCache.Json
