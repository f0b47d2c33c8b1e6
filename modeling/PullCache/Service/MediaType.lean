import PullCache.Text.Cut

/-!
# Media types

The text of a `Content-Type`: a type, a slash, a subtype, and parameters after semicolons. A subtype
may end with a plus sign and the name of the format it builds on.
-/

namespace PullCache

/-- A media type without its parameters, in lower case. -/
structure MediaType where
  type : List Char
  subtype : List Char
  /-- What follows the last plus sign of the subtype. -/
  format : Option (List Char)
deriving DecidableEq, Repr

namespace MediaType

/-- The characters that names are made of. -/
def isTokenChar (c : Char) : Bool :=
  c.isAlphanum || "!#$%&'*+-.^_`|~".toList.contains c

/-- What is being read of the parameters. -/
inductive ParamState where
  /-- A name; the flag says whether it has begun. -/
  | name (begun : Bool)
  /-- A value; the flag says whether it has begun. -/
  | value (begun : Bool)
  /-- A value in quotes; the flag says whether it has begun. -/
  | quoted (begun : Bool)
  /-- Behind the closing quote. -/
  | afterQuoted
deriving DecidableEq, Repr

/-- Reads one more character of the parameters. Blanks may stand before a name and behind a closing
quote. -/
def ParamState.next : ParamState → Char → Option ParamState
  | .name begun, c =>
    if c = ' ' ∧ !begun then some (.name false)
    else if isTokenChar c then some (.name true)
    else if c = '=' ∧ begun then some (.value false)
    else none
  | .value begun, c =>
    if c = '"' ∧ !begun then some (.quoted false)
    else if isTokenChar c then some (.value true)
    else if c = ';' ∧ begun then some (.name false)
    else none
  | .quoted begun, c =>
    if c = '"' ∧ begun then some .afterQuoted
    else if 0x1F < c.toNat ∧ c.toNat < 0x7F then some (.quoted true)
    else none
  | .afterQuoted, c =>
    if c = ';' then some (.name false) else if c = ' ' then some .afterQuoted else none

/-- Whether the parameters may end here. -/
def ParamState.mayEnd : ParamState → Bool
  | .name begun => !begun
  | .value _ => true
  | .quoted _ => false
  | .afterQuoted => true

/-- Whether a text after the first semicolon is a list of parameters. -/
def isParams (text : List Char) : Bool :=
  (text.foldlM ParamState.next (.name false)).any ParamState.mayEnd

/-- Reads a subtype: a plus sign that is not the first character parts it from its format. -/
def splitFormat (subtype : List Char) : List Char × Option (List Char) :=
  match Text.cutLast '+' subtype with
  | some ([], _) => (subtype, none)
  | some (base, format) => (base, some format)
  | none => (subtype, none)

/-- Reads a media type. -/
def ofText? (text : String) : Option MediaType := do
  let (type, rest) ← Text.cutFirst '/' text.toList
  let (subtype, params) := match Text.cutFirst ';' rest with
    | some (subtype, params) => (subtype, some params)
    | none => (rest, none)
  let lower := subtype.map Char.toLower
  let (base, format) := splitFormat lower
  if !type.isEmpty && type.all isTokenChar && subtype.all isTokenChar &&
      params.all (fun params ↦ !subtype.isEmpty && isParams params) then
    some { type := type.map Char.toLower, subtype := base, format }
  else none

/-- Whether the type says that a body is JSON. -/
def isJson (m : MediaType) : Bool :=
  m.type == "application".toList &&
    (m.subtype == "json".toList || m.format == some "json".toList)

end MediaType

end PullCache
