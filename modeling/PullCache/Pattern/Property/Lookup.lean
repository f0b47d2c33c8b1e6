import PullCache.Pattern.CharSet
import PullCache.Pattern.Property.Binary
import PullCache.Pattern.Property.Further
import PullCache.Pattern.Property.Script

/-!
# Sets by property name

A class such as `\p{Greek}` or `\p{gc=Lu}` names a property. Names are compared in lower case and
without blanks, hyphens and underscores, and a leading `is` is dropped.
-/

namespace PullCache.Pattern.Property

/-- A name in the form in which names are compared. -/
def canonicalName (name : List Char) : String :=
  let ascii := name.filter fun c ↦ c.toNat < 0x80
  let lower := ascii.map Char.toLower
  let (isLed, body) := match lower with
    | 'i' :: 's' :: rest => (true, rest)
    | rest => (false, rest)
  let body := body.filter fun c ↦ c != ' ' && c != '_' && c != '-'
  -- `isc` is one of the names that only look led: it is short for a category of one letter.
  if isLed && body == ['c'] then "isc" else String.ofList body

/-- A general category or a group of them. -/
def category? (name : String) : Option CharSet :=
  if name = "any" then some .all
  else if name = "ascii" then some (.range 0 0x7F)
  else if name = "cn" ∨ name = "unassigned" then some (.compl (.spans Category.assigned))
  else if name = "c" ∨ name = "other" ∨ name = "isc" then
    some (.union (.compl (.spans Category.assigned))
      (.spans (Category.control ++ Category.format ++ Category.privateUse)))
  else (Category.byName.lookup name).map .spans

/-- A script. -/
def script? (name : String) : Option CharSet :=
  (Script.byName.find? fun entry ↦ entry.1.contains name).map fun entry ↦ .spans entry.2

/-- A property without a value, a category or a script. -/
def plain? (name : String) : Option CharSet :=
  (byName.lookup name).map .spans <|> furtherByName.lookup name <|> category? name <|>
    script? name

/-- A property with a value. -/
def valued? (name value : String) : Option CharSet :=
  if name = "gc" ∨ name = "generalcategory" then category? value
  else if ["sc", "script", "scx", "scriptextensions"].contains name then script? value
  else none

/-- The text before and after a mark of one or more characters, if it occurs. -/
def cutAt (mark : List Char) : List Char → Option (List Char × List Char)
  | [] => none
  | c :: cs =>
    if mark.isPrefixOf (c :: cs) then some ([], (c :: cs).drop mark.length)
    else (cutAt mark cs).map fun (before, after) ↦ (c :: before, after)

/-- The set that the text between the braces of a property class stands for, before the class
itself negates it: a name, or a name and a value. -/
def ofText? (text : List Char) : Option CharSet :=
  match cutAt ['!', '='] text with
  | some (name, value) => (valued? (canonicalName name) (canonicalName value)).map .compl
  | none =>
    match cutAt [':'] text <|> cutAt ['='] text with
    | some (name, value) => valued? (canonicalName name) (canonicalName value)
    | none => plain? (canonicalName text)

end PullCache.Pattern.Property
