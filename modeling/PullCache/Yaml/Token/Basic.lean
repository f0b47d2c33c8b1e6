import PullCache.Yaml.Tag

/-!
# YAML tokens

The tokens say by marks of their own where a block of indented lines opens and closes, so that a
list of them can be read without regard to the layout.
-/

namespace PullCache.Yaml

/-- How a scalar is written. -/
inductive Style where
  | plain
  | quoted
  | literal
  | folded
deriving DecidableEq, Repr

/-- A piece of a YAML text. -/
inductive Token where
  | directive (directive : Directive)
  | documentStart
  | documentEnd
  /-- The start of a sequence whose items stand one below the other. -/
  | openSequence
  /-- The start of a mapping whose keys stand one below the other. -/
  | openMapping
  /-- The end of either. -/
  | closeBlock
  /-- An opening bracket. -/
  | openItems
  | closeItems
  /-- An opening brace. -/
  | openMembers
  | closeMembers
  /-- The dash before an item. -/
  | item
  | comma
  /-- The start of a key, whether or not it has a mark. -/
  | key
  /-- The colon before a value. -/
  | value
  | aliasOf (name : List Char)
  | anchor (name : List Char)
  | tag (tag : Tag)
  | scalar (style : Style) (text : List Char)
deriving DecidableEq, Repr

end PullCache.Yaml
