import PullCache.Pattern.Reader

/-!
# Patterns

A pattern is its text and what the text means. It matches anywhere in a text, unless it is anchored.
-/

namespace PullCache

/-- A pattern that has been read. -/
structure Pattern where
  text : String
  expr : Pattern.Expr
deriving Inhabited

namespace Pattern

/-- Reads a pattern, unless the text is none. -/
def ofText? (text : String) : Option Pattern :=
  (Reader.read? text).map fun expr ↦ { text, expr }

/-- Whether a pattern matches some part of a text. -/
def occursIn (p : Pattern) (text : String) : Bool :=
  p.expr.occursIn text.toList

/-- A pattern that is read keeps its text. -/
theorem text_of_ofText? {text : String} {p : Pattern} (h : ofText? text = some p) :
    p.text = text := by
  obtain ⟨expr, -, rfl⟩ := Option.map_eq_some_iff.1 h
  rfl

end Pattern

end PullCache
