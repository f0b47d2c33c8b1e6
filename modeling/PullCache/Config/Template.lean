import PullCache.Config.Environment
import PullCache.Text.Cut

/-!
# Templates

A configuration may name variables of the environment: `$`, then a name in braces, is a placeholder.
A name is one character or more, of any kind but a closing brace. `pieces` parts a text into
placeholders and the characters between them, once and from the left, so that a value is never
looked at for further placeholders. `text_pieces` says that nothing is lost.
-/

namespace PullCache

/-- A variable that a template names and that has no value. -/
structure UnsetVariable where
  name : String
  cause : VariableError
deriving DecidableEq, Repr

namespace Template

/-- A piece of a template. -/
inductive Piece where
  | char (c : Char)
  | placeholder (name : List Char)
deriving DecidableEq, Repr

/-- A piece as it is written. -/
def Piece.text : Piece → List Char
  | char c => [c]
  | placeholder name => '$' :: '{' :: (name ++ ['}'])

/-- The name in the placeholder that a text starts with, if it starts with one. -/
def nameAt? : List Char → Option (List Char)
  | '$' :: '{' :: rest =>
    match Text.cutFirst '}' rest with
    | some (c :: name, _) => some (c :: name)
    | _ => none
  | _ => none

/-- The pieces of a text after so many of its characters, which belong to a placeholder. -/
def piecesAfter : Nat → List Char → List Piece
  | _, [] => []
  | n + 1, _ :: cs => piecesAfter n cs
  | 0, c :: cs =>
    match nameAt? (c :: cs) with
    | some name => .placeholder name :: piecesAfter (name.length + 2) cs
    | none => .char c :: piecesAfter 0 cs

/-- The pieces of a text. -/
def pieces (text : List Char) : List Piece :=
  piecesAfter 0 text

/-- Puts values for the placeholders; fails at the first one without a value. -/
def fillPieces (env : Environment) : List Piece → Except UnsetVariable (List Char)
  | [] => .ok []
  | .char c :: rest => (fillPieces env rest).map (c :: ·)
  | .placeholder name :: rest =>
    match env.value (String.ofList name) with
    | .error cause => .error { name := String.ofList name, cause }
    | .ok value => (fillPieces env rest).map (value.toList ++ ·)

/-- Fills a template from the environment. -/
def fill (env : Environment) (text : String) : Except UnsetVariable String :=
  (fillPieces env (pieces text.toList)).map String.ofList

/-! ### Laws of the pieces -/

/-- **What a placeholder is**: a name that is not empty and has no closing brace, between braces
that follow a dollar sign. -/
theorem nameAt?_eq_some_iff {text name : List Char} :
    nameAt? text = some name ↔
      name ≠ [] ∧ '}' ∉ name ∧ ∃ rest, text = '$' :: '{' :: (name ++ '}' :: rest) := by
  constructor
  · intro h
    unfold nameAt? at h
    split at h
    · next rest =>
      split at h
      · next c cs after hcut =>
        cases h
        obtain ⟨rfl, hnot⟩ := Text.cutFirst_eq_some_iff.1 hcut
        exact ⟨by simp, hnot, after, rfl⟩
      · cases h
    · cases h
  · rintro ⟨hne, hnot, rest, rfl⟩
    obtain ⟨c, cs, rfl⟩ := List.exists_cons_of_ne_nil hne
    have hcut := Text.cutFirst_append hnot rest
    simp only [nameAt?, hcut]

theorem piecesAfter_eq_drop (n : Nat) (text : List Char) :
    piecesAfter n text = pieces (text.drop n) := by
  induction text generalizing n with
  | nil => cases n <;> simp [pieces, piecesAfter]
  | cons c cs ih =>
    cases n with
    | zero => rfl
    | succ n =>
      rw [piecesAfter, ih]
      rfl

/-- **Nothing is lost** by parting a text into pieces. -/
theorem text_pieces (text : List Char) : ((pieces text).map Piece.text).flatten = text := by
  induction hlen : text.length using Nat.strongRecOn generalizing text with
  | ind n ih =>
    subst hlen
    cases text with
    | nil => rfl
    | cons c cs =>
      rw [pieces, piecesAfter]
      split
      · next name h =>
        obtain ⟨-, -, rest, htext⟩ := nameAt?_eq_some_iff.1 h
        obtain ⟨rfl, rfl⟩ := List.cons_eq_cons.1 htext
        have hdrop : ('{' :: (name ++ '}' :: rest)).drop (name.length + 2) = rest := by
          have : '{' :: (name ++ '}' :: rest) = ('{' :: (name ++ ['}'])) ++ rest := by simp
          rw [this, List.drop_left' (by simp)]
        rw [piecesAfter_eq_drop, hdrop, List.map_cons, List.flatten_cons,
          ih rest.length (by simp; omega) rest rfl]
        simp [Piece.text]
      · have := ih cs.length (by simp) cs rfl
        rw [List.map_cons, List.flatten_cons]
        simpa [Piece.text, pieces] using this

end Template

end PullCache
