import PullCache.Reference.Basic
import PullCache.Reference.Grammar

/-!
# Reading image references

Reading has two steps. `Reference.split` reads the parts off their separators and never fails;
`text_split` says that it loses nothing. `Reference.fault?` then judges the parts and names the
first ill-formed one, in the order digest, domain, path, length of the name, tag.
-/

namespace PullCache

open Text (cutFirst cutLast byteLength)
open Grammar

/-- Why a text is no image reference. -/
inductive ReferenceError where
  | empty
  | invalidDomain (text : String)
  | invalidPath (text : String)
  | invalidTag (text : String)
  | invalidDigest (text : String)
  | nameTooLong
deriving DecidableEq, Repr

namespace ReferenceError

/-- The wording of each error; all but two quote the offending part. -/
def message : ReferenceError → String
  | empty => "image reference is empty"
  | invalidDomain text => "invalid domain " ++ text
  | invalidPath text => "invalid repository path " ++ text
  | invalidTag text => "invalid tag " ++ text
  | invalidDigest text => "invalid digest " ++ text
  | nameTooLong => "repository name must not be longer than 255 characters"

end ReferenceError

namespace Reference

/-- The most bytes that domain, slash and path may take together. -/
def maxNameLength : Nat := 255

/-- Parts a name at its first slash when what stands before it is meant as a domain. -/
def splitDomain (name : List Char) : Option (List Char) × List Char :=
  match cutFirst '/' name with
  | some (first, rest) => if looksLikeDomain first then (some first, rest) else (none, name)
  | none => (none, name)

/-- Parts a name without its domain at its last colon when no slash follows: any colon left there
can only introduce a tag. -/
def splitTag (rest : List Char) : List Char × Option (List Char) :=
  match cutLast ':' rest with
  | some (path, tag) => if tag.contains '/' then (rest, none) else (path, some tag)
  | none => (rest, none)

/-- Parts a text at its first at sign into name and digest. -/
def splitDigest (text : List Char) : List Char × Option (List Char) :=
  match cutFirst '@' text with
  | some (name, digest) => (name, some digest)
  | none => (text, none)

/-- Reads the parts of any text off its separators, without judging them. -/
def split (text : String) : Reference :=
  let (name, digest) := splitDigest text.toList
  let (domain, rest) := splitDomain name
  let (path, tag) := splitTag rest
  { domain := domain.map String.ofList
    path := String.ofList path
    tag := tag.map String.ofList
    digest := digest.map String.ofList }

/-- Bytes of domain, slash and path in the written form. -/
def nameLength (r : Reference) : Nat :=
  (match r.domain with
    | some domain => byteLength domain.toList + 1
    | none => 0) +
  byteLength r.path.toList

/-- The first ill-formed part, in the order digest, domain, path, length of the name, tag. -/
def fault? (r : Reference) : Option ReferenceError :=
  match r.digest.filter fun digest ↦ !isDigest digest.toList with
  | some digest => some (.invalidDigest digest)
  | none =>
    match r.domain.filter fun domain ↦ !isDomain domain.toList with
    | some domain => some (.invalidDomain domain)
    | none =>
      if !isPath r.path.toList then some (.invalidPath r.path)
      else if maxNameLength < r.nameLength then some .nameTooLong
      else
        match r.tag.filter fun tag ↦ !isTag tag.toList with
        | some tag => some (.invalidTag tag)
        | none => none

/-- Reads an image reference. -/
def parse (text : String) : Except ReferenceError Reference :=
  if text = "" then .error .empty
  else
    match (split text).fault? with
    | some fault => .error fault
    | none => .ok (split text)

/-! ### Splitting loses nothing -/

theorem splitDomain_joined (name : List Char) :
    (match (splitDomain name).1 with
      | some domain => domain ++ ['/']
      | none => []) ++ (splitDomain name).2 = name := by
  unfold splitDomain
  rcases h : cutFirst '/' name with - | ⟨first, rest⟩
  · simp
  · obtain ⟨rfl, -⟩ := Text.cutFirst_eq_some_iff.1 h
    by_cases hd : looksLikeDomain first <;> simp [hd]

theorem splitTag_joined (rest : List Char) :
    (splitTag rest).1 ++ (match (splitTag rest).2 with
      | some tag => ':' :: tag
      | none => []) = rest := by
  unfold splitTag
  rcases h : cutLast ':' rest with - | ⟨path, tag⟩
  · simp
  · obtain ⟨rfl, -⟩ := Text.cutLast_eq_some_iff.1 h
    by_cases hs : '/' ∈ tag <;> simp [hs]

theorem splitDigest_joined (text : List Char) :
    (splitDigest text).1 ++ (match (splitDigest text).2 with
      | some digest => '@' :: digest
      | none => []) = text := by
  unfold splitDigest
  rcases h : cutFirst '@' text with - | ⟨name, digest⟩
  · simp
  · obtain ⟨rfl, -⟩ := Text.cutFirst_eq_some_iff.1 h
    simp

/-- **The parts of a text, written again, are the text.** -/
theorem text_split (s : String) : (split s).text = s := by
  have h1 := splitDigest_joined s.toList
  have h2 := splitDomain_joined (splitDigest s.toList).1
  have h3 := splitTag_joined (splitDomain (splitDigest s.toList).1).2
  apply String.toList_inj.1
  unfold split text
  rcases hg : splitDigest s.toList with ⟨name, digest⟩
  rcases hd : splitDomain name with ⟨domain, rest⟩
  rcases ht : splitTag rest with ⟨path, tag⟩
  simp only [hg, hd, ht] at h1 h2 h3 ⊢
  rw [← h1, ← h2, ← h3]
  rcases domain with - | domain <;> rcases tag with - | tag <;> rcases digest with - | digest <;>
    simp

end Reference

end PullCache
