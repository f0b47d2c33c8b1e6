import Mathlib.Logic.Basic
import PullCache.Reference.Parse

/-!
# Where a text is cut

`Reference.split` reads the parts of a reference off a text, separator by separator. Here its result
is described by where the separators stand (`Reference.IsCutOf`): the digest begins behind the first
`@`, the domain ends at the first slash if what stands before it names a registry, and the tag
begins behind the last colon of what is left if no slash follows. Of the parts themselves nothing is
asked, so ill-formed texts are cut too.

Each of the three cuts is pinned down by an equivalence, and they add up to `split_eq_iff`: the
parts that `split` reads are the only ones that fit the description.
-/

namespace PullCache.Reference

open Grammar

variable {r r' : Reference} {s : String} {text path rest first : List Char}
  {domain tag digest : Option String}

/-! ### The written form as characters -/

/-- A domain with the slash that ends it. -/
def domainStart : Option String → List Char
  | some domain => domain.toList ++ ['/']
  | none => []

/-- A part with the sign that introduces it. -/
def introduced (sign : Char) : Option String → List Char
  | some part => sign :: part.toList
  | none => []

theorem toList_text (r : Reference) : r.text.toList =
    domainStart r.domain ++ (r.path.toList ++ introduced ':' r.tag) ++ introduced '@' r.digest := by
  rcases r with ⟨- | domain, path, - | tag, - | digest⟩ <;> simp [text, domainStart, introduced]

/-- Domain, slash and path in the written form. -/
def name (r : Reference) : String :=
  ({ r with tag := none, digest := none } : Reference).text

theorem toList_name (r : Reference) : r.name.toList = domainStart r.domain ++ r.path.toList := by
  simp [name, toList_text, introduced]

theorem nameLength_eq (r : Reference) : r.nameLength = r.name.utf8ByteSize := by
  rw [← Text.byteLength_toList, toList_name, Text.byteLength_append, nameLength]
  rcases r.domain with - | domain
  · rfl
  · rw [domainStart, Text.byteLength_append]
    rfl

/-- What comes before the digest in the written form. -/
def taggedName (r : Reference) : String :=
  ({ r with digest := none } : Reference).text

theorem toList_taggedName (r : Reference) : r.taggedName.toList =
    domainStart r.domain ++ (r.path.toList ++ introduced ':' r.tag) := by
  simp [taggedName, toList_text, introduced]

/-- What comes before the digest is free of at signs when its parts are. -/
theorem notMem_taggedName_iff : '@' ∉ r.taggedName.toList ↔
    (∀ domain, r.domain = some domain → '@' ∉ domain.toList) ∧ '@' ∉ r.path.toList ∧
      ∀ tag, r.tag = some tag → '@' ∉ tag.toList := by
  rw [toList_taggedName]
  rcases r with ⟨- | domain, path, - | tag, digest⟩ <;> simp [domainStart, introduced]

/-! ### The three cuts -/

theorem splitDigest_eq_iff : splitDigest text = (rest, digest.map String.toList) ↔
    text = rest ++ introduced '@' digest ∧ '@' ∉ rest := by
  constructor
  · intro h
    unfold splitDigest at h
    split at h
    · next before after hcut =>
      obtain ⟨rfl, hdigest⟩ := Prod.mk.inj h
      obtain ⟨digest, rfl, rfl⟩ := Option.map_eq_some_iff.1 hdigest.symm
      exact Text.cutFirst_eq_some_iff.1 hcut
    · next hcut =>
      obtain ⟨rfl, hdigest⟩ := Prod.mk.inj h
      obtain rfl := Option.map_eq_none_iff.1 hdigest.symm
      exact ⟨(List.append_nil _).symm, Text.cutFirst_eq_none_iff.1 hcut⟩
  · rintro ⟨rfl, h⟩
    rcases digest with - | digest
    · rw [introduced, List.append_nil, splitDigest, Text.cutFirst_eq_none_iff.2 h]
      rfl
    · rw [introduced, splitDigest, Text.cutFirst_append h]
      rfl

/-- What stands before the first slash is meant as a registry when it has a dot or a colon, or is
the name of the node. -/
def NamesRegistry (text : List Char) : Prop :=
  '.' ∈ text ∨ ':' ∈ text ∨ text = localHost.toList

theorem looksLikeDomain_iff : looksLikeDomain text = true ↔ NamesRegistry text := by
  simp only [looksLikeDomain, NamesRegistry, Bool.or_eq_true, List.contains_iff_mem, beq_iff_eq,
    or_assoc]
  rfl

theorem splitDomain_eq_iff : splitDomain text = (domain.map String.toList, rest) ↔
    text = domainStart domain ++ rest ∧
      (∀ d, domain = some d → '/' ∉ d.toList ∧ NamesRegistry d.toList) ∧
      (domain = none → ∀ first after, rest = first ++ '/' :: after → '/' ∉ first →
        ¬ NamesRegistry first) := by
  simp only [← looksLikeDomain_iff]
  constructor
  · intro h
    unfold splitDomain at h
    split at h
    · next first after hcut =>
      obtain ⟨rfl, hfirst⟩ := Text.cutFirst_eq_some_iff.1 hcut
      split at h
      · next hlooks =>
        obtain ⟨hdomain, rfl⟩ := Prod.mk.inj h
        obtain ⟨d, rfl, rfl⟩ := Option.map_eq_some_iff.1 hdomain.symm
        refine ⟨by simp [domainStart], fun d' hd' ↦ ?_, nofun⟩
        obtain rfl := Option.some.inj hd'
        exact ⟨hfirst, hlooks⟩
      · next hlooks =>
        obtain ⟨hdomain, rfl⟩ := Prod.mk.inj h
        obtain rfl := Option.map_eq_none_iff.1 hdomain.symm
        refine ⟨rfl, nofun, fun _ first' after' heq hfirst' ↦ ?_⟩
        -- the first slash is the same one in both readings
        obtain ⟨rfl, -⟩ := Text.eq_of_append_sep_eq heq hfirst hfirst'
        exact hlooks
    · next hcut =>
      obtain ⟨hdomain, rfl⟩ := Prod.mk.inj h
      obtain rfl := Option.map_eq_none_iff.1 hdomain.symm
      refine ⟨rfl, nofun, fun _ first after heq _ ↦ ?_⟩
      exact absurd (heq ▸ by simp) (Text.cutFirst_eq_none_iff.1 hcut)
  · rintro ⟨rfl, hdomain, hstart⟩
    unfold splitDomain
    rcases domain with - | d
    · rw [domainStart, List.nil_append]
      split
      · next first after hcut =>
        obtain ⟨heq, hfirst⟩ := Text.cutFirst_eq_some_iff.1 hcut
        exact if_neg (hstart rfl first after heq hfirst)
      · rfl
    · obtain ⟨hslash, hlooks⟩ := hdomain d rfl
      rw [domainStart, List.append_assoc, List.singleton_append, Text.cutFirst_append hslash]
      exact if_pos hlooks

theorem splitTag_eq_iff : splitTag text = (path, tag.map String.toList) ↔
    text = path ++ introduced ':' tag ∧
      (∀ t, tag = some t → ':' ∉ t.toList ∧ '/' ∉ t.toList) ∧
      (tag = none → ∀ before after, path = before ++ ':' :: after → ':' ∉ after → '/' ∈ after) := by
  constructor
  · intro h
    unfold splitTag at h
    split at h
    · next before after hcut =>
      obtain ⟨rfl, hcolon⟩ := Text.cutLast_eq_some_iff.1 hcut
      split at h
      · next hslash =>
        obtain ⟨rfl, htag⟩ := Prod.mk.inj h
        obtain rfl := Option.map_eq_none_iff.1 htag.symm
        refine ⟨(List.append_nil _).symm, nofun, fun _ before' after' heq hafter ↦ ?_⟩
        -- the last colon is the same one in both readings
        rw [Text.cutLast_eq_some_iff.2 ⟨heq, hafter⟩] at hcut
        obtain ⟨-, rfl⟩ := Prod.mk.inj (Option.some.inj hcut)
        exact List.contains_iff_mem.1 hslash
      · next hslash =>
        obtain ⟨rfl, htag⟩ := Prod.mk.inj h
        obtain ⟨t, rfl, rfl⟩ := Option.map_eq_some_iff.1 htag.symm
        refine ⟨rfl, fun t' ht' ↦ ?_, nofun⟩
        obtain rfl := Option.some.inj ht'
        exact ⟨hcolon, fun hmem ↦ hslash (List.contains_iff_mem.2 hmem)⟩
    · next hcut =>
      obtain ⟨rfl, htag⟩ := Prod.mk.inj h
      obtain rfl := Option.map_eq_none_iff.1 htag.symm
      refine ⟨(List.append_nil _).symm, nofun, fun _ before after heq _ ↦ ?_⟩
      exact absurd (heq ▸ by simp) (Text.cutLast_eq_none_iff.1 hcut)
  · rintro ⟨rfl, htag, huntagged⟩
    unfold splitTag
    rcases tag with - | t
    · rw [introduced, List.append_nil]
      split
      · next before after hcut =>
        obtain ⟨heq, hcolon⟩ := Text.cutLast_eq_some_iff.1 hcut
        exact if_pos (List.contains_iff_mem.2 (huntagged rfl before after heq hcolon))
      · rfl
    · obtain ⟨hcolon, hslash⟩ := htag t rfl
      rw [introduced, Text.cutLast_eq_some_iff.2 ⟨rfl, hcolon⟩]
      exact if_neg fun hmem ↦ hslash (List.contains_iff_mem.1 hmem)

/-! ### All three -/

/-- **Where a text is cut into the parts of a reference**, whatever the parts are like. -/
structure IsCutOf (r : Reference) (s : String) : Prop where
  /-- Nothing is lost. -/
  text : r.text = s
  /-- A digest begins behind the first at sign, and without one there is none. -/
  digest : '@' ∉ r.taggedName.toList
  /-- A domain ends at the first slash and names a registry. -/
  domain : ∀ domain, r.domain = some domain → '/' ∉ domain.toList ∧ NamesRegistry domain.toList
  /-- Without one, what stands before the first slash names none. A tag has no slash, so this is
  said of the path. -/
  start : r.domain = none → ∀ first rest, r.path.toList = first ++ '/' :: rest → '/' ∉ first →
    ¬ NamesRegistry first
  /-- A tag begins behind the last colon, and no slash follows. -/
  tag : ∀ tag, r.tag = some tag → ':' ∉ tag.toList ∧ '/' ∉ tag.toList
  /-- Without one, the last colon is followed by a slash. -/
  untagged : r.tag = none → ∀ before after, r.path.toList = before ++ ':' :: after →
    ':' ∉ after → '/' ∈ after

/-- A first slash of the path and the tag is one of the path. -/
theorem exists_path_of_tagged {after : List Char} (htag : ∀ t, tag = some t → '/' ∉ t.toList)
    (h : path ++ introduced ':' tag = first ++ '/' :: after) (hfirst : '/' ∉ first) :
    ∃ rest, path = first ++ '/' :: rest := by
  have hsuffix : '/' ∉ introduced ':' tag := by
    rcases tag with - | t
    · simp [introduced]
    · simpa [introduced] using htag t rfl
  have hmem : '/' ∈ path := by
    have : '/' ∈ path ++ introduced ':' tag := by simp [h]
    exact (List.mem_append.1 this).resolve_right hsuffix
  obtain ⟨first', rest, rfl, hfirst'⟩ := List.eq_append_cons_of_mem hmem
  rw [List.append_assoc, List.cons_append] at h
  obtain ⟨rfl, -⟩ := Text.eq_of_append_sep_eq h hfirst' hfirst
  exact ⟨rest, rfl⟩

theorem split_eq_iff_exists : split s = r ↔ ∃ text rest,
    splitDigest s.toList = (text, r.digest.map String.toList) ∧
      splitDomain text = (r.domain.map String.toList, rest) ∧
      splitTag rest = (r.path.toList, r.tag.map String.toList) := by
  have hmap : ∀ part : Option (List Char), (part.map String.ofList).map String.toList = part := by
    rintro (- | part) <;> simp
  have hmap' : ∀ part : Option String, (part.map String.toList).map String.ofList = part := by
    rintro (- | part) <;> simp
  constructor
  · rintro rfl
    refine ⟨(splitDigest s.toList).1, (splitDomain (splitDigest s.toList).1).2, ?_, ?_, ?_⟩ <;>
      simp [split, hmap]
  · rintro ⟨text, rest, hdigest, hdomain, htag⟩
    simp only [split, hdigest, hdomain, htag, hmap', String.ofList_toList]

/-- **Every text is cut in one way only**, and `split` finds it. -/
theorem split_eq_iff : split s = r ↔ r.IsCutOf s := by
  rw [split_eq_iff_exists]
  simp only [splitDigest_eq_iff, splitDomain_eq_iff, splitTag_eq_iff]
  constructor
  · rintro ⟨text, rest, ⟨hs, hat⟩, ⟨rfl, hdomain, hstart⟩, rfl, htag, huntagged⟩
    refine ⟨?_, ?_, hdomain, fun hd first after heq ↦ ?_, htag, huntagged⟩
    · rw [← String.toList_inj, toList_text, hs]
    · rwa [toList_taggedName]
    · refine hstart hd first (after ++ introduced ':' r.tag) ?_
      rw [heq, List.append_assoc, List.cons_append]
  · intro h
    have hat := h.digest
    rw [toList_taggedName] at hat
    refine ⟨_, _, ⟨by rw [← h.text, toList_text], hat⟩, ⟨rfl, h.domain, ?_⟩, rfl, h.tag, h.untagged⟩
    intro hd first after heq hfirst
    obtain ⟨rest, hrest⟩ := exists_path_of_tagged (fun t ht ↦ (h.tag t ht).2) heq hfirst
    exact h.start hd first rest hrest hfirst

end PullCache.Reference
