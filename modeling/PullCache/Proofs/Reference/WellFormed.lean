import PullCache.Proofs.Grammar.Parts
import PullCache.Proofs.Reference.Cut

/-!
# Reading accepts the well-formed references

`Reference.WellFormed` says by the languages of `PullCache.Grammar` which references have a written
form that can be read. The main result is that a text reads as a reference exactly when it is the
written form of that reference and the reference is well formed. So reading loses nothing, and no
text has two readings.

The two directions rest on different facts. That what is read is well formed comes from the judge
of the parts, `fault?_eq_none_iff`. That what is well formed is read needs the cuts to fall between
the parts and nowhere else; this is `split_text`, which asks only for the separators to be where
they belong (`Reference.Separated`), not for well-formed parts.
-/

namespace PullCache.Reference

open Grammar

variable {r : Reference}

/-! ### Cuts between the parts -/

/-- The separators stand between the parts only, and what begins the written form is not mistaken
for a domain, nor a domain for a path. -/
structure Separated (r : Reference) : Prop where
  domain : ∀ domain, r.domain = some domain →
    '@' ∉ domain.toList ∧ '/' ∉ domain.toList ∧ looksLikeDomain domain.toList = true
  start : r.domain = none → ∀ first rest, r.path.toList = first ++ '/' :: rest → '/' ∉ first →
    looksLikeDomain first = false
  path : '@' ∉ r.path.toList ∧ ':' ∉ r.path.toList
  tag : ∀ tag, r.tag = some tag → '@' ∉ tag.toList ∧ '/' ∉ tag.toList ∧ ':' ∉ tag.toList

/-- **A written reference is cut into its own parts** when its separators are where they belong. -/
theorem split_text (h : r.Separated) : split r.text = r := by
  refine split_eq_iff.2 ⟨rfl, ?_, fun domain hd ↦ ?_, fun hd first rest heq hfirst ↦ ?_,
    fun tag ht ↦ ?_, fun _ before after heq _ ↦ ?_⟩
  · exact notMem_taggedName_iff.2
      ⟨fun domain hd ↦ (h.domain domain hd).1, h.path.1, fun tag ht ↦ (h.tag tag ht).1⟩
  · obtain ⟨-, hslash, hlooks⟩ := h.domain domain hd
    exact ⟨hslash, looksLikeDomain_iff.1 hlooks⟩
  · rw [← looksLikeDomain_iff, h.start hd first rest heq hfirst]
    exact Bool.false_ne_true
  · exact ⟨(h.tag tag ht).2.2, (h.tag tag ht).2.1⟩
  · exact absurd (heq ▸ by simp) h.path.2

/-! ### Judging the parts -/

theorem fault?_eq_none_iff : r.fault? = none ↔
    (∀ digest, r.digest = some digest → isDigest digest.toList = true) ∧
    (∀ domain, r.domain = some domain → isDomain domain.toList = true) ∧
    isPath r.path.toList = true ∧ r.nameLength ≤ maxNameLength ∧
    ∀ tag, r.tag = some tag → isTag tag.toList = true := by
  have hfilter : ∀ (p : List Char → Bool) (part : Option String),
      (part.filter fun text ↦ !p text.toList) = none ↔
        ∀ text, part = some text → p text.toList = true := by
    rintro p (- | part)
    · simp
    · simp [Option.filter_some]
  rw [← hfilter isDigest r.digest, ← hfilter isDomain r.domain, ← hfilter isTag r.tag]
  unfold fault?
  rcases r.digest.filter _ with - | digest
  · rcases r.domain.filter _ with - | domain
    · by_cases hpath : isPath r.path.toList = true
      · by_cases hlength : r.nameLength ≤ maxNameLength
        · rcases r.tag.filter _ with - | tag <;> simp [hpath, hlength, Nat.not_lt.2 hlength]
        · simp [hpath, hlength, Nat.not_le.1 hlength]
      · simp [hpath]
    · simp
  · simp

theorem parse_eq_ok_iff_split {s : String} :
    parse s = .ok r ↔ s ≠ "" ∧ split s = r ∧ r.fault? = none := by
  unfold parse
  by_cases hs : s = ""
  · simp [hs]
  · rw [if_neg hs]
    rcases hfault : (split s).fault? with - | fault
    · constructor
      · intro h
        obtain rfl := Except.ok.inj h
        exact ⟨hs, rfl, hfault⟩
      · rintro ⟨-, rfl, -⟩
        rfl
    · constructor
      · intro h
        cases h
      · rintro ⟨-, rfl, h⟩
        rw [hfault] at h
        cases h

/-! ### Well-formed references -/

/-- Each part is in its language, and the name does not outgrow its limit. Beyond their languages,
`domain` asks a domain to look like one, and `start` asks that a reference without a domain does not
begin with what would be read as one. -/
structure WellFormed (r : Reference) : Prop where
  domain : ∀ domain, r.domain = some domain → domain.toList ∈ Grammar.domain ∧
    ('.' ∈ domain.toList ∨ ':' ∈ domain.toList ∨ domain = localHost)
  start : r.domain = none → ∀ first rest, r.path.toList = first ++ '/' :: rest → '/' ∉ first →
    '.' ∉ first ∧ first ≠ localHost.toList
  path : r.path ≠ "" ∧ r.path.toList ∈ separatedBy '/' pathComponent
  tag : ∀ tag, r.tag = some tag → tag.toList ∈ Grammar.tag
  digest : ∀ digest, r.digest = some digest → digest.toList ∈ Grammar.digest
  length : r.name.utf8ByteSize ≤ maxNameLength

/-- The judge of the parts finds no fault with a reference exactly when the parts are in their
languages. -/
theorem fault?_eq_none_iff_mem : r.fault? = none ↔
    (∀ digest, r.digest = some digest → digest.toList ∈ Grammar.digest) ∧
    (∀ domain, r.domain = some domain → domain.toList ∈ Grammar.domain) ∧
    r.path.toList ∈ separatedBy '/' pathComponent ∧ r.name.utf8ByteSize ≤ maxNameLength ∧
    ∀ tag, r.tag = some tag → tag.toList ∈ Grammar.tag := by
  simp only [fault?_eq_none_iff, isDigest_iff, isDomain_iff, isPath_iff, isTag_iff, nameLength_eq]

/-- The languages of the parts leave the separators out. -/
theorem WellFormed.separated (h : r.WellFormed) : r.Separated where
  domain domain hd := by
    obtain ⟨hmem, hlooks⟩ := h.domain domain hd
    have hdomain := isDomain_iff.2 hmem
    refine ⟨notMem_of_isDomain hdomain (by decide), notMem_of_isDomain hdomain (by decide), ?_⟩
    rw [looksLikeDomain_iff, NamesRegistry, String.toList_inj]
    exact hlooks
  start hd first rest heq hfirst := by
    obtain ⟨hdot, hlocal⟩ := h.start hd first rest heq hfirst
    have hcolon : ':' ∉ first := by
      intro hmem
      refine notMem_of_isPath (c := ':') (isPath_iff.2 h.path.2) (by decide) (by decide) ?_
      rw [heq]
      exact List.mem_append_left _ hmem
    rw [← Bool.not_eq_true, looksLikeDomain_iff]
    rintro (h | h | h)
    · exact hdot h
    · exact hcolon h
    · exact hlocal h
  path := by
    have hpath := isPath_iff.2 h.path.2
    exact ⟨notMem_of_isPath hpath (by decide) (by decide),
      notMem_of_isPath hpath (by decide) (by decide)⟩
  tag tag ht := by
    have htag := isTag_iff.2 (h.tag tag ht)
    exact ⟨notMem_of_isTag htag (by decide), notMem_of_isTag htag (by decide),
      notMem_of_isTag htag (by decide)⟩

theorem WellFormed.text_ne_empty (h : r.WellFormed) : r.text ≠ "" := by
  intro htext
  have hnil : r.text.toList = [] := by
    rw [htext]
    rfl
  rw [toList_text] at hnil
  simp only [List.append_eq_nil_iff] at hnil
  exact h.path.1 (String.toList_inj.1 hnil.1.2.1)

theorem ne_empty_of_isPath {path : String} (h : isPath path.toList = true) : path ≠ "" := by
  rintro rfl
  exact nil_notMem_pathComponent (isPath_iff.1 h [] List.mem_cons_self)

/-- What is read is well formed. -/
theorem WellFormed.of_parse {s : String} (h : parse s = .ok r) : r.WellFormed := by
  obtain ⟨-, rfl, hfault⟩ := parse_eq_ok_iff_split.1 h
  obtain ⟨hdigest, hdomain, hpath, hlength, htag⟩ := fault?_eq_none_iff_mem.1 hfault
  have hcut : (split s).IsCutOf s := split_eq_iff.1 rfl
  refine ⟨?_, ?_, ⟨ne_empty_of_isPath (isPath_iff.2 hpath), hpath⟩, htag, hdigest, hlength⟩
  · intro domain hd
    have hnames := (hcut.domain domain hd).2
    rw [NamesRegistry, String.toList_inj] at hnames
    exact ⟨hdomain domain hd, hnames⟩
  · intro hd first rest heq hfirst
    have hnames := hcut.start hd first rest heq hfirst
    rw [NamesRegistry, not_or, not_or] at hnames
    exact ⟨hnames.1, hnames.2.2⟩

/-- What is read is written as it was. -/
theorem text_of_parse {s : String} (h : parse s = .ok r) : r.text = s := by
  obtain ⟨-, rfl, -⟩ := parse_eq_ok_iff_split.1 h
  exact text_split s

/-- A well-formed reference is read off its written form. -/
theorem WellFormed.parse_text (h : r.WellFormed) : parse r.text = .ok r := by
  refine parse_eq_ok_iff_split.2 ⟨h.text_ne_empty, split_text h.separated, ?_⟩
  refine fault?_eq_none_iff_mem.2 ⟨h.digest, ?_, h.path.2, h.length, h.tag⟩
  intro domain hd
  exact (h.domain domain hd).1

instance (r : Reference) : Decidable r.WellFormed :=
  decidable_of_iff (parse r.text = .ok r) ⟨WellFormed.of_parse, WellFormed.parse_text⟩

/-- **A text reads as a reference exactly when it is the written form of that reference and the
reference is well formed.** So a text that is read is printed back as it was, and it has one
reading. -/
theorem parse_eq_ok_iff {s : String} : parse s = .ok r ↔ s = r.text ∧ r.WellFormed := by
  constructor
  · intro h
    exact ⟨(text_of_parse h).symm, .of_parse h⟩
  · rintro ⟨rfl, h⟩
    exact h.parse_text

end PullCache.Reference
