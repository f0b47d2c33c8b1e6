import PullCache.Proofs.Redirect.Eligibility

/-!
# Which origins can be read

The origin of a local reference is put together from its path without a second look: a first part
with a dot becomes the registry, and what is left becomes the path. Both were read as parts of a
path, so the origin is well formed only where the two grammars agree. A path component is a host
unless it has an underscore (`isHost_iff_of_isPathComponent`), and before a port it must not end in
a hyphen. A path that is left whole must not begin with what is read as a registry.

`Reference.HasUsableOrigin` says this of the path of a reference, and `wellFormed_source_iff` that
it is all there is: the written form of an origin is read as that origin exactly then.
-/

namespace PullCache.Reference

open Text (cutFirst cutLast byteLength)
open Grammar

variable {r : Reference} {text part first rest before digits : List Char} {segment : String}

/-! ### Path components as hosts -/

/-- How far the label at the end of a host has been read, in the states of a path component. -/
def ReadsLabel (part : List Char) : PathState → Prop
  | .start | .dot => part = []
  | .word => isDomainLabel part = true
  | .hyphens => part.head?.any Char.isAlphanum = true ∧ ∀ c ∈ part, isLabelChar c = true
  | .underscore | .underscores => False

theorem isAlphanum_of_isWordChar {c : Char} (h : isWordChar c = true) : c.isAlphanum = true := by
  have hor : c.isAlphanum = ((c.isUpper || c.isLower) || c.isDigit) := rfl
  rw [hor, Bool.or_assoc]
  exact Bool.or_eq_true_iff.2 (.inr h)

theorem isDomainLabel_iff_forall : isDomainLabel part = true ↔
    (∀ c ∈ part, isLabelChar c = true) ∧ part.head?.any Char.isAlphanum = true ∧
      part.getLast?.any Char.isAlphanum = true := by
  simp only [isDomainLabel, Bool.and_eq_true, List.all_eq_true, isLabelChar, and_assoc]

/-- A letter or digit may follow wherever a label has been read to. -/
theorem ReadsLabel.concat {s : PathState} (h : ReadsLabel part s) {c : Char}
    (hc : c.isAlphanum = true) : isDomainLabel (part ++ [c]) = true := by
  have hlabel : isLabelChar c = true := by
    simp [isLabelChar, hc]
  have hstart : part = [] ∨
      part.head?.any Char.isAlphanum = true ∧ ∀ d ∈ part, isLabelChar d = true := by
    cases s with
    | start | dot => exact .inl h
    | word =>
      obtain ⟨hall, hhead, -⟩ := isDomainLabel_iff_forall.1 h
      exact .inr ⟨hhead, hall⟩
    | hyphens => exact .inr h
    | underscore | underscores => exact h.elim
  rw [isDomainLabel_iff_forall, List.getLast?_concat]
  rcases hstart with rfl | ⟨hhead, hall⟩
  · simp [hc, hlabel]
  · refine ⟨fun d hd ↦ ?_, ?_, hc⟩
    · rcases List.mem_append.1 hd with hd | hd
      · exact hall d hd
      · exact List.mem_singleton.1 hd ▸ hlabel
    · rcases part with - | ⟨d, part⟩
      · cases hhead
      · exact hhead

/-- A hyphen may follow a letter, a digit or a hyphen. -/
theorem ReadsLabel.hyphen {s : PathState} (h : ReadsLabel part s)
    (hs : s = .word ∨ s = .hyphens) : ReadsLabel (part ++ ['-']) .hyphens := by
  obtain ⟨hhead, hall⟩ :
      part.head?.any Char.isAlphanum = true ∧ ∀ c ∈ part, isLabelChar c = true := by
    rcases hs with rfl | rfl
    · obtain ⟨hall, hhead, -⟩ := isDomainLabel_iff_forall.1 h
      exact ⟨hhead, hall⟩
    · exact h
  constructor
  · rcases part with - | ⟨c, part⟩
    · cases hhead
    · exact hhead
  · intro c hc
    rcases List.mem_append.1 hc with hc | hc
    · exact hall c hc
    · rw [List.mem_singleton.1 hc]
      rfl

theorem dot_notMem_of_isDomainLabel (h : isDomainLabel part = true) : '.' ∉ part := by
  intro hmem
  exact absurd ((isDomainLabel_iff_forall.1 h).1 '.' hmem) (by decide)

/-- A host is a label, or a label before a dot and a host. -/
theorem isHost_append_dot (h : isDomainLabel part = true) (rest : List Char) :
    isHost (part ++ '.' :: rest) = isHost rest := by
  rw [isHost, Text.components_append (dot_notMem_of_isDomainLabel h), List.all_cons, h,
    Bool.true_and, ← isHost]

theorem isHost_of_isDomainLabel (h : isDomainLabel part = true) : isHost part = true := by
  rw [isHost, Text.components_of_notMem (dot_notMem_of_isDomainLabel h), List.all_cons, h]
  rfl

/-- What completes a path component without underscores completes a host. -/
theorem isHost_append_of_run {s : PathState} (hpart : ReadsLabel part s) (htext : '_' ∉ text)
    (hrun : text.foldlM PathState.next s = some .word) : isHost (part ++ text) = true := by
  -- the label that has been begun is carried along with the state
  induction text generalizing s part with
  | nil =>
    obtain rfl := Option.some.inj hrun
    rw [List.append_nil]
    exact isHost_of_isDomainLabel hpart
  | cons c text ih =>
    obtain ⟨hc, hrest⟩ := not_or.1 (mt List.mem_cons.2 htext)
    rw [List.foldlM_cons] at hrun
    obtain ⟨t, hnext, hrun⟩ := Option.bind_eq_some_iff.1 hrun
    by_cases hword : isWordChar c = true
    · rw [s.next_of_isWordChar hword] at hnext
      obtain rfl := Option.some.inj hnext
      rw [List.append_cons]
      have hlabel : ReadsLabel (part ++ [c]) .word := hpart.concat (isAlphanum_of_isWordChar hword)
      exact ih hlabel hrest hrun
    · simp only [PathState.next, if_neg hword] at hnext
      split at hnext
      · obtain rfl := Option.some.inj hnext
        -- the label is complete, and the next one begins after the dot
        have hnone : ReadsLabel [] .dot := rfl
        rw [isHost_append_dot hpart]
        exact ih hnone hrest hrun
      · exact absurd rfl hc
      · exact absurd rfl hc
      · obtain rfl := Option.some.inj hnext
        rw [List.append_cons]
        exact ih (hpart.hyphen (.inl rfl)) hrest hrun
      · obtain rfl := Option.some.inj hnext
        rw [List.append_cons]
        exact ih (hpart.hyphen (.inr rfl)) hrest hrun
      · cases hnext

/-- **A path component is a host exactly when it has no underscore.** -/
theorem isHost_iff_of_isPathComponent (h : isPathComponent text = true) :
    isHost text = true ↔ '_' ∉ text := by
  constructor
  · intro hhost
    exact notMem_of_isHost hhost (by decide) (by decide)
  · intro hunderscore
    have hnone : ReadsLabel [] .start := rfl
    exact isHost_append_of_run hnone hunderscore (beq_iff_eq.1 h)

/-! ### The registry of a segment -/

theorem eq_hyphen_of_next {s : PathState} {c : Char} (h : s.next c = some .hyphens) : c = '-' := by
  unfold PathState.next at h
  split at h
  · cases h
  · split at h <;> first | rfl | cases h

/-- What comes before a hyphen of a path component is a path component, or ends in a hyphen of its
own. -/
theorem isPathComponent_before_hyphen (h : isPathComponent (before ++ '-' :: rest) = true) :
    isPathComponent before = true ∨ ∃ front, before = front ++ ['-'] := by
  rw [isPathComponent, beq_iff_eq, List.foldlM_append] at h
  obtain ⟨s, hbefore, hrest⟩ := Option.bind_eq_some_iff.1 h
  rw [List.foldlM_cons] at hrest
  obtain ⟨t, hhyphen, -⟩ := Option.bind_eq_some_iff.1 hrest
  have hs : s = .word ∨ s = .hyphens := by
    cases s <;> first | exact .inl rfl | exact .inr rfl | cases hhyphen
  rcases hs with rfl | rfl
  · exact .inl (beq_iff_eq.2 hbefore)
  · -- only a hyphen leads to the state of hyphens
    rcases List.eq_nil_or_concat' before with rfl | ⟨front, c, rfl⟩
    · cases hbefore
    · rw [List.foldlM_append] at hbefore
      obtain ⟨u, -, hlast⟩ := Option.bind_eq_some_iff.1 hbefore
      rw [List.foldlM_cons] at hlast
      obtain ⟨v, hnext, hlast⟩ := Option.bind_eq_some_iff.1 hlast
      obtain rfl := Option.some.inj hlast
      exact .inr ⟨front, by rw [eq_hyphen_of_next hnext]⟩

theorem getLast?_joinWith {parts : List (List Char)} (hne : parts ≠ [])
    (h : ∀ part ∈ parts, isDomainLabel part = true) :
    (Text.joinWith '.' parts).getLast?.any Char.isAlphanum = true := by
  induction parts with
  | nil => exact absurd rfl hne
  | cons part parts ih =>
    obtain ⟨hpart, hparts⟩ := List.forall_mem_cons.1 h
    rcases parts with - | ⟨next, parts⟩
    · exact (isDomainLabel_iff_forall.1 hpart).2.2
    · have hlast := ih (List.cons_ne_nil _ _) hparts
      rcases hjoined : (Text.joinWith '.' (next :: parts)).getLast? with - | c
      · rw [hjoined] at hlast
        cases hlast
      · rw [hjoined] at hlast
        rw [Text.joinWith, List.getLast?_append, List.getLast?_cons, hjoined]
        exact hlast

/-- A host ends in a letter or digit. -/
theorem getLast?_of_isHost (h : isHost text = true) :
    text.getLast?.any Char.isAlphanum = true := by
  rw [← Text.joinWith_components '.' text]
  exact getLast?_joinWith (Text.components_ne_nil '.' text) (List.all_eq_true.1 h)

theorem not_isHost_concat_hyphen (front : List Char) : isHost (front ++ ['-']) ≠ true := by
  intro h
  have hlast := getLast?_of_isHost h
  rw [List.getLast?_concat] at hlast
  exact absurd hlast (by decide)

/-- Digits at the end after more than one hyphen. The last hyphen is taken for the colon of a port,
and a host does not end in the one before. -/
def EndsInLooseNumber (text : List Char) : Prop :=
  ∃ before digits, text = before ++ '-' :: '-' :: digits ∧ isDigits digits = true

/-- What comes before the digits of a port is a host unless it has an underscore or ends in a
hyphen. -/
theorem isHost_before_digits_iff (h : isPathComponent (before ++ '-' :: digits) = true)
    (hdigits : isDigits digits = true) :
    isHost before = true ↔ '_' ∉ before ++ '-' :: digits ∧
      ¬ EndsInLooseNumber (before ++ '-' :: digits) := by
  constructor
  · intro hhost
    have hunderscore : '_' ∉ before := notMem_of_isHost hhost (by decide) (by decide)
    have hdigit : '_' ∉ digits := notMem_of_isDigits hdigits (by decide)
    refine ⟨by simp [hunderscore, hdigit], ?_⟩
    rintro ⟨front, number, heq, hnumber⟩
    -- the last hyphen is the same one in both readings
    have hcut : cutLast '-' (before ++ '-' :: digits) = some (before, digits) :=
      Text.cutLast_eq_some_iff.2 ⟨rfl, notMem_of_isDigits hdigits (by decide)⟩
    have hcut' : cutLast '-' (before ++ '-' :: digits) = some (front ++ ['-'], number) :=
      Text.cutLast_eq_some_iff.2
        ⟨by rw [heq, List.append_cons], notMem_of_isDigits hnumber (by decide)⟩
    rw [hcut] at hcut'
    rw [(Prod.mk.inj (Option.some.inj hcut')).1] at hhost
    exact not_isHost_concat_hyphen front hhost
  · rintro ⟨hunderscore, hloose⟩
    rcases isPathComponent_before_hyphen h with hbefore | ⟨front, rfl⟩
    · rw [isHost_iff_of_isPathComponent hbefore]
      exact fun hmem ↦ hunderscore (List.mem_append_left _ hmem)
    · exact absurd ⟨front, digits, by rw [← List.append_cons], hdigits⟩ hloose

/-- **The registry of a segment is a domain** unless the segment has an underscore, or a second
hyphen before the digits of the port. -/
theorem isDomain_domainOfSegment_iff (h : isPathComponent segment.toList = true) :
    isDomain (domainOfSegment segment).toList = true ↔
      '_' ∉ segment.toList ∧ ¬ EndsInLooseNumber segment.toList := by
  have hcolon : ':' ∉ segment.toList := fun hmem ↦
    absurd (isPathChar_of_mem_component h hmem) (by decide)
  by_cases hnumber : EndsInNumber segment
  · obtain ⟨before, digits, heq, hdigits⟩ := hnumber
    rw [toList_domainOfSegment heq hdigits]
    rw [heq] at h hcolon ⊢
    rw [isDomain, Text.cutFirst_append fun hmem ↦ hcolon (List.mem_append_left _ hmem)]
    simp only [hdigits, Bool.true_and]
    exact isHost_before_digits_iff h hdigits
  · -- without digits at the end the segment is the registry as it is
    have hloose : ¬ EndsInLooseNumber segment.toList := by
      rintro ⟨before, digits, heq, hdigits⟩
      exact hnumber ⟨before ++ ['-'], digits, by rw [heq, List.append_cons], hdigits⟩
    rw [domainOfSegment_eq_self_iff.2 hnumber, isDomain, Text.cutFirst_eq_none_iff.2 hcolon,
      and_iff_left hloose]
    exact isHost_iff_of_isPathComponent h

theorem mem_of_mem_hostOf {domain : String} {c : Char} (h : c ∈ (hostOf domain).toList) :
    c ∈ domain.toList := by
  unfold hostOf at h
  split at h
  · next host port hcut =>
    rw [String.toList_ofList] at h
    rw [(Text.cutFirst_eq_some_iff.1 hcut).1]
    exact List.mem_append_left _ h
  · exact h

/-- The dot by which a segment is taken for a registry is in the host of the registry. -/
theorem dot_mem_hostOf_domainOfSegment (hcolon : ':' ∉ segment.toList)
    (hdot : '.' ∈ segment.toList) : '.' ∈ (hostOf (domainOfSegment segment)).toList := by
  by_cases hnumber : EndsInNumber segment
  · obtain ⟨before, digits, heq, hdigits⟩ := hnumber
    have hdigit : '.' ∉ digits := notMem_of_isDigits hdigits (by decide)
    have hto := toList_domainOfSegment heq hdigits
    rw [heq] at hcolon hdot
    rw [toList_hostOf_of_append (fun hmem ↦ hcolon (List.mem_append_left _ hmem)) hto]
    simpa [hdigit] using hdot
  · rw [domainOfSegment_eq_self_iff.2 hnumber, hostOf_of_notMem hcolon]
    exact hdot

/-- A registry is as long as its segment. -/
theorem byteLength_domainOfSegment (segment : String) :
    byteLength (domainOfSegment segment).toList = byteLength segment.toList := by
  by_cases hnumber : EndsInNumber segment
  · obtain ⟨before, digits, heq, hdigits⟩ := hnumber
    rw [toList_domainOfSegment heq hdigits, heq, Text.byteLength_append, Text.byteLength_append]
    rfl
  · rw [domainOfSegment_eq_self_iff.2 hnumber]

/-! ### The origin of a local reference -/

theorem source_of_isLocal_of_single (h : r.isLocal = true) (hslash : '/' ∉ r.path.toList) :
    r.source = { r with domain := none } := by
  simp only [source, if_pos h, Text.cutFirst_eq_none_iff.2 hslash]

theorem source_of_isLocal_of_cut (h : r.isLocal = true)
    (hpath : r.path.toList = first ++ '/' :: rest) (hfirst : '/' ∉ first) :
    r.source =
      if '.' ∈ first then
        { r with
          domain := some (domainOfSegment (String.ofList first))
          path := String.ofList rest }
      else { r with domain := none } := by
  simp only [source, if_pos h, hpath, Text.cutFirst_append hfirst, List.contains_iff_mem]

/-- The name of an origin is not longer than the one it was found in. -/
theorem nameLength_source_le (r : Reference) : r.source.nameLength ≤ r.nameLength := by
  have hpath : byteLength r.path.toList ≤ r.nameLength := Nat.le_add_left _ _
  by_cases h : r.isLocal = true
  · by_cases hslash : '/' ∈ r.path.toList
    · obtain ⟨first, rest, heq, hfirst⟩ := List.eq_append_cons_of_mem hslash
      rw [source_of_isLocal_of_cut h heq hfirst]
      split
      · rw [heq, Text.byteLength_append, Text.byteLength_cons] at hpath
        simp only [nameLength, byteLength_domainOfSegment, String.toList_ofList]
        exact le_trans (by rw [Nat.add_assoc]; rfl) hpath
      · simp [nameLength]
    · rw [source_of_isLocal_of_single h hslash]
      simp [nameLength]
  · rw [source_of_not_isLocal (Bool.eq_false_iff.2 h)]

/-- What the first of several parts of a local path must be like. -/
structure StartsOrigin (first : List Char) : Prop where
  /-- It stays in the path, and is not read as the name of the node. -/
  path : '.' ∉ first → first ≠ localHost.toList
  /-- It becomes the registry, and is one. -/
  registry : '.' ∈ first → '_' ∉ first ∧ ¬ EndsInLooseNumber first

theorem startsOrigin_iff_of_dot (h : '.' ∈ first) :
    StartsOrigin first ↔ '_' ∉ first ∧ ¬ EndsInLooseNumber first :=
  ⟨fun hstart ↦ hstart.registry h, fun hregistry ↦ ⟨absurd h, fun _ ↦ hregistry⟩⟩

theorem startsOrigin_iff_of_not_dot (h : '.' ∉ first) :
    StartsOrigin first ↔ first ≠ localHost.toList :=
  ⟨fun hstart ↦ hstart.path h, fun hpath ↦ ⟨fun _ ↦ hpath, fun hdot ↦ absurd hdot h⟩⟩

/-- If the path is taken for a registry and a path, or for a path of several parts, then it begins
with what is one. -/
def HasUsableOrigin (r : Reference) : Prop :=
  r.host = some localHost → ∀ first rest, r.path.toList = first ++ '/' :: rest → '/' ∉ first →
    StartsOrigin first

theorem hasUsableOrigin_iff (h : r.isLocal = true)
    (hpath : r.path.toList = first ++ '/' :: rest) (hfirst : '/' ∉ first) :
    r.HasUsableOrigin ↔ StartsOrigin first := by
  constructor
  · intro hr
    exact hr (beq_iff_eq.1 h) first rest hpath hfirst
  · intro hstart _ first' rest' hpath' hfirst'
    obtain ⟨rfl, -⟩ := Text.eq_of_append_sep_eq (hpath ▸ hpath') hfirst hfirst'
    exact hstart

/-- Both parts of a path that is cut at a slash are paths. -/
theorem isPath_append (hfirst : '/' ∉ first) :
    isPath (first ++ '/' :: rest) = true ↔ isPathComponent first = true ∧ isPath rest = true := by
  rw [isPath, Text.components_append hfirst, List.all_cons, Bool.and_eq_true, ← isPath]

/-- A path that is left whole is well formed unless it begins with what is read as a domain. -/
theorem wellFormed_without_domain_iff (h : r.WellFormed) :
    ({ r with domain := none } : Reference).WellFormed ↔
      ∀ first rest, r.path.toList = first ++ '/' :: rest → '/' ∉ first →
        '.' ∉ first ∧ first ≠ localHost.toList := by
  constructor
  · intro hwf
    exact hwf.start rfl
  · intro hstart
    refine ⟨fun domain hd ↦ ?_, fun _ ↦ hstart, h.path, h.tag, h.digest, ?_⟩
    · cases hd
    · rw [← nameLength_eq]
      refine le_trans ?_ (nameLength_eq r ▸ h.length)
      simp [nameLength]

/-- A path whose first part is taken for the registry is well formed exactly when the registry is a
domain. -/
theorem wellFormed_source_iff_of_dot (h : r.WellFormed) (hlocal : r.isLocal = true)
    (heq : r.path.toList = first ++ '/' :: rest) (hfirst : '/' ∉ first) (hdot : '.' ∈ first) :
    r.source.WellFormed ↔ isDomain (domainOfSegment (String.ofList first)).toList = true := by
  have hpath := isPath_iff.2 h.path.2
  rw [heq, isPath_append hfirst] at hpath
  have hlength := le_trans (nameLength_source_le r) (nameLength_eq r ▸ h.length)
  rw [source_of_isLocal_of_cut hlocal heq hfirst, if_pos hdot] at hlength ⊢
  constructor
  · intro hwf
    exact isDomain_iff.2 (hwf.domain _ rfl).1
  · intro hdomain
    refine ⟨fun domain hd ↦ ?_, fun hd ↦ ?_, ?_, h.tag, h.digest, nameLength_eq _ ▸ hlength⟩
    · obtain rfl := Option.some.inj hd
      refine ⟨isDomain_iff.1 hdomain, .inl (mem_of_mem_hostOf ?_)⟩
      have hcolon : ':' ∉ first := by
        intro hmem
        exact absurd (isPathChar_of_mem_component hpath.1 hmem) (by decide)
      exact dot_mem_hostOf_domainOfSegment (by rwa [String.toList_ofList])
        (by rwa [String.toList_ofList])
    · cases hd
    · have hrest : isPath (String.ofList rest).toList = true := by
        rw [String.toList_ofList]
        exact hpath.2
      exact ⟨ne_empty_of_isPath hrest, isPath_iff.1 hrest⟩

/-- A path of several parts that is left whole is well formed unless it begins with the name of the
node. -/
theorem wellFormed_source_iff_of_not_dot (h : r.WellFormed) (hlocal : r.isLocal = true)
    (heq : r.path.toList = first ++ '/' :: rest) (hfirst : '/' ∉ first) (hdot : '.' ∉ first) :
    r.source.WellFormed ↔ first ≠ localHost.toList := by
  rw [source_of_isLocal_of_cut hlocal heq hfirst, if_neg hdot, wellFormed_without_domain_iff h]
  constructor
  · intro hstart
    exact (hstart first rest heq hfirst).2
  · intro hpath first' rest' heq' hfirst'
    obtain ⟨rfl, -⟩ := Text.eq_of_append_sep_eq (heq ▸ heq') hfirst hfirst'
    exact ⟨hdot, hpath⟩

/-- **An origin is well formed exactly when its path begins well.** -/
theorem wellFormed_source_iff (h : r.WellFormed) : r.source.WellFormed ↔ r.HasUsableOrigin := by
  by_cases hlocal : r.isLocal = true
  · by_cases hslash : '/' ∈ r.path.toList
    · obtain ⟨first, rest, heq, hfirst⟩ := List.eq_append_cons_of_mem hslash
      have hpath := isPath_iff.2 h.path.2
      rw [heq, isPath_append hfirst, ← String.toList_ofList (l := first)] at hpath
      rw [hasUsableOrigin_iff hlocal heq hfirst]
      by_cases hdot : '.' ∈ first
      · rw [wellFormed_source_iff_of_dot h hlocal heq hfirst hdot, startsOrigin_iff_of_dot hdot,
          isDomain_domainOfSegment_iff hpath.1, String.toList_ofList]
      · rw [wellFormed_source_iff_of_not_dot h hlocal heq hfirst hdot,
          startsOrigin_iff_of_not_dot hdot]
    · have hstart : ∀ {first rest : List Char}, r.path.toList ≠ first ++ '/' :: rest := by
        intro first rest heq
        exact hslash (heq ▸ by simp)
      rw [source_of_isLocal_of_single hlocal hslash, wellFormed_without_domain_iff h]
      exact iff_of_true (fun first rest heq ↦ absurd heq hstart)
        (fun _ first rest heq ↦ absurd heq hstart)
  · rw [source_of_not_isLocal (Bool.eq_false_iff.2 hlocal)]
    exact iff_of_true h fun hhost ↦ absurd (beq_iff_eq.2 hhost) hlocal

example : ¬ (source ⟨some "localhost:5000", "a_b.c/x", none, none⟩).WellFormed := by decide

example : ¬ (source ⟨some "localhost:5000", "localhost/x", none, none⟩).WellFormed := by decide

/-- An origin is not at the node. -/
theorem isLocal_source (h : r.WellFormed) : r.source.isLocal = false := by
  by_cases hlocal : r.isLocal = true
  · by_cases hslash : '/' ∈ r.path.toList
    · obtain ⟨first, rest, heq, hfirst⟩ := List.eq_append_cons_of_mem hslash
      rw [source_of_isLocal_of_cut hlocal heq hfirst]
      split
      · next hdot =>
        have hcolon : ':' ∉ first := fun hmem ↦
          h.separated.path.2 (heq ▸ List.mem_append_left _ hmem)
        have hhost : '.' ∈ (hostOf (domainOfSegment (String.ofList first))).toList :=
          dot_mem_hostOf_domainOfSegment (by rwa [String.toList_ofList])
            (by rwa [String.toList_ofList])
        rw [isLocal, host, Option.map_some, beq_eq_false_iff_ne]
        intro heq
        rw [Option.some.inj heq] at hhost
        exact absurd hhost (by decide)
      · rfl
    · rw [source_of_isLocal_of_single hlocal hslash]
      rfl
  · rw [Bool.not_eq_true] at hlocal
    rw [source_of_not_isLocal hlocal, hlocal]

end PullCache.Reference

namespace PullCache.RedirectConfig

open Reference

variable {config : RedirectConfig} {image : String} {r : Reference}

/-- **Which recorded origins can be used.** What is recorded for an image reads as the origin of
the image, at a registry other than the node, exactly when the path of a local image begins well:
a first part with a dot has no underscore and no second hyphen before digits at its end, and a
first part without one is not `localhost`. -/
theorem parse_source_iff_of_check (h : config.check image = .ok r) :
    (parse r.source.text = .ok r.source ∧ r.source.host ≠ some localHost) ↔
      r.HasUsableOrigin := by
  have hwf := wellFormed_of_check h
  have hhost : r.source.host ≠ some localHost := by
    have hlocal := isLocal_source hwf
    rwa [isLocal, beq_eq_false_iff_ne] at hlocal
  rw [and_iff_left hhost, ← wellFormed_source_iff hwf, parse_eq_ok_iff, eq_self, true_and]

/-- The origin behind a registry at a port can be used. -/
theorem parse_source_of_check_port : ∃ r : Reference,
    check { proxyPort := 4242 } "localhost:4242/185.145.250.247-30042/alpine" = .ok r ∧
      r.source.text = "185.145.250.247:30042/alpine" ∧
      parse r.source.text = .ok r.source ∧ r.source.host ≠ some localHost := by
  have hcheck : check { proxyPort := 4242 } "localhost:4242/185.145.250.247-30042/alpine" =
      .ok ⟨some "localhost:4242", "185.145.250.247-30042/alpine", none, none⟩ := by rfl
  have hpath : "185.145.250.247-30042/alpine".toList =
      "185.145.250.247-30042".toList ++ '/' :: "alpine".toList := by decide
  refine ⟨_, hcheck, by decide, (parse_source_iff_of_check hcheck).2 ?_⟩
  refine (hasUsableOrigin_iff (by decide) hpath (by decide)).2
    ⟨fun hdot ↦ absurd (by decide) hdot, fun _ ↦ ?_⟩
  exact (isDomain_domainOfSegment_iff (by decide)).1 (by decide)

/-- **Two hyphens before digits lose the registry.** An image of the registry `a.b--5` is written
for the cache, and what is recorded for the written image cannot be read. -/
theorem check_records_unreadable : ∃ r : Reference,
    (redirect ⟨some "a.b--5", "x", none, none⟩ 4242).text = "localhost:4242/a.b--5/x" ∧
      check { proxyPort := 4242 } "localhost:4242/a.b--5/x" = .ok r ∧
      r.source.text = "a.b-:5/x" ∧
      parse r.source.text = .error (.invalidDomain "a.b-:5") := by
  exact ⟨⟨some "localhost:4242", "a.b--5/x", none, none⟩, by decide, by rfl, by decide, by rfl⟩

end PullCache.RedirectConfig
