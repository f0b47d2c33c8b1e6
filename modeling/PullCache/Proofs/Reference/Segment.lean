import PullCache.Proofs.Grammar.Parts
import PullCache.Reference.Redirect

/-!
# Domains as path segments

The cache serves a registry under its domain written as one path segment. What that costs is
settled here, for any domain of the grammar:

* the segment is a component of a path exactly when the host has no capital letter
  (`isPathComponent_segmentOfDomain_iff`);
* the domain is found again exactly when it has a port or its host does not end in a hyphen and
  digits (`domainOfSegment_segmentOfDomain_iff`), since a hyphen of the host cannot be told from
  the one that stands for the colon.
-/

namespace PullCache.Reference

open Text (cutFirst cutLast)
open Grammar

variable {d : String} {text host port : List Char}

/-! ### The host of a domain -/

theorem hostOf_of_notMem (h : ':' ∉ d.toList) : hostOf d = d := by
  rw [hostOf, Text.cutFirst_eq_none_iff.2 h]

theorem toList_hostOf_of_append (hhost : ':' ∉ host) (h : d.toList = host ++ ':' :: port) :
    (hostOf d).toList = host := by
  rw [hostOf, h, Text.cutFirst_append hhost]
  exact String.toList_ofList

/-- A domain is its own host, or its host, a colon and digits. -/
theorem domain_cases (h : isDomain d.toList = true) :
    (':' ∉ d.toList ∧ hostOf d = d ∧ isHost d.toList = true) ∨
      ∃ port, d.toList = (hostOf d).toList ++ ':' :: port ∧
        isHost (hostOf d).toList = true ∧ isDigits port = true := by
  rcases isDomain_iff_exists.1 h with h | ⟨host, port, heq, hhost, hport⟩
  · have hcolon : ':' ∉ d.toList := notMem_of_isHost h (by decide) (by decide)
    exact .inl ⟨hcolon, hostOf_of_notMem hcolon, h⟩
  · have hcolon : ':' ∉ host := notMem_of_isHost hhost (by decide) (by decide)
    have hof := toList_hostOf_of_append hcolon heq
    refine .inr ⟨port, ?_, ?_, hport⟩
    · rw [hof, heq]
    · rwa [hof]

theorem isHost_hostOf (h : isDomain d.toList = true) : isHost (hostOf d).toList = true := by
  rcases domain_cases h with ⟨-, hof, hhost⟩ | ⟨port, -, hhost, -⟩
  · rwa [hof]
  · exact hhost

/-! ### The segment of a domain -/

theorem map_hyphen_of_notMem (h : ':' ∉ text) :
    (text.map fun c ↦ if c = ':' then '-' else c) = text := by
  refine (List.map_congr_left fun c hc ↦ ?_).trans (List.map_id text)
  rw [if_neg, id]
  rintro rfl
  exact h hc

theorem segmentOfDomain_of_notMem (h : ':' ∉ d.toList) : segmentOfDomain d = d := by
  rw [segmentOfDomain, map_hyphen_of_notMem h, String.ofList_toList]

theorem toList_segmentOfDomain (hhost : ':' ∉ host) (hport : ':' ∉ port)
    (h : d.toList = host ++ ':' :: port) : (segmentOfDomain d).toList = host ++ '-' :: port := by
  rw [segmentOfDomain, String.toList_ofList, h, List.map_append, List.map_cons,
    map_hyphen_of_notMem hhost, map_hyphen_of_notMem hport, if_pos rfl]

/-- The segment of a domain is its host, perhaps with a hyphen and digits. -/
theorem segment_cases (h : isDomain d.toList = true) :
    (':' ∉ d.toList ∧ hostOf d = d ∧ segmentOfDomain d = d) ∨
      ∃ port, isDigits port = true ∧ d.toList = (hostOf d).toList ++ ':' :: port ∧
        (segmentOfDomain d).toList = (hostOf d).toList ++ '-' :: port := by
  rcases domain_cases h with ⟨hcolon, hof, -⟩ | ⟨port, heq, hhost, hport⟩
  · exact .inl ⟨hcolon, hof, segmentOfDomain_of_notMem hcolon⟩
  · refine .inr ⟨port, hport, heq, toList_segmentOfDomain ?_ ?_ heq⟩
    · exact notMem_of_isHost hhost (by decide) (by decide)
    · exact notMem_of_isDigits hport (by decide)

theorem dot_mem_segmentOfDomain_iff (h : isDomain d.toList = true) :
    '.' ∈ (segmentOfDomain d).toList ↔ '.' ∈ (hostOf d).toList := by
  rcases segment_cases h with ⟨-, hof, hsegment⟩ | ⟨port, hport, -, hsegment⟩
  · rw [hof, hsegment]
  · have hdot : '.' ∉ port := notMem_of_isDigits hport (by decide)
    rw [hsegment, List.mem_append, List.mem_cons]
    simp [hdot]

/-- A segment has the characters of its domain, the colon apart. -/
theorem isDomainChar_of_mem_segmentOfDomain (h : isDomain d.toList = true) {c : Char}
    (hc : c ∈ (segmentOfDomain d).toList) : isDomainChar c = true ∧ c ≠ ':' := by
  rw [segmentOfDomain, String.toList_ofList, List.mem_map] at hc
  obtain ⟨e, he, rfl⟩ := hc
  by_cases hcolon : e = ':'
  · rw [if_pos hcolon]
    decide
  · rw [if_neg hcolon]
    exact ⟨isDomainChar_of_mem h he, hcolon⟩

theorem slash_notMem_segmentOfDomain (h : isDomain d.toList = true) :
    '/' ∉ (segmentOfDomain d).toList := by
  intro hmem
  exact absurd (isDomainChar_of_mem_segmentOfDomain h hmem).1 (by decide)

/-! ### Hosts as path components -/

/-- Letters that are no capitals, and digits, are the characters of words. -/
theorem isWordChar_of_isAlphanum {c : Char} (h : c.isAlphanum = true) (hc : c.isUpper = false) :
    isWordChar c = true := by
  have hor : c.isAlphanum = ((c.isUpper || c.isLower) || c.isDigit) := rfl
  rw [hor, hc, Bool.false_or] at h
  exact h

/-- A run of word characters is read as a word. -/
theorem run_word (hne : text ≠ []) (h : ∀ c ∈ text, isWordChar c = true) (s : PathState) :
    text.foldlM PathState.next s = some .word := by
  induction text generalizing s with
  | nil => exact absurd rfl hne
  | cons c text ih =>
    obtain ⟨hc, htext⟩ := List.forall_mem_cons.1 h
    rw [List.foldlM_cons, s.next_of_isWordChar hc]
    rcases text with - | ⟨e, text⟩
    · rfl
    · exact ih (List.cons_ne_nil _ _) htext .word

/-- Letters, digits and hyphens after a word lead to a word or to hyphens. -/
theorem run_labelBody (h : ∀ c ∈ text, isWordChar c = true ∨ c = '-') {s : PathState}
    (hs : s = .word ∨ s = .hyphens) :
    ∃ t, (t = .word ∨ t = .hyphens) ∧ text.foldlM PathState.next s = some t := by
  induction text generalizing s with
  | nil => exact ⟨s, hs, rfl⟩
  | cons c text ih =>
    obtain ⟨hc, htext⟩ := List.forall_mem_cons.1 h
    rcases hc with hc | rfl
    · obtain ⟨t, ht, hrun⟩ := ih htext (.inl rfl)
      refine ⟨t, ht, ?_⟩
      rw [List.foldlM_cons, s.next_of_isWordChar hc]
      exact hrun
    · obtain ⟨t, ht, hrun⟩ := ih htext (.inr rfl)
      refine ⟨t, ht, ?_⟩
      have hnext : s.next '-' = some .hyphens := by
        rcases hs with rfl | rfl <;> decide
      rw [List.foldlM_cons, hnext]
      exact hrun

/-- A label without capital letters is read as a word, or words joined by hyphens. -/
theorem run_label (h : isDomainLabel text = true) (hlower : ∀ c ∈ text, c.isUpper = false)
    (s : PathState) : text.foldlM PathState.next s = some .word := by
  have hword : ∀ c ∈ text, c.isAlphanum = true → isWordChar c = true := fun c hc halnum ↦
    isWordChar_of_isAlphanum halnum (hlower c hc)
  rcases isDomainLabel_iff.1 h with ⟨c, hc, rfl⟩ | h
  · exact run_word (List.cons_ne_nil _ _)
      (List.forall_mem_singleton.2 (hword c List.mem_cons_self hc)) s
  · obtain ⟨c, rest, rfl, hc, hrest⟩ := mem_oneOf_mul.1 h
    obtain ⟨body, hbody, _, ⟨e, he, rfl⟩, rfl⟩ := Language.mem_mul.1 hrest
    have hchars : ∀ a ∈ body, isWordChar a = true ∨ a = '-' := by
      intro a ha
      have hmem : a ∈ c :: (body ++ [e]) := List.mem_cons_of_mem _ (List.mem_append_left _ ha)
      rcases Bool.or_eq_true_iff.1 (mem_kstar_oneOf.1 hbody a ha) with halnum | hhyphen
      · exact .inl (hword a hmem halnum)
      · exact .inr (beq_iff_eq.1 hhyphen)
    -- the last character is no hyphen, so it leads to a word from wherever the others have led
    obtain ⟨t, -, hrun⟩ := run_labelBody hchars (.inl rfl)
    rw [List.foldlM_cons, s.next_of_isWordChar (hword c List.mem_cons_self hc)]
    show (body ++ [e]).foldlM PathState.next .word = some .word
    rw [List.foldlM_append, hrun]
    exact run_word (List.cons_ne_nil _ _) (List.forall_mem_singleton.2 (hword e (by simp) he)) t

theorem run_joinWith {parts : List (List Char)} (hne : parts ≠ [])
    (h : ∀ part ∈ parts, ∀ s, part.foldlM PathState.next s = some .word) (s : PathState) :
    (Text.joinWith '.' parts).foldlM PathState.next s = some .word := by
  induction parts generalizing s with
  | nil => exact absurd rfl hne
  | cons part parts ih =>
    obtain ⟨hpart, hparts⟩ := List.forall_mem_cons.1 h
    rcases parts with - | ⟨next, parts⟩
    · exact hpart s
    · -- the dot follows a word, and what comes next may be read after a dot
      rw [Text.joinWith, List.foldlM_append, hpart s]
      show ('.' :: Text.joinWith '.' (next :: parts)).foldlM PathState.next .word = some .word
      rw [List.foldlM_cons]
      exact ih (List.cons_ne_nil _ _) hparts .dot

/-- A host without capital letters is read as a path component from any state. -/
theorem run_host (h : isHost text = true) (hlower : ∀ c ∈ text, c.isUpper = false)
    (s : PathState) : text.foldlM PathState.next s = some .word := by
  rw [← Text.joinWith_components '.' text]
  refine run_joinWith (Text.components_ne_nil '.' text) (fun part hpart ↦ ?_) s
  exact run_label (List.all_eq_true.1 h part hpart) fun c hc ↦
    hlower c (Text.mem_of_mem_components hpart hc)

theorem isUpper_iff_toNat {c : Char} : c.isUpper = true ↔ 65 ≤ c.toNat ∧ c.toNat ≤ 90 :=
  decide_eq_true_iff

theorem isLower_iff_toNat {c : Char} : c.isLower = true ↔ 97 ≤ c.toNat ∧ c.toNat ≤ 122 := by
  have hand : c.isLower = (decide (97 ≤ c.toNat) && decide (c.toNat ≤ 122)) := rfl
  rw [hand, Bool.and_eq_true, decide_eq_true_iff, decide_eq_true_iff]

/-- The characters of paths are no capital letters. -/
theorem isUpper_eq_false_of_isPathChar {c : Char} (h : isPathChar c = true) :
    c.isUpper = false := by
  have hdigit : c.isDigit = true ↔ 48 ≤ c.toNat ∧ c.toNat ≤ 57 := Char.isDigit_iff_toNat
  rw [← Bool.not_eq_true, isUpper_iff_toNat]
  simp only [isPathChar, isWordChar, Bool.or_eq_true, beq_iff_eq] at h
  rcases h with (((h | h) | rfl) | rfl) | rfl
  · rw [isLower_iff_toNat] at h
    omega
  · rw [hdigit] at h
    omega
  all_goals decide

/-- **A domain's segment is a path component exactly when its host has no capital letter.** -/
theorem isPathComponent_segmentOfDomain_iff (h : isDomain d.toList = true) :
    isPathComponent (segmentOfDomain d).toList = true ↔
      ∀ c ∈ (hostOf d).toList, c.isUpper = false := by
  constructor
  · intro hcomponent c hc
    have hmem : c ∈ (segmentOfDomain d).toList := by
      rcases segment_cases h with ⟨-, hof, hsegment⟩ | ⟨port, -, -, hsegment⟩
      · rwa [hsegment, ← hof]
      · rw [hsegment]
        exact List.mem_append_left _ hc
    exact isUpper_eq_false_of_isPathChar (isPathChar_of_mem_component hcomponent hmem)
  · intro hlower
    rw [isPathComponent, beq_iff_eq]
    rcases segment_cases h with ⟨-, hof, hsegment⟩ | ⟨port, hport, -, hsegment⟩
    · rw [hsegment, ← hof]
      exact run_host (isHost_hostOf h) hlower .start
    · rw [hsegment, List.foldlM_append, run_host (isHost_hostOf h) hlower .start]
      show ('-' :: port).foldlM PathState.next .word = some .word
      rw [List.foldlM_cons]
      obtain ⟨hne, hdigits⟩ := mem_oneOrMore_oneOf.1 (isDigits_iff.1 hport)
      refine run_word hne (fun c hc ↦ ?_) .hyphens
      rw [isWordChar, hdigits c hc, Bool.or_true]

/-! ### The domain of a segment -/

/-- A hyphen and digits at the end, which a segment's domain would have as its port. -/
def EndsInNumber (name : String) : Prop :=
  ∃ before digits, name.toList = before ++ '-' :: digits ∧ isDigits digits = true

/-- A last hyphen before digits turns into a colon. -/
theorem toList_domainOfSegment {segment : String} {before digits : List Char}
    (h : segment.toList = before ++ '-' :: digits) (hdigits : isDigits digits = true) :
    (domainOfSegment segment).toList = before ++ ':' :: digits := by
  have hcut : cutLast '-' segment.toList = some (before, digits) :=
    Text.cutLast_eq_some_iff.2 ⟨h, notMem_of_isDigits hdigits (by decide)⟩
  simp only [domainOfSegment, hcut]
  rw [if_pos hdigits, String.toList_ofList]

theorem domainOfSegment_eq_self_iff {segment : String} :
    domainOfSegment segment = segment ↔ ¬ EndsInNumber segment := by
  constructor
  · rintro h ⟨before, digits, heq, hdigits⟩
    have hto := toList_domainOfSegment heq hdigits
    rw [h, heq, List.append_cancel_left_eq, List.cons.injEq] at hto
    exact absurd hto.1 (by decide)
  · intro h
    unfold domainOfSegment
    split
    · next before digits hcut =>
      rw [if_neg fun hdigits ↦ h ⟨before, digits, (Text.cutLast_eq_some_iff.1 hcut).1, hdigits⟩]
    · rfl

instance (name : String) : Decidable (EndsInNumber name) :=
  decidable_of_iff (domainOfSegment name ≠ name) (not_iff_comm.1 domainOfSegment_eq_self_iff.symm)

/-- **A domain is found again in its segment** exactly when it has a port, or its host does not end
as if it had one. -/
theorem domainOfSegment_segmentOfDomain_iff (h : isDomain d.toList = true) :
    domainOfSegment (segmentOfDomain d) = d ↔
      ':' ∈ d.toList ∨ ¬ EndsInNumber (hostOf d) := by
  rcases segment_cases h with ⟨hcolon, hof, hsegment⟩ | ⟨port, hport, heq, hsegment⟩
  · rw [hsegment, hof, domainOfSegment_eq_self_iff, or_iff_right hcolon]
  · have hmem : ':' ∈ d.toList := by
      rw [heq]
      simp
    refine iff_of_true ?_ (.inl hmem)
    rw [← String.toList_inj, toList_domainOfSegment hsegment hport, heq]

example : domainOfSegment (segmentOfDomain "foo.bar-5:80") = "foo.bar-5:80" := by decide

example : domainOfSegment (segmentOfDomain "foo.bar-5") = "foo.bar:5" := by decide

/-- Of domains with one segment, at most one has a port and at most one has none. -/
theorem eq_of_segmentOfDomain_eq {d' : String} (h : isDomain d.toList = true)
    (h' : isDomain d'.toList = true) (hsegment : segmentOfDomain d = segmentOfDomain d')
    (hport : ':' ∈ d.toList ↔ ':' ∈ d'.toList) : d = d' := by
  by_cases hcolon : ':' ∈ d.toList
  · rw [← (domainOfSegment_segmentOfDomain_iff h).2 (.inl hcolon), hsegment]
    exact (domainOfSegment_segmentOfDomain_iff h').2 (.inl (hport.1 hcolon))
  · rw [← segmentOfDomain_of_notMem hcolon, hsegment]
    exact segmentOfDomain_of_notMem (mt hport.2 hcolon)

end PullCache.Reference
