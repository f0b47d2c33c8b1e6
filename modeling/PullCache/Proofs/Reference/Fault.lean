import Mathlib.Order.WellFounded
import PullCache.Proofs.Reference.WellFormed

/-!
# Which part of a text is at fault

A text may be wrong in several places at once, and reading names one of them. Here the items that
are judged are put in their order (`Reference.Item`), and `parse_names_first_fault` says that the
error is that of the first ill-formed one and quotes it.

That the error is of use rests on the cuts: when the item it quotes is replaced in its place by a
well-formed one, the text is cut where it was. There is one exception. A well-formed domain need not
look like one, and then it is cut as the first component of the path (`IsCutOf.withoutDomain`).
Either way no item up to the replaced one is ill-formed any more, so what is still wrong, if
anything, comes later in the order.
-/

namespace PullCache.Reference

open Grammar

variable {r : Reference} {s : String}

/-! ### What is judged -/

/-- What is judged in a reference. The length is that of the name without its tag. -/
inductive Item where
  | digest
  | domain
  | path
  | length
  | tag

namespace Item

/-- The place of an item in the order in which they are judged. -/
def rank : Item → ℕ
  | .digest => 0
  | .domain => 1
  | .path => 2
  | .length => 3
  | .tag => 4

theorem rank_injective : Function.Injective rank := by
  intro i j h
  cases i <;> cases j <;> first | rfl | cases h

instance : LinearOrder Item := LinearOrder.lift' rank rank_injective

theorem wellFounded_lt : WellFounded ((· < ·) : Item → Item → Prop) :=
  InvImage.wf rank Nat.lt_wfRel.wf

/-- What an item must be like. -/
def Admits : Item → String → Prop
  | .digest, text => text.toList ∈ Grammar.digest
  | .domain, text => text.toList ∈ Grammar.domain
  | .path, text => text.toList ∈ separatedBy '/' pathComponent
  | .length, name => name.utf8ByteSize ≤ maxNameLength
  | .tag, text => text.toList ∈ Grammar.tag

/-- The error that names an item. All but one quote it. -/
def fault : Item → String → ReferenceError
  | .digest, text => .invalidDigest text
  | .domain, text => .invalidDomain text
  | .path, text => .invalidPath text
  | .length, _ => .nameTooLong
  | .tag, text => .invalidTag text

/-- What an item may be replaced by: a well-formed one, and for a path a single component. -/
def Mends : Item → String → Prop
  | .path, text => text.toList ∈ pathComponent
  | item, text => item.Admits text

end Item

/-- The text of an item, if the reference has it. -/
def item? (r : Reference) : Item → Option String
  | .digest => r.digest
  | .domain => r.domain
  | .path => some r.path
  | .length => some r.name
  | .tag => r.tag

/-- The reference with another text for an item. The length is no part that could be replaced. -/
def withItem (r : Reference) : Item → String → Reference
  | .digest, text => { r with digest := some text }
  | .domain, text => { r with domain := some text }
  | .path, text => { r with path := text }
  | .length, _ => r
  | .tag, text => { r with tag := some text }

/-- An ill-formed item that has none before it. -/
structure IsFirstFault (r : Reference) (item : Item) (text : String) : Prop where
  present : r.item? item = some text
  wrong : ¬ item.Admits text
  first : ∀ earlier < item, ∀ text, r.item? earlier = some text → earlier.Admits text

variable {item : Item} {text other : String} {error : ReferenceError}

/-! ### The first fault -/

theorem fault?_eq_none_iff_admits :
    r.fault? = none ↔ ∀ item text, r.item? item = some text → item.Admits text := by
  rw [fault?_eq_none_iff_mem]
  constructor
  · rintro ⟨hdigest, hdomain, hpath, hlength, htag⟩ item text htext
    cases item with
    | digest => exact hdigest text htext
    | domain => exact hdomain text htext
    | path => exact Option.some.inj htext ▸ hpath
    | length => exact Option.some.inj htext ▸ hlength
    | tag => exact htag text htext
  · intro h
    exact ⟨h .digest, h .domain, h .path _ rfl, h .length _ rfl, h .tag⟩

theorem filter_not_eq_none_iff {p : List Char → Bool} {part : Option String} :
    (part.filter fun text ↦ !p text.toList) = none ↔
      ∀ text, part = some text → p text.toList = true := by
  simp [Option.filter_eq_none_iff]

theorem filter_not_eq_some_iff {p : List Char → Bool} {part : Option String} :
    (part.filter fun text ↦ !p text.toList) = some text ↔
      part = some text ∧ ¬ p text.toList = true := by
  simp [Option.filter_eq_some_iff]

/-- The judge of the parts names a first fault. -/
theorem IsFirstFault.fault?_eq (h : r.IsFirstFault item text) :
    r.fault? = some (item.fault text) := by
  obtain ⟨hpresent, hwrong, hfirst⟩ := h
  have hdigest : .digest < item → (r.digest.filter fun text ↦ !isDigest text.toList) = none :=
    fun hlt ↦ filter_not_eq_none_iff.2 fun text ht ↦ isDigest_iff.2 (hfirst .digest hlt text ht)
  have hdomain : .domain < item → (r.domain.filter fun text ↦ !isDomain text.toList) = none :=
    fun hlt ↦ filter_not_eq_none_iff.2 fun text ht ↦ isDomain_iff.2 (hfirst .domain hlt text ht)
  have hpath : .path < item → isPath r.path.toList = true :=
    fun hlt ↦ isPath_iff.2 (hfirst .path hlt _ rfl)
  have hlength : .length < item → ¬ maxNameLength < r.nameLength :=
    fun hlt ↦ nameLength_eq r ▸ Nat.not_lt.2 (hfirst .length hlt _ rfl)
  unfold fault?
  cases item with
  | digest =>
    have hhere : (r.digest.filter fun text ↦ !isDigest text.toList) = some text :=
      filter_not_eq_some_iff.2 ⟨hpresent, mt isDigest_iff.1 hwrong⟩
    rw [hhere]
    rfl
  | domain =>
    have hhere : (r.domain.filter fun text ↦ !isDomain text.toList) = some text :=
      filter_not_eq_some_iff.2 ⟨hpresent, mt isDomain_iff.1 hwrong⟩
    rw [hdigest (by decide), hhere]
    rfl
  | path =>
    obtain rfl := Option.some.inj hpresent
    rw [hdigest (by decide), hdomain (by decide)]
    simp [mt isPath_iff.1 hwrong, Item.fault]
  | length =>
    obtain rfl := Option.some.inj hpresent
    have hlong : maxNameLength < r.nameLength := nameLength_eq r ▸ Nat.not_le.1 hwrong
    rw [hdigest (by decide), hdomain (by decide)]
    simp [hpath (by decide), hlong, Item.fault]
  | tag =>
    have hhere : (r.tag.filter fun text ↦ !isTag text.toList) = some text :=
      filter_not_eq_some_iff.2 ⟨hpresent, mt isTag_iff.1 hwrong⟩
    rw [hdigest (by decide), hdomain (by decide), hhere]
    simp [hpath (by decide), hlength (by decide), Item.fault]

theorem exists_isFirstFault (h : ∃ item text, r.item? item = some text ∧ ¬ item.Admits text) :
    ∃ item text, r.IsFirstFault item text := by
  obtain ⟨item, ⟨text, hpresent, hwrong⟩, hmin⟩ :=
    Item.wellFounded_lt.has_min {item | ∃ text, r.item? item = some text ∧ ¬ item.Admits text} h
  refine ⟨item, text, hpresent, hwrong, fun earlier hlt text' hearlier ↦ ?_⟩
  by_contra hwrong'
  exact hmin earlier ⟨text', hearlier, hwrong'⟩ hlt

/-- **The fault that is found is the first one.** -/
theorem fault?_eq_some_iff :
    r.fault? = some error ↔ ∃ item text, r.IsFirstFault item text ∧ error = item.fault text := by
  constructor
  · intro h
    have hwrong : ∃ item text, r.item? item = some text ∧ ¬ item.Admits text := by
      by_contra hnone
      push Not at hnone
      rw [fault?_eq_none_iff_admits.2 hnone] at h
      cases h
    obtain ⟨item, text, hfirst⟩ := exists_isFirstFault hwrong
    rw [hfirst.fault?_eq] at h
    exact ⟨item, text, hfirst, (Option.some.inj h).symm⟩
  · rintro ⟨item, text, hfirst, rfl⟩
    exact hfirst.fault?_eq

theorem parse_eq_error_iff (hs : s ≠ "") (hcut : r.IsCutOf s) :
    parse s = .error error ↔
      ∃ item text, r.IsFirstFault item text ∧ error = item.fault text := by
  rw [← fault?_eq_some_iff, ← split_eq_iff.2 hcut, parse, if_neg hs]
  rcases (split s).fault? with - | fault
  · simp
  · simp

/-- When nothing up to an item is ill-formed, a text is read, or something later is at fault. -/
theorem parse_of_admits (hs : s ≠ "") (hcut : r.IsCutOf s)
    (h : ∀ earlier ≤ item, ∀ text, r.item? earlier = some text → earlier.Admits text) :
    (∃ r', parse s = .ok r') ∨
      ∃ later text, item < later ∧ parse s = .error (later.fault text) := by
  rcases hparse : parse s with error | r'
  · obtain ⟨later, text, hfirst, rfl⟩ := (parse_eq_error_iff hs hcut).1 hparse
    exact .inr ⟨later, text, not_le.1 fun hle ↦ hfirst.wrong (h later hle text hfirst.present), rfl⟩
  · exact .inl ⟨r', rfl⟩

/-! ### Cuts after a replacement -/

namespace IsCutOf

variable {domain path tag : String}

theorem withDigest (h : r.IsCutOf s) (digest : String) :
    (r.withItem .digest digest).IsCutOf (r.withItem .digest digest).text :=
  ⟨rfl, h.digest, h.domain, h.start, h.tag, h.untagged⟩

theorem withTag (h : r.IsCutOf s) (htag : isTag tag.toList = true) :
    (r.withItem .tag tag).IsCutOf (r.withItem .tag tag).text := by
  obtain ⟨hdomain, hpath, -⟩ := notMem_taggedName_iff.1 h.digest
  refine ⟨rfl, notMem_taggedName_iff.2 ⟨hdomain, hpath, fun t ht ↦ ?_⟩, h.domain, h.start,
    fun t ht ↦ ?_, nofun⟩
  · obtain rfl := Option.some.inj ht
    exact notMem_of_isTag htag (by decide)
  · obtain rfl := Option.some.inj ht
    exact ⟨notMem_of_isTag htag (by decide), notMem_of_isTag htag (by decide)⟩

/-- A single component has no slash at which a domain could end, and no colon. -/
theorem withPath (h : r.IsCutOf s) (hpath : isPathComponent path.toList = true) :
    (r.withItem .path path).IsCutOf (r.withItem .path path).text := by
  have hnot : ∀ {c}, isPathChar c = false → c ∉ path.toList := fun hc hmem ↦ by
    rw [isPathChar_of_mem_component hpath hmem] at hc
    cases hc
  obtain ⟨hdomain, -, htag⟩ := notMem_taggedName_iff.1 h.digest
  refine ⟨rfl, notMem_taggedName_iff.2 ⟨hdomain, hnot (by decide), htag⟩, h.domain,
    fun _ first rest heq _ ↦ ?_, h.tag, fun _ before after heq _ ↦ ?_⟩
  · have hslash : '/' ∈ path.toList := heq ▸ by simp
    exact absurd hslash (hnot (by decide))
  · have hcolon : ':' ∈ path.toList := heq ▸ by simp
    exact absurd hcolon (hnot (by decide))

theorem withDomain (h : r.IsCutOf s) (hdomain : isDomain domain.toList = true)
    (hnames : NamesRegistry domain.toList) :
    (r.withItem .domain domain).IsCutOf (r.withItem .domain domain).text := by
  obtain ⟨-, hpath, htag⟩ := notMem_taggedName_iff.1 h.digest
  refine ⟨rfl, notMem_taggedName_iff.2 ⟨fun d hd ↦ ?_, hpath, htag⟩, fun d hd ↦ ?_, nofun, h.tag,
    h.untagged⟩
  · obtain rfl := Option.some.inj hd
    exact notMem_of_isDomain hdomain (by decide)
  · obtain rfl := Option.some.inj hd
    exact ⟨notMem_of_isDomain hdomain (by decide), hnames⟩

/-- A domain that does not look like one is cut as the first component of the path. -/
theorem withoutDomain (h : r.IsCutOf s) (hdomain : isDomain domain.toList = true)
    (hnames : ¬ NamesRegistry domain.toList) :
    ({ r with domain := none, path := domain ++ "/" ++ r.path } : Reference).IsCutOf
      (r.withItem .domain domain).text := by
  have hslash : '/' ∉ domain.toList := notMem_of_isDomain hdomain (by decide)
  have hcolon : ':' ∉ domain.toList := fun hmem ↦ hnames (.inr (.inl hmem))
  have hjoined : (domain ++ "/" ++ r.path).toList = domain.toList ++ '/' :: r.path.toList := by
    simp
  obtain ⟨-, hpath, htag⟩ := notMem_taggedName_iff.1 h.digest
  refine ⟨?_, notMem_taggedName_iff.2 ⟨nofun, ?_, htag⟩, nofun, fun _ first rest heq hfirst ↦ ?_,
    h.tag, fun htag before after heq hafter ↦ ?_⟩
  · rw [← String.toList_inj, toList_text, toList_text]
    simp [withItem, domainStart]
  · have hat : '@' ∉ domain.toList := notMem_of_isDomain hdomain (by decide)
    simp [hjoined, hat, hpath]
  · obtain ⟨rfl, -⟩ := Text.eq_of_append_sep_eq (hjoined ▸ heq) hslash hfirst
    exact hnames
  · rw [hjoined] at heq
    rcases List.append_eq_append_iff.1 heq with ⟨mid, -, htail⟩ | ⟨mid, hbefore, htail⟩
    · -- the colon stands behind the slash that now leads from the domain to the path
      rcases mid with - | ⟨c, mid⟩
      · exact absurd (List.cons.inj htail).1 (by decide)
      · exact h.untagged htag mid after (List.cons.inj htail).2 hafter
    · rcases mid with - | ⟨c, mid⟩
      · exact absurd (List.cons.inj htail).1 (by decide)
      · obtain ⟨rfl, -⟩ := List.cons.inj htail
        exact absurd (by simp [hbefore]) hcolon

end IsCutOf

theorem isPath_of_isPathComponent {text : List Char} (h : isPathComponent text = true) :
    isPath text = true := by
  have hslash : '/' ∉ text := fun hmem ↦ absurd (isPathChar_of_mem_component h hmem) (by decide)
  rw [isPath, Text.components_of_notMem hslash, List.all_cons, h]
  rfl

/-- **A replacement moves no cut before it**: the items before the replaced one are what they were,
and in its place there is a well-formed one or none. -/
theorem exists_isCutOf_withItem (h : r.IsCutOf s) (hitem : item ≠ .length)
    (hmends : item.Mends other) : ∃ r' : Reference, r'.IsCutOf (r.withItem item other).text ∧
      (∀ earlier < item, r'.item? earlier = r.item? earlier) ∧
        ∀ text, r'.item? item = some text → item.Admits text := by
  cases item with
  | digest =>
    refine ⟨_, h.withDigest other, fun earlier hlt ↦ ?_, fun text ht ↦ ?_⟩
    · cases earlier <;> exact absurd hlt (by decide)
    · exact Option.some.inj ht ▸ hmends
  | domain =>
    by_cases hnames : NamesRegistry other.toList
    · refine ⟨_, h.withDomain (isDomain_iff.2 hmends) hnames, fun earlier hlt ↦ ?_,
        fun text ht ↦ ?_⟩
      · cases earlier <;> first | rfl | exact absurd hlt (by decide)
      · exact Option.some.inj ht ▸ hmends
    · -- there is no domain any more, so none is wrong
      refine ⟨_, h.withoutDomain (isDomain_iff.2 hmends) hnames, fun earlier hlt ↦ ?_, nofun⟩
      cases earlier <;> first | rfl | exact absurd hlt (by decide)
  | path =>
    have hcomponent := isPathComponent_iff.2 hmends
    refine ⟨_, h.withPath hcomponent, fun earlier hlt ↦ ?_, fun text ht ↦ ?_⟩
    · cases earlier <;> first | rfl | exact absurd hlt (by decide)
    · exact Option.some.inj ht ▸ isPath_iff.1 (isPath_of_isPathComponent hcomponent)
  | length => exact absurd rfl hitem
  | tag =>
    refine ⟨_, h.withTag (isTag_iff.2 hmends), fun earlier hlt ↦ ?_, fun text ht ↦ ?_⟩
    · cases earlier <;> first | rfl | exact absurd hlt (by decide)
    · exact Option.some.inj ht ▸ hmends

/-! ### Replacing in place -/

/-- What stands before and behind an item in the written form does not depend on it. -/
theorem exists_text_withItem (r : Reference) (hitem : item ≠ .length) :
    ∃ before after, ∀ other, (r.withItem item other).text = before ++ other ++ after := by
  simp only [← String.toList_inj, toList_text]
  cases item with
  | digest =>
    refine ⟨r.taggedName ++ "@", "", fun other ↦ ?_⟩
    simp [withItem, toList_taggedName, introduced]
  | domain =>
    refine ⟨"", "/" ++ ({ r with domain := none } : Reference).text, fun other ↦ ?_⟩
    simp [withItem, toList_text, domainStart]
  | path =>
    refine ⟨String.ofList (domainStart r.domain),
      String.ofList (introduced ':' r.tag ++ introduced '@' r.digest), fun other ↦ ?_⟩
    simp [withItem]
  | length => exact absurd rfl hitem
  | tag =>
    refine ⟨r.name ++ ":", String.ofList (introduced '@' r.digest), fun other ↦ ?_⟩
    simp [withItem, toList_name, introduced]

theorem withItem_eq_self (hitem : r.item? item = some text) : r.withItem item text = r := by
  rcases r with ⟨domain, path, tag, digest⟩
  cases item <;> simp_all [item?, withItem]

theorem ne_empty_of_mends (hitem : item ≠ .length) (hmends : item.Mends other) : other ≠ "" := by
  rintro rfl
  cases item with
  | digest => exact absurd (isDigest_iff.2 hmends) (by decide)
  | domain => exact absurd (isDomain_iff.2 hmends) (by decide)
  | path => exact nil_notMem_pathComponent hmends
  | length => exact hitem rfl
  | tag => exact absurd (isTag_iff.2 hmends) (by decide)

/-- **The error names the first ill-formed item, and mending it leaves only later ones.** A text
that is not empty is cut into parts in one way. It is refused exactly when one of the items is
ill-formed, and the error is that of the first such item, which it quotes unless it is the length.
When the quoted item is replaced in its place by a well-formed one, the text is read, or the error
is that of an item later in the order. -/
theorem parse_names_first_fault (hs : s ≠ "") : ∃ r : Reference,
    (∀ r' : Reference, r'.IsCutOf s ↔ r' = r) ∧
      (∀ error, parse s = .error error ↔
        ∃ item text, r.IsFirstFault item text ∧ error = item.fault text) ∧
      ∀ item text, r.IsFirstFault item text → item ≠ .length →
        ∃ before after, s = before ++ text ++ after ∧
          (∀ other, (r.withItem item other).text = before ++ other ++ after) ∧
          ∀ other, item.Mends other →
            (∃ r', parse (before ++ other ++ after) = .ok r') ∨
              ∃ later text', item < later ∧
                parse (before ++ other ++ after) = .error (later.fault text') := by
  have hcut : (split s).IsCutOf s := split_eq_iff.1 rfl
  refine ⟨split s, fun r' ↦ ?_, fun error ↦ parse_eq_error_iff hs hcut,
    fun item text hfault hitem ↦ ?_⟩
  · rw [← split_eq_iff, eq_comm]
  · obtain ⟨before, after, htext⟩ := exists_text_withItem (split s) hitem
    refine ⟨before, after, ?_, htext, fun other hmends ↦ ?_⟩
    · rw [← htext, withItem_eq_self hfault.present, hcut.text]
    · obtain ⟨r', hcut', hbefore, hhere⟩ := exists_isCutOf_withItem hcut hitem hmends
      have hne : before ++ other ++ after ≠ "" := by
        rw [ne_eq, String.append_eq_empty_iff, String.append_eq_empty_iff]
        exact fun hempty ↦ ne_empty_of_mends hitem hmends hempty.1.2
      rw [htext] at hcut'
      -- up to the item the new text has the parts of the old one, and none of them is wrong
      refine parse_of_admits hne hcut' fun earlier hle text' htext' ↦ ?_
      rcases hle.lt_or_eq with hlt | rfl
      · exact hfault.first earlier hlt text' (hbefore earlier hlt ▸ htext')
      · exact hhere text' htext'

/-- Domain, path and tag are all wrong. The domain is named, and whatever domain takes its place, it
is not the domain that is named then. -/
theorem parse_names_domain_first :
    parse "a_b.io:80/App:ñ" = .error (.invalidDomain "a_b.io:80") ∧
      ∃ before after, "a_b.io:80/App:ñ" = before ++ "a_b.io:80" ++ after ∧
        ∀ other, Item.domain.Mends other →
          (∃ r', parse (before ++ other ++ after) = .ok r') ∨
            ∃ later text', Item.domain < later ∧
              parse (before ++ other ++ after) = .error (later.fault text') := by
  have hparse : parse "a_b.io:80/App:ñ" = .error (.invalidDomain "a_b.io:80") := by rfl
  obtain ⟨r, -, herror, hmend⟩ := parse_names_first_fault (s := "a_b.io:80/App:ñ") (by decide)
  obtain ⟨item, text, hfault, heq⟩ := (herror _).1 hparse
  cases item <;> cases heq
  obtain ⟨before, after, hs, -, hother⟩ := hmend .domain "a_b.io:80" hfault (by decide)
  exact ⟨hparse, before, after, hs, hother⟩

/-- The domain `quay` does not look like one, so the path is longer then. -/
example : parse "quay/App:ñ" = .error (.invalidPath "quay/App") := by rfl

end PullCache.Reference
