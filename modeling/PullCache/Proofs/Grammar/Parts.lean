import PullCache.Proofs.Grammar.Language

/-!
# Domains, tags and digests as languages

The remaining parts of a reference. For each part it is also said which characters it may hold:
that the separators `/`, `:` and `@` are not among them is what keeps the parts of a written
reference apart.
-/

namespace PullCache.Grammar

open Computability Language
open Text (cutFirst components)

variable {p : Char → Bool} {l m : Language Char} {text : List Char} {c : Char}

/-! ### The characters of a path -/

/-- The characters of path components. -/
def isPathChar (c : Char) : Bool :=
  isWordChar c || c == '.' || c == '_' || c == '-'

theorem PathState.isPathChar_of_next (s : PathState) (c : Char) (t : PathState)
    (h : s.next c = some t) : isPathChar c = true := by
  unfold PathState.next at h
  unfold isPathChar
  split at h
  · next hw => simp [hw]
  · split at h <;> simp at h ⊢

/-- What a run has read is made of characters that its steps accept. -/
theorem forall_mem_of_run {σ : Type} {next : σ → Char → Option σ}
    (hnext : ∀ s c t, next s c = some t → p c = true) {s t : σ}
    (h : text.foldlM next s = some t) : ∀ c ∈ text, p c = true := by
  induction text generalizing s with
  | nil => simp
  | cons c text ih =>
    rw [List.foldlM_cons] at h
    obtain ⟨u, hu, hrest⟩ := Option.bind_eq_some_iff.1 h
    exact List.forall_mem_cons.2 ⟨hnext s c u hu, ih hrest⟩

theorem isPathChar_of_mem_component (h : isPathComponent text = true) (hc : c ∈ text) :
    isPathChar c = true := by
  rw [isPathComponent, beq_iff_eq] at h
  exact forall_mem_of_run PathState.isPathChar_of_next h c hc

theorem isPathChar_of_mem (h : isPath text = true) (hc : c ∈ text) (hslash : c ≠ '/') :
    isPathChar c = true := by
  obtain ⟨part, hpart, hcpart⟩ := Text.exists_mem_components hc hslash
  exact isPathChar_of_mem_component (List.all_eq_true.1 h part hpart) hcpart

theorem notMem_of_isPath (h : isPath text = true) (hc : isPathChar c = false) (hslash : c ≠ '/') :
    c ∉ text := by
  intro hmem
  rw [isPathChar_of_mem h hmem hslash] at hc
  cases hc

/-! ### Domains -/

/-- The characters of domain labels. -/
def isLabelChar (c : Char) : Bool :=
  c.isAlphanum || c == '-'

/-- A letter or digit, or two of them with letters, digits and hyphens between. -/
def domainLabel : Language Char :=
  oneOf Char.isAlphanum + oneOf Char.isAlphanum * ((oneOf isLabelChar)∗ * oneOf Char.isAlphanum)

/-- Labels separated by dots. -/
def host : Language Char := separatedBy '.' domainLabel

/-- A host, then perhaps a colon and digits. -/
def domain : Language Char :=
  host * (1 + oneOf (· == ':') * oneOrMore (oneOf Char.isDigit))

theorem isDomainLabel_iff : isDomainLabel text = true ↔ text ∈ domainLabel := by
  have hchar : ∀ c : Char, c.isAlphanum = true → isLabelChar c = true := by
    intro c hc
    simp [isLabelChar, hc]
  have hlast : ∀ (c d : Char) (body : List Char), (c :: (body ++ [d])).getLast? = some d := by
    intro c d body
    rw [← List.cons_append, List.getLast?_concat]
  rw [domainLabel, mem_add, mem_oneOf_mul]
  constructor
  · intro h
    obtain ⟨⟨hall, hfirst⟩, hend⟩ :
        ((∀ c ∈ text, isLabelChar c = true) ∧ text.head?.any Char.isAlphanum = true) ∧
          text.getLast?.any Char.isAlphanum = true := by
      simpa [isDomainLabel, isLabelChar] using h
    rcases text with - | ⟨c, rest⟩
    · cases hfirst
    · rcases List.eq_nil_or_concat rest with rfl | ⟨body, d, rfl⟩
      · exact .inl ⟨c, hfirst, rfl⟩
      · -- a longer label ends in a letter or digit of its own
        rw [List.concat_eq_append] at hall hend ⊢
        refine .inr ⟨c, _, rfl, hfirst, ?_⟩
        have hd : d.isAlphanum = true := by
          rwa [hlast, Option.any_some] at hend
        refine append_mem_mul (mem_kstar_oneOf.2 fun e he ↦ hall e ?_) ⟨d, hd, rfl⟩
        exact List.mem_cons_of_mem _ (List.mem_append_left _ he)
  · rintro (⟨c, hc, rfl⟩ | ⟨c, rest, rfl, hc, hrest⟩)
    · simp [isDomainLabel, hc]
    · obtain ⟨body, hbody, _, ⟨d, hd, rfl⟩, rfl⟩ := mem_mul.1 hrest
      have hall : ∀ e ∈ body, e.isAlphanum = true ∨ e = '-' := by
        simpa [isLabelChar] using mem_kstar_oneOf.1 hbody
      simp only [isDomainLabel, List.all_cons, List.all_append, List.all_nil, List.head?_cons,
        hlast, Option.any_some, hc, hd, Bool.true_or, Bool.and_true, Bool.true_and]
      simpa using hall

theorem isHost_iff : isHost text = true ↔ text ∈ host := by
  rw [isHost, List.all_eq_true]
  exact forall₂_congr fun _ _ ↦ isDomainLabel_iff

theorem isLabelChar_of_mem_host (h : isHost text = true) (hc : c ∈ text) (hdot : c ≠ '.') :
    isLabelChar c = true := by
  obtain ⟨part, hpart, hcpart⟩ := Text.exists_mem_components hc hdot
  have hlabel := List.all_eq_true.1 h part hpart
  simp only [isDomainLabel, Bool.and_eq_true] at hlabel
  exact List.all_eq_true.1 hlabel.1.1 c hcpart

theorem notMem_of_isHost (h : isHost text = true) (hc : isLabelChar c = false) (hdot : c ≠ '.') :
    c ∉ text := by
  intro hmem
  rw [isLabelChar_of_mem_host h hmem hdot] at hc
  cases hc

theorem isDigits_iff : isDigits text = true ↔ text ∈ oneOrMore (oneOf Char.isDigit) := by
  rw [mem_oneOrMore_oneOf, isDigits, Bool.and_eq_true, List.all_eq_true, Bool.not_eq_true',
    List.isEmpty_eq_false_iff]

theorem notMem_of_isDigits (h : isDigits text = true) (hc : c.isDigit = false) : c ∉ text :=
  notMem_of_forall (mem_oneOrMore_oneOf.1 (isDigits_iff.1 h)).2 hc

/-- A domain is a host, alone or before a colon and digits. -/
theorem isDomain_iff_exists : isDomain text = true ↔
    isHost text = true ∨
      ∃ h digits, text = h ++ ':' :: digits ∧ isHost h = true ∧ isDigits digits = true := by
  have hcolon : ∀ {h : List Char}, isHost h = true → ':' ∉ h := fun h ↦
    notMem_of_isHost h (by decide) (by decide)
  unfold isDomain
  constructor
  · intro h
    rcases hcut : cutFirst ':' text with - | ⟨first, digits⟩
    · rw [hcut] at h
      exact .inl h
    · rw [hcut, Bool.and_eq_true] at h
      exact .inr ⟨first, digits, (Text.cutFirst_eq_some_iff.1 hcut).1, h.2, h.1⟩
  · rintro (h | ⟨first, digits, rfl, hfirst, hdigits⟩)
    · rw [Text.cutFirst_eq_none_iff.2 (hcolon h)]
      exact h
    · rw [Text.cutFirst_append (hcolon hfirst)]
      exact Bool.and_eq_true_iff.2 ⟨hdigits, hfirst⟩

theorem isDomain_iff : isDomain text = true ↔ text ∈ domain := by
  rw [isDomain_iff_exists, domain, mul_add, mul_one, mem_add, ← isHost_iff, mem_mul]
  refine or_congr_right ⟨?_, ?_⟩
  · rintro ⟨h, digits, rfl, hh, hdigits⟩
    exact ⟨h, isHost_iff.1 hh, ':' :: digits,
      mem_oneOf_mul.2 ⟨':', digits, rfl, rfl, isDigits_iff.1 hdigits⟩, rfl⟩
  · rintro ⟨h, hh, _, hport, rfl⟩
    obtain ⟨d, digits, rfl, hd, hdigits⟩ := mem_oneOf_mul.1 hport
    obtain rfl := beq_iff_eq.1 hd
    exact ⟨h, digits, rfl, isHost_iff.2 hh, isDigits_iff.2 hdigits⟩

/-- The characters of domains. -/
def isDomainChar (c : Char) : Bool :=
  isLabelChar c || c == '.' || c == ':'

theorem isDomainChar_of_mem (h : isDomain text = true) (hc : c ∈ text) : isDomainChar c = true := by
  have hhost : ∀ {h : List Char}, isHost h = true → c ∈ h → isDomainChar c = true := by
    intro h hh hc
    by_cases hdot : c = '.'
    · simp [isDomainChar, hdot]
    · simp [isDomainChar, isLabelChar_of_mem_host hh hc hdot]
  rcases isDomain_iff_exists.1 h with h | ⟨first, digits, rfl, hfirst, hdigits⟩
  · exact hhost h hc
  · rcases List.mem_append.1 hc with hc | hc
    · exact hhost hfirst hc
    · rcases List.mem_cons.1 hc with rfl | hc
      · decide
      · simp [isDomainChar, isLabelChar, Char.isAlphanum,
          (mem_oneOrMore_oneOf.1 (isDigits_iff.1 hdigits)).2 c hc]

theorem notMem_of_isDomain (h : isDomain text = true) (hc : isDomainChar c = false) :
    c ∉ text :=
  notMem_of_forall (fun _ ↦ isDomainChar_of_mem h) hc

/-! ### Tags -/

/-- The characters of tags. -/
def isTagChar (c : Char) : Bool :=
  isTagStart c || c == '.' || c == '-'

/-- A letter, digit or underscore, then at most 127 of these, dots and hyphens. -/
def tag : Language Char := oneOf isTagStart * (1 + oneOf isTagChar) ^ 127

theorem isTag_iff : isTag text = true ↔ text ∈ tag := by
  rw [tag, mem_oneOf_mul]
  simp only [mem_pow_one_add_oneOf]
  constructor
  · intro h
    rcases text with - | ⟨c, rest⟩
    · cases h
    · simp only [isTag, Bool.and_eq_true, decide_eq_true_eq] at h
      exact ⟨c, rest, rfl, h.1.1, h.2, List.all_eq_true.1 h.1.2⟩
  · rintro ⟨c, rest, rfl, hc, hlength, hall⟩
    simp only [isTag, Bool.and_eq_true, decide_eq_true_eq]
    exact ⟨⟨hc, List.all_eq_true.2 hall⟩, hlength⟩

theorem notMem_of_isTag (h : isTag text = true) (hc : isTagChar c = false) : c ∉ text := by
  obtain ⟨d, rest, rfl, hd, hrest⟩ := mem_oneOf_mul.1 (isTag_iff.1 h)
  have hstart : isTagChar d = true := by
    simp [isTagChar, hd]
  exact notMem_of_forall (List.forall_mem_cons.2 ⟨hstart, (mem_pow_one_add_oneOf.1 hrest).2⟩) hc

/-! ### Digests -/

/-- What joins the words of a digest algorithm. -/
def isAlgorithmSeparator (c : Char) : Bool :=
  c == '-' || c == '_' || c == '+' || c == '.'

/-- A letter, then letters and digits. -/
def algorithmWord : Language Char := oneOf Char.isAlpha * (oneOf Char.isAlphanum)∗

/-- Words joined by single separators. -/
def algorithm : Language Char := algorithmWord * (oneOf isAlgorithmSeparator * algorithmWord)∗

/-- An algorithm, a colon, and at least 32 hexadecimal digits. -/
def digest : Language Char :=
  algorithm * (oneOf (· == ':') * (oneOf isHexDigit ^ 32 * (oneOf isHexDigit)∗))

/-- What may follow inside a word of an algorithm, and before one. -/
def algorithmRest : Bool → Language Char
  | true => (oneOf Char.isAlphanum)∗ * (oneOf isAlgorithmSeparator * algorithmWord)∗
  | false => algorithm

theorem leftQuotient_algorithm (c : Char) :
    algorithm.leftQuotient [c] = if c.isAlpha then algorithmRest true else 0 := by
  rw [algorithm, algorithmWord, mul_assoc, leftQuotient_oneOf_mul]
  rfl

theorem leftQuotient_joinedAlgorithmWords (c : Char) :
    ((oneOf isAlgorithmSeparator * algorithmWord)∗).leftQuotient [c] =
      if isAlgorithmSeparator c then algorithm else 0 := by
  rw [← one_add_self_mul_kstar_eq_kstar, leftQuotient_add, leftQuotient_one, zero_add, mul_assoc,
    ← algorithm, leftQuotient_oneOf_mul]

theorem leftQuotient_algorithmRest_true (c : Char) :
    (algorithmRest true).leftQuotient [c] =
      (if isAlgorithmSeparator c then algorithm else 0) +
        if c.isAlphanum then algorithmRest true else 0 := by
  show ((oneOf Char.isAlphanum)∗ * _).leftQuotient [c] = _
  rw [leftQuotient_kstar_oneOf_mul, leftQuotient_joinedAlgorithmWords]
  rfl

theorem not_isAlphanum_of_isAlgorithmSeparator (h : isAlgorithmSeparator c = true) :
    c.isAlphanum = false := by
  simp only [isAlgorithmSeparator, Bool.or_eq_true, beq_iff_eq] at h
  rcases h with ((rfl | rfl) | rfl) | rfl <;> decide

theorem leftQuotient_algorithmRest (inWord : Bool) (c : Char) :
    (algorithmRest inWord).leftQuotient [c] = (algorithmNext inWord c).elim 0 algorithmRest := by
  have hsep : algorithmNext true c = if c.isAlphanum then some true
      else if isAlgorithmSeparator c then some false else none := by
    by_cases ha : c.isAlpha = true <;>
      simp [algorithmNext, Char.isAlphanum, isAlgorithmSeparator, ha]
  cases inWord with
  | false =>
    show algorithm.leftQuotient [c] = _
    rw [leftQuotient_algorithm]
    by_cases ha : c.isAlpha = true <;> simp [algorithmNext, ha]
  | true =>
    rw [leftQuotient_algorithmRest_true, hsep]
    by_cases hs : isAlgorithmSeparator c = true
    · simp [hs, not_isAlphanum_of_isAlgorithmSeparator hs, algorithmRest]
    · by_cases hn : c.isAlphanum = true <;> simp [hs, hn]

theorem nil_mem_algorithmRest_iff (inWord : Bool) :
    [] ∈ algorithmRest inWord ↔ inWord = true := by
  cases inWord with
  | false =>
    rw [algorithmRest, algorithm, algorithmWord, mul_assoc]
    simp only [nil_notMem_oneOf_mul, Bool.false_eq_true]
  | true => exact iff_of_true (append_mem_mul (nil_mem_kstar _) (nil_mem_kstar _)) rfl

theorem isAlgorithm_iff : isAlgorithm text = true ↔ text ∈ algorithm := by
  rw [isAlgorithm, beq_iff_eq]
  exact run_iff_mem nil_mem_algorithmRest_iff leftQuotient_algorithmRest false text

theorem colon_notMem_of_isAlgorithm (h : isAlgorithm text = true) : ':' ∉ text := by
  rw [isAlgorithm, beq_iff_eq] at h
  have hnext : ∀ b c b', algorithmNext b c = some b' → (c != ':') = true := by
    intro b c b' hb
    simp only [bne_iff_ne]
    rintro rfl
    simp [algorithmNext] at hb
  intro hmem
  simpa using forall_mem_of_run hnext h ':' hmem

theorem isDigest_iff : isDigest text = true ↔ text ∈ digest := by
  simp only [digest, mem_mul (l := algorithm), mem_oneOf_mul, mem_pow_mul_kstar_oneOf]
  unfold isDigest
  constructor
  · intro h
    rcases hcut : cutFirst ':' text with - | ⟨first, hex⟩
    · rw [hcut] at h
      cases h
    · rw [hcut] at h
      simp only [Bool.and_eq_true, decide_eq_true_eq] at h
      obtain ⟨rfl, -⟩ := Text.cutFirst_eq_some_iff.1 hcut
      exact ⟨first, isAlgorithm_iff.1 h.1.1, ':' :: hex,
        ⟨':', hex, rfl, rfl, h.2, List.all_eq_true.1 h.1.2⟩, rfl⟩
  · rintro ⟨first, hfirst, _, ⟨c, hex, rfl, hc, hlength, hall⟩, rfl⟩
    obtain rfl := beq_iff_eq.1 hc
    have halg := isAlgorithm_iff.2 hfirst
    rw [Text.cutFirst_append (colon_notMem_of_isAlgorithm halg)]
    simp only [Bool.and_eq_true, decide_eq_true_eq]
    exact ⟨⟨halg, List.all_eq_true.2 hall⟩, hlength⟩

end PullCache.Grammar
