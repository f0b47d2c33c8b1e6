import Mathlib.Computability.MyhillNerode
import PullCache.Reference.Grammar

/-!
# The grammar of references as languages

The recognisers of `PullCache.Reference.Grammar` read a text character by character. Here the parts
of a reference are given as languages, built from character classes by union, concatenation and
iteration, and each recogniser is shown to accept exactly its language.

A recogniser with states is matched to its language by left quotients: the state after some
characters stands for what may still follow them (`run_iff_mem`), so all that is to be checked is
that one more character takes the quotient. The other recognisers are read off directly.
-/

namespace PullCache.Grammar

open Computability Language
open Text (cutFirst components)

/-! ### Classes and iterations -/

/-- One character of a class. -/
def oneOf (p : Char → Bool) : Language Char := {text | ∃ c, p c = true ∧ text = [c]}

/-- At least once. -/
def oneOrMore (l : Language Char) : Language Char := l * l∗

/-- Parts from a language, with a separator between any two of them. -/
def separatedBy (sep : Char) (l : Language Char) : Language Char :=
  {text | ∀ part ∈ components sep text, part ∈ l}

variable {p : Char → Bool} {l m : Language Char} {text : List Char}

theorem mem_oneOf_mul :
    text ∈ oneOf p * l ↔ ∃ c rest, text = c :: rest ∧ p c = true ∧ rest ∈ l := by
  rw [mem_mul]
  constructor
  · rintro ⟨_, ⟨c, hc, rfl⟩, rest, hrest, rfl⟩
    exact ⟨c, rest, rfl, hc, hrest⟩
  · rintro ⟨c, rest, rfl, hc, hrest⟩
    exact ⟨[c], ⟨c, hc, rfl⟩, rest, hrest, rfl⟩

theorem mem_kstar_oneOf : text ∈ (oneOf p)∗ ↔ ∀ c ∈ text, p c = true := by
  rw [mem_kstar]
  constructor
  · rintro ⟨parts, rfl, h⟩ c hc
    obtain ⟨part, hpart, hc⟩ := List.mem_flatten.1 hc
    obtain ⟨d, hd, rfl⟩ := h part hpart
    rw [List.mem_singleton.1 hc]
    exact hd
  · intro h
    refine ⟨text.map fun c ↦ [c], by simp [← List.flatMap_def], fun part hpart ↦ ?_⟩
    obtain ⟨c, hc, rfl⟩ := List.mem_map.1 hpart
    exact ⟨c, h c hc, rfl⟩

theorem mem_oneOrMore_oneOf :
    text ∈ oneOrMore (oneOf p) ↔ text ≠ [] ∧ ∀ c ∈ text, p c = true := by
  rw [oneOrMore, mem_oneOf_mul]
  constructor
  · rintro ⟨c, rest, rfl, hc, hrest⟩
    exact ⟨by simp, List.forall_mem_cons.2 ⟨hc, mem_kstar_oneOf.1 hrest⟩⟩
  · rintro ⟨hne, h⟩
    rcases text with - | ⟨c, rest⟩
    · exact absurd rfl hne
    · obtain ⟨hc, hrest⟩ := List.forall_mem_cons.1 h
      exact ⟨c, rest, rfl, hc, mem_kstar_oneOf.2 hrest⟩

/-- So many characters of a class and then any number of them are at least so many. -/
theorem mem_pow_mul_kstar_oneOf {n : ℕ} :
    text ∈ oneOf p ^ n * (oneOf p)∗ ↔ n ≤ text.length ∧ ∀ c ∈ text, p c = true := by
  induction n generalizing text with
  | zero => rw [pow_zero, one_mul, mem_kstar_oneOf, and_iff_right (Nat.zero_le _)]
  | succ n ih =>
    rw [pow_succ', mul_assoc, mem_oneOf_mul]
    constructor
    · rintro ⟨c, rest, rfl, hc, hrest⟩
      obtain ⟨hlength, hall⟩ := ih.1 hrest
      exact ⟨Nat.succ_le_succ hlength, List.forall_mem_cons.2 ⟨hc, hall⟩⟩
    · rintro ⟨hlength, hall⟩
      rcases text with - | ⟨c, rest⟩
      · exact absurd hlength (Nat.not_succ_le_zero n)
      · obtain ⟨hc, hrest⟩ := List.forall_mem_cons.1 hall
        exact ⟨c, rest, rfl, hc, ih.2 ⟨Nat.le_of_succ_le_succ hlength, hrest⟩⟩

/-- An optional character, so many times, is at most so many characters. -/
theorem mem_pow_one_add_oneOf {n : ℕ} :
    text ∈ (1 + oneOf p) ^ n ↔ text.length ≤ n ∧ ∀ c ∈ text, p c = true := by
  induction n generalizing text with
  | zero =>
    rw [pow_zero, mem_one, Nat.le_zero, List.length_eq_zero_iff]
    refine ⟨?_, And.left⟩
    rintro rfl
    simp
  | succ n ih =>
    rw [pow_succ', one_add_mul, mem_add, mem_oneOf_mul, ih]
    constructor
    · rintro (⟨hlength, hall⟩ | ⟨c, rest, rfl, hc, hrest⟩)
      · exact ⟨Nat.le_succ_of_le hlength, hall⟩
      · obtain ⟨hlength, hall⟩ := ih.1 hrest
        exact ⟨Nat.succ_le_succ hlength, List.forall_mem_cons.2 ⟨hc, hall⟩⟩
    · rintro ⟨hlength, hall⟩
      rcases text with - | ⟨c, rest⟩
      · exact .inl ⟨Nat.zero_le n, hall⟩
      · obtain ⟨hc, hrest⟩ := List.forall_mem_cons.1 hall
        exact .inr ⟨c, rest, rfl, hc, ih.2 ⟨Nat.le_of_succ_le_succ hlength, hrest⟩⟩

theorem nil_notMem_oneOf_mul : [] ∉ oneOf p * l := by
  rw [mem_oneOf_mul]
  rintro ⟨c, rest, h, -⟩
  cases h

/-- A text over a class leaves out what is not in the class. -/
theorem notMem_of_forall {c : Char} (h : ∀ d ∈ text, p d = true) (hc : p c = false) :
    c ∉ text := by
  intro hmem
  rw [h c hmem] at hc
  cases hc

/-! ### Quotients by one character -/

theorem leftQuotient_add (c : Char) (l m : Language Char) :
    (l + m).leftQuotient [c] = l.leftQuotient [c] + m.leftQuotient [c] := rfl

theorem leftQuotient_one (c : Char) : (1 : Language Char).leftQuotient [c] = 0 := by
  ext text
  simp

theorem leftQuotient_oneOf_mul (c : Char) (p : Char → Bool) (l : Language Char) :
    (oneOf p * l).leftQuotient [c] = if p c then l else 0 := by
  ext text
  rw [mem_leftQuotient, List.singleton_append, mem_oneOf_mul]
  constructor
  · rintro ⟨d, rest, heq, hd, hrest⟩
    obtain ⟨rfl, rfl⟩ := List.cons.inj heq
    rwa [if_pos hd]
  · intro h
    by_cases hc : p c = true
    · rw [if_pos hc] at h
      exact ⟨c, text, rfl, hc, h⟩
    · rw [if_neg hc] at h
      exact absurd h (notMem_zero text)

theorem kstar_mul_eq (l m : Language Char) : l∗ * m = m + l * (l∗ * m) := by
  rw [← mul_assoc, ← one_add_mul, one_add_self_mul_kstar_eq_kstar]

theorem leftQuotient_kstar_oneOf_mul (c : Char) (p : Char → Bool) (l : Language Char) :
    ((oneOf p)∗ * l).leftQuotient [c] =
      l.leftQuotient [c] + if p c then (oneOf p)∗ * l else 0 := by
  conv_lhs => rw [kstar_mul_eq]
  rw [leftQuotient_add, leftQuotient_oneOf_mul]

/-- **States are quotients.** When each state has a language, a character moves from a state to one
whose language is the quotient by that character, and only the last state's language has the empty
text, then a text leads from a state to the last one exactly when it is in the state's language. -/
theorem run_iff_mem {σ : Type} {next : σ → Char → Option σ} {rest : σ → Language Char} {last : σ}
    (hnil : ∀ s, [] ∈ rest s ↔ s = last)
    (hcons : ∀ s c, (rest s).leftQuotient [c] = (next s c).elim 0 rest) (s : σ)
    (text : List Char) : text.foldlM next s = some last ↔ text ∈ rest s := by
  induction text generalizing s with
  | nil => simp [hnil]
  | cons c text ih =>
    have hc : c :: text ∈ rest s ↔ text ∈ (next s c).elim 0 rest := by
      rw [← hcons s c, mem_leftQuotient, List.singleton_append]
    rw [hc, List.foldlM_cons]
    rcases next s c with - | t
    · simp
    · exact ih t

/-! ### Path components -/

/-- A run of lower-case letters and digits. -/
def pathWord : Language Char := oneOrMore (oneOf isWordChar)

/-- One `.`, one or two `_`, or any number of `-`. -/
def pathSeparator : Language Char :=
  oneOf (fun c ↦ c == '.' || c == '_') + oneOf (· == '_') * oneOf (· == '_') +
    oneOrMore (oneOf (· == '-'))

/-- Words joined by separators. -/
def pathComponent : Language Char := pathWord * (pathSeparator * pathWord)∗

/-- What may follow in each state of the recogniser. -/
def PathState.rest : PathState → Language Char
  | .start | .dot | .underscores => pathComponent
  | .word => (oneOf isWordChar)∗ * (pathSeparator * pathWord)∗
  | .underscore => pathComponent + oneOf (· == '_') * pathComponent
  | .hyphens => (oneOf (· == '-'))∗ * pathComponent

theorem leftQuotient_pathComponent (c : Char) :
    pathComponent.leftQuotient [c] = if isWordChar c then PathState.word.rest else 0 := by
  rw [pathComponent, pathWord, oneOrMore, mul_assoc, leftQuotient_oneOf_mul]
  rfl

theorem leftQuotient_joinedWords (c : Char) :
    ((pathSeparator * pathWord)∗).leftQuotient [c] =
      (if c = '.' then PathState.dot.rest else 0) +
        (if c = '_' then PathState.underscore.rest else 0) +
        (if c = '-' then PathState.hyphens.rest else 0) := by
  rw [← one_add_self_mul_kstar_eq_kstar, leftQuotient_add, leftQuotient_one, zero_add, mul_assoc,
    ← pathComponent, pathSeparator, add_mul, add_mul, oneOrMore, mul_assoc, mul_assoc,
    leftQuotient_add, leftQuotient_add]
  simp only [leftQuotient_oneOf_mul]
  by_cases h1 : c = '.'
  · subst h1
    simp [PathState.rest]
  · by_cases h2 : c = '_' <;> by_cases h3 : c = '-' <;> simp [h1, h2, h3, PathState.rest]

theorem leftQuotient_word_rest (c : Char) :
    PathState.word.rest.leftQuotient [c] = ((pathSeparator * pathWord)∗).leftQuotient [c] +
      if isWordChar c then PathState.word.rest else 0 :=
  leftQuotient_kstar_oneOf_mul c isWordChar _

theorem leftQuotient_underscore_rest (c : Char) :
    PathState.underscore.rest.leftQuotient [c] =
      (if isWordChar c then PathState.word.rest else 0) +
        if c = '_' then PathState.underscores.rest else 0 := by
  show (pathComponent + oneOf (· == '_') * pathComponent).leftQuotient [c] = _
  rw [leftQuotient_add, leftQuotient_pathComponent, leftQuotient_oneOf_mul]
  simp only [beq_iff_eq]
  rfl

theorem leftQuotient_hyphens_rest (c : Char) :
    PathState.hyphens.rest.leftQuotient [c] =
      (if isWordChar c then PathState.word.rest else 0) +
        if c = '-' then PathState.hyphens.rest else 0 := by
  show ((oneOf (· == '-'))∗ * pathComponent).leftQuotient [c] = _
  rw [leftQuotient_kstar_oneOf_mul, leftQuotient_pathComponent]
  simp only [beq_iff_eq]
  rfl

/-- A word character is no separator. -/
theorem ne_of_isWordChar {c : Char} (h : isWordChar c = true) : c ≠ '.' ∧ c ≠ '_' ∧ c ≠ '-' := by
  refine ⟨?_, ?_, ?_⟩ <;> rintro rfl <;> exact absurd h (by decide)

theorem PathState.next_of_isWordChar (s : PathState) {c : Char} (h : isWordChar c = true) :
    s.next c = some .word := by
  unfold PathState.next
  rw [if_pos h]

/-- **One more character of a component takes the quotient** of what may follow. -/
theorem leftQuotient_rest (s : PathState) (c : Char) :
    s.rest.leftQuotient [c] = (s.next c).elim 0 PathState.rest := by
  by_cases hw : isWordChar c = true
  · -- a word character leads to the state `word` from every state
    obtain ⟨h1, h2, h3⟩ := ne_of_isWordChar hw
    rw [s.next_of_isWordChar hw, Option.elim_some]
    cases s with
    | start | dot | underscores => exact (leftQuotient_pathComponent c).trans (if_pos hw)
    | underscore => simp [leftQuotient_underscore_rest, hw, h2]
    | hyphens => simp [leftQuotient_hyphens_rest, hw, h3]
    | word => simp [leftQuotient_word_rest, leftQuotient_joinedWords, hw, h1, h2, h3]
  · -- any other character is refused unless it is a separator that the state allows
    cases s with
    | start => simp [PathState.next, PathState.rest, leftQuotient_pathComponent, hw]
    | dot => simp [PathState.next, PathState.rest, leftQuotient_pathComponent, hw]
    | underscores => simp [PathState.next, PathState.rest, leftQuotient_pathComponent, hw]
    | underscore =>
      by_cases hc : c = '_'
      · subst hc
        simp [leftQuotient_underscore_rest, PathState.next, isWordChar]
      · simp [leftQuotient_underscore_rest, PathState.next, hw, hc]
    | hyphens =>
      by_cases hc : c = '-'
      · subst hc
        simp [leftQuotient_hyphens_rest, PathState.next, isWordChar]
      · simp [leftQuotient_hyphens_rest, PathState.next, hw, hc]
    | word =>
      rw [leftQuotient_word_rest, leftQuotient_joinedWords, if_neg hw]
      by_cases h1 : c = '.'
      · subst h1
        simp [PathState.next, isWordChar]
      · by_cases h2 : c = '_'
        · subst h2
          simp [PathState.next, isWordChar]
        · by_cases h3 : c = '-'
          · subst h3
            simp [PathState.next, isWordChar]
          · simp [PathState.next, h1, h2, h3, hw]

theorem nil_notMem_pathComponent : [] ∉ pathComponent := by
  rw [pathComponent, pathWord, oneOrMore, mul_assoc]
  exact nil_notMem_oneOf_mul

theorem nil_mem_rest_iff (s : PathState) : [] ∈ s.rest ↔ s = .word := by
  cases s with
  | start | dot | underscores => simpa [PathState.rest] using nil_notMem_pathComponent
  | word => exact iff_of_true (append_mem_mul (nil_mem_kstar _) (nil_mem_kstar _)) rfl
  | underscore =>
    simp only [PathState.rest, mem_add, nil_notMem_pathComponent, nil_notMem_oneOf_mul, or_self,
      reduceCtorEq]
  | hyphens =>
    rw [PathState.rest, kstar_mul_eq, mem_add]
    simp only [nil_notMem_pathComponent, nil_notMem_oneOf_mul, or_self, reduceCtorEq]

/-- **The recogniser of path components accepts their language.** -/
theorem isPathComponent_iff : isPathComponent text = true ↔ text ∈ pathComponent := by
  rw [isPathComponent, beq_iff_eq]
  exact run_iff_mem nil_mem_rest_iff leftQuotient_rest .start text

theorem isPath_iff : isPath text = true ↔ text ∈ separatedBy '/' pathComponent := by
  rw [isPath, List.all_eq_true]
  exact forall₂_congr fun _ _ ↦ isPathComponent_iff

end PullCache.Grammar
