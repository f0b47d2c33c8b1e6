import PullCache.Config.Template

/-!
# How a template is read

`Template.fill` parts a text into pieces and fills them one by one. Here the text is read as one
would by eye: look for the first place where a placeholder stands, note it and what was passed over,
and go on behind it until there is no further one. `Template.Reading` is this search, said with
places of the text and without pieces; each text has one reading (`exists_reading`,
`Reading.unique`). It is made before any variable is looked up, so what a variable holds is never
read for placeholders.

A `$` that begins no placeholder is passed over like any other character, and so are an opening
without a name and one that is never closed. A name runs up to the first closing brace and may hold
an opening itself.
-/

namespace PullCache.Template

/-! ### Placeholders by eye -/

/-- What may be named: one character or more, and no closing brace. -/
def IsName (name : String) : Prop :=
  name ≠ "" ∧ '}' ∉ name.toList

/-- The placeholder of a name as it is written. -/
def placeholder (name : String) : List Char :=
  '$' :: '{' :: (name.toList ++ ['}'])

/-- A text begins with the placeholder of a name. -/
def Begins (name : String) (text : List Char) : Prop :=
  IsName name ∧ placeholder name <+: text

/-- A placeholder that has been found. -/
structure Found where
  /-- What has been passed over since the one before it. -/
  before : List Char
  name : String
deriving DecidableEq, Repr

/-- **The reading of a text**: the placeholders in it, each the first one behind the one before, and
what is left behind the last. -/
inductive Reading : List Char → List Found → List Char → Prop
  | last {text : List Char} (hnone : ∀ i name, ¬ Begins name (text.drop i)) : Reading text [] text
  | next {text before rest last : List Char} {name : String} {found : List Found}
      (hname : IsName name) (htext : text = before ++ (placeholder name ++ rest))
      (hfirst : ∀ i < before.length, ∀ other, ¬ Begins other (text.drop i))
      (hrest : Reading rest found last) : Reading text (⟨before, name⟩ :: found) last

variable {text before rest last last' : List Char} {name name' : String}
  {found found' : List Found}

theorem begins_placeholder (h : IsName name) (rest : List Char) :
    Begins name (placeholder name ++ rest) :=
  ⟨h, List.prefix_append _ _⟩

/-- The two ways to say that a text begins with a placeholder. -/
theorem begins_iff : Begins name text ↔ nameAt? text = some name.toList := by
  rw [nameAt?_eq_some_iff, Begins, IsName, and_assoc, ne_eq, ne_eq, String.toList_eq_nil_iff]
  refine and_congr_right fun _ ↦ and_congr_right fun _ ↦ exists_congr fun rest ↦ ?_
  simp [placeholder, eq_comm]

theorem nameAt?_eq_none (h : ∀ name, ¬ Begins name text) : nameAt? text = none := by
  refine Option.eq_none_iff_forall_ne_some.2 fun name hname ↦ h (String.ofList name) ?_
  rw [begins_iff, hname, String.toList_ofList]

theorem Begins.unique (h : Begins name text) (h' : Begins name' text) : name = name' := by
  rw [begins_iff] at h h'
  exact String.toList_inj.1 (Option.some.inj (h.symm.trans h'))

/-! ### Pieces and the reading -/

/-- Where no placeholder begins stands a character. -/
theorem pieces_cons {c : Char} {cs : List Char} (h : ∀ name, ¬ Begins name (c :: cs)) :
    pieces (c :: cs) = .char c :: pieces cs := by
  rw [pieces, piecesAfter, nameAt?_eq_none h]
  rfl

theorem pieces_placeholder_append (h : IsName name) (rest : List Char) :
    pieces (placeholder name ++ rest) = .placeholder name.toList :: pieces rest := by
  have hname := begins_iff.1 (begins_placeholder h rest)
  have hdrop : ('{' :: (name.toList ++ ['}']) ++ rest).drop (name.toList.length + 2) = rest :=
    List.drop_left' (by simp)
  show piecesAfter 0 ('$' :: ('{' :: (name.toList ++ ['}']) ++ rest)) = _
  rw [piecesAfter, show nameAt? ('$' :: ('{' :: (name.toList ++ ['}']) ++ rest)) = _ from hname]
  show Piece.placeholder name.toList :: piecesAfter _ _ = _
  rw [piecesAfter_eq_drop, hdrop]

/-- What is passed over stands there character by character. -/
theorem pieces_append (before rest : List Char)
    (h : ∀ i < before.length, ∀ name, ¬ Begins name ((before ++ rest).drop i)) :
    pieces (before ++ rest) = before.map .char ++ pieces rest := by
  induction before with
  | nil => rfl
  | cons c cs ih =>
    have hcs : ∀ i < cs.length, ∀ name, ¬ Begins name ((cs ++ rest).drop i) := fun i hi ↦
      h (i + 1) (Nat.succ_lt_succ hi)
    have hhead : ∀ name, ¬ Begins name (c :: (cs ++ rest)) := h 0 (Nat.succ_pos _)
    rw [List.cons_append, pieces_cons hhead, ih hcs, List.map_cons, List.cons_append]

/-- A text in which no placeholder stands is its characters. -/
theorem pieces_of_none (hnone : ∀ i name, ¬ Begins name (text.drop i)) :
    pieces text = text.map .char := by
  have hpieces := pieces_append text [] fun i _ name ↦ by
    rw [List.append_nil]
    exact hnone i name
  simpa [pieces, piecesAfter] using hpieces

/-- The first placeholder that stands in a text is the first among its pieces. -/
theorem pieces_of_first (hname : IsName name) (htext : text = before ++ (placeholder name ++ rest))
    (hfirst : ∀ i < before.length, ∀ other, ¬ Begins other (text.drop i)) :
    pieces text = before.map .char ++ .placeholder name.toList :: pieces rest := by
  subst htext
  rw [pieces_append _ _ hfirst, pieces_placeholder_append hname]

/-- Every text has a reading. -/
theorem exists_reading (text : List Char) : ∃ found last, Reading text found last := by
  induction hlen : text.length using Nat.strongRecOn generalizing text with
  | ind n ih =>
    subst hlen
    rcases text with - | ⟨c, cs⟩
    · exact ⟨[], [], .last fun i name h ↦ by simp [Begins, placeholder] at h⟩
    · by_cases hhead : ∃ name, Begins name (c :: cs)
      · obtain ⟨name, hname, rest, htext⟩ := hhead
        have hshort : rest.length < (c :: cs).length := by
          rw [← htext]
          simp [placeholder]
          omega
        obtain ⟨found, last, hrest⟩ := ih _ hshort rest rfl
        exact ⟨⟨[], name⟩ :: found, last, .next hname htext.symm (fun i hi ↦ by cases hi) hrest⟩
      · have hhead := not_exists.1 hhead
        -- the reading of what follows, with one more character passed over
        obtain ⟨found, last, hcs⟩ := ih _ (Nat.lt_succ_self _) cs rfl
        cases hcs with
        | last hnone =>
          refine ⟨[], c :: cs, .last fun i ↦ ?_⟩
          rcases i with - | i
          · exact hhead
          · exact hnone i
        | @next _ before rest _ name found hname htext hfirst hrest =>
          refine ⟨⟨c :: before, name⟩ :: found, last,
            .next hname (congrArg (c :: ·) htext) (fun i hi ↦ ?_) hrest⟩
          rcases i with - | i
          · exact hhead
          · exact hfirst i (Nat.lt_of_succ_lt_succ hi)

/-- Behind what has been passed over stands the placeholder. -/
theorem begins_drop (hname : IsName name) (htext : text = before ++ (placeholder name ++ rest)) :
    Begins name (text.drop before.length) := by
  rw [htext, List.drop_left]
  exact begins_placeholder hname rest

/-- And no text has two. -/
theorem Reading.unique (h : Reading text found last) (h' : Reading text found' last') :
    found' = found ∧ last' = last := by
  induction h generalizing found' last' with
  | last hnone =>
    cases h' with
    | last => exact ⟨rfl, rfl⟩
    | next hname htext => exact absurd (begins_drop hname htext) (hnone _ _)
  | @next text before rest _ name _ hname htext hfirst _ ih =>
    cases h' with
    | last hnone => exact absurd (begins_drop hname htext) (hnone _ _)
    | @next _ before' rest' _ name' _ hname' htext' hfirst' hrest' =>
      -- neither finds its first placeholder before the other does
      have hlength : before.length = before'.length := by
        rcases Nat.lt_trichotomy before.length before'.length with hlt | heq | hlt
        · exact absurd (begins_drop hname htext) (hfirst' _ hlt _)
        · exact heq
        · exact absurd (begins_drop hname' htext') (hfirst _ hlt _)
      obtain ⟨rfl, hplaceholders⟩ := List.append_inj (htext.symm.trans htext') hlength
      obtain rfl : name = name' := (begins_placeholder hname rest).unique
        (hplaceholders ▸ begins_placeholder hname' rest')
      obtain rfl := List.append_cancel_left hplaceholders
      obtain ⟨rfl, rfl⟩ := ih hrest'
      exact ⟨rfl, rfl⟩

/-! ### Filling in -/

/-- What a reading is filled to: the values put for the placeholders, all else as it was. -/
def filledFrom (env : Environment) (found : List Found) (last : List Char) : List Char :=
  found.flatMap (fun f ↦ f.before ++ ((env.value f.name).toOption.getD "").toList) ++ last

/-- A placeholder whose name is not set, behind others whose names are. -/
def IsFirstUnset (env : Environment) (found : List Found) (f : Found) : Prop :=
  ∃ done more, found = done ++ f :: more ∧ (∀ g ∈ done, env.IsSet g.name) ∧ ¬ env.IsSet f.name

variable {env : Environment} {cause : VariableError} {f : Found}

theorem all_set_or_first (env : Environment) (found : List Found) :
    (∀ f ∈ found, env.IsSet f.name) ∨ ∃ f, IsFirstUnset env found f := by
  rcases hfind : found.find? fun f ↦ !decide (env.IsSet f.name) with - | f
  · exact .inl fun f hf ↦ by simpa using List.find?_eq_none.1 hfind f hf
  · obtain ⟨hunset, done, more, hfound, hdone⟩ := List.find?_eq_some_iff_append.1 hfind
    exact .inr ⟨f, done, more, hfound, fun g hg ↦ by simpa using hdone g hg, by simpa using hunset⟩

theorem IsFirstUnset.not_all_set (hf : IsFirstUnset env found f) :
    ¬ ∀ f ∈ found, env.IsSet f.name := by
  obtain ⟨done, more, rfl, -, hunset⟩ := hf
  exact fun hset ↦ hunset (hset f (List.mem_append_right _ List.mem_cons_self))

theorem IsFirstUnset.exists_cause (hf : IsFirstUnset env found f) :
    ∃ cause, env.value f.name = .error cause := by
  obtain ⟨-, -, -, -, hunset⟩ := hf
  exact Environment.not_isSet_iff.1 hunset

theorem fillPieces_map_char_append (env : Environment) (before : List Char) (more : List Piece) :
    fillPieces env (before.map .char ++ more) = (fillPieces env more).map (before ++ ·) := by
  induction before with
  | nil => cases h : fillPieces env more <;> simp [h, Except.map]
  | cons c cs ih =>
    rw [List.map_cons, List.cons_append, fillPieces, ih]
    cases fillPieces env more <;> rfl

/-- One placeholder is filled, or is the error, before the text behind it is looked at. -/
theorem fillPieces_of_first (env : Environment) (hname : IsName name)
    (htext : text = before ++ (placeholder name ++ rest))
    (hfirst : ∀ i < before.length, ∀ other, ¬ Begins other (text.drop i)) :
    fillPieces env (pieces text) =
      match env.value name with
      | .error cause => .error ⟨name, cause⟩
      | .ok value => (fillPieces env (pieces rest)).map fun filled ↦
          before ++ (value.toList ++ filled) := by
  rw [pieces_of_first hname htext hfirst, fillPieces_map_char_append, fillPieces,
    String.ofList_toList]
  rcases env.value name with cause | value
  · rfl
  · dsimp only
    cases fillPieces env (pieces rest) <;> rfl

/-- When every name is set, its value is put for its placeholder. -/
theorem Reading.fillPieces_of_set (h : Reading text found last)
    (hset : ∀ f ∈ found, env.IsSet f.name) :
    fillPieces env (pieces text) = .ok (filledFrom env found last) := by
  induction h with
  | @last text hnone =>
    have hfill := fillPieces_map_char_append env text []
    rw [List.append_nil] at hfill
    rw [pieces_of_none hnone, hfill]
    simp [fillPieces, filledFrom, Except.map]
  | next hname htext hfirst _ ih =>
    obtain ⟨hvalue, hset⟩ := List.forall_mem_cons.1 hset
    obtain ⟨value, hvalue⟩ := Environment.isSet_iff.1 hvalue
    rw [fillPieces_of_first env hname htext hfirst, hvalue]
    dsimp only
    rw [ih hset]
    simp [filledFrom, Except.map, Except.toOption, hvalue]

/-- The first name that is not set is the error, with the reason why it is not. -/
theorem Reading.fillPieces_of_unset (h : Reading text found last) (hf : IsFirstUnset env found f)
    (hcause : env.value f.name = .error cause) :
    fillPieces env (pieces text) = .error ⟨f.name, cause⟩ := by
  obtain ⟨done, more, hfound, hdone, -⟩ := hf
  induction h generalizing done with
  | last => simp at hfound
  | next hname htext hfirst _ ih =>
    rw [fillPieces_of_first env hname htext hfirst]
    rcases done with - | ⟨g, done⟩
    · obtain ⟨rfl, -⟩ := List.cons.inj hfound
      rw [hcause]
    · obtain ⟨rfl, htail⟩ := List.cons.inj hfound
      obtain ⟨hvalue, hdone⟩ := List.forall_mem_cons.1 hdone
      obtain ⟨value, hvalue⟩ := Environment.isSet_iff.1 hvalue
      rw [hvalue]
      dsimp only
      rw [ih done htail hdone]
      rfl

/-- A template is filled exactly when every name in it is set. -/
theorem Reading.fill_eq_ok_iff {template filled : String}
    (h : Reading template.toList found last) : fill env template = .ok filled ↔
      (∀ f ∈ found, env.IsSet f.name) ∧ filled.toList = filledFrom env found last := by
  rw [fill]
  rcases all_set_or_first env found with hset | ⟨f, hf⟩
  · rw [h.fillPieces_of_set hset, and_iff_right hset]
    constructor
    · intro hfilled
      obtain rfl := Except.ok.inj hfilled
      exact String.toList_ofList
    · intro hfilled
      rw [← hfilled]
      exact congrArg Except.ok String.ofList_toList
  · obtain ⟨cause, hcause⟩ := hf.exists_cause
    rw [h.fillPieces_of_unset hf hcause]
    exact iff_of_false nofun fun hfilled ↦ hf.not_all_set hfilled.1

/-- Otherwise the first one that is not set is the error. -/
theorem Reading.fill_eq_error_iff {template name : String}
    (h : Reading template.toList found last) : fill env template = .error ⟨name, cause⟩ ↔
      ∃ f, IsFirstUnset env found f ∧ f.name = name ∧ env.value name = .error cause := by
  rw [fill]
  constructor
  · intro hfill
    rcases all_set_or_first env found with hset | ⟨f, hf⟩
    · rw [h.fillPieces_of_set hset] at hfill
      cases hfill
    · obtain ⟨cause', hcause⟩ := hf.exists_cause
      rw [h.fillPieces_of_unset hf hcause] at hfill
      obtain ⟨rfl, rfl⟩ := UnsetVariable.mk.inj (Except.error.inj hfill)
      exact ⟨f, hf, rfl, hcause⟩
  · rintro ⟨f, hf, rfl, hcause⟩
    rw [h.fillPieces_of_unset hf hcause]
    rfl

/-- **Filling in a template is reading it once.** Each text has one reading, whatever the
environment. A template is filled exactly when all names found are set; what comes out is the text
with each placeholder found replaced by the value of its name, and all else as it was. Otherwise the
error is the first name that is not set, be it that nothing is kept under it or what is no text. -/
theorem fill_reads_once (template : String) : ∃ found last,
    (∀ found' last', Reading template.toList found' last' ↔ found' = found ∧ last' = last) ∧
      ∀ env,
        (∀ filled, fill env template = .ok filled ↔
          (∀ f ∈ found, env.IsSet f.name) ∧ filled.toList = filledFrom env found last) ∧
        ∀ name cause, fill env template = .error ⟨name, cause⟩ ↔
          ∃ f, IsFirstUnset env found f ∧ f.name = name ∧ env.value name = .error cause := by
  obtain ⟨found, last, hreading⟩ := exists_reading template.toList
  refine ⟨found, last, fun found' last' ↦ ⟨hreading.unique, ?_⟩, fun env ↦
    ⟨fun filled ↦ hreading.fill_eq_ok_iff, fun name cause ↦ hreading.fill_eq_error_iff⟩⟩
  rintro ⟨rfl, rfl⟩
  exact hreading

/-- An opening without a name and one without an end stay, and so does a dollar sign before a
placeholder. -/
example : fillPieces (.ofList [("X", "1".toUTF8)])
    (pieces ['$', '{', '}', '$', '$', '{', 'X', '}', '$', '{', 'C']) =
      .ok ['$', '{', '}', '$', '1', '$', '{', 'C'] :=
  rfl

/-- A byte that is no character is no value, though it is kept under the name. -/
example : fillPieces (.ofList [("X", ⟨#[0xff]⟩)]) (pieces ['$', '{', 'X', '}']) =
    .error ⟨"X", .notText⟩ :=
  rfl

end PullCache.Template
