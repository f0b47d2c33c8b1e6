import PullCache.Dict

/-!
# The environment

Under the name of a variable the system keeps bytes, and they need not be a text. A variable has a
value only when they are one, so a name may be without a value for two reasons: nothing is kept
under it, or what is kept there is no text.
-/

namespace PullCache

/-- What the system keeps under the names of variables. -/
abbrev Environment := Dict ByteArray

/-- Why a variable has no value. -/
inductive VariableError where
  /-- Nothing is kept under the name. -/
  | absent
  /-- What is kept there is no text. -/
  | notText
deriving DecidableEq, Repr

/-- Bytes are read as a text when they are the bytes of that text. -/
theorem Text.fromUTF8?_eq_some_iff {bytes : ByteArray} {text : String} :
    String.fromUTF8? bytes = some text ↔ bytes = text.toUTF8 := by
  unfold String.fromUTF8?
  constructor
  · intro h
    split at h
    · obtain rfl := Option.some.inj h
      rfl
    · cases h
  · rintro rfl
    rw [String.toUTF8_eq_toByteArray, dif_pos text.isValidUTF8]
    rfl

namespace Environment

/-- The value of a variable. -/
def value (env : Environment) (name : String) : Except VariableError String :=
  match env.get? name with
  | none => .error .absent
  | some bytes =>
    match String.fromUTF8? bytes with
    | none => .error .notText
    | some text => .ok text

/-- **A variable is set** when a text is kept under its name. -/
def IsSet (env : Environment) (name : String) : Prop :=
  ∃ text : String, env.get? name = some text.toUTF8

variable {env : Environment} {name text : String}

theorem value_eq_ok_iff : env.value name = .ok text ↔ env.get? name = some text.toUTF8 := by
  rw [value]
  rcases env.get? name with - | bytes
  · simp
  · rw [Option.some.injEq, ← Text.fromUTF8?_eq_some_iff]
    dsimp only
    cases String.fromUTF8? bytes <;> simp

theorem value_eq_absent_iff : env.value name = .error .absent ↔ env.get? name = none := by
  rw [value]
  rcases env.get? name with - | bytes
  · simp
  · dsimp only
    cases String.fromUTF8? bytes <;> simp

theorem value_eq_notText_iff : env.value name = .error .notText ↔
    ∃ bytes, env.get? name = some bytes ∧ ∀ text : String, bytes ≠ text.toUTF8 := by
  rw [value]
  rcases env.get? name with - | bytes
  · simp
  · have hnone : String.fromUTF8? bytes = none ↔ ∀ text : String, bytes ≠ text.toUTF8 := by
      simp [Option.eq_none_iff_forall_ne_some, Text.fromUTF8?_eq_some_iff]
    simp only [Option.some.injEq, exists_eq_left', ← hnone]
    cases String.fromUTF8? bytes <;> simp

theorem isSet_iff : env.IsSet name ↔ ∃ text, env.value name = .ok text :=
  exists_congr fun _ ↦ value_eq_ok_iff.symm

/-- A name is set, or there is a reason why it is not. -/
theorem not_isSet_iff : ¬ env.IsSet name ↔ ∃ cause, env.value name = .error cause := by
  rw [isSet_iff]
  rcases env.value name with cause | text <;> simp

instance (env : Environment) (name : String) : Decidable (env.IsSet name) :=
  decidable_of_iff ((env.value name).isOk = true) <| by
    rw [isSet_iff]
    cases env.value name <;> simp [Except.isOk, Except.toBool]

/-! ### As the system hands it over -/

/-- Parts a block of bytes at its zeros. -/
def entriesOf (block : List UInt8) : List (List UInt8) :=
  block.foldr (fun byte entries ↦
    match byte, entries with
    | 0, entries => [] :: entries
    | byte, entry :: entries => (byte :: entry) :: entries
    | byte, [] => [[byte]]) [[]]

/-- A name, an equals sign, and what is kept under the name. -/
def entry? (entry : List UInt8) : Option (String × ByteArray) :=
  match entry.span (· ≠ 61) with
  | (name, _ :: kept) => (String.fromUTF8? name.toByteArray).map fun name ↦ (name, kept.toByteArray)
  | (_, []) => none

/-- The environment that a block says; of several entries with one name the first counts. -/
def ofBlock (block : ByteArray) : Environment :=
  Dict.ofList ((entriesOf block.data.toList).filterMap entry?).reverse

/-- Of the entries `A=B=C`, `A=` and one without a name, the first is what is kept under `A`. -/
example : (ofBlock ⟨#[65, 61, 66, 61, 67, 0, 65, 61, 0, 68]⟩).value "A" = .ok "B=C" := by rfl

end Environment

end PullCache
