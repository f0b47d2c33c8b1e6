import PullCache.Proofs.Pod.Marks

/-!
# When two containers share an annotation

The annotation of a container is named after it. A name that leaves no room behind the beginning of
the key is replaced by the first digits of its SHA-224 digest, as many as there is room for
(`Marks.shortened`), so that the key is as long as it may be.

The keys of the two kinds part before the name begins, so only containers of one kind can share a
key. They do so in three ways: they have one name, the digits of two long names agree, or a name
spells the digits of a long one. The last is not excluded: the digits themselves make a name that
fits (`Marks.containerKey_shortened`).
-/

namespace PullCache

namespace Sha224

/-- A digest is written in characters of one byte. -/
theorem utf8Size_of_mem_hex {text : String} {c : Char} (h : c ∈ hex text) : c.utf8Size = 1 := by
  have hdigit : ∀ n < 16, (Text.hexDigit n).utf8Size = 1 := by decide
  obtain ⟨b, -, hc⟩ := List.mem_flatMap.1 h
  have hhigh : b.toNat / 16 < 16 := by
    have := b.toNat_lt
    omega
  rcases List.mem_cons.1 hc with rfl | hc
  · exact hdigit _ hhigh
  · obtain rfl := List.mem_singleton.1 hc
    exact hdigit _ (Nat.mod_lt _ (by omega))

end Sha224

namespace Marks

/-- Whether a name leaves a key of its kind within its bounds. -/
def Fits (name : String) (kind : ContainerKind) : Prop :=
  (keyStart kind ++ name).utf8ByteSize ≤ maxKeyNameLength

instance (name : String) (kind : ContainerKind) : Decidable (Fits name kind) :=
  inferInstanceAs (Decidable (_ ≤ _))

/-- What stands for a name that does not fit: the digits of its digest that there is room for. -/
def shortened (name : String) (kind : ContainerKind) : String :=
  String.ofList ((Sha224.hex name).take (maxKeyNameLength - (keyStart kind).utf8ByteSize))

variable {name name' : String} {kind kind' : ContainerKind}

/-! ### The key of one container -/

theorem containerKeyName_eq (name : String) (kind : ContainerKind) :
    containerKeyName name kind =
      keyStart kind ++ if Fits name kind then name else shortened name kind := by
  rw [containerKeyName, Text.byteLength_toList, Text.byteLength_toList,
    ← String.utf8ByteSize_append]
  by_cases h : Fits name kind
  · rw [if_pos h, if_neg (Nat.not_lt.2 h)]
  · rw [if_neg h, if_pos (Nat.not_le.1 h)]
    rfl

/-- The digits fill the key. -/
theorem utf8ByteSize_append_shortened (name : String) (kind : ContainerKind) :
    (keyStart kind ++ shortened name kind).utf8ByteSize = maxKeyNameLength := by
  have hbytes : Text.byteLength (shortened name kind).toList =
      (shortened name kind).toList.length := by
    refine Text.byteLength_eq_length fun c hc ↦ ?_
    rw [shortened, String.toList_ofList] at hc
    exact Sha224.utf8Size_of_mem_hex (List.mem_of_mem_take hc)
  have hroom : (keyStart kind).utf8ByteSize ≤ maxKeyNameLength ∧
      maxKeyNameLength ≤ (keyStart kind).utf8ByteSize + 56 := by
    cases kind <;> decide
  rw [String.utf8ByteSize_append, ← Text.byteLength_toList (shortened name kind), hbytes, shortened,
    String.toList_ofList, List.length_take, Sha224.length_hex]
  omega

/-- The digits of a name make a name that fits. -/
theorem fits_shortened (name : String) (kind : ContainerKind) : Fits (shortened name kind) kind :=
  Nat.le_of_eq (utf8ByteSize_append_shortened name kind)

/-- **A name that does not fit shares its key** with the name that its digits make. -/
theorem containerKey_shortened (h : ¬ Fits name kind) :
    containerKey (shortened name kind) kind = containerKey name kind := by
  rw [containerKey, containerKey, containerKeyName_eq, containerKeyName_eq,
    if_pos (fits_shortened name kind), if_neg h]

/-! ### The keys of two containers -/

/-- **The beginning of a key tells the kind.** -/
theorem keyStart_append_inj {rest rest' : String} :
    keyStart kind ++ rest = keyStart kind' ++ rest' ↔ kind = kind' ∧ rest = rest' := by
  constructor
  · intro h
    have hkind : kind = kind' := by
      have hletter := congrArg (fun key : String ↦ key.toList[10]?) h
      cases kind <;> cases kind' <;> simp [keyStart] at hletter ⊢
    subst hkind
    exact ⟨rfl, String.append_right_inj _ |>.1 h⟩
  · rintro ⟨rfl, rfl⟩
    rfl

/-- What stands in a key for a name is the same for two names in three ways. -/
theorem ite_fits_eq_iff :
    (if Fits name kind then name else shortened name kind) =
        (if Fits name' kind then name' else shortened name' kind) ↔
      name = name' ∨
        (¬ Fits name kind ∧ ¬ Fits name' kind ∧ shortened name kind = shortened name' kind) ∨
        (¬ Fits name kind ∧ Fits name' kind ∧ name' = shortened name kind) ∨
        (Fits name kind ∧ ¬ Fits name' kind ∧ name = shortened name' kind) := by
  constructor
  · intro h
    by_cases hfits : Fits name kind <;> by_cases hfits' : Fits name' kind <;>
      simp only [hfits, hfits', if_true, if_false] at h
    · exact .inl h
    · exact .inr (.inr (.inr ⟨hfits, hfits', h⟩))
    · exact .inr (.inr (.inl ⟨hfits, hfits', h.symm⟩))
    · exact .inr (.inl ⟨hfits, hfits', h⟩)
  · rintro (rfl | ⟨hfits, hfits', h⟩ | ⟨hfits, hfits', h⟩ | ⟨hfits, hfits', h⟩)
    · rfl
    · rw [if_neg hfits, if_neg hfits', h]
    · rw [if_neg hfits, if_pos hfits', h]
    · rw [if_pos hfits, if_neg hfits', h]

/-- **A container's key fits, and two containers share one only through a digest.** Behind the
domain stands what the keys of the kind begin with, and then the name if that fits; if not, the
digits of its digest, which fill the key. Two keys are the same exactly when the kinds are, and so
are the names, or the digits of two names that do not fit, or a name that fits and the digits of one
that does not. No key of a container is the one of the pod. -/
theorem containerKey_fits_and_separates (name name' : String) (kind kind' : ContainerKind) :
    (∃ keyName, containerKey name kind = "kuik.enix.io/" ++ keyName ∧
        (Fits name kind ∧ keyName = keyStart kind ++ name ∨
          ¬ Fits name kind ∧ keyName = keyStart kind ++ shortened name kind ∧
            keyName.utf8ByteSize = 63)) ∧
      (containerKey name kind = containerKey name' kind' ↔
        kind = kind' ∧
          (name = name' ∨
            (¬ Fits name kind ∧ ¬ Fits name' kind ∧ shortened name kind = shortened name' kind) ∨
            (¬ Fits name kind ∧ Fits name' kind ∧ name' = shortened name kind) ∨
            (Fits name kind ∧ ¬ Fits name' kind ∧ name = shortened name' kind))) ∧
      containerKey name kind ≠ redirectedKey := by
  refine ⟨⟨containerKeyName name kind, rfl, ?_⟩, ?_, containerKey_ne_redirectedKey name kind⟩
  · rw [containerKeyName_eq]
    by_cases hfits : Fits name kind
    · exact .inl ⟨hfits, by rw [if_pos hfits]⟩
    · rw [if_neg hfits]
      exact .inr ⟨hfits, rfl, utf8ByteSize_append_shortened name kind⟩
  · rw [containerKey, containerKey, String.append_right_inj, containerKeyName_eq,
      containerKeyName_eq, keyStart_append_inj]
    constructor
    · rintro ⟨rfl, h⟩
      exact ⟨rfl, ite_fits_eq_iff.1 h⟩
    · rintro ⟨rfl, h⟩
      exact ⟨rfl, ite_fits_eq_iff.2 h⟩

end Marks

end PullCache
