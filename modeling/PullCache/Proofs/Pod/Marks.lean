import PullCache.Pod.Marks

/-!
# Records in the metadata of a pod

Redirecting a pod leaves one record after the other in its metadata. `Marks.recordAll` is the whole
run, over the list of what is recorded. Each fact about it goes by what one record does: the last
record of a key stands (`annotation?_recordAll`), and records that say what the annotations say
already leave the metadata as it is (`recordAll_eq_self`).

The keys of containers are no other keys of this program, so that what a container's annotation
says is not overwritten when the pod's own annotation is set at the end.
-/

namespace PullCache

/-! ### Metadata that only grows -/

namespace Metadata

/-- No dictionary is taken away, and no key out of it. -/
def Keeps (texts texts' : Option (Dict String)) : Prop :=
  ∀ d, texts = some d → ∃ d', texts' = some d' ∧ ∀ key, (d.get? key).isSome → (d'.get? key).isSome

theorem Keeps.refl (texts : Option (Dict String)) : Keeps texts texts :=
  fun d hd ↦ ⟨d, hd, fun _ h ↦ h⟩

theorem Keeps.trans {texts₁ texts₂ texts₃ : Option (Dict String)} (h : Keeps texts₁ texts₂)
    (h' : Keeps texts₂ texts₃) : Keeps texts₁ texts₃ := by
  intro d hd
  obtain ⟨d₂, hd₂, hkeys⟩ := h d hd
  obtain ⟨d₃, hd₃, hkeys'⟩ := h' d₂ hd₂
  exact ⟨d₃, hd₃, fun key hkey ↦ hkeys' key (hkeys key hkey)⟩

theorem keeps_insert (texts : Option (Dict String)) (key value : String) :
    Keeps texts (some ((texts.getD .empty).insert key value)) := by
  rintro d rfl
  refine ⟨d.insert key value, rfl, fun q hq ↦ ?_⟩
  rw [Dict.get?_insert]
  split
  · rfl
  · exact hq

/-- The second metadata has all labels and annotations of the first, perhaps with other values, and
differs from it in nothing else. -/
structure Extends (m m' : Metadata) : Prop where
  labels : Keeps m.labels m'.labels
  annotations : Keeps m.annotations m'.annotations
  frame : m' = { m with labels := m'.labels, annotations := m'.annotations }

theorem Extends.trans {m₁ m₂ m₃ : Metadata} (h : m₁.Extends m₂) (h' : m₂.Extends m₃) :
    m₁.Extends m₃ where
  labels := h.labels.trans h'.labels
  annotations := h.annotations.trans h'.annotations
  frame := by rw [h'.frame, h.frame]

/-- What has grown out of one metadata differs in labels and annotations only. -/
theorem Extends.frame_of_extends {m m₁ m₂ : Metadata} (h₁ : m.Extends m₁) (h₂ : m.Extends m₂) :
    m₂ = { m₁ with labels := m₂.labels, annotations := m₂.annotations } := by
  rw [h₁.frame]
  exact h₂.frame

theorem extends_setLabel (m : Metadata) (key value : String) : m.Extends (m.setLabel key value) :=
  ⟨keeps_insert m.labels key value, .refl m.annotations, rfl⟩

theorem extends_setAnnotation (m : Metadata) (key value : String) :
    m.Extends (m.setAnnotation key value) :=
  ⟨.refl m.labels, keeps_insert m.annotations key value, rfl⟩

end Metadata

namespace Marks

variable {m : Metadata} {entries : List (String × String)}

/-- Each record in its turn: a key, and what is recorded under it. -/
def recordAll (m : Metadata) (entries : List (String × String)) : Metadata :=
  entries.foldl (fun m e ↦ (m.setAnnotation e.1 e.2).setLabel managedKey "true") m

theorem recordAll_cons (m : Metadata) (e : String × String) (entries : List (String × String)) :
    recordAll m (e :: entries) =
      recordAll ((m.setAnnotation e.1 e.2).setLabel managedKey "true") entries :=
  rfl

theorem record_eq_recordAll (m : Metadata) (name : String) (kind : ContainerKind)
    (image : String) : record m name kind image = recordAll m [(containerKey name kind, image)] :=
  rfl

theorem recordAll_append (m : Metadata) (entries more : List (String × String)) :
    recordAll m (entries ++ more) = recordAll (recordAll m entries) more :=
  List.foldl_append

/-- **The last record of a key stands**, and a key without one keeps its annotation. -/
theorem annotation?_recordAll (m : Metadata) (entries : List (String × String)) (key : String) :
    (recordAll m entries).annotation? key =
      (entries.reverse.lookup key).or (m.annotation? key) := by
  induction entries generalizing m with
  | nil => rfl
  | cons e entries ih =>
    rw [recordAll_cons, ih, List.reverse_cons, List.lookup_append, Option.or_assoc]
    congr 1
    rw [Metadata.annotation?_setLabel, Metadata.annotation?_setAnnotation, List.lookup_cons,
      List.lookup_nil]
    by_cases h : key = e.1
    · simp [h]
    · simp [h, beq_eq_false_iff_ne.2 h]

theorem annotation?_recordAll_of_notMem {key : String} (h : key ∉ entries.map Prod.fst) :
    (recordAll m entries).annotation? key = m.annotation? key := by
  have hnone : entries.reverse.lookup key = none := by
    rw [List.lookup_eq_none_iff]
    intro e he
    rw [List.mem_reverse] at he
    simp only [bne_iff_ne, ne_eq]
    rintro rfl
    exact h (List.mem_map_of_mem he)
  rw [annotation?_recordAll, hnone, Option.none_or]

/-- What is recorded stands when no key is recorded twice. -/
theorem annotation?_recordAll_of_mem (hkeys : (entries.map Prod.fst).Nodup) {e : String × String}
    (he : e ∈ entries) : (recordAll m entries).annotation? e.1 = some e.2 := by
  induction entries generalizing m with
  | nil => cases he
  | cons first entries ih =>
    obtain ⟨hfirst, hkeys⟩ := List.nodup_cons.1 hkeys
    rw [recordAll_cons]
    rcases List.mem_cons.1 he with rfl | he
    · -- no later record has this key
      rw [annotation?_recordAll_of_notMem hfirst, Metadata.annotation?_setLabel,
        Metadata.annotation?_setAnnotation, if_pos rfl]
    · exact ih hkeys he

/-- **A record labels the pod as managed**, and no other label changes. -/
theorem label?_recordAll (m : Metadata) (entries : List (String × String)) (key : String) :
    (recordAll m entries).label? key =
      if entries ≠ [] ∧ key = managedKey then some "true" else m.label? key := by
  induction entries generalizing m with
  | nil => simp [recordAll]
  | cons e entries ih =>
    rw [recordAll_cons, ih, Metadata.label?_setLabel, Metadata.label?_setAnnotation]
    by_cases h : key = managedKey <;> simp [h]

/-- The labels after all records: the one label is set when there is a record. -/
theorem labels_recordAll (m : Metadata) (entries : List (String × String)) :
    (recordAll m entries).labels =
      if entries ≠ [] then some ((m.labels.getD .empty).insert managedKey "true")
      else m.labels := by
  induction entries generalizing m with
  | nil => rfl
  | cons e entries ih =>
    rw [recordAll_cons, ih]
    by_cases h : entries = []
    · simp [h, Metadata.setLabel, Metadata.setAnnotation]
    · -- the label is set anew to what it is
      have hinsert : ((m.labels.getD .empty).insert managedKey "true").insert managedKey "true" =
          (m.labels.getD .empty).insert managedKey "true" :=
        Dict.insert_eq_self (by simp)
      simp [h, Metadata.setLabel, Metadata.setAnnotation, hinsert]

/-- Records change labels and annotations only. -/
theorem recordAll_frame (m : Metadata) (entries : List (String × String)) :
    recordAll m entries =
      { m with
        labels := (recordAll m entries).labels
        annotations := (recordAll m entries).annotations } := by
  induction entries generalizing m with
  | nil => rfl
  | cons e entries ih => rw [recordAll_cons, ih]; rfl

/-- Records take nothing away. -/
theorem extends_recordAll (m : Metadata) (entries : List (String × String)) :
    m.Extends (recordAll m entries) := by
  induction entries generalizing m with
  | nil => exact ⟨.refl m.labels, .refl m.annotations, rfl⟩
  | cons e entries ih =>
    rw [recordAll_cons]
    exact ((m.extends_setAnnotation e.1 e.2).trans (Metadata.extends_setLabel _ _ _)).trans (ih _)

/-- Records that are there already change nothing. -/
theorem recordAll_eq_self (h : ∀ e ∈ entries, m.annotation? e.1 = some e.2)
    (hmanaged : entries ≠ [] → m.label? managedKey = some "true") : recordAll m entries = m := by
  induction entries with
  | nil => rfl
  | cons e entries ih =>
    obtain ⟨he, hentries⟩ := List.forall_mem_cons.1 h
    have hlabel := hmanaged (List.cons_ne_nil e entries)
    have hone : (m.setAnnotation e.1 e.2).setLabel managedKey "true" = m := by
      rw [Metadata.setAnnotation_eq_self he, Metadata.setLabel_eq_self hlabel]
    rw [recordAll_cons, hone]
    exact ih hentries fun _ ↦ hlabel

/-! ### The annotation of the pod -/

/-- The annotations in which origins are recorded begin like the key of a container. -/
def IsOriginKey (key : String) : Prop :=
  ∃ kind rest, key = domain ++ "/" ++ (keyStart kind ++ rest)

theorem isOriginKey_containerKey (name : String) (kind : ContainerKind) :
    IsOriginKey (containerKey name kind) := by
  by_cases hlength : maxKeyNameLength <
      Text.byteLength (keyStart kind).toList + Text.byteLength name.toList
  · exact ⟨kind, _, congrArg (domain ++ "/" ++ ·) (if_pos hlength)⟩
  · exact ⟨kind, name, congrArg (domain ++ "/" ++ ·) (if_neg hlength)⟩

/-- The annotation of the pod is none of them. -/
theorem not_isOriginKey_redirectedKey : ¬ IsOriginKey redirectedKey := by
  rintro ⟨kind, rest, h⟩
  -- the keys part at the first letter after the slash
  have hletter := congrArg (fun key : String ↦ key.toList[13]?) h
  cases kind <;> simp [domain, keyStart, redirectedKey] at hletter

/-- The key of a container is not the one of the pod. -/
theorem containerKey_ne_redirectedKey (name : String) (kind : ContainerKind) :
    containerKey name kind ≠ redirectedKey := fun h ↦
  not_isOriginKey_redirectedKey (h ▸ isOriginKey_containerKey name kind)

theorem annotation?_finalize_of_ne {key : String} (h : key ≠ redirectedKey) :
    (finalize m).annotation? key = m.annotation? key := by
  rw [finalize, Metadata.annotation?_setAnnotation, if_neg h]

@[simp] theorem label?_finalize (m : Metadata) (key : String) :
    (finalize m).label? key = m.label? key := rfl

/-- Bringing the pod's annotation up to date twice is no more than doing so once. -/
theorem finalize_finalize (m : Metadata) : finalize (finalize m) = finalize m := by
  refine Metadata.setAnnotation_eq_self ?_
  show (m.setAnnotation redirectedKey (if isManaged m then "true" else "false")).annotation?
    redirectedKey = some (if isManaged m then "true" else "false")
  rw [Metadata.annotation?_setAnnotation, if_pos rfl]

/-- Setting the pod's annotation takes nothing away. -/
theorem extends_finalize (m : Metadata) : m.Extends (finalize m) :=
  m.extends_setAnnotation _ _

end Marks

end PullCache
