import PullCache.Pod.Basic
import PullCache.Proofs.Json.Fits
import PullCache.Json.Normal

/-!
# Records as they are written

Pods and their parts are written as objects: the members that are kept as they are, and the known
ones set over them. Here the members of each record make a dictionary, so that what is written under
a name is a look-up. The other way, a record is read off the look-ups of a value: a change to one
member changes one field.
-/

namespace PullCache

/-! ### Members of a value -/

namespace Json

variable {d : Dict Json} {key : String} {value v : Json}
  {style : RecordStyle} {fields : List (String × Shape × Bool)} {shape : Shape}

theorem field?_eq_some_iff : value.field? key = some v ↔ value.get? key = some v ∧ v ≠ .null := by
  simp [field?, Option.filter_eq_some_iff]

theorem field?_obj_eq_some_iff :
    (Json.obj d.entries).field? key = some v ↔ d.get? key = some v ∧ v ≠ .null :=
  field?_eq_some_iff

theorem field?_congr {d' : Dict Json} (h : d'.get? key = d.get? key) :
    (Json.obj d'.entries).field? key = (Json.obj d.entries).field? key := by
  show (d'.get? key).filter _ = (d.get? key).filter _
  rw [h]

/-- A field that holds a string. -/
theorem text?_field?_eq_some_iff {text : String} :
    ((Json.obj d.entries).field? key).bind text? = some text ↔ d.get? key = some (.str text) := by
  rw [Option.bind_eq_some_iff]
  constructor
  · rintro ⟨v, hv, htext⟩
    cases v <;> cases htext
    exact (field?_obj_eq_some_iff.1 hv).1
  · intro h
    exact ⟨.str text, field?_obj_eq_some_iff.2 ⟨h, by simp⟩, rfl⟩

theorem IsNormal.of_field? (h : value.IsNormal) (hv : value.field? key = some v) : v.IsNormal := by
  obtain ⟨hget, -⟩ := field?_eq_some_iff.1 hv
  cases value with
  | obj members =>
    obtain ⟨d, rfl, hd⟩ := h.exists_dict
    exact hd key v hget
  | _ => cases hget

/-- A normal value that has the shape of a record is what its names look up to. -/
theorem exists_dict_of_fits_record (h : Shape.fits (.record style fields) value = true)
    (hnormal : value.IsNormal) : ∃ d : Dict Json, value = .obj d.entries ∧ d.IsNormal := by
  cases value with
  | obj members =>
    obtain ⟨d, rfl, hd⟩ := hnormal.exists_dict
    exact ⟨d, rfl, hd⟩
  | _ => simp [Shape.fits, Shape.base, Shape.takesNull] at h

end Json

/-! ### Members without a field -/

namespace Container

variable {known : List String} {d d' : Dict Json}

theorem get?_othersOf (known : List String) (d : Dict Json) (key : String) :
    (othersOf known (.obj d.entries)).get? key =
      if known.contains key then none else d.get? key := by
  show (Dict.ofList (d.entries.filter fun member ↦ !known.contains member.1)).get? key = _
  rw [Dict.get?_ofList, Dict.lookup_reverse_filter (fun key ↦ !known.contains key),
    Dict.lookup_reverse_entries]
  by_cases h : known.contains key = true
  · rw [if_pos h, if_neg (by rw [h]; decide)]
  · rw [if_neg h, if_pos (by simpa using h)]

/-- The members with a field are not kept, whatever the record is read off. -/
theorem get?_othersOf_of_mem {key : String} (h : known.contains key = true) (value : Json) :
    (othersOf known value).get? key = none := by
  rw [othersOf, Dict.get?_ofList, Dict.lookup_reverse_filter (fun key ↦ !known.contains key),
    if_neg (by rw [h]; decide)]

theorem othersOf_congr (h : ∀ key, known.contains key = false → d'.get? key = d.get? key) :
    othersOf known (.obj d'.entries) = othersOf known (.obj d.entries) := by
  refine Dict.ext_get? fun key ↦ ?_
  rw [get?_othersOf, get?_othersOf]
  split
  · rfl
  · next hkey => exact h key (by simpa using hkey)

/-- What is kept of a normal value is normal. -/
theorem isNormal_othersOf {value : Json} (h : value.IsNormal) :
    (othersOf known value).IsNormal :=
  .ofList fun m hm ↦ h.of_mem_members? m (List.mem_filter.1 hm).1

/-! ### Containers -/

/-- What is written of a container. -/
def members (c : Container) : Dict Json :=
  (c.others.insert "name" (.str c.name)).insert? "image" (c.image.map Json.str)

theorem toJson_eq (c : Container) : c.toJson = .obj c.members.entries := rfl

theorem get?_members (c : Container) (key : String) : c.members.get? key =
    if key = "image" then (c.image.map Json.str).or (c.others.get? "image")
    else if key = "name" then some (.str c.name) else c.others.get? key := by
  rw [members, Dict.get?_insert?, Dict.get?_insert]
  by_cases hkey : key = "image" <;> simp [hkey]

theorem isNormal_members_ofJson {value : Json} (h : value.IsNormal) :
    (ofJson value).members.IsNormal := by
  refine ((isNormal_othersOf h).insert (.str _)).insert? fun written hwritten ↦ ?_
  obtain ⟨image, -, rfl⟩ := Option.map_eq_some_iff.1 hwritten
  exact .str image

end Container

/-! ### Specifications -/

namespace PodSpec

/-- What is written of a specification. -/
def members (s : PodSpec) : Dict Json :=
  (s.others.insert "containers" (.arr (s.containers.map Container.toJson))).insert?
    "initContainers" (s.initContainers.map fun cs ↦ .arr (cs.map Container.toJson))

theorem toJson_eq (s : PodSpec) : s.toJson = .obj s.members.entries := rfl

theorem get?_members (s : PodSpec) (key : String) : s.members.get? key =
    if key = "initContainers" then
      (s.initContainers.map fun cs ↦ .arr (cs.map Container.toJson)).or
        (s.others.get? "initContainers")
    else if key = "containers" then some (.arr (s.containers.map Container.toJson))
    else s.others.get? key := by
  rw [members, Dict.get?_insert?, Dict.get?_insert]
  by_cases hkey : key = "initContainers" <;> simp [hkey]

theorem isNormal_members_ofJson {value : Json} (h : value.IsNormal) :
    (ofJson value).members.IsNormal := by
  have hcontainers : ∀ items : List Json, (∀ item ∈ items, item.IsNormal) →
      (Json.arr ((items.map Container.ofJson).map Container.toJson)).IsNormal := by
    intro items hitems
    rw [List.map_map, Json.isNormal_arr_iff, List.forall_mem_map]
    exact fun item hitem ↦ .obj (Container.isNormal_members_ofJson (hitems item hitem))
  have hlist : ∀ key items, (value.field? key).bind Json.items? = some items →
      ∀ item ∈ items, item.IsNormal := by
    intro key items hitems
    obtain ⟨v, hv, hvitems⟩ := Option.bind_eq_some_iff.1 hitems
    cases v <;> cases hvitems
    exact Json.isNormal_arr_iff.1 (h.of_field? hv)
  refine ((Container.isNormal_othersOf h).insert ?_).insert? fun written hwritten ↦ ?_
  · refine hcontainers _ fun item hitem ↦ ?_
    rcases hitems : (value.field? "containers").bind Json.items? with - | items
    · rw [hitems] at hitem
      cases hitem
    · rw [hitems] at hitem
      exact hlist _ items hitems item hitem
  · obtain ⟨cs, hcs, rfl⟩ := Option.map_eq_some_iff.1 hwritten
    obtain ⟨items, hitems, rfl⟩ := Option.map_eq_some_iff.1 hcs
    exact hcontainers items (hlist _ items hitems)

end PodSpec

/-! ### Metadata -/

namespace Metadata

/-- What is written of metadata. -/
def members (m : Metadata) : Dict Json :=
  ((((m.others.insert? "name" (m.name.map Json.str)).insert?
    "generateName" (m.generateName.map Json.str)).insert?
    "namespace" (m.space.map Json.str)).insert?
    "labels" (m.labels.map jsonOfTexts)).insert?
    "annotations" (m.annotations.map jsonOfTexts)

theorem toJson_eq (m : Metadata) : m.toJson = .obj m.members.entries := rfl

theorem get?_members (m : Metadata) (key : String) : m.members.get? key =
    if key = "annotations" then (m.annotations.map jsonOfTexts).or (m.others.get? key)
    else if key = "labels" then (m.labels.map jsonOfTexts).or (m.others.get? key)
    else if key = "namespace" then (m.space.map Json.str).or (m.others.get? key)
    else if key = "generateName" then (m.generateName.map Json.str).or (m.others.get? key)
    else if key = "name" then (m.name.map Json.str).or (m.others.get? key)
    else m.others.get? key := by
  simp only [members, Dict.get?_insert?]
  by_cases h₁ : key = "annotations"
  · simp [h₁]
  · by_cases h₂ : key = "labels"
    · simp [h₂]
    · by_cases h₃ : key = "namespace"
      · simp [h₃]
      · by_cases h₄ : key = "generateName" <;> simp [h₁, h₂, h₃, h₄]

theorem get?_members_labels {m : Metadata} (h : m.others.get? "labels" = none) :
    m.members.get? "labels" = m.labels.map jsonOfTexts := by
  rw [get?_members, if_neg (by decide), if_pos rfl, h, Option.or_none]

theorem get?_members_annotations {m : Metadata} (h : m.others.get? "annotations" = none) :
    m.members.get? "annotations" = m.annotations.map jsonOfTexts := by
  rw [get?_members, if_pos rfl, h, Option.or_none]

/-- With other labels and annotations, the other members are written as before. -/
theorem get?_members_of_ne {m m' : Metadata}
    (hframe : m' = { m with labels := m'.labels, annotations := m'.annotations }) {key : String}
    (hlabels : key ≠ "labels") (hannotations : key ≠ "annotations") :
    m'.members.get? key = m.members.get? key := by
  rw [get?_members, get?_members, if_neg hannotations, if_neg hlabels, if_neg hannotations,
    if_neg hlabels, hframe]

theorem isNormal_jsonOfTexts (texts : Dict String) : (jsonOfTexts texts).IsNormal :=
  Json.isNormal_obj_iff.2 (.map_str texts)

theorem textsOf_jsonOfTexts (texts : Dict String) : textsOf (jsonOfTexts texts) = texts := by
  have hread : ∀ entries : List (String × String),
      (entries.map fun e ↦ (e.1, Json.str e.2)).filterMap
        (fun m ↦ m.2.text?.map fun text ↦ (m.1, text)) = entries := by
    intro entries
    induction entries with
    | nil => rfl
    | cons e entries ih =>
      rw [List.map_cons, List.filterMap_cons, ih]
      rfl
  exact (congrArg Dict.ofList (hread texts.entries)).trans texts.ofList_entries

/-- What has the shape of a dictionary of strings is one. -/
theorem jsonOfTexts_textsOf {value : Json} (hfits : Json.Shape.fits (.dict .text) value = true)
    (hnormal : value.IsNormal) : jsonOfTexts (textsOf value) = value := by
  obtain ⟨texts, rfl⟩ : ∃ texts, value = jsonOfTexts texts := by
    cases value with
    | obj members =>
      obtain ⟨d, rfl, -⟩ := hnormal.exists_dict
      rw [Json.Shape.fits_dict_iff] at hfits
      refine ⟨d.map fun v ↦ v.text?.getD "", ?_⟩
      have hd : (d.map fun v ↦ v.text?.getD "").map Json.str = d := by
        refine Dict.ext_get? fun key ↦ ?_
        rw [Dict.get?_map, Dict.get?_map]
        rcases hget : d.get? key with - | v
        · rfl
        · have hv := hfits key v hget
          cases v <;> first | rfl | cases hv
      rw [jsonOfTexts, hd]
    | _ => simp [Json.Shape.fits, Json.Shape.base, Json.Shape.takesNull] at hfits
  rw [textsOf_jsonOfTexts]

theorem fits_jsonOfTexts (texts : Dict String) :
    Json.Shape.fits (.dict .text) (jsonOfTexts texts) = true := by
  rw [jsonOfTexts, Json.Shape.fits_dict_iff]
  intro key value hget
  rw [Dict.get?_map] at hget
  obtain ⟨text, -, rfl⟩ := Option.map_eq_some_iff.1 hget
  rfl

theorem isNormal_members {m : Metadata} (h : m.others.IsNormal) : m.members.IsNormal := by
  have htext : ∀ (text : Option String) written, text.map Json.str = some written →
      written.IsNormal := by
    intro text written hwritten
    obtain ⟨text, -, rfl⟩ := Option.map_eq_some_iff.1 hwritten
    exact .str text
  have htexts : ∀ (texts : Option (Dict String)) written, texts.map jsonOfTexts = some written →
      written.IsNormal := by
    intro texts written hwritten
    obtain ⟨texts, -, rfl⟩ := Option.map_eq_some_iff.1 hwritten
    exact isNormal_jsonOfTexts texts
  exact ((((h.insert? (htext _)).insert? (htext _)).insert? (htext _)).insert?
    (htexts _)).insert? (htexts _)

end Metadata

/-! ### Pods -/

namespace Pod

/-- What is written of a pod. -/
def members (p : Pod) : Dict Json :=
  (((p.others.insert "apiVersion" (.str "v1")).insert "kind" (.str "Pod")).insert
    "metadata" p.metadata.toJson).insert? "spec" (p.spec.map PodSpec.toJson)

theorem toJson_eq (p : Pod) : p.toJson = .obj p.members.entries := rfl

theorem get?_members (p : Pod) (key : String) : p.members.get? key =
    if key = "spec" then (p.spec.map PodSpec.toJson).or (p.others.get? key)
    else if key = "metadata" then some p.metadata.toJson
    else if key = "kind" then some (.str "Pod")
    else if key = "apiVersion" then some (.str "v1") else p.others.get? key := by
  simp only [members, Dict.get?_insert?, Dict.get?_insert]
  by_cases hkey : key = "spec" <;> simp [hkey]

theorem get?_members_metadata (p : Pod) : p.members.get? "metadata" = some p.metadata.toJson :=
  p.get?_members _

/-- With other metadata and another specification, the other members are written as before. -/
theorem get?_members_of_ne {p p' : Pod} (hothers : p'.others = p.others) {key : String}
    (hmetadata : key ≠ "metadata") (hspec : key ≠ "spec") :
    p'.members.get? key = p.members.get? key := by
  rw [get?_members, get?_members, if_neg hspec, if_neg hmetadata, if_neg hspec,
    if_neg hmetadata, hothers]

/-- The metadata of a pod keeps none of the members that it has a field for. -/
theorem get?_others_metadata_ofJson (value : Json) {key : String}
    (h : Metadata.knownFields.contains key = true) :
    (ofJson value).metadata.others.get? key = none := by
  show (((value.field? "metadata").map Metadata.ofJson).getD {}).others.get? key = none
  rcases value.field? "metadata" with - | v
  · rfl
  · exact Container.get?_othersOf_of_mem h v

theorem isNormal_members_ofJson {value : Json} (h : value.IsNormal) :
    (ofJson value).members.IsNormal := by
  have hmetadata : (ofJson value).metadata.toJson.IsNormal := by
    show ((((value.field? "metadata").map Metadata.ofJson).getD {}).toJson).IsNormal
    rcases hv : value.field? "metadata" with - | v
    · exact Json.isNormal_obj_iff.2 .empty
    · exact .obj (Metadata.isNormal_members (Metadata.isNormal_others_ofJson (h.of_field? hv)))
  refine ((((Container.isNormal_othersOf h).insert (.str _)).insert (.str _)).insert
    hmetadata).insert? fun written hwritten ↦ ?_
  obtain ⟨s, hs, rfl⟩ := Option.map_eq_some_iff.1 hwritten
  obtain ⟨v, hv, rfl⟩ := Option.map_eq_some_iff.1 hs
  exact .obj (PodSpec.isNormal_members_ofJson (h.of_field? hv))

end Pod

end PullCache
