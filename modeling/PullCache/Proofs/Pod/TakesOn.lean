import Mathlib.Tactic.Choose
import PullCache.Proofs.Patch.Difference
import PullCache.Proofs.Pod.Shape
import PullCache.Proofs.Pod.Written
import PullCache.Proofs.Redirect.Effect

/-!
# Changes to a record, made to the value it was read off

The changes to a record are found between its written forms, before and after, and are made to the
value that it was read off. That value may say less than the written form (a list that is missing
for an empty one), more (members that no field reads), or the same in another way (`null` for what
is missing). `Json.TakesOn` says that the changes can be made to it all the same, and that the
outcome is then read as the record after.

Containers get other images, metadata grows, and from this the same follows for specifications and
for pods (`Pod.takesOn`).
-/

namespace PullCache

open Json (Shape Carries CarriesMember carries_obj carriesMember_of_eq)

/-- A value takes on a record: the changes that lead from the record it is read as to this one can
be made to it, and the outcome has the shape and is read as this one. -/
def Json.TakesOn {α : Type} (shape : Shape) (read : Json → α) (write : α → Json) (value : Json)
    (new : α) : Prop :=
  ∃ value', Carries (write (read value)) (write new) value value' ∧
    shape.fits value' = true ∧ read value' = new

namespace Json

variable {α : Type} {shape : Shape} {read : Json → α} {write : α → Json} {value : Json} {new : α}

theorem takesOn_self (hwrite : (write (read value)).IsNormal) (hfits : shape.fits value = true) :
    TakesOn shape read write value (read value) :=
  ⟨value, carries_refl hwrite value, hfits, rfl⟩

/-- **Without a change, nothing changes**: the record is the one that the value is read as. -/
theorem TakesOn.eq_of_diff_eq_nil (h : TakesOn shape read write value new)
    (hdiff : diff (write (read value)) (write new) = []) : new = read value := by
  obtain ⟨value', hcarries, -, rfl⟩ := h
  rw [Carries, hdiff] at hcarries
  rw [← Option.some.inj hcarries]

/-- A list takes on a change to each of its items. -/
theorem exists_carries_items {items : List Json} {f : α → α}
    (h : ∀ item ∈ items, TakesOn shape read write item (f (read item))) :
    ∃ items', Carries (.arr ((items.map read).map write))
        (.arr (((items.map read).map f).map write)) (.arr items) (.arr items') ∧
      Shape.fits (.list shape) (.arr items') = true ∧ items'.map read = (items.map read).map f := by
  choose! outcome hcarries hfits hread using h
  refine ⟨items.map outcome, ?_, ?_, ?_⟩
  · simpa [List.map_map, Function.comp_def] using carries_arr hcarries
  · exact Shape.itemsFit_iff.2 (List.forall_mem_map.2 hfits)
  · rw [List.map_map, List.map_map]
    exact List.map_congr_left hread

/-- A member of an object takes on a change, found between what is written for it before and after:
what is put in its place, if anything is, has the shape. -/
structure MemberTakesOn (shape : Shape) (old new value value' : Option Json) : Prop where
  fits : ∀ v, value' = some v → shape.fits v = true
  carries : CarriesMember old new value (value'.or value)

/-- A field takes on a change to what it holds. When it holds nothing it stays what it is, whatever
is written for it. -/
theorem exists_memberTakesOn {d : Dict Json} {key : String} (f : α → α)
    (written : Option α → Option Json) (hnone : ∀ o, written none = some o → o.IsNormal)
    (hsome : ∀ a, written (some a) = some (write a))
    (hfits : ∀ v, d.get? key = some v → Shape.fits (.nullable shape) v = true)
    (hnull : shape.takesNull = false)
    (htakes : ∀ v, d.get? key = some v → shape.fits v = true →
      TakesOn shape read write v (f (read v))) :
    ∃ v', MemberTakesOn (.nullable shape) (written (((Json.obj d.entries).field? key).map read))
        (written ((((Json.obj d.entries).field? key).map read).map f)) (d.get? key) v' ∧
      ∀ d' : Dict Json, d'.get? key = v'.or (d.get? key) →
        ((Json.obj d'.entries).field? key).map read =
          (((Json.obj d.entries).field? key).map read).map f := by
  rcases hfield : (Json.obj d.entries).field? key with - | v
  · -- the member is missing or `null`, and what is written for it is the same before and after
    refine ⟨none, ⟨nofun, .same hnone⟩, fun d' hd' ↦ ?_⟩
    rw [field?_congr (hd'.trans Option.none_or), hfield]
    rfl
  · obtain ⟨hget, hv⟩ := field?_obj_eq_some_iff.1 hfield
    have hvfits := (Shape.fits_nullable_iff.1 (hfits v hget)).resolve_left hv
    obtain ⟨v', hcarries, hfits', hread⟩ := htakes v hget hvfits
    have hv' : v' ≠ .null := by
      rintro rfl
      exact Bool.false_ne_true (hnull.symm.trans hfits')
    refine ⟨some v', ⟨fun w hw ↦ ?_, ?_⟩, fun d' hd' ↦ ?_⟩
    · rw [← Option.some.inj hw]
      exact Shape.fits_nullable_iff.2 (.inr hfits')
    · rw [Option.map_some, Option.map_some, hsome, hsome, hget]
      exact .changed hcarries
    · rw [field?_obj_eq_some_iff.2 ⟨hd', hv'⟩, Option.map_some, Option.map_some, Option.map_some,
        hread]

/-- **A record takes on changes to two of its members**, and keeps the others. -/
theorem exists_carries_record {style : RecordStyle} {fields : List (String × Shape × Bool)}
    (hfields : ∀ field ∈ fields, field.2.2 = false) {d old new : Dict Json}
    (hfits : Shape.fits (.record style fields) (.obj d.entries) = true) (hold : old.IsNormal)
    {key₁ key₂ : String} (hne : key₁ ≠ key₂) {shape₁ shape₂ : Shape} {v₁ v₂ : Option Json}
    (hlookup₁ : fields.lookup key₁ = some (shape₁, false))
    (hlookup₂ : fields.lookup key₂ = some (shape₂, false))
    (h₁ : MemberTakesOn shape₁ (old.get? key₁) (new.get? key₁) (d.get? key₁) v₁)
    (h₂ : MemberTakesOn shape₂ (old.get? key₂) (new.get? key₂) (d.get? key₂) v₂)
    (hother : ∀ key, key ≠ key₁ → key ≠ key₂ → new.get? key = old.get? key) :
    ∃ d' : Dict Json,
      Carries (.obj old.entries) (.obj new.entries) (.obj d.entries) (.obj d'.entries) ∧
        Shape.fits (.record style fields) (.obj d'.entries) = true ∧
        d'.get? key₁ = v₁.or (d.get? key₁) ∧ d'.get? key₂ = v₂.or (d.get? key₂) ∧
        ∀ key, key ≠ key₁ → key ≠ key₂ → d'.get? key = d.get? key := by
  have hget : ∀ key, ((d.insert? key₁ v₁).insert? key₂ v₂).get? key =
      if key = key₂ then v₂.or (d.get? key)
      else if key = key₁ then v₁.or (d.get? key) else d.get? key := by
    intro key
    rw [Dict.get?_insert?, Dict.get?_insert?]
    by_cases hkey : key = key₂
    · rw [if_pos hkey, if_pos hkey, if_neg (hkey ▸ hne.symm)]
    · rw [if_neg hkey, if_neg hkey]
  have hget₁ := (hget key₁).trans ((if_neg hne).trans (if_pos rfl))
  have hget₂ := (hget key₂).trans (if_pos rfl)
  have hgetOther : ∀ key, key ≠ key₁ → key ≠ key₂ →
      ((d.insert? key₁ v₁).insert? key₂ v₂).get? key = d.get? key :=
    fun key h₁ h₂ ↦ (hget key).trans ((if_neg h₂).trans (if_neg h₁))
  have hfits₁ : Shape.fits (.record style fields) (.obj (d.insert? key₁ v₁).entries) = true :=
    Shape.fits_record_insert? hfields hfits fun v hv field hfield ↦ by
      rw [← Option.some.inj (hlookup₁.symm.trans hfield)]
      exact h₁.fits v hv
  refine ⟨(d.insert? key₁ v₁).insert? key₂ v₂, carries_obj fun key ↦ ?_, ?_, hget₁, hget₂,
    hgetOther⟩
  · by_cases hkey₁ : key = key₁
    · rw [hkey₁, hget₁]
      exact h₁.carries
    · by_cases hkey₂ : key = key₂
      · rw [hkey₂, hget₂]
        exact h₂.carries
      · exact carriesMember_of_eq hold (hother key hkey₁ hkey₂) (hgetOther key hkey₁ hkey₂)
  · exact Shape.fits_record_insert? hfields hfits₁ fun v hv field hfield ↦ by
      rw [← Option.some.inj (hlookup₂.symm.trans hfield)]
      exact h₂.fits v hv

end Json

/-! ### Containers -/

namespace Container

/-- The second container is the first with another image, if it has one. -/
structure SameButImage (c c' : Container) : Prop where
  name : c'.name = c.name
  others : c'.others = c.others
  isSome : c'.image.isSome = c.image.isSome

variable {value : Json} {c : Container}

theorem takesOn (hnormal : value.IsNormal) (hfits : PodShape.container.fits value = true)
    (hc : (ofJson value).SameButImage c) :
    Json.TakesOn PodShape.container ofJson toJson value c := by
  obtain ⟨d, rfl, hd⟩ := Json.exists_dict_of_fits_record hfits hnormal
  have hwritten := isNormal_members_ofJson hnormal
  obtain ⟨name, image, others⟩ := c
  obtain ⟨rfl, rfl, hsome⟩ := hc
  rcases hold : (ofJson (.obj d.entries)).image with - | old
  · -- a member that is no string may be there, and stays
    obtain rfl : image = none := by simpa [hold] using hsome
    rw [← hold]
    exact Json.takesOn_self (.obj hwritten) hfits
  · obtain ⟨new, rfl⟩ : ∃ new, image = some new :=
      Option.isSome_iff_exists.1 (by rw [hsome, hold]; rfl)
    have himage : d.get? "image" = some (.str old) := Json.text?_field?_eq_some_iff.1 hold
    have hother : ∀ key, key ≠ "image" → (d.insert "image" (.str new)).get? key = d.get? key :=
      fun key hkey ↦ (Dict.get?_insert _ _ _ _).trans (if_neg hkey)
    refine ⟨.obj (d.insert "image" (.str new)).entries, ?_, ?_, ?_⟩
    · show Carries (.obj (members _).entries) (.obj (members _).entries) _ _
      refine carries_obj fun key ↦ ?_
      by_cases hkey : key = "image"
      · rw [hkey, get?_members, get?_members, hold, himage, Dict.get?_insert]
        exact .changed (Json.carries_str old new)
      · refine carriesMember_of_eq hwritten ?_ (hother key hkey)
        rw [get?_members, get?_members, if_neg hkey, if_neg hkey]
    · exact Shape.fits_record_insert (by decide) hfits fun field hfield ↦ by
        cases hfield
        rfl
    · have himage' : (ofJson (.obj (d.insert "image" (.str new)).entries)).image = some new :=
        Json.text?_field?_eq_some_iff.2 ((Dict.get?_insert _ _ _ _).trans (if_pos rfl))
      rw [← himage', ofJson, ofJson, Json.field?_congr (hother "name" (by decide)),
        othersOf_congr fun key hkey ↦ hother key fun h ↦ by simp [h] at hkey]

end Container

/-! ### Specifications -/

namespace PodSpec

/-- A specification with a function applied to each container. -/
def mapContainers (s : PodSpec) (f : Container → Container) : PodSpec :=
  { s with
    initContainers := s.initContainers.map (·.map f)
    containers := s.containers.map f }

/-- A list of containers off a value. -/
def listOf (value : Json) : List Container :=
  (value.items?.getD []).map Container.ofJson

/-- A list of containers as a value. -/
def jsonOfList (cs : List Container) : Json :=
  .arr (cs.map Container.toJson)

theorem get?_members_containers (s : PodSpec) :
    s.members.get? "containers" = some (jsonOfList s.containers) :=
  s.get?_members _

/-- With other containers, the other members are written as before. -/
theorem get?_members_mapContainers_of_ne (s : PodSpec) (f : Container → Container) {key : String}
    (hinit : key ≠ "initContainers") (hregular : key ≠ "containers") :
    (s.mapContainers f).members.get? key = s.members.get? key := by
  rw [get?_members, get?_members, if_neg hinit, if_neg hregular, if_neg hinit, if_neg hregular]
  rfl

variable {d : Dict Json} {key : String} {value : Json} {f : Container → Container}

theorem takesOn_list (hf : ∀ c : Container, c.SameButImage (f c)) (hnormal : value.IsNormal)
    (hfits : Shape.fits (.list PodShape.container) value = true) :
    Json.TakesOn (.list PodShape.container) listOf jsonOfList value ((listOf value).map f) := by
  cases value with
  | arr items =>
    have hitems : ∀ item ∈ items, PodShape.container.fits item = true := Shape.itemsFit_iff.1 hfits
    obtain ⟨items', hcarries, hfits', hread⟩ := Json.exists_carries_items fun item hitem ↦
      Container.takesOn (Json.isNormal_arr_iff.1 hnormal item hitem) (hitems item hitem) (hf _)
    exact ⟨.arr items', hcarries, hfits', hread⟩
  | _ => cases hfits

/-- In a specification that has its shape, a field that is there and not `null` holds a list. -/
theorem ofJson_eq (hfits : PodShape.spec.fits (.obj d.entries) = true) :
    ofJson (.obj d.entries) =
      { initContainers := ((Json.obj d.entries).field? "initContainers").map listOf
        containers := (((Json.obj d.entries).field? "containers").map listOf).getD []
        others := Container.othersOf ["initContainers", "containers"] (.obj d.entries) } := by
  have hfield := (Shape.fits_record_iff (PodShape.fields_not_required _)).1 hfits
  have hlist : ∀ key, (∀ v, d.get? key = some v →
      Shape.fits (.nullable (.list PodShape.container)) v = true) → ∀ v,
      (Json.obj d.entries).field? key = some v → ∃ items, v = .arr items := by
    intro key hkey v hv
    obtain ⟨hget, hnull⟩ := Json.field?_obj_eq_some_iff.1 hv
    have hv := (Shape.fits_nullable_iff.1 (hkey v hget)).resolve_left hnull
    cases v with
    | arr items => exact ⟨items, rfl⟩
    | _ => cases hv
  rw [ofJson]
  congr 1
  · rcases hv : (Json.obj d.entries).field? "initContainers" with - | v
    · rfl
    · obtain ⟨items, rfl⟩ := hlist _ (fun v hv ↦ hfield _ v _ hv rfl) v hv
      rfl
  · rcases hv : (Json.obj d.entries).field? "containers" with - | v
    · rfl
    · obtain ⟨items, rfl⟩ := hlist _ (fun v hv ↦ hfield _ v _ hv rfl) v hv
      rfl

theorem takesOn (hf : ∀ c : Container, c.SameButImage (f c)) (hnormal : value.IsNormal)
    (hfits : PodShape.spec.fits value = true) :
    Json.TakesOn PodShape.spec ofJson toJson value ((ofJson value).mapContainers f) := by
  obtain ⟨d, rfl, hd⟩ := Json.exists_dict_of_fits_record hfits hnormal
  have hfield := (Shape.fits_record_iff (PodShape.fields_not_required _)).1 hfits
  -- the list that may be missing is not written then, the other one is written empty
  obtain ⟨init, hinit, hinitRead⟩ := Json.exists_memberTakesOn (·.map f)
    (fun cs ↦ cs.map jsonOfList) nofun (fun _ ↦ rfl)
    (fun v hv ↦ hfield "initContainers" v _ hv rfl) rfl
    (fun v hv hvfits ↦ takesOn_list hf (hd _ v hv) hvfits)
  obtain ⟨regular, hregular, hregularRead⟩ := Json.exists_memberTakesOn (·.map f)
    (fun cs ↦ some (jsonOfList (cs.getD [])))
    (fun o ho ↦ Option.some.inj ho ▸ .arr nofun) (fun _ ↦ rfl)
    (fun v hv ↦ hfield "containers" v _ hv rfl) rfl
    (fun v hv hvfits ↦ takesOn_list hf (hd _ v hv) hvfits)
  have hread := ofJson_eq hfits
  have hmapped : ((ofJson (.obj d.entries)).mapContainers f).containers =
      ((((Json.obj d.entries).field? "containers").map listOf).map (·.map f)).getD [] := by
    rw [mapContainers, hread]
    rcases ((Json.obj d.entries).field? "containers").map listOf with - | cs <;> rfl
  have hinitWritten : ∀ s : PodSpec, s.others = (ofJson (.obj d.entries)).others →
      s.members.get? "initContainers" = s.initContainers.map jsonOfList := by
    intro s hs
    have hnone : (ofJson (.obj d.entries)).others.get? "initContainers" = none :=
      Container.get?_othersOf _ d _
    rw [get?_members, if_pos rfl, hs, hnone, Option.or_none]
    rfl
  obtain ⟨d', hcarries, hfits', hinitGet, hregularGet, hget⟩ := Json.exists_carries_record
    (PodShape.fields_not_required _) hfits (isNormal_members_ofJson hnormal)
    (by decide : "initContainers" ≠ "containers") rfl rfl
    (by rw [hinitWritten _ rfl, hinitWritten (mapContainers _ f) rfl, hread]; exact hinit)
    (by rw [get?_members_containers, get?_members_containers, hmapped, hread]; exact hregular)
    (fun _ ↦ get?_members_mapContainers_of_ne _ f)
  refine ⟨.obj d'.entries, hcarries, hfits', ?_⟩
  have hothers : Container.othersOf ["initContainers", "containers"] (.obj d'.entries) =
      (ofJson (.obj d.entries)).others :=
    Container.othersOf_congr fun key hkey ↦
      hget key (fun h ↦ by simp [h] at hkey) (fun h ↦ by simp [h] at hkey)
  rw [ofJson_eq hfits', hinitRead d' hinitGet, hregularRead d' hregularGet, hothers, ← hmapped,
    mapContainers, hread]

end PodSpec

/-! ### Metadata -/

namespace Metadata

theorem carries_jsonOfTexts {d d' : Dict String}
    (h : ∀ key, (d.get? key).isSome → (d'.get? key).isSome) :
    Carries (jsonOfTexts d) (jsonOfTexts d') (jsonOfTexts d) (jsonOfTexts d') := by
  refine carries_obj fun key ↦ ?_
  have hkey := h key
  rw [Dict.get?_map, Dict.get?_map]
  rcases hold : d.get? key with - | old <;> rcases hnew : d'.get? key with - | new
  · exact .same nofun
  · exact .added
  · simp [hold, hnew] at hkey
  · exact .changed (Json.carries_str old new)

/-- Labels or annotations take on more of them. -/
theorem memberTakesOn_texts {texts texts' : Option (Dict String)} (h : Keeps texts texts')
    {v : Option Json} (hv : ∀ d, texts = some d → v = some (jsonOfTexts d)) :
    Json.MemberTakesOn (.nullable (.dict .text)) (texts.map jsonOfTexts) (texts'.map jsonOfTexts) v
      (texts'.map jsonOfTexts) where
  fits := by
    intro w hw
    obtain ⟨d', -, rfl⟩ := Option.map_eq_some_iff.1 hw
    exact Shape.fits_nullable_iff.2 (.inr (fits_jsonOfTexts d'))
  carries := by
    rcases texts with - | d
    · rcases texts' with - | d'
      · exact .same nofun
      · exact .added
    · obtain ⟨d', rfl, hkeys⟩ := h d rfl
      rw [hv d rfl]
      exact .changed (carries_jsonOfTexts hkeys)

variable {d : Dict Json} {key : String} {value : Json} {m : Metadata}
  {texts texts' : Option (Dict String)}

/-- A member that is read as a dictionary of strings is one. -/
theorem get?_of_textsOf (hd : d.IsNormal)
    (hfits : ∀ v, d.get? key = some v → Shape.fits (.nullable (.dict .text)) v = true)
    {t : Dict String} (h : ((Json.obj d.entries).field? key).map textsOf = some t) :
    d.get? key = some (jsonOfTexts t) := by
  obtain ⟨v, hv, rfl⟩ := Option.map_eq_some_iff.1 h
  obtain ⟨hget, hnull⟩ := Json.field?_obj_eq_some_iff.1 hv
  have hdict := (Shape.fits_nullable_iff.1 (hfits v hget)).resolve_left hnull
  rw [jsonOfTexts_textsOf hdict (hd key v hget)]
  exact hget

/-- The dictionary that is written over a member is read. -/
theorem textsOf_field? {d' : Dict Json}
    (hkeeps : Keeps (((Json.obj d.entries).field? key).map textsOf) texts')
    (hget : d'.get? key = (texts'.map jsonOfTexts).or (d.get? key)) :
    ((Json.obj d'.entries).field? key).map textsOf = texts' := by
  rcases texts' with - | t
  · rw [Json.field?_congr (hget.trans Option.none_or)]
    rcases h : ((Json.obj d.entries).field? key).map textsOf with - | old
    · rfl
    · -- a dictionary that was there still is
      obtain ⟨t, ht, -⟩ := hkeeps old h
      cases ht
  · have hfield : (Json.obj d'.entries).field? key = some (jsonOfTexts t) :=
      Json.field?_obj_eq_some_iff.2 ⟨hget, by simp [jsonOfTexts]⟩
    rw [hfield, Option.map_some, textsOf_jsonOfTexts]

theorem takesOn (hnormal : value.IsNormal) (hfits : shape.fits value = true)
    (hm : (ofJson value).Extends m) : Json.TakesOn shape ofJson toJson value m := by
  obtain ⟨d, rfl, hd⟩ := Json.exists_dict_of_fits_record hfits hnormal
  have hfield := (Shape.fits_record_iff (by simp [optionalField])).1 hfits
  have hmothers : m.others = (ofJson (.obj d.entries)).others := by rw [hm.frame]
  -- the two dictionaries are written as members of their own, not among the others
  have hlabelsOthers : (ofJson (.obj d.entries)).others.get? "labels" = none :=
    Container.get?_othersOf_of_mem (by decide) _
  have hannotationsOthers : (ofJson (.obj d.entries)).others.get? "annotations" = none :=
    Container.get?_othersOf_of_mem (by decide) _
  have hlabels := memberTakesOn_texts hm.labels fun t ht ↦
    get?_of_textsOf hd (fun v hv ↦ hfield "labels" v _ hv rfl) ht
  have hannotations := memberTakesOn_texts hm.annotations fun t ht ↦
    get?_of_textsOf hd (fun v hv ↦ hfield "annotations" v _ hv rfl) ht
  obtain ⟨d', hcarries, hfits', hlabelsGet, hannotationsGet, hget⟩ := Json.exists_carries_record
    (by simp [optionalField]) hfits (isNormal_members (isNormal_others_ofJson hnormal))
    (by decide : "labels" ≠ "annotations") rfl rfl
    (by rwa [get?_members_labels hlabelsOthers, get?_members_labels (hmothers ▸ hlabelsOthers)])
    (by rwa [get?_members_annotations hannotationsOthers,
      get?_members_annotations (hmothers ▸ hannotationsOthers)])
    (fun _ ↦ get?_members_of_ne hm.frame)
  have hothers : Container.othersOf knownFields (.obj d'.entries) =
      (ofJson (.obj d.entries)).others :=
    Container.othersOf_congr fun key hkey ↦ hget key
      (fun h ↦ by simp [h, knownFields] at hkey) (fun h ↦ by simp [h, knownFields] at hkey)
  refine ⟨.obj d'.entries, hcarries, hfits', ?_⟩
  show Metadata.mk _ _ _ (((Json.obj d'.entries).field? "labels").map textsOf)
    (((Json.obj d'.entries).field? "annotations").map textsOf)
    (Container.othersOf knownFields (.obj d'.entries)) = m
  rw [textsOf_field? hm.labels hlabelsGet, textsOf_field? hm.annotations hannotationsGet, hothers,
    Json.field?_congr (hget "name" (by decide) (by decide)),
    Json.field?_congr (hget "generateName" (by decide) (by decide)),
    Json.field?_congr (hget "namespace" (by decide) (by decide))]
  exact hm.frame.symm

end Metadata

/-! ### Pods -/

namespace Pod

variable {value : Json} {f : Container → Container} {new : Pod}

/-- **A pod takes on other images and more metadata**, if it has metadata to add to. -/
theorem takesOn (hf : ∀ c : Container, c.SameButImage (f c)) (hnormal : value.IsNormal)
    (hfits : PodShape.pod.fits value = true) (hmetadata : (value.field? "metadata").isSome)
    (hextends : (ofJson value).metadata.Extends new.metadata)
    (hspec : new.spec = ((ofJson value).mapContainers f).spec)
    (hothers : new.others = (ofJson value).others) :
    Json.TakesOn PodShape.pod ofJson toJson value new := by
  obtain ⟨d, rfl, hd⟩ := Json.exists_dict_of_fits_record hfits hnormal
  obtain ⟨-, -, hmetadataFits, hspecFits, -⟩ := PodShape.fits_pod_iff.1 hfits
  obtain ⟨m, hm⟩ := Option.isSome_iff_exists.1 hmetadata
  have hread : ∀ d : Dict Json, (ofJson (.obj d.entries)).metadata =
      (((Json.obj d.entries).field? "metadata").map Metadata.ofJson).getD {} := fun _ ↦ rfl
  have hreadSpec : ∀ d : Dict Json, (ofJson (.obj d.entries)).spec =
      ((Json.obj d.entries).field? "spec").map PodSpec.ofJson := fun _ ↦ rfl
  rw [hread, hm, Option.map_some, Option.getD_some] at hextends
  obtain ⟨metadata, hmetadataTakes, hmetadataRead⟩ := Json.exists_memberTakesOn
    (fun _ ↦ new.metadata) (fun m ↦ some (Metadata.toJson (m.getD {})))
    (fun o ho ↦ Option.some.inj ho ▸ Json.isNormal_obj_iff.2 .empty) (fun _ ↦ rfl) hmetadataFits rfl
    (fun v hv hvfits ↦ by
      obtain rfl := Option.some.inj (hv.symm.trans (Json.field?_obj_eq_some_iff.1 hm).1)
      exact Metadata.takesOn (hd _ v hv) hvfits hextends)
  obtain ⟨spec, hspecTakes, hspecRead⟩ := Json.exists_memberTakesOn (·.mapContainers f)
    (fun s ↦ s.map PodSpec.toJson) nofun (fun _ ↦ rfl) hspecFits rfl
    (fun v hv hvfits ↦ PodSpec.takesOn hf (hd _ v hv) hvfits)
  rw [hm] at hmetadataTakes hmetadataRead
  have hspecWritten : ∀ p : Pod, p.others = (ofJson (.obj d.entries)).others →
      p.members.get? "spec" = p.spec.map PodSpec.toJson := by
    intro p hp
    have hnone : (ofJson (.obj d.entries)).others.get? "spec" = none :=
      Container.get?_othersOf _ d _
    rw [get?_members, if_pos rfl, hp, hnone, Option.or_none]
  obtain ⟨d', hcarries, hfits', hmetadataGet, hspecGet, hget⟩ := Json.exists_carries_record
    (by simp [Metadata.optionalField]) hfits (isNormal_members_ofJson hnormal)
    (by decide : "metadata" ≠ "spec") rfl rfl
    (by rw [get?_members_metadata, get?_members_metadata, hread, hm]; exact hmetadataTakes)
    (by rw [hspecWritten _ rfl, hspecWritten new hothers, hspec]; exact hspecTakes)
    (fun _ ↦ get?_members_of_ne hothers)
  have hothersRead : (ofJson (.obj d'.entries)).others = new.others :=
    (Container.othersOf_congr fun key hkey ↦ hget key
      (fun h ↦ by simp [h] at hkey) (fun h ↦ by simp [h] at hkey)).trans hothers.symm
  refine ⟨.obj d'.entries, hcarries, hfits', ?_⟩
  show Pod.mk (ofJson (.obj d'.entries)).metadata (ofJson (.obj d'.entries)).spec
    (ofJson (.obj d'.entries)).others = Pod.mk new.metadata new.spec new.others
  rw [hread, hmetadataRead d' hmetadataGet, hreadSpec, hspecRead d' hspecGet, hothersRead, hspec]
  rfl

end Pod

end PullCache
