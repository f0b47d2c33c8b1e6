import PullCache.Proofs.Patch.Within
import PullCache.Proofs.Pod.TakesOn

/-!
# Where two pods differ

When a pod gets other images and more metadata, its written form changes in few places: at the image
of a container, and in the two dictionaries of the metadata. `Pod.within_diff` says so for the
difference of the two written forms. It is put together from the same fact about containers, lists
of containers, specifications and metadata, each of which says what a change further in has to be
allowed by.

The written form before is taken to be normal, so that what stays the same does not differ from
itself.
-/

namespace PullCache

open Json (MemberWithin memberWithin_of_eq within_diff_obj within_diff_record within_diff_arr
  within_diff_str)
open Patch (Within)

variable {P : PatchOp → Prop}

/-! ### Containers -/

/-- A container with another image differs in the image, and in nothing without one. -/
theorem Container.within_diff {c c' : Container} (hnormal : c.members.IsNormal)
    (hc : c.SameButImage c')
    (h : ∀ image, c'.image = some image → c.image ≠ some image →
      P (.replace ["image"] (.str image))) :
    Within P (Json.diff c.toJson c'.toJson) := by
  obtain ⟨name, image, others⟩ := c
  obtain ⟨name', image', others'⟩ := c'
  obtain ⟨rfl, rfl, hsome⟩ := hc
  rw [toJson_eq, toJson_eq]
  refine within_diff_obj fun key ↦ ?_
  rcases image with - | old
  · obtain rfl : image' = none := by simpa using hsome
    exact memberWithin_of_eq hnormal rfl
  · obtain ⟨new, rfl⟩ : ∃ new, image' = some new := Option.isSome_iff_exists.1 hsome
    by_cases hkey : key = "image"
    · rw [hkey, get?_members, get?_members]
      exact .changed (within_diff_str fun hne ↦ h new rfl fun heq ↦ hne (Option.some.inj heq))
    · refine memberWithin_of_eq hnormal ?_
      rw [get?_members, get?_members, if_neg hkey, if_neg hkey]

/-- The member of a specification that lists the containers of a kind. -/
def ContainerKind.listName : ContainerKind → String
  | .init => "initContainers"
  | .regular => "containers"

namespace PodSpec

variable {f : Container → Container}

/-- The containers of one kind. -/
def containersOf (s : PodSpec) : ContainerKind → List Container
  | .init => s.initContainers.getD []
  | .regular => s.containers

/-- A list of containers differs in the images. -/
theorem within_diff_list {cs : List Container} (hf : ∀ c : Container, c.SameButImage (f c))
    (hnormal : (jsonOfList cs).IsNormal)
    (h : ∀ (i : ℕ) c image, cs[i]? = some c → (f c).image = some image → c.image ≠ some image →
      P (.replace [toString i, "image"] (.str image))) :
    Within P (Json.diff (jsonOfList cs) (jsonOfList (cs.map f))) := by
  have hcs : ∀ c ∈ cs, c.members.IsNormal := fun c hc ↦
    Json.isNormal_obj_iff.1 (Json.isNormal_arr_iff.1 hnormal _ (List.mem_map_of_mem hc))
  rw [jsonOfList, jsonOfList, List.map_map]
  refine within_diff_arr fun i c hc ↦ ?_
  have hwritten := hcs c (List.mem_of_getElem? hc)
  exact Container.within_diff hwritten (hf c) fun image ↦ h i c image hc

/-- A specification differs in the images of its containers. -/
theorem within_diff {s : PodSpec} (hf : ∀ c : Container, c.SameButImage (f c))
    (hnormal : s.members.IsNormal)
    (h : ∀ kind (i : ℕ) c image, (s.containersOf kind)[i]? = some c →
      (f c).image = some image → c.image ≠ some image →
      P (.replace [kind.listName, toString i, "image"] (.str image))) :
    Within P (Json.diff s.toJson (s.mapContainers f).toJson) := by
  have hlist : ∀ kind, s.members.get? kind.listName = some (jsonOfList (s.containersOf kind)) →
      MemberWithin P kind.listName (some (jsonOfList (s.containersOf kind)))
        (some (jsonOfList ((s.containersOf kind).map f))) := fun kind hget ↦
    .changed (within_diff_list hf (hnormal _ _ hget) (h kind))
  have hinit : MemberWithin P "initContainers" (s.members.get? "initContainers")
      ((s.mapContainers f).members.get? "initContainers") := by
    rcases s with ⟨- | cs, containers, others⟩
    · -- the list is missing before and after
      refine memberWithin_of_eq hnormal ?_
      rw [get?_members, get?_members]
      rfl
    · have hmember := hlist .init (get?_members _ _)
      rw [get?_members, get?_members]
      exact hmember
  have hregular : MemberWithin P "containers" (s.members.get? "containers")
      ((s.mapContainers f).members.get? "containers") := by
    rw [get?_members_containers, get?_members_containers]
    exact hlist .regular s.get?_members_containers
  rw [toJson_eq, toJson_eq]
  exact within_diff_record hnormal hinit hregular fun _ ↦ get?_members_mapContainers_of_ne s f

end PodSpec

/-! ### Metadata -/

/-- A change that sets allowed texts of the dictionary at a place: one that is new is added, one
that is there is replaced, and where there is no dictionary one is added as a whole. -/
inductive PatchOp.SetsTexts (place : JsonPath) (texts : Option (Dict String))
    (allowed : String → String → Prop) : PatchOp → Prop
  | add {d : Dict String} {key value : String} (htexts : texts = some d) (hkey : d.get? key = none)
    (h : allowed key value) : SetsTexts place texts allowed (.add (place ++ [key]) (.str value))
  | replace {d : Dict String} {key value : String} (htexts : texts = some d)
    (hkey : (d.get? key).isSome) (h : allowed key value) :
    SetsTexts place texts allowed (.replace (place ++ [key]) (.str value))
  | addAll {d : Dict String} (htexts : texts = none)
    (h : ∀ key value, d.get? key = some value → allowed key value) :
    SetsTexts place texts allowed (.add place (Metadata.jsonOfTexts d))

namespace PatchOp.SetsTexts

variable {place : JsonPath} {texts : Option (Dict String)}
  {allowed allowed' : String → String → Prop} {op : PatchOp}

theorem under (h : op.SetsTexts place texts allowed) (token : String) :
    (op.under token).SetsTexts (token :: place) texts allowed := by
  cases h with
  | add htexts hkey h => exact .add htexts hkey h
  | replace htexts hkey h => exact .replace htexts hkey h
  | addAll htexts h => exact .addAll htexts h

theorem imp (himp : ∀ key value, allowed key value → allowed' key value)
    (h : op.SetsTexts place texts allowed) : op.SetsTexts place texts allowed' := by
  cases h with
  | add htexts hkey h => exact .add htexts hkey (himp _ _ h)
  | replace htexts hkey h => exact .replace htexts hkey (himp _ _ h)
  | addAll htexts h => exact .addAll htexts fun key value hget ↦ himp _ _ (h key value hget)

/-- It is made at the dictionary or inside it. -/
theorem exists_path (h : op.SetsTexts place texts allowed) : ∃ rest, op.path = place ++ rest := by
  cases h with
  | add | replace => exact ⟨_, rfl⟩
  | addAll => exact ⟨[], (List.append_nil place).symm⟩

end PatchOp.SetsTexts

namespace Metadata

/-- A dictionary that is kept differs in the texts that it did not have before. -/
theorem memberWithin_texts {texts texts' : Option (Dict String)} {field : String}
    (hkeeps : Keeps texts texts')
    (h : ∀ op, op.SetsTexts [field] texts (fun key value ↦ texts'.bind (·.get? key) = some value ∧
      texts.bind (·.get? key) ≠ some value) → P op) :
    MemberWithin P field (texts.map jsonOfTexts) (texts'.map jsonOfTexts) := by
  rcases texts with - | d
  · rcases texts' with - | d'
    · exact .same nofun
    · exact .added (h _ (.addAll rfl fun key value hget ↦ ⟨hget, nofun⟩))
  · obtain ⟨d', rfl, hkeys⟩ := hkeeps d rfl
    refine .changed (within_diff_obj fun key ↦ ?_)
    rw [Dict.get?_map, Dict.get?_map]
    rcases hold : d.get? key with - | old
    · rcases hnew : d'.get? key with - | new
      · exact .same nofun
      · exact .added (h _ (.add rfl hold ⟨hnew, by simp [hold]⟩))
    · obtain ⟨new, hnew⟩ := Option.isSome_iff_exists.1 (hkeys key (by rw [hold]; rfl))
      rw [hnew]
      refine .changed (within_diff_str fun hne ↦ ?_)
      exact h _ (.replace rfl (by rw [hold]; rfl) ⟨hnew, by simpa [hold] using hne⟩)

/-- Metadata that grows differs in labels and annotations that it did not have before. The two
dictionaries are no members without a field. -/
theorem within_diff {m m' : Metadata} (hnormal : m.members.IsNormal) (hm : m.Extends m')
    (hfields : m.others.get? "labels" = none ∧ m.others.get? "annotations" = none)
    (hlabels : ∀ op, op.SetsTexts ["labels"] m.labels
      (fun key value ↦ m'.label? key = some value ∧ m.label? key ≠ some value) → P op)
    (hannotations : ∀ op, op.SetsTexts ["annotations"] m.annotations
      (fun key value ↦ m'.annotation? key = some value ∧ m.annotation? key ≠ some value) → P op) :
    Within P (Json.diff m.toJson m'.toJson) := by
  have hothers : m'.others = m.others := by rw [hm.frame]
  have hlabelsWithin := memberWithin_texts hm.labels hlabels
  have hannotationsWithin := memberWithin_texts hm.annotations hannotations
  rw [← get?_members_labels hfields.1, ← get?_members_labels (hothers ▸ hfields.1)]
    at hlabelsWithin
  rw [← get?_members_annotations hfields.2, ← get?_members_annotations (hothers ▸ hfields.2)]
    at hannotationsWithin
  rw [toJson_eq, toJson_eq]
  exact within_diff_record hnormal hlabelsWithin hannotationsWithin
    fun _ ↦ get?_members_of_ne hm.frame

end Metadata

/-! ### Pods -/

/-- Where the image of a container stands in a pod. -/
def ContainerKind.imagePath (kind : ContainerKind) (i : ℕ) : JsonPath :=
  ["spec", kind.listName, toString i, "image"]

/-- **A pod with other images and more metadata** differs in images, and in labels and annotations
that it did not have before. -/
theorem Pod.within_diff {p new : Pod} {f : Container → Container}
    (hf : ∀ c : Container, c.SameButImage (f c)) (hnormal : p.members.IsNormal)
    (hfields : p.metadata.others.get? "labels" = none ∧
      p.metadata.others.get? "annotations" = none)
    (hmetadata : p.metadata.Extends new.metadata) (hspec : new.spec = (p.mapContainers f).spec)
    (hothers : new.others = p.others)
    (himage : ∀ kind (i : ℕ) c image, (p.containersOf kind)[i]? = some c →
      (f c).image = some image → c.image ≠ some image →
      P (.replace (kind.imagePath i) (.str image)))
    (hlabels : ∀ op, op.SetsTexts ["metadata", "labels"] p.metadata.labels
      (fun key value ↦ new.metadata.label? key = some value ∧
        p.metadata.label? key ≠ some value) → P op)
    (hannotations : ∀ op, op.SetsTexts ["metadata", "annotations"] p.metadata.annotations
      (fun key value ↦ new.metadata.annotation? key = some value ∧
        p.metadata.annotation? key ≠ some value) → P op) :
    Within P (Json.diff p.toJson new.toJson) := by
  have hmetadataWithin : MemberWithin P "metadata" (p.members.get? "metadata")
      (new.members.get? "metadata") := by
    have hwritten := Json.isNormal_obj_iff.1 (hnormal _ _ p.get?_members_metadata)
    rw [get?_members_metadata, get?_members_metadata]
    refine .changed (Metadata.within_diff hwritten hmetadata hfields ?_ ?_)
    · exact fun op hop ↦ hlabels _ (hop.under "metadata")
    · exact fun op hop ↦ hannotations _ (hop.under "metadata")
  have hspecWithin : MemberWithin P "spec" (p.members.get? "spec")
      (new.members.get? "spec") := by
    rcases hs : p.spec with - | s
    · -- there is no specification before and after
      refine memberWithin_of_eq hnormal ?_
      rw [get?_members, get?_members, hspec, hothers, mapContainers, hs]
      rfl
    · have hcontainers : ∀ kind, s.containersOf kind = p.containersOf kind := by
        intro kind
        cases kind <;> simp [PodSpec.containersOf, containersOf, hs]
      have hget : p.members.get? "spec" = some s.toJson := by
        rw [get?_members, hs]
        rfl
      have hget' : new.members.get? "spec" = some (s.mapContainers f).toJson := by
        rw [get?_members, hspec, mapContainers, hs]
        rfl
      have hwritten := Json.isNormal_obj_iff.1 (hnormal _ _ hget)
      rw [hget, hget']
      refine .changed (PodSpec.within_diff hf hwritten fun kind i c image hc ↦ ?_)
      exact himage kind i c image (hcontainers kind ▸ hc)
  rw [toJson_eq, toJson_eq]
  exact within_diff_record hnormal hmetadataWithin hspecWithin fun _ ↦ get?_members_of_ne hothers

end PullCache
