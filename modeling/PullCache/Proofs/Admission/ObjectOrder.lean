import Mathlib.Data.List.Perm.Subperm
import Mathlib.Data.List.Permutation
import PullCache.Proofs.Admission.ObjectType
import PullCache.Proofs.Json.Reordering
import PullCache.Proofs.Pod.Written

/-!
# Objects with their members in another order

The members of an object are gone through in their order, to find its version and its kind. So the
order of the members matters to what is known of the object, and to what is left of it. It matters
to the pod that is read in one case only (`AdmissionRequest.pod_eq_of_perm`): the object says a
version and a kind, and just one of the two is a string, which is not what a pod has there
(`ObjectType.IsDisputed`). When the string comes first it is forgotten with the member that follows.
When it comes last it is still there to be judged.
-/

namespace PullCache

namespace ObjectType

variable {members members' : List (String × Json)} {m m' : String × Json}

/-- Of the version and the kind one is no string, and the other one is a string that is not what a
pod has. Which of the two comes first decides whether the string is judged. -/
def IsDisputed (members : List (String × Json)) : Prop :=
  ∃ m ∈ said members, ∃ m' ∈ said members,
    m.2.text? = none ∧ m'.2.text?.isSome ∧ ¬ IsOfPod m'

instance : DecidablePred IsOfPod := fun m ↦
  inferInstanceAs (Decidable (m = ("apiVersion", .str "v1") ∨ m = ("kind", .str "Pod")))

instance : DecidablePred IsDisputed := fun members ↦
  inferInstanceAs (Decidable (∃ m ∈ said members, ∃ m' ∈ said members,
    m.2.text? = none ∧ m'.2.text?.isSome ∧ ¬ IsOfPod m'))

theorem IsOfPod.isSome_text? (h : IsOfPod m) : m.2.text?.isSome := by
  rcases h with rfl | rfl <;> rfl

/-! ### The two members in two orders -/

theorem isKey_of_mem_said : ∀ m ∈ said members, isKey m.1 = true :=
  fun _ h ↦ (List.mem_filter.1 h).2

/-- Both of two members have one of the two names. -/
theorem isKey_of_said_eq_pair (h : said members = [m, m']) :
    isKey m.1 = true ∧ isKey m'.1 = true := by
  have hkeys : ∀ m ∈ said members, isKey m.1 = true := isKey_of_mem_said
  rw [h] at hkeys
  simpa using hkeys

/-- With no name twice, there are two members at most. -/
theorem length_said_le (hnodup : (members.map Prod.fst).Nodup) : (said members).length ≤ 2 := by
  have hkeys : ((said members).map Prod.fst).Nodup :=
    hnodup.sublist (List.filter_sublist.map Prod.fst)
  have hsub : (said members).map Prod.fst ⊆ ["apiVersion", "kind"] := by
    intro key hkey
    obtain ⟨m, hm, rfl⟩ := List.mem_map.1 hkey
    simpa using isKey_iff.1 (isKey_of_mem_said m hm)
  simpa using (hkeys.subperm hsub).length_le

/-- The two members are in the same order, or in the other one. -/
theorem said_eq_or_swap (hperm : members.Perm members') (hnodup : (members.map Prod.fst).Nodup) :
    said members = said members' ∨
      ∃ m m', said members = [m, m'] ∧ said members' = [m', m] ∧ m.1 ≠ m'.1 := by
  have hsaid : (said members).Perm (said members') := hperm.filter _
  have hkeys : ((said members).map Prod.fst).Nodup :=
    hnodup.sublist (List.filter_sublist.map Prod.fst)
  have hlength := length_said_le hnodup
  generalize said members = l, said members' = l' at hsaid hkeys hlength
  match l, hlength with
  | [], _ => exact .inl (List.nil_perm.1 hsaid).symm
  | [m], _ => exact .inl (List.singleton_perm.1 hsaid)
  | [m, m'], _ =>
    have hne : m.1 ≠ m'.1 := by simpa using hkeys
    rcases List.perm_pair.1 hsaid.symm with rfl | rfl
    · exact .inl rfl
    · exact .inr ⟨m, m', rfl, rfl, hne⟩

/-! ### What is known of the two -/

theorem accepts_of_takeFrom_eq_nil (h : takeFrom none none (said members) = (none, [])) :
    Accepts members := by
  rw [accepts_iff, h]
  nofun

theorem accepts_iff_of_takeFrom_eq_singleton (hm : isKey m.1 = true)
    (h : takeFrom none none (said members) = (none, [m])) : Accepts members ↔ IsOfPod m := by
  obtain ⟨key, value⟩ := m
  rw [accepts_iff, h]
  constructor
  · intro haccepts
    exact haccepts key hm value (by simp [remembered])
  · intro hof q _ other hother
    obtain ⟨rfl, rfl⟩ : q = key ∧ value = other := by
      by_cases hq : q = key
      · simpa [remembered, hq] using hother
      · simp [remembered, List.lookup_cons, beq_eq_false_iff_ne.2 hq] at hother
    exact hof

/-- A member that is no string hides a string before it. -/
theorem takeFrom_pair_of_text?_eq_none (hkey : isKey m.1 = true) (hkey' : isKey m'.1 = true)
    (htext : m.2.text?.isSome) (htext' : m'.2.text? = none) :
    takeFrom none none [m, m'] = (none, []) := by
  obtain ⟨text, htext⟩ := Option.isSome_iff_exists.1 htext
  have hfront : IsReadable [m] := ⟨by simpa using ⟨text, eq_str_of_text? htext⟩, by simp⟩
  have hkeys : ∀ e ∈ [m] ++ m' :: [], isKey e.1 = true := by simp [hkey, hkey']
  exact takeFrom_of_spoils hkeys hfront (.inl htext')

/-- Two strings are known in either order. -/
theorem takeFrom_pair_comm (hkey : isKey m.1 = true) (hkey' : isKey m'.1 = true)
    (hne : m.1 ≠ m'.1) (htext : m.2.text?.isSome) (htext' : m'.2.text?.isSome) :
    takeFrom none none [m, m'] = takeFrom none none [m', m] := by
  obtain ⟨text, htext⟩ := Option.isSome_iff_exists.1 htext
  obtain ⟨text', htext'⟩ := Option.isSome_iff_exists.1 htext'
  obtain ⟨key, value⟩ := m
  obtain ⟨key', value'⟩ := m'
  obtain rfl : value = .str text := eq_str_of_text? htext
  obtain rfl : value' = .str text' := eq_str_of_text? htext'
  rcases isKey_iff.1 hkey with rfl | rfl <;> rcases isKey_iff.1 hkey' with rfl | rfl
  · exact absurd rfl hne
  · rfl
  · rfl
  · exact absurd rfl hne

section Swap

variable (hsaid : said members = [m, m']) (hsaid' : said members' = [m', m])

include hsaid hsaid'

/-- A string that is not judged in one order must be right in the other. -/
theorem alike_of_swap (htext : m.2.text? = none) (hof : IsOfPod m') :
    (takeFrom none none (said members)).1 = (takeFrom none none (said members')).1 ∧
      (Accepts members ↔ Accepts members') := by
  obtain ⟨hkey, hkey'⟩ := isKey_of_said_eq_pair hsaid
  have htake : takeFrom none none (said members) = (none, [m']) := by
    rw [hsaid, takeFrom_of_text?_eq_none hkey htext]
  have htake' : takeFrom none none (said members') = (none, []) := by
    rw [hsaid', takeFrom_pair_of_text?_eq_none hkey' hkey hof.isSome_text? htext]
  refine ⟨by rw [htake, htake'], iff_of_true ?_ (accepts_of_takeFrom_eq_nil htake')⟩
  exact (accepts_iff_of_takeFrom_eq_singleton hkey' htake).2 hof

/-- Of two members that are no strings the last one is left, and is wrong. -/
theorem alike_of_swap_of_text?_eq_none (htext : m.2.text? = none) (htext' : m'.2.text? = none) :
    (takeFrom none none (said members)).1 = (takeFrom none none (said members')).1 ∧
      (Accepts members ↔ Accepts members') := by
  obtain ⟨hkey, hkey'⟩ := isKey_of_said_eq_pair hsaid
  have htake : takeFrom none none (said members) = (none, [m']) := by
    rw [hsaid, takeFrom_of_text?_eq_none hkey htext]
  have htake' : takeFrom none none (said members') = (none, [m]) := by
    rw [hsaid', takeFrom_of_text?_eq_none hkey' htext']
  rw [accepts_iff_of_takeFrom_eq_singleton hkey' htake,
    accepts_iff_of_takeFrom_eq_singleton hkey htake', htake, htake']
  refine ⟨rfl, iff_of_false (fun hof ↦ ?_) fun hof ↦ ?_⟩
  · simpa [htext'] using hof.isSome_text?
  · simpa [htext] using hof.isSome_text?

theorem alike_of_swap_of_isSome (hne : m.1 ≠ m'.1) (htext : m.2.text?.isSome)
    (htext' : m'.2.text?.isSome) :
    (takeFrom none none (said members)).1 = (takeFrom none none (said members')).1 ∧
      (Accepts members ↔ Accepts members') := by
  obtain ⟨hkey, hkey'⟩ := isKey_of_said_eq_pair hsaid
  have htake : takeFrom none none (said members) = takeFrom none none (said members') := by
    rw [hsaid, hsaid', takeFrom_pair_comm hkey hkey' hne htext htext']
  rw [accepts_iff, accepts_iff, htake]
  exact ⟨rfl, Iff.rfl⟩

end Swap

/-- **The order of the members decides on the type of an object when it is disputed.** Otherwise as
much is known of it in either order, and it is accepted in either order or in none. -/
theorem alike_of_perm (hperm : members.Perm members') (hnodup : (members.map Prod.fst).Nodup)
    (horder : IsDisputed members →
      (said members).map Prod.fst = (said members').map Prod.fst) :
    (takeFrom none none (said members)).1 = (takeFrom none none (said members')).1 ∧
      (Accepts members ↔ Accepts members') := by
  rcases said_eq_or_swap hperm hnodup with hsame | ⟨m, m', hsaid, hsaid', hne⟩
  · rw [accepts_iff, accepts_iff, hsame]
    exact ⟨rfl, Iff.rfl⟩
  · have hsettled : ¬ IsDisputed members := fun hdisputed ↦ by
      have hkeys := horder hdisputed
      rw [hsaid, hsaid'] at hkeys
      exact hne (List.cons.inj hkeys).1
    -- where one of the two is no string, the other one is right or none, for want of a dispute
    rcases htext : m.2.text? with - | text <;> rcases htext' : m'.2.text? with - | text'
    · exact alike_of_swap_of_text?_eq_none hsaid hsaid' htext htext'
    · refine alike_of_swap hsaid hsaid' htext (not_not.1 fun hother ↦ hsettled ?_)
      exact ⟨m, by simp [hsaid], m', by simp [hsaid], htext, by rw [htext']; rfl, hother⟩
    · have hof : IsOfPod m := not_not.1 fun hother ↦ hsettled
        ⟨m', by simp [hsaid], m, by simp [hsaid], htext', by rw [htext]; rfl, hother⟩
      obtain ⟨htype, haccepts⟩ := alike_of_swap hsaid' hsaid htext' hof
      exact ⟨htype.symm, haccepts.symm⟩
    · exact alike_of_swap_of_isSome hsaid hsaid' hne (by rw [htext]; rfl) (by rw [htext']; rfl)

end ObjectType

/-! ### The pod that is read -/

/-- What a pod is read off is its members but version and kind, and that these two are right. -/
theorem Pod.ofJson?_congr {d d' : Dict Json}
    (hright : ((∀ value, d.get? "apiVersion" = some value → value = .str "v1") ∧
        ∀ value, d.get? "kind" = some value → value = .str "Pod") ↔
      (∀ value, d'.get? "apiVersion" = some value → value = .str "v1") ∧
        ∀ value, d'.get? "kind" = some value → value = .str "Pod")
    (hother : ∀ key, key ≠ "apiVersion" → key ≠ "kind" → d.get? key = d'.get? key) :
    ofJson? (.obj d.entries) = ofJson? (.obj d'.entries) := by
  have hmetadata := hother "metadata" (by decide) (by decide)
  have hspec := hother "spec" (by decide) (by decide)
  have hstatus := hother "status" (by decide) (by decide)
  have hfits : PodShape.pod.fits (.obj d.entries) = true ↔
      PodShape.pod.fits (.obj d'.entries) = true := by
    rw [PodShape.fits_pod_iff, PodShape.fits_pod_iff, ← and_assoc, hright, and_assoc, hmetadata,
      hspec, hstatus]
  have hread : ofJson (.obj d.entries) = ofJson (.obj d'.entries) := by
    rw [ofJson, ofJson, Json.field?_congr hmetadata, Json.field?_congr hspec,
      Container.othersOf_congr fun key hkey ↦ hother key (fun h ↦ by simp [h] at hkey)
        fun h ↦ by simp [h] at hkey]
  rw [ofJson?, ofJson?, hread]
  exact if_congr hfits rfl rfl

namespace AnyObject

open ObjectType
open Json (Document)

variable {document document' : Document}

theorem type_ofDocument (document : Document) :
    (ofDocument document).type = (takeFrom none none (said (membersOf document))).1 := by
  rw [← said_filter_ne_metadata]
  exact (takeFrom_said none none _).1

/-- What is neither version nor kind is the same in either order. -/
theorem get?_ofDocument_of_perm (hperm : (membersOf document).Perm (membersOf document'))
    (hnodup : ((membersOf document).map Prod.fst).Nodup) {key : String}
    (hkey : isKey key = false) :
    (ofDocument document).allMembers.get? key = (ofDocument document').allMembers.get? key := by
  have hlookup : ∀ key,
      (membersOf document).reverse.lookup key = (membersOf document').reverse.lookup key := by
    intro key
    rw [lookup_reverse_of_nodup hnodup,
      lookup_reverse_of_nodup ((hperm.map Prod.fst).nodup_iff.1 hnodup),
      lookup_eq_of_perm hperm hnodup]
  have hother : ¬ isKey key = true := by simp [hkey]
  rw [get?_ofDocument, get?_ofDocument, if_neg hother, if_neg hother, metadataOf, metadataOf,
    hlookup "metadata", hlookup key]

end AnyObject

namespace AdmissionRequest

open ObjectType

open AnyObject (membersOf ofDocument)

variable {document document' : Json.Document} {request request' : AdmissionRequest}

/-- **The pod of a request does not depend on the order of the members of its object**, unless the
type of the object is disputed and version and kind change places. -/
theorem pod_eq_of_perm (hobject : request.object = some (ofDocument document))
    (hobject' : request'.object = some (ofDocument document'))
    (hperm : (membersOf document).Perm (membersOf document'))
    (hnodup : ((membersOf document).map Prod.fst).Nodup)
    (horder : IsDisputed (membersOf document) →
      (said (membersOf document)).map Prod.fst = (said (membersOf document')).map Prod.fst) :
    request.pod = request'.pod := by
  obtain ⟨htype, haccepts⟩ := alike_of_perm hperm hnodup horder
  rw [← AnyObject.type_ofDocument, ← AnyObject.type_ofDocument] at htype
  rw [AnyObject.accepts_iff_get?, AnyObject.accepts_iff_get?] at haccepts
  have hread : Pod.ofJson? (ofDocument document).toJson =
      Pod.ofJson? (ofDocument document').toJson := by
    rw [AnyObject.toJson_eq, AnyObject.toJson_eq]
    refine Pod.ofJson?_congr haccepts fun key hversion hkind ↦ ?_
    exact AnyObject.get?_ofDocument_of_perm hperm hnodup (by simp [isKey, hversion, hkind])
  rw [pod, pod, hobject, hobject']
  dsimp only
  rw [htype, hread]

end AdmissionRequest

end PullCache
