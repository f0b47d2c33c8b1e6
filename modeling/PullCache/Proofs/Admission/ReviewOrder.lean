import PullCache.Proofs.Admission.ObjectOrder
import PullCache.Proofs.Json.Faults

/-!
# Reviews with their members in another order

What is read off a review does not depend on the order of its members, but for its object and for
the fault that is met first (`Review.ofDocument_of_sameButOrder`). A request in one order is the
request in the other with another object (`Review.requestOf_eq`), of which the same pod is read
unless the type of the object is disputed (`Review.pod_requestOf_eq`).
-/

namespace PullCache

open Json (Document Fault)
open Json.Document (SameButOrder)

variable {d d' : Document} {members members' : List (String × Json)}

/-! ### Parts that may be missing -/

section Parts

variable {α : Type} {o o' : Option Document}

theorem bind_eq_of_rel {f : Document → Option α} (h : Option.Rel SameButOrder o o')
    (hf : ∀ {d d' : Document}, d.SameButOrder d' → f d = f d') : o.bind f = o'.bind f := by
  cases h with
  | none => rfl
  | some h => exact hf h

theorem rel_filter {p : Document → Bool} (h : Option.Rel SameButOrder o o')
    (hp : ∀ {d d' : Document}, d.SameButOrder d' → p d = p d') :
    Option.Rel SameButOrder (o.filter p) (o'.filter p) := by
  cases h with
  | none => exact .none
  | @some d d' h =>
    rw [Option.filter_some, Option.filter_some, hp h]
    split
    · exact .some h
    · exact .none

end Parts

/-! ### Members -/

namespace AnyObject

theorem perm_membersOf (h : d.SameButOrder d') : (membersOf d).Perm (membersOf d') := by
  cases h with
  | null | bool | num | str | arr => exact .nil
  | @obj members members' hkeys hnodup h =>
    have hvalues : (members.map fun m ↦ (m.1, m.2.value)).Perm
        (members'.map fun m ↦ (m.1, m.2.value)) :=
      perm_map_of_keys hkeys fun key item item' hmem hmem' ↦ by
        rw [(h key item item' hmem hmem').value_eq]
    have hnamed := hvalues.filterMap fun m ↦ m.1.map fun key ↦ (key, m.2)
    rwa [List.filterMap_map, List.filterMap_map] at hnamed

theorem nodup_membersOf (h : d.SameButOrder d') : ((membersOf d).map Prod.fst).Nodup := by
  cases h with
  | null | bool | num | str | arr => exact List.nodup_nil
  | @obj members members' hkeys hnodup h =>
    have hnames : (membersOf (.obj members true)).map Prod.fst =
        (members.map Prod.fst).filterMap id := by
      rw [membersOf, List.map_filterMap, List.filterMap_map]
      refine List.filterMap_congr fun m _ ↦ ?_
      rcases m with ⟨- | key, item⟩ <;> rfl
    rw [hnames]
    refine (Document.nodup_keys_of_nodup_names hnodup).filterMap ?_
    rintro key key' name rfl rfl
    rfl

end AnyObject

namespace Review

open AnyObject (membersOf)

theorem textOf_eq (h : d.SameButOrder d') : textOf d = textOf d' := by
  cases h <;> rfl

/-- A choice that is written as an object is read off its only name. -/
theorem operationOf_obj (members : List (Option String × Document)) (closed : Bool) :
    operationOf (.obj members closed) =
      match members.map Prod.fst with
      | [some name] => Operation.byName.lookup name
      | _ => none := by
  rcases members with - | ⟨⟨- | name, item⟩, - | ⟨m, rest⟩⟩ <;> rfl

theorem operationOf_eq (h : d.SameButOrder d') : operationOf d = operationOf d' := by
  cases h with
  | null | bool | num | str | arr => rfl
  | @obj members members' hkeys hnodup h =>
    rw [operationOf_obj, operationOf_obj]
    generalize members.map Prod.fst = keys, members'.map Prod.fst = keys' at hkeys
    match keys, keys', hkeys.length_eq with
    | [], [], _ => rfl
    | [key], [key'], _ => rw [List.singleton_perm.1 hkeys]
    | key₁ :: key₂ :: rest, key₁' :: key₂' :: rest', _ => cases key₁ <;> cases key₁' <;> rfl

theorem onlyText?_eq_of_perm (hperm : members.Perm members')
    (hnodup : (members.map Prod.fst).Nodup) (name : String) :
    onlyText? members name = onlyText? members' name := by
  rw [onlyText?, onlyText?, filter_key_eq hnodup,
    filter_key_eq ((hperm.map Prod.fst).nodup_iff.1 hnodup), lookup_eq_of_perm hperm hnodup]

theorem rel_requestField? (h : d.SameButOrder d') (name : String) :
    Option.Rel SameButOrder (requestField? d name) (requestField? d' name) := by
  refine rel_filter ?_ fun h ↦ by cases h <;> rfl
  cases h with
  | null | bool | num | str => exact .none
  | arr hlength h => exact rel_lookup_zip hlength h name
  | obj hkeys hnodup h => exact SameButOrder.get? (.obj hkeys hnodup h) name

/-- The members of the object of a request, in their order. -/
def objectOf (request : Document) : List (String × Json) :=
  ((requestField? request "object").map membersOf).getD []

/-- The members of the object that a review is about, in their order. -/
def objectMembers (review : Document) : List (String × Json) :=
  ((review.get? "request").map objectOf).getD []

/-- All of a request but its object is the same in any order. -/
theorem requestOf_eq (h : d.SameButOrder d') (type : ObjectType) :
    requestOf type d' = { requestOf type d with object := (requestOf type d').object } := by
  have huid := bind_eq_of_rel (rel_requestField? h "uid") textOf_eq
  have hoperation := bind_eq_of_rel (rel_requestField? h "operation") operationOf_eq
  have hspace := bind_eq_of_rel (rel_requestField? h "namespace") textOf_eq
  simp only [requestOf, huid, hoperation, hspace]

/-- The pod of a request is the same in any order, unless the type of its object is disputed and
version and kind change places. -/
theorem pod_requestOf_eq (h : d.SameButOrder d') (type : ObjectType)
    (horder : ObjectType.IsDisputed (objectOf d) →
      (ObjectType.said (objectOf d)).map Prod.fst = (ObjectType.said (objectOf d')).map Prod.fst) :
    (requestOf type d).pod = (requestOf type d').pod := by
  have hobject := rel_requestField? h "object"
  unfold objectOf at horder
  generalize ho : requestField? d "object" = o at hobject horder
  generalize ho' : requestField? d' "object" = o' at hobject horder
  cases hobject with
  | none => simp [AdmissionRequest.pod, requestOf, ho, ho']
  | some h =>
    exact AdmissionRequest.pod_eq_of_perm (by simp [requestOf, ho]) (by simp [requestOf, ho'])
      (AnyObject.perm_membersOf h) (AnyObject.nodup_membersOf h) horder

/-- The request of a review that has one. -/
def requestOf? (type : ObjectType) (review : Document) : Option AdmissionRequest :=
  ((review.get? "request").filter fun
    | .null => false
    | _ => true).map (requestOf type)

/-- What is read off the two orders is two reviews of one type, or one fault, or the first faults of
both where there are faults of both kinds. -/
theorem ofDocument_of_sameButOrder (h : d.SameButOrder d') :
    (∃ type, ofDocument d = .ok ⟨type, requestOf? type d⟩ ∧
      ofDocument d' = .ok ⟨type, requestOf? type d'⟩) ∨
    (∃ fault, ofDocument d = .error fault ∧ ofDocument d' = .error fault) ∨
    (∀ fault, fault ∈ shape.faults 0 d) ∧ ∃ fault fault',
      (shape.faults 0 d).head? = some fault ∧ (shape.faults 0 d').head? = some fault' ∧
        ofDocument d = .error fault ∧ ofDocument d' = .error fault' := by
  have hnone : shape.fault? 0 d = none ↔ shape.fault? 0 d' = none :=
    Json.Shape.fault?_eq_none_iff_of_sameButOrder h
  rcases hfault : shape.fault? 0 d with - | fault
  · have hfault' := hnone.1 hfault
    have hperm := AnyObject.perm_membersOf h
    have hnodup := AnyObject.nodup_membersOf h
    have hversion := onlyText?_eq_of_perm hperm hnodup "apiVersion"
    have hkind := onlyText?_eq_of_perm hperm hnodup "kind"
    unfold ofDocument
    simp only [hfault, hfault', hversion, hkind]
    split
    · exact .inl ⟨_, rfl, rfl⟩
    · exact .inr (.inl ⟨_, rfl, rfl⟩)
  · obtain ⟨fault', hfault'⟩ : ∃ fault', shape.fault? 0 d' = some fault' := by
      refine Option.ne_none_iff_exists'.1 fun hfault' ↦ ?_
      rw [hnone.2 hfault'] at hfault
      cases hfault
    have hread : ofDocument d = .error fault := by simp [ofDocument, hfault]
    have hread' : ofDocument d' = .error fault' := by simp [ofDocument, hfault']
    refine .inr ((Json.Shape.eq_or_forall_mem_faults h hfault hfault').imp ?_ fun hboth ↦ ?_)
    · rintro rfl
      exact ⟨fault, hread, hread'⟩
    · rw [Json.Shape.head?_faults, Json.Shape.head?_faults]
      exact ⟨hboth, fault, fault', hfault, hfault', hread, hread'⟩

end Review

end PullCache
