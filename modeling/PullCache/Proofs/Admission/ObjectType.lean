import Mathlib.Data.List.Induction
import PullCache.Admission.Decode
import PullCache.Proofs.Pod.Shape

/-!
# What is asked of the type of an object

The version and the kind of an object are taken out of its members before the object is read as a
pod. They are known when both are there, once each and as strings. What has been taken out is
forgotten otherwise. The search ends at a member that is no string or has come before, and only what
stands behind that one is still there to be judged.

`AdmissionRequest.pod_isOk_iff` says what this asks of the two members. It asks nothing when only
one of them is there: an object of another kind that gives no version is read as a pod.
-/

namespace PullCache

namespace ObjectType

/-! ### The two members -/

/-- Whether a member of this name says the version or the kind. -/
def isKey (key : String) : Bool :=
  key == "apiVersion" || key == "kind"

/-- The members that say version and kind, in their order. -/
def said (members : List (String × Json)) : List (String × Json) :=
  members.filter fun m ↦ isKey m.1

/-- The other members. -/
def unsaid (members : List (String × Json)) : List (String × Json) :=
  members.filter fun m ↦ !isKey m.1

/-- Whether a member says what it has to say for a pod. -/
def IsOfPod (m : String × Json) : Prop :=
  m = ("apiVersion", .str "v1") ∨ m = ("kind", .str "Pod")

/-- The members are strings, and no two have one name. -/
structure IsReadable (members : List (String × Json)) : Prop where
  text : ∀ m ∈ members, ∃ text, m.2 = .str text
  nodup : (members.map Prod.fst).Nodup

/-- A member that ends the search behind others: it is no string, or one of them has its name. -/
def Spoils (m : String × Json) (front : List (String × Json)) : Prop :=
  m.2.text? = none ∨ m.1 ∈ front.map Prod.fst

/-- What the two members must be like for a pod, however often each is there. -/
structure Accepts (members : List (String × Json)) : Prop where
  /-- Both are known when they are there once each, as strings, and must be right then. -/
  known : IsReadable (said members) → "apiVersion" ∈ (said members).map Prod.fst →
    "kind" ∈ (said members).map Prod.fst → ∀ m ∈ said members, IsOfPod m
  /-- Behind the member that ends the search, the last one of each name must be right. -/
  behind : ∀ front m behind, said members = front ++ m :: behind → IsReadable front →
    Spoils m front → ∀ key value, behind.reverse.lookup key = some value → IsOfPod (key, value)

variable {apiVersion kind : Option String} {m : String × Json}
  {members : List (String × Json)}

theorem isKey_iff {key : String} : isKey key = true ↔ key = "apiVersion" ∨ key = "kind" := by
  simp [isKey]

/-! ### Taking them out -/

theorem eq_str_of_text? {value : Json} {text : String} (h : value.text? = some text) :
    value = .str text := by
  cases value <;> simp_all [Json.text?]

/-- What has been found of a name. -/
def found (apiVersion kind : Option String) (key : String) : Option String :=
  if key = "kind" then kind else apiVersion

theorem found_none (key : String) : found none none key = none :=
  ite_self none

/-- A string is noted under a name of which nothing has been found. -/
theorem takeFrom_of_found_eq_none {key : String} (hkey : isKey key = true)
    (hfound : found apiVersion kind key = none) (text : String) :
    ∃ apiVersion' kind',
      (∀ members, takeFrom apiVersion kind ((key, .str text) :: members) =
        takeFrom apiVersion' kind' members) ∧
      ∀ q, isKey q = true →
        found apiVersion' kind' q = if q = key then some text else found apiVersion kind q := by
  rcases isKey_iff.1 hkey with rfl | rfl
  · obtain rfl : apiVersion = none := hfound
    refine ⟨some text, kind, fun _ ↦ rfl, fun q hq ↦ ?_⟩
    rcases isKey_iff.1 hq with rfl | rfl <;> rfl
  · obtain rfl : kind = none := hfound
    refine ⟨apiVersion, some text, fun _ ↦ rfl, fun q hq ↦ ?_⟩
    rcases isKey_iff.1 hq with rfl | rfl <;> rfl

/-- A name of which something has been found ends the search. -/
theorem takeFrom_of_found (hkey : isKey m.1 = true) (hfound : found apiVersion kind m.1 ≠ none)
    (members : List (String × Json)) :
    takeFrom apiVersion kind (m :: members) = (none, members) := by
  obtain ⟨key, value⟩ := m
  rcases isKey_iff.1 hkey with rfl | rfl
  · obtain ⟨text, rfl⟩ := Option.ne_none_iff_exists'.1 hfound
    rfl
  · obtain ⟨text, rfl⟩ := Option.ne_none_iff_exists'.1 hfound
    rfl

/-- A member that is no string ends the search. -/
theorem takeFrom_of_text?_eq_none (hkey : isKey m.1 = true) (htext : m.2.text? = none)
    (apiVersion kind : Option String) (members : List (String × Json)) :
    takeFrom apiVersion kind (m :: members) = (none, members) := by
  obtain ⟨key, value⟩ := m
  rcases isKey_iff.1 hkey with rfl | rfl
  · cases apiVersion <;> cases value <;> first | rfl | cases htext
  · cases kind <;> cases value <;> first | rfl | cases htext

theorem takeFrom_of_not_isKey (hkey : isKey m.1 = false) (apiVersion kind : Option String)
    (members : List (String × Json)) : takeFrom apiVersion kind (m :: members) =
      ((takeFrom apiVersion kind members).1, m :: (takeFrom apiVersion kind members).2) := by
  obtain ⟨h₁, h₂⟩ : m.1 ≠ "apiVersion" ∧ m.1 ≠ "kind" := by simpa [isKey] using hkey
  obtain ⟨key, value⟩ := m
  show (if key = "apiVersion" then _ else if key = "kind" then _ else _) = _
  rw [if_neg h₁, if_neg h₂]

/-- One of the two members is noted, or it ends the search; what follows does not matter. -/
theorem takeFrom_of_isKey (hkey : isKey m.1 = true) (apiVersion kind : Option String) :
    (∃ apiVersion' kind', ∀ members, takeFrom apiVersion kind (m :: members) =
      takeFrom apiVersion' kind' members) ∨
    ∀ members, takeFrom apiVersion kind (m :: members) = (none, members) := by
  rcases htext : m.2.text? with - | text
  · exact .inr (takeFrom_of_text?_eq_none hkey htext apiVersion kind)
  · by_cases hfound : found apiVersion kind m.1 = none
    · obtain ⟨key, value⟩ := m
      obtain rfl := eq_str_of_text? htext
      obtain ⟨apiVersion', kind', hstep, -⟩ := takeFrom_of_found_eq_none hkey hfound text
      exact .inl ⟨apiVersion', kind', hstep⟩
    · exact .inr (takeFrom_of_found hkey hfound)

/-- **Only the two members decide what is known**, and the others all stay. -/
theorem takeFrom_said (apiVersion kind : Option String) (members : List (String × Json)) :
    (takeFrom apiVersion kind members).1 = (takeFrom apiVersion kind (said members)).1 ∧
      said (takeFrom apiVersion kind members).2 = (takeFrom apiVersion kind (said members)).2 ∧
      unsaid (takeFrom apiVersion kind members).2 = unsaid members := by
  induction members generalizing apiVersion kind with
  | nil => exact ⟨rfl, rfl, rfl⟩
  | cons m members ih =>
    by_cases hkey : isKey m.1 = true
    · have hsaid : said (m :: members) = m :: said members := List.filter_cons_of_pos hkey
      have hunsaid : unsaid (m :: members) = unsaid members := List.filter_cons_of_neg (by simpa)
      rw [hsaid, hunsaid]
      rcases takeFrom_of_isKey hkey apiVersion kind with ⟨apiVersion', kind', hstep⟩ | hend
      · rw [hstep, hstep]
        exact ih apiVersion' kind'
      · rw [hend, hend]
        exact ⟨rfl, rfl, rfl⟩
    · have hother : isKey m.1 = false := by simpa using hkey
      have hsaid : ∀ members, said (m :: members) = said members :=
        fun _ ↦ List.filter_cons_of_neg hkey
      have hunsaid : ∀ members, unsaid (m :: members) = m :: unsaid members :=
        fun _ ↦ List.filter_cons_of_pos (by simp [hother])
      rw [takeFrom_of_not_isKey hother, hsaid, hsaid, hunsaid, hunsaid]
      obtain ⟨h₁, h₂, h₃⟩ := ih apiVersion kind
      exact ⟨h₁, h₂, by rw [h₃]⟩

/-! ### What is asked of them -/

/-- What one of the two members is when the object is read as a pod: what is known of it, or else
what has been left of it. -/
def remembered (taken : Option ObjectType × List (String × Json)) (key : String) : Option Json :=
  (taken.1.map fun type ↦ .str (if key = "kind" then type.kind else type.apiVersion)).or
    (taken.2.reverse.lookup key)

/-- Only the two members decide what is remembered of them. -/
theorem remembered_said {key : String} (hkey : isKey key = true) (members : List (String × Json)) :
    remembered (takeFrom none none members) key =
      remembered (takeFrom none none (said members)) key := by
  obtain ⟨htype, hsaid, -⟩ := takeFrom_said none none members
  have hleft : (takeFrom none none (said members)).2.reverse.lookup key =
      (takeFrom none none members).2.reverse.lookup key := by
    rw [← hsaid]
    exact (Dict.lookup_reverse_filter isKey _ key).trans (if_pos hkey)
  rw [remembered, remembered, htype, hleft]

/-! ### Where the search ends -/

/-- Members that are readable are all noted, and nothing else is found. -/
theorem takeFrom_append {front : List (String × Json)} (hkeys : ∀ m ∈ front, isKey m.1 = true)
    (hfront : IsReadable front) (hnew : ∀ m ∈ front, found apiVersion kind m.1 = none) :
    ∃ apiVersion' kind',
      (∀ members, takeFrom apiVersion kind (front ++ members) =
        takeFrom apiVersion' kind' members) ∧
      ∀ q, isKey q = true → ∀ text, found apiVersion' kind' q = some text ↔
        (q, .str text) ∈ front ∨ found apiVersion kind q = some text := by
  induction front generalizing apiVersion kind with
  | nil => exact ⟨apiVersion, kind, fun _ ↦ rfl, fun _ _ _ ↦ by simp⟩
  | cons m front ih =>
    obtain ⟨key, value⟩ := m
    obtain ⟨hkey, hkeys'⟩ := List.forall_mem_cons.1 hkeys
    obtain ⟨⟨text, htext⟩, htexts⟩ := List.forall_mem_cons.1 hfront.text
    obtain ⟨hother, hnodup⟩ := List.nodup_cons.1 hfront.nodup
    obtain ⟨hfirst, hnew'⟩ := List.forall_mem_cons.1 hnew
    obtain rfl : value = .str text := htext
    obtain ⟨apiVersion₁, kind₁, hstep, hfound₁⟩ := takeFrom_of_found_eq_none hkey hfirst text
    have hnew₁ : ∀ m ∈ front, found apiVersion₁ kind₁ m.1 = none := by
      intro m hm
      have hne : m.1 ≠ key := fun h ↦ hother (List.mem_map.2 ⟨m, hm, h⟩)
      rw [hfound₁ m.1 (hkeys' m hm), if_neg hne]
      exact hnew' m hm
    obtain ⟨apiVersion', kind', hrest, hfound'⟩ := ih hkeys' ⟨htexts, hnodup⟩ hnew₁
    refine ⟨apiVersion', kind', fun members ↦ (hstep _).trans (hrest members), ?_⟩
    intro q hq other
    rw [hfound' q hq, hfound₁ q hq]
    by_cases hqkey : q = key
    · subst hqkey
      simp [hfirst, or_comm, eq_comm]
    · simp [hqkey]

variable {front behind entries : List (String × Json)}

/-- What spoils the search is taken out with what stands in front of it. -/
theorem takeFrom_of_spoils (hkeys : ∀ e ∈ front ++ m :: behind, isKey e.1 = true)
    (hfront : IsReadable front) (hm : Spoils m front) :
    takeFrom none none (front ++ m :: behind) = (none, behind) := by
  obtain ⟨apiVersion, kind, hstep, hfound⟩ :=
    takeFrom_append (fun e he ↦ hkeys e (List.mem_append_left _ he)) hfront fun e _ ↦ found_none e.1
  have hkey : isKey m.1 = true := hkeys m (by simp)
  rw [hstep]
  rcases hm with htext | hagain
  · exact takeFrom_of_text?_eq_none hkey htext apiVersion kind behind
  · obtain ⟨⟨key, value⟩, he, hname⟩ := List.mem_map.1 hagain
    obtain ⟨text, rfl⟩ := hfront.text _ he
    refine takeFrom_of_found hkey ?_ behind
    rw [(hfound m.1 hkey text).2 (.inl (hname ▸ he))]
    exact Option.some_ne_none text

theorem takeFrom_nil : takeFrom apiVersion kind [] =
    (apiVersion.bind fun apiVersion ↦ kind.map fun kind ↦ { apiVersion, kind }, []) := by
  cases apiVersion <;> cases kind <;> rfl

/-- Something is known at the end when both have been found. -/
theorem remembered_takeFrom_nil {key : String} {value : Json} :
    remembered (takeFrom apiVersion kind []) key = some value ↔
      (∃ text, found apiVersion kind "apiVersion" = some text) ∧
        (∃ text, found apiVersion kind "kind" = some text) ∧
        ∃ text, found apiVersion kind key = some text ∧ value = .str text := by
  rw [takeFrom_nil]
  by_cases hkey : key = "kind" <;> cases apiVersion <;> cases kind <;>
    simp [remembered, found, hkey, eq_comm]

/-- Readable members are remembered when both are there. -/
theorem remembered_of_isReadable (hkeys : ∀ e ∈ entries, isKey e.1 = true)
    (h : IsReadable entries) {key : String} (hkey : isKey key = true) {value : Json} :
    remembered (takeFrom none none entries) key = some value ↔
      "apiVersion" ∈ entries.map Prod.fst ∧ "kind" ∈ entries.map Prod.fst ∧
        (key, value) ∈ entries := by
  obtain ⟨apiVersion, kind, hstep, hfound⟩ := takeFrom_append hkeys h fun e _ ↦ found_none e.1
  have hmem : ∀ q, isKey q = true → ∀ text,
      found apiVersion kind q = some text ↔ (q, .str text) ∈ entries := by
    intro q hq text
    rw [hfound q hq, found_none]
    simp
  have hname : ∀ q, isKey q = true →
      ((∃ text, found apiVersion kind q = some text) ↔ q ∈ entries.map Prod.fst) := by
    intro q hq
    constructor
    · rintro ⟨text, htext⟩
      exact List.mem_map.2 ⟨_, (hmem q hq text).1 htext, rfl⟩
    · intro hin
      obtain ⟨⟨_, value⟩, he, rfl⟩ := List.mem_map.1 hin
      obtain ⟨text, rfl⟩ := h.text _ he
      exact ⟨text, (hmem _ hq text).2 he⟩
  have hvalue : (∃ text, found apiVersion kind key = some text ∧ value = .str text) ↔
      (key, value) ∈ entries := by
    constructor
    · rintro ⟨text, htext, rfl⟩
      exact (hmem key hkey text).1 htext
    · intro he
      obtain ⟨text, rfl⟩ := h.text _ he
      exact ⟨text, (hmem key hkey text).2 he, rfl⟩
  have hall : takeFrom none none entries = takeFrom apiVersion kind [] := by
    rw [← hstep, List.append_nil]
  rw [hall, remembered_takeFrom_nil, hname _ rfl, hname _ rfl, hvalue]

/-- Members are readable, or one of them ends the search. -/
theorem isReadable_or_spoils (entries : List (String × Json)) : IsReadable entries ∨
    ∃ front m behind, entries = front ++ m :: behind ∧ IsReadable front ∧ Spoils m front := by
  induction entries using List.reverseRecOn with
  | nil => exact .inl ⟨by simp, List.nodup_nil⟩
  | append_singleton entries last ih =>
    rcases ih with hread | ⟨front, m, behind, rfl, hfront, hm⟩
    · by_cases hlast : Spoils last entries
      · exact .inr ⟨entries, last, [], rfl, hread, hlast⟩
      · obtain ⟨htext, hnew⟩ := not_or.1 hlast
        obtain ⟨text, htext⟩ := Option.ne_none_iff_exists'.1 htext
        refine .inl ⟨?_, ?_⟩
        · simpa [or_imp, forall_and] using
            ⟨fun key value he ↦ hread.text (key, value) he, text, eq_str_of_text? htext⟩
        · rw [List.map_append, List.nodup_append]
          refine ⟨hread.nodup, by simp, ?_⟩
          rintro key hkey _ hkeyLast rfl
          exact hnew (List.mem_singleton.1 hkeyLast ▸ hkey)
    · exact .inr ⟨front, m, behind ++ [last], by simp, hfront, hm⟩

/-- **The two members are accepted exactly when what is remembered of them is right.** -/
theorem accepts_iff : Accepts members ↔ ∀ key, isKey key = true → ∀ value,
    remembered (takeFrom none none (said members)) key = some value → IsOfPod (key, value) := by
  have hkeys : ∀ m ∈ said members, isKey m.1 = true := fun m hm ↦ (List.mem_filter.1 hm).2
  constructor
  · intro h key hkey value hvalue
    rcases isReadable_or_spoils (said members) with hread | ⟨front, m, behind, hsaid, hfront, hm⟩
    · obtain ⟨hversion, hkind, hmem⟩ := (remembered_of_isReadable hkeys hread hkey).1 hvalue
      exact h.known hread hversion hkind _ hmem
    · rw [hsaid, takeFrom_of_spoils (hsaid ▸ hkeys) hfront hm] at hvalue
      exact h.behind front m behind hsaid hfront hm key value hvalue
  · intro h
    constructor
    · intro hread hversion hkind m hm
      refine h m.1 (hkeys m hm) m.2 ?_
      exact (remembered_of_isReadable hkeys hread (hkeys m hm)).2 ⟨hversion, hkind, hm⟩
    · intro front m behind hsaid hfront hm key value hvalue
      obtain ⟨before, after, hbehind, -⟩ := List.lookup_eq_some_iff.1 hvalue
      have hmem : (key, value) ∈ behind := by
        rw [← List.mem_reverse, hbehind]
        simp
      refine h key (hkeys (key, value) (by simp [hsaid, hmem])) value ?_
      rw [hsaid, takeFrom_of_spoils (hsaid ▸ hkeys) hfront hm]
      exact hvalue

end ObjectType

/-! ### Reading the object -/

namespace AnyObject

open ObjectType
open Json (Document)

variable {document : Document}

/-- The members of an object as a value. -/
def allMembers (o : AnyObject) : Dict Json :=
  ((o.members.insert? "apiVersion" (o.type.map fun t ↦ .str t.apiVersion)).insert?
    "kind" (o.type.map fun t ↦ .str t.kind)).insert "metadata" o.metadata.toJson

theorem toJson_eq (o : AnyObject) : o.toJson = .obj o.allMembers.entries := rfl

theorem said_filter_ne_metadata (members : List (String × Json)) :
    said (members.filter fun m ↦ m.1 != "metadata") = said members := by
  rw [said, said, List.filter_filter]
  refine List.filter_congr fun m _ ↦ ?_
  by_cases hm : m.1 = "metadata" <;> simp [isKey, hm]

/-- A member of an object as a value: what is remembered of version and kind, the metadata, or what
the object was written with. -/
theorem get?_ofDocument (document : Document) (key : String) :
    (ofDocument document).allMembers.get? key =
      if isKey key then remembered (takeFrom none none (said (membersOf document))) key
      else if key = "metadata" then some (metadataOf (membersOf document)).toJson
      else (membersOf document).reverse.lookup key := by
  generalize hmembers : membersOf document = members
  obtain ⟨-, -, hunsaid⟩ := takeFrom_said none none (members.filter fun m ↦ m.1 != "metadata")
  have hget : (ofDocument document).allMembers.get? key =
      if key = "metadata" then some (metadataOf members).toJson
      else if isKey key then
        remembered (takeFrom none none (members.filter fun m ↦ m.1 != "metadata")) key
      else
        (takeFrom none none (members.filter fun m ↦ m.1 != "metadata")).2.reverse.lookup key := by
    rw [allMembers, Dict.get?_insert, Dict.get?_insert?, Dict.get?_insert?]
    simp only [ofDocument, hmembers, Dict.get?_ofList, remembered]
    by_cases hkind : key = "kind"
    · subst hkind
      simp [isKey]
    · by_cases hversion : key = "apiVersion"
      · subst hversion
        simp [isKey]
      · simp [isKey, hkind, hversion]
  rw [hget]
  by_cases hkey : isKey key = true
  · have hmetadata : key ≠ "metadata" := by
      rintro rfl
      cases hkey
    rw [if_neg hmetadata, if_pos hkey, if_pos hkey, remembered_said hkey,
      said_filter_ne_metadata]
  · rw [if_neg hkey, if_neg hkey]
    by_cases hmetadata : key = "metadata"
    · rw [if_pos hmetadata, if_pos hmetadata]
    · -- what is neither version nor kind is still there
      have hkeep : (!isKey key) = true := by simpa using hkey
      have hleft := Dict.lookup_reverse_filter (fun key ↦ !isKey key)
        (takeFrom none none (members.filter fun m ↦ m.1 != "metadata")).2 key
      have hwritten := Dict.lookup_reverse_filter (fun key ↦ !isKey key)
        (members.filter fun m ↦ m.1 != "metadata") key
      rw [if_pos hkeep] at hleft hwritten
      rw [if_neg hmetadata, if_neg hmetadata, ← hleft]
      show (unsaid _).reverse.lookup key = _
      rw [hunsaid]
      refine hwritten.trans ?_
      rw [Dict.lookup_reverse_filter (· != "metadata"), if_pos (by simpa using hmetadata)]

/-- An object as it is written, without the two members. -/
def withoutType : Document → Document
  | .obj members closed => .obj (members.filter fun m ↦ !m.1.any isKey) closed
  | document => document

theorem membersOf_withoutType (document : Document) :
    membersOf (withoutType document) = unsaid (membersOf document) := by
  cases document with
  | obj members closed =>
    rw [withoutType, membersOf, membersOf, unsaid]
    induction members with
    | nil => rfl
    | cons m members ih =>
      rcases m with ⟨- | key, item⟩
      · simpa using ih
      · by_cases hkey : isKey key = true <;> simp [hkey, ih]
  | _ => rfl

/-- Without the two members, an object is what it was but for them. -/
theorem get?_ofDocument_withoutType (document : Document) (key : String) :
    (ofDocument (withoutType document)).allMembers.get? key =
      if isKey key then none else (ofDocument document).allMembers.get? key := by
  rw [get?_ofDocument, get?_ofDocument, membersOf_withoutType]
  generalize membersOf document = members
  have hunsaid : ∀ key, isKey key = false →
      (unsaid members).reverse.lookup key = members.reverse.lookup key := by
    intro key hkey
    refine (Dict.lookup_reverse_filter (fun key ↦ !isKey key) members key).trans ?_
    rw [if_pos (by rw [hkey]; rfl)]
  have hsaid : said (unsaid members) = [] := by
    rw [said, unsaid, List.filter_filter, List.filter_eq_nil_iff]
    simp
  rw [hsaid, metadataOf, metadataOf, hunsaid "metadata" rfl]
  by_cases hkey : isKey key = true
  · rw [if_pos hkey, if_pos hkey]
    rfl
  · rw [if_neg hkey, if_neg hkey, if_neg hkey, hunsaid key (by simpa using hkey)]

/-- The two members are accepted when the object, as a value, has those of a pod or none. -/
theorem accepts_iff_get? : Accepts (membersOf document) ↔
    (∀ value, (ofDocument document).allMembers.get? "apiVersion" = some value →
      value = .str "v1") ∧
    ∀ value, (ofDocument document).allMembers.get? "kind" = some value → value = .str "Pod" := by
  have hsaid : ∀ key, isKey key = true → (ofDocument document).allMembers.get? key =
      remembered (takeFrom none none (said (membersOf document))) key := by
    intro key hkey
    rw [get?_ofDocument, if_pos hkey]
  rw [accepts_iff]
  constructor
  · intro h
    refine ⟨fun value hvalue ↦ ?_, fun value hvalue ↦ ?_⟩
    · rw [hsaid _ rfl] at hvalue
      simpa [IsOfPod] using h "apiVersion" rfl value hvalue
    · rw [hsaid _ rfl] at hvalue
      simpa [IsOfPod] using h "kind" rfl value hvalue
  · rintro ⟨hversion, hkind⟩ key hkey value hvalue
    rw [← hsaid key hkey] at hvalue
    rcases isKey_iff.1 hkey with rfl | rfl
    · exact .inl (by rw [hversion value hvalue])
    · exact .inr (by rw [hkind value hvalue])

end AnyObject

namespace AdmissionRequest

open ObjectType
open AnyObject (membersOf withoutType)
open Json (Document)

variable {request : AdmissionRequest} {object : AnyObject} {document : Document}

/-- A request has a pod when its object looks like one; a kind that is known is looked at then
too. -/
theorem pod_isOk_iff_fits (hobject : request.object = some object) :
    (∃ pod, request.pod = .ok pod) ↔ PodShape.pod.fits object.toJson = true := by
  constructor
  · rintro ⟨pod, hpod⟩
    obtain ⟨other, hother, -, hread⟩ := pod_eq_ok_iff.1 hpod
    obtain rfl := Option.some.inj (hobject.symm.trans hother)
    rw [Pod.ofJson?] at hread
    split at hread
    · assumption
    · cases hread
  · intro hfits
    refine ⟨Pod.ofJson object.toJson, pod_eq_ok_iff.2 ⟨object, hobject, fun type htype ↦ ?_, ?_⟩⟩
    · rw [AnyObject.toJson_eq, PodShape.fits_pod_iff] at hfits
      have hkind : object.allMembers.get? "kind" = some (.str type.kind) := by
        rw [AnyObject.allMembers, Dict.get?_insert, if_neg (by decide), Dict.get?_insert?,
          if_pos rfl, htype]
        rfl
      exact Json.str.inj (hfits.2.1 _ hkind)
    · rw [Pod.ofJson?, if_pos hfits]

/-- **What the type of an object has to be.** An object is read as a pod exactly when the members
that say its version and its kind are accepted, and the object without them is read as a pod. -/
theorem pod_isOk_iff (hobject : request.object = some (.ofDocument document)) :
    (∃ pod, request.pod = .ok pod) ↔ Accepts (membersOf document) ∧
      ∃ pod, { request with object := some (.ofDocument (withoutType document)) }.pod =
        .ok pod := by
  rw [pod_isOk_iff_fits hobject, pod_isOk_iff_fits rfl, AnyObject.toJson_eq, AnyObject.toJson_eq,
    PodShape.fits_pod_iff, PodShape.fits_pod_iff, AnyObject.accepts_iff_get?]
  simp [AnyObject.get?_ofDocument_withoutType, isKey, and_assoc]

/-- A request to create an object that is written in this way. -/
def toCreate (document : Document) : AdmissionRequest :=
  { type := { apiVersion := "admission.k8s.io/v1", kind := "AdmissionReview" }
    uid := "1"
    operation := .create
    space := none
    object := some (.ofDocument document) }

/-- A pod of another version is refused, whichever of the two members comes first. -/
theorem pod_of_other_version :
    let document := .ofJson (.obj [("kind", .str "Pod"), ("apiVersion", .str "apps/v1")])
    (toCreate document).object = some (.ofDocument document) ∧
      ¬ ∃ pod, (toCreate document).pod = .ok pod := by
  intro document
  have hmembers : membersOf document = [("kind", .str "Pod"), ("apiVersion", .str "apps/v1")] := rfl
  refine ⟨rfl, fun hpod ↦ ?_⟩
  obtain ⟨haccepts, -⟩ := (pod_isOk_iff rfl).1 hpod
  rw [hmembers] at haccepts
  have hread : IsReadable (said [("kind", .str "Pod"), ("apiVersion", .str "apps/v1")]) := by
    refine ⟨?_, by decide⟩
    simp [said, isKey]
  have hversion := haccepts.known hread (by decide) (by decide) ("apiVersion", .str "apps/v1")
  simp [said, isKey, IsOfPod] at hversion

/-- **Other kinds are read as pods**: when no version is said, when a version behind the kind is no
string, and when the kind itself is no string and the version behind it is that of a pod. -/
theorem pod_of_other_kind :
    (toCreate (.ofJson (.obj [("kind", .str "Deployment")]))).pod = .ok {} ∧
      (toCreate (.ofJson (.obj [("kind", .str "Deployment"), ("apiVersion", .num "1")]))).pod =
        .ok {} ∧
      (toCreate (.ofJson (.obj [("kind", .num "1"), ("apiVersion", .str "v1")]))).pod =
        .ok {} := by
  refine ⟨?_, ?_, ?_⟩ <;> rfl

end AdmissionRequest

end PullCache
