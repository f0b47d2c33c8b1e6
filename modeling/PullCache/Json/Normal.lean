import PullCache.Json.Document

/-!
# Normal values

The type of values leaves room for objects that have a member twice or out of order. A value is
normal when the members of each object in it are the entries of a dictionary, so that a member is
what its name looks up to. Documents have such values, whatever was written in them
(`Document.isNormal_value`).
-/

namespace PullCache

/-- The members of each object in the value are in order, and no two have one name. -/
inductive Json.IsNormal : Json → Prop
  | null : IsNormal .null
  | bool (value : Bool) : IsNormal (.bool value)
  | num (literal : String) : IsNormal (.num literal)
  | str (value : String) : IsNormal (.str value)
  | arr {items : List Json} (h : ∀ item ∈ items, IsNormal item) : IsNormal (.arr items)
  | obj {d : Dict Json} (h : ∀ key value, d.get? key = some value → IsNormal value) :
    IsNormal (.obj d.entries)

/-- All values of the dictionary are normal. -/
def Dict.IsNormal (d : Dict Json) : Prop :=
  ∀ key value, d.get? key = some value → value.IsNormal

/-! ### Dictionaries -/

namespace Dict.IsNormal

variable {d : Dict Json} {key : String} {value : Json}

theorem empty : IsNormal Dict.empty :=
  nofun

theorem insert (hd : d.IsNormal) (hvalue : value.IsNormal) : (d.insert key value).IsNormal := by
  intro q other hget
  rw [get?_insert] at hget
  split at hget
  · rwa [← Option.some.inj hget]
  · exact hd q other hget

theorem insert? {value : Option Json} (hd : d.IsNormal)
    (hvalue : ∀ v, value = some v → v.IsNormal) : (d.insert? key value).IsNormal := by
  cases value with
  | none => exact hd
  | some value => exact hd.insert (hvalue value rfl)

theorem ofList {entries : List (String × Json)} (h : ∀ e ∈ entries, e.2.IsNormal) :
    (Dict.ofList entries).IsNormal := by
  intro key value hget
  rw [get?_ofList] at hget
  obtain ⟨before, after, hentries, -⟩ := List.lookup_eq_some_iff.1 hget
  exact h (key, value) (List.mem_reverse.1 (by simp [hentries]))

/-- A dictionary of strings is normal. -/
theorem map_str (d : Dict String) : (d.map Json.str).IsNormal := by
  intro key value hget
  rw [get?_map] at hget
  obtain ⟨text, -, rfl⟩ := Option.map_eq_some_iff.1 hget
  exact .str text

end Dict.IsNormal

namespace Json

variable {items : List Json} {members : List (String × Json)} {d : Dict Json}

theorem isNormal_arr_iff : (Json.arr items).IsNormal ↔ ∀ item ∈ items, item.IsNormal := by
  refine ⟨fun h ↦ ?_, .arr⟩
  cases h with
  | arr h => exact h

/-- The members of a normal object make a dictionary. -/
theorem IsNormal.exists_dict (h : (Json.obj members).IsNormal) :
    ∃ d : Dict Json, members = d.entries ∧ d.IsNormal := by
  cases h with
  | obj h => exact ⟨_, rfl, h⟩

theorem isNormal_obj_iff : (Json.obj d.entries).IsNormal ↔ d.IsNormal := by
  refine ⟨fun h ↦ ?_, .obj⟩
  obtain ⟨d', hentries, hd'⟩ := h.exists_dict
  intro key value hget
  refine hd' key value ?_
  rwa [Dict.get?, ← hentries]

/-- The members of a normal value are normal, as far as it has any. -/
theorem IsNormal.of_mem_members? {value : Json} (h : value.IsNormal) :
    ∀ m ∈ value.members?.getD [], m.2.IsNormal := by
  cases value with
  | obj members =>
    obtain ⟨d, rfl, hd⟩ := h.exists_dict
    exact fun m hm ↦ hd m.1 m.2 (Dict.get?_of_mem hm)
  | _ => nofun

/-! ### Documents -/

namespace Document

mutual

/-- **The value of a document is normal.** -/
theorem isNormal_value : (document : Document) → document.value.IsNormal
  | .null => .null
  | .bool value => .bool value
  | .num literal => .num literal
  | .str content => .str (content.getD "")
  | .arr items _ => .arr (isNormal_values items)
  | .obj members _ => by
    obtain ⟨d, hd, hnormal⟩ := exists_memberValues_eq members .empty
    rw [value, show memberValues [] members = d.entries from hd]
    exact .obj hnormal
  | .broken => .null

theorem isNormal_values : (items : List Document) → ∀ value ∈ values items, value.IsNormal
  | [] => nofun
  | item :: items => List.forall_mem_cons.2 ⟨isNormal_value item, isNormal_values items⟩

/-- Members are added to those of a normal object. -/
theorem exists_memberValues_eq : (members : List (Option String × Document)) → {done : Dict Json} →
    done.IsNormal → ∃ d : Dict Json, memberValues done.entries members = d.entries ∧ d.IsNormal
  | [], done, hdone => ⟨done, rfl, hdone⟩
  | (key, item) :: members, done, hdone => by
    have hnext : (done.insert (key.getD "") item.value).IsNormal :=
      hdone.insert (isNormal_value item)
    exact exists_memberValues_eq members hnext

end

end Document

end Json

end PullCache
