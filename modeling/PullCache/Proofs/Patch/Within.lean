import Mathlib.Data.List.Nodup
import PullCache.Proofs.Patch.Difference

/-!
# Bounds on a difference

`Patch.Within P` says of a patch that each of its changes is one that `P` allows, and that no two of
them are made in one place. The difference of two values is bounded from the inside out: objects
member by member (`Json.within_diff_obj`) and arrays item by item (`Json.within_diff_arr`), where
what is allowed further in is what is allowed here one step further in. Changes to two members, or
to two items, part at the first token of their paths.
-/

namespace PullCache

/-- Each change is an allowed one, and no two are made in one place. -/
structure Patch.Within (P : PatchOp → Prop) (patch : Patch) : Prop where
  allowed : ∀ op ∈ patch, P op
  nodup : (patch.map PatchOp.path).Nodup

namespace Patch.Within

variable {P : PatchOp → Prop} {patch more : Patch}

theorem nil : Within P [] :=
  ⟨nofun, List.nodup_nil⟩

theorem singleton {op : PatchOp} (h : P op) : Within P [op] :=
  ⟨fun _ hop ↦ List.mem_singleton.1 hop ▸ h, List.nodup_singleton op.path⟩

/-- Changes in other places may follow. -/
theorem append (h : Within P patch) (hmore : Within P more)
    (hpaths : ∀ op ∈ patch, ∀ op' ∈ more, op.path ≠ op'.path) : Within P (patch ++ more) where
  allowed op hop := (List.mem_append.1 hop).elim (h.allowed op) (hmore.allowed op)
  nodup := by
    rw [List.map_append]
    refine List.nodup_append.2 ⟨h.nodup, hmore.nodup, ?_⟩
    simp only [List.forall_mem_map]
    exact hpaths

/-- The same changes one step further in. -/
theorem map_under {token : String} (h : Within (fun op ↦ P (op.under token)) patch) :
    Within P (patch.map (.under token)) where
  allowed := List.forall_mem_map.2 h.allowed
  nodup := by
    have hpaths : (patch.map (.under token)).map PatchOp.path =
        (patch.map PatchOp.path).map (token :: ·) := by
      rw [List.map_map, List.map_map]
      exact List.map_congr_left fun op _ ↦ op.path_under token
    rw [hpaths]
    exact h.nodup.map List.cons_injective

end Patch.Within

namespace Json

open Patch (Within)

variable {P : PatchOp → Prop}

theorem within_diff_str {old new : String} (h : old ≠ new → P (.replace [] (.str new))) :
    Within P (diff (.str old) (.str new)) := by
  by_cases hsame : old = new
  · rw [hsame, diff_self (.str new)]
    exact .nil
  · have hdiff : diff (.str old) (.str new) = [.replace [] (.str new)] :=
      if_neg fun heq ↦ hsame (Json.str.inj heq)
    rw [hdiff]
    exact .singleton (h hsame)

/-! ### Objects -/

/-- The changes to one member, which each of the two objects may have or lack, are allowed ones. -/
inductive MemberWithin (P : PatchOp → Prop) (key : String) : Option Json → Option Json → Prop
  | same {member : Option Json} (h : ∀ value, member = some value → value.IsNormal) :
    MemberWithin P key member member
  | added {new : Json} (h : P (.add [key] new)) : MemberWithin P key none (some new)
  | changed {old new : Json} (h : Within (fun op ↦ P (op.under key)) (diff old new)) :
    MemberWithin P key (some old) (some new)

/-- A member that both objects have alike. -/
theorem memberWithin_of_eq {old new : Dict Json} (hold : old.IsNormal) {key : String}
    (h : new.get? key = old.get? key) : MemberWithin P key (old.get? key) (new.get? key) := by
  rw [h]
  exact .same fun value hvalue ↦ hold key value hvalue

theorem MemberWithin.isSome {key : String} {old : Json} {new : Option Json}
    (h : MemberWithin P key (some old) new) : new.isSome := by
  cases h <;> rfl

theorem MemberWithin.within {key : String} {old : Option Json} {new : Json}
    (h : MemberWithin P key old (some new)) : Within P (memberChanges old key new) := by
  cases h with
  | same h =>
    rw [memberChanges, diff_self (h new rfl)]
    exact .nil
  | added h => exact .singleton h
  | changed h => exact h.map_under

/-- The changes to some members are made at different names. -/
theorem within_diffMembers {old : Dict Json} {news : List (String × Json)}
    (hsorted : news.Pairwise fun a b ↦ a.1 < b.1)
    (h : ∀ m ∈ news, MemberWithin P m.1 (old.get? m.1) (some m.2)) :
    Within P (diffMembers old.entries news) := by
  induction news with
  | nil => exact .nil
  | cons m news ih =>
    obtain ⟨hfirst, hsorted⟩ := List.pairwise_cons.1 hsorted
    obtain ⟨hm, h⟩ := List.forall_mem_cons.1 h
    rw [diffMembers_cons]
    refine hm.within.append (ih hsorted h) fun op hop op' hop' hpath ↦ ?_
    obtain ⟨rest, hrest⟩ := exists_path_of_mem_memberChanges hop
    obtain ⟨m', hm', rest', hrest'⟩ := exists_path_of_mem_diffMembers hop'
    have hkey : m.1 = m'.1 := by
      rw [hrest, hrest'] at hpath
      exact (List.cons.inj hpath).1
    exact String.lt_irrefl m.1 (hkey ▸ hfirst m' hm')

/-- **Objects are bounded member by member.** -/
theorem within_diff_obj {old new : Dict Json}
    (h : ∀ key, MemberWithin P key (old.get? key) (new.get? key)) :
    Within P (diff (.obj old.entries) (.obj new.entries)) := by
  have hkept : ∀ key o, old.get? key = some o → (new.get? key).isSome := by
    intro key o ho
    have hkey := h key
    rw [ho] at hkey
    exact hkey.isSome
  rw [diff, removeLost_eq_nil hkept, List.append_nil]
  refine within_diffMembers new.sorted fun m hm ↦ ?_
  have hkey := h m.1
  rwa [Dict.get?_of_mem hm] at hkey

/-- **A record is bounded by two of its members**, when the others stay what they are. -/
theorem within_diff_record {old new : Dict Json} (hold : old.IsNormal) {key₁ key₂ : String}
    (h₁ : MemberWithin P key₁ (old.get? key₁) (new.get? key₁))
    (h₂ : MemberWithin P key₂ (old.get? key₂) (new.get? key₂))
    (hother : ∀ key, key ≠ key₁ → key ≠ key₂ → new.get? key = old.get? key) :
    Within P (diff (.obj old.entries) (.obj new.entries)) := by
  refine within_diff_obj fun key ↦ ?_
  by_cases hkey₁ : key = key₁
  · rw [hkey₁]
    exact h₁
  · by_cases hkey₂ : key = key₂
    · rw [hkey₂]
      exact h₂
    · exact memberWithin_of_eq hold (hother key hkey₁ hkey₂)

/-! ### Arrays -/

theorem within_diffItems {α : Type} {old new : α → Json} {l : List α} {i : ℕ}
    (h : ∀ j a, l[j]? = some a →
      Within (fun op ↦ P (op.under (toString (i + j)))) (diff (old a) (new a))) :
    Within P (diffItems i (l.map old) (l.map new)) := by
  induction l generalizing i with
  | nil => exact .nil
  | cons a l ih =>
    have hrest : Within P (diffItems (i + 1) (l.map old) (l.map new)) := by
      refine ih fun j a ha ↦ ?_
      have hj : i + (j + 1) = i + 1 + j := by omega
      exact hj ▸ h (j + 1) a ha
    rw [List.map_cons, List.map_cons, diffItems]
    refine (h 0 a rfl).map_under.append hrest fun op hop op' hop' hpath ↦ ?_
    obtain ⟨inner, -, rfl⟩ := List.mem_map.1 hop
    obtain ⟨j, rest, hj, hrest'⟩ := exists_path_of_mem_diffItems hop'
    rw [PatchOp.path_under, hrest'] at hpath
    have hij : i + 0 = j := PatchOp.eq_of_toString_eq (List.cons.inj hpath).1
    omega

/-- **Arrays of one length are bounded item by item.** -/
theorem within_diff_arr {α : Type} {old new : α → Json} {l : List α}
    (h : ∀ (i : ℕ) a, l[i]? = some a →
      Within (fun op ↦ P (op.under (toString i))) (diff (old a) (new a))) :
    Within P (diff (.arr (l.map old)) (.arr (l.map new))) := by
  refine within_diffItems fun i a ha ↦ ?_
  rw [Nat.zero_add]
  exact h i a ha

end Json

end PullCache
