import Mathlib.Data.List.Basic
import PullCache.Patch.Basic
import PullCache.Text.Cut

/-!
# Patches read back

A patch is sent as a list of objects, with each path written as a JSON pointer. Here is the reader
of the other side, as RFC 6901 and RFC 6902 describe it: the pointer is cut at its slashes, and
`~1` and `~0` inside a token stand for a slash and a tilde. It reads back the patch that was written
(`Patch.ofJson?_map_toJson`), whatever names the members have.
-/

namespace PullCache

/-- What is written item by item is read item by item. -/
theorem mapM_map_eq_some {α β : Type} {read : β → Option α} {write : α → β}
    (h : ∀ item, read (write item) = some item) (items : List α) :
    (items.map write).mapM read = some items := by
  induction items with
  | nil => rfl
  | cons item items ih => simp [List.map_cons, List.mapM_cons, h, ih]

namespace PatchOp

/-! ### Tokens -/

/-- A token as it stands in a pointer. -/
def escaped (token : List Char) : List Char :=
  token.flatMap fun c ↦ if c = '~' then ['~', '0'] else if c = '/' then ['~', '1'] else [c]

/-- The token that is written so; after a tilde only two digits may follow. -/
def unescaped? : List Char → Option (List Char)
  | [] => some []
  | c :: rest =>
    if c = '~' then
      match rest with
      | '0' :: rest => (unescaped? rest).map ('~' :: ·)
      | '1' :: rest => (unescaped? rest).map ('/' :: ·)
      | _ => none
    else (unescaped? rest).map (c :: ·)

theorem escaped_cons (c : Char) (token : List Char) : escaped (c :: token) =
    (if c = '~' then ['~', '0'] else if c = '/' then ['~', '1'] else [c]) ++ escaped token :=
  List.flatMap_cons

theorem unescaped?_cons_of_ne {c : Char} (h : c ≠ '~') (rest : List Char) :
    unescaped? (c :: rest) = (unescaped? rest).map (c :: ·) := by
  rw [unescaped?.eq_def (c :: rest)]
  exact if_neg h

theorem unescaped?_escaped (token : List Char) : unescaped? (escaped token) = some token := by
  induction token with
  | nil => rfl
  | cons c token ih =>
    rw [escaped_cons]
    by_cases htilde : c = '~'
    · simp [unescaped?, htilde, ih]
    · by_cases hslash : c = '/'
      · simp [unescaped?, hslash, ih]
      · rw [if_neg htilde, if_neg hslash, List.singleton_append, unescaped?_cons_of_ne htilde, ih]
        rfl

/-- A token has no slash in a pointer. -/
theorem notMem_escaped (token : List Char) : '/' ∉ escaped token := by
  rw [escaped, List.mem_flatMap]
  rintro ⟨c, -, hc⟩
  split at hc
  · simp at hc
  · split at hc
    · simp at hc
    · next hslash => exact hslash (List.mem_singleton.1 hc).symm

/-! ### Pointers -/

/-- The path that a pointer is. -/
def pathOf? (pointer : String) : Option JsonPath :=
  match pointer.toList with
  | [] => some []
  | '/' :: tokens =>
    (Text.components '/' tokens).mapM fun token ↦ (unescaped? token).map String.ofList
  | _ => none

theorem toList_pointer (path : JsonPath) :
    (pointer path).toList = path.flatMap fun token ↦ '/' :: escaped token.toList := by
  rw [pointer, String.toList_join, List.flatMap_map]
  refine List.flatMap_congr fun token _ ↦ ?_
  simp [escaped]

/-- The tokens of a pointer are what stands between its slashes. -/
theorem components_pointer (first : String) (path : JsonPath) :
    Text.components '/' (escaped first.toList ++ path.flatMap fun token ↦
        '/' :: escaped token.toList) =
      (first :: path).map fun token ↦ escaped token.toList := by
  induction path generalizing first with
  | nil =>
    rw [List.flatMap_nil, List.append_nil, List.map_singleton]
    exact Text.components_of_notMem (notMem_escaped first.toList)
  | cons second path ih =>
    rw [List.flatMap_cons, List.cons_append, Text.components_append (notMem_escaped _), ih]
    rfl

/-- **A pointer is read as the path it was written for.** -/
theorem pathOf?_pointer (path : JsonPath) : pathOf? (pointer path) = some path := by
  rw [pathOf?, toList_pointer]
  cases path with
  | nil => rfl
  | cons first path =>
    rw [List.flatMap_cons, List.cons_append]
    show (Text.components '/' _).mapM _ = _
    rw [components_pointer]
    refine mapM_map_eq_some (fun token ↦ ?_) (first :: path)
    rw [unescaped?_escaped, Option.map_some, String.ofList_toList]

/-! ### Changes -/

/-- Reads a change off a value. -/
def ofJson? (value : Json) : Option PatchOp := do
  let op ← (value.get? "op").bind Json.text?
  let path ← ((value.get? "path").bind Json.text?).bind pathOf?
  match op with
  | "add" => (value.get? "value").map (add path)
  | "remove" => some (remove path)
  | "replace" => (value.get? "value").map (replace path)
  | _ => none

theorem ofJson?_toJson (op : PatchOp) : ofJson? op.toJson = some op := by
  cases op <;> simp [ofJson?, toJson, Json.get?, Json.text?, pathOf?_pointer, List.lookup_cons]

end PatchOp

namespace Patch

/-- Reads a patch off a value. -/
def ofJson? : Json → Option Patch
  | .arr ops => ops.mapM PatchOp.ofJson?
  | _ => none

/-- **A patch is read as it was written.** -/
theorem ofJson?_map_toJson (patch : Patch) :
    ofJson? (.arr (patch.map PatchOp.toJson)) = some patch :=
  mapM_map_eq_some PatchOp.ofJson?_toJson patch

end Patch

end PullCache
