/-!
# Dictionaries

A dictionary keeps its entries in the order of their keys, code point by code point, with no key
twice. The order is a field of the type, so a dictionary is determined by what its keys look up to
(`Dict.ext_get?`), whatever the order of the insertions.
-/

namespace PullCache

/-- Entries in strictly increasing order of their keys. -/
structure Dict (α : Type) where
  /-- The entries, by increasing key. -/
  entries : List (String × α)
  /-- Each key is below the keys that follow it. -/
  sorted : entries.Pairwise fun a b ↦ a.1 < b.1 := by simp
deriving DecidableEq, Repr

namespace Dict

variable {α : Type}

/-! ### Entries in order -/

/-- Puts an entry in its place, over one with the same key. -/
def insertEntry (key : String) (value : α) : List (String × α) → List (String × α)
  | [] => [(key, value)]
  | (k, v) :: rest =>
    if k = key then (key, value) :: rest
    else if key < k then (key, value) :: (k, v) :: rest
    else (k, v) :: insertEntry key value rest

theorem mem_insertEntry {key : String} {value : α} {entries : List (String × α)}
    {e : String × α} (h : e ∈ insertEntry key value entries) : e = (key, value) ∨ e ∈ entries := by
  induction entries with
  | nil => simpa [insertEntry] using h
  | cons head rest ih =>
    obtain ⟨k, v⟩ := head
    unfold insertEntry at h
    split at h
    · rcases List.mem_cons.1 h with h | h
      · exact .inl h
      · exact .inr (List.mem_cons_of_mem _ h)
    · split at h
      · rcases List.mem_cons.1 h with h | h
        · exact .inl h
        · exact .inr h
      · rcases List.mem_cons.1 h with h | h
        · exact .inr (h ▸ List.mem_cons_self)
        · rcases ih h with h | h
          · exact .inl h
          · exact .inr (List.mem_cons_of_mem _ h)

theorem pairwise_insertEntry (key : String) (value : α) {entries : List (String × α)}
    (h : entries.Pairwise fun a b ↦ a.1 < b.1) :
    (insertEntry key value entries).Pairwise fun a b ↦ a.1 < b.1 := by
  induction entries with
  | nil => simp [insertEntry]
  | cons head rest ih =>
    obtain ⟨k, v⟩ := head
    obtain ⟨hhead, hrest⟩ := List.pairwise_cons.1 h
    unfold insertEntry
    split
    · next heq =>
      subst heq
      exact List.pairwise_cons.2 ⟨hhead, hrest⟩
    · split
      · next hlt =>
        refine List.pairwise_cons.2 ⟨fun e he ↦ ?_, h⟩
        rcases List.mem_cons.1 he with rfl | he
        · exact hlt
        · exact String.lt_trans hlt (hhead e he)
      · next hne hlt =>
        refine List.pairwise_cons.2 ⟨fun e he ↦ ?_, ih hrest⟩
        rcases mem_insertEntry he with rfl | he
        · have hle : k ≤ key := Std.not_lt.1 hlt
          exact Std.lt_of_le_of_ne hle hne
        · exact hhead e he

/-! ### Operations -/

/-- The dictionary without entries. -/
def empty : Dict α := ⟨[], List.Pairwise.nil⟩

instance : EmptyCollection (Dict α) := ⟨empty⟩

instance : Inhabited (Dict α) := ⟨empty⟩

/-- The value of a key. -/
def get? (d : Dict α) (key : String) : Option α :=
  d.entries.lookup key

/-- Sets the value of a key. -/
def insert (d : Dict α) (key : String) (value : α) : Dict α :=
  ⟨insertEntry key value d.entries, pairwise_insertEntry key value d.sorted⟩

/-- Sets the value of a key, if there is one to set. -/
def insert? (d : Dict α) (key : String) : Option α → Dict α
  | some value => d.insert key value
  | none => d

/-- The dictionary with a function applied to each value. -/
def map {β : Type} (f : α → β) (d : Dict α) : Dict β :=
  ⟨d.entries.map fun e ↦ (e.1, f e.2), d.sorted.map _ fun _ _ h ↦ h⟩

/-- The dictionary of a list of entries; of several with one key the last counts. -/
def ofList (entries : List (String × α)) : Dict α :=
  entries.foldl (fun d e ↦ d.insert e.1 e.2) empty

/-! ### Looking up -/

theorem lookup_insertEntry (key : String) (value : α) (entries : List (String × α)) (q : String)
    (h : entries.Pairwise fun a b ↦ a.1 < b.1) :
    (insertEntry key value entries).lookup q =
      if q = key then some value else entries.lookup q := by
  induction entries with
  | nil =>
    simp only [insertEntry, List.lookup_cons, List.lookup_nil]
    by_cases hq : q = key
    · simp [hq]
    · simp [hq, beq_eq_false_iff_ne.2 hq]
  | cons head rest ih =>
    obtain ⟨k, v⟩ := head
    obtain ⟨hhead, hrest⟩ := List.pairwise_cons.1 h
    unfold insertEntry
    by_cases hk : k = key
    · subst hk
      simp only [↓reduceIte, List.lookup_cons]
      by_cases hq : q = k
      · simp [hq]
      · simp [hq, beq_eq_false_iff_ne.2 hq]
    · by_cases hlt : key < k
      · simp only [hk, hlt, ↓reduceIte, List.lookup_cons]
        by_cases hq : q = key
        · simp [hq]
        · simp [hq, beq_eq_false_iff_ne.2 hq]
      · simp only [hk, hlt, ↓reduceIte, List.lookup_cons, ih hrest]
        by_cases hq : q = k
        · simp [hq, hk]
        · simp [beq_eq_false_iff_ne.2 hq]

@[simp] theorem get?_empty (q : String) : (empty : Dict α).get? q = none := rfl

@[simp] theorem get?_insert (d : Dict α) (key : String) (value : α) (q : String) :
    (d.insert key value).get? q = if q = key then some value else d.get? q :=
  lookup_insertEntry key value d.entries q d.sorted

/-- Entries that are kept by their keys. -/
theorem lookup_filter (keep : String → Bool) (entries : List (String × α)) (q : String) :
    (entries.filter fun e ↦ keep e.1).lookup q = if keep q then entries.lookup q else none := by
  induction entries with
  | nil => simp
  | cons head rest ih =>
    obtain ⟨k, v⟩ := head
    rw [List.filter_cons, List.lookup_cons]
    by_cases hq : q = k
    · subst hq
      by_cases hkeep : keep q = true <;> simp [hkeep, ih]
    · by_cases hkeep : keep k = true <;>
        simp [hkeep, ih, List.lookup_cons, beq_eq_false_iff_ne.2 hq]

/-- Entries that are kept by their keys, where the last of a key counts. -/
theorem lookup_reverse_filter (keep : String → Bool) (entries : List (String × α)) (q : String) :
    (entries.filter fun e ↦ keep e.1).reverse.lookup q =
      if keep q then entries.reverse.lookup q else none := by
  rw [← List.filter_reverse, lookup_filter]

theorem get?_insert? (d : Dict α) (key : String) (value : Option α) (q : String) :
    (d.insert? key value).get? q = if q = key then value.or (d.get? q) else d.get? q := by
  cases value with
  | none => simp [insert?]
  | some value => simp [insert?]

@[simp] theorem get?_map {β : Type} (f : α → β) (d : Dict α) (q : String) :
    (d.map f).get? q = (d.get? q).map f := by
  show (d.entries.map fun e ↦ (e.1, f e.2)).lookup q = (d.entries.lookup q).map f
  induction d.entries with
  | nil => rfl
  | cons head rest ih =>
    rw [List.map_cons, List.lookup_cons, List.lookup_cons, ih]
    cases q == head.1 <;> rfl

/-- Of several entries with one key the last counts. -/
theorem get?_ofList (entries : List (String × α)) (q : String) :
    (ofList entries).get? q = entries.reverse.lookup q := by
  have h : ∀ d : Dict α, (entries.foldl (fun d e ↦ d.insert e.1 e.2) d).get? q =
      (entries.reverse.lookup q).or (d.get? q) := by
    induction entries with
    | nil => intro d; rfl
    | cons e entries ih =>
      intro d
      rw [List.foldl_cons, ih, get?_insert, List.reverse_cons, List.lookup_append, Option.or_assoc,
        List.lookup_cons, List.lookup_nil]
      by_cases hq : q = e.1
      · simp [hq]
      · simp [hq, beq_eq_false_iff_ne.2 hq]
  rw [ofList, h, get?_empty, Option.or_none]

/-! ### A dictionary is what it looks up to -/

theorem lookup_eq_some_iff {entries : List (String × α)}
    (h : entries.Pairwise fun a b ↦ a.1 < b.1) {key : String} {value : α} :
    entries.lookup key = some value ↔ (key, value) ∈ entries := by
  induction entries with
  | nil => simp
  | cons head rest ih =>
    obtain ⟨k, v⟩ := head
    obtain ⟨hhead, hrest⟩ := List.pairwise_cons.1 h
    rw [List.lookup_cons]
    by_cases hk : key = k
    · subst hk
      simp only [beq_self_eq_true, List.mem_cons, Prod.mk.injEq, true_and, Option.some.injEq]
      constructor
      · rintro rfl
        exact .inl rfl
      · rintro (rfl | hmem)
        · rfl
        · exact absurd (hhead _ hmem) (String.lt_irrefl key)
    · simp only [beq_eq_false_iff_ne.2 hk, List.mem_cons, Prod.mk.injEq, hk, false_and, false_or]
      exact ih hrest

theorem get?_of_mem {d : Dict α} {e : String × α} (h : e ∈ d.entries) : d.get? e.1 = some e.2 :=
  (lookup_eq_some_iff d.sorted).2 h

theorem get?_eq_none_of_notMem {d : Dict α} {key : String} (h : key ∉ d.entries.map Prod.fst) :
    d.get? key = none := by
  refine List.lookup_eq_none_iff.2 fun e he ↦ ?_
  simp only [bne_iff_ne, ne_eq]
  rintro rfl
  exact h (List.mem_map_of_mem he)

/-- **Two dictionaries that look up alike are one.** -/
theorem ext_get? {a b : Dict α} (h : ∀ key, a.get? key = b.get? key) : a = b := by
  obtain ⟨as, ha⟩ := a
  obtain ⟨bs, hb⟩ := b
  have hmem : ∀ e, e ∈ as ↔ e ∈ bs := fun e ↦ by
    rw [← lookup_eq_some_iff ha, ← lookup_eq_some_iff hb]
    exact iff_of_eq (congrArg (· = some e.2) (h e.1))
  have hnd : ∀ {l : List (String × α)}, (l.Pairwise fun a b ↦ a.1 < b.1) → l.Nodup := by
    intro l hl
    refine List.Pairwise.imp ?_ hl
    rintro x y hxy rfl
    exact String.lt_irrefl x.1 hxy
  have hperm : as.Perm bs := (List.perm_ext_iff_of_nodup (hnd ha) (hnd hb)).2 hmem
  have heq : as = bs := hperm.eq_of_pairwise
    (fun x y _ _ hxy hyx ↦ absurd (String.lt_trans hxy hyx) (String.lt_irrefl x.1)) ha hb
  subst heq
  rfl

/-- With no key twice, it does not matter from which end a key is looked for. -/
theorem lookup_reverse_entries (d : Dict α) (key : String) :
    d.entries.reverse.lookup key = d.get? key := by
  obtain ⟨entries, hsorted⟩ := d
  show entries.reverse.lookup key = entries.lookup key
  induction entries with
  | nil => rfl
  | cons head rest ih =>
    obtain ⟨k, v⟩ := head
    obtain ⟨hhead, hrest⟩ := List.pairwise_cons.1 hsorted
    rw [List.reverse_cons, List.lookup_append, ih hrest, List.lookup_cons, List.lookup_cons]
    by_cases hk : key = k
    · have hnone : rest.lookup key = none := by
        rw [Option.eq_none_iff_forall_ne_some]
        intro value hvalue
        have hlt := hhead _ ((lookup_eq_some_iff hrest).1 hvalue)
        rw [hk] at hlt
        exact String.lt_irrefl k hlt
      rw [hnone, hk]
      simp
    · simp [beq_eq_false_iff_ne.2 hk]

/-- The entries of a dictionary make it up. -/
@[simp] theorem ofList_entries (d : Dict α) : ofList d.entries = d :=
  ext_get? fun key ↦ (get?_ofList d.entries key).trans (d.lookup_reverse_entries key)

/-- Setting the value that a key has changes nothing. -/
theorem insert_eq_self {d : Dict α} {key : String} {value : α} (h : d.get? key = some value) :
    d.insert key value = d := by
  refine ext_get? fun q ↦ ?_
  rw [get?_insert]
  by_cases hq : q = key
  · rw [if_pos hq, hq, h]
  · rw [if_neg hq]

/-- Of two values that are set for one key the last counts. -/
@[simp] theorem insert_insert (d : Dict α) (key : String) (value value' : α) :
    (d.insert key value).insert key value' = d.insert key value' := by
  refine ext_get? fun q ↦ ?_
  rw [get?_insert, get?_insert, get?_insert]
  by_cases hq : q = key
  · rw [if_pos hq, if_pos hq]
  · rw [if_neg hq, if_neg hq, if_neg hq]

/-- Values that are set for two keys can be set in either order. -/
theorem insert_comm (d : Dict α) {key key' : String} (h : key ≠ key') (value value' : α) :
    (d.insert key value).insert key' value' = (d.insert key' value').insert key value := by
  refine ext_get? fun q ↦ ?_
  rw [get?_insert, get?_insert, get?_insert, get?_insert]
  by_cases hq : q = key
  · rw [hq, if_neg h, if_pos rfl, if_pos rfl]
  · rw [if_neg hq, if_neg hq]

end Dict

end PullCache
