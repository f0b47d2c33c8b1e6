import Mathlib.Data.List.Forall2
import PullCache.Proofs.Redirect.Effect

/-!
# A redirected pod, described

`RedirectConfig.redirectPod` takes the metadata from container to container. Here its outcome is
said without a run: `RedirectConfig.IsRedirection` tells, for two pods, what becomes of each
container by itself, of each label and of each annotation, and that everything else stays.
`redirectPod_eq_iff` says that the description has one solution, and that this is the redirected
pod.

Containers may share an annotation. The description then names the last eligible one in the order in
which they are looked at, so it needs no condition on the pod.
-/

namespace PullCache

namespace Pod

/-- All containers with their kind, in the order in which they are looked at. -/
def containersInOrder (p : Pod) : List (ContainerKind × Container) :=
  (p.containersOf .init).map (Prod.mk .init) ++ (p.containersOf .regular).map (Prod.mk .regular)

/-- Whether a pod says of itself, in its own annotation, what its label says. -/
def IsMarked (p : Pod) : Prop :=
  p.metadata.annotation? Marks.redirectedKey =
    some (if p.metadata.label? Marks.managedKey = some "true" then "true" else "false")

/-- The second pod is the first with its own annotation brought up to date. -/
structure IsRefresh (p q : Pod) : Prop where
  annotations : ∀ key ≠ Marks.redirectedKey,
    q.metadata.annotation? key = p.metadata.annotation? key
  marked : q.IsMarked
  frame : q = { p with metadata := { p.metadata with annotations := q.metadata.annotations } }

/-- Bringing the annotation up to date marks a pod. -/
theorem isMarked_finalize (p : Pod) (m : Metadata) :
    IsMarked { p with metadata := Marks.finalize m } := by
  show (m.setAnnotation _ _).annotation? _ = some (if m.label? _ = _ then _ else _)
  rw [Metadata.annotation?_setAnnotation, if_pos rfl]
  by_cases h : m.label? Marks.managedKey = some "true" <;> simp [Marks.isManaged, h]

variable {p q q' : Pod}

/-- Two marked pods have the same annotations when these look up alike. -/
theorem annotations_eq (hq : q.IsMarked) (hq' : q'.IsMarked)
    (h : ∀ key, q.metadata.annotation? key = q'.metadata.annotation? key) :
    q.metadata.annotations = q'.metadata.annotations := by
  obtain ⟨d, hd, -⟩ := Option.bind_eq_some_iff.1 hq
  obtain ⟨d', hd', -⟩ := Option.bind_eq_some_iff.1 hq'
  rw [hd, hd', Option.some.injEq]
  refine Dict.ext_get? fun key ↦ ?_
  have hkey := h key
  rwa [Metadata.annotation?, hd, Metadata.annotation?, hd'] at hkey

/-- What a pod is refreshed to is determined. -/
theorem IsRefresh.unique (h : p.IsRefresh q) (h' : p.IsRefresh q') : q = q' := by
  have hlabels : q.metadata.labels = q'.metadata.labels := by rw [h.frame, h'.frame]
  have hannotations : q.metadata.annotations = q'.metadata.annotations := by
    refine annotations_eq h.marked h'.marked fun key ↦ ?_
    by_cases hkey : key = Marks.redirectedKey
    · rw [hkey, h.marked, h'.marked, Metadata.label?, Metadata.label?, hlabels]
    · rw [h.annotations key hkey, h'.annotations key hkey]
  rw [h.frame, h'.frame, hannotations]

end Pod

namespace RedirectConfig

/-- What becomes of one container: it gets the redirected reference for its image if that passes the
check, and stays as it is otherwise. -/
structure SendsTo (config : RedirectConfig) (c d : Container) : Prop where
  eligible : ∀ r, config.eligible? c = some r →
    d = { c with image := some (r.redirect config.proxyPort).text }
  other : config.eligible? c = none → d = c

/-- The second pod is the first after its eligible containers have been redirected. -/
structure IsRedirection (config : RedirectConfig) (p q : Pod) : Prop where
  /-- Each list keeps its length and its order. -/
  containers : ∀ kind, List.Forall₂ config.SendsTo (p.containersOf kind) (q.containersOf kind)
  /-- An annotation records the origin of the last eligible container that it belongs to. -/
  recorded : ∀ before kind c after r, p.containersInOrder = before ++ (kind, c) :: after →
    config.eligible? c = some r →
    (∀ e ∈ after, Marks.containerKey e.2.name e.1 = Marks.containerKey c.name kind →
      config.eligible? e.2 = none) →
    q.metadata.annotation? (Marks.containerKey c.name kind) = some r.source.text
  /-- An annotation that belongs to no eligible container stays, but for the pod's own. -/
  unrecorded : ∀ key ≠ Marks.redirectedKey,
    (∀ e ∈ p.containersInOrder, Marks.containerKey e.2.name e.1 = key →
      config.eligible? e.2 = none) →
    q.metadata.annotation? key = p.metadata.annotation? key
  /-- The label is set exactly when a container was eligible, and no other label changes. -/
  labels : q.metadata.labels =
    if ∃ e ∈ p.containersInOrder, (config.eligible? e.2).isSome then
      some ((p.metadata.labels.getD .empty).insert Marks.managedKey "true")
    else p.metadata.labels
  marked : q.IsMarked
  /-- Outside the specification, labels and annotations stay what they are. -/
  frame : q = { p with
    metadata := { p.metadata with
      labels := q.metadata.labels
      annotations := q.metadata.annotations }
    spec := q.spec }
  /-- In the specification, all but the two lists stays, and a missing list stays missing. -/
  specFrame : q.spec.map (fun s ↦ (s.others, s.initContainers.isSome)) =
    p.spec.map fun s ↦ (s.others, s.initContainers.isSome)

variable {config : RedirectConfig} {p q q' : Pod} {c d d' : Container} {key : String}

/-! ### The redirected pod meets the description -/

theorem sendsTo_redirected (config : RedirectConfig) (c : Container) :
    config.SendsTo c (config.redirected c) where
  eligible r hr := by rw [redirected, hr]
  other h := by rw [redirected, h]

/-- The records are those of the containers one by one. -/
theorem records_eq_filterMap (config : RedirectConfig) (p : Pod) :
    config.records p = p.containersInOrder.filterMap fun e ↦ (config.eligible? e.2).map fun r ↦
      (Marks.containerKey e.2.name e.1, r.source.text) := by
  simp only [records, recordsOf, Pod.containersInOrder, List.filterMap_append,
    List.filterMap_map, Function.comp_def]

theorem records_ne_nil_iff : config.records p ≠ [] ↔
    ∃ e ∈ p.containersInOrder, (config.eligible? e.2).isSome := by
  rw [records_eq_filterMap, ne_eq, List.filterMap_eq_nil_iff]
  simp [Option.isSome_iff_ne_none]

/-- A key is on record only for an eligible container that it belongs to. -/
theorem notMem_keys_of_forall {entries : List (ContainerKind × Container)}
    (h : ∀ e ∈ entries, Marks.containerKey e.2.name e.1 = key → config.eligible? e.2 = none) :
    key ∉ (entries.filterMap fun e ↦ (config.eligible? e.2).map fun r ↦
      (Marks.containerKey e.2.name e.1, r.source.text)).map Prod.fst := by
  rintro hmem
  obtain ⟨record, hrecord, rfl⟩ := List.mem_map.1 hmem
  obtain ⟨e, he, hsome⟩ := List.mem_filterMap.1 hrecord
  obtain ⟨r, hr, rfl⟩ := Option.map_eq_some_iff.1 hsome
  rw [h e he rfl] at hr
  cases hr

theorem isRedirection_redirectPod (config : RedirectConfig) (p : Pod) :
    config.IsRedirection p (config.redirectPod true p).1 := by
  rw [redirectPod_true]
  refine ⟨fun kind ↦ ?_, fun before kind c after r horder hr hafter ↦ ?_, fun key hkey h ↦ ?_,
    ?_, Pod.isMarked_finalize _ _, ?_, ?_⟩
  · show List.Forall₂ _ _ ((p.mapContainers config.redirected).containersOf kind)
    rw [Pod.containersOf_mapContainers, List.forall₂_map_right_iff, List.forall₂_same]
    exact fun c _ ↦ config.sendsTo_redirected c
  · rw [Marks.annotation?_finalize_of_ne (Marks.containerKey_ne_redirectedKey c.name kind),
      records_eq_filterMap, horder, List.filterMap_append, List.filterMap_cons, hr,
      Marks.recordAll_append]
    show (Marks.recordAll _ (_ :: _)).annotation? _ = _
    -- no container behind this one writes to its annotation
    rw [Marks.recordAll_cons, Marks.annotation?_recordAll_of_notMem (notMem_keys_of_forall hafter),
      Metadata.annotation?_setLabel, Metadata.annotation?_setAnnotation, if_pos rfl]
  · rw [Marks.annotation?_finalize_of_ne hkey, records_eq_filterMap,
      Marks.annotation?_recordAll_of_notMem (notMem_keys_of_forall h)]
  · show (Marks.recordAll p.metadata (config.records p)).labels = _
    simp only [Marks.labels_recordAll, records_ne_nil_iff]
  · conv_lhs => rw [Marks.finalize, Marks.recordAll_frame]
    rfl
  · rcases p with ⟨m, - | ⟨- | initContainers, containers, others⟩, rest⟩ <;> rfl

theorem isRefresh_redirectPod (config : RedirectConfig) (p : Pod) :
    p.IsRefresh (config.redirectPod false p).1 :=
  ⟨fun _ hkey ↦ Marks.annotation?_finalize_of_ne hkey, Pod.isMarked_finalize p _, rfl⟩

/-! ### No other pod does -/

theorem SendsTo.unique (h : config.SendsTo c d) (h' : config.SendsTo c d') : d = d' := by
  rcases heligible : config.eligible? c with - | r
  · rw [h.other heligible, h'.other heligible]
  · rw [h.eligible r heligible, h'.eligible r heligible]

/-- The last member of a list with a property, if there is one. -/
theorem exists_last {α : Type} (property : α → Prop) (l : List α) :
    (∀ e ∈ l, ¬ property e) ∨
      ∃ before e after, l = before ++ e :: after ∧ property e ∧ ∀ e ∈ after, ¬ property e := by
  induction l with
  | nil => exact .inl fun e he ↦ by cases he
  | cons head l ih =>
    rcases ih with h | ⟨before, e, after, rfl, he, hafter⟩
    · by_cases hhead : property head
      · exact .inr ⟨[], head, l, rfl, hhead, h⟩
      · exact .inl (List.forall_mem_cons.2 ⟨hhead, h⟩)
    · exact .inr ⟨head :: before, e, after, rfl, he, hafter⟩

/-- The description says what each annotation is. -/
theorem IsRedirection.annotation?_eq (h : config.IsRedirection p q)
    (h' : config.IsRedirection p q') (key : String) :
    q.metadata.annotation? key = q'.metadata.annotation? key := by
  have hlabels : q.metadata.labels = q'.metadata.labels := h.labels.trans h'.labels.symm
  by_cases hkey : key = Marks.redirectedKey
  · rw [hkey, h.marked, h'.marked, Metadata.label?, Metadata.label?, hlabels]
  · rcases exists_last (fun e : ContainerKind × Container ↦
        Marks.containerKey e.2.name e.1 = key ∧ config.eligible? e.2 ≠ none)
        p.containersInOrder with hnone | ⟨before, ⟨kind, c⟩, after, horder, ⟨rfl, hc⟩, hafter⟩
    · have hother : ∀ e ∈ p.containersInOrder, Marks.containerKey e.2.name e.1 = key →
          config.eligible? e.2 = none :=
        fun e he hekey ↦ by_contra fun hne ↦ hnone e he ⟨hekey, hne⟩
      rw [h.unrecorded key hkey hother, h'.unrecorded key hkey hother]
    · obtain ⟨r, hr⟩ := Option.ne_none_iff_exists'.1 hc
      have hlast : ∀ e ∈ after, Marks.containerKey e.2.name e.1 = Marks.containerKey c.name kind →
          config.eligible? e.2 = none :=
        fun e he hekey ↦ by_contra fun hne ↦ hafter e he ⟨hekey, hne⟩
      rw [h.recorded before kind c after r horder hr hlast,
        h'.recorded before kind c after r horder hr hlast]

/-- Two specifications with the same lists, the same list missing and the same rest are one. -/
theorem spec_eq (hcontainers : ∀ kind, q.containersOf kind = q'.containersOf kind)
    (hrest : q.spec.map (fun s ↦ (s.others, s.initContainers.isSome)) =
      q'.spec.map fun s ↦ (s.others, s.initContainers.isSome)) : q.spec = q'.spec := by
  have hinit := hcontainers .init
  have hregular := hcontainers .regular
  rcases q with ⟨m, - | ⟨- | init, containers, others⟩, rest⟩ <;>
    rcases q' with ⟨m', - | ⟨- | init', containers', others'⟩, rest'⟩ <;>
    simp_all [Pod.containersOf]

theorem IsRedirection.unique (h : config.IsRedirection p q) (h' : config.IsRedirection p q') :
    q = q' := by
  have hannotations : q.metadata.annotations = q'.metadata.annotations :=
    Pod.annotations_eq h.marked h'.marked (h.annotation?_eq h')
  have hcontainers : ∀ kind, q.containersOf kind = q'.containersOf kind := fun kind ↦
    List.right_unique_forall₂' (fun _ _ _ hd hd' ↦ hd.unique hd') (h.containers kind)
      (h'.containers kind)
  have hspec : q.spec = q'.spec := spec_eq hcontainers (h.specFrame.trans h'.specFrame.symm)
  rw [h.frame, h'.frame, h.labels, h'.labels, hannotations, hspec]

/-- **The whole effect, described.** A pod is the redirected one exactly when it meets the
description: eligible containers get the redirected reference and the others stay, each annotation
records the origin of the last eligible container that it belongs to, the label is set if there was
one, the pod's own annotation says what the label says, and nothing else changes. When the
containers are not to be looked at, only that annotation does. -/
theorem redirectPod_eq_iff (config : RedirectConfig) (p q : Pod) :
    ((config.redirectPod true p).1 = q ↔ config.IsRedirection p q) ∧
      ((config.redirectPod false p).1 = q ↔ p.IsRefresh q) := by
  refine ⟨⟨?_, fun h ↦ ?_⟩, ⟨?_, fun h ↦ ?_⟩⟩
  · rintro rfl
    exact config.isRedirection_redirectPod p
  · exact (config.isRedirection_redirectPod p).unique h
  · rintro rfl
    exact config.isRefresh_redirectPod p
  · exact (config.isRefresh_redirectPod p).unique h

end RedirectConfig

end PullCache
