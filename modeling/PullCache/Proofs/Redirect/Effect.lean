import PullCache.Proofs.Pod.Marks
import PullCache.Redirect.Pod

/-!
# What redirecting a pod does

`RedirectConfig.redirectPod` goes through the containers of a pod with the metadata in hand. Its
outcome is put together here from what each container is by itself: `RedirectConfig.redirected` is a
container after it has been looked at, and `RedirectConfig.records` is what all of them leave on
record. `redirectPod_true` says that the pod is its containers redirected, with the records made in
the order of the containers and its own annotation set last.

Neither list depends on the metadata, so facts about the loop are facts about `List.map` and
`Marks.recordAll`.
-/

namespace PullCache

/-! ### The containers of a pod -/

namespace Pod

/-- A pod with a function applied to each container. -/
def mapContainers (p : Pod) (f : Container → Container) : Pod :=
  { p with
    spec := p.spec.map fun s ↦
      { s with
        initContainers := s.initContainers.map (·.map f)
        containers := s.containers.map f } }

theorem containersOf_mapContainers (p : Pod) (f : Container → Container) (kind : ContainerKind) :
    (p.mapContainers f).containersOf kind = (p.containersOf kind).map f := by
  rcases p with ⟨metadata, - | ⟨- | initContainers, containers, others⟩, rest⟩ <;> cases kind <;>
    rfl

theorem mapContainers_mapContainers (p : Pod) (f g : Container → Container) :
    (p.mapContainers f).mapContainers g = p.mapContainers (g ∘ f) := by
  rcases p with ⟨metadata, - | ⟨- | initContainers, containers, others⟩, rest⟩ <;>
    simp [mapContainers]

/-- The annotations in which the images of the containers are recorded. -/
def containerKeys (p : Pod) : List String :=
  (p.containersOf .init).map (fun c ↦ Marks.containerKey c.name .init) ++
    (p.containersOf .regular).map fun c ↦ Marks.containerKey c.name .regular

/-- A function that keeps the names keeps the annotations. -/
theorem containerKeys_mapContainers (p : Pod) {f : Container → Container}
    (hf : ∀ c, (f c).name = c.name) : (p.mapContainers f).containerKeys = p.containerKeys := by
  simp only [containerKeys, containersOf_mapContainers, List.map_map, Function.comp_def, hf]

end Pod

namespace RedirectConfig

variable {config : RedirectConfig} {c : Container} {r : Reference} {p : Pod}

/-! ### One container -/

/-- The reference that the image of a container is, when it is eligible. -/
def eligible? (config : RedirectConfig) (c : Container) : Option Reference :=
  c.image.bind fun image ↦ (config.check image).toOption

theorem eligible?_eq_some_iff :
    config.eligible? c = some r ↔ ∃ image, c.image = some image ∧ config.check image = .ok r := by
  rw [eligible?, Option.bind_eq_some_iff]
  refine exists_congr fun image ↦ and_congr_right fun _ ↦ ?_
  rcases config.check image with reason | r' <;> simp [Except.toOption]

/-- A container after it has been looked at. -/
def redirected (config : RedirectConfig) (c : Container) : Container :=
  match config.eligible? c with
  | some r => { c with image := some (r.redirect config.proxyPort).text }
  | none => c

theorem redirected_of_eligible (h : config.eligible? c = some r) :
    config.redirected c = { c with image := some (r.redirect config.proxyPort).text } := by
  rw [redirected, h]

theorem redirected_of_not_eligible (h : config.eligible? c = none) : config.redirected c = c := by
  rw [redirected, h]

@[simp] theorem redirected_name (config : RedirectConfig) (c : Container) :
    (config.redirected c).name = c.name := by
  unfold redirected
  split <;> rfl

/-- The origins of the eligible images of some containers, each under the annotation of its
container. -/
def recordsOf (config : RedirectConfig) (kind : ContainerKind) (cs : List Container) :
    List (String × String) :=
  cs.filterMap fun c ↦ (config.eligible? c).map fun r ↦
    (Marks.containerKey c.name kind, r.source.text)

theorem recordsOf_cons (config : RedirectConfig) (kind : ContainerKind) (c : Container)
    (cs : List Container) : config.recordsOf kind (c :: cs) =
      config.recordsOf kind [c] ++ config.recordsOf kind cs := by
  rw [recordsOf, ← List.singleton_append, List.filterMap_append]
  rfl

theorem redirectContainer_eq (config : RedirectConfig) (kind : ContainerKind) (m : Metadata)
    (c : Container) : (config.redirectContainer kind m c).1 = config.redirected c ∧
      (config.redirectContainer kind m c).2.1 =
        Marks.recordAll m (config.recordsOf kind [c]) := by
  rcases c with ⟨name, - | image, others⟩
  · exact ⟨rfl, rfl⟩
  · rcases h : config.check image with reason | r <;>
      simp [redirectContainer, redirected, recordsOf, eligible?, h, Except.toOption,
        Marks.record_eq_recordAll, Marks.recordAll]

/-! ### All containers -/

/-- **A list of containers is redirected one by one**, and leaves its records one after the
other. -/
theorem redirectContainers_eq (config : RedirectConfig) (kind : ContainerKind) (m : Metadata)
    (cs : List Container) :
    (config.redirectContainers kind m cs).1 = cs.map config.redirected ∧
      (config.redirectContainers kind m cs).2.1 =
        Marks.recordAll m (config.recordsOf kind cs) := by
  induction cs generalizing m with
  | nil => exact ⟨rfl, rfl⟩
  | cons c cs ih =>
    obtain ⟨hc, hm⟩ := config.redirectContainer_eq kind m c
    obtain ⟨hcs, hms⟩ := ih (config.redirectContainer kind m c).2.1
    rw [recordsOf_cons, Marks.recordAll_append, ← hm]
    refine ⟨?_, hms⟩
    show (config.redirectContainer kind m c).1 ::
      (config.redirectContainers kind (config.redirectContainer kind m c).2.1 cs).1 = _
    rw [hc, hcs, List.map_cons]

theorem redirectSpec_eq (config : RedirectConfig) (m : Metadata) (s : PodSpec) :
    (config.redirectSpec m s).1 =
        { s with
          initContainers := s.initContainers.map (·.map config.redirected)
          containers := s.containers.map config.redirected } ∧
      (config.redirectSpec m s).2.1 =
        Marks.recordAll m (config.recordsOf .init (s.initContainers.getD []) ++
          config.recordsOf .regular s.containers) := by
  rcases s with ⟨- | initContainers, containers, others⟩
  · obtain ⟨hcs, hm⟩ := config.redirectContainers_eq .regular m containers
    constructor
    · show PodSpec.mk none (config.redirectContainers .regular m containers).1 others = _
      rw [hcs]
      rfl
    · exact hm
  · obtain ⟨hinit, hinitm⟩ := config.redirectContainers_eq .init m initContainers
    obtain ⟨hcs, hm⟩ := config.redirectContainers_eq .regular
      (config.redirectContainers .init m initContainers).2.1 containers
    constructor
    · show PodSpec.mk (some (config.redirectContainers .init m initContainers).1)
        (config.redirectContainers .regular
          (config.redirectContainers .init m initContainers).2.1 containers).1 others = _
      rw [hinit, hcs]
      rfl
    · show (config.redirectContainers .regular
        (config.redirectContainers .init m initContainers).2.1 containers).2.1 = _
      rw [hm, hinitm, Marks.recordAll_append]
      rfl

/-- What all containers of a pod leave on record, in the order in which they are looked at. -/
def records (config : RedirectConfig) (p : Pod) : List (String × String) :=
  config.recordsOf .init (p.containersOf .init) ++
    config.recordsOf .regular (p.containersOf .regular)

theorem mem_recordsOf_iff {kind : ContainerKind} {cs : List Container} {e : String × String} :
    e ∈ config.recordsOf kind cs ↔ ∃ c ∈ cs, ∃ r, config.eligible? c = some r ∧
      e = (Marks.containerKey c.name kind, r.source.text) := by
  rw [recordsOf, List.mem_filterMap]
  refine exists_congr fun c ↦ and_congr_right fun _ ↦ ?_
  rw [Option.map_eq_some_iff]
  exact exists_congr fun r ↦ and_congr_right fun _ ↦ eq_comm

theorem mem_records_iff {e : String × String} : e ∈ config.records p ↔
    ∃ kind, ∃ c ∈ p.containersOf kind, ∃ r, config.eligible? c = some r ∧
      e = (Marks.containerKey c.name kind, r.source.text) := by
  rw [records, List.mem_append, mem_recordsOf_iff, mem_recordsOf_iff]
  constructor
  · rintro (h | h)
    · exact ⟨.init, h⟩
    · exact ⟨.regular, h⟩
  · rintro ⟨- | -, h⟩
    · exact .inl h
    · exact .inr h

/-- No annotation is recorded twice when no two containers share one. -/
theorem nodup_records (config : RedirectConfig) (hkeys : p.containerKeys.Nodup) :
    ((config.records p).map Prod.fst).Nodup := by
  have hsublist : ∀ (kind : ContainerKind) (cs : List Container),
      ((config.recordsOf kind cs).map Prod.fst).Sublist
        (cs.map fun c ↦ Marks.containerKey c.name kind) := by
    intro kind cs
    induction cs with
    | nil => exact List.nil_sublist _
    | cons c cs ih =>
      rw [recordsOf, List.filterMap_cons]
      -- a container that is not eligible leaves its key out
      rcases config.eligible? c with - | r
      · exact ih.cons _
      · exact ih.cons_cons _
  rw [records, List.map_append]
  exact hkeys.sublist ((hsublist _ _).append (hsublist _ _))

/-- **The whole effect.** The containers are redirected, their origins are recorded in their order,
and the pod's own annotation is set last; nothing else of the pod changes. -/
theorem redirectPod_true (config : RedirectConfig) (p : Pod) : (config.redirectPod true p).1 =
    { p.mapContainers config.redirected with
      metadata := Marks.finalize (Marks.recordAll p.metadata (config.records p)) } := by
  rcases p with ⟨m, - | s, others⟩
  · rfl
  · obtain ⟨hs, hm⟩ := config.redirectSpec_eq m s
    show Pod.mk (Marks.finalize (config.redirectSpec m s).2.1) (some (config.redirectSpec m s).1)
      others = _
    rw [hs, hm]
    rfl

/-- Each list of containers keeps its place and its length. -/
theorem containersOf_redirectPod_if (config : RedirectConfig) (perform : Bool) (p : Pod)
    (kind : ContainerKind) :
    (config.redirectPod perform p).1.containersOf kind =
      if perform then (p.containersOf kind).map config.redirected else p.containersOf kind := by
  cases perform with
  | true =>
    rw [redirectPod_true, if_pos rfl, ← Pod.containersOf_mapContainers]
    rfl
  | false => rfl

/-- Each container keeps its place. -/
theorem getElem?_redirectPod (config : RedirectConfig) {kind : ContainerKind} {i : Nat}
    (hc : (p.containersOf kind)[i]? = some c) :
    ((config.redirectPod true p).1.containersOf kind)[i]? = some (config.redirected c) := by
  rw [containersOf_redirectPod_if, if_pos rfl, List.getElem?_map, hc, Option.map_some]

/-- What a pod leaves on record: nothing when its containers are not to be redirected. -/
def recordsIf (config : RedirectConfig) (perform : Bool) (p : Pod) : List (String × String) :=
  if perform then config.records p else []

theorem mem_recordsIf_iff {perform : Bool} {e : String × String} :
    e ∈ config.recordsIf perform p ↔
      perform = true ∧ ∃ kind, ∃ c ∈ p.containersOf kind, ∃ r, config.eligible? c = some r ∧
        e = (Marks.containerKey c.name kind, r.source.text) := by
  cases perform with
  | true => exact mem_records_iff.trans (and_iff_right rfl).symm
  | false => exact iff_of_false List.not_mem_nil fun h ↦ Bool.noConfusion h.1

/-- The metadata afterwards: what is to be recorded is, and the pod's own annotation is set in any
case. -/
theorem metadata_redirectPod (config : RedirectConfig) (perform : Bool) (p : Pod) :
    (config.redirectPod perform p).1.metadata =
      Marks.finalize (Marks.recordAll p.metadata (config.recordsIf perform p)) := by
  cases perform with
  | true =>
    rw [redirectPod_true]
    rfl
  | false => rfl

/-- Redirecting takes no label and no annotation away. -/
theorem extends_redirectPod (config : RedirectConfig) (perform : Bool) (p : Pod) :
    p.metadata.Extends (config.redirectPod perform p).1.metadata := by
  rw [metadata_redirectPod]
  exact (Marks.extends_recordAll _ _).trans (Marks.extends_finalize _)

/-- **Only the one label is set**, and only when there is something to record. -/
theorem label?_redirectPod (config : RedirectConfig) (perform : Bool) (p : Pod) (key : String) :
    (config.redirectPod perform p).1.metadata.label? key =
      if config.recordsIf perform p ≠ [] ∧ key = Marks.managedKey then some "true"
      else p.metadata.label? key := by
  rw [metadata_redirectPod, Marks.label?_finalize, Marks.label?_recordAll]

/-- **An annotation is what was last recorded under it**, or what it was, the pod's own apart. -/
theorem annotation?_redirectPod (config : RedirectConfig) (perform : Bool) (p : Pod) {key : String}
    (hkey : key ≠ Marks.redirectedKey) :
    (config.redirectPod perform p).1.metadata.annotation? key =
      ((config.recordsIf perform p).reverse.lookup key).or (p.metadata.annotation? key) := by
  rw [metadata_redirectPod, Marks.annotation?_finalize_of_ne hkey, Marks.annotation?_recordAll]

/-- An annotation is there afterwards when it has been recorded or was there. -/
theorem isSome_annotation?_redirectPod (config : RedirectConfig) (perform : Bool) (p : Pod)
    {key : String} (hkey : key ≠ Marks.redirectedKey) :
    ((config.redirectPod perform p).1.metadata.annotation? key).isSome = true ↔
      (∃ e ∈ config.recordsIf perform p, key = e.1) ∨
        (p.metadata.annotation? key).isSome = true := by
  rw [config.annotation?_redirectPod perform p hkey, Option.isSome_or, Bool.or_eq_true,
    List.lookup_isSome_iff]
  simp only [List.mem_reverse, beq_iff_eq]

/-- **An annotation changes only for a container that is redirected**, the pod's own apart. -/
theorem exists_eligible_of_annotation?_ne {perform : Bool} {key : String}
    (hkey : key ≠ Marks.redirectedKey)
    (h : (config.redirectPod perform p).1.metadata.annotation? key ≠ p.metadata.annotation? key) :
    perform = true ∧ ∃ kind, ∃ c ∈ p.containersOf kind, (config.eligible? c).isSome ∧
      key = Marks.containerKey c.name kind := by
  rw [config.annotation?_redirectPod perform p hkey] at h
  have hsome : ((config.recordsIf perform p).reverse.lookup key).isSome = true := by
    rw [Option.isSome_iff_ne_none]
    intro hnone
    rw [hnone, Option.none_or] at h
    exact h rfl
  obtain ⟨e, he, hekey⟩ := List.lookup_isSome_iff.1 hsome
  obtain ⟨hperform, kind, c, hc, r, hr, rfl⟩ := mem_recordsIf_iff.1 (List.mem_reverse.1 he)
  exact ⟨hperform, kind, c, hc, by rw [hr]; rfl, eq_of_beq hekey⟩

end RedirectConfig

end PullCache
