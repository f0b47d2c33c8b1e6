import Mathlib.Data.List.Nodup
import PullCache.Proofs.Redirect.Effect

/-!
# Containers do not influence each other

`RedirectConfig.redirectPod` hands the metadata on from container to container, so the order of the
containers and the image of each could matter to the others. If no two containers share an
annotation, the order does not: records under different keys change places
(`Marks.recordAll_perm`), and so redirecting and arranging the containers in another order do as
well. And whatever image a container has, what becomes of the others is the same. Of the metadata,
only the annotation of that container and the two marks of the whole pod can tell the difference.
-/

namespace PullCache

/-! ### Records in another order -/

namespace Marks

variable {entries entries' : List (String × String)}

theorem recordAll_swap (m : Metadata) {e e' : String × String} (h : e.1 ≠ e'.1) :
    recordAll m [e, e'] = recordAll m [e', e] := by
  have hannotations := (m.annotations.getD .empty).insert_comm h e.2 e'.2
  simp [recordAll, Metadata.setAnnotation, Metadata.setLabel, hannotations]

/-- **The order of records does not matter** when no key is recorded twice. -/
theorem recordAll_perm (h : entries.Perm entries') (hkeys : (entries.map Prod.fst).Nodup)
    (m : Metadata) : recordAll m entries = recordAll m entries' := by
  refine h.foldl_eq' (fun e he e' he' m ↦ ?_) m
  rcases eq_or_ne e.1 e'.1 with heq | hne
  · -- records under one key are one record
    rw [List.inj_on_of_nodup_map hkeys he he' heq]
  · exact recordAll_swap m hne

end Marks

/-! ### Lists of containers -/

/-- A container with another image, or with none. -/
def Container.withImage (c : Container) (image : Option String) : Container :=
  { c with image }

namespace Pod

/-- A pod with something done to each of its lists of containers. -/
def mapLists (p : Pod) (f : ContainerKind → List Container → List Container) : Pod :=
  { p with
    spec := p.spec.map fun s ↦
      { s with
        initContainers := s.initContainers.map (f .init)
        containers := f .regular s.containers } }

variable {p : Pod} {f g : ContainerKind → List Container → List Container} {kind : ContainerKind}
  {i : ℕ}

theorem containersOf_mapLists (p : Pod) (hf : ∀ kind, f kind [] = []) (kind : ContainerKind) :
    (p.mapLists f).containersOf kind = f kind (p.containersOf kind) := by
  rcases p with ⟨m, - | ⟨- | initContainers, containers, others⟩, rest⟩ <;> cases kind <;>
    simp [mapLists, containersOf, hf]

theorem mapLists_congr (h : ∀ kind, f kind (p.containersOf kind) = g kind (p.containersOf kind)) :
    p.mapLists f = p.mapLists g := by
  have hinit := h .init
  have hregular := h .regular
  rcases p with ⟨m, - | ⟨- | initContainers, containers, others⟩, rest⟩ <;>
    simp_all [mapLists, containersOf]

theorem mapLists_mapLists (p : Pod) (f g : ContainerKind → List Container → List Container) :
    (p.mapLists f).mapLists g = p.mapLists fun kind cs ↦ g kind (f kind cs) := by
  rcases p with ⟨m, - | ⟨- | initContainers, containers, others⟩, rest⟩ <;> rfl

/-! ### Another order -/

/-- A pod with its containers in another order: those at the given places of each list, in turn. -/
def arranged (p : Pod) (order : ContainerKind → List ℕ) : Pod :=
  p.mapLists fun kind cs ↦ (order kind).filterMap (cs[·]?)

/-- The places of each list, each of them once. -/
def IsOrder (p : Pod) (order : ContainerKind → List ℕ) : Prop :=
  ∀ kind, (order kind).Perm (List.range (p.containersOf kind).length)

theorem containersOf_arranged (p : Pod) (order : ContainerKind → List ℕ) (kind : ContainerKind) :
    (p.arranged order).containersOf kind =
      (order kind).filterMap ((p.containersOf kind)[·]?) :=
  p.containersOf_mapLists (fun kind ↦ by simp) kind

/-- It is all one whether containers are changed before they are arranged or afterwards. -/
theorem mapContainers_arranged (p : Pod) (order : ContainerKind → List ℕ)
    (h : Container → Container) :
    (p.arranged order).mapContainers h = (p.mapContainers h).arranged order := by
  have hlists : ∀ (kind : ContainerKind) (cs : List Container),
      ((order kind).filterMap (cs[·]?)).map h = (order kind).filterMap ((cs.map h)[·]?) := by
    intro kind cs
    simp only [List.map_filterMap, List.getElem?_map]
  show (p.mapLists _).mapLists (fun _ cs ↦ cs.map h) =
    (p.mapLists fun _ cs ↦ cs.map h).mapLists _
  simp only [mapLists_mapLists, hlists]

theorem filterMap_range_getElem? {α : Type} (l : List α) :
    (List.range l.length).filterMap (l[·]?) = l := by
  induction l with
  | nil => rfl
  | cons head l ih =>
    rw [List.length_cons, List.range_succ_eq_map, List.filterMap_cons, List.filterMap_map]
    exact congrArg (head :: ·) ih

/-- Another order has the same containers. -/
theorem perm_containersOf_arranged {order : ContainerKind → List ℕ} (h : p.IsOrder order)
    (kind : ContainerKind) :
    ((p.arranged order).containersOf kind).Perm (p.containersOf kind) := by
  rw [containersOf_arranged]
  exact ((h kind).filterMap _).trans (.of_eq (filterMap_range_getElem? _))

/-! ### Another image -/

/-- A pod with another image, or none, for the container at one place. -/
def withImage (p : Pod) (kind : ContainerKind) (i : ℕ) (image : Option String) : Pod :=
  p.mapLists fun kind' cs ↦ if kind' = kind then cs.modify i (·.withImage image) else cs

theorem containersOf_withImage (p : Pod) (kind : ContainerKind) (i : ℕ) (image : Option String)
    (kind' : ContainerKind) : (p.withImage kind i image).containersOf kind' =
      if kind' = kind then (p.containersOf kind').modify i (·.withImage image)
      else p.containersOf kind' :=
  p.containersOf_mapLists (fun kind' ↦ by simp) kind'

/-- The second pod differs from the first at most in the image of the container at one place, in the
annotation of that container, and in the two marks of the whole pod. -/
structure DiffersAt (p : Pod) (kind : ContainerKind) (i : ℕ) (q : Pod) : Prop where
  frame : ∃ image, q =
    { p.withImage kind i image with
      metadata := { p.metadata with
        labels := q.metadata.labels
        annotations := q.metadata.annotations } }
  labels : ∀ key ≠ Marks.managedKey, q.metadata.label? key = p.metadata.label? key
  annotations : ∀ key ≠ Marks.redirectedKey,
    (∀ c, (p.containersOf kind)[i]? = some c → key ≠ Marks.containerKey c.name kind) →
    q.metadata.annotation? key = p.metadata.annotation? key

end Pod

namespace RedirectConfig

open Pod

variable {config : RedirectConfig} {p : Pod} {kind : ContainerKind} {i : ℕ} {key : String}

/-- Containers in another order leave the same records, in another order. -/
theorem perm_records_arranged (config : RedirectConfig) {order : ContainerKind → List ℕ}
    (h : p.IsOrder order) : (config.records (p.arranged order)).Perm (config.records p) :=
  ((perm_containersOf_arranged h .init).filterMap _).append
    ((perm_containersOf_arranged h .regular).filterMap _)

/-- **Redirecting and arranging change places**, if no two containers share an annotation. -/
theorem redirectPod_arranged (config : RedirectConfig) (hkeys : p.containerKeys.Nodup)
    {order : ContainerKind → List ℕ} (h : p.IsOrder order) :
    (config.redirectPod true (p.arranged order)).1 =
      (config.redirectPod true p).1.arranged order := by
  have hperm := config.perm_records_arranged h
  have hrecords : Marks.recordAll p.metadata (config.records (p.arranged order)) =
      Marks.recordAll p.metadata (config.records p) :=
    (Marks.recordAll_perm hperm.symm (config.nodup_records hkeys) p.metadata).symm
  rw [redirectPod_true, redirectPod_true, mapContainers_arranged]
  show { (p.mapContainers config.redirected).arranged order with
    metadata := Marks.finalize
      (Marks.recordAll p.metadata (config.records (p.arranged order))) } = _
  rw [hrecords]
  rfl

/-! ### Another image -/

/-- Of a container with another image, only what becomes of the image is another. -/
theorem redirected_withImage (config : RedirectConfig) (c : Container) (image : Option String) :
    config.redirected (c.withImage image) =
      (config.redirected c).withImage (config.redirected (c.withImage image)).image := by
  have himage : ∀ c : Container,
      config.redirected c = c.withImage (config.redirected c).image := fun c ↦ by
    rw [redirected]
    split <;> rfl
  conv_lhs => rw [himage (c.withImage image)]
  conv_rhs => rw [himage c]
  rfl

theorem lookup_recordsOf_cons (config : RedirectConfig) (kind : ContainerKind) (c : Container)
    (cs : List Container) (key : String) :
    (config.recordsOf kind (c :: cs)).reverse.lookup key =
      ((config.recordsOf kind cs).reverse.lookup key).or
        ((config.recordsOf kind [c]).reverse.lookup key) := by
  rw [recordsOf_cons, List.reverse_append, List.lookup_append]

theorem lookup_recordsOf_singleton (config : RedirectConfig) {c : Container}
    (h : key ≠ Marks.containerKey c.name kind) :
    (config.recordsOf kind [c]).reverse.lookup key = none := by
  rw [List.lookup_eq_none_iff]
  intro e he
  obtain ⟨c', hc', r, -, rfl⟩ := mem_recordsOf_iff.1 (List.mem_reverse.1 he)
  obtain rfl := List.mem_singleton.1 hc'
  simpa using h

/-- What is on record under the other keys does not depend on the image of a container. -/
theorem lookup_recordsOf_modify (config : RedirectConfig) (cs : List Container)
    (image : Option String)
    (h : ∀ c, cs[i]? = some c → key ≠ Marks.containerKey c.name kind) :
    (config.recordsOf kind (cs.modify i (·.withImage image))).reverse.lookup key =
      (config.recordsOf kind cs).reverse.lookup key := by
  induction cs generalizing i with
  | nil => rw [List.modify_nil]
  | cons c cs ih =>
    rcases i with - | i
    · have hkey : key ≠ Marks.containerKey c.name kind := h c rfl
      have hkey' : key ≠ Marks.containerKey (c.withImage image).name kind := hkey
      rw [List.modify_zero_cons, lookup_recordsOf_cons, lookup_recordsOf_singleton config hkey',
        lookup_recordsOf_cons config kind c, lookup_recordsOf_singleton config hkey]
    · rw [List.modify_succ_cons, lookup_recordsOf_cons, ih h, ← lookup_recordsOf_cons]

theorem lookup_records_withImage (config : RedirectConfig) (p : Pod) (image : Option String)
    (h : ∀ c, (p.containersOf kind)[i]? = some c → key ≠ Marks.containerKey c.name kind) :
    (config.records (p.withImage kind i image)).reverse.lookup key =
      (config.records p).reverse.lookup key := by
  have hlist : ∀ kind',
      (config.recordsOf kind' ((p.withImage kind i image).containersOf kind')).reverse.lookup key =
        (config.recordsOf kind' (p.containersOf kind')).reverse.lookup key := by
    intro kind'
    rw [containersOf_withImage]
    split
    · next heq =>
      subst heq
      exact lookup_recordsOf_modify config _ image h
    · rfl
  rw [records, List.reverse_append, List.lookup_append, hlist, hlist, ← List.lookup_append,
    ← List.reverse_append, ← records]

/-- Only the image at the one place is redirected otherwise. -/
theorem mapContainers_withImage (config : RedirectConfig) (p : Pod) (kind : ContainerKind) (i : ℕ)
    (image : Option String) : ∃ image',
    (p.withImage kind i image).mapContainers config.redirected =
      (p.mapContainers config.redirected).withImage kind i image' := by
  refine ⟨(p.containersOf kind)[i]?.bind fun c ↦ (config.redirected (c.withImage image)).image, ?_⟩
  show (p.mapLists _).mapLists (fun _ cs ↦ cs.map config.redirected) =
    (p.mapLists fun _ cs ↦ cs.map config.redirected).mapLists _
  rw [mapLists_mapLists, mapLists_mapLists]
  refine mapLists_congr fun kind' ↦ ?_
  split
  · next heq =>
    subst heq
    refine List.ext_getElem? fun j ↦ ?_
    rw [List.getElem?_map, List.getElem?_modify, List.getElem?_modify, List.getElem?_map]
    rcases hc : (p.containersOf kind')[j]? with - | c
    · rfl
    · rcases eq_or_ne i j with rfl | hne
      · simp [hc, ← redirected_withImage]
      · simp [hne]
  · rfl

/-- Apart from labels and annotations, only the image at the one place is another afterwards. -/
theorem exists_redirectPod_withImage (config : RedirectConfig) (p : Pod) (kind : ContainerKind)
    (i : ℕ) (image : Option String) : ∃ image',
    (config.redirectPod true (p.withImage kind i image)).1 =
      { (config.redirectPod true p).1.withImage kind i image' with
        metadata := { (config.redirectPod true p).1.metadata with
          labels := (config.redirectPod true (p.withImage kind i image)).1.metadata.labels
          annotations :=
            (config.redirectPod true (p.withImage kind i image)).1.metadata.annotations } } := by
  obtain ⟨image', himage'⟩ := config.mapContainers_withImage p kind i image
  refine ⟨image', ?_⟩
  -- both pods started with the same metadata
  have hmetadata := (config.extends_redirectPod true p).frame_of_extends
    (config.extends_redirectPod true (p.withImage kind i image))
  rw [← hmetadata, redirectPod_true, redirectPod_true, himage']
  rfl

/-- **Another image makes no difference to the other containers.** -/
theorem differsAt_redirectPod (config : RedirectConfig) (p : Pod) (kind : ContainerKind) (i : ℕ)
    (image : Option String) :
    (config.redirectPod true p).1.DiffersAt kind i
      (config.redirectPod true (p.withImage kind i image)).1 := by
  refine ⟨config.exists_redirectPod_withImage p kind i image, fun key hkey ↦ ?_,
    fun key hkey h ↦ ?_⟩
  · rw [label?_redirectPod, label?_redirectPod, if_neg fun h ↦ hkey h.2, if_neg fun h ↦ hkey h.2]
    rfl
  · have hnames : ∀ c, (p.containersOf kind)[i]? = some c →
        key ≠ Marks.containerKey c.name kind := fun c hc ↦ by
      have hkey := h _ (config.getElem?_redirectPod hc)
      rwa [redirected_name] at hkey
    rw [annotation?_redirectPod _ _ _ hkey, annotation?_redirectPod _ _ _ hkey]
    exact congrArg (Option.or · _) (lookup_records_withImage config p image hnames)

/-- **The containers of a pod are independent of their order and of each other's images**, if no two
of them share an annotation. Redirecting them in another order gives the same pod, labels and
annotations included, with the same containers in that order. When one of them has another image,
nothing is different afterwards but its own image and annotation, the label, and the annotation of
the pod. -/
theorem containers_independent (config : RedirectConfig) (p : Pod)
    (hkeys : p.containerKeys.Nodup) :
    (∀ order, p.IsOrder order →
        (config.redirectPod true (p.arranged order)).1 =
          (config.redirectPod true p).1.arranged order) ∧
      ∀ kind i image, (config.redirectPod true p).1.DiffersAt kind i
        (config.redirectPod true (p.withImage kind i image)).1 :=
  ⟨fun _ horder ↦ config.redirectPod_arranged hkeys horder, config.differsAt_redirectPod p⟩

/-- Two containers of one name, of two kinds, and a third. The two that run side by side change
places, and then one of them has no image. -/
theorem containers_independent_of_two_kinds :
    let config : RedirectConfig := { proxyPort := 4242 }
    let p : Pod :=
      { spec := some
          { initContainers := some [{ name := "a", image := some "quay.io/setup" }]
            containers :=
              [{ name := "a", image := some "nginx" },
               { name := "b", image := some "registry.io:5000/app:1" }] } }
    let order : ContainerKind → List ℕ
      | .init => [0]
      | .regular => [1, 0]
    p.containerKeys.Nodup ∧ p.IsOrder order ∧
      (config.redirectPod true (p.arranged order)).1 =
        (config.redirectPod true p).1.arranged order ∧
      (config.redirectPod true p).1.DiffersAt .regular 1
        (config.redirectPod true (p.withImage .regular 1 none)).1 := by
  intro config p order
  have hkeys : p.containerKeys.Nodup := by decide +kernel
  have horder : p.IsOrder order := fun
    | .init => .refl _
    | .regular => .swap 0 1 []
  obtain ⟨harranged, himage⟩ := containers_independent config p hkeys
  exact ⟨hkeys, horder, harranged order horder, himage .regular 1 none⟩

end RedirectConfig

end PullCache
