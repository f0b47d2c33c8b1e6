import PullCache.Proofs.Redirect.Outcome

/-!
# A pod over time

A pod is looked at more than once, each time perhaps under another configuration, with or without
leave to redirect its images, and in between others change what it is to run. `Pod.after` is the pod
after such a history of steps.

What one step may do is said once, in `Pod.IsStep`, and holds of every step (`Pod.isStep_step`).
What holds along a history follows from it by induction: labels and annotations are never taken
away, a pod that is managed stays so, and a pod that nobody has marked beforehand is managed exactly
when the origin of an image is on record (`Pod.marks_over_time`).
-/

namespace PullCache

/-- What happens to a pod. -/
inductive PodStep where
  /-- Its images are redirected if they are to be, and it is marked. -/
  | redirect (config : RedirectConfig) (perform : Bool)
  /-- Someone else changes its images, or anything else that it is to run. -/
  | change (spec : Option PodSpec)

namespace Pod

open Marks (IsOriginKey isManaged)

/-- A pod after one step. -/
def step (p : Pod) : PodStep → Pod
  | .redirect config perform => (config.redirectPod perform p).1
  | .change spec => { p with spec }

/-- A pod after a history of steps. -/
def after (p : Pod) (steps : List PodStep) : Pod :=
  steps.foldl step p

variable {p q : Pod}

theorem after_append (p : Pod) (done more : List PodStep) :
    p.after (done ++ more) = (p.after done).after more :=
  List.foldl_append

theorem after_concat (p : Pod) (done : List PodStep) (last : PodStep) :
    p.after (done ++ [last]) = (p.after done).step last := by
  rw [after_append]
  rfl

/-! ### One step -/

theorem isManaged_iff {m : Metadata} :
    isManaged m = true ↔ m.label? Marks.managedKey = some "true" := by
  simp [isManaged]

/-- What a step may do, from one pod to the next. -/
structure IsStep (step : PodStep) (p q : Pod) : Prop where
  /-- A pod that has been looked at says of itself what its label says. -/
  marked : ∀ config perform, step = .redirect config perform → q.IsMarked
  /-- A managed pod stays managed. -/
  managed : isManaged p.metadata = true → isManaged q.metadata = true
  /-- No label and no annotation is taken away. -/
  keeps : p.metadata.Extends q.metadata
  /-- The annotations, but for the pod's own, change only when images are redirected, and only for a
  container whose image was eligible. -/
  recorded : ∀ key ≠ Marks.redirectedKey,
    q.metadata.annotation? key ≠ p.metadata.annotation? key →
    ∃ config, step = .redirect config true ∧ ∃ kind, ∃ c ∈ p.containersOf kind,
      (config.eligible? c).isSome ∧ key = Marks.containerKey c.name kind

theorem isMarked_redirectPod (config : RedirectConfig) (perform : Bool) (p : Pod) :
    (config.redirectPod perform p).1.IsMarked := by
  cases perform with
  | true => exact (config.isRedirection_redirectPod p).marked
  | false => exact (config.isRefresh_redirectPod p).marked

/-- A pod is managed afterwards when there is something on record for it, or it was before. -/
theorem isManaged_redirectPod (config : RedirectConfig) (perform : Bool) (p : Pod) :
    isManaged (config.redirectPod perform p).1.metadata = true ↔
      config.recordsIf perform p ≠ [] ∨ isManaged p.metadata = true := by
  rw [isManaged_iff, isManaged_iff, RedirectConfig.label?_redirectPod]
  by_cases hrecords : config.recordsIf perform p = []
  · simp [hrecords]
  · simp [hrecords]

/-- **Every step is one of these.** -/
theorem isStep_step (p : Pod) (step : PodStep) : IsStep step p (p.step step) := by
  cases step with
  | redirect config perform =>
    refine ⟨fun config' perform' _ ↦ isMarked_redirectPod config perform p, fun hmanaged ↦ ?_,
      config.extends_redirectPod perform p, fun key hkey h ↦ ?_⟩
    · exact (isManaged_redirectPod config perform p).2 (.inr hmanaged)
    · obtain ⟨rfl, hc⟩ := RedirectConfig.exists_eligible_of_annotation?_ne hkey h
      exact ⟨config, rfl, hc⟩
  | change spec =>
    -- the metadata is not touched
    exact ⟨nofun, id, ⟨.refl _, .refl _, rfl⟩, fun _ _ h ↦ absurd rfl h⟩

/-! ### A history -/

/-- A managed pod stays managed, whatever happens. -/
theorem isManaged_after (h : isManaged p.metadata = true) (steps : List PodStep) :
    isManaged (p.after steps).metadata = true := by
  induction steps generalizing p with
  | nil => exact h
  | cons step steps ih => exact ih ((p.isStep_step step).managed h)

/-- Labels and annotations stay, whatever happens. -/
theorem extends_after (p : Pod) (steps : List PodStep) :
    p.metadata.Extends (p.after steps).metadata := by
  induction steps generalizing p with
  | nil => exact ⟨.refl _, .refl _, rfl⟩
  | cons step steps ih => exact (p.isStep_step step).keeps.trans (ih (p.step step))

/-- The pod is managed exactly when the origin of an image is on record. -/
def IsTracked (p : Pod) : Prop :=
  isManaged p.metadata = true ↔
    ∃ key, IsOriginKey key ∧ (p.metadata.annotation? key).isSome = true

/-- Redirecting makes a pod managed exactly when it leaves a record. -/
theorem isTracked_redirectPod (h : p.IsTracked) (config : RedirectConfig) (perform : Bool) :
    (config.redirectPod perform p).1.IsTracked := by
  have horigin : ∀ e ∈ config.recordsIf perform p, IsOriginKey e.1 := by
    intro e he
    obtain ⟨-, kind, c, -, r, -, rfl⟩ := RedirectConfig.mem_recordsIf_iff.1 he
    exact Marks.isOriginKey_containerKey c.name kind
  have hsome : ∀ key, IsOriginKey key →
      (((config.redirectPod perform p).1.metadata.annotation? key).isSome = true ↔
        (∃ e ∈ config.recordsIf perform p, key = e.1) ∨
          (p.metadata.annotation? key).isSome = true) := by
    intro key hkey
    refine config.isSome_annotation?_redirectPod perform p ?_
    rintro rfl
    exact Marks.not_isOriginKey_redirectedKey hkey
  rw [IsTracked, isManaged_redirectPod]
  constructor
  · rintro (hrecords | hmanaged)
    · obtain ⟨e, he⟩ := List.exists_mem_of_ne_nil _ hrecords
      exact ⟨e.1, horigin e he, (hsome e.1 (horigin e he)).2 (.inl ⟨e, he, rfl⟩)⟩
    · obtain ⟨key, hkey, hbefore⟩ := h.1 hmanaged
      exact ⟨key, hkey, (hsome key hkey).2 (.inr hbefore)⟩
  · rintro ⟨key, hkey, hafter⟩
    rcases (hsome key hkey).1 hafter with ⟨e, he, -⟩ | hbefore
    · exact .inl (List.ne_nil_of_mem he)
    · exact .inr (h.2 ⟨key, hkey, hbefore⟩)

theorem isTracked_after (h : p.IsTracked) (steps : List PodStep) : (p.after steps).IsTracked := by
  induction steps generalizing p with
  | nil => exact h
  | cons step steps ih =>
    refine ih ?_
    cases step with
    | redirect config perform => exact isTracked_redirectPod h config perform
    | change spec => exact h

/-- **The marks of a pod, over any history of it.** Each step is as `Pod.IsStep` says. Along the way
a managed pod stays managed, and no label and no annotation is taken away. A pod that is not managed
at first, and has no origin on record, is managed from then on exactly when the origin of an image
is on record. -/
theorem marks_over_time (p : Pod) (done : List PodStep) :
    (∀ step, IsStep step (p.after done) (p.after (done ++ [step]))) ∧
      (∀ more,
        (isManaged (p.after done).metadata = true →
          isManaged (p.after (done ++ more)).metadata = true) ∧
        (p.after done).metadata.Extends (p.after (done ++ more)).metadata) ∧
      (isManaged p.metadata = false →
        (∀ key, IsOriginKey key → p.metadata.annotation? key = none) →
        (isManaged (p.after done).metadata = true ↔
          ∃ key, IsOriginKey key ∧ ((p.after done).metadata.annotation? key).isSome = true)) := by
  refine ⟨fun step ↦ ?_, fun more ↦ ?_, fun hmanaged horigin ↦ ?_⟩
  · rw [after_concat]
    exact (p.after done).isStep_step step
  · rw [after_append]
    exact ⟨fun h ↦ isManaged_after h more, extends_after _ more⟩
  · have htracked : p.IsTracked := by
      refine iff_of_false (by simp [hmanaged]) ?_
      rintro ⟨key, hkey, hsome⟩
      rw [horigin key hkey] at hsome
      cases hsome
    exact isTracked_after htracked done

/-- A pod that is labelled as not managed is managed once an image of it has been redirected, and
stays so when its containers are taken away and when it is only marked. -/
theorem marks_over_time_of_label :
    let p : Pod :=
      { metadata := { labels := some (.ofList [(Marks.managedKey, "false")]) }
        spec := some { containers := [{ name := "a", image := some "quay.io/app" }] } }
    let done : List PodStep :=
      [.redirect { proxyPort := 4242 } false, .redirect { proxyPort := 4242 } true, .change none]
    isManaged p.metadata = false ∧
      (∀ key, IsOriginKey key → p.metadata.annotation? key = none) ∧
      (∃ key, IsOriginKey key ∧ ((p.after done).metadata.annotation? key).isSome = true) ∧
      isManaged (p.after (done ++ [.redirect { proxyPort := 4343 } false])).metadata = true ∧
      (p.after (done ++ [.redirect { proxyPort := 4343 } false])).IsMarked := by
  intro p done
  have hmanaged : isManaged p.metadata = false := by decide +kernel
  have horigin : ∀ key, IsOriginKey key → p.metadata.annotation? key = none := fun _ _ ↦ rfl
  have hdone : isManaged (p.after done).metadata = true := by decide +kernel
  obtain ⟨hstep, hmore, htracked⟩ := marks_over_time p done
  exact ⟨hmanaged, horigin, (htracked hmanaged horigin).1 hdone, (hmore _).1 hdone,
    (hstep _).marked _ _ rfl⟩

end Pod

end PullCache
