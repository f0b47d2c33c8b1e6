import PullCache.Proofs.Redirect.History
import PullCache.Proofs.Redirect.Readmission

/-!
# A pod comes to rest

A pod may be looked at any number of times under one configuration, now with leave to redirect its
images and now without. Its containers change at most once, the first time that they may be
redirected. Its metadata may change once more: what is recorded the second time need not be what was
recorded the first time, and containers that share an annotation overwrite each other in either
round. From then on the pod is at rest (`Pod.comes_to_rest`).

Nothing is asked of the pod. In particular its containers may share names and annotations, so what
an annotation says is settled by the description of a redirection and not container by container.
-/

namespace PullCache

open RedirectConfig

namespace Pod

variable {config : RedirectConfig} {p q : Pod} {kind : ContainerKind} {c : Container} {i : ℕ}

/-- Looks at a pod under one configuration, each with or without leave to redirect. -/
def looks (config : RedirectConfig) (performs : List Bool) : List PodStep :=
  performs.map (.redirect config)

theorem after_looks_append (config : RedirectConfig) (p : Pod) (performs more : List Bool) :
    p.after (looks config (performs ++ more)) =
      (p.after (looks config performs)).after (looks config more) := by
  rw [looks, List.map_append, after_append]
  rfl

/-! ### Containers -/

/-- A container that is not eligible stays in its place as it is. -/
theorem getElem?_after_of_not_eligible (hc : (p.containersOf kind)[i]? = some c)
    (h : config.eligible? c = none) (performs : List Bool) :
    ((p.after (looks config performs)).containersOf kind)[i]? = some c := by
  induction performs generalizing p with
  | nil => exact hc
  | cons perform performs ih =>
    have hstep : ((config.redirectPod perform p).1.containersOf kind)[i]? = some c := by
      rw [containersOf_redirectPod_if]
      cases perform with
      | true =>
        rw [if_pos rfl, List.getElem?_map, hc, Option.map_some, redirected_of_not_eligible h]
      | false => exact hc
    exact ih hstep

/-- The containers of the pod stay as they are when they are redirected. -/
def IsSettled (config : RedirectConfig) (p : Pod) : Prop :=
  ∀ kind, (p.containersOf kind).map config.redirected = p.containersOf kind

/-- **Redirected containers are settled.** -/
theorem isSettled_redirectPod (config : RedirectConfig) (p : Pod) :
    IsSettled config (config.redirectPod true p).1 := by
  intro kind
  rw [containersOf_redirectPod_if, if_pos rfl, List.map_map, redirected_comp_redirected]

theorem IsSettled.containersOf_eq (h : IsSettled config p) (perform : Bool)
    (kind : ContainerKind) :
    (config.redirectPod perform p).1.containersOf kind = p.containersOf kind := by
  rw [containersOf_redirectPod_if, h kind, ite_self]

/-- Settled containers are the same ever after. -/
theorem IsSettled.after (h : IsSettled config p) (performs : List Bool) :
    IsSettled config (p.after (looks config performs)) ∧
      ∀ kind, (p.after (looks config performs)).containersOf kind = p.containersOf kind := by
  induction performs generalizing p with
  | nil => exact ⟨h, fun _ ↦ rfl⟩
  | cons perform performs ih =>
    have hsame := h.containersOf_eq perform
    have hnext : IsSettled config (config.redirectPod perform p).1 := by
      intro kind
      rw [hsame kind, h kind]
    obtain ⟨hsettled, hafter⟩ := ih hnext
    exact ⟨hsettled, fun kind ↦ (hafter kind).trans (hsame kind)⟩

/-! ### The whole pod -/

/-- Looking at the pod once more changes nothing. -/
def IsAtRest (config : RedirectConfig) (p : Pod) : Prop :=
  ∀ perform, (config.redirectPod perform p).1 = p

theorem IsAtRest.after (h : IsAtRest config p) (performs : List Bool) :
    p.after (looks config performs) = p := by
  induction performs with
  | nil => rfl
  | cons perform performs ih =>
    show (config.redirectPod perform p).1.after (looks config performs) = p
    rw [h perform, ih]

/-- A redirection that leaves the containers as they are is one of its own outcome: the same
containers leave the same records, and the last one of each annotation stands already. -/
theorem isRedirection_self (h : config.IsRedirection p q)
    (hsame : ∀ kind, q.containersOf kind = p.containersOf kind) : config.IsRedirection q q := by
  have horder : q.containersInOrder = p.containersInOrder := by
    rw [containersInOrder, containersInOrder, hsame, hsame]
  refine ⟨fun kind ↦ ?_, fun before kind c after r hc hr hafter ↦ ?_, fun _ _ _ ↦ rfl, ?_,
    h.marked, rfl, rfl⟩
  · have hsends := h.containers kind
    rwa [← hsame kind] at hsends
  · rw [horder] at hc
    exact h.recorded before kind c after r hc hr hafter
  · rw [horder, h.labels]
    split
    · -- the label is set anew to what it is
      rw [Option.getD_some, Dict.insert_insert]
    · rfl

/-- **A settled pod is at rest once its records have been made.** -/
theorem IsSettled.isAtRest (h : IsSettled config p) :
    IsAtRest config (config.redirectPod true p).1 := by
  have hdone := config.isRedirection_redirectPod p
  have hself := isRedirection_self hdone (h.containersOf_eq true)
  intro perform
  cases perform with
  | true => exact (config.isRedirection_redirectPod _).unique hself
  | false =>
    have hrefresh : (config.redirectPod true p).1.IsRefresh (config.redirectPod true p).1 :=
      ⟨fun _ _ ↦ rfl, hdone.marked, rfl⟩
    exact (config.isRefresh_redirectPod _).unique hrefresh

/-- **A pod comes to rest.** However often it is looked at under one configuration, with or without
leave to redirect: from the first time that its images may be redirected its containers stay what
they are then, a container whose image is not eligible stays what it always was, and from the second
time on the whole pod stays what it is then. -/
theorem comes_to_rest (config : RedirectConfig) (p : Pod) (before between more : List Bool) :
    (∀ kind, (p.after (looks config (before ++ true :: more))).containersOf kind =
        (p.after (looks config (before ++ [true]))).containersOf kind) ∧
      (∀ (performs : List Bool) (kind : ContainerKind) (i : ℕ) (c : Container),
        (p.containersOf kind)[i]? = some c → config.eligible? c = none →
        ((p.after (looks config performs)).containersOf kind)[i]? = some c) ∧
      p.after (looks config (before ++ true :: between ++ true :: more)) =
        p.after (looks config (before ++ true :: between ++ [true])) := by
  -- a look with leave to redirect, and what follows it
  have hlook : ∀ (performs rest : List Bool),
      p.after (looks config (performs ++ true :: rest)) =
        (config.redirectPod true (p.after (looks config performs))).1.after
          (looks config rest) := by
    intro performs rest
    rw [after_looks_append]
    rfl
  refine ⟨fun kind ↦ ?_, fun performs kind i c hc h ↦ getElem?_after_of_not_eligible hc h performs,
    ?_⟩
  · rw [hlook, hlook]
    exact ((isSettled_redirectPod config _).after more).2 kind
  · have hsettled : IsSettled config (p.after (looks config (before ++ true :: between))) := by
      rw [hlook]
      exact ((isSettled_redirectPod config _).after between).1
    rw [hlook (before ++ true :: between) more, hlook (before ++ true :: between) [],
      hsettled.isAtRest.after more]
    rfl

/-- Two containers of one name, the images of a registry at a port: what is on record for them
changes once more when the pod is redirected the second time, and then no more. -/
theorem comes_to_rest_of_same_name :
    let p : Pod :=
      { spec := some { containers :=
          [{ name := "a", image := some "quay.io/app" },
           { name := "a", image := some "registry:5000/app" }] } }
    let config : RedirectConfig := { proxyPort := 4242 }
    (p.after (looks config [true])).metadata.annotation? "kuik.enix.io/original-image-a" =
        some "registry:5000/app" ∧
      (p.after (looks config [true, true])).metadata.annotation? "kuik.enix.io/original-image-a" =
        some "registry-5000/app" ∧
      p.after (looks config [true, false, true, false, true]) =
        p.after (looks config [true, false, true]) := by
  intro p config
  refine ⟨?_, ?_, (comes_to_rest config p [] [false] [false, true]).2.2⟩
  · decide +kernel
  · decide +kernel

end Pod

end PullCache
