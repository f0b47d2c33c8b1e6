import PullCache.Proofs.Redirect.Readmission

/-!
# What a policy can do

A policy is consulted last: it sees only images that are references without a digest, and says of
some of them that they are left alone. So it never turns one reason against an image into another
(`check_eq_error_congr`), and one with more patterns lets fewer images through, each as the
reference it was (`check_of_subset`). The order of the patterns decides which one is named and
nothing else.

For a pod this means that under more patterns fewer containers are sent to the cache. Those that
still are go to the same place, and the same origins are put on record for them
(`policy_only_narrows`).
-/

namespace PullCache

namespace IgnorePolicy

variable {policy : IgnorePolicy} {image text : String}

theorem firstMatch?_eq_none_iff :
    policy.firstMatch? image = none ↔ ∀ p ∈ policy.patterns, p.occursIn image = false := by
  simp only [firstMatch?, Option.map_eq_none_iff, List.find?_eq_none, Bool.not_eq_true]

/-- **The first pattern that occurs is named.** -/
theorem firstMatch?_eq_some_iff : policy.firstMatch? image = some text ↔
    ∃ before p after, policy.patterns = before ++ p :: after ∧
      (∀ q ∈ before, q.occursIn image = false) ∧ p.occursIn image = true ∧ p.text = text := by
  rw [firstMatch?, Option.map_eq_some_iff]
  constructor
  · rintro ⟨p, hfind, htext⟩
    obtain ⟨hp, before, after, hpatterns, hbefore⟩ := List.find?_eq_some_iff_append.1 hfind
    exact ⟨before, p, after, hpatterns, fun q hq ↦ by simpa using hbefore q hq, hp, htext⟩
  · rintro ⟨before, p, after, hpatterns, hbefore, hp, htext⟩
    exact ⟨p, List.find?_eq_some_iff_append.2
      ⟨hp, before, after, hpatterns, fun q hq ↦ by simpa using hbefore q hq⟩, htext⟩

end IgnorePolicy

namespace RedirectConfig

open Reference (parse)

variable {config wide narrow : RedirectConfig} {image : String} {r : Reference}
  {reason : Rejection} {c : Container} {p : Pod}

/-! ### One image -/

/-- **Why an image is left alone**, in the order of the reasons. -/
theorem check_eq_error_iff : config.check image = .error reason ↔
    (∃ error, parse image = .error error ∧ reason = .unreadable error) ∨
      ∃ r, parse image = .ok r ∧
        (r.digest ≠ none ∧ reason = .pinned ∨
          r.digest = none ∧ ∃ pattern, config.policy.firstMatch? image = some pattern ∧
            reason = .ignored pattern) := by
  rw [check]
  rcases parse image with error | r
  · simp [eq_comm]
  · rcases hdigest : r.digest with - | digest
    · rcases config.policy.firstMatch? image with - | pattern <;>
        simp [Reference.isPinned, hdigest, eq_comm]
    · simp [Reference.isPinned, hdigest, eq_comm]

/-- A reason that names no pattern does not depend on the policy. -/
theorem check_eq_error_congr (config config' : RedirectConfig)
    (h : ∀ pattern, reason ≠ .ignored pattern) :
    config.check image = .error reason ↔ config'.check image = .error reason := by
  have hnone : ∀ policy : IgnorePolicy,
      ¬ ∃ pattern, policy.firstMatch? image = some pattern ∧ reason = .ignored pattern := by
    rintro policy ⟨pattern, -, hreason⟩
    exact h pattern hreason
  simp only [check_eq_error_iff, hnone, and_false, or_false]

/-- **A reported pattern is the first that occurs in the image**, which is a reference and has no
digest. -/
theorem check_eq_ignored_iff {pattern : String} :
    config.check image = .error (.ignored pattern) ↔
      ∃ r, parse image = .ok r ∧ r.digest = none ∧
        ∃ before p after, config.policy.patterns = before ++ p :: after ∧
          (∀ q ∈ before, q.occursIn image = false) ∧ p.occursIn image = true ∧
            p.text = pattern := by
  simp only [check_eq_error_iff, reduceCtorEq, and_false, exists_false, false_or,
    Rejection.ignored.injEq, exists_eq_right', IgnorePolicy.firstMatch?_eq_some_iff]

/-- **Under more patterns no more images pass**, and those that do are the references they were. -/
theorem check_of_subset (h : wide.policy.patterns ⊆ narrow.policy.patterns)
    (hcheck : narrow.check image = .ok r) : wide.check image = .ok r := by
  obtain ⟨hparse, hdigest, hnone⟩ := check_eq_ok_iff.1 hcheck
  have hnone := IgnorePolicy.firstMatch?_eq_none_iff.1 hnone
  exact check_eq_ok_iff.2
    ⟨hparse, hdigest, IgnorePolicy.firstMatch?_eq_none_iff.2 fun p hp ↦ hnone p (h hp)⟩

theorem exists_check_eq_error (h : wide.policy.patterns ⊆ narrow.policy.patterns)
    (hcheck : wide.check image = .error reason) :
    ∃ reason', narrow.check image = .error reason' := by
  rcases hnarrow : narrow.check image with reason' | r
  · exact ⟨reason', rfl⟩
  · rw [check_of_subset h hnarrow] at hcheck
    cases hcheck

/-! ### A pod -/

theorem eligible?_of_subset (h : wide.policy.patterns ⊆ narrow.policy.patterns)
    (hc : narrow.eligible? c = some r) : wide.eligible? c = some r := by
  obtain ⟨image, himage, hcheck⟩ := eligible?_eq_some_iff.1 hc
  exact eligible?_eq_some_iff.2 ⟨image, himage, check_of_subset h hcheck⟩

/-- The container at a place of a pod is not sent to the cache. -/
structure Leaves (config : RedirectConfig) (p : Pod) (kind : ContainerKind) (i : ℕ)
    (c : Container) : Prop where
  notEligible : config.eligible? c = none
  container : ((config.redirectPod true p).1.containersOf kind)[i]? = some c

/-- The container at a place of a pod is sent to the cache: it gets this image, and this origin is
put on record for it, which stands if no other container has its annotation. -/
structure Sends (config : RedirectConfig) (p : Pod) (kind : ContainerKind) (i : ℕ)
    (c : Container) (image origin : String) : Prop where
  eligible : (config.eligible? c).isSome
  container : ((config.redirectPod true p).1.containersOf kind)[i]? =
    some { c with image := some image }
  recorded : p.containerKeys.Nodup →
    (config.redirectPod true p).1.metadata.annotation? (Marks.containerKey c.name kind) =
      some origin

variable {kind : ContainerKind} {i : ℕ}

theorem leaves_of_not_eligible (hc : (p.containersOf kind)[i]? = some c)
    (h : config.eligible? c = none) : config.Leaves p kind i c :=
  ⟨h, by rw [config.getElem?_redirectPod hc, redirected_of_not_eligible h]⟩

theorem sends_of_eligible (hc : (p.containersOf kind)[i]? = some c)
    (h : config.eligible? c = some r) :
    config.Sends p kind i c (r.redirect config.proxyPort).text r.source.text := by
  refine ⟨by rw [h]; rfl, by rw [config.getElem?_redirectPod hc, redirected_of_eligible h],
    fun hkeys ↦ ?_⟩
  rw [redirectPod_true]
  exact annotation?_redirectedMetadata hkeys (List.mem_of_getElem? hc) h

/-- **A policy only narrows what is redirected, in any order of its patterns.** No policy changes
the other reasons against an image, and the pattern that is named is the first that occurs in it.
The order of the patterns does not matter to which images pass, and under more patterns no image
passes that did not. So of the containers of a pod, those that are sent to the cache under more
patterns are sent there under fewer too: they get the same image, and have the same origin on
record. -/
theorem policy_only_narrows (wide narrow : RedirectConfig) :
    (∀ image reason, (∀ pattern, reason ≠ .ignored pattern) →
        (wide.check image = .error reason ↔ narrow.check image = .error reason)) ∧
      (∀ image pattern, wide.check image = .error (.ignored pattern) ↔
        ∃ r, parse image = .ok r ∧ r.digest = none ∧
          ∃ before p after, wide.policy.patterns = before ++ p :: after ∧
            (∀ q ∈ before, q.occursIn image = false) ∧ p.occursIn image = true ∧
              p.text = pattern) ∧
      (wide.policy.patterns.Perm narrow.policy.patterns →
        ∀ image r, wide.check image = .ok r ↔ narrow.check image = .ok r) ∧
      (wide.policy.patterns ⊆ narrow.policy.patterns →
        (∀ image reason, wide.check image = .error reason →
          ∃ reason', narrow.check image = .error reason') ∧
        (wide.proxyPort = narrow.proxyPort →
          ∀ (p : Pod) (kind : ContainerKind) (i : ℕ) (c : Container),
            (p.containersOf kind)[i]? = some c →
            narrow.Leaves p kind i c ∨
              ∃ image origin, narrow.Sends p kind i c image origin ∧
                wide.Sends p kind i c image origin)) := by
  refine ⟨fun image reason h ↦ check_eq_error_congr wide narrow h,
    fun image pattern ↦ check_eq_ignored_iff, fun hperm image r ↦ ?_, fun hsubset ↦
    ⟨fun image reason ↦ exists_check_eq_error hsubset, fun hport p kind i c hc ↦ ?_⟩⟩
  · exact ⟨check_of_subset hperm.symm.subset, check_of_subset hperm.subset⟩
  · rcases heligible : narrow.eligible? c with - | r
    · exact .inl (leaves_of_not_eligible hc heligible)
    · have hwide := sends_of_eligible hc (eligible?_of_subset hsubset heligible)
      rw [hport] at hwide
      exact .inr ⟨_, _, sends_of_eligible hc heligible, hwide⟩

/-- A pattern more, put first: another one is named for an image that was ignored, an image is
ignored that was not, and a third goes where it went. -/
theorem policy_only_narrows_of_latest :
    let alpine : Pattern := (Pattern.ofText? "alpine").getD default
    let latest : Pattern := (Pattern.ofText? ":latest$").getD default
    let wide : RedirectConfig := { proxyPort := 4242, policy := { patterns := [alpine] } }
    let narrow : RedirectConfig := { proxyPort := 4242, policy := { patterns := [latest, alpine] } }
    let web : Container := { name := "web", image := some "nginx:latest" }
    let app : Container := { name := "app", image := some "quay.io:443/app:1" }
    let p : Pod := { spec := some { containers := [web, app] } }
    wide.policy.patterns ⊆ narrow.policy.patterns ∧
      wide.check "alpine:latest" = .error (.ignored "alpine") ∧
      (∃ reason, narrow.check "alpine:latest" = .error reason) ∧
      narrow.Leaves p .regular 0 web ∧
      ∃ image origin, narrow.Sends p .regular 1 app image origin ∧
        wide.Sends p .regular 1 app image origin := by
  intro alpine latest wide narrow web app p
  have hsubset : wide.policy.patterns ⊆ narrow.policy.patterns := List.subset_cons_self _ _
  have halpine : wide.check "alpine:latest" = .error (.ignored "alpine") := by rfl
  obtain ⟨-, -, -, hnarrows⟩ := policy_only_narrows wide narrow
  obtain ⟨hrejects, hpod⟩ := hnarrows hsubset
  refine ⟨hsubset, halpine, hrejects _ _ halpine, ?_, ?_⟩
  · rcases hpod rfl p .regular 0 web rfl with hleaves | ⟨image, origin, hsends, -⟩
    · exact hleaves
    · have hweb : (narrow.eligible? web).isSome = false := by decide +kernel
      rw [hsends.eligible] at hweb
      cases hweb
  · rcases hpod rfl p .regular 1 app rfl with hleaves | hsends
    · have happ : (narrow.eligible? app).isSome = true := by decide +kernel
      rw [hleaves.notEligible] at happ
      cases happ
    · exact hsends

end RedirectConfig

end PullCache
