import PullCache.Proofs.Redirect.Readmission

/-!
# Which redirected images can be read

The registry of an image moves from the domain into the path when the image is redirected, and the
name grows by the domain of the cache. Paths have no capital letters, and names have at most 255
bytes; a domain may have capital letters, and the name may fit before and not after. So what is
written for an eligible image is not always a reference. `redirectPod_readable_iff` says when it is.
-/

namespace PullCache.RedirectConfig

open Reference

variable {config : RedirectConfig} {p : Pod} {kind : ContainerKind} {c : Container}
  {image : String} {r : Reference} {i : ℕ}

/-- A container of the pod, at its place in the redirected pod. -/
theorem containersOf_redirectPod (config : RedirectConfig) (p : Pod) (kind : ContainerKind) :
    (config.redirectPod true p).1.containersOf kind =
      (p.containersOf kind).map config.redirected :=
  config.containersOf_redirectPod_if true p kind

/-- **A redirected image can be read exactly when the host of its registry has no capital letter
and its name fits.** It is then a reference at the domain of the cache, with the tag of the image
and without a digest. -/
theorem redirectPod_readable_iff (hc : (p.containersOf kind)[i]? = some c)
    (himage : c.image = some image) (hcheck : config.check image = .ok r) :
    ∃ d target, ((config.redirectPod true p).1.containersOf kind)[i]? = some d ∧
      d.image = some target ∧
      ((∃ r', parse target = .ok r' ∧ r'.domain = some (cacheDomain config.proxyPort) ∧
          r'.tag = r.tag ∧ r'.digest = none) ↔
        (∀ domain, r.domain = some domain →
          ∀ letter ∈ (hostOf domain).toList, letter.isUpper = false) ∧
        (r.redirect config.proxyPort).name.utf8ByteSize ≤ maxNameLength) := by
  have hr : config.eligible? c = some r := eligible?_eq_some_iff.2 ⟨image, himage, hcheck⟩
  have hwf : r.WellFormed := wellFormed_of_check hcheck
  refine ⟨config.redirected c, (r.redirect config.proxyPort).text, ?_, ?_, ?_⟩
  · rw [containersOf_redirectPod, List.getElem?_map, hc, Option.map_some]
  · rw [redirected_of_eligible hr]
  · constructor
    · rintro ⟨r', hr', -⟩
      exact ((parse_redirect_iff _ hwf).1 hr').2
    · intro hreadable
      exact ⟨_, (parse_redirect_iff _ hwf).2 ⟨rfl, hreadable⟩, rfl, rfl, rfl⟩

/-- A registry in lower case keeps the tag of its image. -/
theorem redirectPod_readable_port :
    ((singlePod "a" "quay.io:443/team/app:v2").containersOf .regular)[0]? =
        some { name := "a", image := some "quay.io:443/team/app:v2" } ∧
      check { proxyPort := 4242 } "quay.io:443/team/app:v2" =
        .ok ⟨some "quay.io:443", "team/app", some "v2", none⟩ ∧
      ∃ d target, ((redirectPod { proxyPort := 4242 } true
          (singlePod "a" "quay.io:443/team/app:v2")).1.containersOf .regular)[0]? = some d ∧
        d.image = some target ∧ ∃ r', parse target = .ok r' ∧
          r'.domain = some (cacheDomain 4242) ∧ r'.tag = some "v2" ∧ r'.digest = none := by
  have hcheck : check { proxyPort := 4242 } "quay.io:443/team/app:v2" =
      .ok ⟨some "quay.io:443", "team/app", some "v2", none⟩ := by rfl
  have hc : ((singlePod "a" "quay.io:443/team/app:v2").containersOf .regular)[0]? =
      some { name := "a", image := some "quay.io:443/team/app:v2" } := rfl
  have hlower :
      (hostOf "quay.io:443").toList.all (fun letter ↦ letter.isUpper == false) = true := by
    decide
  obtain ⟨d, target, hd, htarget, hreadable⟩ := redirectPod_readable_iff hc rfl hcheck
  refine ⟨hc, hcheck, d, target, hd, htarget, hreadable.2 ⟨fun domain hdomain letter hletter ↦ ?_,
    by decide⟩⟩
  obtain rfl := Option.some.inj hdomain
  exact beq_iff_eq.1 (List.all_eq_true.1 hlower letter hletter)

/-- **A capital letter in the host ends up in the path**, where it cannot be read. -/
theorem redirectPod_unreadable : ∃ r,
    check { proxyPort := 4242 } "Registry.io/app" = .ok r ∧
      ((redirectPod { proxyPort := 4242 } true
        (singlePod "a" "Registry.io/app")).1.containersOf .regular).map Container.image =
          [some "localhost:4242/Registry.io/app"] ∧
      parse "localhost:4242/Registry.io/app" = .error (.invalidPath "Registry.io/app") := by
  refine ⟨⟨some "Registry.io", "app", none, none⟩, by rfl, ?_, by rfl⟩
  decide +kernel

end PullCache.RedirectConfig
