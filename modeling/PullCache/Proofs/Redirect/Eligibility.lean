import PullCache.Proofs.Reference.Recovery
import PullCache.Redirect.Eligibility

/-!
# Which origins the images of the cache stand for

What the check of an image lets through (`check_eq_ok_iff`), and when two images that are sent to
the same place had the same origin: exactly when both are recoverable or neither is. A registry at
a port can be sent where a registry or a namespace of another name is sent too.
-/

namespace PullCache.RedirectConfig

open Reference

variable {config : RedirectConfig} {image image₁ image₂ : String} {r r₁ r₂ : Reference}

/-- An image passes the check when it is a reference without a digest that no pattern occurs in. -/
theorem check_eq_ok_iff : config.check image = .ok r ↔
    parse image = .ok r ∧ r.digest = none ∧ config.policy.firstMatch? image = none := by
  unfold check
  rcases hparse : parse image with error | r'
  · exact iff_of_false (fun h ↦ by cases h) (fun h ↦ by cases h.1)
  · dsimp only
    by_cases hpinned : r'.isPinned = true
    · rw [if_pos hpinned]
      refine iff_of_false (fun h ↦ by cases h) ?_
      rintro ⟨h, hdigest, -⟩
      obtain rfl := Except.ok.inj h
      rw [isPinned, hdigest] at hpinned
      cases hpinned
    · have hdigest : r'.digest = none := by
        simpa [isPinned] using hpinned
      rw [if_neg hpinned]
      rcases config.policy.firstMatch? image with - | pattern
      · constructor
        · intro h
          obtain rfl := Except.ok.inj h
          exact ⟨rfl, hdigest, rfl⟩
        · rintro ⟨h, -, -⟩
          obtain rfl := Except.ok.inj h
          rfl
      · exact iff_of_false (fun h ↦ by cases h) (fun h ↦ by cases h.2.2)

theorem wellFormed_of_check (h : config.check image = .ok r) : r.WellFormed :=
  .of_parse (check_eq_ok_iff.1 h).1

theorem digest_of_check (h : config.check image = .ok r) : r.digest = none :=
  (check_eq_ok_iff.1 h).2.1

/-- **Images that are sent to the same place have the same origin exactly when both are recoverable
or neither is.** -/
theorem source_eq_iff_of_check (h₁ : config.check image₁ = .ok r₁)
    (h₂ : config.check image₂ = .ok r₂) {proxyPort : UInt16}
    (htext : (r₁.redirect proxyPort).text = (r₂.redirect proxyPort).text) :
    r₁.source = r₂.source ↔ (r₁.IsRecoverable ↔ r₂.IsRecoverable) := by
  have hwf₁ := wellFormed_of_check h₁
  have hwf₂ := wellFormed_of_check h₂
  have hdigest₁ := digest_of_check h₁
  have hdigest₂ := digest_of_check h₂
  have hredirect : r₁.redirect proxyPort = r₂.redirect proxyPort :=
    (separated_redirect proxyPort hwf₁).eq_of_text_eq (separated_redirect proxyPort hwf₂) htext
  have hr₁ := source_redirect_eq_iff proxyPort hwf₁ hdigest₁
  have hr₂ := source_redirect_eq_iff proxyPort hwf₂ hdigest₂
  constructor
  · intro hsource
    rw [← hr₁, ← hr₂, hredirect, hsource]
  · intro hr
    by_cases h : r₁.IsRecoverable
    · rw [← hr₁.2 h, ← hr₂.2 (hr.1 h), hredirect]
    · have hdigest : r₁.digest = r₂.digest := hdigest₁.trans hdigest₂.symm
      rw [eq_of_not_isRecoverable proxyPort hwf₁ hwf₂ hdigest h (mt hr.2 h) hredirect]

/-- An image of the node and one of the default registry are sent to the same place, and their
origin is the same. -/
theorem source_eq_of_check_local :
    check { proxyPort := 4242 } "localhost:1313/alpine" =
        .ok ⟨some "localhost:1313", "alpine", none, none⟩ ∧
      check { proxyPort := 4242 } "alpine" = .ok ⟨none, "alpine", none, none⟩ ∧
      (⟨some "localhost:1313", "alpine", none, none⟩ : Reference).source =
        (⟨none, "alpine", none, none⟩ : Reference).source := by
  have h₁ : check { proxyPort := 4242 } "localhost:1313/alpine" =
      .ok ⟨some "localhost:1313", "alpine", none, none⟩ := by rfl
  have h₂ : check { proxyPort := 4242 } "alpine" = .ok ⟨none, "alpine", none, none⟩ := by rfl
  have htext : (redirect ⟨some "localhost:1313", "alpine", none, none⟩ 4242).text =
      (redirect ⟨none, "alpine", none, none⟩ 4242).text := by decide
  refine ⟨h₁, h₂, (source_eq_iff_of_check h₁ h₂ htext).2 ?_⟩
  exact iff_of_true (by decide) (by decide)

/-- **A port and a hyphen are confused.** The image of a registry at a port and an image of the
default registry are sent to the same place, and have different origins. -/
theorem check_confuses_origins : ∃ r₁ r₂ : Reference,
    check { proxyPort := 4242 } "registry:5000/app" = .ok r₁ ∧
      check { proxyPort := 4242 } "registry-5000/app" = .ok r₂ ∧
      (r₁.redirect 4242).text = (r₂.redirect 4242).text ∧ r₁.source ≠ r₂.source := by
  refine ⟨⟨some "registry:5000", "app", none, none⟩, ⟨none, "registry-5000/app", none, none⟩,
    by rfl, by rfl, ?_, ?_⟩
  · decide
  · decide

end PullCache.RedirectConfig
