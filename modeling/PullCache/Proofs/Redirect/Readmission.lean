import PullCache.Proofs.Redirect.Effect
import PullCache.Proofs.Redirect.Eligibility

/-!
# Redirecting a pod again

A pod that has been redirected may be sent through the cache once more. Its images do not change
then: a redirected image is left alone, or it is read as the reference it was written for and goes
where it is (`redirected_redirected`). What is recorded for it the second time is the origin that
the cache finds. This is what was recorded the first time exactly when each image that is looked at
twice is recoverable.
-/

namespace PullCache.RedirectConfig

open Reference

variable {config : RedirectConfig} {c : Container} {image : String} {r r' : Reference} {p : Pod}

/-! ### One container -/

/-- A redirected image that passes the check again is the redirected reference. -/
theorem eq_redirect_of_check (h : config.check image = .ok r)
    (h' : config.check (r.redirect config.proxyPort).text = .ok r') :
    r' = r.redirect config.proxyPort := by
  obtain ⟨hparse, -, -⟩ := check_eq_ok_iff.1 h'
  exact ((parse_redirect_iff _ (wellFormed_of_check h)).1 hparse).1

/-- What is eligible the second time was so the first time. -/
theorem eligible?_redirected_iff : config.eligible? (config.redirected c) = some r' ↔
    ∃ r, config.eligible? c = some r ∧
      config.check (r.redirect config.proxyPort).text = .ok r' := by
  rcases h : config.eligible? c with - | r
  · rw [redirected_of_not_eligible h, h]
    simp
  · rw [redirected_of_eligible h, eligible?_eq_some_iff]
    simp

/-- **A redirected container stays as it is** when it is looked at again. -/
theorem redirected_redirected (config : RedirectConfig) (c : Container) :
    config.redirected (config.redirected c) = config.redirected c := by
  rcases hagain : config.eligible? (config.redirected c) with - | r'
  · exact redirected_of_not_eligible hagain
  · obtain ⟨r, h, hcheck⟩ := eligible?_redirected_iff.1 hagain
    obtain ⟨image, -, himage⟩ := eligible?_eq_some_iff.1 h
    obtain rfl := eq_redirect_of_check himage hcheck
    rw [redirected_of_eligible hagain, redirect_redirect, redirected_of_eligible h]

theorem redirected_comp_redirected (config : RedirectConfig) :
    config.redirected ∘ config.redirected = config.redirected :=
  funext config.redirected_redirected

/-! ### A whole pod -/

/-- The metadata of a pod after its containers have been redirected. -/
def redirectedMetadata (config : RedirectConfig) (p : Pod) : Metadata :=
  Marks.finalize (Marks.recordAll p.metadata (config.records p))

/-- The second time, only the metadata can change. -/
theorem redirectPod_again (config : RedirectConfig) (p : Pod) :
    (config.redirectPod true (config.redirectPod true p).1).1 =
      { (config.redirectPod true p).1 with
        metadata := Marks.finalize (Marks.recordAll (config.redirectedMetadata p)
          (config.records (p.mapContainers config.redirected))) } := by
  have hmap : (p.mapContainers config.redirected).mapContainers config.redirected =
      p.mapContainers config.redirected := by
    rw [Pod.mapContainers_mapContainers, redirected_comp_redirected]
  rw [config.redirectPod_true (config.redirectPod true p).1, config.redirectPod_true p]
  show { (p.mapContainers config.redirected).mapContainers config.redirected with
    metadata := Marks.finalize (Marks.recordAll (config.redirectedMetadata p)
      (config.records (p.mapContainers config.redirected))) } = _
  rw [hmap]

theorem mem_records_redirected_iff {e : String × String} :
    e ∈ config.records (p.mapContainers config.redirected) ↔
      ∃ kind, ∃ c ∈ p.containersOf kind, ∃ r r', config.eligible? c = some r ∧
        config.check (r.redirect config.proxyPort).text = .ok r' ∧
        e = (Marks.containerKey c.name kind, r'.source.text) := by
  rw [mem_records_iff]
  refine exists_congr fun kind ↦ ?_
  rw [Pod.containersOf_mapContainers]
  constructor
  · rintro ⟨_, hmem, r', hr', rfl⟩
    obtain ⟨c, hc, rfl⟩ := List.mem_map.1 hmem
    obtain ⟨r, hr, hcheck⟩ := eligible?_redirected_iff.1 hr'
    exact ⟨c, hc, r, r', hr, hcheck, by rw [redirected_name]⟩
  · rintro ⟨c, hc, r, r', hr, hcheck, rfl⟩
    refine ⟨_, List.mem_map_of_mem hc, r', eligible?_redirected_iff.2 ⟨r, hr, hcheck⟩, ?_⟩
    rw [redirected_name]

/-- The second time, the records are those of the first time for the recoverable images. -/
theorem source_text_eq_iff (hr : config.eligible? c = some r)
    (hr' : config.check (r.redirect config.proxyPort).text = .ok r') :
    r'.source.text = r.source.text ↔ r.IsRecoverable := by
  obtain ⟨image, -, himage⟩ := eligible?_eq_some_iff.1 hr
  obtain rfl := eq_redirect_of_check himage hr'
  have hwf := wellFormed_of_check himage
  have hdigest := digest_of_check himage
  constructor
  · intro htext
    exact isRecoverable_of_text_eq _ hwf hdigest htext
  · intro hrecoverable
    rw [source_redirect _ hwf hdigest hrecoverable]

/-- What a container has on record after the first time. -/
theorem annotation?_redirectedMetadata (hkeys : p.containerKeys.Nodup) {kind : ContainerKind}
    (hc : c ∈ p.containersOf kind) (hr : config.eligible? c = some r) :
    (config.redirectedMetadata p).annotation? (Marks.containerKey c.name kind) =
      some r.source.text := by
  have hmem : (Marks.containerKey c.name kind, r.source.text) ∈ config.records p :=
    mem_records_iff.2 ⟨kind, c, hc, r, hr, rfl⟩
  rw [redirectedMetadata,
    Marks.annotation?_finalize_of_ne (Marks.containerKey_ne_redirectedKey c.name kind)]
  exact Marks.annotation?_recordAll_of_mem (config.nodup_records hkeys) hmem

/-- A pod with a container on record is labelled as managed. -/
theorem label?_redirectedMetadata {kind : ContainerKind} (hc : c ∈ p.containersOf kind)
    (hr : config.eligible? c = some r) :
    (config.redirectedMetadata p).label? Marks.managedKey = some "true" := by
  have hne : config.records p ≠ [] :=
    List.ne_nil_of_mem (mem_records_iff.2 ⟨kind, c, hc, r, hr, rfl⟩)
  rw [redirectedMetadata, Marks.label?_finalize, Marks.label?_recordAll, if_pos ⟨hne, rfl⟩]

/-- The records of the second time. -/
theorem annotation?_again (hkeys : p.containerKeys.Nodup) {kind : ContainerKind}
    (hc : c ∈ p.containersOf kind) (hr : config.eligible? c = some r)
    (hagain : config.check (r.redirect config.proxyPort).text = .ok r') :
    (config.redirectPod true (config.redirectPod true p).1).1.metadata.annotation?
      (Marks.containerKey c.name kind) = some r'.source.text := by
  have hmem : (Marks.containerKey c.name kind, r'.source.text) ∈
      config.records (p.mapContainers config.redirected) :=
    mem_records_redirected_iff.2 ⟨kind, c, hc, r, r', hr, hagain, rfl⟩
  have hkeys' : (p.mapContainers config.redirected).containerKeys.Nodup := by
    rwa [Pod.containerKeys_mapContainers p config.redirected_name]
  rw [redirectPod_again,
    Marks.annotation?_finalize_of_ne (Marks.containerKey_ne_redirectedKey c.name kind)]
  exact Marks.annotation?_recordAll_of_mem (config.nodup_records hkeys') hmem

/-- The second time nothing new is recorded when the images are recoverable. -/
theorem recordAll_again (hkeys : p.containerKeys.Nodup)
    (h : ∀ kind, ∀ c ∈ p.containersOf kind, ∀ r r', config.eligible? c = some r →
      config.check (r.redirect config.proxyPort).text = .ok r' → r.IsRecoverable) :
    Marks.recordAll (config.redirectedMetadata p)
      (config.records (p.mapContainers config.redirected)) = config.redirectedMetadata p := by
  refine Marks.recordAll_eq_self (fun e he ↦ ?_) fun hne ↦ ?_
  · obtain ⟨kind, c, hc, r, r', hr, hagain, rfl⟩ := mem_records_redirected_iff.1 he
    have hrecoverable := h kind c hc r r' hr hagain
    rw [annotation?_redirectedMetadata hkeys hc hr, (source_text_eq_iff hr hagain).2 hrecoverable]
  · obtain ⟨e, he⟩ := List.exists_mem_of_ne_nil _ hne
    obtain ⟨kind, c, hc, r, -, hr, -⟩ := mem_records_redirected_iff.1 he
    exact label?_redirectedMetadata hc hr

/-- **Redirecting again leaves a pod as it is exactly when each image that passes the check both
times is recoverable**, if no two containers share an annotation. -/
theorem redirectPod_again_iff (hkeys : p.containerKeys.Nodup) :
    (config.redirectPod true (config.redirectPod true p).1).1 = (config.redirectPod true p).1 ↔
      ∀ kind, ∀ c ∈ p.containersOf kind, ∀ image r r', c.image = some image →
        config.check image = .ok r →
        config.check (r.redirect config.proxyPort).text = .ok r' → r.IsRecoverable := by
  have hmetadata : (config.redirectPod true p).1.metadata = config.redirectedMetadata p := by
    rw [redirectPod_true, redirectedMetadata]
  constructor
  · intro h kind c hc image r r' himage hcheck hagain
    have hr : config.eligible? c = some r := eligible?_eq_some_iff.2 ⟨image, himage, hcheck⟩
    have hsecond := annotation?_again hkeys hc hr hagain
    rw [h, hmetadata, annotation?_redirectedMetadata hkeys hc hr] at hsecond
    exact (source_text_eq_iff hr hagain).1 (Option.some.inj hsecond).symm
  · intro h
    have hrecords := recordAll_again hkeys fun kind c hc r r' hr hagain ↦ by
      obtain ⟨image, himage, hcheck⟩ := eligible?_eq_some_iff.1 hr
      exact h kind c hc image r r' himage hcheck hagain
    rw [redirectPod_again, hrecords, redirectedMetadata, Marks.finalize_finalize,
      ← redirectedMetadata, ← hmetadata]

/-- A pod of one container. -/
def singlePod (name image : String) : Pod :=
  { spec := some { containers := [{ name, image := some image }] } }

/-- A registry at a port is recorded again as it was. -/
theorem redirectPod_again_port :
    (singlePod "a" "185.145.250.247:30042/alpine").containerKeys.Nodup ∧
      (redirectPod { proxyPort := 4242 } true
        (redirectPod { proxyPort := 4242 } true
          (singlePod "a" "185.145.250.247:30042/alpine")).1).1 =
      (redirectPod { proxyPort := 4242 } true
        (singlePod "a" "185.145.250.247:30042/alpine")).1 := by
  have hkeys : (singlePod "a" "185.145.250.247:30042/alpine").containerKeys.Nodup :=
    List.nodup_singleton _
  refine ⟨hkeys, (redirectPod_again_iff hkeys).2 ?_⟩
  rintro (- | -) c hc image r r' himage hcheck -
  · cases hc
  · obtain rfl := List.mem_singleton.1 hc
    obtain rfl := Option.some.inj himage
    have hr : check { proxyPort := 4242 } "185.145.250.247:30042/alpine" =
        .ok ⟨some "185.145.250.247:30042", "alpine", none, none⟩ := by rfl
    obtain rfl := Except.ok.inj (hr.symm.trans hcheck)
    decide

/-- **A port without a dot is recorded as a hyphen the second time.** -/
theorem redirectPod_again_changes :
    (singlePod "a" "registry:5000/app").containerKeys.Nodup ∧
      (redirectPod { proxyPort := 4242 } true
        (singlePod "a" "registry:5000/app")).1.metadata.annotation?
          "kuik.enix.io/original-image-a" = some "registry:5000/app" ∧
      (redirectPod { proxyPort := 4242 } true
        (redirectPod { proxyPort := 4242 } true
          (singlePod "a" "registry:5000/app")).1).1.metadata.annotation?
            "kuik.enix.io/original-image-a" = some "registry-5000/app" := by
  refine ⟨List.nodup_singleton _, ?_, ?_⟩
  · decide +kernel
  · decide +kernel

end PullCache.RedirectConfig
