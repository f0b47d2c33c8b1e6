import PullCache.Proofs.Reference.Segment
import PullCache.Proofs.Reference.WellFormed

/-!
# What the cache can tell about the origin of a reference

A redirected reference is read back, and `source` finds the registry in its path. Which references
survive this is decided by the registry alone: `Reference.IsRecoverable` asks for a dot in the host,
by which the segment is taken for a registry at all, and that no digits of the host are mistaken for
a port.

The written forms are compared by `Separated.eq_of_text_eq`: references whose separators are where
they belong are told apart by what is written, well formed or not. A redirected reference is
`Separated` even when its segment has capital letters and it cannot be read back.
-/

namespace PullCache.Reference

open Text (cutFirst)
open Grammar

variable {r r' r₁ r₂ : Reference} {s domain : String} (proxyPort : UInt16)

/-! ### The domain of the cache -/

theorem toList_cacheDomain : (cacheDomain proxyPort).toList =
    localHost.toList ++ ':' :: (toString proxyPort.toNat).toList := by
  simp [cacheDomain]

theorem isDigits_toString (n : ℕ) : isDigits (toString n).toList = true := by
  rw [isDigits_iff, mem_oneOrMore_oneOf, Nat.toString_eq_repr, Nat.toList_repr]
  exact ⟨Nat.toDigits_ne_nil, fun c hc ↦ Nat.isDigit_of_mem_toDigits (by decide) (by decide) hc⟩

theorem isDomain_cacheDomain : isDomain (cacheDomain proxyPort).toList = true := by
  rw [isDomain_iff_exists]
  exact .inr ⟨_, _, toList_cacheDomain proxyPort, by decide, isDigits_toString _⟩

theorem hostOf_cacheDomain : hostOf (cacheDomain proxyPort) = localHost := by
  rw [← String.toList_inj]
  exact toList_hostOf_of_append (by decide) (toList_cacheDomain proxyPort)

theorem isLocal_redirect (r : Reference) : (r.redirect proxyPort).isLocal = true := by
  rw [isLocal, host, redirect, Option.map_some, hostOf_cacheDomain, beq_self_eq_true]

/-! ### The path under which the cache serves a reference -/

/-- A reference keeps its path when it names no registry but the node itself. -/
theorem cachedPath_of_unnamed (h : ∀ domain, r.domain = some domain → hostOf domain = localHost) :
    r.cachedPath = r.path := by
  unfold cachedPath
  rcases hd : r.domain with - | domain
  · rfl
  · exact if_pos (h domain hd)

theorem toList_cachedPath_of_named (hd : r.domain = some domain)
    (hhost : hostOf domain ≠ localHost) :
    r.cachedPath.toList = (segmentOfDomain domain).toList ++ '/' :: r.path.toList := by
  simp [cachedPath, hd, hhost]

/-- The registry that a reference names, if it is not the node itself. -/
theorem named_cases (r : Reference) :
    (∀ domain, r.domain = some domain → hostOf domain = localHost) ∨
      ∃ domain, r.domain = some domain ∧ hostOf domain ≠ localHost := by
  by_cases h : ∃ domain, r.domain = some domain ∧ hostOf domain ≠ localHost
  · exact .inr h
  · refine .inl fun domain hd ↦ ?_
    by_contra hhost
    exact h ⟨domain, hd, hhost⟩

/-- A reference that the cache serves keeps its path when it is redirected again. -/
theorem cachedPath_redirect (r : Reference) : (r.redirect proxyPort).cachedPath = r.cachedPath :=
  cachedPath_of_unnamed fun domain hd ↦ by
    rw [← Option.some.inj hd, hostOf_cacheDomain]

/-- Redirecting again changes the port and nothing else. -/
theorem redirect_redirect (lastPort : UInt16) (r : Reference) :
    (r.redirect proxyPort).redirect lastPort = r.redirect lastPort := by
  conv_lhs => rw [redirect, cachedPath_redirect]
  rfl

/-! ### Reading a redirected reference -/

theorem isUpper_eq_false_of_mem_localHost {c : Char} (hc : c ∈ localHost.toList) :
    c.isUpper = false := by
  have hall : localHost.toList.all (fun c ↦ !c.isUpper) = true := by decide
  simpa using List.all_eq_true.1 hall c hc

/-- No capital letter stands in the host. -/
def HasLowerCaseHost (r : Reference) : Prop :=
  ∀ domain, r.domain = some domain → ∀ c ∈ (hostOf domain).toList, c.isUpper = false

theorem isDomain_of_wellFormed (h : r.WellFormed) (hd : r.domain = some domain) :
    isDomain domain.toList = true :=
  isDomain_iff.2 (h.domain domain hd).1

/-- **The path in the cache is a path exactly when the host has no capital letter.** -/
theorem isPath_cachedPath_iff (h : r.WellFormed) :
    isPath r.cachedPath.toList = true ↔ r.HasLowerCaseHost := by
  have hpath := isPath_iff.2 h.path.2
  rcases named_cases r with hunnamed | ⟨domain, hd, hhost⟩
  · rw [cachedPath_of_unnamed hunnamed]
    refine iff_of_true hpath fun domain hd ↦ ?_
    rw [hunnamed domain hd]
    exact fun c ↦ isUpper_eq_false_of_mem_localHost
  · have hdomain := isDomain_of_wellFormed h hd
    have hslash := slash_notMem_segmentOfDomain hdomain
    rw [toList_cachedPath_of_named hd hhost, isPath, Text.components_append hslash, List.all_cons,
      Bool.and_eq_true, ← isPath, and_iff_left hpath, isPathComponent_segmentOfDomain_iff hdomain]
    constructor
    · intro hlower other hother
      rw [hd] at hother
      obtain rfl := Option.some.inj hother
      exact hlower
    · intro hlower
      exact hlower domain hd

/-- The registry and the path are found apart in the cached path. -/
theorem cutFirst_cachedPath_of_named (h : r.WellFormed) (hd : r.domain = some domain)
    (hhost : hostOf domain ≠ localHost) : cutFirst '/' r.cachedPath.toList =
      some ((segmentOfDomain domain).toList, r.path.toList) := by
  rw [toList_cachedPath_of_named hd hhost]
  exact Text.cutFirst_append (slash_notMem_segmentOfDomain (isDomain_of_wellFormed h hd)) _

theorem notMem_cachedPath (h : r.WellFormed) {c : Char} (hc : c = '@' ∨ c = ':') :
    c ∉ r.cachedPath.toList := by
  have hpath : c ∉ r.path.toList := by
    rcases hc with rfl | rfl
    · exact h.separated.path.1
    · exact h.separated.path.2
  rcases named_cases r with hunnamed | ⟨domain, hd, hhost⟩
  · rwa [cachedPath_of_unnamed hunnamed]
  · rw [toList_cachedPath_of_named hd hhost, List.mem_append, List.mem_cons]
    rintro (hmem | rfl | hmem)
    · obtain ⟨hchar, hcolon⟩ :=
        isDomainChar_of_mem_segmentOfDomain (isDomain_of_wellFormed h hd) hmem
      rcases hc with rfl | rfl
      · exact absurd hchar (by decide)
      · exact hcolon rfl
    · rcases hc with hc | hc <;> exact absurd hc (by decide)
    · exact hpath hmem

/-- A redirected reference can be cut into its parts, even if they are not well formed. -/
theorem separated_redirect (h : r.WellFormed) : (r.redirect proxyPort).Separated where
  domain domain hd := by
    obtain rfl := Option.some.inj hd
    have hdomain := isDomain_cacheDomain proxyPort
    refine ⟨notMem_of_isDomain hdomain (by decide), notMem_of_isDomain hdomain (by decide), ?_⟩
    rw [looksLikeDomain_iff, toList_cacheDomain]
    exact .inr (.inl (by simp))
  start hd := by cases hd
  path := ⟨notMem_cachedPath h (.inl rfl), notMem_cachedPath h (.inr rfl)⟩
  tag := h.separated.tag

/-- References whose separators are where they belong are told apart by their written forms. -/
theorem Separated.eq_of_text_eq (h : r.Separated) (h' : r'.Separated) (htext : r.text = r'.text) :
    r = r' := by
  rw [← split_text h, ← split_text h', htext]

theorem wellFormed_redirect_iff (h : r.WellFormed) : (r.redirect proxyPort).WellFormed ↔
    r.HasLowerCaseHost ∧ (r.redirect proxyPort).name.utf8ByteSize ≤ maxNameLength := by
  constructor
  · intro hredirect
    exact ⟨(isPath_cachedPath_iff h).1 (isPath_iff.2 hredirect.path.2), hredirect.length⟩
  · rintro ⟨hlower, hlength⟩
    have hpath := (isPath_cachedPath_iff h).2 hlower
    refine ⟨fun domain hd ↦ ?_, fun hd ↦ ?_, ⟨ne_empty_of_isPath hpath, isPath_iff.1 hpath⟩,
      h.tag, fun digest hdigest ↦ ?_, hlength⟩
    · obtain rfl := Option.some.inj hd
      refine ⟨isDomain_iff.1 (isDomain_cacheDomain proxyPort), .inr (.inl ?_)⟩
      rw [toList_cacheDomain]
      simp
    · cases hd
    · cases hdigest

/-- **What is written for the cache reads as the redirected reference**, if it can be read. -/
theorem parse_redirect_iff (h : r.WellFormed) : parse (r.redirect proxyPort).text = .ok r' ↔
    r' = r.redirect proxyPort ∧ r.HasLowerCaseHost ∧
      (r.redirect proxyPort).name.utf8ByteSize ≤ maxNameLength := by
  rw [← wellFormed_redirect_iff proxyPort h]
  constructor
  · intro hparse
    have hwf := WellFormed.of_parse hparse
    obtain rfl := hwf.separated.eq_of_text_eq (separated_redirect proxyPort h)
      (text_of_parse hparse)
    exact ⟨rfl, hwf⟩
  · rintro ⟨rfl, hwf⟩
    exact hwf.parse_text

/-! ### Back to the origin -/

/-- The registry that is named, if it is not the node itself, is taken for one and is found in its
segment. -/
def IsRecoverable (r : Reference) : Prop :=
  ∀ domain, r.domain = some domain → hostOf domain ≠ localHost →
    '.' ∈ (hostOf domain).toList ∧ (':' ∈ domain.toList ∨ ¬ EndsInNumber (hostOf domain))

instance (r : Reference) : Decidable r.IsRecoverable :=
  inferInstanceAs (Decidable (∀ domain ∈ r.domain, hostOf domain ≠ localHost →
    '.' ∈ (hostOf domain).toList ∧ (':' ∈ domain.toList ∨ ¬ EndsInNumber (hostOf domain))))

theorem source_of_not_isLocal (h : r.isLocal = false) : r.source = r := by
  simp [source, h]

theorem source_of_named (hd : r.domain = some domain) (hhost : hostOf domain ≠ localHost) :
    r.source = r := by
  refine source_of_not_isLocal ?_
  simpa [isLocal, host, hd] using hhost

/-- The port at which the node is asked tells nothing about the origin. -/
theorem source_eq_of_isLocal (h : r.isLocal = true) (h' : r'.isLocal = true)
    (hpath : r'.path = r.path) (htag : r'.tag = r.tag) (hdigest : r'.digest = r.digest) :
    r'.source = r.source := by
  simp only [source, if_pos h, if_pos h', hpath, htag, hdigest]

/-- Without a registry other than the node, the origin of the redirected reference is that of the
reference. -/
theorem source_redirect_of_unnamed (h : r.WellFormed)
    (hunnamed : ∀ domain, r.domain = some domain → hostOf domain = localHost)
    (hdigest : r.digest = none) : (r.redirect proxyPort).source = r.source := by
  have hpath : (r.redirect proxyPort).path = r.path := cachedPath_of_unnamed hunnamed
  rcases r with ⟨- | domain, path, tag, digest⟩
  · have hlocal : isLocal ⟨none, path, tag, digest⟩ = false := rfl
    obtain rfl : digest = none := hdigest
    rw [source, if_pos (isLocal_redirect proxyPort _), hpath, source, hlocal]
    rcases hcut : cutFirst '/' path.toList with - | ⟨first, rest⟩
    · rw [← hpath]
      rfl
    · obtain ⟨heq, hfirst⟩ := Text.cutFirst_eq_some_iff.1 hcut
      -- the first part of the bare path is not taken for a registry
      have hdot := (h.start rfl first rest heq hfirst).1
      simp [hdot, redirect, cachedPath]
  · have hlocal : isLocal ⟨some domain, path, tag, digest⟩ = true := by
      simpa [isLocal, host] using hunnamed domain rfl
    exact source_eq_of_isLocal hlocal (isLocal_redirect proxyPort _) hpath rfl hdigest.symm

/-- With a registry other than the node, a dot in the host decides whether the segment is taken for
it. -/
theorem source_redirect_of_named (h : r.WellFormed) (hd : r.domain = some domain)
    (hhost : hostOf domain ≠ localHost) : (r.redirect proxyPort).source =
      if '.' ∈ (hostOf domain).toList then
        { domain := some (domainOfSegment (segmentOfDomain domain))
          path := r.path
          tag := r.tag
          digest := none }
      else { domain := none, path := r.cachedPath, tag := r.tag, digest := none } := by
  have hdomain := isDomain_of_wellFormed h hd
  have hcut := cutFirst_cachedPath_of_named h hd hhost
  rw [source, if_pos (isLocal_redirect proxyPort r)]
  simp only [redirect, hcut, List.contains_iff_mem, dot_mem_segmentOfDomain_iff hdomain,
    String.ofList_toList]

/-- **A recoverable reference has the origin that the cache finds.** -/
theorem source_redirect (h : r.WellFormed) (hdigest : r.digest = none) (hr : r.IsRecoverable) :
    (r.redirect proxyPort).source = r.source := by
  rcases named_cases r with hunnamed | ⟨domain, hd, hhost⟩
  · exact source_redirect_of_unnamed proxyPort h hunnamed hdigest
  · obtain ⟨hdot, hend⟩ := hr domain hd hhost
    have hdomain := (domainOfSegment_segmentOfDomain_iff (isDomain_of_wellFormed h hd)).2 hend
    rw [source_redirect_of_named proxyPort h hd hhost, if_pos hdot, source_of_named hd hhost,
      hdomain, ← hd, ← hdigest]

/-- A domain of a well-formed reference with neither a dot nor `localhost` as its host has a
port. -/
theorem colon_mem_of_dot_notMem (h : r.WellFormed) (hd : r.domain = some domain)
    (hhost : hostOf domain ≠ localHost) (hdot : '.' ∉ (hostOf domain).toList) :
    ':' ∈ domain.toList := by
  rcases domain_cases (isDomain_of_wellFormed h hd) with ⟨-, hof, -⟩ | ⟨port, heq, -, -⟩
  · rw [hof] at hhost hdot
    rcases (h.domain domain hd).2 with h | h | h
    · exact absurd h hdot
    · exact h
    · exact absurd h hhost
  · rw [heq]
    simp

/-- A reference is recoverable when it is written as the origin that the cache finds. -/
theorem isRecoverable_of_text_eq (h : r.WellFormed) (hdigest : r.digest = none)
    (htext : (r.redirect proxyPort).source.text = r.source.text) : r.IsRecoverable := by
  intro domain hd hhost
  have hdomain := isDomain_of_wellFormed h hd
  rw [source_redirect_of_named proxyPort h hd hhost, source_of_named hd hhost] at htext
  by_cases hdot : '.' ∈ (hostOf domain).toList
  · refine ⟨hdot, (domainOfSegment_segmentOfDomain_iff hdomain).1 ?_⟩
    rw [if_pos hdot, ← String.toList_inj, toList_text, toList_text, hd, hdigest] at htext
    simp only [domainStart, introduced, List.append_nil, List.append_assoc] at htext
    exact String.toList_inj.1 (List.append_cancel_right htext)
  · -- the segment alone is written where the domain was, and has no colon
    have hcolon := colon_mem_of_dot_notMem h hd hhost hdot
    rw [if_neg hdot, ← String.toList_inj, toList_text, toList_text, hd, hdigest] at htext
    simp only [toList_cachedPath_of_named hd hhost, domainStart, introduced, List.append_nil,
      List.nil_append, List.append_assoc, List.cons_append] at htext
    rw [← String.toList_inj.1 (List.append_cancel_right htext)] at hcolon
    exact absurd rfl (isDomainChar_of_mem_segmentOfDomain hdomain hcolon).2

/-- **The origin is found exactly for recoverable references.** -/
theorem source_redirect_eq_iff (h : r.WellFormed) (hdigest : r.digest = none) :
    (r.redirect proxyPort).source = r.source ↔ r.IsRecoverable := by
  refine ⟨fun hsource ↦ ?_, source_redirect proxyPort h hdigest⟩
  exact isRecoverable_of_text_eq proxyPort h hdigest (congrArg text hsource)

example : ¬ IsRecoverable ⟨some "registry:5000", "app", none, none⟩ := by decide

example : IsRecoverable ⟨some "registry.local:5000", "app", none, none⟩ := by decide

/-- Among the references that are redirected alike, at most one is not recoverable. -/
theorem eq_of_not_isRecoverable (h₁ : r₁.WellFormed) (h₂ : r₂.WellFormed)
    (hdigest : r₁.digest = r₂.digest) (hr₁ : ¬ r₁.IsRecoverable) (hr₂ : ¬ r₂.IsRecoverable)
    (h : r₁.redirect proxyPort = r₂.redirect proxyPort) : r₁ = r₂ := by
  simp only [IsRecoverable, not_forall] at hr₁ hr₂
  obtain ⟨domain₁, hd₁, hhost₁, hr₁⟩ := hr₁
  obtain ⟨domain₂, hd₂, hhost₂, hr₂⟩ := hr₂
  have hdomain₁ := isDomain_of_wellFormed h₁ hd₁
  have hdomain₂ := isDomain_of_wellFormed h₂ hd₂
  obtain ⟨-, hcached, htag, -⟩ := Reference.mk.inj h
  have hcut : cutFirst '/' r₁.cachedPath.toList = cutFirst '/' r₂.cachedPath.toList := by
    rw [hcached]
  rw [cutFirst_cachedPath_of_named h₁ hd₁ hhost₁, cutFirst_cachedPath_of_named h₂ hd₂ hhost₂,
    Option.some.injEq, Prod.mk.injEq, String.toList_inj, String.toList_inj] at hcut
  obtain ⟨hsegment, hpath⟩ := hcut
  have hdot : '.' ∈ (hostOf domain₁).toList ↔ '.' ∈ (hostOf domain₂).toList := by
    rw [← dot_mem_segmentOfDomain_iff hdomain₁, hsegment, dot_mem_segmentOfDomain_iff hdomain₂]
  -- without a dot both have a port, and with one neither has
  have hport : ':' ∈ domain₁.toList ↔ ':' ∈ domain₂.toList := by
    by_cases hdot₁ : '.' ∈ (hostOf domain₁).toList
    · have hdot₂ := hdot.1 hdot₁
      exact iff_of_false (fun hcolon ↦ hr₁ ⟨hdot₁, .inl hcolon⟩)
        (fun hcolon ↦ hr₂ ⟨hdot₂, .inl hcolon⟩)
    · exact iff_of_true (colon_mem_of_dot_notMem h₁ hd₁ hhost₁ hdot₁)
        (colon_mem_of_dot_notMem h₂ hd₂ hhost₂ (mt hdot.2 hdot₁))
  obtain rfl := eq_of_segmentOfDomain_eq hdomain₁ hdomain₂ hsegment hport
  rcases r₁ with ⟨d₁, path₁, tag₁, digest₁⟩
  rcases r₂ with ⟨d₂, path₂, tag₂, digest₂⟩
  simp only at hd₁ hd₂ hpath htag hdigest
  rw [hd₁, hd₂, hpath, htag, hdigest]

/-- Which references can be read back and are recoverable, by what their domain is. -/
theorem lowerCase_and_isRecoverable_iff : r.HasLowerCaseHost ∧ r.IsRecoverable ↔
    r.domain = none ∨ r.host = some localHost ∨
      ∃ domain, r.domain = some domain ∧ '.' ∈ (hostOf domain).toList ∧
        (∀ c ∈ (hostOf domain).toList, c.isUpper = false) ∧
        (':' ∈ domain.toList ∨ ¬ EndsInNumber (hostOf domain)) := by
  rcases r with ⟨- | domain, path, tag, digest⟩
  · refine iff_of_true ⟨fun domain hd ↦ ?_, fun domain hd ↦ ?_⟩ (.inl rfl) <;> cases hd
  · constructor
    · rintro ⟨hlower, hr⟩
      by_cases hhost : hostOf domain = localHost
      · exact .inr (.inl (congrArg some hhost))
      · obtain ⟨hdot, hend⟩ := hr domain rfl hhost
        exact .inr (.inr ⟨domain, rfl, hdot, hlower domain rfl, hend⟩)
    · rintro (hd | hhost | ⟨other, hd, hdot, hlower, hend⟩)
      · cases hd
      · have hlocal : hostOf domain = localHost := Option.some.inj hhost
        refine ⟨fun other hd ↦ ?_, fun other hd hother ↦ ?_⟩
        · obtain rfl := Option.some.inj hd
          rw [hlocal]
          exact fun c ↦ isUpper_eq_false_of_mem_localHost
        · obtain rfl := Option.some.inj hd
          exact absurd hlocal hother
      · obtain rfl := Option.some.inj hd
        refine ⟨fun other hd ↦ ?_, fun other hd _ ↦ ?_⟩
        · obtain rfl := Option.some.inj hd
          exact hlower
        · obtain rfl := Option.some.inj hd
          exact ⟨hdot, hend⟩

/-- **The exact domain of the round trip.** What is written for an image without a digest reads as
a reference of the same origin exactly when its name fits, and its registry is missing, is the node
itself, or can be told from its segment: a host with a dot, without capital letters, and with a port
or without digits after a last hyphen. -/
theorem parse_redirect_recovers_iff (h : parse s = .ok r) (hdigest : r.digest = none) :
    (∃ r', parse (r.redirect proxyPort).text = .ok r' ∧ r'.source = r.source) ↔
      (r.redirect proxyPort).name.utf8ByteSize ≤ maxNameLength ∧
        (r.domain = none ∨ r.host = some localHost ∨
          ∃ domain, r.domain = some domain ∧ '.' ∈ (hostOf domain).toList ∧
            (∀ c ∈ (hostOf domain).toList, c.isUpper = false) ∧
            (':' ∈ domain.toList ∨ ¬ EndsInNumber (hostOf domain))) := by
  have hwf := WellFormed.of_parse h
  rw [← lowerCase_and_isRecoverable_iff, ← source_redirect_eq_iff proxyPort hwf hdigest]
  constructor
  · rintro ⟨r', hparse, hsource⟩
    obtain ⟨rfl, hlower, hlength⟩ := (parse_redirect_iff proxyPort hwf).1 hparse
    exact ⟨hlength, hlower, hsource⟩
  · rintro ⟨hlength, hlower, hsource⟩
    exact ⟨_, (parse_redirect_iff proxyPort hwf).2 ⟨rfl, hlower, hlength⟩, hsource⟩

/-- A registry at a port survives. -/
theorem parse_redirect_recovers_port :
    parse "185.145.250.247:30042/alpine:latest" =
        .ok ⟨some "185.145.250.247:30042", "alpine", some "latest", none⟩ ∧
      ∃ r', parse "localhost:4242/185.145.250.247-30042/alpine:latest" = .ok r' ∧
        r'.source = ⟨some "185.145.250.247:30042", "alpine", some "latest", none⟩ := by
  have hparse : parse "185.145.250.247:30042/alpine:latest" =
      .ok ⟨some "185.145.250.247:30042", "alpine", some "latest", none⟩ := by rfl
  have hlower : (hostOf "185.145.250.247:30042").toList.all (fun c ↦ c.isUpper == false) =
      true := by decide
  refine ⟨hparse, (parse_redirect_recovers_iff 4242 hparse rfl).2 ⟨by decide, .inr (.inr ?_)⟩⟩
  refine ⟨_, rfl, by decide, fun c hc ↦ ?_, .inl (by decide)⟩
  exact beq_iff_eq.1 (List.all_eq_true.1 hlower c hc)

end PullCache.Reference
