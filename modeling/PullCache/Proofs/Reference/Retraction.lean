import PullCache.Proofs.Reference.Origin

/-!
# Looking for the origin once is enough

`Reference.source` takes the references that can be read onto those at another registry than the
node, and leaves these as they are. So a second look at an origin finds the same origin, though it
may be the written form of no reference (`wellFormed_source_iff`): whatever becomes the registry of
a local reference has a dot in its host, and `localhost` has none.

That a path which has been read holds no colon is needed for this. A reference put together from
other parts may have an origin at the node, as the last example shows.
-/

namespace PullCache.Reference

variable {r r' : Reference} {s : String}

theorem isLocal_eq_false_iff : r.isLocal = false ↔ r.host ≠ some localHost :=
  beq_eq_false_iff_ne

/-- The registry and the path are all that is changed. -/
theorem tag_source (r : Reference) : r.source.tag = r.tag := by
  unfold source
  repeat' split
  all_goals rfl

theorem digest_source (r : Reference) : r.source.digest = r.digest := by
  unfold source
  repeat' split
  all_goals rfl

/-- **An origin is its own origin.** -/
theorem source_source (h : r.WellFormed) : r.source.source = r.source :=
  source_of_not_isLocal (isLocal_source h)

/-- **The references that are not at the node are those that are their own origin.** -/
theorem source_eq_self_iff (h : r.WellFormed) : r.source = r ↔ r.isLocal = false := by
  constructor
  · intro hself
    rw [← hself]
    exact isLocal_source h
  · exact source_of_not_isLocal

/-- **Looking for the origin is a retraction onto the references that are not at the node.** The
origin of a reference keeps its tag and its digest, is never at the node, and is its own origin; the
references that stay as they are are those that are not at the node. The origin of one that is
depends on its path, its tag and its digest alone. -/
theorem source_retracts (h : parse s = .ok r) :
    r.source.tag = r.tag ∧ r.source.digest = r.digest ∧
      r.source.host ≠ some localHost ∧
      r.source.source = r.source ∧
      (r.source = r ↔ r.host ≠ some localHost) ∧
      (r.host = some localHost → ∀ r' : Reference, r'.host = some localHost →
        r'.path = r.path → r'.tag = r.tag → r'.digest = r.digest → r'.source = r.source) := by
  have hwf := WellFormed.of_parse h
  refine ⟨tag_source r, digest_source r, isLocal_eq_false_iff.1 (isLocal_source hwf),
    source_source hwf, (source_eq_self_iff hwf).trans isLocal_eq_false_iff, ?_⟩
  intro hlocal r' hlocal' hpath htag hdigest
  exact source_eq_of_isLocal (beq_iff_eq.2 hlocal) (beq_iff_eq.2 hlocal') hpath htag hdigest

/-- A segment with digits behind two hyphens, before a path that names the node: the last hyphen is
the colon of the registry, the path stays, and nothing more is found in what comes out. -/
theorem source_retracts_of_ports :
    ∃ r r' : Reference,
      parse "localhost:4242/a-1.b-5000-80/localhost/app:1.0" = .ok r ∧
        parse "localhost/a-1.b-5000-80/localhost/app:1.0" = .ok r' ∧
        r.source.text = "a-1.b-5000:80/localhost/app:1.0" ∧
        r.source.host ≠ some localHost ∧ r.source.source = r.source ∧
        r.source ≠ r ∧ r'.source = r.source := by
  have hparse : parse "localhost:4242/a-1.b-5000-80/localhost/app:1.0" =
      .ok ⟨some "localhost:4242", "a-1.b-5000-80/localhost/app", some "1.0", none⟩ := by rfl
  obtain ⟨-, -, hhost, hagain, hself, hport⟩ := source_retracts hparse
  refine ⟨_, ⟨some "localhost", "a-1.b-5000-80/localhost/app", some "1.0", none⟩, hparse, by rfl,
    by decide, hhost, hagain, fun heq ↦ hself.1 heq (by decide), ?_⟩
  exact hport (by decide) _ (by decide) rfl rfl rfl

/-- With a colon in the path the origin may be at the node again. -/
example : (source ⟨some "localhost", "localhost:a.b/x", none, none⟩).isLocal = true := by decide

end PullCache.Reference
