import PullCache.Proofs.Reference.Recovery

/-!
# An image handed from cache to cache

What was written for one cache may be read again and written for the next. `relay` does so for a
list of ports and stops at the first text that cannot be read.

The domain of a cache is replaced by the domain of the next one, and the path below it is kept
whole, however much of it looks like a registry. So a relay that gets through ends with what its
last port alone gives (`relay_concat_eq_ok_iff`), and the origin that a cache finds does not depend
on its port (`source_redirect_eq_source_redirect`).
-/

namespace PullCache.Reference

variable {r r' : Reference} {s text : String} {ports : List UInt16} {port lastPort : UInt16}

/-- Reads a text and writes it for the cache at a port. -/
def handOn (text : String) (port : UInt16) : Except ReferenceError String :=
  match parse text with
  | .ok r => .ok (r.redirect port).text
  | .error fault => .error fault

/-- Hands a text on from port to port, first to last. -/
def relay (text : String) (ports : List UInt16) : Except ReferenceError String :=
  ports.foldlM handOn text

/-! ### One port -/

theorem handOn_eq_ok_iff : handOn s port = .ok text ↔
    ∃ r, parse s = .ok r ∧ text = (r.redirect port).text := by
  unfold handOn
  rcases parse s with fault | r
  · simp
  · simp [eq_comm]

/-- **Handing on twice is handing on to the second port**, when the text in between can be read. -/
theorem handOn_text_redirect (h : r.WellFormed) :
    handOn (r.redirect port).text lastPort = .ok text ↔
      text = (r.redirect lastPort).text ∧ ∃ r', parse (r.redirect port).text = .ok r' := by
  rw [handOn_eq_ok_iff]
  constructor
  · rintro ⟨r', hparse, rfl⟩
    obtain ⟨rfl, -⟩ := (parse_redirect_iff port h).1 hparse
    exact ⟨by rw [redirect_redirect], _, hparse⟩
  · rintro ⟨rfl, r', hparse⟩
    obtain ⟨rfl, -⟩ := (parse_redirect_iff port h).1 hparse
    exact ⟨_, hparse, by rw [redirect_redirect]⟩

/-- What a cache takes for the origin does not depend on the port it listens at. -/
theorem source_redirect_eq_source_redirect (r : Reference) (port lastPort : UInt16) :
    (r.redirect port).source = (r.redirect lastPort).source :=
  source_eq_of_isLocal (isLocal_redirect lastPort r) (isLocal_redirect port r) rfl rfl rfl

/-! ### All ports -/

theorem relay_nil (text : String) : relay text [] = .ok text := rfl

theorem relay_singleton (text : String) (port : UInt16) : relay text [port] = handOn text port :=
  (List.foldlM_cons ..).trans (bind_pure _)

theorem relay_append (text : String) (ports ports' : List UInt16) :
    relay text (ports ++ ports') = relay text ports >>= (relay · ports') :=
  List.foldlM_append

theorem relay_concat_eq_ok_iff_exists : relay s (ports ++ [lastPort]) = .ok text ↔
    ∃ between, relay s ports = .ok between ∧ handOn between lastPort = .ok text := by
  rw [relay_append]
  rcases relay s ports with fault | between
  · simp [bind, Except.bind]
  · simp [bind, Except.bind, relay_singleton]

/-- **A relay ends with what its last port alone gives**, and it gets through exactly when the
texts of all earlier ports can be read. -/
theorem relay_concat_eq_ok_iff (h : parse s = .ok r) :
    relay s (ports ++ [lastPort]) = .ok text ↔
      text = (r.redirect lastPort).text ∧
        ∀ port ∈ ports, ∃ r', parse (r.redirect port).text = .ok r' := by
  have hwf := WellFormed.of_parse h
  -- from the end, since each port is given what the port before it has written
  induction ports using List.reverseRecOn generalizing lastPort text with
  | nil =>
    rw [relay_concat_eq_ok_iff_exists]
    simp [relay_nil, handOn_eq_ok_iff, h]
  | append_singleton ports port ih =>
    rw [relay_concat_eq_ok_iff_exists]
    constructor
    · rintro ⟨between, hrelay, hlast⟩
      obtain ⟨rfl, hports⟩ := ih.1 hrelay
      obtain ⟨rfl, hport⟩ := (handOn_text_redirect hwf).1 hlast
      refine ⟨rfl, fun port' hmem ↦ ?_⟩
      rcases List.mem_append.1 hmem with hmem | hmem
      · exact hports port' hmem
      · exact List.mem_singleton.1 hmem ▸ hport
    · rintro ⟨rfl, hports⟩
      have hearlier := fun port' hmem ↦ hports port' (List.mem_append_left [port] hmem)
      have hport := hports port (by simp)
      exact ⟨_, ih.2 ⟨rfl, hearlier⟩, (handOn_text_redirect hwf).2 ⟨rfl, hport⟩⟩

/-- **The last port wins, and the origin is the same all along.** A relay that begins with an image
gets through exactly when the texts in between can be read, and then it ends with what the image
alone is written as for the last port. Whatever it ends with, after however many ports, reads as a
reference of one and the same origin. -/
theorem relay_last_port_wins (h : parse s = .ok r) :
    (∀ (ports : List UInt16) (lastPort : UInt16) (text : String),
      relay s (ports ++ [lastPort]) = .ok text ↔
        text = (r.redirect lastPort).text ∧
          ∀ port ∈ ports, ∃ r', parse (r.redirect port).text = .ok r') ∧
      ∃ origin, ∀ (ports : List UInt16) (text : String) (r' : Reference),
        ports ≠ [] → relay s ports = .ok text → parse text = .ok r' → r'.source = origin := by
  refine ⟨fun ports lastPort text ↦ relay_concat_eq_ok_iff h, (r.redirect 0).source, ?_⟩
  intro ports text r' hne hrelay hparse
  obtain ⟨earlier, lastPort, rfl⟩ := (List.eq_nil_or_concat' ports).resolve_left hne
  obtain ⟨rfl, -⟩ := (relay_concat_eq_ok_iff h).1 hrelay
  obtain ⟨rfl, -⟩ := (parse_redirect_iff lastPort (WellFormed.of_parse h)).1 hparse
  exact source_redirect_eq_source_redirect r lastPort 0

/-- A path that starts with `localhost` keeps it through every port. -/
theorem relay_localhost_path :
    parse "localhost:5000/localhost/app:1.0" =
        .ok ⟨some "localhost:5000", "localhost/app", some "1.0", none⟩ ∧
      relay "localhost:5000/localhost/app:1.0" [4242, 7439] =
        .ok "localhost:7439/localhost/app:1.0" := by
  have hparse : parse "localhost:5000/localhost/app:1.0" =
      .ok ⟨some "localhost:5000", "localhost/app", some "1.0", none⟩ := by rfl
  refine ⟨hparse, ((relay_last_port_wins hparse).1 [4242] 7439 _).2 ⟨by decide, ?_⟩⟩
  intro port hport
  obtain rfl := List.mem_singleton.1 hport
  exact ⟨_, by rfl⟩

end PullCache.Reference
