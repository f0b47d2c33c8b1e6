import Mathlib.Data.List.Forall2
import PullCache.Proofs.Config.Reading
import PullCache.Startup

/-!
# The stages of a start

A service is made of a file and the variables that are set, in five stages: the file is a text, its
placeholders are set, the filled text is the YAML of a configuration, the port of the configuration
is of use, and so are its patterns. Here each stage is a relation between what goes in and what
comes out, and none of them mentions loading. `ConfigFile.Passes` puts them in a row, and
`ConfigFile.FailsWith` breaks the row off at the first stage that has no outcome.

Every file does one of the two (`passes_or_failsWith`), and either one decides what loading returns.
So both are equivalences, and a start has nothing else to go by: the files for TLS are looked at
only behind the last stage.
-/

namespace PullCache

open Template (Reading IsFirstUnset filledFrom)

variable {env : Environment} {file : ConfigFile} {text filled name image : String}
  {cause : VariableError} {config : Config} {redirect : RedirectConfig} {error : ConfigError}

/-! ### From the file to a text -/

/-- The file can be read, and its bytes are those of a text. -/
def ConfigFile.Holds (file : ConfigFile) (text : String) : Prop :=
  file.bytes = some text.toUTF8

theorem ConfigFile.text?_eq_some_iff : file.text? = some text ↔ file.Holds text := by
  rw [ConfigFile.text?, Option.bind_eq_some_iff, ConfigFile.Holds]
  constructor
  · rintro ⟨bytes, hbytes, htext⟩
    rw [hbytes, Text.fromUTF8?_eq_some_iff.1 htext]
  · intro h
    exact ⟨_, h, Text.fromUTF8?_eq_some_iff.2 rfl⟩

/-! ### From the text to one without placeholders -/

namespace Template

/-- All placeholders of a text are set, and this is what it becomes. -/
def Fills (env : Environment) (text filled : String) : Prop :=
  ∃ found last, Reading text.toList found last ∧
    (∀ f ∈ found, env.IsSet f.name) ∧ filled.toList = filledFrom env found last

/-- A name that is not set, in the first such placeholder of a text, and why it is not. -/
def Lacks (env : Environment) (text name : String) (cause : VariableError) : Prop :=
  ∃ found last f, Reading text.toList found last ∧ IsFirstUnset env found f ∧ f.name = name ∧
    env.value name = .error cause

theorem fill_eq_ok_iff_fills : fill env text = .ok filled ↔ Fills env text filled := by
  constructor
  · intro h
    obtain ⟨found, last, hreading⟩ := exists_reading text.toList
    exact ⟨found, last, hreading, hreading.fill_eq_ok_iff.1 h⟩
  · rintro ⟨found, last, hreading, hfilled⟩
    exact hreading.fill_eq_ok_iff.2 hfilled

theorem fill_eq_error_iff_lacks :
    fill env text = .error ⟨name, cause⟩ ↔ Lacks env text name cause := by
  constructor
  · intro h
    obtain ⟨found, last, hreading⟩ := exists_reading text.toList
    obtain ⟨f, hf, hname, hcause⟩ := hreading.fill_eq_error_iff.1 h
    exact ⟨found, last, f, hreading, hf, hname, hcause⟩
  · rintro ⟨found, last, f, hreading, hf, hname, hcause⟩
    exact hreading.fill_eq_error_iff.2 ⟨f, hf, hname, hcause⟩

theorem fills_or_lacks (env : Environment) (text : String) :
    (∃ filled, Fills env text filled) ∨ ∃ name cause, Lacks env text name cause := by
  rcases hfill : fill env text with ⟨name, cause⟩ | filled
  · exact .inr ⟨name, cause, fill_eq_error_iff_lacks.1 hfill⟩
  · exact .inl ⟨filled, fill_eq_ok_iff_fills.1 hfill⟩

end Template

/-! ### From the listed patterns to a policy -/

namespace IgnorePolicy

variable {policy : IgnorePolicy} {texts : List String}

/-- The patterns of a policy are read off texts, one off each and in their order. -/
def IsOf (policy : IgnorePolicy) (texts : List String) : Prop :=
  List.Forall₂ (fun text p ↦ Pattern.ofText? text = some p) texts policy.patterns

theorem mapM_eq_some_iff {α β : Type} {read : α → Option β} {items : List α} {values : List β} :
    items.mapM read = some values ↔ List.Forall₂ (fun a b ↦ read a = some b) items values := by
  induction items generalizing values with
  | nil => simp [eq_comm]
  | cons item items ih =>
    rw [List.mapM_cons, List.forall₂_cons_left_iff]
    simp only [Option.bind_eq_bind, Option.bind_eq_some_iff, Option.pure_def, Option.some.injEq, ih]
    constructor
    · rintro ⟨value, hvalue, values, hvalues, rfl⟩
      exact ⟨value, values, hvalue, hvalues, rfl⟩
    · rintro ⟨value, values, hvalue, hvalues, rfl⟩
      exact ⟨value, hvalue, values, hvalues, rfl⟩

theorem mapM_eq_none_iff {α β : Type} {read : α → Option β} {items : List α} :
    items.mapM read = none ↔ ∃ item ∈ items, read item = none := by
  induction items with
  | nil => simp
  | cons item items ih =>
    rw [List.mapM_cons, List.exists_mem_cons_iff, ← ih]
    rcases read item with - | value
    · simp
    · rcases items.mapM read with - | values <;> simp

theorem ofTexts?_eq_some_iff : ofTexts? texts = some policy ↔ policy.IsOf texts := by
  rw [ofTexts?, Option.map_eq_some_iff, IsOf]
  constructor
  · rintro ⟨patterns, h, rfl⟩
    exact mapM_eq_some_iff.1 h
  · intro h
    exact ⟨policy.patterns, mapM_eq_some_iff.2 h, rfl⟩

theorem ofTexts?_eq_none_iff :
    ofTexts? texts = none ↔ ∃ text ∈ texts, Pattern.ofText? text = none := by
  rw [ofTexts?, Option.map_eq_none_iff, mapM_eq_none_iff]

theorem IsOf.map_text (h : policy.IsOf texts) : policy.patterns.map Pattern.text = texts := by
  rw [IsOf] at h
  generalize policy.patterns = patterns at h
  induction h with
  | nil => rfl
  | cons hp _ ih => rw [List.map_cons, Pattern.text_of_ofText? hp, ih]

/-- **The first listed pattern that matches is named.** -/
theorem IsOf.firstMatch?_eq (h : policy.IsOf texts) (image : String) : policy.firstMatch? image =
    texts.find? fun text ↦ (Pattern.ofText? text).any (·.occursIn image) := by
  rw [IsOf] at h
  rw [firstMatch?]
  generalize policy.patterns = patterns at h
  -- along both lists at once: a pattern that does not occur is passed over with its text
  induction h with
  | nil => rfl
  | @cons text p _ _ hp _ ih =>
    rw [List.find?_cons, List.find?_cons, hp, Option.any_some]
    cases p.occursIn image
    · exact ih
    · exact congrArg some (Pattern.text_of_ofText? hp)

end IgnorePolicy

/-! ### All stages -/

namespace ConfigFile

/-- A file that is a text, with all placeholders set, and then the YAML of a configuration. -/
def Configures (file : ConfigFile) (env : Environment) (config : Config) : Prop :=
  ∃ text filled, file.Holds text ∧ Template.Fills env text filled ∧
    Config.ofText? filled = some config

/-- **A file gets through all stages**: it configures what is of use. -/
structure Passes (file : ConfigFile) (env : Environment) (config : Config)
    (redirect : RedirectConfig) : Prop where
  configures : file.Configures env config
  port : config.proxyPort ≠ 0
  policy : redirect.policy.IsOf config.ignoreImages
  /-- Nothing else is taken over but the port. -/
  proxyPort : redirect.proxyPort = config.proxyPort

/-- **A file fails at a stage**, having got through those before it. -/
inductive FailsWith (file : ConfigFile) (env : Environment) : ConfigError → Prop
  | unreadable (hread : ∀ text, ¬ file.Holds text) : FailsWith file env (.unreadable file.path)
  | unset {text name : String} {cause : VariableError} (hread : file.Holds text)
    (hunset : Template.Lacks env text name cause) : FailsWith file env (.unset ⟨name, cause⟩)
  | misshapen {text filled : String} (hread : file.Holds text)
    (hfill : Template.Fills env text filled) (hdecode : Config.ofText? filled = none) :
    FailsWith file env .misshapen
  | zeroProxyPort {config : Config} (hconfig : file.Configures env config)
    (hport : config.proxyPort = 0) : FailsWith file env .zeroProxyPort
  | badPattern {config : Config} {pattern : String} (hconfig : file.Configures env config)
    (hport : config.proxyPort ≠ 0) (hmem : pattern ∈ config.ignoreImages)
    (hpattern : Pattern.ofText? pattern = none) : FailsWith file env .badPattern

/-- Every file does one or the other. -/
theorem passes_or_failsWith (file : ConfigFile) (env : Environment) :
    (∃ config redirect, file.Passes env config redirect) ∨ ∃ error, file.FailsWith env error := by
  -- a stage is asked only when those before it have an outcome, as `FailsWith` wants it
  by_cases hread : ∃ text, file.Holds text
  · obtain ⟨text, hread⟩ := hread
    rcases Template.fills_or_lacks env text with ⟨filled, hfill⟩ | ⟨name, cause, hunset⟩
    · rcases hdecode : Config.ofText? filled with - | config
      · exact .inr ⟨_, .misshapen hread hfill hdecode⟩
      · have hconfig : file.Configures env config := ⟨text, filled, hread, hfill, hdecode⟩
        by_cases hport : config.proxyPort = 0
        · exact .inr ⟨_, .zeroProxyPort hconfig hport⟩
        · rcases hpolicy : IgnorePolicy.ofTexts? config.ignoreImages with - | policy
          · obtain ⟨pattern, hmem, hpattern⟩ := IgnorePolicy.ofTexts?_eq_none_iff.1 hpolicy
            exact .inr ⟨_, .badPattern hconfig hport hmem hpattern⟩
          · exact .inl ⟨config, ⟨config.proxyPort, policy⟩, hconfig, hport,
              IgnorePolicy.ofTexts?_eq_some_iff.1 hpolicy, rfl⟩
    · exact .inr ⟨_, .unset hread hunset⟩
  · exact .inr ⟨_, .unreadable (not_exists.1 hread)⟩

theorem Configures.load_eq (h : file.Configures env config) :
    Config.load env file = .ok config := by
  obtain ⟨text, filled, hread, hfill, hdecode⟩ := h
  simp only [Config.load, text?_eq_some_iff.2 hread, Template.fill_eq_ok_iff_fills.2 hfill, hdecode]

theorem Passes.redirectConfig_eq (h : file.Passes env config redirect) :
    config.redirectConfig = .ok redirect := by
  rcases redirect with ⟨proxyPort, policy⟩
  obtain rfl : proxyPort = config.proxyPort := h.proxyPort
  simp only [Config.redirectConfig, if_neg h.port, IgnorePolicy.ofTexts?_eq_some_iff.2 h.policy]

/-- A file that gets through is made into what it configures. -/
theorem Passes.load_eq (h : file.Passes env config redirect) :
    (Config.load env file).bind Config.redirectConfig = .ok redirect := by
  rw [h.configures.load_eq]
  exact h.redirectConfig_eq

/-- A file that fails gives the error of its stage. -/
theorem FailsWith.load_eq (h : file.FailsWith env error) :
    (Config.load env file).bind Config.redirectConfig = .error error := by
  cases h with
  | unreadable hread =>
    have htext : file.text? = none := Option.eq_none_iff_forall_ne_some.2 fun text htext ↦
      hread text (text?_eq_some_iff.1 htext)
    rw [Config.load, htext]
    rfl
  | unset hread hunset =>
    rw [Config.load, text?_eq_some_iff.2 hread]
    dsimp only
    rw [Template.fill_eq_error_iff_lacks.2 hunset]
    rfl
  | misshapen hread hfill hdecode =>
    simp only [Config.load, text?_eq_some_iff.2 hread, Template.fill_eq_ok_iff_fills.2 hfill,
      hdecode]
    rfl
  | zeroProxyPort hconfig hport =>
    rw [hconfig.load_eq]
    exact if_pos hport
  | badPattern hconfig hport hmem hpattern =>
    have hpolicy := IgnorePolicy.ofTexts?_eq_none_iff.2 ⟨_, hmem, hpattern⟩
    rw [hconfig.load_eq]
    show Config.redirectConfig _ = _
    simp only [Config.redirectConfig, if_neg hport, hpolicy]

/-- **Passing is what makes a file of use**, and what it is made into says so. -/
theorem load_bind_eq_ok_iff : (Config.load env file).bind Config.redirectConfig = .ok redirect ↔
    ∃ config, file.Passes env config redirect := by
  constructor
  · intro h
    rcases file.passes_or_failsWith env with ⟨config, redirect', hpasses⟩ | ⟨error, hfails⟩
    · obtain rfl := Except.ok.inj (hpasses.load_eq.symm.trans h)
      exact ⟨config, hpasses⟩
    · cases hfails.load_eq.symm.trans h
  · rintro ⟨config, hpasses⟩
    exact hpasses.load_eq

/-- **The error is that of the stage that has no outcome.** -/
theorem load_bind_eq_error_iff :
    (Config.load env file).bind Config.redirectConfig = .error error ↔
      file.FailsWith env error := by
  constructor
  · intro h
    rcases file.passes_or_failsWith env with ⟨config, redirect, hpasses⟩ | ⟨error', hfails⟩
    · cases hpasses.load_eq.symm.trans h
    · obtain rfl := Except.error.inj (hfails.load_eq.symm.trans h)
      exact hfails
  · exact FailsWith.load_eq

/-- The port is zero once its placeholder is filled, so the pattern that is none is not told of. -/
example : (Config.load (Dict.ofList [("PORT", "0".toUTF8)]) ⟨"config.yaml",
    some "webserver:\n  port: 8443\nproxyPort: $\x7bPORT\x7d\nignoreImages:\n- (\n".toUTF8⟩).bind
    Config.redirectConfig = .error .zeroProxyPort := by
  refine load_bind_eq_error_iff.2 (.zeroProxyPort
    (?hconfig : Configures _ _ ⟨⟨8443, none⟩, 0, ["("]⟩) rfl)
  refine ⟨_, _, rfl, Template.fill_eq_ok_iff_fills.1 rfl, ?_⟩
  decide +kernel

/-- When a file passes, without what it is made into. -/
theorem exists_passes_iff : (∃ redirect, file.Passes env config redirect) ↔
    file.Configures env config ∧ config.proxyPort ≠ 0 ∧
      ∀ pattern ∈ config.ignoreImages, (Pattern.ofText? pattern).isSome := by
  constructor
  · rintro ⟨redirect, h⟩
    refine ⟨h.configures, h.port, fun pattern hmem ↦ Option.isSome_iff_ne_none.2 fun hnone ↦ ?_⟩
    have hpolicy := IgnorePolicy.ofTexts?_eq_none_iff.2 ⟨pattern, hmem, hnone⟩
    rw [IgnorePolicy.ofTexts?_eq_some_iff.2 h.policy] at hpolicy
    cases hpolicy
  · rintro ⟨hconfig, hport, hpatterns⟩
    rcases hpolicy : IgnorePolicy.ofTexts? config.ignoreImages with - | policy
    · obtain ⟨pattern, hmem, hnone⟩ := IgnorePolicy.ofTexts?_eq_none_iff.1 hpolicy
      exact absurd hnone (Option.isSome_iff_ne_none.1 (hpatterns pattern hmem))
    · exact ⟨⟨config.proxyPort, policy⟩, hconfig, hport,
        IgnorePolicy.ofTexts?_eq_some_iff.1 hpolicy, rfl⟩

end ConfigFile

/-! ### From the file to a service -/

namespace Service

/-- The service of a configuration, with what it redirects. -/
def configured (config : Config) (redirect : RedirectConfig) : Service :=
  { webhook := { config := redirect, hasDecoder := true }, server := config.webServer }

theorem ofFile_eq_configured (h : file.Passes env config redirect) :
    ofFile env file = .ok (configured config redirect) := by
  rw [ofFile, h.configures.load_eq]
  show ofConfig config = _
  rw [ofConfig, h.redirectConfig_eq]
  rfl

theorem ofFile_eq_error (h : file.FailsWith env error) : ofFile env file = .error error := by
  have hload := h.load_eq
  rw [ofFile]
  rcases hconfig : Config.load env file with unloaded | config
  · rw [hconfig] at hload
    exact congrArg Except.error (Except.error.inj hload)
  · rw [hconfig] at hload
    have hredirect : config.redirectConfig = .error error := hload
    show (config.redirectConfig.map _) = _
    rw [hredirect]
    rfl

variable {m : Type → Type} [Monad m]

end Service

end PullCache
