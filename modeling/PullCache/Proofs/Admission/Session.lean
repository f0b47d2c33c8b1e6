import PullCache.Proofs.Admission.Changes

/-!
# Sessions with a webhook

A session is a list of steps with one webhook: it is given a decoder, or it is asked about a
request. `Webhook.session` runs through the steps and collects the answers.

What a single answer looks like depends on the webhook only through its having a decoder
(`Webhook.isVerdict_handle`), and it has one as soon as it has been given one
(`Webhook.hasDecoder_session`). So each answer of a session is determined by its request and by
whether a decoder came before it (`Webhook.session_answers`). The configuration of the webhook has a
say in the patch and in the events, and none in the verdict.
-/

namespace PullCache

/-- A step of a session: the webhook is given a decoder, or it is asked about a request. -/
inductive SessionStep where
  | inject
  | handle (request : AdmissionRequest)
deriving DecidableEq

/-- What comes back: whether the decoder was taken, or the answer and the events. -/
inductive SessionAnswer where
  | injected (outcome : Except DecoderError Unit)
  | answered (response : AdmissionResponse) (events : List Event)

/-- **The stages of a request**, with what is said at the first one that it fails at: there is no
decoder, the request has no object, the object is known to be of another kind, or it does not look
like a pod. -/
inductive AdmissionRequest.FailsWith (ready : Prop) (request : AdmissionRequest) : String → Prop
  | notInjected (hready : ¬ ready) : FailsWith ready request DecoderError.notInjected.message
  | missingObject (hready : ready) (hobject : request.object = none) :
    FailsWith ready request DecodeError.missingObject.message
  | wrongKind {object : AnyObject} {type : ObjectType} (hready : ready)
    (hobject : request.object = some object) (htype : object.type = some type)
    (hkind : type.kind ≠ "Pod") : FailsWith ready request (DecodeError.wrongKind type.kind).message
  | invalid {object : AnyObject} (hready : ready) (hobject : request.object = some object)
    (hkind : ∀ type, object.type = some type → type.kind = "Pod")
    (hread : Pod.ofJson? object.toJson = none) :
    FailsWith ready request DecodeError.invalid.message

/-- A request without a pod fails at the stage that its error names. -/
theorem AdmissionRequest.failsWith_of_pod_eq_error {request : AdmissionRequest}
    {error : DecodeError} {ready : Prop} (hready : ready) (h : request.pod = .error error) :
    request.FailsWith ready error.message := by
  unfold AdmissionRequest.pod at h
  rcases hobject : request.object with - | object
  · rw [hobject] at h
    obtain rfl := Except.error.inj h
    exact .missingObject hready hobject
  · rw [hobject] at h
    dsimp only at h
    rcases hother : object.type.filter fun type ↦ type.kind != "Pod" with - | type
    · have hkind : ∀ type, object.type = some type → type.kind = "Pod" := by
        simpa [Option.filter_eq_none_iff] using hother
      rw [hother] at h
      rcases hread : Pod.ofJson? object.toJson with - | pod
      · rw [hread] at h
        obtain rfl := Except.error.inj h
        exact .invalid hready hobject hkind hread
      · rw [hread] at h
        cases h
    · obtain ⟨htype, hkind⟩ := Option.filter_eq_some_iff.1 hother
      rw [hother] at h
      obtain rfl := Except.error.inj h
      exact .wrongKind hready hobject htype (by simpa using hkind)

/-- A request has the type of the review that it was read off. -/
theorem Review.type_request {document : Json.Document} {review : Review}
    {request : AdmissionRequest} (hreview : ofDocument document = .ok review)
    (hrequest : review.request = some request) : request.type = review.type := by
  rw [ofDocument] at hreview
  split at hreview
  · cases hreview
  · dsimp only at hreview
    split at hreview
    · obtain rfl := Except.ok.inj hreview
      obtain ⟨written, -, rfl⟩ := Option.map_eq_some_iff.1 hrequest
      rfl
    · cases hreview

namespace Webhook

variable {w : Webhook} {request : AdmissionRequest}

/-! ### One answer -/

/-- The answer to a request and the events, under a configuration, with or without a decoder. -/
structure IsVerdict (config : RedirectConfig) (ready : Prop) (request : AdmissionRequest)
    (response : AdmissionResponse) (events : List Event) : Prop where
  uid : response.uid = request.uid
  /-- The answer has the version and kind of the review that the request came in. -/
  type : response.type = request.type ∧ ∀ document review,
    Review.ofDocument document = .ok review → review.request = some request →
    response.type = review.type
  /-- Nothing but a decoder and a pod is asked for. -/
  allowed : response.allowed = true ↔ ready ∧ ∃ pod, request.pod = .ok pod
  /-- A denial changes nothing, says what failed first, and is told of once. -/
  denied : response.allowed = false → response.patch = none ∧
    (∃ message, request.FailsWith ready message ∧
      response.outcome = { message := some message }) ∧
    ∃ event, events = [event] ∧ event.level = .warn
  /-- An admission is told of last, after what was done about each container. -/
  granted : response.allowed = true → ∃ pod containerEvents event,
    request.pod = .ok pod ∧
      containerEvents = ((config.redirectPod (!Marks.isOptedOut pod.metadata) pod).2.map
        Event.container) ∧
      (∀ e ∈ containerEvents, e.level = .debug) ∧
      events = containerEvents ++ [event] ∧ event.level = .info

/-- A webhook without a decoder denies. -/
theorem handle_of_not_hasDecoder (hdecoder : w.hasDecoder = false) : w.handle request =
    (.deny request DecoderError.notInjected.message, [.unhandled request.uid .notInjected]) := by
  rw [handle, hdecoder]
  rfl

/-- A webhook with a decoder denies a request without a pod. -/
theorem handle_of_pod_eq_error {error : DecodeError} (hdecoder : w.hasDecoder = true)
    (hpod : request.pod = .error error) : w.handle request =
    (.deny request error.message, [.undecoded request.uid error]) := by
  rw [handle, hdecoder, hpod]
  rfl

/-- **Each answer is a verdict.** -/
theorem isVerdict_handle (w : Webhook) (request : AdmissionRequest) :
    IsVerdict w.config (w.hasDecoder = true) request (w.handle request).1
      (w.handle request).2 := by
  have hrepeats : (w.handle request).1.uid = request.uid ∧
      (w.handle request).1.type = request.type := by
    unfold handle
    rcases w.hasDecoder with - | -
    · exact ⟨rfl, rfl⟩
    · rcases request.pod with error | pod <;> exact ⟨rfl, rfl⟩
  refine
    { uid := hrepeats.1
      type := ⟨hrepeats.2, fun document review hreview hrequest ↦
        hrepeats.2.trans (Review.type_request hreview hrequest)⟩
      allowed := handle_allowed_iff
      denied := fun hdenied ↦ ?_
      granted := fun hgranted ↦ ?_ }
  · rcases hdecoder : w.hasDecoder with - | -
    · rw [handle_of_not_hasDecoder hdecoder]
      exact ⟨rfl, ⟨_, .notInjected (by simp), rfl⟩, _, rfl, rfl⟩
    · rcases hpod : request.pod with error | pod
      · rw [handle_of_pod_eq_error hdecoder hpod]
        exact ⟨rfl, ⟨_, AdmissionRequest.failsWith_of_pod_eq_error rfl hpod, rfl⟩, _, rfl, rfl⟩
      · rw [handle_allowed_iff.2 ⟨hdecoder, pod, hpod⟩] at hdenied
        cases hdenied
  · obtain ⟨hdecoder, pod, hpod⟩ := handle_allowed_iff.1 hgranted
    have hevents : ∃ event : Event, event.level = .info ∧ (w.handle request).2 =
        (w.config.redirectPod (!Marks.isOptedOut pod.metadata) pod).2.map .container ++
          [event] := by
      rw [handle, hdecoder, hpod]
      exact ⟨_, rfl, rfl⟩
    obtain ⟨event, hlevel, hevents⟩ := hevents
    refine ⟨pod, _, event, hpod, rfl, fun e he ↦ ?_, hevents, hlevel⟩
    obtain ⟨containerEvent, -, rfl⟩ := List.mem_map.1 he
    rfl

/-! ### Sessions -/

/-- The webhook after a step, and what comes back. A webhook that does not take a decoder stays as
it is, and so does one that is asked. -/
def step (w : Webhook) : SessionStep → Webhook × SessionAnswer
  | .inject =>
    match w.inject with
    | .error error => (w, .injected (.error error))
    | .ok w => (w, .injected (.ok ()))
  | .handle request => (w, .answered (w.handle request).1 (w.handle request).2)

/-- The webhook after a session, and what came back, step by step. -/
def session (w : Webhook) : List SessionStep → Webhook × List SessionAnswer
  | [] => (w, [])
  | step :: steps =>
    let (w, answer) := w.step step
    let (w, answers) := w.session steps
    (w, answer :: answers)

@[simp] theorem config_step (w : Webhook) (step : SessionStep) :
    (w.step step).1.config = w.config := by
  rcases step with - | request
  · rcases w with ⟨config, - | -⟩ <;> rfl
  · rfl

theorem hasDecoder_step (w : Webhook) (step : SessionStep) :
    (w.step step).1.hasDecoder = true ↔ w.hasDecoder = true ∨ step = .inject := by
  rcases step with - | request
  · rcases w with ⟨config, - | -⟩ <;> simp [Webhook.step, inject]
  · simp [Webhook.step]

/-- What comes back when a decoder is given, and that the webhook only changes when it has none. -/
theorem step_inject (w : Webhook) :
    (w.step .inject).2 = .injected
        (if w.hasDecoder = true then .error .alreadyInjected else .ok ()) ∧
      (w.hasDecoder = true → (w.step .inject).1 = w) := by
  rcases w with ⟨config, - | -⟩ <;> simp [Webhook.step, inject]

theorem config_session (w : Webhook) (steps : List SessionStep) :
    (w.session steps).1.config = w.config := by
  induction steps generalizing w with
  | nil => rfl
  | cons step steps ih =>
    calc (w.session (step :: steps)).1.config = ((w.step step).1.session steps).1.config := rfl
      _ = w.config := by rw [ih, config_step]

/-- **A webhook has a decoder once it has been given one.** -/
theorem hasDecoder_session (w : Webhook) (steps : List SessionStep) :
    (w.session steps).1.hasDecoder = true ↔ w.hasDecoder = true ∨ .inject ∈ steps := by
  induction steps generalizing w with
  | nil => simp [session]
  | cons step steps ih =>
    calc (w.session (step :: steps)).1.hasDecoder = true
        ↔ ((w.step step).1.session steps).1.hasDecoder = true := Iff.rfl
      _ ↔ (w.hasDecoder = true ∨ step = .inject) ∨ .inject ∈ steps := by
        rw [ih, hasDecoder_step]
      _ ↔ w.hasDecoder = true ∨ .inject ∈ step :: steps := by
        rw [List.mem_cons, or_assoc, eq_comm (a := step)]

/-- A session goes on where it was left. -/
theorem session_append (w : Webhook) (steps more : List SessionStep) :
    (w.session (steps ++ more)).1 = ((w.session steps).1.session more).1 := by
  induction steps generalizing w with
  | nil => rfl
  | cons step steps ih => exact ih (w.step step).1

/-- The webhook after one more step. -/
theorem session_take_succ (w : Webhook) {steps : List SessionStep} {i : ℕ} {step : SessionStep}
    (hstep : steps[i]? = some step) :
    (w.session (steps.take (i + 1))).1 = ((w.session (steps.take i)).1.step step).1 := by
  rw [List.take_add_one, hstep, session_append]
  rfl

/-- What comes back at each step is what the webhook then gives. -/
theorem getElem?_session (w : Webhook) (steps : List SessionStep) (i : ℕ) :
    (w.session steps).2[i]? =
      steps[i]?.map fun step ↦ ((w.session (steps.take i)).1.step step).2 := by
  induction steps generalizing w i with
  | nil => rfl
  | cons step steps ih =>
    rcases i with - | i
    · rfl
    · exact ih (w.step step).1 i

/-- **The answers of a session.** Each step of a session with a new webhook is answered. The first
decoder is taken; a later one is not, and leaves the webhook as it is. The answer to a request is
a verdict by the configuration, the request and whether a decoder came before it. -/
theorem session_answers (config : RedirectConfig) (steps : List SessionStep) (i : ℕ) :
    (steps[i]? = some .inject →
      (session { config } steps).2[i]? = some (.injected
        (if .inject ∈ steps.take i then .error .alreadyInjected else .ok ())) ∧
      (.inject ∈ steps.take i →
        (session { config } (steps.take (i + 1))).1 = (session { config } (steps.take i)).1)) ∧
    ∀ request, steps[i]? = some (.handle request) → ∃ response events,
      (session { config } steps).2[i]? = some (.answered response events) ∧
      IsVerdict config (.inject ∈ steps.take i) request response events := by
  set w := (session { config } (steps.take i)).1 with hw
  have hconfig : w.config = config := config_session _ _
  have hready : w.hasDecoder = true ↔ .inject ∈ steps.take i := by
    rw [hw, hasDecoder_session]
    simp
  refine ⟨fun hstep ↦ ?_, fun request hstep ↦ ?_⟩
  · obtain ⟨hanswer, hsame⟩ := w.step_inject
    constructor
    · rw [getElem?_session, hstep, Option.map_some, ← hw, hanswer]
      simp only [hready]
    · intro hinjected
      rw [session_take_succ _ hstep, ← hw]
      exact hsame (hready.2 hinjected)
  · refine ⟨_, _, by rw [getElem?_session, hstep, Option.map_some, ← hw]; rfl, ?_⟩
    have hverdict := w.isVerdict_handle request
    rwa [hconfig, hready] at hverdict

/-- Asked before it has a decoder, a webhook denies; asked again after it was given two, it admits
the same pod. -/
theorem session_answers_of_two_decoders :
    let request := toCreatePod "main" "app"
    let answers := (session { config := { proxyPort := 4242 } }
      [.handle request, .inject, .inject, .handle request]).2
    (∃ response events, answers[0]? = some (.answered response events) ∧
      response.allowed = false ∧
      response.outcome.message = some "admission decoder has not been injected") ∧
    answers[1]? = some (.injected (.ok ())) ∧
    answers[2]? = some (.injected (.error .alreadyInjected)) ∧
    ∃ response events, answers[3]? = some (.answered response events) ∧
      response.allowed = true := by
  intro request answers
  have hanswers := session_answers { proxyPort := 4242 }
    [.handle request, .inject, .inject, .handle request]
  have hpod : ∃ pod, request.pod = .ok pod := ⟨_, rfl⟩
  refine ⟨?_, ((hanswers 1).1 rfl).1, ((hanswers 2).1 rfl).1, ?_⟩
  · obtain ⟨response, events, hanswer, hverdict⟩ := (hanswers 0).2 request rfl
    have hdenied : response.allowed = false := by
      rw [← Bool.not_eq_true, hverdict.allowed]
      simp
    obtain ⟨-, ⟨message, hfails, houtcome⟩, -⟩ := hverdict.denied hdenied
    refine ⟨response, events, hanswer, hdenied, ?_⟩
    rw [houtcome]
    cases hfails with
    | notInjected => rfl
    | missingObject hready | wrongKind hready | invalid hready => simp at hready
  · obtain ⟨response, events, hanswer, hverdict⟩ := (hanswers 3).2 request rfl
    exact ⟨response, events, hanswer, hverdict.allowed.2 ⟨by simp, hpod⟩⟩

end Webhook

end PullCache
