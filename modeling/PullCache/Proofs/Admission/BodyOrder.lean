import PullCache.Proofs.Admission.ReviewOrder
import PullCache.Service.Http

/-!
# Bodies with their members in another order

Two bodies may be JSON texts of one value, but for the order of the members of its objects. A
webhook gives both the same answer, but for two things (`Webhook.respond_of_sameTextButOrder`).

- What is no review gets the status of the fault that comes first, if it has faults of both kinds.
- An object whose type is disputed may be admitted in one order and denied in the other.

Texts of one value can be of different sizes, and one that is too large is turned down unread.
`Webhook.respond_depends_on_order` has two bodies for each of the three.
-/

namespace PullCache

open Json (Document Fault)
open Json.Document (SameButOrder)

variable {d d' : Document}

/-! ### Answers -/

namespace Webhook

open ObjectType (IsDisputed said)
open Review (objectMembers)

variable {w : Webhook}

/-- An answer depends on the object of a request through the pod only. -/
theorem handle_eq_of_pod_eq {request request' : AdmissionRequest}
    (hsame : request' = { request with object := request'.object })
    (hpod : request.pod = request'.pod) : w.handle request = w.handle request' := by
  obtain ⟨type, uid, operation, space, object⟩ := request
  obtain ⟨type', uid', operation', space', object'⟩ := request'
  obtain ⟨rfl, rfl, rfl, rfl, -⟩ := AdmissionRequest.mk.inj hsame
  rw [handle, handle, hpod]
  rfl

/-- Reviews in two orders get one answer, unless the type of the object is disputed and version and
kind change places. -/
theorem answer_eq (h : d.SameButOrder d') (type : ObjectType)
    (horder : IsDisputed (objectMembers d) →
      (said (objectMembers d)).map Prod.fst = (said (objectMembers d')).map Prod.fst) :
    w.answer ⟨type, Review.requestOf? type d⟩ = w.answer ⟨type, Review.requestOf? type d'⟩ := by
  have hrequest := h.get? "request"
  unfold objectMembers at horder
  unfold Review.requestOf?
  generalize d.get? "request" = o at hrequest horder
  generalize d'.get? "request" = o' at hrequest horder
  cases hrequest with
  | none => rfl
  | @some r r' hr =>
    have hsame : w.handle (Review.requestOf type r) = w.handle (Review.requestOf type r') :=
      handle_eq_of_pod_eq (Review.requestOf_eq hr type) (Review.pod_requestOf_eq hr type horder)
    cases hr with
    | null => rfl
    | bool | num | str | arr | obj => exact hsame

/-- The answer to a body that is read. -/
def answerBody (w : Webhook) (body : String) : HttpResponse × List Event :=
  match Review.read body with
  | .error fault => ({ status := statusOfFault fault }, [])
  | .ok review => ({ status := 200, body := some (w.answer review).1 }, (w.answer review).2)

/-- The status of a request whose body is not read. -/
def unreadStatus? (request : HttpRequest) : Option Nat :=
  match HttpRequest.route? request.path with
  | none => some 404
  | some .probe => some (if request.method = "GET" ∨ request.method = "HEAD" then 204 else 405)
  | some .mutate =>
    if request.method ≠ "POST" then some 405
    else if !request.hasJsonBody then some 415
    else if HttpRequest.maxBodySize < request.body.utf8ByteSize then some 413
    else none

theorem respond_eq (w : Webhook) (request : HttpRequest) :
    w.respond request = (unreadStatus? request).elim (w.answerBody request.body)
      fun status ↦ ({ status }, []) := by
  unfold respond unreadStatus? answerBody
  rcases HttpRequest.route? request.path with - | - | -
  · rfl
  · rfl
  · dsimp only
    split
    · rfl
    · split
      · rfl
      · split <;> rfl

/-- Whether a body is read depends on its size, and else on the rest of the request. -/
theorem unreadStatus?_congr {request request' : HttpRequest}
    (hrequest : request' = { request with body := request'.body })
    (hsize : HttpRequest.maxBodySize < request.body.utf8ByteSize ↔
      HttpRequest.maxBodySize < request'.body.utf8ByteSize) :
    unreadStatus? request = unreadStatus? request' := by
  obtain ⟨method, target, contentType, body⟩ := request
  obtain ⟨method', target', contentType', body'⟩ := request'
  obtain ⟨rfl, rfl, rfl, -⟩ := HttpRequest.mk.inj hrequest
  unfold unreadStatus?
  rw [if_congr hsize rfl rfl]
  rfl

theorem read_eq_of_complete {body : String} (hbody : (Document.read body).2 = false) :
    Review.read body = Review.ofDocument (Document.read body).1 := by
  rw [Review.read]
  generalize Document.read body = read at hbody
  obtain ⟨d, more⟩ := read
  obtain rfl : more = false := hbody
  dsimp only
  rcases Review.ofDocument d with fault | review <;> rfl

theorem answerBody_of_review {body : String} {review : Review}
    (hread : Review.read body = .ok review) : w.answerBody body =
      ({ status := 200, body := some (w.answer review).1 }, (w.answer review).2) := by
  rw [answerBody, hread]

theorem answerBody_of_fault {body : String} {fault : Fault}
    (hread : Review.read body = .error fault) :
    w.answerBody body = ({ status := statusOfFault fault }, []) := by
  rw [answerBody, hread]

theorem statusOfFault_ne (fault : Fault) : statusOfFault fault ≠ 200 := by
  cases fault <;> decide

/-! ### Bodies in two orders -/

/-- A request for an answer to a body. -/
def post (body : String) : HttpRequest :=
  { target := "/mutate-core-v1-pod", contentType := some "application/json", body }

theorem unreadStatus?_post (body : String) : unreadStatus? (post body) =
    if HttpRequest.maxBodySize < body.utf8ByteSize then some 413 else none := by
  have hroute : HttpRequest.route? (post body).path = some .mutate := by
    show HttpRequest.route? (post "").path = some .mutate
    decide +kernel
  have hmedia : (post body).hasJsonBody = true := by
    show (post "").hasJsonBody = true
    decide +kernel
  rw [unreadStatus?, hroute, hmedia]
  rfl

/-- The answer to a body that is not too large, as what it is read as. -/
theorem respond_post_of_read {body : String}
    (hsize : body.utf8ByteSize ≤ HttpRequest.maxBodySize)
    (hread : Document.read body = (d, false)) :
    w.respond (post body) = match Review.ofDocument d with
      | .error fault => ({ status := statusOfFault fault }, [])
      | .ok review =>
        ({ status := 200, body := some (w.answer review).1 }, (w.answer review).2) := by
  have hreview : Review.read body = Review.ofDocument d := by
    rw [read_eq_of_complete (by rw [hread]), hread]
  rw [respond_eq, unreadStatus?_post, if_neg (Nat.not_lt.2 hsize), Option.elim_none, answerBody,
    ← hreview]
  rfl

/-- A body that asks to create an object with this text. -/
def bodyToCreate (object : String) : String :=
  "\x7b\"apiVersion\":\"admission.k8s.io/v1\",\"kind\":\"AdmissionReview\",\"request\":\x7b" ++
    "\"uid\":\"1\",\"kind\":\x7b\"group\":\"\",\"version\":\"v1\",\"kind\":\"Pod\"\x7d," ++
    "\"resource\":\x7b\"group\":\"\",\"version\":\"v1\",\"resource\":\"pods\"\x7d," ++
    "\"operation\":\"CREATE\",\"userInfo\":\x7b\x7d,\"object\":" ++ object ++ "\x7d\x7d"

/-- A review that asks to create an object. -/
def reviewToCreate (object : Json) : Document :=
  .ofJson <| .obj
    [("apiVersion", .str "admission.k8s.io/v1"), ("kind", .str "AdmissionReview"),
     ("request", .obj
       [("uid", .str "1"),
        ("kind", .obj [("group", .str ""), ("version", .str "v1"), ("kind", .str "Pod")]),
        ("resource", .obj
          [("group", .str ""), ("version", .str "v1"), ("resource", .str "pods")]),
        ("operation", .str "CREATE"), ("userInfo", .obj []), ("object", object)])]

/-- A service whose version is a number, with the kind first. -/
def serviceByKind : String := "\x7b\"kind\":\"Service\",\"apiVersion\":1\x7d"

/-- The same service with the version first. -/
def serviceByVersion : String := "\x7b\"apiVersion\":1,\"kind\":\"Service\"\x7d"

set_option maxRecDepth 4096 in
theorem read_serviceByKind : Document.read (bodyToCreate serviceByKind) =
    (reviewToCreate (.obj [("kind", .str "Service"), ("apiVersion", .num "1")]), false) := by
  unfold bodyToCreate serviceByKind
  simp only [Document.read_eq, String.toList_append]
  repeat rw [String.toList_ofList]
  rfl

set_option maxRecDepth 4096 in
theorem read_serviceByVersion : Document.read (bodyToCreate serviceByVersion) =
    (reviewToCreate (.obj [("apiVersion", .num "1"), ("kind", .str "Service")]), false) := by
  unfold bodyToCreate serviceByVersion
  simp only [Document.read_eq, String.toList_append]
  repeat rw [String.toList_ofList]
  rfl

/-- A pod with an image, with the kind first. -/
def podByKind : String :=
  "\x7b\"kind\":\"Pod\",\"apiVersion\":\"v1\"," ++
    "\"spec\":\x7b\"containers\":[\x7b\"name\":\"a\",\"image\":\"app\"\x7d]\x7d\x7d"

/-- The same pod with the specification first, and the image before the name. -/
def podBySpec : String :=
  "\x7b\"spec\":\x7b\"containers\":[\x7b\"image\":\"app\",\"name\":\"a\"\x7d]\x7d," ++
    "\"apiVersion\":\"v1\",\"kind\":\"Pod\"\x7d"

set_option maxRecDepth 4096 in
theorem read_podByKind : Document.read (bodyToCreate podByKind) =
    (reviewToCreate (.obj [("kind", .str "Pod"), ("apiVersion", .str "v1"),
      ("spec", .obj [("containers", .arr [.obj [("name", .str "a"), ("image", .str "app")]])])]),
      false) := by
  unfold bodyToCreate podByKind
  simp only [Document.read_eq, String.toList_append]
  repeat rw [String.toList_ofList]
  rfl

set_option maxRecDepth 4096 in
theorem read_podBySpec : Document.read (bodyToCreate podBySpec) =
    (reviewToCreate (.obj
      [("spec", .obj [("containers", .arr [.obj [("image", .str "app"), ("name", .str "a")]])]),
       ("apiVersion", .str "v1"), ("kind", .str "Pod")]),
      false) := by
  unfold bodyToCreate podBySpec
  simp only [Document.read_eq, String.toList_append]
  repeat rw [String.toList_ofList]
  rfl

set_option maxRecDepth 4096 in
theorem utf8ByteSize_bodyToCreate (object : String) :
    (bodyToCreate object).utf8ByteSize = 231 + object.utf8ByteSize + 2 := by
  unfold bodyToCreate
  rw [String.utf8ByteSize_append, String.utf8ByteSize_append]
  rfl

theorem utf8ByteSize_bodyToCreate_le {object : String} (h : object.utf8ByteSize ≤ 100) :
    (bodyToCreate object).utf8ByteSize ≤ HttpRequest.maxBodySize := by
  rw [utf8ByteSize_bodyToCreate, HttpRequest.maxBodySize]
  omega

/-- Blanks hold no token. -/
theorem scanUpTo_replicate (limit n : ℕ) :
    Json.Token.scanUpTo limit (List.replicate n ' ') = [] := by
  have hblank : (List.replicate n ' ').dropWhile Json.Token.isBlank = [] := by
    rw [List.dropWhile_replicate, if_pos (by decide)]
  cases limit with
  | zero => rfl
  | succ limit => rw [Json.Token.scanUpTo, hblank]

/-- An array without items, and blanks behind it. -/
def arrayAndBlanks (n : ℕ) : String := String.ofList ('[' :: ']' :: List.replicate n ' ')

theorem read_arrayAndBlanks (n : ℕ) :
    Document.read (arrayAndBlanks n) = (.arr [] true, false) := by
  have htokens : Json.Token.scanUpTo (List.length ('[' :: ']' :: List.replicate n ' '))
      ('[' :: ']' :: List.replicate n ' ') = [.openArray, .closeArray] := by
    show [.openArray, .closeArray] ++ Json.Token.scanUpTo _ (List.replicate n ' ') = _
    rw [scanUpTo_replicate, List.append_nil]
  rw [Document.read_eq, arrayAndBlanks, String.toList_ofList, htokens]
  rfl

theorem utf8ByteSize_arrayAndBlanks (n : ℕ) : (arrayAndBlanks n).utf8ByteSize = n + 2 := by
  have hblanks : Text.byteLength (List.replicate n ' ') = n := by
    induction n with
    | zero => rfl
    | succ n ih =>
      rw [List.replicate_succ, Text.byteLength_cons, ih, Nat.add_comm]
      rfl
  rw [← Text.byteLength_toList, arrayAndBlanks, String.toList_ofList, Text.byteLength_cons,
    Text.byteLength_cons, hblanks]
  show 1 + (1 + n) = n + 2
  omega

/-! ### The order of members -/

/-- **The order of the members of a body.** Two bodies are JSON texts of one value, but for the
order of the members of its objects, and neither is too large unless the other is. What is a review
in one order is a review in the other. A review gets the same answer in both orders, unless the type
of its object is disputed and version and kind change places. What is no review gets the same answer
too, unless it has faults of both kinds: then each answer has the status of the fault that is first
in its body. -/
theorem respond_of_sameTextButOrder (w : Webhook) {request request' : HttpRequest}
    (hrequest : request' = { request with body := request'.body })
    (h : Document.SameTextButOrder request.body request'.body)
    (hsize : HttpRequest.maxBodySize < request.body.utf8ByteSize ↔
      HttpRequest.maxBodySize < request'.body.utf8ByteSize) :
    let review := (Document.read request.body).1
    let review' := (Document.read request'.body).1
    ((w.respond request).1.status = 200 ↔ (w.respond request').1.status = 200) ∧
      ((w.respond request).1.status = 200 →
        (IsDisputed (objectMembers review) → (said (objectMembers review)).map Prod.fst =
          (said (objectMembers review')).map Prod.fst) →
        w.respond request = w.respond request') ∧
      ((w.respond request).1.status ≠ 200 → w.respond request = w.respond request' ∨
        (∀ fault, fault ∈ Review.shape.faults 0 review) ∧ ∃ fault fault',
          (Review.shape.faults 0 review).head? = some fault ∧
            (Review.shape.faults 0 review').head? = some fault' ∧
            w.respond request = ({ status := statusOfFault fault }, []) ∧
            w.respond request' = ({ status := statusOfFault fault' }, [])) := by
  intro review review'
  rw [respond_eq, respond_eq w request', ← unreadStatus?_congr hrequest hsize]
  rcases unreadStatus? request with - | status
  · -- both bodies are read, and are two reviews, one fault, or the first of faults of both kinds
    simp only [Option.elim_none]
    have hread := read_eq_of_complete h.complete
    have hread' := read_eq_of_complete h.complete'
    rcases Review.ofDocument_of_sameButOrder h.same with
      ⟨type, hreview, hreview'⟩ | ⟨fault, hfault, hfault'⟩ |
      ⟨hboth, fault, fault', hfirst, hfirst', hfault, hfault'⟩
    · rw [answerBody_of_review (hread.trans hreview), answerBody_of_review (hread'.trans hreview')]
      refine ⟨Iff.rfl, fun _ horder ↦ ?_, fun hother ↦ absurd rfl hother⟩
      rw [answer_eq h.same type horder]
    · rw [answerBody_of_fault (hread.trans hfault), answerBody_of_fault (hread'.trans hfault')]
      exact ⟨Iff.rfl, fun _ _ ↦ rfl, fun _ ↦ .inl rfl⟩
    · rw [answerBody_of_fault (hread.trans hfault), answerBody_of_fault (hread'.trans hfault')]
      exact ⟨iff_of_false (statusOfFault_ne fault) (statusOfFault_ne fault'),
        fun h200 ↦ absurd h200 (statusOfFault_ne fault),
        fun _ ↦ .inr ⟨hboth, fault, fault', hfirst, hfirst', rfl, rfl⟩⟩
  · exact ⟨Iff.rfl, fun _ _ ↦ rfl, fun _ ↦ .inl rfl⟩

/-- A pod is answered alike in both orders: its image is replaced. -/
theorem respond_alike_of_pod :
    Document.SameTextButOrder (bodyToCreate podByKind) (bodyToCreate podBySpec) ∧
      (respond ⟨{ proxyPort := 4242 }, true⟩ (post (bodyToCreate podByKind))).1.status = 200 ∧
      respond ⟨{ proxyPort := 4242 }, true⟩ (post (bodyToCreate podByKind)) =
        respond ⟨{ proxyPort := 4242 }, true⟩ (post (bodyToCreate podBySpec)) ∧
      PatchOp.replace ["spec", "containers", "0", "image"] (.str "localhost:4242/app") ∈
        ((respond ⟨{ proxyPort := 4242 }, true⟩ (post (bodyToCreate podBySpec))).1.body.bind
          AdmissionResponse.patch).getD [] := by
  have hsame : Document.SameTextButOrder (bodyToCreate podByKind) (bodyToCreate podBySpec) := by
    refine ⟨by rw [read_podByKind], by rw [read_podBySpec], ?_⟩
    rw [read_podByKind, read_podBySpec]
    decide +kernel
  have hsmall : (bodyToCreate podByKind).utf8ByteSize ≤ HttpRequest.maxBodySize :=
    utf8ByteSize_bodyToCreate_le (by decide +kernel)
  have hsmall' : (bodyToCreate podBySpec).utf8ByteSize ≤ HttpRequest.maxBodySize :=
    utf8ByteSize_bodyToCreate_le (by decide +kernel)
  have hanswer : respond ⟨{ proxyPort := 4242 }, true⟩ (post (bodyToCreate podByKind)) = _ :=
    respond_post_of_read hsmall read_podByKind
  have hstatus :
      (respond ⟨{ proxyPort := 4242 }, true⟩ (post (bodyToCreate podByKind))).1.status = 200 := by
    rw [hanswer]
    decide +kernel
  have hsettled : ¬ IsDisputed (objectMembers (Document.read (bodyToCreate podByKind)).1) := by
    rw [read_podByKind]
    decide +kernel
  have hrequest : post (bodyToCreate podBySpec) =
      { post (bodyToCreate podByKind) with body := bodyToCreate podBySpec } := rfl
  obtain ⟨-, halike, -⟩ := respond_of_sameTextButOrder ⟨{ proxyPort := 4242 }, true⟩ hrequest
    hsame (iff_of_false (Nat.not_lt.2 hsmall) (Nat.not_lt.2 hsmall'))
  have hequal := halike hstatus fun hdisputed ↦ absurd hdisputed hsettled
  refine ⟨hsame, hstatus, hequal, ?_⟩
  rw [← hequal, hanswer]
  decide +kernel

/-- **The order of members can be seen.** Of two faults the first one decides on the status. A body
that is too large is turned down unread, and blanks make it larger. And an object that is no pod is
admitted when its kind comes before a version that is no string, and denied when it comes behind. -/
theorem respond_depends_on_order :
    let w : Webhook := ⟨{ proxyPort := 4242 }, true⟩
    let status (body : String) := (w.respond (post body)).1.status
    let allowed (body : String) := (w.respond (post body)).1.body.map (·.allowed)
    let faults := "\x7b\"request\":\x7b\"uid\":5,\"operation\":5\x7d\x7d"
    let faults' := "\x7b\"request\":\x7b\"operation\":5,\"uid\":5\x7d\x7d"
    let large := arrayAndBlanks HttpRequest.maxBodySize
    Document.SameTextButOrder faults faults' ∧ status faults = 422 ∧ status faults' = 400 ∧
      Document.SameTextButOrder "[]" large ∧ status "[]" = 422 ∧ status large = 413 ∧
      Document.SameTextButOrder (bodyToCreate serviceByKind) (bodyToCreate serviceByVersion) ∧
      allowed (bodyToCreate serviceByKind) = some true ∧
      allowed (bodyToCreate serviceByVersion) = some false := by
  intro w status allowed faults faults' large
  have hempty : Document.read "[]" = (.arr [] true, false) := by rfl
  have hlarge := read_arrayAndBlanks HttpRequest.maxBodySize
  have hkind := read_serviceByKind
  have hversion := read_serviceByVersion
  refine ⟨⟨?_, ?_, ?_⟩, ?_, ?_, ⟨?_, ?_, ?_⟩, ?_, ?_, ⟨?_, ?_, ?_⟩, ?_, ?_⟩
  · decide +kernel
  · decide +kernel
  · decide +kernel
  · decide +kernel
  · decide +kernel
  · rw [hempty]
  · rw [hlarge]
  · rw [hempty, hlarge]
    decide
  · decide +kernel
  · show (w.respond (post large)).1.status = 413
    have htoo : HttpRequest.maxBodySize < large.utf8ByteSize := by
      rw [utf8ByteSize_arrayAndBlanks]
      omega
    rw [respond_eq, unreadStatus?_post, if_pos htoo]
    rfl
  · rw [hkind]
  · rw [hversion]
  · rw [hkind, hversion]
    decide +kernel
  · show (w.respond (post (bodyToCreate serviceByKind))).1.body.map (·.allowed) = some true
    rw [respond_post_of_read (utf8ByteSize_bodyToCreate_le (by decide +kernel)) hkind]
    rfl
  · show (w.respond (post (bodyToCreate serviceByVersion))).1.body.map (·.allowed) = some false
    rw [respond_post_of_read (utf8ByteSize_bodyToCreate_le (by decide +kernel)) hversion]
    rfl

end Webhook

end PullCache
