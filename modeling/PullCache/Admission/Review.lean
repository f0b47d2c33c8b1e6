import PullCache.Metadata.Basic

/-!
# Admission reviews

The API server wraps a request to admit an object in a review. A review is read off a JSON document
as written, since the order of the members of the object decides what is known of its type (see
`ObjectType.takeFrom`). `Review.read` says which of two kinds of fault a body has: it is not JSON,
or it is JSON of another shape.
-/

namespace PullCache

open Json (Document Fault Shape)

/-- The version and kind of an object. -/
structure ObjectType where
  apiVersion : String
  kind : String
deriving DecidableEq, Repr, Inhabited

/-- What is to be done with the object. -/
inductive Operation where
  | create
  | update
  | delete
  | connect
deriving DecidableEq, Repr, Inhabited

namespace Operation

/-- The operations by the names that requests use. -/
def byName : List (String × Operation) :=
  [("CREATE", create), ("UPDATE", update), ("DELETE", delete), ("CONNECT", connect)]

/-- The name of an operation in an event. -/
def label : Operation → String
  | create => "Create"
  | update => "Update"
  | delete => "Delete"
  | connect => "Connect"

end Operation

/-- An object of any kind: its type if that is known, its metadata, and its other members. The
values that it keeps are normal. -/
structure AnyObject where
  type : Option ObjectType
  metadata : Metadata
  members : Dict Json
  normal : members.IsNormal
  normal_metadata : metadata.others.IsNormal
deriving DecidableEq

/-- A request to admit an object. -/
structure AdmissionRequest where
  /-- The type of the review, which the answer repeats. -/
  type : ObjectType
  uid : String
  operation : Operation
  /-- The namespace of the object. -/
  space : Option String
  object : Option AnyObject
deriving DecidableEq, Inhabited

/-- A review, with its request if it has one. -/
structure Review where
  type : ObjectType
  request : Option AdmissionRequest
deriving DecidableEq, Inhabited

/-! ### Shapes -/

namespace Review

/-- What is wrong with a review that has no request. -/
def noRequest : String := "failed to convert AdmissionReview into AdmissionRequest"

/-- A group, version and kind, all required. -/
def kindShape : Shape :=
  .record .strict [("group", .text, true), ("version", .text, true), ("kind", .text, true)]

/-- A group, version and resource, all required. -/
def resourceShape : Shape :=
  .record .strict
    [("group", .text, true), ("version", .text, true), ("resource", .text, true),
     ("api_version", .text, false)]

/-- Who makes a request. -/
def userShape : Shape :=
  .record .lenient
    [("extra", .nullable (.dict (.list .text)), false),
     ("groups", .nullable (.list .text), false),
     ("uid", .nullable .text, false),
     ("username", .nullable .text, false)]

/-- An object of any kind. Its metadata may be missing but not `null`. -/
def objectShape : Shape :=
  .record .open [("metadata", Metadata.shape, false)]

/-- The operation of a request. -/
def operationShape : Shape := .choice (Operation.byName.map Prod.fst)

/-- A request. -/
def requestShape : Shape :=
  .record .strict
    [("uid", .text, true),
     ("kind", kindShape, true),
     ("resource", resourceShape, true),
     ("subResource", .nullable .text, false),
     ("requestKind", .nullable kindShape, false),
     ("requestResource", .nullable resourceShape, false),
     ("requestSubResource", .nullable .text, false),
     ("name", .text, false),
     ("namespace", .nullable .text, false),
     ("operation", operationShape, true),
     ("userInfo", userShape, true),
     ("object", .nullable objectShape, false),
     ("oldObject", .nullable objectShape, false),
     ("dryRun", .boolean, false),
     ("options", .anything, false)]

/-- What lists of objects say of themselves. -/
def listMetadataShape : Shape :=
  .record .lenient
    [("continue", .nullable .text, false),
     ("remainingItemCount",
      .nullable (.integer (Json.Number.least 64) (Json.Number.most 64)), false),
     ("resourceVersion", .nullable .text, false),
     ("selfLink", .nullable .text, false)]

/-- Why an outcome is what it is. -/
def causeShape : Shape :=
  .record .strict [("reason", .text, false), ("message", .text, false), ("field", .text, false)]

/-- What more there is to say of an outcome. -/
def detailsShape : Shape :=
  .record .strict
    [("name", .text, false),
     ("group", .text, false),
     ("kind", .text, false),
     ("uid", .text, false),
     ("causes", .list causeShape, false),
     ("retryAfterSeconds", .integer 0 4294967295, false)]

/-- The outcome part of a response. -/
def statusShape : Shape :=
  .record .strict
    [("status", .nullable (.choice ["Success", "Failure"]), false),
     ("code", .integer 0 65535, false),
     ("message", .text, false),
     ("metadata", .nullable listMetadataShape, false),
     ("reason", .text, false),
     ("details", .nullable detailsShape, false)]

/-- A response, which a review may carry too. -/
def responseShape : Shape :=
  .record .strict
    [("uid", .text, true),
     ("allowed", .boolean, true),
     ("status", statusShape, true),
     ("patch", .nullable (.list (.integer 0 255)), false),
     ("patchType", .nullable (.choice ["JSONPatch"]), false),
     ("auditAnnotations", .dict .text, false),
     ("warnings", .nullable (.list .text), false)]

/-- A review. -/
def shape : Shape :=
  .record .open
    [("request", .nullable requestShape, false), ("response", .nullable responseShape, false)]

end Review

/-! ### Reading objects -/

namespace ObjectType

/-- Takes version and kind out of the members of an object, in their order, those already found
being given. The type is known when both are strings and neither comes twice. A member that spoils
it is taken out too, and with it the search ends: what stands behind it stays where it is. -/
def takeFrom (apiVersion kind : Option String) :
    List (String × Json) → Option ObjectType × List (String × Json)
  | [] =>
    (match apiVersion, kind with
      | some apiVersion, some kind => some { apiVersion, kind }
      | _, _ => none, [])
  | (key, value) :: members =>
    if key = "apiVersion" then
      match apiVersion, value with
      | none, .str text => takeFrom (some text) kind members
      | _, _ => (none, members)
    else if key = "kind" then
      match kind, value with
      | none, .str text => takeFrom apiVersion (some text) members
      | _, _ => (none, members)
    else
      let (type, rest) := takeFrom apiVersion kind members
      (type, (key, value) :: rest)

/-- What is left of the members is some of them. -/
theorem takeFrom_subset {apiVersion kind : Option String} {members : List (String × Json)}
    {m : String × Json} (hm : m ∈ (takeFrom apiVersion kind members).2) : m ∈ members := by
  fun_induction takeFrom apiVersion kind members with
  | case1 => cases hm
  | case2 kind members text ih => exact List.mem_cons_of_mem _ (ih hm)
  | case4 apiVersion members text hne ih => exact List.mem_cons_of_mem _ (ih hm)
  -- a member that spoils the type ends the search
  | case3 | case5 => exact List.mem_cons_of_mem _ hm
  | case6 apiVersion kind key value members hversion hkind type rest htake ih =>
    rw [htake] at ih
    rcases List.mem_cons.1 hm with rfl | hm
    · exact List.mem_cons_self
    · exact List.mem_cons_of_mem _ (ih hm)

end ObjectType

namespace AnyObject

/-- The members of a document in their order. -/
def membersOf (document : Document) : List (String × Json) :=
  match document with
  | .obj members _ => members.filterMap fun (key, item) ↦ key.map fun key ↦ (key, item.value)
  | _ => []

theorem isNormal_of_mem_membersOf {document : Document} :
    ∀ m ∈ membersOf document, m.2.IsNormal := by
  intro m hm
  cases document with
  | obj written =>
    obtain ⟨⟨key, item⟩, -, hitem⟩ := List.mem_filterMap.1 hm
    obtain ⟨key, -, rfl⟩ := Option.map_eq_some_iff.1 hitem
    exact item.isNormal_value
  | _ => cases hm

/-- The metadata among the members of an object, where the last of a name counts. -/
def metadataOf (members : List (String × Json)) : Metadata :=
  ((members.reverse.lookup "metadata").map Metadata.ofJson).getD {}

theorem isNormal_others_metadataOf {members : List (String × Json)}
    (h : ∀ m ∈ members, m.2.IsNormal) : (metadataOf members).others.IsNormal := by
  unfold metadataOf
  rcases hv : members.reverse.lookup "metadata" with - | v
  · exact .empty
  · obtain ⟨before, after, hmembers, -⟩ := List.lookup_eq_some_iff.1 hv
    have hmem : ("metadata", v) ∈ members := List.mem_reverse.1 (by simp [hmembers])
    exact Metadata.isNormal_others_ofJson (h _ hmem)

/-- An object off a document. -/
def ofDocument (document : Document) : AnyObject :=
  let members := membersOf document
  let taken := ObjectType.takeFrom none none (members.filter fun member ↦ member.1 != "metadata")
  { type := taken.1
    metadata := metadataOf members
    members := Dict.ofList taken.2
    normal := .ofList fun m hm ↦
      isNormal_of_mem_membersOf m (List.mem_filter.1 (ObjectType.takeFrom_subset hm)).1
    normal_metadata := isNormal_others_metadataOf isNormal_of_mem_membersOf }

/-- An object as a value. -/
def toJson (o : AnyObject) : Json :=
  let typed := (o.members.insert? "apiVersion" (o.type.map fun t ↦ .str t.apiVersion)).insert?
    "kind" (o.type.map fun t ↦ .str t.kind)
  .obj (typed.insert "metadata" o.metadata.toJson).entries

end AnyObject

/-! ### Reading reviews -/

namespace Review

/-- The fields of a record that is written by name, or in the order of the names. -/
def field? (names : List String) (document : Document) (name : String) : Option Document :=
  match document with
  | .arr items _ => (names.zip items).lookup name
  | document => document.get? name

/-- A field of a request. -/
def requestField? (request : Document) (name : String) : Option Document :=
  let names := match requestShape with
    | .record _ fields => fields.map Prod.fst
    | _ => []
  (field? names request name).filter fun
    | .null => false
    | _ => true

/-- The text of a string. -/
def textOf : Document → Option String
  | .str content => content
  | _ => none

/-- The operation that a document names. -/
def operationOf (document : Document) : Option Operation :=
  match document with
  | .str (some name) => Operation.byName.lookup name
  | .obj [(some name, _)] _ => Operation.byName.lookup name
  | _ => none

/-- The request of a document that has its shape. -/
def requestOf (type : ObjectType) (request : Document) : AdmissionRequest :=
  { type
    uid := ((requestField? request "uid").bind textOf).getD ""
    operation := ((requestField? request "operation").bind operationOf).getD default
    space := (requestField? request "namespace").bind textOf
    object := (requestField? request "object").map AnyObject.ofDocument }

/-- The string that the only member of a name holds. -/
def onlyText? (members : List (String × Json)) (name : String) : Option String :=
  match members.filter fun member ↦ member.1 == name with
  | [(_, .str text)] => some text
  | _ => none

/-- Reads a review off a document. Version and kind are looked at when all else has been. -/
def ofDocument (document : Document) : Except Fault Review :=
  match shape.fault? 0 document with
  | some fault => .error fault
  | none =>
    let members := AnyObject.membersOf document
    match onlyText? members "apiVersion", onlyText? members "kind" with
    | some apiVersion, some kind =>
      let type : ObjectType := { apiVersion, kind }
      .ok
        { type
          request := ((document.get? "request").filter fun
            | .null => false
            | _ => true).map (requestOf type) }
    | _, _ => .error .misshapen

/-- Reads a review off a text. -/
def read (text : String) : Except Fault Review :=
  let (document, more) := Document.read text
  match ofDocument document with
  | .error fault => .error fault
  | .ok review => if more then .error .notJson else .ok review

end Review

end PullCache
