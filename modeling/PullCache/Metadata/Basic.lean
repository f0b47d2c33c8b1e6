import PullCache.Json.Normal
import PullCache.Json.Shape

/-!
# Object metadata

The part of a Kubernetes object that names and describes it. Labels and annotations are what this
library reads and writes; the members it has no use for are kept as they are.
-/

namespace PullCache

/-- Name, labels and annotations of an object. -/
structure Metadata where
  name : Option String := none
  /-- The beginning of a name that the server completes. -/
  generateName : Option String := none
  /-- The namespace the object lives in. -/
  space : Option String := none
  labels : Option (Dict String) := none
  annotations : Option (Dict String) := none
  /-- The other members. -/
  others : Dict Json := .empty
deriving DecidableEq, Inhabited

namespace Metadata

/-- The name if there is one, else what it is to begin with, else nothing. -/
def anyName (m : Metadata) : String :=
  (m.name.or m.generateName).getD ""

/-- The value of a label. -/
def label? (m : Metadata) (key : String) : Option String :=
  m.labels.bind (·.get? key)

/-- The value of an annotation. -/
def annotation? (m : Metadata) (key : String) : Option String :=
  m.annotations.bind (·.get? key)

/-- Sets a label. -/
def setLabel (m : Metadata) (key value : String) : Metadata :=
  { m with labels := some ((m.labels.getD .empty).insert key value) }

/-- Sets an annotation. -/
def setAnnotation (m : Metadata) (key value : String) : Metadata :=
  { m with annotations := some ((m.annotations.getD .empty).insert key value) }

/-! ### Looking up after setting -/

@[simp] theorem annotation?_setAnnotation (m : Metadata) (key value q : String) :
    (m.setAnnotation key value).annotation? q =
      if q = key then some value else m.annotation? q := by
  rcases h : m.annotations with - | annotations <;> simp [annotation?, setAnnotation, h]

@[simp] theorem label?_setLabel (m : Metadata) (key value q : String) :
    (m.setLabel key value).label? q = if q = key then some value else m.label? q := by
  rcases h : m.labels with - | labels <;> simp [label?, setLabel, h]

@[simp] theorem label?_setAnnotation (m : Metadata) (key value q : String) :
    (m.setAnnotation key value).label? q = m.label? q := rfl

@[simp] theorem annotation?_setLabel (m : Metadata) (key value q : String) :
    (m.setLabel key value).annotation? q = m.annotation? q := rfl

theorem setAnnotation_eq_self {m : Metadata} {key value : String}
    (h : m.annotation? key = some value) : m.setAnnotation key value = m := by
  obtain ⟨annotations, hannotations, hget⟩ := Option.bind_eq_some_iff.1 h
  unfold setAnnotation
  rw [hannotations, Option.getD_some, Dict.insert_eq_self hget, ← hannotations]

theorem setLabel_eq_self {m : Metadata} {key value : String} (h : m.label? key = some value) :
    m.setLabel key value = m := by
  obtain ⟨labels, hlabels, hget⟩ := Option.bind_eq_some_iff.1 h
  rw [setLabel, hlabels, Option.getD_some, Dict.insert_eq_self hget, ← hlabels]

/-! ### Written form -/

/-- Whether a text is a point in time as `2006-01-02T15:04:05Z`: with a fraction of a second
perhaps, and an offset in place of the `Z`. -/
def isTimestamp (text : String) : Bool :=
  let number (digits : List Char) (least most : Nat) : Bool :=
    digits.all Char.isDigit &&
      least ≤ Text.ofDecimal digits && Text.ofDecimal digits ≤ most
  match text.toList with
  | y₁ :: y₂ :: y₃ :: y₄ :: '-' :: m₁ :: m₂ :: '-' :: d₁ :: d₂ :: t :: h₁ :: h₂ :: ':' ::
      i₁ :: i₂ :: ':' :: s₁ :: s₂ :: rest =>
    let zone := match rest with
      | '.' :: fraction => fraction.dropWhile Char.isDigit
      | rest => rest
    number [y₁, y₂, y₃, y₄] 0 9999 && number [m₁, m₂] 1 12 && number [d₁, d₂] 1 31 &&
      ['T', 't', ' '].contains t && number [h₁, h₂] 0 23 && number [i₁, i₂] 0 59 &&
      number [s₁, s₂] 0 60 && rest.take 2 != ['.', 'Z'] &&
      match zone with
      | ['Z'] | ['z'] => true
      | [sign, h₁, h₂, ':', i₁, i₂] =>
        (sign == '+' || sign == '-') && number [h₁, h₂] 0 23 && number [i₁, i₂] 0 59
      | _ => false
  | _ => false

/-- A field that may be missing or `null`. -/
def optionalField (name : String) (shape : Json.Shape) : String × Json.Shape × Bool :=
  (name, .nullable shape, false)

/-- What metadata looks like. -/
def shape : Json.Shape :=
  .record .lenient
    [optionalField "annotations" (.dict .text),
     optionalField "creationTimestamp" (.string isTimestamp),
     optionalField "deletionGracePeriodSeconds"
       (.integer (Json.Number.least 64) (Json.Number.most 64)),
     optionalField "deletionTimestamp" (.string isTimestamp),
     optionalField "finalizers" (.list .text),
     optionalField "generateName" .text,
     optionalField "generation" (.integer (Json.Number.least 64) (Json.Number.most 64)),
     optionalField "labels" (.dict .text),
     optionalField "managedFields" (.list (.record .lenient
       [optionalField "apiVersion" .text,
        optionalField "fieldsType" .text,
        optionalField "fieldsV1" .anything,
        optionalField "manager" .text,
        optionalField "operation" .text,
        optionalField "subresource" .text,
        optionalField "time" (.string isTimestamp)])),
     optionalField "name" .text,
     optionalField "namespace" .text,
     optionalField "ownerReferences" (.list (.record .lenient
       [optionalField "apiVersion" .text,
        optionalField "blockOwnerDeletion" .boolean,
        optionalField "controller" .boolean,
        optionalField "kind" .text,
        optionalField "name" .text,
        optionalField "uid" .text])),
     optionalField "resourceVersion" .text,
     optionalField "selfLink" .text,
     optionalField "uid" .text]

/-- A dictionary of the strings among the members of an object. -/
def textsOf (value : Json) : Dict String :=
  Dict.ofList <| (value.members?.getD []).filterMap fun member ↦
    member.2.text?.map fun text ↦ (member.1, text)

/-- The fields that this library reads. -/
def knownFields : List String :=
  ["name", "generateName", "namespace", "labels", "annotations"]

/-- Reads metadata off a value; what is missing or of another shape is absent. -/
def ofJson (value : Json) : Metadata :=
  { name := (value.field? "name").bind Json.text?
    generateName := (value.field? "generateName").bind Json.text?
    space := (value.field? "namespace").bind Json.text?
    labels := (value.field? "labels").map textsOf
    annotations := (value.field? "annotations").map textsOf
    others := Dict.ofList <| (value.members?.getD []).filter fun member ↦
      !knownFields.contains member.1 }

/-- What is kept of a normal value is normal. -/
theorem isNormal_others_ofJson {value : Json} (h : value.IsNormal) :
    (ofJson value).others.IsNormal :=
  .ofList fun m hm ↦ h.of_mem_members? m (List.mem_filter.1 hm).1

/-- A dictionary of strings as a value. -/
def jsonOfTexts (texts : Dict String) : Json :=
  .obj (texts.map Json.str).entries

/-- Metadata as a value; absent fields are left out. -/
def toJson (m : Metadata) : Json :=
  .obj (((((m.others.insert? "name" (m.name.map Json.str)).insert?
    "generateName" (m.generateName.map Json.str)).insert?
    "namespace" (m.space.map Json.str)).insert?
    "labels" (m.labels.map jsonOfTexts)).insert?
    "annotations" (m.annotations.map jsonOfTexts)).entries

end Metadata

end PullCache
