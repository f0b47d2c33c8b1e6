import PullCache.Pod.Shape

/-!
# Pods

A pod is metadata and, in its specification, two lists of containers: those that run to completion
first and those that run side by side. What this library does not look into is kept as it is, at
each level.
-/

namespace PullCache

/-- The two lists of containers of a pod. -/
inductive ContainerKind where
  | init
  | regular
deriving DecidableEq, Repr

/-- A container of a pod. -/
structure Container where
  name : String
  /-- The image to run; the cluster may fill it in. -/
  image : Option String
  /-- The other members. -/
  others : Dict Json := .empty
deriving DecidableEq, Inhabited

/-- What a pod is to run. -/
structure PodSpec where
  /-- The containers that run to completion first, one after the other. -/
  initContainers : Option (List Container) := none
  /-- The containers that run side by side. -/
  containers : List Container := []
  /-- The other members. -/
  others : Dict Json := .empty
deriving DecidableEq, Inhabited

/-- A pod. -/
structure Pod where
  metadata : Metadata := {}
  spec : Option PodSpec := none
  /-- The other members. -/
  others : Dict Json := .empty
deriving DecidableEq, Inhabited

namespace Container

/-- The members of a value but those of the given names. -/
def othersOf (known : List String) (value : Json) : Dict Json :=
  Dict.ofList <| (value.members?.getD []).filter fun member ↦ !known.contains member.1

/-- Reads a container off a value. A container without a name has the empty one. -/
def ofJson (value : Json) : Container :=
  { name := ((value.field? "name").bind Json.text?).getD ""
    image := (value.field? "image").bind Json.text?
    others := othersOf ["name", "image"] value }

/-- A container as a value. -/
def toJson (c : Container) : Json :=
  .obj ((c.others.insert "name" (.str c.name)).insert? "image" (c.image.map Json.str)).entries

end Container

namespace PodSpec

/-- Reads a specification off a value. -/
def ofJson (value : Json) : PodSpec :=
  { initContainers :=
      ((value.field? "initContainers").bind Json.items?).map (·.map Container.ofJson)
    containers := (((value.field? "containers").bind Json.items?).getD []).map Container.ofJson
    others := Container.othersOf ["initContainers", "containers"] value }

/-- A specification as a value. -/
def toJson (s : PodSpec) : Json :=
  .obj ((s.others.insert "containers" (.arr (s.containers.map Container.toJson))).insert?
    "initContainers" (s.initContainers.map fun cs ↦ .arr (cs.map Container.toJson))).entries

end PodSpec

namespace Pod

/-- Reads a pod off a value that looks like one. -/
def ofJson (value : Json) : Pod :=
  { metadata := ((value.field? "metadata").map Metadata.ofJson).getD {}
    spec := (value.field? "spec").map PodSpec.ofJson
    others := Container.othersOf ["apiVersion", "kind", "metadata", "spec"] value }

/-- Reads a pod, unless the value does not look like one. -/
def ofJson? (value : Json) : Option Pod :=
  if PodShape.pod.fits value then some (ofJson value) else none

/-- A pod as a value, with its version and kind. -/
def toJson (p : Pod) : Json :=
  .obj ((((p.others.insert "apiVersion" (.str "v1")).insert "kind" (.str "Pod")).insert
    "metadata" p.metadata.toJson).insert? "spec" (p.spec.map PodSpec.toJson)).entries

/-- The containers of one kind. -/
def containersOf (p : Pod) : ContainerKind → List Container
  | .init => (p.spec.bind PodSpec.initContainers).getD []
  | .regular => (p.spec.map PodSpec.containers).getD []

end Pod

end PullCache
