import PullCache.Digest.Sha224
import PullCache.Pod.Basic
import PullCache.Text.Cut

/-!
# Marks that a redirected pod carries

A pod with a redirected image is labelled as managed, and an annotation for each of its redirected
containers records the image the container asked for. A second annotation on the pod says what the
label says, once the containers are done.
-/

namespace PullCache

namespace Marks

open Text (byteLength)

/-- The domain of all keys of this program. -/
def domain : String := "kuik.enix.io"

/-- The label of a pod that has had an image redirected. -/
def managedKey : String := "kuik.enix.io/managed"

/-- The annotation that says whether the pod is managed. -/
def redirectedKey : String := "kuik.enix.io/rewrite-images"

/-- The label by which the owner of a pod opts out. -/
def policyKey : String := "kuik.enix.io/image-caching-policy"

/-- The most bytes that Kubernetes allows after the slash of a key. -/
def maxKeyNameLength : Nat := 63

/-- What the key of a container begins with. -/
def keyStart : ContainerKind → String
  | .init => "original-init-image-"
  | .regular => "original-image-"

/-- The key of a container after the slash. A name that does not fit is replaced by its SHA-224
digest, cut to the room that is left. -/
def containerKeyName (name : String) (kind : ContainerKind) : String :=
  let start := keyStart kind
  if maxKeyNameLength < byteLength start.toList + byteLength name.toList then
    start ++ String.ofList ((Sha224.hex name).take (maxKeyNameLength - byteLength start.toList))
  else start ++ name

/-- The annotation that records the image a container asked for. -/
def containerKey (name : String) (kind : ContainerKind) : String :=
  domain ++ "/" ++ containerKeyName name kind

/-- Whether the label says that the pod is managed. -/
def isManaged (m : Metadata) : Bool :=
  m.label? managedKey == some "true"

/-- Whether the owner of the pod has opted out. -/
def isOptedOut (m : Metadata) : Bool :=
  m.label? policyKey == some "ignore"

/-- Records the image a container asked for, and labels the pod as managed. -/
def record (m : Metadata) (name : String) (kind : ContainerKind) (image : String) : Metadata :=
  (m.setAnnotation (containerKey name kind) image).setLabel managedKey "true"

/-- Sets the pod's own annotation to whether it is managed. -/
def finalize (m : Metadata) : Metadata :=
  m.setAnnotation redirectedKey (if isManaged m then "true" else "false")

end Marks

end PullCache
