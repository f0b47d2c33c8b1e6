import PullCache.Pod.Marks
import PullCache.Event
import PullCache.Reference.Redirect

/-!
# Redirecting the images of a pod

`RedirectConfig.redirectPod` sends the eligible containers of a pod through the cache: first those
that run to completion, then the others, each list in its order. Each container that is redirected
leaves a record in the metadata. Whether or not containers were looked at, the pod's own annotation
is brought up to date last.
-/

namespace PullCache

namespace RedirectConfig

/-- A container after it has been looked at, the metadata then, and what happened. -/
def redirectContainer (config : RedirectConfig) (kind : ContainerKind) (m : Metadata)
    (c : Container) : Container × Metadata × ContainerEvent :=
  match c.image with
  | none => (c, m, .imageless c.name)
  | some image =>
    match config.check image with
    | .error reason => (c, m, .left c.name image reason)
    | .ok reference =>
      let source := reference.source.text
      let target := (reference.redirect config.proxyPort).text
      ({ c with image := some target }, Marks.record m c.name kind source,
        .redirected c.name image target source)

/-- A list of containers after each has been looked at in its turn, the metadata then, and what
happened. -/
def redirectContainers (config : RedirectConfig) (kind : ContainerKind) (m : Metadata) :
    List Container → List Container × Metadata × List ContainerEvent
  | [] => ([], m, [])
  | c :: cs =>
    let (c, m, event) := config.redirectContainer kind m c
    let (cs, m, events) := config.redirectContainers kind m cs
    (c :: cs, m, event :: events)

/-- A specification after both lists have been looked at, the metadata then, and what happened. -/
def redirectSpec (config : RedirectConfig) (m : Metadata) (s : PodSpec) :
    PodSpec × Metadata × List ContainerEvent :=
  let (initContainers, m, initEvents) :=
    match s.initContainers with
    | none => (none, m, [])
    | some cs =>
      let (cs, m, events) := config.redirectContainers .init m cs
      (some cs, m, events)
  let (containers, m, events) := config.redirectContainers .regular m s.containers
  ({ s with initContainers, containers }, m, initEvents ++ events)

/-- A pod after its containers have been redirected, if they are to be, and what happened. -/
def redirectPod (config : RedirectConfig) (perform : Bool) (p : Pod) :
    Pod × List ContainerEvent :=
  let (spec, metadata, events) :=
    match perform, p.spec with
    | true, some s =>
      let (s, m, events) := config.redirectSpec p.metadata s
      (some s, m, events)
    | _, spec => (spec, p.metadata, [])
  ({ p with metadata := Marks.finalize metadata, spec }, events)

end RedirectConfig

end PullCache
