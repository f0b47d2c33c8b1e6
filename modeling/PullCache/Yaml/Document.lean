import PullCache.Yaml.Node
import PullCache.Yaml.Token.Scan

/-!
# Reading documents

`Document.ofText?` reads a text that holds one document and no more. Each function here reads one
kind of thing from the front of a list of tokens. The first argument of each bounds how deep they
call one another: two calls in a row take at least one token.
-/

namespace PullCache.Yaml.Document

/-- What is known at a place of a list of tokens. -/
structure Progress where
  tokens : List Token
  /-- What each handle of a tag stands for. -/
  handles : List (List Char × List Char) := []
  /-- The anchors so far, each with the label it gave last. -/
  labels : List (List Char × Nat) := []

/-- A reader of tokens. -/
abbrev Reader := StateT Progress Option

namespace Reader

/-- The next token. -/
def next : Reader (Option Token) :=
  return (← get).tokens.head?

/-- Passes a token. -/
def skip : Reader Unit :=
  modify fun p ↦ { p with tokens := p.tokens.tail }

/-- Passes the given token; fails at another. -/
def expect (token : Token) : Reader Unit := do
  if (← next) = some token then skip else failure

/-- Passes the given token, if it is next; tells whether it was. -/
def skipIf (token : Token) : Reader Bool := do
  if (← next) = some token then
    skip
    return true
  else return false

/-- Whether one of the given tokens is next. -/
def isNext (tokens : List Token) : Reader Bool :=
  return (← next).any tokens.contains

/-! ### Properties -/

/-- The tag in full. A zero byte ends it. -/
def expand (tag : Tag) : Reader (List Char) := do
  let full ←
    if tag.handle.isEmpty then pure tag.suffix
    else
      match (← get).handles.lookup tag.handle with
      | some expansion => pure (expansion ++ tag.suffix)
      | none => failure
  return full.takeWhile (· != '\x00')

/-- Reads an anchor, if one is next. -/
def anchor : Reader (Option (List Char)) := do
  match ← next with
  | some (.anchor name) =>
    skip
    return some name
  | _ => return none

/-- Reads a tag, if one is next. -/
def tag : Reader (Option (List Char)) := do
  match ← next with
  | some (.tag tag) =>
    skip
    return some (← expand tag)
  | _ => return none

/-- Reads an anchor and a tag, in either order. -/
def properties : Reader (Option (List Char) × Option (List Char)) := do
  match ← anchor with
  | some name => return (some name, ← tag)
  | none =>
    let tag ← tag
    return (← anchor, tag)

/-- The label that a node with the given anchor gets: how many anchors there have been, those with
the same name counted once. -/
def register : Option (List Char) → Reader (Option Nat)
  | none => return none
  | some name => do
    let labels := (← get).labels
    let others := labels.filter fun entry ↦ entry.1 != name
    modify fun p ↦ { p with labels := (name, labels.length) :: others }
    return some labels.length

/-- The label of an alias. -/
def labelOf (name : List Char) : Reader Nat := do
  match (← get).labels.lookup name with
  | some label => return label
  | none => failure

/-- A node that is left out. -/
def absent : Node :=
  .scalar none { text := "" }

/-- The tag of a scalar that is written out; a lone exclamation mark is none. -/
def scalarTag (tag : Option (List Char)) : Option (List Char) :=
  tag.filter (· ≠ ['!'])

/-! ### Nodes -/

mutual

/-- Reads a node. A block may stand in `inBlock` only, a sequence of a mapping's own indentation
only where `indentless` says so. -/
def node : Nat → (inBlock indentless : Bool) → Reader Node
  | 0, _, _ => failure
  | n + 1, inBlock, indentless => do
    match ← next with
    | some (.aliasOf name) =>
      skip
      return .aliasOf (← labelOf name)
    | _ =>
      let (anchor, tag) ← properties
      let label ← register anchor
      match ← next with
      | some (.scalar style text) =>
        skip
        return .scalar label { style, tag := scalarTag tag, text := String.ofList text }
      | some .openItems =>
        skip
        return .sequence label (← flowItems n true)
      | some .openMembers =>
        skip
        return .mapping label (← flowMembers n true)
      | token =>
        if inBlock && token == some .openSequence then
          skip
          return .sequence label (← blockItems n)
        else if inBlock && token == some .openMapping then
          skip
          return .mapping label (← blockMembers n)
        else if indentless && token == some .item then
          return .sequence label (← indentlessItems n)
        else if anchor.isSome || tag.isSome then
          return .scalar label { tag, text := "" }
        else failure

/-- Reads a node of a block, which is absent if one of the given tokens is next. -/
def blockNode : Nat → (indentless : Bool) → (stops : List Token) → Reader Node
  | 0, _, _ => failure
  | n + 1, indentless, stops => do
    if ← isNext stops then return absent else node n true indentless

/-- Reads a node in brackets, which is absent if one of the given tokens is next. -/
def flowNode : Nat → (stops : List Token) → Reader Node
  | 0, _ => failure
  | n + 1, stops => do
    if ← isNext stops then return absent else node n false false

/-- Reads the items of a block, and its end. -/
def blockItems : Nat → Reader (List Node)
  | 0 => failure
  | n + 1 => do
    if ← skipIf .closeBlock then return []
    expect .item
    let item ← blockNode n false [.item, .closeBlock]
    return item :: (← blockItems n)

/-- Reads the items below a key that are not indented more than it. -/
def indentlessItems : Nat → Reader (List Node)
  | 0 => failure
  | n + 1 => do
    if ← skipIf .item then
      let item ← blockNode n false [.item, .key, .value, .closeBlock]
      return item :: (← indentlessItems n)
    else return []

/-- Reads the members of a block, and its end. -/
def blockMembers : Nat → Reader (List (Node × Node))
  | 0 => failure
  | n + 1 => do
    if ← skipIf .closeBlock then return []
    expect .key
    let key ← blockNode n true [.key, .value, .closeBlock]
    let value ←
      if ← skipIf .value then blockNode n true [.key, .value, .closeBlock] else pure absent
    return (key, value) :: (← blockMembers n)

/-- Reads the items between brackets, and the closing one. A comma stands before each but the first,
and may stand after the last. -/
def flowItems : Nat → (first : Bool) → Reader (List Node)
  | 0, _ => failure
  | n + 1, first => do
    if ← skipIf .closeItems then return []
    unless first do expect .comma
    if ← skipIf .closeItems then return []
    let item ← if ← skipIf .key then pair n else node n false false
    return item :: (← flowItems n false)

/-- Reads a mapping of one member that is written without braces, after the token of its key. The
token that stands where the key is left out is passed. -/
def pair : Nat → Reader Node
  | 0 => failure
  | n + 1 => do
    let key ←
      if ← isNext [.value, .comma, .closeItems] then do
        skip
        pure absent
      else node n false false
    let value ← if ← skipIf .value then flowNode n [.comma, .closeItems] else pure absent
    return .mapping none [(key, value)]

/-- Reads the members between braces, and the closing one. A comma stands before each but the first,
and may stand after the last. -/
def flowMembers : Nat → (first : Bool) → Reader (List (Node × Node))
  | 0, _ => failure
  | n + 1, first => do
    if ← skipIf .closeMembers then return []
    unless first do expect .comma
    if ← skipIf .closeMembers then return []
    let member ←
      if ← skipIf .key then do
        let key ← flowNode n [.value, .comma, .closeMembers]
        let value ← if ← skipIf .value then flowNode n [.comma, .closeMembers] else pure absent
        pure (key, value)
      else do
        let key ← node n false false
        pure (key, absent)
    return member :: (← flowMembers n false)

end

/-! ### Documents -/

/-- The handles that need no directive. -/
def defaultHandles : List (List Char × List Char) :=
  [(['!'], ['!']), (['!', '!'], "tag:yaml.org,2002:".toList)]

/-- Whether a version is one that can be read. -/
def isKnownVersion (major minor : Nat) : Bool :=
  major == 1 && (minor == 1 || minor == 2)

/-- Reads directives, at most so many: one version, and each handle once. -/
def directives : Nat → (versioned : Bool) → Reader Unit
  | 0, _ => failure
  | n + 1, versioned => do
    match ← next with
    | some (.directive (.version major minor)) =>
      if versioned || !isKnownVersion major minor then failure
      skip
      directives n true
    | some (.directive (.handle handle expansion)) =>
      let handles := (← get).handles
      if (handles.lookup handle).isSome then failure
      skip
      modify fun p ↦ { p with handles := handles ++ [(handle, expansion)] }
      directives n versioned
    | _ => return ()

/-- Whether the next token is a directive. -/
def isDirective : Option Token → Bool
  | some (.directive _) => true
  | _ => false

/-- Reads a document: bare, or after directives and the mark that starts it. -/
def document (bound : Nat) : Reader Node := do
  let token ← next
  if isDirective token || token == some .documentStart then
    directives bound false
    modify fun p ↦ { p with handles := p.handles ++ defaultHandles }
    expect .documentStart
    let token ← next
    if token.isNone || isDirective token || token == some .documentStart ||
        token == some .documentEnd then
      return absent
    else node bound true false
  else
    modify fun p ↦ { p with handles := defaultHandles }
    node bound true false

end Reader

/-- The document of some tokens. -/
def ofTokens? (tokens : List Token) : Option Document := do
  let (root, progress) ← (Reader.document (3 * tokens.length + 8)).run { tokens }
  if progress.tokens.all (· == .documentEnd) then some (ofRoot root) else none

/-- Reads a text that holds one document and no more. -/
def ofText? (text : String) : Option Document :=
  (Token.scan? text).bind ofTokens?

end PullCache.Yaml.Document
