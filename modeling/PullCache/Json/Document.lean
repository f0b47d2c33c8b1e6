import PullCache.Dict
import PullCache.Json.Basic
import PullCache.Json.Token

/-!
# JSON documents as written

A document keeps what a value forgets: the order of members, members of one name, and the place
where a text stops being JSON. `Document.read` reads any text at all; where the text breaks off, the
value expected there is `broken` and the arrays and objects around it are not closed. So a reader
can walk a document as it would walk the text, and meets its faults in the order of the text.
-/

namespace PullCache.Json

/-- A JSON text as far as it can be read. -/
inductive Document where
  | null
  | bool (value : Bool)
  | num (literal : String)
  /-- A string; `none` when an escape in it is half a character. -/
  | str (content : Option String)
  /-- The items, and whether the closing bracket follows them. -/
  | arr (items : List Document) (closed : Bool)
  /-- The members in their order, and whether the closing brace follows them. -/
  | obj (members : List (Option String × Document)) (closed : Bool)
  /-- A value was expected and the text has none. -/
  | broken
deriving Repr, Inhabited

namespace Document

/-! ### Reading -/

/-- An array or object that is being read; what is complete of it stands last first. -/
inductive Frame where
  | items (done : List Document)
  | members (done : List (Option String × Document)) (key : Option String)

/-- What may come next. -/
inductive Awaited where
  | value
  | valueOrClose
  | commaOrClose
  | keyOrClose
  | key
  | colon
deriving DecidableEq, Repr

/-- Adds a complete value to the frame around it. -/
def Frame.push (value : Document) : Frame → Frame
  | items done => items (value :: done)
  | members done key => members ((key, value) :: done) key

/-- The array or object of a frame. -/
def Frame.close (closed : Bool) : Frame → Document
  | items done => .arr done.reverse closed
  | members done _ => .obj done.reverse closed

/-- How far the reading of a document has come. -/
inductive Progress where
  | complete (document : Document)
  /-- Inside the given frames, the innermost first. -/
  | inside (frames : List Frame) (awaited : Awaited)

/-- Goes on after a complete value. -/
def Progress.after (value : Document) : List Frame → Progress
  | [] => complete value
  | frame :: frames => inside (frame.push value :: frames) .commaOrClose

/-- Takes a token where a value is expected. -/
def takeValue (token : Token) (frames : List Frame) : Option Progress :=
  match token with
  | .null => some (.after .null frames)
  | .bool value => some (.after (.bool value) frames)
  | .num literal => some (.after (.num literal) frames)
  | .str content => some (.after (.str content) frames)
  | .openArray => some (.inside (.items [] :: frames) .valueOrClose)
  | .openObject => some (.inside (.members [] none :: frames) .keyOrClose)
  | _ => none

/-- Takes the next token; `none` when the text is no JSON from there on. -/
def take (token : Token) (awaited : Awaited) (frames : List Frame) : Option Progress :=
  match awaited, token, frames with
  | .valueOrClose, .closeArray, .items done :: outer => some (.after (.arr done.reverse true) outer)
  | .commaOrClose, .closeArray, .items done :: outer => some (.after (.arr done.reverse true) outer)
  | .commaOrClose, .comma, .items done :: outer => some (.inside (.items done :: outer) .value)
  | .commaOrClose, .closeObject, .members done _ :: outer =>
    some (.after (.obj done.reverse true) outer)
  | .commaOrClose, .comma, .members done _ :: outer =>
    some (.inside (.members done none :: outer) .key)
  | .keyOrClose, .closeObject, .members done _ :: outer =>
    some (.after (.obj done.reverse true) outer)
  | .keyOrClose, .str key, .members done _ :: outer =>
    some (.inside (.members done key :: outer) .colon)
  | .key, .str key, .members done _ :: outer => some (.inside (.members done key :: outer) .colon)
  | .colon, .colon, frames => some (.inside frames .value)
  | .value, token, frames => takeValue token frames
  | .valueOrClose, token, frames => takeValue token frames
  | _, _, _ => none

/-- The document left of a text that breaks off inside the given frames, the innermost first. The
innermost one ends with the value that was to come, if one was. -/
def tear (awaited : Awaited) : List Frame → Document
  | [] => .broken
  | frame :: frames =>
    let innermost :=
      if awaited = .value ∨ awaited = .valueOrClose ∨ awaited = .colon then frame.push .broken
      else frame
    frames.foldl (fun inner outer ↦ (outer.push inner).close false) (innermost.close false)

/-- Reads tokens up to the end of a document; gives it and the tokens after it. -/
def build : List Token → List Frame → Awaited → Document × List Token
  | [], frames, awaited => (tear awaited frames, [])
  | token :: rest, frames, awaited =>
    match take token awaited frames with
    | some (.inside frames awaited) => build rest frames awaited
    | some (.complete document) => (document, rest)
    | none => (tear awaited frames, token :: rest)

/-- Reads the document at the start of a text, and says whether more follows it than blanks. -/
def read (text : String) : Document × Bool :=
  let (document, rest) := build (Token.scan text) [] .value
  (document, !rest.isEmpty)

/-! ### Documents and values -/

mutual

/-- A value written with its members in their order. -/
def ofJson : Json → Document
  | .null => .null
  | .bool value => .bool value
  | .num literal => .num literal
  | .str value => .str (some value)
  | .arr items => .arr (ofItems items) true
  | .obj members => .obj (ofMembers members) true

/-- Each item as a document. -/
def ofItems : List Json → List Document
  | [] => []
  | item :: items => ofJson item :: ofItems items

/-- Each member as a document. -/
def ofMembers : List (String × Json) → List (Option String × Document)
  | [] => []
  | (key, value) :: members => (some key, ofJson value) :: ofMembers members

end

mutual

/-- The value of a document. Of several members with one name the last counts. -/
def value : Document → Json
  | .null => .null
  | .bool value => .bool value
  | .num literal => .num literal
  | .str content => .str (content.getD "")
  | .arr items _ => .arr (values items)
  | .obj members _ => .obj (memberValues [] members)
  | .broken => .null

/-- The value of each item. -/
def values : List Document → List Json
  | [] => []
  | item :: items => value item :: values items

/-- Adds members to those of an object, in the order of their keys. -/
def memberValues (done : List (String × Json)) :
    List (Option String × Document) → List (String × Json)
  | [] => done
  | (key, item) :: members =>
    memberValues (Dict.insertEntry (key.getD "") (value item) done) members

end

/-- The last member of a name. -/
def get? : Document → String → Option Document
  | obj members _, key => members.reverse.lookup (some key)
  | _, _ => none

end Document

end PullCache.Json
