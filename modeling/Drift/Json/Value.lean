import Drift.Json.Token

/-!
# JSON values

`parse` builds the value of a document as far as the document is well-formed.
Where it stops being so, the containers that are still open are marked as cut
short, and so is the value that was being read. A reader that walks the value
in order therefore meets the first fault of the document, whether it lies in
the grammar or in what is said, and never looks behind it.

Reading is one run over the tokens with the containers that are open on a
stack, so that nesting may be of any depth.
-/

namespace Drift.Json

/-- How a container ends. -/
inductive Ending where
  | closed
  /-- The document is malformed here. -/
  | cut
  deriving DecidableEq, Repr

/-- A value, complete or cut short. -/
inductive Value where
  | scalar (value : Scalar)
  | array (items : List Value) (ending : Ending)
  /-- Members in order; a key that is no text is none. -/
  | object (members : List (Option String × Value)) (ending : Ending)
  /-- Nothing that could be read. -/
  | missing

namespace Value

/-- Whether all of a value is well-formed. A container that is closed holds
nothing malformed, since reading would have stopped there. -/
def isComplete : Value → Bool
  | scalar _ => true
  | array _ ending | object _ ending => ending = .closed
  | missing => false

end Value

/-- A container that is still open, its contents latest first. -/
inductive Frame where
  | array (items : List Value)
  | object (members : List (Option String × Value))
  /-- An object after a key. -/
  | member (members : List (Option String × Value)) (key : Option String)

namespace Frame

/-- The container with a value as its next content. -/
def add : Frame → Value → Frame
  | array items, value => array (value :: items)
  | object members, value => object ((none, value) :: members)
  | member members key, value => object ((key, value) :: members)

/-- The container as a value. A key that waits for its value gets a missing
one. -/
def close (ending : Ending) : Frame → Value
  | array items => .array items.reverse ending
  | object members => .object members.reverse ending
  | member members key => .object ((key, .missing) :: members).reverse ending

end Frame

/-- What a document is waiting for. -/
inductive Expecting where
  | value
  | firstItem
  | firstKey
  | nextKey
  | colon
  | separator

/-- A document that is being read. -/
inductive Reading where
  /-- In the middle, with the open containers, innermost first. -/
  | within (stack : List Frame) (expecting : Expecting)
  /-- Behind the value. -/
  | done (value : Value)
  /-- With something behind the value, or a malformed part in it. -/
  | failed (value : Value)

/-- The value of open containers that a document leaves open. -/
def cutShort : List Frame → Value
  | [] => .missing
  | frame :: outer =>
      outer.foldl (fun inner frame => (frame.add inner).close .cut) (frame.close .cut)

namespace Reading

/-- A document before its first token. -/
def start : Reading := within [] .value

/-- Puts a finished value into the innermost container. -/
def put (stack : List Frame) (value : Value) : Reading :=
  match stack with
  | [] => done value
  | frame :: outer => within (frame.add value :: outer) .separator

/-- The reading of a document that is malformed here. -/
def stop (stack : List Frame) : Reading :=
  failed (cutShort stack)

/-- The key that a scalar is, if it is a string. -/
def key? : Scalar → Option (Option String)
  | .text value => some (some value)
  | .unpairedText => some none
  | _ => none

/-- Reads a key. -/
def readKey (stack : List Frame) (token : Token) : Reading :=
  match stack, token with
  | .object members :: outer, .scalar value =>
      match key? value with
      | some key => within (.member members key :: outer) .colon
      | none => stop stack
  | _, _ => stop stack

/-- Reads the first token of a value. -/
def readValue (stack : List Frame) (token : Token) : Reading :=
  match token with
  | .scalar value => put stack (.scalar value)
  | .openArray => within (.array [] :: stack) .firstItem
  | .openObject => within (.object [] :: stack) .firstKey
  | _ => stop stack

/-- Reads one token. -/
def read (reading : Reading) (token : Token) : Reading :=
  match reading with
  | failed value => failed value
  | done value => failed value
  | within stack .value => readValue stack token
  | within stack .firstItem =>
      match stack, token with
      | frame :: outer, .closeArray => put outer (frame.close .closed)
      | _, _ => readValue stack token
  | within stack .firstKey =>
      match stack, token with
      | frame :: outer, .closeObject => put outer (frame.close .closed)
      | _, _ => readKey stack token
  | within stack .nextKey => readKey stack token
  | within stack .colon =>
      match token with
      | .colon => within stack .value
      | _ => stop stack
  | within stack .separator =>
      match stack, token with
      | .array items :: outer, .comma => within (.array items :: outer) .value
      | .array items :: outer, .closeArray => put outer (.array items.reverse .closed)
      | .object members :: outer, .comma => within (.object members :: outer) .nextKey
      | .object members :: outer, .closeObject =>
          put outer (.object members.reverse .closed)
      | _, _ => stop stack

/-- The document that is malformed from here on. -/
def fail : Reading → Reading
  | within stack _ => stop stack
  | done value => failed value
  | failed value => failed value

end Reading

/-- A document: its value as far as it was read, and whether the document was
well-formed up to its end. -/
structure Document where
  value : Value
  isComplete : Bool

/-- What the reading of a whole document came to. -/
def Reading.document : Reading → Document
  | within stack _ => ⟨cutShort stack, false⟩
  | done value => ⟨value, true⟩
  | failed value => ⟨value, false⟩

/-- Reads a document. -/
def parse (text : String) : Document :=
  let (tokens, rest) := Text.many Token.scan? text.toList
  let reading := tokens.foldl Reading.read .start
  if rest.all isBlank then reading.document else reading.fail.document

end Drift.Json
