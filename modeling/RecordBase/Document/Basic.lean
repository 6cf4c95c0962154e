import RecordBase.Document.Token
import RecordBase.Value.Basic

/-!
# Documents

A document is a JSON text as it was written: the members of an object stand
in the order of the text, and a name may come twice. Which of them count is
for the reader of the document to say.

Brackets that are open are kept on a stack, so no depth is too great to be
read. What lies inside more than `depthLimit` brackets is checked and not
kept: it is `unreadable`, like a number that is too large.
-/

namespace RecordBase

/-- A JSON text as it was written. -/
inductive Document where
  | null
  | bool (truth : Bool)
  | number (number : Number)
  | string (text : String)
  | array (items : List Document)
  /-- Members in the order of the text. A name is absent if it is unreadable. -/
  | object (members : List (Option String × Document))
  /-- Something well formed that stands for no value. -/
  | unreadable

namespace Document

/-- A bracket is kept inside at most this many others. -/
def depthLimit : Nat :=
  126

/-- A bracket that is open, with what stands in it so far, backwards. -/
inductive Frame where
  | array (items : List Document)
  /-- Complete members, and the name of the member that is being read. -/
  | object (members : List (Option String × Document)) (name : Option String)

/-- What may come next inside the innermost open bracket. -/
inductive Expectation where
  | value
  /-- An array was just opened. -/
  | valueOrClose
  | name
  /-- An object was just opened. -/
  | nameOrClose
  | colon
  /-- A comma or the closing bracket. -/
  | separator
deriving DecidableEq

/-- How far a document has been read. -/
inductive Reading where
  | within (expectation : Expectation) (frames : List Frame)
  | complete (document : Document)

namespace Reading

/-- Goes on after a value, which belongs to the innermost open bracket. -/
def put (document : Document) : List Frame → Reading
  | [] => complete document
  | .array items :: frames => within .separator (.array (document :: items) :: frames)
  | .object members name :: frames =>
      within .separator (.object ((name, document) :: members) none :: frames)

/-- Goes on after a closing bracket that stood inside the brackets given. To
see whether they are too many, no more of them than may be are counted. -/
def close (document : Document) (frames : List Frame) : Reading :=
  put (if (frames.drop depthLimit).isEmpty then document else .unreadable) frames

/-- Reads a token where a value may stand. -/
def value? (frames : List Frame) : Token → Option Reading
  | .null => some (put .null frames)
  | .bool truth => some (put (.bool truth) frames)
  | .number (some content) => some (put (.number content) frames)
  | .number none => some (put .unreadable frames)
  | .string (some content) => some (put (.string content) frames)
  | .string none => some (put .unreadable frames)
  | .openArray => some (within .valueOrClose (.array [] :: frames))
  | .openObject => some (within .nameOrClose (.object [] none :: frames))
  | _ => none

/-- Reads one token. -/
def step : Reading → Token → Option Reading
  | within .value frames, token => value? frames token
  | within .valueOrClose (.array [] :: frames), .closeArray => some (close (.array []) frames)
  | within .valueOrClose frames, token => value? frames token
  | within .nameOrClose (.object [] _ :: frames), .closeObject => some (close (.object []) frames)
  | within .nameOrClose (.object members _ :: frames), .string name
  | within .name (.object members _ :: frames), .string name =>
      some (within .colon (.object members name :: frames))
  | within .colon frames, .colon => some (within .value frames)
  | within .separator (.array items :: frames), .comma =>
      some (within .value (.array items :: frames))
  | within .separator (.array items :: frames), .closeArray =>
      some (close (.array items.reverse) frames)
  | within .separator (.object members _ :: frames), .comma =>
      some (within .name (.object members none :: frames))
  | within .separator (.object members _ :: frames), .closeObject =>
      some (close (.object members.reverse) frames)
  | _, _ => none

end Reading

/-- The document of a text, if the text is well formed. -/
def read? (text : String) : Option Document := do
  let tokens ← Token.scan? text
  match ← tokens.foldlM Reading.step (.within .value []) with
  | .complete document => return document
  | _ => none

/-! ## Documents and values -/

mutual

/-- The value of a document, if all of it can be read. Of the members of one
name the last counts. -/
def toValue? : Document → Option Value
  | .null => some .null
  | .bool truth => some (.bool truth)
  | .number content => some (.number content)
  | .string content => some (.string content)
  | .array items => (itemValues? items).map .array
  | .object members => (memberValues? members).map .ofMembers
  | .unreadable => none
termination_by structural document => document

/-- The values of an array's items. -/
def itemValues? : List Document → Option (List Value)
  | [] => some []
  | item :: rest =>
      match item.toValue?, itemValues? rest with
      | some value, some values => some (value :: values)
      | _, _ => none
termination_by structural items => items

/-- The values of an object's members. -/
def memberValues? : List (Option String × Document) → Option (List (String × Value))
  | [] => some []
  | (name, document) :: rest =>
      match name, document.toValue?, memberValues? rest with
      | some name, some value, some values => some ((name, value) :: values)
      | _, _, _ => none
termination_by structural members => members

end

mutual

/-- The document that writes out a value. -/
def ofValue : Value → Document
  | .null => .null
  | .bool truth => .bool truth
  | .number content => .number content
  | .string content => .string content
  | .array items => .array (ofItems items)
  | .object members => .object (ofMembers members)
termination_by structural value => value

/-- The documents of an array's items. -/
def ofItems : List Value → List Document
  | [] => []
  | item :: rest => ofValue item :: ofItems rest
termination_by structural items => items

/-- The documents of an object's members. -/
def ofMembers : List (String × Value) → List (Option String × Document)
  | [] => []
  | (name, value) :: rest => (some name, ofValue value) :: ofMembers rest
termination_by structural members => members

end

end Document

end RecordBase
