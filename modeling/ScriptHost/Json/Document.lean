import ScriptHost.Json.Lexeme

/-!
# Documents

A document is JSON text as far as it can be read.  A defect of the text is not the end of the
document: containers that it leaves open are marked as cut off, so a reader that walks the document
in text order meets the defect exactly where it stands, and may have refused something before it.
-/

namespace ScriptHost.Json

/-- JSON text, read as far as possible. -/
inductive Document where
  /-- No value can be read here. -/
  | broken
  | null
  | bool (b : Bool)
  /-- A number; it has no value when it is beyond the binary64 range. -/
  | number (value : Option Number)
  /-- A string; it has no text when it names half of a surrogate pair. -/
  | string (text : Option String)
  /-- An array, and whether it is closed. -/
  | array (items : List Document) (closed : Bool)
  /-- An object with its members as written, and whether it is closed. -/
  | object (members : List (String × Document)) (closed : Bool)
  deriving Inhabited

namespace Document

mutual

/-- Whether no defect of the text lies inside a document. -/
def intact : Document → Bool
  | broken => false
  | array items closed => closed && intactItems items
  | object members closed => closed && intactMembers members
  | _ => true

/-- Whether no defect of the text lies inside any of the items. -/
def intactItems : List Document → Bool
  | [] => true
  | item :: rest => item.intact && intactItems rest

/-- Whether no defect of the text lies inside any of the members. -/
def intactMembers : List (String × Document) → Bool
  | [] => true
  | (_, item) :: rest => item.intact && intactMembers rest

end

mutual

/-- The value that a document denotes, if every part of it denotes one.  The last of several
members with one name counts. -/
def value? : Document → Option Value
  | broken => none
  | null => some .null
  | bool b => some (.bool b)
  | number n => n.map fun
      | .int i => .int i
      | .float bits => .float bits
  | string s => s.map .string
  | array items closed => if closed then (itemValues? items).map .array else none
  | object members closed => if closed then (memberValues? [] members).map .object else none

/-- The values of the items of an array. -/
def itemValues? : List Document → Option (List Value)
  | [] => some []
  | item :: rest => do
      let first ← item.value?
      let others ← itemValues? rest
      pure (first :: others)

/-- The values of the members of an object, added to those already read. -/
def memberValues? (read : List (String × Value)) :
    List (String × Document) → Option (List (String × Value))
  | [] => some read
  | (name, item) :: rest => do
      let value ← item.value?
      memberValues? (Value.putMember name value read) rest

end

end Document

/-- A container that is still open.  Its parts stand with the last one first. -/
inductive Frame where
  | array (items : List Document)
  | object (members : List (String × Document))
  /-- An object whose last member has a name and no value yet. -/
  | member (members : List (String × Document)) (name : String)

/-- What may come next. -/
inductive Due where
  | value
  /-- A value, or the end of the array just opened. -/
  | firstItem
  /-- A name, or the end of the object just opened. -/
  | firstName
  | name
  | colon
  /-- A comma, or the end of the innermost container. -/
  | separator
  /-- Nothing: the document is complete. -/
  | nothing

/-- A document being read. -/
inductive Reading where
  | open (frames : List Frame) (due : Due)
  | whole (root : Document)
  /-- The text goes on after the document. -/
  | trailing (root : Document)
  /-- The document as far as it was read before a defect. -/
  | cut (root : Document)

namespace Reading

/-- The document that open containers make up when the text breaks off inside them. -/
def cutOff : List Frame → Option Document → Document
  | [], part => part.getD .broken
  | .array items :: outer, part =>
      cutOff outer (some (.array (part.toList ++ items).reverse false))
  | .object members :: outer, _ => cutOff outer (some (.object members.reverse false))
  | .member members name :: outer, part =>
      cutOff outer (some (.object ((name, part.getD .broken) :: members).reverse false))

/-- Place a finished value. -/
def place (frames : List Frame) (value : Document) : Reading :=
  match frames with
  | [] => whole value
  | .array items :: outer => .open (.array (value :: items) :: outer) .separator
  | .member members name :: outer => .open (.object ((name, value) :: members) :: outer) .separator
  | .object _ :: _ => cut (cutOff frames none)

/-- Begin a value, or place it at once if the lexeme is all of it. -/
def beginValue (frames : List Frame) : Lexeme → Reading
  | .null => place frames .null
  | .bool b => place frames (.bool b)
  | .number n => place frames (.number n.value?)
  | .string s => place frames (.string s)
  | .openBracket => .open (.array [] :: frames) .firstItem
  | .openBrace => .open (.object [] :: frames) .firstName
  | _ => cut (cutOff frames none)

/-- Read the name of a member.  A name must have a text. -/
def beginMember (frames : List Frame) (lexeme : Lexeme) : Reading :=
  match frames, lexeme with
  | .object members :: outer, .string (some name) => .open (.member members name :: outer) .colon
  | _, _ => cut (cutOff frames none)

/-- Close the innermost container. -/
def closeInner (frames : List Frame) (lexeme : Lexeme) : Reading :=
  match frames, lexeme with
  | .array items :: outer, .closeBracket => place outer (.array items.reverse true)
  | .object members :: outer, .closeBrace => place outer (.object members.reverse true)
  | _, _ => cut (cutOff frames none)

/-- Read one lexeme. -/
def step : Reading → Lexeme → Reading
  | .open frames .value, lexeme => beginValue frames lexeme
  | .open frames .firstItem, lexeme =>
      match lexeme with
      | .closeBracket => closeInner frames lexeme
      | _ => beginValue frames lexeme
  | .open frames .firstName, lexeme =>
      match lexeme with
      | .closeBrace => closeInner frames lexeme
      | _ => beginMember frames lexeme
  | .open frames .name, lexeme => beginMember frames lexeme
  | .open frames .colon, lexeme =>
      match lexeme with
      | .colon => .open frames .value
      | _ => cut (cutOff frames none)
  | .open frames .separator, lexeme =>
      match lexeme, frames with
      | .comma, .array _ :: _ => .open frames .value
      | .comma, .object _ :: _ => .open frames .name
      | _, _ => closeInner frames lexeme
  | .open frames .nothing, _ => cut (cutOff frames none)
  | whole root, _ => trailing root
  | trailing root, _ => trailing root
  | cut root, _ => cut root

/-- The end of the lexemes: the document, and whether it is the whole text. -/
def finish (clean : Bool) : Reading → Document × Bool
  | .open frames _ => (cutOff frames none, false)
  | whole root => (root, clean)
  | trailing root => (root, false)
  | cut root => (root, false)

end Reading

namespace Document

/-- Read a text: its document, and whether the text holds nothing else. -/
def read (text : String) : Document × Bool :=
  let (found, clean) := lexemes text.toList
  (found.foldl Reading.step (.open [] .value)).finish clean

/-- The value of a text that is one intact document. -/
def parse? (text : String) : Option Value :=
  let (root, alone) := read text
  if alone then root.value? else none

end Document
end ScriptHost.Json
