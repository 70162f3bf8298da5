import ScriptHost.Json.Document
import ScriptHost.Toml.Tree

/-!
# Reading settings files

A settings file in TOML is a list of lines: keys with values, and headers that say in which table
the keys below them go.  A file that breaks a rule anywhere is refused as a whole.

Values are nested no deeper than `maxDepth` containers, and keys have no more parts than that.
-/

namespace ScriptHost.Toml

/-- The greatest depth of containers in a value. -/
def maxDepth : Nat := 79

/-- Whether a character may stand in a key without quotation marks. -/
def isBare (c : Char) : Bool := c.isAlphanum || c = '_' || c = '-'

/-- One part of a key. -/
def keyPart : Reader String
  | '"' :: rest => basicString [] rest
  | '\'' :: rest => literalString [] rest
  | cs =>
      match cs.takeWhile isBare with
      | [] => none
      | bare => some (String.ofList bare, cs.dropWhile isBare)

/-- A key: its parts, separated by points.  `room` bounds the number of parts. -/
def keyParts : Nat → Reader (List String)
  | 0, _ => none
  | room + 1, cs => do
      let (part, rest) ← keyPart (skipBlanks cs)
      match skipBlanks rest with
      | '.' :: rest =>
          let (parts, rest) ← keyParts room rest
          pure (part :: parts, rest)
      | rest => pure ([part], rest)

/-- A key: the parts before the last one, and the last one. -/
def key (cs : List Char) : Option ((List String × String) × List Char) := do
  let (parts, rest) ← keyParts maxDepth cs
  let last ← parts.getLast?
  pure ((parts.dropLast, last), rest)

/-- The text after blanks, line ends and comments; nothing if a comment holds what it may not. -/
def skipLines (comment : Bool) : List Char → Option (List Char)
  | '\r' :: '\n' :: rest => skipLines false rest
  | c :: rest =>
      if c = '\n' then skipLines false rest
      else if comment then if isCommentChar c then skipLines true rest else none
      else if isBlank c then skipLines false rest
      else if c = '#' then skipLines true rest
      else some (c :: rest)
  | [] => some []

/-- The items of an array after its opening bracket.  A comma may follow the last one.  `room` bounds
the number of items. -/
def arrayItems (value : Reader Item) : Nat → Reader (List Item)
  | 0, _ => none
  | room + 1, cs => do
      match ← skipLines false cs with
      | ']' :: rest => pure ([], rest)
      | cs =>
          let (item, rest) ← value cs
          match ← skipLines false rest with
          | ',' :: rest =>
              let (items, rest) ← arrayItems value room rest
              pure (item :: items, rest)
          | ']' :: rest => pure ([item], rest)
          | _ => none

/-- The members of a table written as a value, after its opening brace, added to those already read.
No comma follows the last one. -/
def inlineMembers (value : Reader Item) : Nat → Section → Reader Section
  | 0, _, _ => none
  | room + 1, t, cs => do
      let ((path, last), rest) ← key cs
      let rest ← after '=' rest
      let (item, rest) ← value (skipBlanks rest)
      let t ← putInline path last item t
      match skipBlanks rest with
      | ',' :: rest => inlineMembers value room t rest
      | '\x7d' :: rest => pure (t, rest)
      | _ => none

/-- A value with at most so many containers inside each other. -/
def value : Nat → Reader Item
  | 0, cs =>
      match cs with
      | '[' :: _ | '\x7b' :: _ => none
      | cs => (scalar cs).map fun (s, rest) => (.scalar s, rest)
  | depth + 1, cs =>
      match cs with
      | '[' :: rest =>
          (arrayItems (value depth) (rest.length + 1) rest).map fun (items, rest) =>
            (.array items, rest)
      | '\x7b' :: rest =>
          match skipBlanks rest with
          | '\x7d' :: rest => some (.inlineTable [], rest)
          | rest =>
              (inlineMembers (value depth) (rest.length + 1) (.mk .header []) rest).map
                fun (t, rest) => (.inlineTable t.members, rest)
      | cs => (scalar cs).map fun (s, rest) => (.scalar s, rest)

/-- The text after a comment, if there is one, and the end of the line. -/
def endLine (comment : Bool) : List Char → Option (List Char)
  | [] => some []
  | '\n' :: rest => some rest
  | '\r' :: '\n' :: rest => some rest
  | c :: rest =>
      if comment then if isCommentChar c then endLine true rest else none
      else if isBlank c then endLine false rest
      else if c = '#' then endLine true rest
      else none

/-- A file being read: its tables, and the table that the last header has opened. -/
structure Progress where
  root : Section
  header : List String

/-- A header, after its opening bracket. -/
def header (p : Progress) (cs : List Char) : Option (Progress × List Char) := do
  match cs with
  | '[' :: cs =>
      let ((path, last), rest) ← key cs
      let rest ← (after ']' rest).bind (after ']')
      pure (⟨← p.root.openElement path last, path ++ [last]⟩, ← endLine false rest)
  | cs =>
      let ((path, last), rest) ← key cs
      let rest ← after ']' rest
      pure (⟨← p.root.openTable path last, path ++ [last]⟩, ← endLine false rest)

/-- A key with its value. -/
def assignment (p : Progress) (cs : List Char) : Option (Progress × List Char) := do
  let ((path, last), rest) ← key cs
  let rest ← after '=' rest
  let (item, rest) ← value maxDepth (skipBlanks rest)
  pure ({ p with root := ← p.root.putUnder p.header path last item }, ← endLine false rest)

/-- The lines of a file.  `room` bounds their number. -/
def lines : Nat → Progress → List Char → Option Section
  | 0, _, _ => none
  | room + 1, p, cs => do
      match ← skipLines false cs with
      | [] => pure p.root
      | '[' :: rest =>
          let (p, rest) ← header p rest
          lines room p rest
      | cs =>
          let (p, rest) ← assignment p cs
          lines room p rest

/-- Read a file: its tables.  A byte order mark at the front is passed over. -/
def readFile (text : String) : Option Section :=
  let cs := match text.toList with
    | '\ufeff' :: rest => rest
    | cs => cs
  lines (cs.length + 1) ⟨.mk .header [], []⟩ cs

namespace Item

open Json (Document)

/-- The document for a scalar.  A time is a record of its own kind. -/
def ofScalar : Scalar → Document
  | .bool b => .bool b
  | .int n => .number (some (.int n))
  | .float bits => .number (some (.float bits))
  | .string s => .string (some s)
  | .time => .object [("$__toml_private_datetime", .string (some ""))] true

mutual

/-- The document for what stands at a place. -/
def document : Item → Document
  | .scalar s => ofScalar s
  | .array items => .array (documents items) true
  | .inlineTable members => .object (memberDocuments members) true
  | .table t => sectionDocument t
  | .tables last others => .array (sectionDocuments others ++ [sectionDocument last]) true

/-- The documents for the items of an array. -/
def documents : List Item → List Document
  | [] => []
  | item :: rest => item.document :: documents rest

/-- The documents for the members of a table. -/
def memberDocuments : List (String × Item) → List (String × Document)
  | [] => []
  | (name, item) :: rest => (name, item.document) :: memberDocuments rest

/-- The document for a table. -/
def sectionDocument : Section → Document
  | .mk _ members => .object (memberDocuments members) true

/-- The documents for a list of tables, the last one of which stands first. -/
def sectionDocuments : List Section → List Document
  | [] => []
  | t :: rest => sectionDocuments rest ++ [sectionDocument t]

end

end Item
end ScriptHost.Toml
