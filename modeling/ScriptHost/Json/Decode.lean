import ScriptHost.Json.Document
import ScriptHost.Json.Written
import ScriptHost.Text.Quoted

/-!
# Decoding documents

A decoder reads a document of the kind it expects and refuses any other at the first point, in text
order, at which the document is not what it expects.  A defect of the text is such a point too.

Records are read by the names of their fields.  A record may leave fields out, which then keep the
values they have; fields that it does not know are passed over.  An array stands for a record too:
its items are the fields in order.
-/

namespace ScriptHost.Json

/-- Why a document was refused. -/
inductive Refusal where
  /-- The text is no document. -/
  | malformed
  | duplicateField (name : String)
  /-- A value of another kind than expected. -/
  | wrongKind (found expected : String)
  /-- A whole number outside the expected range. -/
  | outOfRange (number : Int) (expected : String)
  deriving DecidableEq, Inhabited

/-- The text of a refusal. -/
def Refusal.message : Refusal → String
  | malformed => "malformed text"
  | duplicateField name => "duplicate field `" ++ name ++ "`"
  | wrongKind found expected => "invalid type: " ++ found ++ ", expected " ++ expected
  | outOfRange number expected =>
      "invalid value: integer `" ++ toString number ++ "`, expected " ++ expected

/-- Read a document as a value of type `α`. -/
abbrev Decoder (α : Type) := Document → Except Refusal α

namespace Document

/-- The refusal of a document where something else is expected. -/
def refusal (expected : String) : Document → Refusal
  | broken => .malformed
  | null => .wrongKind "null" expected
  | bool b => .wrongKind ("boolean `" ++ toString b ++ "`") expected
  | number none => .malformed
  | number (some (.int n)) => .wrongKind ("integer `" ++ toString n ++ "`") expected
  | number (some (.float bits)) =>
      .wrongKind ("floating point `" ++ floatNotation.writeBits bits ++ "`") expected
  | string none => .malformed
  | string (some s) => .wrongKind ("string " ++ Text.quote s) expected
  | array _ _ => .wrongKind "sequence" expected
  | object _ _ => .wrongKind "map" expected

/-- A whole number from zero up to `limit`; `expected` is the name of that range. -/
def word (limit : Nat) (expected : String) : Decoder Nat
  | number (some (.int n)) =>
      if 0 ≤ n ∧ n ≤ (limit : Int) then .ok n.toNat else .error (.outOfRange n expected)
  | other => .error (other.refusal expected)

/-- A truth value. -/
def flag : Decoder Bool
  | bool b => .ok b
  | other => .error (other.refusal "a boolean")

/-- A text. -/
def text : Decoder String
  | string (some s) => .ok s
  | other => .error (other.refusal "a string")

/-- Something that may be absent: null stands for nothing. -/
def optional {α : Type} (decode : Decoder α) : Decoder (Option α)
  | null => .ok none
  | other => (decode other).map some

/-- Pass over a document of any kind. -/
def ignore (d : Document) : Except Refusal Unit :=
  if d.intact then .ok () else .error .malformed

end Document

/-- A field of records of type `α`: its name, and how a document for it changes the record. -/
structure RecordField (α : Type) where
  name : String
  read : Document → α → Except Refusal α

/-- A field that is set to what a decoder reads. -/
def RecordField.of {α β : Type} (name : String) (decode : Decoder β) (set : β → α → α) :
    RecordField α :=
  ⟨name, fun d record => (decode d).map (set · record)⟩

/-- A record type: what it is called in refusals, and its fields in order. -/
structure Schema (α : Type) where
  expected : String
  fields : List (RecordField α)
  /-- Whether an array may have more items than the record has fields. -/
  lax : Bool

namespace Schema

variable {α : Type}

/-- Read the members of an object into a record. -/
def readMembers (schema : Schema α) (seen : List String) :
    List (String × Document) → α → Except Refusal α
  | [], record => .ok record
  | (name, d) :: rest, record =>
      match schema.fields.find? (·.name = name) with
      | none => do
          d.ignore
          readMembers schema seen rest record
      | some field =>
          if seen.contains name then .error (.duplicateField name)
          else do
            let record ← field.read d record
            readMembers schema (name :: seen) rest record

/-- Read the items of an array into the fields of a record. -/
def readItems (lax : Bool) : List (RecordField α) → List Document → α → Except Refusal α
  | _, [], record => .ok record
  | [], _ :: _, record => if lax then .ok record else .error .malformed
  | field :: fields, d :: rest, record => do
      let record ← field.read d record
      readItems lax fields rest record

/-- Read a document into a record that holds the values of fields left out. -/
def readInto (schema : Schema α) (record : α) : Decoder α
  | .object members closed => do
      let record ← schema.readMembers [] members record
      if closed then .ok record else .error .malformed
  | .array items closed => do
      let record ← readItems schema.lax schema.fields items record
      if closed then .ok record else .error .malformed
  | other => .error (other.refusal schema.expected)

/-- A field that is itself a record. -/
def field {β : Type} (schema : Schema β) (name : String) (get : α → β) (set : β → α → α) :
    RecordField α :=
  ⟨name, fun d record => (schema.readInto (get record) d).map (set · record)⟩

end Schema
end ScriptHost.Json
