import ScriptHost.Data.Table
import ScriptHost.Data.Value
import ScriptHost.Fault.Network
import ScriptHost.Text.Utf8

/-!
# Requests and responses of the web

A draft is a request as guest code gives it.  Before anything is sent it becomes a message, or is
refused: the client that sends messages has to accept its method, which is written in capitals first,
then the name and the value of each header, in the order in which the draft lists them, and last its
address.  The first fault decides.  Names of headers are written small in a message, and of two headers
whose names are then equal the later one stands.

The client is a library of its own.  All that is said of it here is that it judges each part of a draft
by its text alone.

A response becomes a value with its status, its headers and its text.
-/

namespace ScriptHost.Network.Http

/-- A request as guest code gives it. -/
structure Draft where
  method : String
  url : String
  headers : List (String × String)
  body : Option String
  deriving DecidableEq, Inhabited

/-- A draft in which nothing is said. -/
def Draft.standard : Draft := ⟨"GET", "", [], none⟩

/-- What the client accepts, part by part. -/
structure Client (Address : Type) where
  /-- Whether a text in capitals is a method. -/
  isMethod : String → Bool
  /-- Whether a text can be the name of a header. -/
  isName : String → Bool
  /-- Whether a text can be the value of a header. -/
  isValue : String → Bool
  /-- The address that a text stands for, or the text of the refusal. -/
  read : String → Except String Address

/-- A request that can be sent. -/
structure Message (Address : Type) where
  method : String
  url : Address
  headers : Table String String
  body : Option String

/-- A response as it comes in.  The names of its headers are written small. -/
structure Response where
  status : Nat
  headers : List (String × ByteArray)
  body : ByteArray
  deriving Inhabited

/-- Whether a character may stand in a token. -/
def isTokenChar (c : Char) : Bool :=
  c.isAlphanum || "!#$%&'*+-.^_`|~".contains c

/-- Whether a text is a token. -/
def isToken (s : String) : Bool := !s.isEmpty && s.all isTokenChar

/-- A character in capitals.  Of the characters beyond ASCII only those count that have an ASCII
capital; no other can be part of a token in either form. -/
def capitals (c : Char) : List Char :=
  match c with
  | 'ß' => ['S', 'S']
  | 'ı' => ['I']
  | 'ſ' => ['S']
  | 'ﬀ' => ['F', 'F']
  | 'ﬁ' => ['F', 'I']
  | 'ﬂ' => ['F', 'L']
  | 'ﬃ' => ['F', 'F', 'I']
  | 'ﬄ' => ['F', 'F', 'L']
  | 'ﬅ' | 'ﬆ' => ['S', 'T']
  | c => [c.toUpper]

/-- A text in capitals. -/
def inCapitals (s : String) : String := String.ofList (s.toList.flatMap capitals)

/-- The longest name of a header, in bytes. -/
def maxNameBytes : Nat := 65535

/-- Whether a text can be the name of a header. -/
def isHeaderName (s : String) : Bool := isToken s && s.utf8ByteSize ≤ maxNameBytes

/-- Whether a text can be the value of a header: it has no control character but the tab. -/
def isHeaderValue (s : String) : Bool :=
  s.all fun c => c = '\t' || (0x20 ≤ c.toNat && c.toNat ≠ 0x7f)

/-- The rules of the web for methods and headers.  An address is left as it is written. -/
def Client.rules : Client String where
  isMethod := isToken
  isName := isHeaderName
  isValue := isHeaderValue
  read := .ok

section Client

variable {Address : Type} (client : Client Address)

/-- Add the headers of a draft, one after the other, to those of a message. -/
def addHeaders : List (String × String) → Table String String →
    Except NetworkFault (Table String String)
  | [], headers => .ok headers
  | (name, value) :: rest, headers =>
      if !client.isName name then .error (.unsupported ("header name " ++ name))
      else if !client.isValue value then .error (.unsupported ("header value for " ++ name))
      else addHeaders rest (headers.insert name.toLower value)

/-- The message of a draft. -/
def Draft.message (d : Draft) : Except NetworkFault (Message Address) :=
  if !client.isMethod (inCapitals d.method) then .error (.unsupported ("HTTP method " ++ d.method))
  else do
    let headers ← addHeaders client d.headers .empty
    let url ← (client.read d.url).mapError .http
    pure ⟨inCapitals d.method, url, headers, d.body⟩

end Client

/-- The value of a header as text; nothing if it cannot be shown. -/
def headerText (value : ByteArray) : Option String :=
  if value.toList.all fun b => b = 9 || (0x20 ≤ b && b < 0x7f) then Text.strict? value else none

/-- The headers of a response as members of an object: of a header that is repeated the last one that
can be shown stands. -/
def headerMembers (headers : List (String × ByteArray)) : List (String × Value) :=
  headers.foldl
    (fun members (name, value) =>
      match headerText value with
      | some text => Value.putMember name (.string text) members
      | none => members)
    []

/-- The value that a response is delivered as. -/
def Response.value (r : Response) : Value :=
  .object [("status", .int r.status), ("headers", .object (headerMembers r.headers)),
    ("body", .string (Text.lossy r.body))]

end ScriptHost.Network.Http
