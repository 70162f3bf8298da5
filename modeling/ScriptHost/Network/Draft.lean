import ScriptHost.Json.Decode
import ScriptHost.Network.Http

/-!
# Drafts as documents

A draft of a web request may be given as a document.  What it leaves out has its usual value.
-/

namespace ScriptHost.Network.Http

open Json

/-- Headers: an object of texts, of which the last one of a name stands. -/
def readHeaders : Decoder (List (String × String))
  | .object members closed => do
      let headers ← members.mapM fun (name, d) => return (name, ← d.text)
      let table := headers.foldl (fun t (name, value) => t.insert name value) Table.empty
      if closed then .ok table.entries else .error .malformed
  | other => .error (other.refusal "a map")

/-- The record of a draft. -/
def draftSchema : Schema Draft where
  expected := "struct HttpRequest"
  lax := false
  fields :=
    [.of "method" Document.text fun s d => { d with method := s },
      .of "url" Document.text fun s d => { d with url := s },
      .of "headers" readHeaders fun headers d => { d with headers },
      .of "body" (Document.optional Document.text) fun body d => { d with body }]

/-- Read a draft from text. -/
def Draft.ofJson (text : String) : Except Refusal Draft := do
  let (root, alone) := Document.read text
  let draft ← draftSchema.readInto .standard root
  if alone then .ok draft else .error .malformed

end ScriptHost.Network.Http
