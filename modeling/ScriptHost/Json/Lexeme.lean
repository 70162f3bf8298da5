import ScriptHost.Json.Numeral
import ScriptHost.Text.Hex

/-!
# Lexemes of JSON text

Text is read one character at a time by a small machine.  It stops at the first character that no
lexeme can contain; what stood before is kept, since a reader may refuse that part for a reason of
its own before it comes to the defect.
-/

namespace ScriptHost.Json

/-- The words of JSON text. -/
inductive Lexeme where
  | openBrace
  | closeBrace
  | openBracket
  | closeBracket
  | colon
  | comma
  | null
  | bool (b : Bool)
  | number (n : Numeral)
  /-- A string.  It has no text when an escape in it names half of a surrogate pair. -/
  | string (text : Option String)
  deriving DecidableEq

/-- A string of which the opening quote has been read.  Characters stand with the last one
first. -/
structure Quoted where
  chars : List Char
  /-- The first half of a surrogate pair, waiting for the other. -/
  lead : Option Nat
  /-- No lone half of a surrogate pair has been met. -/
  sound : Bool

/-- Where an unfinished string stands. -/
inductive QuotedPoint where
  | plain
  /-- After a backslash. -/
  | escape
  /-- Inside a four-digit escape: the digits still due and the value so far. -/
  | code (due : Nat) (value : Nat)

/-- Where the machine stands between two characters. -/
inductive Scanner where
  | between
  | word (rest : List Char) (lexeme : Lexeme)
  | number (n : Numeral)
  | string (s : Quoted) (at_ : QuotedPoint)
  | stuck

namespace Quoted

/-- A string with nothing in it yet. -/
def empty : Quoted := ⟨[], none, true⟩

/-- Add a character that stands for itself.  A waiting half pair is lone then. -/
def push (s : Quoted) (c : Char) : Quoted := ⟨c :: s.chars, none, s.sound && s.lead.isNone⟩

/-- Add the code unit of a four-digit escape. -/
def pushUnit (s : Quoted) (unit : Nat) : Quoted :=
  if 0xD800 ≤ unit ∧ unit < 0xDC00 then { s with lead := some unit, sound := s.sound && s.lead.isNone }
  else if 0xDC00 ≤ unit ∧ unit < 0xE000 then
    match s.lead with
    | some lead =>
        ⟨Char.ofNat (0x10000 + (lead - 0xD800) * 0x400 + (unit - 0xDC00)) :: s.chars, none, s.sound⟩
    | none => { s with sound := false }
  else s.push (Char.ofNat unit)

/-- The text of a finished string. -/
def text (s : Quoted) : Option String :=
  if s.sound && s.lead.isNone then some (String.ofList s.chars.reverse) else none

end Quoted

/-- The character that a one-letter escape stands for. -/
def shortEscape? : Char → Option Char
  | '"' => some '"'
  | '\\' => some '\\'
  | '/' => some '/'
  | 'b' => some '\x08'
  | 'f' => some '\x0c'
  | 'n' => some '\n'
  | 'r' => some '\r'
  | 't' => some '\t'
  | _ => none

namespace Scanner

/-- The blanks that may stand between lexemes. -/
def isBlank (c : Char) : Bool := c = ' ' || c = '\n' || c = '\t' || c = '\r'

/-- Read the first character of a lexeme. -/
def begin (c : Char) : Scanner × List Lexeme :=
  if isBlank c then (between, [])
  else match c with
    | '\x7b' => (between, [.openBrace])
    | '\x7d' => (between, [.closeBrace])
    | '[' => (between, [.openBracket])
    | ']' => (between, [.closeBracket])
    | ':' => (between, [.colon])
    | ',' => (between, [.comma])
    | 'n' => (word ['u', 'l', 'l'] .null, [])
    | 't' => (word ['r', 'u', 'e'] (.bool true), [])
    | 'f' => (word ['a', 'l', 's', 'e'] (.bool false), [])
    | '"' => (string .empty .plain, [])
    | '-' => (number (.start true), [])
    | _ =>
        match (Numeral.start false).next c with
        | .more n => (number n, [])
        | _ => (stuck, [])

/-- Read one character inside a string. -/
def stepString (s : Quoted) (c : Char) : QuotedPoint → Scanner × List Lexeme
  | .plain =>
      if c = '"' then (between, [.string s.text])
      else if c = '\\' then (string s .escape, [])
      else if c.toNat < 0x20 then (stuck, [])
      else (string (s.push c) .plain, [])
  | .escape =>
      if c = 'u' then (string s (.code 4 0), [])
      else match shortEscape? c with
        | some plain => (string (s.push plain) .plain, [])
        | none => (stuck, [])
  | .code due value =>
      match Text.hexDigit? c with
      | none => (stuck, [])
      | some d =>
          if due ≤ 1 then (string (s.pushUnit (value * 16 + d)) .plain, [])
          else (string s (.code (due - 1) (value * 16 + d)), [])

/-- Read one character: where the machine stands afterwards, and the lexemes finished by it. -/
def step : Scanner → Char → Scanner × List Lexeme
  | between, c => begin c
  | word [] lexeme, c => let (next, found) := begin c; (next, lexeme :: found)
  | word (due :: rest) lexeme, c => if c = due then (word rest lexeme, []) else (stuck, [])
  | number n, c =>
      match n.next c with
      | .more longer => (number longer, [])
      | .ended => let (next, found) := begin c; (next, .number n :: found)
      | .malformed => (stuck, [])
  | string s point, c => stepString s c point
  | stuck, _ => (stuck, [])

/-- The end of the text: the lexeme finished by it, or nothing when one is left open. -/
def finish : Scanner → Option (List Lexeme)
  | between => some []
  | word [] lexeme => some [lexeme]
  | number n => if n.complete then some [.number n] else none
  | _ => none

end Scanner

/-- The lexemes of a text, and whether the whole text is made of them. -/
def lexemes (text : List Char) : List Lexeme × Bool :=
  go .between [] text
where
  /-- Continue from a state of the machine; finished lexemes stand with the last one first. -/
  go (state : Scanner) (found : List Lexeme) : List Char → List Lexeme × Bool
    | [] =>
        match state.finish with
        | some last => ((last.reverse ++ found).reverse, true)
        | none => (found.reverse, false)
    | c :: rest =>
        let (next, more) := state.step c
        go next (more.reverse ++ found) rest

end ScriptHost.Json
