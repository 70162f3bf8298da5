import ScriptHost.Lua.Number

/-!
# Lua tokens

Source is cut into tokens from left to right, each as long as it can be, with the line on which it
ends.  Strings hold bytes: the characters of the source stand for their UTF-8, and escapes may add
any byte.
-/

namespace ScriptHost.Lua

/-- A token. -/
inductive Token where
  | name (n : String)
  | keyword (k : String)
  | symbol (s : String)
  | number (n : Number)
  | str (s : ByteArray)
  deriving Inhabited

/-- The reserved words. -/
def keywords : List String :=
  ["and", "break", "do", "else", "elseif", "end", "false", "for", "function", "goto", "if", "in",
    "local", "nil", "not", "or", "repeat", "return", "then", "true", "until", "while"]

/-- The symbols, longer ones before their beginnings. -/
def symbols : List String :=
  ["...", "..", "==", "~=", "<=", ">=", "//", "::", "<<", ">>", "+", "-", "*", "/", "%", "^", "#",
    "&", "~", "|", "<", ">", "=", "(", ")", "\x7b", "\x7d", "[", "]", ";", ":", ",", "."]

/-- A token with its line. -/
structure Placed where
  token : Token
  line : Nat
  deriving Inhabited

namespace Token

/-- Whether a character can start a name. -/
def isNameStart (c : Char) : Bool := c.isAlpha || c = '_'

/-- Whether a character can be part of a name. -/
def isNamePart (c : Char) : Bool := c.isAlphanum || c = '_'

/-- The UTF-8 of a character. -/
def charBytes (c : Char) : List UInt8 := (String.singleton c).toUTF8.toList

/-- The number of line ends in text. -/
def lineEnds (cs : List Char) : Nat := cs.count '\n'

/-- The UTF-8 of a number up to 2 ^ 31, also beyond the range of characters. -/
def codeBytes (n : Nat) : List UInt8 :=
  let tail (i : Nat) : UInt8 := (0x80 + (n / Nat.pow 64 i) % 64).toUInt8
  if n < 0x80 then [n.toUInt8]
  else if n < 0x800 then [(0xC0 + n / 64).toUInt8, tail 0]
  else if n < 0x10000 then [(0xE0 + n / 4096).toUInt8, tail 1, tail 0]
  else if n < 0x200000 then [(0xF0 + n / 262144).toUInt8, tail 2, tail 1, tail 0]
  else if n < 0x4000000 then [(0xF8 + n / 16777216).toUInt8, tail 3, tail 2, tail 1, tail 0]
  else [(0xFC + n / 1073741824).toUInt8, tail 4, tail 3, tail 2, tail 1, tail 0]

/-- What an escape stands for, and what follows it.  The text begins after the backslash. -/
def escape? : List Char → Option (List UInt8 × List Char)
  | 'n' :: rest => some ([10], rest)
  | 't' :: rest => some ([9], rest)
  | 'r' :: rest => some ([13], rest)
  | 'a' :: rest => some ([7], rest)
  | 'b' :: rest => some ([8], rest)
  | 'f' :: rest => some ([12], rest)
  | 'v' :: rest => some ([11], rest)
  | '\\' :: rest => some ([92], rest)
  | '"' :: rest => some ([34], rest)
  | '\'' :: rest => some ([39], rest)
  | '\n' :: rest => some ([10], rest)
  | 'x' :: a :: b :: rest => do
      let high ← Text.hexDigit? a
      let low ← Text.hexDigit? b
      some ([(high * 16 + low).toUInt8], rest)
  | 'z' :: rest => some ([], rest.dropWhile isSpace)
  | 'u' :: '\x7b' :: rest =>
      let (digits, after) := rest.span Text.isHexDigit
      match after with
      | '\x7d' :: after =>
          let n := digitsValue 16 digits
          if digits.isEmpty || 2147483648 ≤ n then none else some (codeBytes n, after)
      | _ => none
  | cs =>
      let digits := (cs.take 3).takeWhile Char.isDigit
      let n := digitsValue 10 digits
      if digits.isEmpty || 255 < n then none else some ([n.toUInt8], cs.drop digits.length)

/-- The rest of a string up to its quotation mark: its bytes, what follows, and the line ends in
between.  The bytes so far stand with the last one first. -/
def quoted (mark : Char) : Nat → List Char → List UInt8 → Nat →
    Option (List UInt8 × List Char × Nat)
  | 0, _, _, _ => none
  | _, [], _, _ => none
  | bound + 1, c :: rest, bytes, lines =>
      if c = mark then some (bytes.reverse, rest, lines)
      else if c = '\n' then none
      else if c = '\\' then
        match escape? rest with
        | none => none
        | some (more, after) =>
            quoted mark bound after (more.reverse ++ bytes)
              (lines + lineEnds (rest.take (rest.length - after.length)))
      else quoted mark bound rest ((charBytes c).reverse ++ bytes) lines

/-- The level of a long bracket whose first character has been read, with what follows it. -/
def longOpen? (cs : List Char) : Option (Nat × List Char) :=
  let (marks, rest) := cs.span (· = '=')
  match rest with
  | '[' :: rest => some (marks.length, rest)
  | _ => none

/-- The text of a long bracket of a level, and what follows it. -/
def longText (level : Nat) : List Char → List Char → Option (List Char × List Char)
  | [], _ => none
  | c :: rest, text =>
      if c = ']' && rest.take level = List.replicate level '=' &&
          (rest.drop level).head? = some ']' then
        some (text.reverse, rest.drop (level + 1))
      else longText level rest (c :: text)

/-- The characters of a numeral: letters, digits, points, and signs after an exponent mark. -/
def numeralSpan (hex : Bool) : List Char → Option Char → List Char × List Char
  | [], _ => ([], [])
  | c :: rest, before =>
      let mark (m : Char) : Bool :=
        if hex then m = 'p' || m = 'P' else m = 'e' || m = 'E'
      if c.isAlphanum || c = '.' || c = '_' || ((c = '+' || c = '-') && before.any mark) then
        let (taken, after) := numeralSpan hex rest (some c)
        (c :: taken, after)
      else ([], c :: rest)

/-- The next token, with what follows and the line on which it ends; nothing at the end. -/
inductive Step where
  | token (t : Token) (rest : List Char) (line : Nat)
  | skip (rest : List Char) (line : Nat)
  | malformed

/-- A long bracket, if there is one: its text without the first line end. -/
def long? (cs : List Char) : Option (Option (List Char × List Char × Nat)) :=
  match longOpen? cs with
  | none => none
  | some (level, rest) =>
      some ((longText level rest []).map fun (text, after) =>
        (match text with
          | '\n' :: text => text
          | text => text, after, lineEnds text))

/-- Read one token or blank from text that is not empty. -/
def step (line : Nat) : List Char → Step
  | [] => .malformed
  | '\n' :: rest => .skip rest (line + 1)
  | '-' :: '-' :: '[' :: rest =>
      match long? rest with
      | some (some (_, after, lines)) => .skip after (line + lines)
      | some none => .malformed
      | none => .skip (rest.dropWhile (· ≠ '\n')) line
  | '-' :: '-' :: rest => .skip (rest.dropWhile (· ≠ '\n')) line
  | c :: rest =>
      if isSpace c then .skip rest line
      else if isNameStart c then
        let (more, after) := rest.span isNamePart
        let name := String.ofList (c :: more)
        .token (if keywords.contains name then .keyword name else .name name) after line
      else if c.isDigit || (c = '.' && rest.head?.any Char.isDigit) then
        let hex := c = '0' && rest.head?.any fun x => x = 'x' || x = 'X'
        let (taken, after) := numeralSpan hex (c :: rest) none
        match numeral? taken with
        | some n => .token (.number n) after line
        | none => .malformed
      else if c = '"' || c = '\'' then
        match quoted c (rest.length + 1) rest [] 0 with
        | some (bytes, after, lines) => .token (.str ⟨bytes.toArray⟩) after (line + lines)
        | none => .malformed
      else
        match if c = '[' then long? rest else none with
        | some (some (text, after, lines)) =>
            .token (.str (String.ofList text).toUTF8) after (line + lines)
        | some none => .malformed
        | none =>
            match symbols.find? fun s => s.toList.isPrefixOf (c :: rest) with
            | some s => .token (.symbol s) ((c :: rest).drop s.length) line
            | none => .malformed

/-- Read at most so many tokens and blanks. -/
def readFrom : Nat → Nat → List Char → Option (List Placed)
  | _, _, [] => some []
  | 0, _, _ => none
  | bound + 1, line, cs =>
      match step line cs with
      | .token t rest line => (readFrom bound line rest).map (⟨t, line⟩ :: ·)
      | .skip rest line => readFrom bound line rest
      | .malformed => none

/-- The tokens of source, if it can be cut into tokens. -/
def read (source : String) : Option (List Placed) :=
  let cs := source.toList
  readFrom (cs.length + 1) 1 cs

end Token
end ScriptHost.Lua
