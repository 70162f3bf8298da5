import ScriptHost.Json.Lexeme

/-!
# Scalars of settings files

The strings, numbers, truth values and times of a settings file in TOML.  Each reader takes a scalar
from the front of the text and leaves the rest.  What a string holds matters for keys only, and what
a time says does not matter at all; both are still read by the full rules, since text that breaks
them is refused.
-/

namespace ScriptHost.Toml

/-- Read something from the front of a text: what it is and the rest, or nothing if the text does
not start with it. -/
abbrev Reader (α : Type) := List Char → Option (α × List Char)

/-- A scalar. -/
inductive Scalar where
  | bool (b : Bool)
  | int (n : Int)
  | float (bits : UInt64)
  | string (s : String)
  | time
  deriving Inhabited

/-- Blanks within a line. -/
def isBlank (c : Char) : Bool := c = ' ' || c = '\t'

/-- Characters that may stand in a comment. -/
def isCommentChar (c : Char) : Bool := c = '\t' || (0x20 ≤ c.toNat && c.toNat ≠ 0x7f)

/-- Decimal digits. -/
def isDigit (c : Char) : Bool := '0' ≤ c && c ≤ '9'

/-- The text without blanks at its front. -/
def skipBlanks (cs : List Char) : List Char := cs.dropWhile isBlank

/-- The text after a given word at its front. -/
def word? : List Char → List Char → Option (List Char)
  | [], cs => some cs
  | w :: ws, c :: cs => if w = c then word? ws cs else none
  | _ :: _, [] => none

/-- The number that hexadecimal digits make up. -/
def hexNumber? (digits : List Char) : Option Nat :=
  digits.foldlM (fun n c => (Text.hexDigit? c).map (n * 16 + ·)) 0

/-- The character of a number, if the number belongs to one. -/
def scalarChar? (n : Nat) : Option Char :=
  if n < 0xD800 ∨ (0xDFFF < n ∧ n < 0x110000) then some (Char.ofNat n) else none

/-- The character that a one-letter escape stands for. -/
def shortEscape? : Char → Option Char
  | 'b' => some '\x08'
  | 't' => some '\t'
  | 'n' => some '\n'
  | 'f' => some '\x0c'
  | 'r' => some '\r'
  | '"' => some '"'
  | '\\' => some '\\'
  | _ => none

/-- The rest of a string between quotation marks; what has been read of it stands reversed. -/
def basicString (read : List Char) : Reader String
  | '"' :: rest => some (String.ofList read.reverse, rest)
  | '\\' :: 'u' :: a :: b :: c :: d :: rest => do
      let char ← (← hexNumber? [a, b, c, d]) |> scalarChar?
      basicString (char :: read) rest
  | '\\' :: 'U' :: a :: b :: c :: d :: e :: f :: g :: h :: rest => do
      let char ← (← hexNumber? [a, b, c, d, e, f, g, h]) |> scalarChar?
      basicString (char :: read) rest
  | '\\' :: c :: rest => do
      let char ← shortEscape? c
      basicString (char :: read) rest
  | c :: rest => if isCommentChar c then basicString (c :: read) rest else none
  | [] => none

/-- The rest of a string between apostrophes, which has no escapes. -/
def literalString (read : List Char) : Reader String
  | '\'' :: rest => some (String.ofList read.reverse, rest)
  | c :: rest => if isCommentChar c then literalString (c :: read) rest else none
  | [] => none

/-- Where a string of several lines stands after a backslash at the end of a line. -/
inductive LineJoin where
  | none
  /-- Blanks up to the end of the line. -/
  | ending
  /-- Blanks and empty lines after it. -/
  | skipping
  deriving DecidableEq

/-- The rest of a string of several lines between triple quotation marks.  Up to two marks may stand
right before the closing ones. -/
def longBasicString (join : LineJoin) (read : List Char) : Reader String
  | '"' :: '"' :: '"' :: '"' :: '"' :: rest =>
      if join = .ending then none else some (String.ofList ('"' :: '"' :: read).reverse, rest)
  | '"' :: '"' :: '"' :: '"' :: rest =>
      if join = .ending then none else some (String.ofList ('"' :: read).reverse, rest)
  | '"' :: '"' :: '"' :: rest =>
      if join = .ending then none else some (String.ofList read.reverse, rest)
  | '\r' :: '\n' :: rest =>
      if join = .none then longBasicString .none ('\n' :: read) rest
      else longBasicString .skipping read rest
  | '\n' :: rest =>
      if join = .none then longBasicString .none ('\n' :: read) rest
      else longBasicString .skipping read rest
  | '\\' :: 'u' :: a :: b :: c :: d :: rest =>
      if join = .ending then none
      else do
        let char ← (← hexNumber? [a, b, c, d]) |> scalarChar?
        longBasicString .none (char :: read) rest
  | '\\' :: 'U' :: a :: b :: c :: d :: e :: f :: g :: h :: rest =>
      if join = .ending then none
      else do
        let char ← (← hexNumber? [a, b, c, d, e, f, g, h]) |> scalarChar?
        longBasicString .none (char :: read) rest
  | '\\' :: c :: rest =>
      if join = .ending then none
      else match shortEscape? c with
        | some char => longBasicString .none (char :: read) rest
        | none =>
            if isBlank c then longBasicString .ending read rest
            else match c, rest with
              | '\n', rest => longBasicString .skipping read rest
              | '\r', '\n' :: rest => longBasicString .skipping read rest
              | _, _ => none
  | c :: rest =>
      if isBlank c ∧ join ≠ .none then longBasicString join read rest
      else if join = .ending then none
      else if isCommentChar c then longBasicString .none (c :: read) rest
      else none
  | [] => none

/-- The rest of a string of several lines between triple apostrophes. -/
def longLiteralString (read : List Char) : Reader String
  | '\'' :: '\'' :: '\'' :: '\'' :: '\'' :: rest =>
      some (String.ofList ('\'' :: '\'' :: read).reverse, rest)
  | '\'' :: '\'' :: '\'' :: '\'' :: rest => some (String.ofList ('\'' :: read).reverse, rest)
  | '\'' :: '\'' :: '\'' :: rest => some (String.ofList read.reverse, rest)
  | '\r' :: '\n' :: rest => longLiteralString ('\n' :: read) rest
  | c :: rest =>
      if c = '\n' ∨ isCommentChar c then longLiteralString (c :: read) rest else none
  | [] => none

/-- The text after a line end at its front, if there is one. -/
def afterNewline : List Char → List Char
  | '\n' :: rest => rest
  | '\r' :: '\n' :: rest => rest
  | cs => cs

/-- A string of any form. -/
def string : Reader String
  | '"' :: '"' :: '"' :: rest => longBasicString .none [] (afterNewline rest)
  | '"' :: rest => basicString [] rest
  | '\'' :: '\'' :: '\'' :: rest => longLiteralString [] (afterNewline rest)
  | '\'' :: rest => literalString [] rest
  | _ => none

/-- Further digits of a number; a digit may follow an underscore. -/
def moreDigits (p : Char → Bool) : List Char → List Char × List Char
  | '_' :: c :: rest =>
      if p c then let (ds, rest) := moreDigits p rest; (c :: ds, rest) else ([], '_' :: c :: rest)
  | c :: rest =>
      if p c then let (ds, rest) := moreDigits p rest; (c :: ds, rest) else ([], c :: rest)
  | [] => ([], [])

/-- One digit or more, with underscores between digits. -/
def digitRun (p : Char → Bool) : Reader (List Char)
  | c :: rest =>
      if p c then let (ds, rest) := moreDigits p rest; some (c :: ds, rest) else none
  | [] => none

/-- Digits of a whole number: no zero stands in front of others. -/
def wholeDigits : Reader (List Char)
  | '0' :: rest => some (['0'], rest)
  | cs => digitRun isDigit cs

/-- The sign at the front of a number: whether it is negative. -/
def sign : List Char → Bool × List Char
  | '-' :: rest => (true, rest)
  | '+' :: rest => (false, rest)
  | cs => (false, cs)

/-- The number that decimal digits make up. -/
def decimalNumber (digits : List Char) : Nat :=
  digits.foldl (fun n c => n * 10 + (c.toNat - '0'.toNat)) 0

/-- A whole number if it is a signed 64-bit one. -/
def signed64 (n : Int) : Option Scalar :=
  if minSigned ≤ n ∧ n ≤ maxSigned then some (.int n) else none

/-- A whole number: decimal with a sign, or hexadecimal, octal or binary without one. -/
def integer (cs : List Char) : Option (Scalar × List Char) :=
  let based (p : Char → Bool) (base : Nat) (cs : List Char) : Option (Scalar × List Char) := do
    let (digits, rest) ← digitRun p cs
    let n := digits.foldl (fun n c => n * base + (Text.hexDigit? c).getD 0) 0
    pure (← signed64 n, rest)
  match cs with
  | '0' :: 'x' :: rest => based Text.isHexDigit 16 rest
  | '0' :: 'o' :: rest => based (fun c => '0' ≤ c && c ≤ '7') 8 rest
  | '0' :: 'b' :: rest => based (fun c => c = '0' || c = '1') 2 rest
  | cs => do
      let (negative, cs) := sign cs
      let (digits, rest) ← wholeDigits cs
      let n := decimalNumber digits
      pure (← signed64 (if negative then -(n : Int) else n), rest)

/-- The exponent of a number: its value. -/
def exponent : Reader Int
  | c :: rest =>
      if c = 'e' ∨ c = 'E' then do
        let (negative, rest) := sign rest
        let (digits, rest) ← digitRun isDigit rest
        let n := decimalNumber digits
        pure (if negative then -(n : Int) else n, rest)
      else none
  | [] => none

/-- The binary64 nearest to `digits · 10 ^ power`.  Powers beyond any binary64 are cut short. -/
def nearest (digits : Nat) (power : Int) : Float :=
  if digits = 0 then 0.0
  else if 400 < power then 1.0 / 0.0
  else if power < 0 then
    let length := (Nat.toDigits 10 digits).length
    if (length : Int) + power < -400 then 0.0 else Float.ofScientific digits true (-power).toNat
  else Float.ofScientific digits false power.toNat

/-- A number with a fraction or an exponent, or one of the words for special numbers.  A number too
large is refused, unless it is negative. -/
def float (cs : List Char) : Option (Scalar × List Char) :=
  let (negative, unsigned) := sign cs
  let finish (f : Float) (rest : List Char) : Scalar × List Char :=
    (.float (if negative then -f else f).toBits, rest)
  match word? ['i', 'n', 'f'] unsigned, word? ['n', 'a', 'n'] unsigned with
  | some rest, _ => some (finish (1.0 / 0.0) rest)
  | _, some rest => some (finish (0.0 / 0.0) rest)
  | none, none => do
      let (whole, rest) ← wholeDigits unsigned
      let (digits, power, rest) ←
        match rest with
        | '.' :: rest => do
            let (fraction, rest) ← digitRun isDigit rest
            let (power, rest) := (exponent rest).getD (0, rest)
            pure (whole ++ fraction, power - fraction.length, rest)
        | rest => do
            let (power, rest) ← exponent rest
            pure (whole, power, rest)
      let f := nearest (decimalNumber digits) power
      if f.isInf ∧ !negative then none else pure (finish f rest)

/-- A number of exactly `count` digits. -/
def fixedDigits (count : Nat) (cs : List Char) : Option (Nat × List Char) :=
  let digits := cs.take count
  if digits.length = count ∧ digits.all isDigit then some (decimalNumber digits, cs.drop count)
  else none

/-- The text after one given character. -/
def after (c : Char) : List Char → Option (List Char)
  | d :: rest => if c = d then some rest else none
  | [] => none

/-- The number of days of a month. -/
def daysIn (year month : Nat) : Nat :=
  if month = 2 then
    if year % 4 = 0 ∧ (year % 100 ≠ 0 ∨ year % 400 = 0) then 29 else 28
  else if month = 4 ∨ month = 6 ∨ month = 9 ∨ month = 11 then 30
  else 31

/-- A date. -/
def date (cs : List Char) : Option (List Char) := do
  let (year, cs) ← fixedDigits 4 cs
  let cs ← after '-' cs
  let (month, cs) ← fixedDigits 2 cs
  let cs ← after '-' cs
  let (day, cs) ← fixedDigits 2 cs
  if 1 ≤ month ∧ month ≤ 12 ∧ 1 ≤ day ∧ day ≤ daysIn year month then some cs else none

/-- A time of day. -/
def clock (cs : List Char) : Option (List Char) := do
  let (hour, cs) ← fixedDigits 2 cs
  let cs ← after ':' cs
  let (minute, cs) ← fixedDigits 2 cs
  let cs ← after ':' cs
  let (second, cs) ← fixedDigits 2 cs
  if hour ≤ 23 ∧ minute ≤ 59 ∧ second ≤ 60 then
    match cs with
    | '.' :: c :: rest => if isDigit c then some (rest.dropWhile isDigit) else none
    | '.' :: [] => none
    | cs => some cs
  else none

/-- The text after the offset of a time from the common one, if it has an offset. -/
def afterOffset (cs : List Char) : Option (List Char) :=
  match cs with
  | 'Z' :: rest | 'z' :: rest => some rest
  | '+' :: rest | '-' :: rest => do
      let (hour, rest) ← fixedDigits 2 rest
      let rest ← after ':' rest
      let (minute, rest) ← fixedDigits 2 rest
      if hour ≤ 23 ∧ minute ≤ 59 then some rest else none
  | cs => some cs

/-- Whether a text starts like a date. -/
def startsDate (cs : List Char) : Bool := ((fixedDigits 4 cs).bind (after '-' ·.2)).isSome

/-- Whether a text starts like a time of day. -/
def startsClock (cs : List Char) : Bool := ((fixedDigits 2 cs).bind (after ':' ·.2)).isSome

/-- A date, a time of day or both, for a text that starts like one. -/
def time (cs : List Char) : Option (List Char) :=
  if startsDate cs then do
    let rest ← date cs
    match rest with
    | c :: more =>
        if (c = 'T' ∨ c = 't' ∨ c = ' ') ∧ startsClock more then (clock more).bind afterOffset
        else some rest
    | [] => some []
  else clock cs

/-- A scalar of any kind. -/
def scalar (cs : List Char) : Option (Scalar × List Char) :=
  match cs with
  | '"' :: _ | '\'' :: _ => (string cs).map fun (s, rest) => (.string s, rest)
  | 't' :: _ => (word? ['t', 'r', 'u', 'e'] cs).map (.bool true, ·)
  | 'f' :: _ => (word? ['f', 'a', 'l', 's', 'e'] cs).map (.bool false, ·)
  | _ =>
      if startsDate cs ∨ startsClock cs then (time cs).map (.time, ·)
      else match float cs with
        | some found => some found
        | none => integer cs

end ScriptHost.Toml
