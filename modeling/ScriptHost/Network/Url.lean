import ScriptHost.Text.Hex
import ScriptHost.Text.Utf8

/-!
# Addresses of web resources

An address is read without one to start from, so it needs a scheme.  The schemes of the web and a few
others (`isSpecial`) always have a host; with them a backslash counts as a slash, a port that is the
usual one is dropped, and a host that ends in a number is a numeric address.  Segments of a path that
stand for its own place or for the one above are carried out, and characters that must not stand in a
part of an address are written as the bytes of their UTF-8 form.

User information is dropped: it is no part of what is asked for.
-/

namespace ScriptHost.Network

/-- An address that has been read. -/
structure Url where
  scheme : String
  host : Option String
  port : Option Nat
  path : String
  query : Option String
  fragment : Option String
  deriving DecidableEq, Inhabited

namespace Url

/-- The usual port of a scheme. -/
def usualPort? : String → Option Nat
  | "http" | "ws" => some 80
  | "https" | "wss" => some 443
  | "ftp" => some 21
  | _ => none

/-- Whether a scheme always has a host. -/
def isSpecial (scheme : String) : Bool := (usualPort? scheme).isSome

/-! ## Written bytes -/

/-- A byte in writing. -/
def writeByte (b : UInt8) : List Char := '%' :: (Text.hexDigits 2 b.toNat).map Char.toUpper

/-- Text with the characters that must not stand in it written as bytes. -/
def encode (stays : Char → Bool) (cs : List Char) : List Char :=
  cs.flatMap fun c =>
    if stays c then [c] else (String.singleton c).toUTF8.toList.flatMap writeByte

/-- Text with written bytes read, as bytes. -/
def decode : List Char → List UInt8
  | [] => []
  | '%' :: a :: b :: rest =>
      match Text.hexDigit? a, Text.hexDigit? b with
      | some high, some low => (high * 16 + low).toUInt8 :: decode rest
      | _, _ => 0x25 :: decode (a :: b :: rest)
  | c :: rest => (String.singleton c).toUTF8.toList ++ decode rest

/-- What may stand anywhere. -/
def isGraphic (c : Char) : Bool := 0x20 ≤ c.toNat && c.toNat < 0x7f

/-- What may stand in a fragment. -/
def inFragment (c : Char) : Bool := isGraphic c && !" \"<>`".contains c

/-- What may stand in a path. -/
def inPath (c : Char) : Bool := inFragment c && !"#?\x7b\x7d".contains c

/-- What may stand in a query. -/
def inQuery (special : Bool) (c : Char) : Bool :=
  isGraphic c && !" \"#<>".contains c && !(special && c = '\'')

/-! ## Hosts -/

/-- What must not stand in a host. -/
def isForbidden (c : Char) : Bool := c.toNat ≤ 0x20 || c.toNat = 0x7f || "#/:<>?@[\\]^|%".contains c

/-- A part of a numeric address: decimal, octal or hexadecimal. -/
def number? (cs : List Char) : Option Nat :=
  let (base, digits) := match cs with
    | '0' :: 'x' :: rest | '0' :: 'X' :: rest => (16, rest)
    | '0' :: d :: rest => (8, d :: rest)
    | _ => (10, cs)
  if cs.isEmpty then none
  else
    digits.foldlM
      (fun n c =>
        match Text.hexDigit? c with
        | some d => if d < base then some (n * base + d) else none
        | none => none)
      0

/-- The value of the parts of a numeric address: the last one fills all the places that are left. -/
def address? : Nat → List Nat → Option Nat
  | _, [] => none
  | left, [n] => if n < Nat.pow 256 left then some n else none
  | left, n :: rest =>
      if n < 256 && 1 < left then
        (address? (left - 1) rest).map (n * Nat.pow 256 (left - 1) + ·)
      else none

/-- The labels of a host, without an empty one at the end. -/
def labels (host : String) : List String :=
  let parts := host.splitOn "."
  if 1 < parts.length && parts.getLast? = some "" then parts.dropLast else parts

/-- Whether a host ends in a number, so that it must be a numeric address. -/
def isNumeric (host : String) : Bool :=
  match (labels host).getLast? with
  | none => false
  | some label =>
      let cs := label.toList
      (!cs.isEmpty && cs.all Char.isDigit) || ((cs.take 2 = ['0', 'x']) && (number? cs).isSome)

/-- A host of a special scheme; nothing if it cannot be one. -/
def host? (cs : List Char) : Option String :=
  match cs with
  | [] => none
  | '[' :: _ => if cs.getLast? = some ']' then some (String.ofList cs).toLower else none
  | cs =>
      let host := (Text.lossy ⟨(decode cs).toArray⟩).toLower
      if host.isEmpty || host.any isForbidden then none
      else if isNumeric host then
        match (labels host).mapM fun label => number? label.toList with
        | none => none
        | some parts =>
            if 4 < parts.length then none
            else
              (address? 4 parts).map fun n =>
                ".".intercalate ([16777216, 65536, 256, 1].map fun unit => toString (n / unit % 256))
      else some host

/-- A host of any other scheme. -/
def plainHost? (cs : List Char) : Option String :=
  if cs.any fun c => isForbidden c && c ≠ '%' then none
  else some (String.ofList (encode isGraphic cs))

/-- A port; nothing inside if none is given. -/
def port? (cs : List Char) : Option (Option Nat) :=
  if !cs.all Char.isDigit then none
  else if cs.isEmpty then some none
  else
    let n := cs.foldl (fun n c => n * 10 + (c.toNat - '0'.toNat)) 0
    if n < 65536 then some (some n) else none

/-- What comes after the last sign that ends user information. -/
def afterUser (cs : List Char) : List Char := (cs.reverse.takeWhile (· ≠ '@')).reverse

/-- A host in brackets or up to a colon, and what comes after the colon. -/
def splitPort (cs : List Char) : List Char × List Char :=
  let (front, rest) := match cs with
    | '[' :: _ => let (inner, rest) := cs.span (· ≠ ']'); (inner ++ rest.take 1, rest.drop 1)
    | _ => cs.span (· ≠ ':')
  (front, match rest with
    | ':' :: port => port
    | rest => rest)

/-! ## Paths -/

/-- Whether a segment stands for its own place. -/
def isHere (segment : List Char) : Bool :=
  [".", "%2e"].contains (String.ofList segment).toLower

/-- Whether a segment stands for the place above. -/
def isAbove (segment : List Char) : Bool :=
  ["..", ".%2e", "%2e.", "%2e%2e"].contains (String.ofList segment).toLower

/-- Carry out the segments of a path, the last of which may be empty. -/
def walk (done : List (List Char)) : List (List Char) → List (List Char)
  | [] => done
  | [segment] =>
      if isAbove segment then done.dropLast ++ [[]]
      else if isHere segment then done ++ [[]]
      else done ++ [segment]
  | segment :: rest =>
      if isAbove segment then walk done.dropLast rest
      else if isHere segment then walk done rest
      else walk (done ++ [segment]) rest

/-- The parts between separators. -/
def splitAt (isSeparator : Char → Bool) : List Char → List (List Char)
  | [] => [[]]
  | c :: rest =>
      match splitAt isSeparator rest with
      | [] => [[c]]
      | part :: parts => if isSeparator c then [] :: part :: parts else (c :: part) :: parts

/-- Whether a character separates the segments of a path. -/
def isSlash (special : Bool) (c : Char) : Bool := c = '/' || (special && c = '\\')

/-- A path behind a host, or one that starts with a slash. -/
def writePath (special : Bool) (cs : List Char) : String :=
  let segments := splitAt (isSlash special) (if cs.isEmpty then cs else cs.drop 1)
  let written := (walk [] segments).map fun segment => '/' :: encode inPath segment
  String.ofList written.flatten

/-! ## Reading -/

/-- The scheme of a text, and what comes after it. -/
def scheme? (cs : List Char) : Option (String × List Char) :=
  let (name, rest) := cs.span fun c => c.isAlphanum || "+-.".contains c
  match name, rest with
  | first :: _, ':' :: rest =>
      if first.isAlpha then some ((String.ofList name).toLower, rest) else none
  | _, _ => none

/-- The text up to the query and the fragment, and those two. -/
def split (cs : List Char) : List Char × Option (List Char) × Option (List Char) :=
  let (front, fragment) := match cs.span (· ≠ '#') with
    | (front, []) => (front, none)
    | (front, _ :: fragment) => (front, some fragment)
  match front.span (· ≠ '?') with
  | (front, []) => (front, none, fragment)
  | (front, _ :: query) => (front, some query, fragment)

/-- Host, port and path; nothing if they cannot be read. -/
def place? (scheme : String) (cs : List Char) : Option (Option String × Option Nat × String) := do
  let special := isSpecial scheme
  let after (cs : List Char) (host? : List Char → Option String) := do
    let (authority, path) := cs.span fun c => !isSlash special c
    let (host, port) := splitPort (afterUser authority)
    let host ← host? host
    let port ← port? port
    some (some host, if port = usualPort? scheme then none else port,
      if path.isEmpty && !special then "" else writePath special path)
  if special then after (cs.dropWhile (isSlash true)) host?
  else
    match cs with
    | '/' :: '/' :: rest =>
        if scheme = "file" then some (none, none, "//" ++ writePath true (rest.dropWhile (· ≠ '/')))
        else after rest plainHost?
    | '/' :: _ => some (none, none, writePath false cs)
    | cs => some (none, none, String.ofList (encode isGraphic cs))

/-- Read an address.  Blanks around it, and ends of lines and tabs in it, do not count. -/
def parse? (text : String) : Option Url := do
  let isBlank (c : Char) : Bool := c.toNat ≤ 0x20
  let cs := ((text.toList.dropWhile isBlank).reverse.dropWhile isBlank).reverse
  let (scheme, cs) ← scheme? (cs.filter fun c => !"\t\n\r".contains c)
  let (front, query, fragment) := split cs
  let (host, port, path) ← place? scheme front
  let special := isSpecial scheme
  some ⟨scheme, host, port, path, query.map fun cs => String.ofList (encode (inQuery special) cs),
    fragment.map fun cs => String.ofList (encode inFragment cs)⟩

/-- An address in writing. -/
def text (u : Url) : String :=
  let authority := match u.host with
    | none => ""
    | some host => "//" ++ host ++ (u.port.map fun n => ":" ++ toString n).getD ""
  u.scheme ++ ":" ++ authority ++ u.path ++ (u.query.map ("?" ++ ·)).getD "" ++
    (u.fragment.map ("#" ++ ·)).getD ""

/-- Whether an address is one of the web. -/
def isWeb (u : Url) : Bool := u.scheme = "http" || u.scheme = "https"

/-- Read an address of the web, or say why a text is none. -/
def web (text : String) : Except String Url :=
  match parse? text with
  | none => .error "builder error"
  | some url => if url.isWeb then .ok url else .error ("builder error for url (" ++ url.text ++ ")")

end Url
end ScriptHost.Network
