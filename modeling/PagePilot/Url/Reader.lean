import PagePilot.Idna.Ascii
import PagePilot.Url.Basic
/-!
# PagePilot.Url.Reader

Reading an address as browsers do. Blanks and controls at the ends and all tabs and
line ends are left out; a backslash is as good as a slash; any number of slashes
may follow the scheme. The address is cut first into its parts, and each part is
then read on its own.
-/

namespace PagePilot.Url

/-! ### Cutting -/

/-- The characters that are left out everywhere. -/
def isIdle (c : Char) : Bool :=
  c = '\t' || c = '\n' || c = '\r'

/-- Leaves out what does not count. -/
def clean (text : List Char) : List Char :=
  let front := text.dropWhile (· ≤ ' ')
  (front.reverse.dropWhile (· ≤ ' ')).reverse.filter (!isIdle ·)

/-- Whether a character is a slash of either kind. -/
def isSlash (c : Char) : Bool :=
  c = '/' || c = '\\'

/-- Whether a character ends the host and what belongs to it. -/
def endsAuthority (c : Char) : Bool :=
  isSlash c || c = '?' || c = '#'

/-- Whether a character may stand in a scheme behind the first. -/
def isSchemeChar (c : Char) : Bool :=
  c.isAlphanum || c = '+' || c = '-' || c = '.'

/-- Cuts off the scheme, which is told in small letters. -/
def cutScheme? (text : List Char) : Option (String × List Char) :=
  match text with
  | c :: _ =>
      if c.isAlpha then
        match text.dropWhile isSchemeChar with
        | ':' :: rest => some (String.ofList ((text.takeWhile isSchemeChar).map Char.toLower), rest)
        | _ => none
      else none
  | [] => none

/-- The parts of an address, as they are written. -/
structure Pieces where
  scheme : Scheme
  /-- What stands in front of the last at sign. -/
  credentials : Option (List Char)
  host : List Char
  /-- What stands behind the colon behind the host. -/
  port : Option (List Char)
  /-- With the slash in front, if there is one. -/
  path : List Char
  query : Option (List Char)
  fragment : Option (List Char)
deriving Repr, DecidableEq

/-- Cuts a text at the last at sign. -/
def cutCredentials (authority : List Char) : Option (List Char) × List Char :=
  let behind := (authority.reverse.takeWhile (· ≠ '@')).reverse
  if behind.length = authority.length then (none, authority)
  else (some (authority.take (authority.length - behind.length - 1)), behind)

/-- Cuts a text at the first colon that is not in brackets. -/
def cutPort (inBrackets : Bool) : List Char → List Char × Option (List Char)
  | [] => ([], none)
  | c :: rest =>
      if c = ':' && !inBrackets then ([], some rest)
      else
        let (host, port) := cutPort (c = '[' || (inBrackets && c ≠ ']')) rest
        (c :: host, port)

/-- Cuts a text at the first occurrence of a character. -/
def cutAt (mark : Char) (text : List Char) : List Char × Option (List Char) :=
  match text.dropWhile (· ≠ mark) with
  | [] => (text, none)
  | _ :: rest => (text.takeWhile (· ≠ mark), some rest)

/-- Cuts an address into its parts. -/
def Pieces.ofText? (text : List Char) : Option Pieces := do
  let (word, rest) ← cutScheme? (clean text)
  let scheme ← Scheme.ofWord? word
  let rest := rest.dropWhile isSlash
  let authority := rest.takeWhile (!endsAuthority ·)
  let (credentials, hostAndPort) := cutCredentials authority
  let (host, port) := cutPort false hostAndPort
  let (beforeFragment, fragment) := cutAt '#' (rest.dropWhile (!endsAuthority ·))
  let (path, query) := cutAt '?' beforeFragment
  some { scheme, credentials, host, port, path, query, fragment }

/-! ### Reading the parts -/

/-- Reads a host. -/
def readHost? (text : List Char) : Option Host :=
  match text with
  | '[' :: rest =>
      if rest.getLast? = some ']' then (readIpv6? rest.dropLast).map .ipv6 else none
  | _ => do
      let decoded ← decode? text
      let name ← Idna.toAscii? decoded
      if name.isEmpty then none
      else if endsInNumber name then (readIpv4? name).map .ipv4
      else some (.name name)

/-- The value of a text of decimal digits. -/
def decimalValue (text : List Char) : Nat :=
  text.foldl (fun value c => value * 10 + (c.toNat - '0'.toNat)) 0

/-- Reads what stands behind the colon: nothing, or a number that fits in sixteen
bits. -/
def readPort? (text : List Char) : Option (Option Nat) :=
  if text.isEmpty then some none
  else if text.all Char.isDigit ∧ decimalValue text ≤ 0xffff then some (some (decimalValue text))
  else none

/-- The port that is written in an address, if one is. -/
def Pieces.writtenPort? (p : Pieces) : Option (Option Nat) :=
  match p.port with
  | none => some none
  | some text => readPort? text

/-- What a part of a path says when its dots may be written in encoded form. -/
def plainDots : List Char → List Char
  | '%' :: '2' :: c :: rest =>
      if c = 'e' ∨ c = 'E' then '.' :: plainDots rest else '%' :: '2' :: plainDots (c :: rest)
  | c :: rest => c :: plainDots rest
  | [] => []

/-- Cuts a path at its slashes. -/
def splitAtSlashes : List Char → List (List Char)
  | [] => [[]]
  | c :: rest =>
      if isSlash c then [] :: splitAtSlashes rest
      else
        match splitAtSlashes rest with
        | [] => [[c]]
        | part :: parts => (c :: part) :: parts

/-- Walks along a path; `done` are the parts so far, the last first. One dot stays, and
two go back; at the end both leave an empty part. -/
def walk (done : List (List Char)) : List (List Char) → List (List Char)
  | [] => done.reverse
  | part :: rest =>
      let next :=
        if plainDots part = ['.', '.'] then done.drop 1
        else if plainDots part = ['.'] then done
        else Part.encode .path part :: done
      match rest with
      | [] =>
          if plainDots part = ['.', '.'] ∨ plainDots part = ['.'] then ([] :: next).reverse
          else next.reverse
      | _ => walk next rest

/-- Reads a path. -/
def readPath (text : List Char) : List (List Char) :=
  match text with
  | [] => [[]]
  | c :: rest => walk [] (splitAtSlashes (if isSlash c then rest else c :: rest))

/-- Reads the user and the password. -/
def readCredentials (text : List Char) : List Char × List Char :=
  let (user, password) := cutAt ':' text
  (Part.encode .user user, Part.encode .user (password.getD []))

/-- The address of its parts. -/
def ofPieces? (p : Pieces) : Option Url := do
  if p.host.isEmpty then none
  else
    let host ← readHost? p.host
    let port ← p.writtenPort?
    let (user, password) := readCredentials (p.credentials.getD [])
    some
      { scheme := p.scheme, user, password, host
        port := port.filter (· ≠ p.scheme.defaultPort)
        path := readPath p.path
        query := p.query.map (Part.encode .query)
        fragment := p.fragment.map (Part.encode .fragment) }

/-- Reads an address. -/
def read? (text : String) : Option Url := do
  let pieces ← Pieces.ofText? text.toList
  ofPieces? pieces

end PagePilot.Url
