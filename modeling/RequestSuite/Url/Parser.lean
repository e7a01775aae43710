import RequestSuite.Url.Host

/-!
# Reading URLs

The parts of a URL are found from left to right, and in each part the characters that may not stand
there are percent-encoded.  The web's own schemes are read leniently: any number of slashes or
backslashes may follow the scheme, the host may not be empty, and the path is never empty.  Steps
up and steps to the same place are taken out of paths.

This is the reader that a client uses unless it is given another one.
-/

namespace RequestSuite

namespace Url

/-! ## Characters -/

/-- The characters of ASCII that are visible or blank. -/
def isPlain (c : Char) : Bool :=
  32 ≤ c.toNat && c.toNat < 127

/-- The characters that stand for themselves in a fragment. -/
def inFragment (c : Char) : Bool :=
  isPlain c && !" \"<>\x60".toList.contains c

/-- The characters that stand for themselves in a path. -/
def inPath (c : Char) : Bool :=
  inFragment c && !"#?\x7b\x7d".toList.contains c

/-- The characters that stand for themselves in the name and the password of a user. -/
def inUser (c : Char) : Bool :=
  inPath c && !"/:;=@[\\]^|".toList.contains c

/-- The characters that stand for themselves in a query. -/
def inQuery (special : Bool) (c : Char) : Bool :=
  isPlain c && !" \"#<>".toList.contains c && !(special && c == '\'')

/-- A text in which all but the characters of a class are encoded. -/
def encoded (keep : Char → Bool) (s : List Char) : String :=
  String.ofList (Text.percentEncode keep s)

/-! ## Schemes -/

/-- The web's own schemes with their usual ports. -/
def specialPorts : List (String × Nat) :=
  [("http", 80), ("https", 443), ("ws", 80), ("wss", 443), ("ftp", 21)]

/-- Whether a scheme is one of the web's own or that of files. -/
def isSpecial (scheme : String) : Bool :=
  scheme == "file" || (specialPorts.lookup scheme).isSome

/-- The scheme at the start of a text, in lower case, and what follows its colon. -/
def splitScheme? (s : List Char) : Option (String × List Char) :=
  let isSchemeChar (c : Char) : Bool := c.isAlphanum || c == '+' || c == '-' || c == '.'
  match s.takeWhile isSchemeChar, s.dropWhile isSchemeChar with
  | c :: scheme, ':' :: rest =>
    if c.isAlpha then some (String.ofList ((c :: scheme).map Char.toLower), rest) else none
  | _, _ => none

/-! ## Authorities -/

/-- Whether a character ends an authority. -/
def endsAuthority (special : Bool) (c : Char) : Bool :=
  c == '/' || c == '?' || c == '#' || (special && c == '\\')

/-- The user before the last at sign of an authority, and what follows that sign. -/
def splitUser (special : Bool) (s : List Char) : Option (List Char × List Char) :=
  let authority := s.takeWhile fun c => !endsAuthority special c
  if authority.contains '@' then
    let host := (authority.reverse.takeWhile (· != '@')).reverse
    let user := authority.take (authority.length - host.length - 1)
    some (user, s.drop (user.length + 1))
  else none

/-- The name and the password of a user. -/
def userParts (user : List Char) : String × String :=
  (encoded inUser (user.takeWhile (· != ':')), encoded inUser ((user.dropWhile (· != ':')).drop 1))

/-- The host at the start of a text, up to a colon outside of brackets or the end of the authority.
-/
def hostLength (special : Bool) : Bool → List Char → Nat
  | _, [] => 0
  | inside, c :: rest =>
    if (c == ':' && !inside) || endsAuthority special c then 0
    else
      let inside := if c == '[' then true else if c == ']' then false else inside
      hostLength special inside rest + 1

/-- The largest port. -/
def portLimit : Nat := 65535

/-- The port after a colon, if there are digits, and what follows them. -/
def readPort (s : List Char) : Except UrlFault (Option Nat × List Char) :=
  let digits := s.takeWhile Char.isDigit
  let rest := s.dropWhile Char.isDigit
  let port := Decimal.readDigits digits
  if portLimit < port then .error .badPort
  else if rest.head?.any fun c => !endsAuthority true c then .error .badPort
  else .ok (if digits.isEmpty then none else some port, rest)

/-- The authority at the start of a text, and what follows it. -/
def readAuthority (scheme : String) (s : List Char) :
    Except UrlFault (Authority × List Char) := do
  let special := isSpecial scheme
  let (user, rest) := (splitUser special s).getD ([], s)
  let atSign := (splitUser special s).isSome
  let (username, password) := userParts user
  if atSign ∧ user.isEmpty ∧ rest.head?.any (endsAuthority special) then throw .emptyHost
  let size := hostLength special false rest
  let name := rest.take size
  let rest := rest.drop size
  if special ∧ name.isEmpty then throw .emptyHost
  let host ← if special then Host.special name else Host.other name
  let (port, rest) ← match rest with
    | ':' :: rest => do
      if host.isEmpty then throw .emptyHost
      let (port, rest) ← readPort rest
      pure (if specialPorts.lookup scheme = port then none else port, rest)
    | rest => pure (none, rest)
  if host.isEmpty ∧ (username ≠ "" ∨ password ≠ "") then throw .emptyHost
  return (⟨username, password, String.ofList host, port⟩, rest)

/-! ## Paths -/

/-- Whether a segment is a step to the same place. -/
def isStay (s : List Char) : Bool :=
  s == ['.'] || s.map Char.toLower == ['%', '2', 'e']

/-- Whether a segment is a step up. -/
def isUp (s : List Char) : Bool :=
  ["..", ".%2e", "%2e.", "%2e%2e"].contains (String.ofList (s.map Char.toLower))

/-- The segments of a path. -/
def splitPath (special : Bool) : List Char → List (List Char)
  | [] => [[]]
  | c :: rest =>
    match splitPath special rest with
    | [] => [[c]]
    | part :: parts =>
      if c == '/' || (special && c == '\\') then [] :: part :: parts else (c :: part) :: parts

/-- Whether a segment names a drive, as `C:` and `C|` do. -/
def isDrive : List Char → Bool
  | [c, mark] => c.isAlpha && (mark == ':' || mark == '|')
  | _ => false

/-- A segment that names a drive, with the mark that such names end in. -/
def driveName (s : List Char) : List Char :=
  s.take 1 ++ [':']

/-- The segments of a path without the steps up and to the same place.  No step leads up from a
drive, and the drive that a file's path starts with gets its usual mark.  `done` holds the segments
before, last one first. -/
def walk (file : Bool) (done : List (List Char)) : List (List Char) → List (List Char)
  | [] => done.reverse
  | s :: rest =>
    let upper := if done.head?.any isDrive then done else done.drop 1
    let done :=
      if isUp s then (if rest.isEmpty then [] :: upper else upper)
      else if isStay s then (if rest.isEmpty then [] :: done else done)
      else if file && done.isEmpty && isDrive s then [driveName s]
      else s :: done
    walk file done rest

/-- The segments of a path that starts after a slash. -/
def segments (file special : Bool) (s : List Char) : List (List Char) :=
  walk file [] ((splitPath special s).map (Text.percentEncode inPath))

/-- The text of a path that starts after a slash. -/
def pathText (special : Bool) (s : List Char) : List Char :=
  '/' :: ['/'].intercalate (segments false special s)

/-- The rest of a text without the slash that it may start with. -/
def withoutSlash (special : Bool) : List Char → List Char
  | [] => []
  | c :: rest => if c == '/' || (special && c == '\\') then rest else c :: rest

/-! ## URLs -/

/-- Whether a character ends a path. -/
def endsPath (c : Char) : Bool :=
  c == '?' || c == '#'

/-- The URL whose path, query and fragment a text is. -/
def complete (scheme : String) (authority : Option Authority) (path : List Char → List Char)
    (s : List Char) : Url :=
  let rest := s.dropWhile fun c => !endsPath c
  let beforeFragment := rest.takeWhile (· != '#')
  let query := match beforeFragment with
    | '?' :: q => some (encoded (inQuery (isSpecial scheme)) q)
    | _ => none
  let fragment := match rest.dropWhile (· != '#') with
    | '#' :: f => some (encoded inFragment f)
    | _ => none
  { scheme := scheme
    authority := authority
    path := String.ofList (path (s.takeWhile fun c => !endsPath c))
    query := query
    fragment := fragment }

/-- The host at the start of the address of a file, and what follows it.  This machine needs no
name, and a drive is not a host but the start of the path. -/
def readFileHost (s : List Char) : Except UrlFault (String × List Char) := do
  let name := s.takeWhile fun c => !endsAuthority true c
  let rest := s.drop name.length
  if name.isEmpty then return ("", rest)
  if isDrive name then return ("", s)
  let host := String.ofList (← Host.special name)
  return (if host = "localhost" then "" else host, rest)

/-- The segments of the path of a file. -/
def fileSegments (s : List Char) : List (List Char) :=
  segments true true (withoutSlash true s)

/-- The path of a file. -/
def filePath (s : List Char) : List Char :=
  '/' :: (['/'].intercalate (fileSegments s)).dropWhile (· == '/')

/-- The address of a file, without its scheme.  A file on a drive has no host. -/
def readFile (s : List Char) : Except UrlFault Url := do
  let isSlash (c : Char) : Bool := c == '/' || c == '\\'
  let (host, rest) ←
    match s with
    | a :: b :: rest => if isSlash a && isSlash b then readFileHost rest else pure ("", s)
    | _ => pure ("", s)
  let onDrive := (fileSegments (rest.takeWhile fun c => !endsPath c)).head?.any isDrive
  return complete "file" (some ⟨"", "", if onDrive then "" else host, none⟩) filePath rest

/-- The URL with a scheme that what follows its colon describes. -/
def readAfterScheme (scheme : String) (s : List Char) : Except UrlFault Url := do
  if scheme = "file" then readFile s
  else if isSpecial scheme then
    let (authority, rest) ← readAuthority scheme (s.dropWhile fun c => c == '/' || c == '\\')
    return complete scheme (some authority) (fun p => pathText true (withoutSlash true p)) rest
  else
    match s with
    | '/' :: '/' :: rest => do
      let (authority, rest) ← readAuthority scheme rest
      return complete scheme (some authority)
        (fun p => if p.isEmpty then [] else pathText false (withoutSlash false p)) rest
    | '/' :: rest => return complete scheme none (pathText false) rest
    | rest => return complete scheme none (Text.percentEncode isPlain) rest

/-- The URL that a text describes.  Control characters and blanks around it do not count, and
neither do tabs and line breaks inside. -/
def parse : UrlReader := fun text =>
  let isOuter (c : Char) : Bool := c.toNat ≤ 32
  let s := ((text.toList.dropWhile isOuter).reverse.dropWhile isOuter).reverse
  let s := s.filter fun c => c != '\t' && c != '\n' && c != '\r'
  match splitScheme? s with
  | none => .error .noScheme
  | some (scheme, rest) => readAfterScheme scheme rest

end Url

end RequestSuite
