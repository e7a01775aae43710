import RequestSuite.Number.Decimal
import RequestSuite.Unicode.Case
import RequestSuite.Unicode.Property
import RequestSuite.Url.Basic
import RequestSuite.Url.Punycode

/-!
# Hosts of URLs

A host is a name or a number.  Names of the web's own schemes are domains: they are written in
lower case and in ASCII, and one that ends like a number has to be an address of four bytes.  In
brackets stands an address of eight groups.  Hosts of other schemes are kept as they are.

Of the rules for international domains only some are here: letter case, full-width forms and
characters that vanish.  Compatibility forms, composed characters, and the rules on joiners and on
the direction of writing are left out, so a domain beyond ASCII may be read in another way than by
a reader with the full tables.
-/

namespace RequestSuite

namespace Host

/-- The parts of a text between points. -/
def parts (s : List Char) : List (List Char) :=
  Unicode.splitAt '.' s

/-! ## Domains -/

/-- The characters that no domain may contain. -/
def isForbidden (c : Char) : Bool :=
  c.toNat ≤ 32 || c.toNat == 127 || "#%/:<>?@[\\]^|".toList.contains c

/-- The points that separate labels in other scripts. -/
def isLabelPoint (c : Char) : Bool :=
  c == '\u3002' || c == '\uff0e' || c == '\uff61'

/-- The characters that vanish from a domain. -/
def isIgnored (c : Char) : Bool :=
  let n := c.toNat
  n == 0xAD || n == 0x200B || n == 0x2060 || n == 0xFEFF || (0xFE00 ≤ n && n ≤ 0xFE0F)

/-- The ASCII code point of a full-width form; any other code point is kept. -/
def halfWidth (n : Nat) : Nat :=
  if 0xFF01 ≤ n ∧ n ≤ 0xFF5E then n - 0xFEE0 else n

/-- A character of a domain in the form in which domains are compared. -/
def plainChars (c : Char) : List Char :=
  if isLabelPoint c then ['.']
  else if isIgnored c then []
  else if c == '\u00df' || c == '\u03c2' then [c]
  else [Char.ofNat (Unicode.fold (halfWidth c.toNat))]

/-- Whether a code point belongs to one of some general categories. -/
def hasCategory (names : List String) (n : Nat) : Bool :=
  names.any fun name =>
    ((Unicode.categoryNamed? (Unicode.plainName name.toList)).getD []).any fun p => p.holds n

/-- The characters beyond ASCII that a label may contain. -/
def isLabelChar (c : Char) : Bool :=
  c.toNat < 128 || !hasCategory ["C", "Z", "Cc", "Cf", "Cn", "Co", "Cs"] c.toNat

/-- A label in ASCII, if it may be one. -/
def asciiLabel? (label : List Char) : Option (List Char) :=
  let valid (s : List Char) : Bool :=
    s.all isLabelChar && !(s.head?.any fun c => hasCategory ["M"] c.toNat)
  match label with
  | 'x' :: 'n' :: '-' :: '-' :: code =>
    match Punycode.decode? code with
    | some s =>
      if valid s && s.any (fun c => 128 ≤ c.toNat) && s.flatMap plainChars == s then some label
      else none
    | none => none
  | label =>
    if label.all fun c => c.toNat < 128 then some label
    else if valid label then some ("xn--".toList ++ Punycode.encode label)
    else none

/-- A domain in ASCII and lower case. -/
def domain? (bytes : List UInt8) : Option (List Char) := do
  let text ← String.fromUTF8? ⟨bytes.toArray⟩
  let labels ← (parts (text.toList.flatMap plainChars)).mapM asciiLabel?
  let domain := ['.'].intercalate labels
  if domain.any isForbidden then none else return domain

/-! ## Addresses of four bytes -/

/-- A number of an address, in one of three bases; `none` for a text that is no number, and
`some none` for a number that is too large. -/
def addressNumber? (s : List Char) : Option (Option Nat) :=
  let (base, digits) := match s with
    | '0' :: 'x' :: digits => (16, digits)
    | '0' :: 'X' :: digits => (16, digits)
    | '0' :: d :: digits => (8, d :: digits)
    | digits => (10, digits)
  if s.isEmpty then none
  else
    (digits.foldlM (fun n c =>
      (Text.hexDigitValue? c).bind fun d => if d < base then some (n * base + d) else none) 0).map
      fun n => if n < 0x100000000 then some n else none

/-- The parts of a domain without an empty one at its end. -/
def addressParts (domain : List Char) : List (List Char) :=
  let ps := parts domain
  if 1 < ps.length ∧ ps.getLast? = some [] then ps.dropLast else ps

/-- Whether the last part of a domain is a number. -/
def endsInNumber (domain : List Char) : Bool :=
  match (addressParts domain).getLast? with
  | some last => (!last.isEmpty && last.all Char.isDigit) || (addressNumber? last).isSome
  | none => false

/-- The four bytes of an address as one number.  The last part of an address with fewer than four
parts stands for all the remaining bytes. -/
def fourBytes? (domain : List Char) : Option Nat := do
  let ps := addressParts domain
  if 4 < ps.length then none
  let numbers ← ps.mapM fun p => (addressNumber? p).join
  let last ← numbers.getLast?
  let earlier := numbers.dropLast
  let rest := Nat.pow 256 (4 - earlier.length)
  if earlier.any (255 < ·) ∨ rest ≤ last then none
  return earlier.foldl (fun n byte => n * 256 + byte) 0 * rest + last

/-- The usual spelling of an address of four bytes. -/
def fourBytesText (n : Nat) : List Char :=
  ['.'].intercalate ([n / 0x1000000, n / 0x10000 % 256, n / 256 % 256, n % 256].map
    Decimal.digitChars)

/-! ## Addresses of eight groups -/

/-- A byte of the address of four bytes within one of eight groups. -/
def plainByte? (s : List Char) : Option Nat :=
  if s.isEmpty ∨ 3 < s.length ∨ !s.all Char.isDigit ∨ (1 < s.length ∧ s.head? = some '0') then none
  else (some (Decimal.readDigits s)).filter (· < 256)

/-- A group of an address. -/
def group? (s : List Char) : Option Nat :=
  if s.isEmpty ∨ 4 < s.length then none
  else s.foldlM (fun n c => (Text.hexDigitValue? c).map fun d => n * 16 + d) 0

/-- The groups of a text between colons, of which the last may be an address of four bytes. -/
def groups? (last : Bool) (s : List Char) : Option (List Nat) :=
  if s.isEmpty then some []
  else
    let pieces := Unicode.splitAt ':' s
    match pieces.getLast? with
    | none => none
    | some tail => do
      let heads ← pieces.dropLast.mapM group?
      if last ∧ tail.contains '.' then
        match ← (parts tail).mapM plainByte? with
        | [a, b, c, d] => return heads ++ [a * 256 + b, c * 256 + d]
        | _ => none
      else return heads ++ [← group? tail]

/-- The text before and after the first double colon. -/
def splitGap : List Char → Option (List Char × List Char)
  | ':' :: ':' :: rest => some ([], rest)
  | c :: rest => (splitGap rest).map fun (before, after) => (c :: before, after)
  | [] => none

/-- The eight groups of an address, in which a double colon stands for at least one group of
zeros. -/
def eightGroups? (s : List Char) : Option (List Nat) :=
  match splitGap s with
  | none => (groups? true s).filter fun gs => gs.length == 8
  | some (before, after) => do
    let heads ← groups? false before
    let tails ← groups? true after
    let size := heads.length + tails.length
    if 8 ≤ size then none else return heads ++ List.replicate (8 - size) 0 ++ tails

/-- The longest run of zeros, its start and its length; the first of equally long ones. -/
def longestZeros (groups : List Nat) : Nat × Nat :=
  (List.range groups.length).foldl (fun best i =>
    let run := ((groups.drop i).takeWhile (· == 0)).length
    if best.2 < run then (i, run) else best) (0, 0)

/-- The hexadecimal digits of a group. -/
def groupChars (n : Nat) : List Char :=
  Nat.toDigits 16 n

/-- The usual spelling of an address of eight groups: a double colon stands for the longest run of
at least two zeros. -/
def eightGroupsText (groups : List Nat) : List Char :=
  let joined (gs : List Nat) : List Char := [':'].intercalate (gs.map groupChars)
  let (start, run) := longestZeros groups
  if run < 2 then joined groups
  else joined (groups.take start) ++ ':' :: ':' :: joined (groups.drop (start + run))

/-! ## Hosts -/

/-- The host in brackets that a text is, if it starts with one. -/
def bracketed? (s : List Char) : Option (Except UrlFault (List Char)) :=
  match s with
  | '[' :: rest =>
    match rest.reverse with
    | ']' :: inner =>
      match eightGroups? inner.reverse with
      | some gs => some (.ok ('[' :: eightGroupsText gs ++ [']']))
      | none => some (.error .badEightGroupAddress)
    | _ => some (.error .badEightGroupAddress)
  | _ => none

/-- A host of the web's own schemes. -/
def special (s : List Char) : Except UrlFault (List Char) :=
  match bracketed? s with
  | some host => host
  | none =>
    match domain? (Text.percentDecode s) with
    | none => .error .badDomain
    | some domain =>
      if domain.isEmpty then .error .emptyHost
      else if endsInNumber domain then
        match fourBytes? domain with
        | some n => .ok (fourBytesText n)
        | none => .error .badFourByteAddress
      else .ok domain

/-- The characters that no host of another scheme may contain. -/
def isForbiddenElsewhere (c : Char) : Bool :=
  c == '\x00' || "\t\n\r #/:<>?@[\\]^|".toList.contains c

/-- A host of another scheme. -/
def other (s : List Char) : Except UrlFault (List Char) :=
  match bracketed? s with
  | some host => host
  | none =>
    if s.any isForbiddenElsewhere then .error .badHostChar
    else .ok (Text.percentEncode (fun c => 32 ≤ c.toNat && c.toNat < 127) s)

end Host

end RequestSuite
