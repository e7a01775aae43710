import RequestSuite.Text.Integer
import RequestSuite.Toml.Fields

/-!
# Dates and times in TOML texts

A moment is a date, a time, or both with or without an offset from universal time.  As a value it
is a map with one field that holds its text in a uniform spelling.
-/

namespace RequestSuite.Toml

/-- The key of the only field of the map that stands for a moment. -/
def momentKey : String := "$__toml_private_datetime"

/-- The days of a month. -/
def daysOf (year month : Nat) : Nat :=
  if month = 2 then
    if year % 4 = 0 ∧ (year % 100 ≠ 0 ∨ year % 400 = 0) then 29 else 28
  else if [4, 6, 9, 11].contains month then 30
  else 31

/-- A number of exactly two digits below a bound. -/
def twoDigits? (bound : Nat) (s : List Char) : Option Nat :=
  if s.length = 2 then (Text.readNat? s).filter (· < bound) else none

/-- Whether a text is a date, such as `2020-01-31`. -/
def isDate (s : List Char) : Bool :=
  match s with
  | [y1, y2, y3, y4, '-', m1, m2, '-', d1, d2] =>
    match Text.readNat? [y1, y2, y3, y4], twoDigits? 13 [m1, m2], twoDigits? 32 [d1, d2] with
    | some year, some month, some day => 1 ≤ month && 1 ≤ day && day ≤ daysOf year month
    | _, _, _ => false
  | _ => false

/-- The part of a time after its minutes in uniform spelling: the seconds and their fraction of at
most nine digits. -/
def seconds? : List Char → Option (List Char)
  | [] => some []
  | ':' :: s1 :: s2 :: fraction =>
    match twoDigits? 61 [s1, s2], fraction with
    | none, _ => none
    | some _, [] => some [':', s1, s2]
    | some _, '.' :: digits =>
      if digits.isEmpty ∨ !digits.all Char.isDigit then none
      else
        let kept := ((digits.take 9).reverse.dropWhile (· == '0')).reverse
        some (':' :: s1 :: s2 :: '.' :: if kept.isEmpty then ['0'] else kept)
    | some _, _ => none
  | _ => none

/-- A time of a day in uniform spelling. -/
def time? (s : List Char) : Option (List Char) :=
  match s with
  | h1 :: h2 :: ':' :: m1 :: m2 :: rest =>
    match twoDigits? 24 [h1, h2], twoDigits? 60 [m1, m2] with
    | some _, some _ => (seconds? rest).map fun s => [h1, h2, ':', m1, m2] ++ s
    | _, _ => none
  | _ => none

/-- An offset from universal time in uniform spelling. -/
def offset? (s : List Char) : Option (List Char) :=
  match s with
  | [] => some []
  | ['Z'] | ['z'] => some ['Z']
  | [sign, h1, h2, ':', m1, m2] =>
    match twoDigits? 24 [h1, h2], twoDigits? 60 [m1, m2] with
    | some hours, some minutes =>
      if sign = '+' ∨ (sign = '-' ∧ hours = 0 ∧ minutes = 0) then
        some ['+', h1, h2, ':', m1, m2]
      else if sign = '-' then some ['-', h1, h2, ':', m1, m2]
      else none
    | _, _ => none
  | _ => none

/-- The uniform spelling of a moment. -/
def moment? (s : List Char) : Option (List Char) :=
  let date := s.take 10
  if isDate date then
    match s.drop 10 with
    | [] => some date
    | mark :: rest =>
      if mark = 'T' ∨ mark = 't' ∨ mark = ' ' then
        let isTimeChar (c : Char) : Bool := c.isDigit || c == ':' || c == '.'
        match time? (rest.takeWhile isTimeChar), offset? (rest.dropWhile isTimeChar) with
        | some time, some offset => some (date ++ 'T' :: time ++ offset)
        | _, _ => none
      else none
  else time? s

end RequestSuite.Toml
