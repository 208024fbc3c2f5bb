import QuadPort.Toml.Lexeme
import QuadPort.Toml.Value

/-!
# Numbers, dates and truth values

Digits may be separated by single underscores. A decimal integer has no leading zero; the
other bases take no sign. Integers are those of 64 bits. A float has a fraction, an
exponent or both. Dates and times are checked against the calendar but not kept.
-/

namespace QuadPort.Toml.Literal

open Lexeme

/-! ## Digits -/

/-- The rest of a run of digits with single underscores between them. An underscore that
no digit follows makes the run invalid. -/
def moreDigits (isIn : Char → Bool) : Reader (List Char)
  | '_' :: c :: rest =>
    if isIn c then (moreDigits isIn rest).map fun (digits, rest) ↦ (c :: digits, rest) else none
  | '_' :: [] => none
  | c :: rest =>
    if isIn c then (moreDigits isIn rest).map fun (digits, rest) ↦ (c :: digits, rest)
    else some ([], c :: rest)
  | [] => some ([], [])

def digits (isIn : Char → Bool) : Reader (List Char)
  | c :: rest =>
    if isIn c then (moreDigits isIn rest).map fun (digits, rest) ↦ (c :: digits, rest) else none
  | [] => none

def valueOf (base : Nat) (digits : List Char) : Nat :=
  digits.foldl (fun value c ↦ base * value + (Text.Hex.digit? c).getD 0) 0

/-- The digits of a decimal integer: a zero alone, or a run that does not start with one. -/
def decimalDigits : Reader (List Char)
  | '0' :: rest => some (['0'], rest)
  | text => digits isDigit text

/-- A sign: whether it is a minus. -/
def sign : List Char → Bool × List Char
  | '-' :: rest => (true, rest)
  | '+' :: rest => (false, rest)
  | text => (false, text)

/-! ## Integers and floats -/

/-- The integers of 64 bits. -/
def inRange (value : Int) : Bool :=
  Int64.minValue.toInt ≤ value && value ≤ Int64.maxValue.toInt

/-- An integer in a base other than ten, behind its two-character mark. -/
def based (base : Nat) (isIn : Char → Bool) (text : List Char) :
    Option (Scalar × List Char) := do
  let (run, rest) ← digits isIn text
  let value : Int := valueOf base run
  if inRange value then some (.integer value, rest) else none

def fraction? : Reader (Option (List Char))
  | '.' :: rest => (digits isDigit rest).map fun (run, rest) ↦ (some run, rest)
  | text => some (none, text)

def exponent? : Reader (Option Int)
  | c :: rest =>
    if c == 'e' || c == 'E' then do
      let (negative, rest) := sign rest
      let (run, rest) ← digits isDigit rest
      let value : Int := valueOf 10 run
      return (some (if negative then -value else value), rest)
    else some (none, c :: rest)
  | [] => some (none, [])

/-- A decimal number. Only negative numbers may be too large for a float. -/
def decimal (text : List Char) : Option (Scalar × List Char) := do
  let (negative, unsigned) := sign text
  let (whole, rest) ← decimalDigits unsigned
  let (fraction, rest) ← fraction? rest
  let (exponent, rest) ← exponent? rest
  if fraction.isNone && exponent.isNone then
    let value : Int := if negative then -valueOf 10 whole else valueOf 10 whole
    if inRange value then some (.integer value, rest) else none
  else
    let places := fraction.getD []
    let value := Binary64.nearest negative (valueOf 10 (whole ++ places))
      (exponent.getD 0 - places.length)
    if value = .infinite false then none else some (.float value, rest)

/-- Infinity or not-a-number, without a sign. -/
def special (negative : Bool) : List Char → Option (Scalar × List Char)
  | 'i' :: 'n' :: 'f' :: rest => some (.float (.infinite negative), rest)
  | 'n' :: 'a' :: 'n' :: rest => some (.float .nan, rest)
  | _ => none

def number (text : List Char) : Option (Scalar × List Char) :=
  match text with
  | '0' :: 'x' :: rest => based 16 (fun c ↦ (Text.Hex.digit? c).isSome) rest
  | '0' :: 'o' :: rest => based 8 (fun c ↦ '0' ≤ c && c ≤ '7') rest
  | '0' :: 'b' :: rest => based 2 (fun c ↦ c == '0' || c == '1') rest
  | _ =>
    match special (sign text).1 (sign text).2 with
    | some value => some value
    | none => decimal text

/-! ## Dates and times -/

/-- The number in a field of exactly `count` digits, within bounds. -/
def dateField (count low high : Nat) (text : List Char) : Option (Nat × List Char) :=
  let field := text.take count
  let value := valueOf 10 field
  if field.length = count ∧ field.all isDigit ∧ low ≤ value ∧ value ≤ high then
    some (value, text.drop count)
  else none

def expect (c : Char) : List Char → Option (List Char)
  | d :: rest => if c = d then some rest else none
  | [] => none

def daysIn (year month : Nat) : Nat :=
  if month = 2 then
    if year % 4 = 0 ∧ (year % 100 ≠ 0 ∨ year % 400 = 0) then 29 else 28
  else if month = 4 ∨ month = 6 ∨ month = 9 ∨ month = 11 then 30
  else 31

def calendarDate (text : List Char) : Option (List Char) := do
  let (year, rest) ← dateField 4 0 9999 text
  let rest ← expect '-' rest
  let (month, rest) ← dateField 2 1 12 rest
  let rest ← expect '-' rest
  let (_, rest) ← dateField 2 1 (daysIn year month) rest
  return rest

/-- A time of day with seconds and an optional fraction of a second. -/
def timeOfDay (text : List Char) : Option (List Char) := do
  let (_, rest) ← dateField 2 0 23 text
  let rest ← expect ':' rest
  let (_, rest) ← dateField 2 0 59 rest
  let rest ← expect ':' rest
  let (_, rest) ← dateField 2 0 60 rest
  match rest with
  | '.' :: c :: more => if isDigit c then some (more.dropWhile isDigit) else none
  | '.' :: [] => none
  | _ => some rest

/-- An optional distance from universal time. -/
def offset (text : List Char) : Option (List Char) :=
  match text with
  | 'Z' :: rest => some rest
  | 'z' :: rest => some rest
  | c :: rest =>
    if c == '+' || c == '-' then do
      let (_, rest) ← dateField 2 0 23 rest
      let rest ← expect ':' rest
      let (_, rest) ← dateField 2 0 59 rest
      return rest
    else some text
  | [] => some []

/-- A time of day behind a date, after its separator. -/
def dayTime? : List Char → Option (List Char)
  | c :: rest =>
    if c == 'T' || c == 't' || c == ' ' then
      match timeOfDay rest with
      | some rest => offset rest
      | none => none
    else none
  | [] => none

def date (text : List Char) : Option (List Char) :=
  match calendarDate text with
  | some rest =>
    match dayTime? rest with
    | some rest => some rest
    | none => some rest
  | none => timeOfDay text

/-! ## Any scalar -/

def scalar (text : List Char) : Option (Scalar × List Char) :=
  match text with
  | '"' :: _ => (string text).map fun (read, rest) ↦ (.string read, rest)
  | '\'' :: _ => (string text).map fun (read, rest) ↦ (.string read, rest)
  | 't' :: 'r' :: 'u' :: 'e' :: rest => some (.boolean true, rest)
  | 'f' :: 'a' :: 'l' :: 's' :: 'e' :: rest => some (.boolean false, rest)
  | _ =>
    match date text with
    | some rest => some (.date, rest)
    | none => number text

end QuadPort.Toml.Literal
