import QuadPort.Log.Pattern

/-!
# Conditions on fields

A condition of a log filter names a field of a record. It may ask for a value, by a number
or by a pattern behind an equals sign; what stands behind a second equals sign is ignored.
-/

namespace QuadPort.Log

structure Condition where
  field : String
  /-- Whether the field must have a value that the condition gives. -/
  isValued : Bool
  deriving DecidableEq, Repr

namespace Condition

def unsigned : List Char → List Char
  | '+' :: rest => rest
  | '-' :: rest => rest
  | text => text

/-- Whether a text is an exponent of ten or empty. -/
def isExponent : List Char → Bool
  | [] => true
  | c :: rest =>
    let digits := unsigned rest
    (c == 'e' || c == 'E') && !digits.isEmpty && digits.all Char.isDigit

/-- Whether a text is a decimal number without a sign. One of the digits around the point
may be missing. -/
def isDecimal (text : List Char) : Bool :=
  let whole := text.takeWhile Char.isDigit
  match text.dropWhile Char.isDigit with
  | '.' :: places =>
    !(whole.isEmpty && (places.takeWhile Char.isDigit).isEmpty) &&
      isExponent (places.dropWhile Char.isDigit)
  | rest => !whole.isEmpty && isExponent rest

/-- Whether a text is a number: a decimal one, infinity or none at all, in any case. -/
def isNumber (text : List Char) : Bool :=
  let name := String.ofList ((unsigned text).map Char.toLower)
  isDecimal (unsigned text) || ["inf", "infinity", "nan"].contains name

def parse? (text : List Char) : Option Condition :=
  if text.isEmpty then none
  else
    let field := String.ofList (text.takeWhile (· != '='))
    match text.dropWhile (· != '=') with
    | [] => some ⟨field, false⟩
    | _ :: rest =>
      let value := rest.takeWhile (· != '=')
      if isNumber value || Pattern.isPattern value then some ⟨field, true⟩ else none

/-- Whether a condition holds of a record. Records have one field, the message, and no
condition gives its value. -/
def holds (condition : Condition) : Bool :=
  condition.field == "message" && !condition.isValued

end Condition

end QuadPort.Log
