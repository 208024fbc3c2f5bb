import QuadPort.Number.Shortest
import QuadPort.Text.Quoted
import QuadPort.Toml.Value

/-!
# Reading records out of a document tree

A record is written as a table of its fields or as an array of them in their declared
order. The entries of a table are examined in the order in which they were written, and
the first that does not fit is reported; unknown keys are ignored. Only then are missing
fields supplied by their defaults or reported in their declared order.

A complaint carries the innermost place that is known.
-/

namespace QuadPort.Toml

inductive Mismatch
  | missing (field : String)
  | kind (found wanted : String)
  | range (found : Int) (wanted : String)
  | count (found : Nat) (wanted : String)
  | variant (found : String) (known : List String)
  | notVariant
  | noVariant
  | manyVariants
  | payloadKind (found : String)
  | filledTable
  | filledArray
  deriving DecidableEq, Repr

def backquoted (text : String) : String := "\x60" ++ text ++ "\x60"

/-- The names that would have been accepted. -/
def alternatives : List String → String
  | [only] => backquoted only
  | [first, second] => backquoted first ++ " or " ++ backquoted second
  | names => "one of " ++ ", ".intercalate (names.map backquoted)

def Mismatch.message : Mismatch → String
  | .missing field => "missing field " ++ backquoted field
  | .kind found wanted => "invalid type: " ++ found ++ ", expected " ++ wanted
  | .range found wanted =>
    "invalid value: integer " ++ backquoted (toString found) ++ ", expected " ++ wanted
  | .count found wanted => "invalid length " ++ toString found ++ ", expected " ++ wanted
  | .variant found known =>
    "unknown variant " ++ backquoted found ++ ", expected " ++ alternatives known
  | .notVariant => "wanted string or table"
  | .noVariant => "wanted exactly 1 element, found 0 elements"
  | .manyVariants => "wanted exactly 1 element, more than 1 element"
  | .payloadKind found => "expected table, found " ++ found
  | .filledTable => "expected empty table"
  | .filledArray => "expected empty array"

/-- A mismatch and the place in the text that it concerns. -/
structure Complaint where
  mismatch : Mismatch
  span : Option Span
  deriving DecidableEq, Repr

/-- A reader of a value of `α` from a document tree. -/
abbrev Decoder (α : Type) := Value → Except Complaint α

namespace Decode

def complain {α : Type} (mismatch : Mismatch) : Except Complaint α :=
  .error ⟨mismatch, none⟩

/-- The result with a place given to a complaint that has none. -/
def located {α : Type} (span : Option Span) : Except Complaint α → Except Complaint α
  | .ok value => .ok value
  | .error complaint => .error { complaint with span := complaint.span.or span }

/-- What a value is, as complaints about its kind say it. -/
def describe : Value → String
  | .scalar _ (.string text) => "string " ++ Text.Quoted.quote text
  | .scalar _ (.integer value) => "integer " ++ backquoted (toString value)
  | .scalar _ (.float value) => "floating point " ++ backquoted (Number.Shortest.text value)
  | .scalar _ (.boolean value) => "boolean " ++ backquoted (toString value)
  | .scalar _ .date => "map"
  | .array _ _ _ => "sequence"
  | .table _ _ _ => "map"

def wrongKind {α : Type} (value : Value) (wanted : String) : Except Complaint α :=
  located value.span (complain (.kind (describe value) wanted))

/-! ## Simple values -/

def boolean : Decoder Bool
  | .scalar _ (.boolean value) => .ok value
  | value => wrongKind value "a boolean"

def text : Decoder String
  | .scalar _ (.string text) => .ok text
  | value => wrongKind value "a string"

/-- A natural number below `2 ^ width`. -/
def natural (width : Nat) : Decoder Nat
  | .scalar span (.integer value) =>
    if 0 ≤ value ∧ value < Nat.pow 2 width then .ok value.toNat
    else located span (complain (.range value s!"u{width}"))
  | value => wrongKind value s!"u{width}"

def byte : Decoder UInt8 := fun value ↦ return UInt8.ofNat (← natural 8 value)

def word32 : Decoder UInt32 := fun value ↦ return UInt32.ofNat (← natural 32 value)

def word64 : Decoder UInt64 := fun value ↦ return UInt64.ofNat (← natural 64 value)

/-- Four values of the same kind; what follows the fourth is not looked at. -/
def four {α : Type} (item : Decoder α) : Decoder (Vector α 4)
  | .array span _ (a :: b :: c :: d :: _) => located span do
    return #v[← item a, ← item b, ← item c, ← item d]
  | .array span _ items => located span do
    for value in items do
      let _ ← item value
    complain (.count items.length "an array of length 4")
  | value => wrongKind value "an array of length 4"

/-! ## Variants -/

def variantOf {α : Type} (known : List (String × α)) (name : String) : Except Complaint α :=
  match known.lookup name with
  | some variant => .ok variant
  | none => complain (.variant name (known.map Prod.fst))

/-- A variant written as a key has nothing to say in its value, which is an empty table.
An array in brackets counts as a table here, and its complaint says so. -/
def payload : Decoder Unit
  | .table _ _ [] => .ok ()
  | .array _ _ [] => .ok ()
  | .array span true _ => located span (complain .filledArray)
  | .array span false _ => located span (complain .filledTable)
  | .table span _ _ => located span (complain .filledTable)
  | value => located value.span (complain (.payloadKind value.kind))

/-- One of a list of named variants, written as its name or as a table with its name as
the only key. -/
def variant {α : Type} (known : List (String × α)) : Decoder α
  | .scalar span (.string name) => located span (variantOf known name)
  | .table span _ [(key, value)] => located span do
    let variant ← located key.span (variantOf known key.name)
    payload value
    return variant
  | .table span _ [] => located span (complain .noVariant)
  | .table span _ _ => located span (complain .manyVariants)
  | value => located value.span (complain .notVariant)

/-! ## Records -/

/-- A field of a record: its name, its values and the value it has when left out. -/
structure RecordField (α : Type) where
  name : String
  decode : Decoder α
  fallback : Option α

/-- A field as an entry that can be examined without knowing the type of its value. -/
def RecordField.check {α : Type} (field : RecordField α) : String × Decoder Unit :=
  (field.name, fun value ↦ do
    let _ ← field.decode value
    return ())

def RecordField.inTable {α : Type} (field : RecordField α) (entries : Entries) :
    Except Complaint α :=
  match entries.find? field.name, field.fallback with
  | some value, _ => field.decode value
  | none, some fallback => .ok fallback
  | none, none => complain (.missing field.name)

def RecordField.inArray {α : Type} (field : RecordField α) (items : List Value) (index : Nat)
    (wanted : String) : Except Complaint α :=
  match items[index]?, field.fallback with
  | some value, _ => field.decode value
  | none, some fallback => .ok fallback
  | none, none => complain (.count index wanted)

/-- Examines the entries of known fields in the order in which they were written. -/
def examine (checks : List (String × Decoder Unit)) (entries : Entries) :
    Except Complaint Unit :=
  entries.forM fun (key, value) ↦
    match checks.lookup key.name with
    | some check => located (value.span.or key.span) (check value)
    | none => .ok ()

/-- How a record is read from a table and from an array. -/
structure Shape (α : Type) where
  name : String
  checks : List (String × Decoder Unit)
  ofTable : Entries → Except Complaint α
  ofArray : List Value → Except Complaint α

/-- A record. A date counts as a table without known keys. -/
def record {α : Type} (shape : Shape α) : Decoder α
  | .table span _ entries => located span do
    examine shape.checks entries
    shape.ofTable entries
  | .array span _ items => located span (shape.ofArray items)
  | .scalar span .date => located span (shape.ofTable [])
  | value => wrongKind value s!"struct {shape.name}"

end Decode

end QuadPort.Toml
