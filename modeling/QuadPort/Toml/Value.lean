import QuadPort.Number.Binary64

/-!
# Document trees

A document is a table: keys with values in the order in which they were written. Values
remember the bytes of the text they were read from, if there are such bytes, so that a
later complaint about a value can point at it.
-/

namespace QuadPort.Toml

/-- A range of byte positions in the text, the end not included. -/
structure Span where
  start : Nat
  stop : Nat
  deriving DecidableEq, Repr

def byteCount (text : List Char) : Nat :=
  text.foldl (fun count c ↦ count + c.utf8Size) 0

/-- A value without parts. What a date says is of no use here, only that it is one. -/
inductive Scalar
  | string (text : String)
  | integer (value : Int)
  | float (value : Binary64)
  | boolean (value : Bool)
  | date
  deriving DecidableEq, Repr

/-- How a table came about: written in braces, opened by a header, implied by a longer
header, or implied by a dotted key. -/
inductive Style
  | inline
  | header
  | implied
  | dotted
  deriving DecidableEq, Repr

structure Key where
  name : String
  span : Option Span
  deriving DecidableEq, Repr

/-- A node of a document tree. An array of tables is an array with `tables` set. -/
inductive Value
  | scalar (span : Option Span) (scalar : Scalar)
  | array (span : Option Span) (tables : Bool) (items : List Value)
  | table (span : Option Span) (style : Style) (entries : List (Key × Value))
  deriving Repr

abbrev Entries := List (Key × Value)

namespace Value

def span : Value → Option Span
  | .scalar span _ => span
  | .array span _ _ => span
  | .table span _ _ => span

def kind : Value → String
  | .scalar _ (.string _) => "string"
  | .scalar _ (.integer _) => "integer"
  | .scalar _ (.float _) => "float"
  | .scalar _ (.boolean _) => "boolean"
  | .scalar _ .date => "datetime"
  | .array _ true _ => "array of tables"
  | .array _ false _ => "array"
  | .table _ .inline _ => "inline table"
  | .table _ _ _ => "table"

end Value

namespace Entries

def find? (entries : Entries) (name : String) : Option Value :=
  (List.find? (fun entry ↦ entry.1.name == name) entries).map Prod.snd

def replace (entries : Entries) (name : String) (value : Value) : Entries :=
  entries.map fun entry ↦ if entry.1.name == name then (entry.1, value) else entry

def remove (entries : Entries) (name : String) : Entries :=
  entries.filter fun entry ↦ entry.1.name != name

/-- The entries with a new one at the end, unless its key is present. -/
def add? (entries : Entries) (key : Key) (value : Value) : Option Entries :=
  match find? entries key.name with
  | some _ => none
  | none => some (entries ++ [(key, value)])

end Entries

end QuadPort.Toml
