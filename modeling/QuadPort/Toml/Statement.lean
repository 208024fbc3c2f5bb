import QuadPort.Toml.Literal

/-!
# Statements of a document

A document is a sequence of statements: entries of a key path and a value, headers that
open a table, and headers that add a table to an array. Arrays may span lines and hold
comments; tables in braces may not. Both nest less than eighty deep, and key paths have
fewer than eighty parts.

The position of a character is the number of bytes before it. Readers see only what is
left of the text, so a position is the text's size less the size of what is left.
-/

namespace QuadPort.Toml

open Lexeme

/-- A statement of a document. Key paths list the parents first, then the last key. -/
inductive Statement
  | blank
  | header (span : Span) (parents : List Key) (key : Key)
  | arrayHeader (span : Span) (parents : List Key) (key : Key)
  | entry (parents : List Key) (key : Key) (value : Value)

namespace Statement

/-- Nesting and key paths stay below this bound. -/
def depthBound : Nat := 80

/-- The range between two places, each given by the text from there on. -/
def between (size : Nat) (before after : List Char) : Span :=
  ⟨size - byteCount before, size - byteCount after⟩

/-! ## Key paths -/

/-- The keys of a path, each surrounded by optional blanks; the number bounds them. -/
def keys (size : Nat) : Nat → Reader (List Key)
  | 0, _ => none
  | bound + 1, text => do
    let text := skipBlanks text
    let (name, rest) ← key text
    let first : Key := ⟨name, some (between size text rest)⟩
    match skipBlanks rest with
    | '.' :: rest => do
      let (others, rest) ← keys size bound rest
      return (first :: others, rest)
    | rest => some ([first], rest)

def path (size : Nat) (text : List Char) : Option ((List Key × Key) × List Char) := do
  let (all, rest) ← keys size (depthBound - 1) text
  let last ← all.getLast?
  return ((all.dropLast, last), rest)

/-! ## Tables in braces -/

/-- Puts a value into a table in braces below a path of dotted keys. Only tables that
dotted keys made can be extended. -/
def insertInline (entries : Entries) (parents : List Key) (key : Key) (value : Value) :
    Option Entries :=
  match parents with
  | [] => entries.add? key value
  | parent :: parents =>
    match entries.find? parent.name with
    | none => do
      let children ← insertInline [] parents key value
      return entries ++ [(parent, .table none .dotted children)]
    | some (.table span .dotted children) => do
      let children ← insertInline children parents key value
      return entries.replace parent.name (.table span .dotted children)
    | some _ => none

/-! ## Values

The first number bounds the steps of a reader, the second is the depth reached so far. -/

mutual

def value (size : Nat) : Nat → Nat → Reader Value
  | 0, _, _ => none
  | bound + 1, depth, text =>
    match text with
    | '[' :: rest => do
      if depthBound ≤ depth + 1 then none
      let (items, after) ← items size bound (depth + 1) rest
      return (.array (some (between size text after)) false items, after)
    | '{' :: rest => do
      if depthBound ≤ depth + 1 then none
      let (entries, after) ←
        match skipBlanks rest with
        | '}' :: after => some ([], after)
        | _ => pairs size bound (depth + 1) [] rest
      return (.table (some (between size text after)) .inline entries, after)
    | _ => do
      let (scalar, after) ← Literal.scalar text
      return (.scalar (some (between size text after)) scalar, after)

/-- The items of an array up to its closing bracket. -/
def items (size : Nat) : Nat → Nat → Reader (List Value)
  | 0, _, _ => none
  | bound + 1, depth, text => do
    match ← skipLines false text with
    | ']' :: rest => some ([], rest)
    | text => do
      let (first, rest) ← value size bound depth text
      match ← skipLines false rest with
      | ',' :: rest => do
        let (others, rest) ← items size bound depth rest
        return (first :: others, rest)
      | ']' :: rest => some ([first], rest)
      | _ => none

/-- The entries of a table in braces up to its closing brace, at least one. -/
def pairs (size : Nat) : Nat → Nat → Entries → Reader Entries
  | 0, _, _, _ => none
  | bound + 1, depth, entries, text => do
    let ((parents, key), rest) ← path size text
    match rest with
    | '=' :: rest => do
      let (read, rest) ← value size bound depth (skipBlanks rest)
      let entries ← insertInline entries parents key read
      match skipBlanks rest with
      | ',' :: rest => pairs size bound depth entries rest
      | '}' :: rest => some (entries, rest)
      | _ => none
    | _ => none

end

/-! ## Whole statements -/

/-- A header, whose span runs from its first to its last bracket. -/
def tableHeader (size : Nat) (text : List Char) : Option (Statement × List Char) :=
  match text with
  | '[' :: '[' :: rest => do
    let ((parents, key), rest) ← path size rest
    match rest with
    | ']' :: ']' :: after => do
      let rest ← endOfLine? after
      return (.arrayHeader (between size text after) parents key, rest)
    | _ => none
  | '[' :: rest => do
    let ((parents, key), rest) ← path size rest
    match rest with
    | ']' :: after => do
      let rest ← endOfLine? after
      return (.header (between size text after) parents key, rest)
    | _ => none
  | _ => none

def assignment (size : Nat) (text : List Char) : Option (Statement × List Char) := do
  let ((parents, key), rest) ← path size text
  match rest with
  | '=' :: rest => do
    let rest := skipBlanks rest
    let (read, rest) ← value size (2 * rest.length + 2) 0 rest
    let rest ← endOfLine? rest
    return (.entry parents key read, rest)
  | _ => none

def line (size : Nat) (text : List Char) : Option (Statement × List Char) :=
  match text with
  | '#' :: _ => (endOfLine? text).map fun rest ↦ (blank, rest)
  | '\n' :: rest => some (blank, rest)
  | '\r' :: '\n' :: rest => some (blank, rest)
  | '[' :: _ => tableHeader size text
  | _ => assignment size text

/-- One statement with its line end and the blanks behind it. -/
def statement (size : Nat) (text : List Char) : Option (Statement × List Char) := do
  let (read, rest) ← line size text
  return (read, skipBlanks rest)

def readAll (size : Nat) (text : List Char) : Option (List Statement) :=
  match text with
  | [] => some []
  | c :: rest => do
    let (read, after) ← statement size (c :: rest)
    if _ : after.length < (c :: rest).length then
      let others ← readAll size after
      return read :: others
    else none
termination_by text.length
decreasing_by assumption

end Statement

end QuadPort.Toml
