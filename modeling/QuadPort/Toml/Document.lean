import QuadPort.Toml.Statement

/-!
# From statements to a document tree

Entries go into the table whose header came last. A header may name a table that longer
headers or dotted keys have implied, but a table is opened only once; opening an implied
table moves it behind its siblings. Dotted keys extend only tables that dotted keys made.
A path through an array of tables means its last table.
-/

namespace QuadPort.Toml

structure OpenTable where
  span : Option Span
  entries : Entries

/-- Changes the table at the end of a path, making the tables on the way that are missing.
`dotted` tells whether the path comes from dotted keys or from a header. -/
def descend {α : Type} (dotted : Bool) (change : Style → Entries → Option (Entries × α)) :
    List Key → Style → Entries → Option (Entries × α)
  | [], style, entries => change style entries
  | parent :: parents, _, entries => do
    match entries.find? parent.name with
    | none =>
      let style := if dotted then Style.dotted else .implied
      let (children, result) ← descend dotted change parents style []
      return (entries ++ [(parent, .table none style children)], result)
    | some (.table span style children) =>
      if style = .inline ∨ (dotted ∧ style = .header) then none
      else
        let (children, result) ← descend dotted change parents style children
        return (entries.replace parent.name (.table span style children), result)
    | some (.array span true items) =>
      match items.getLast? with
      | some (.table tableSpan style children) =>
        let (children, result) ← descend dotted change parents style children
        let items := items.dropLast ++ [.table tableSpan style children]
        return (entries.replace parent.name (.array span true items), result)
      | _ => none
    | some _ => none

/-- What the builder knows: the finished part of the tree, the table that entries go to,
and where that table will be put. -/
structure Builder where
  root : OpenTable
  current : OpenTable
  place : Option (Bool × List Key × Key)

namespace Builder

/-- The range of an array of tables: from its first to its last table. -/
def arraySpan (items : List Value) : Option Span := do
  let first ← (← items.head?).span
  let last ← (← items.getLast?).span
  return ⟨first.start, last.stop⟩

/-- Puts the current table into its place in the tree. -/
def finish (builder : Builder) : Option OpenTable :=
  match builder.place with
  | none => some builder.current
  | some (isArray, parents, key) => do
    let table : Value := .table builder.current.span .header builder.current.entries
    let put := fun (_ : Style) (entries : Entries) ↦
      if isArray then
        match entries.find? key.name with
        | none =>
          some (entries ++ [(key, .array (arraySpan [table]) true [table])], ())
        | some (.array _ true items) =>
          let items := items ++ [table]
          some (entries.replace key.name (.array (arraySpan items) true items), ())
        | some _ => none
      else (entries.add? key table).map fun entries ↦ (entries, ())
    let (entries, ()) ← descend false put parents .header builder.root.entries
    return { builder.root with entries }

/-- Opens the table that a header names; an implied one keeps what it holds. -/
def openTable (builder : Builder) (span : Span) (parents : List Key) (key : Key) :
    Option Builder := do
  let root ← builder.finish
  let take := fun (_ : Style) (entries : Entries) ↦
    match entries.find? key.name with
    | none => some (entries, ([] : Entries))
    | some (.table _ .implied children) => some (entries.remove key.name, children)
    | some _ => none
  let (entries, children) ← descend false take parents .header root.entries
  return { root := { root with entries }
           current := ⟨some span, children⟩
           place := some (false, parents, key) }

def openArray (builder : Builder) (span : Span) (parents : List Key) (key : Key) :
    Option Builder := do
  let root ← builder.finish
  let check := fun (_ : Style) (entries : Entries) ↦
    match entries.find? key.name with
    | none => some (entries, ())
    | some (.array _ true _) => some (entries, ())
    | some _ => none
  let (entries, ()) ← descend false check parents .header root.entries
  return { root := { root with entries }
           current := ⟨some span, []⟩
           place := some (true, parents, key) }

/-- Puts an entry into the current table, whose range grows to the end of the entry. -/
def addEntry (builder : Builder) (parents : List Key) (key : Key) (value : Value) :
    Option Builder := do
  let span :=
    match builder.current.span, value.span with
    | some whole, some part => some ⟨whole.start, part.stop⟩
    | span, _ => span
  let put := fun (style : Style) (entries : Entries) ↦
    if style = .dotted ↔ parents.isEmpty then none
    else (entries.add? key value).map fun entries ↦ (entries, ())
  let (entries, ()) ← descend true put parents .header builder.current.entries
  return { builder with current := ⟨span, entries⟩ }

def step (builder : Builder) : Statement → Option Builder
  | .blank => some builder
  | .header span parents key => builder.openTable span parents key
  | .arrayHeader span parents key => builder.openArray span parents key
  | .entry parents key value => builder.addEntry parents key value

end Builder

/-- A text without the mark that may stand at its very start. -/
def withoutMark : List Char → List Char
  | '\ufeff' :: rest => rest
  | text => text

/-- The document that a text denotes, if it denotes one. -/
def parse (text : String) : Option Value := do
  let characters := text.toList
  let start := Lexeme.skipBlanks (withoutMark characters)
  let statements ← Statement.readAll (byteCount characters) start
  let builder : Builder := ⟨⟨none, []⟩, ⟨some ⟨0, 0⟩, []⟩, none⟩
  let builder ← statements.foldlM Builder.step builder
  let root ← builder.finish
  return .table root.span .header root.entries

end QuadPort.Toml
