import QuadPort.Log
import QuadPort.Log.Condition
import QuadPort.Text.Letter
import QuadPort.Text.Space

/-!
# Log filters

A filter is a list of directives separated by commas. A directive is a level, a part of the
program, or a part with a level behind an equals sign; between the two a span with
conditions on fields may stand in brackets. A part without a level lets everything through.

Of the directives that apply to a record the one with the longest part decides, then the
one with the most conditions, then the last. A record that no directive applies to is dropped.
Records belong to no span and have one field, the message.
-/

namespace QuadPort.Log

/-- One directive of a filter: it lets levels up to a rank through. -/
structure Directive where
  target : Option String
  span : Option String
  conditions : List Condition
  limit : Nat
  deriving DecidableEq, Repr

namespace Directive

/-- The rank up to which everything is let through. -/
def everything : Nat := 5

/-- The rank that a level's name or number stands for, in any case. -/
def limitOf? (name : String) : Option Nat :=
  let digits := if name.startsWith "+" then (name.drop 1).toString else name
  if !digits.isEmpty && digits.all Char.isDigit then
    match digits.toNat? with
    | some number => if number ≤ everything then some number else none
    | none => none
  else if name.isEmpty then some 1
  else
    [("off", 0), ("error", 1), ("warn", 2), ("info", 3), ("debug", 4), ("trace", 5)].lookup
      (name.map Char.toLower)

/-- Where the reader of a directive is; numbers are positions, in bytes, at which a part
began. -/
inductive State
  | start
  | levelOrTarget (start : Nat)
  | span (start : Nat)
  | field (start : Nat)
  | fields
  | target
  | level (start : Nat)

/-- The text behind a number of bytes, unless they end within a character. -/
def dropBytes? (bytes : Nat) : List Char → Option (List Char)
  | [] => if bytes = 0 then some [] else none
  | c :: rest =>
    if bytes = 0 then some (c :: rest)
    else if c.utf8Size ≤ bytes then dropBytes? (bytes - c.utf8Size) rest
    else none

def takeBytes? (bytes : Nat) : List Char → Option (List Char)
  | [] => if bytes = 0 then some [] else none
  | c :: rest =>
    if bytes = 0 then some []
    else if c.utf8Size ≤ bytes then (takeBytes? (bytes - c.utf8Size) rest).map (c :: ·)
    else none

def slice? (text : List Char) (start stop : Nat) : Option (List Char) :=
  (dropBytes? start text).bind (takeBytes? (stop - start))

def withTarget? (directive : Directive) (text : List Char) (start stop : Nat) :
    Option Directive :=
  (slice? text start stop).map fun target ↦
    { directive with target := some (String.ofList target) }

/-- A character that a directive may start with, but for a bracket. -/
def startsTarget (c : Char) : Bool :=
  c == '-' || c == ':' || c == '_' || Text.Letter.isAlphanumeric c

def advance (text : List Char) (directive : Directive) (position : Nat) (c : Char) :
    State → Option (Directive × State)
  | .start =>
    if c == '[' then some (directive, .span (position + 1))
    else if startsTarget c then some (directive, .levelOrTarget position)
    else none
  | .levelOrTarget start =>
    if c == '=' then do
      let directive ← directive.withTarget? text start position
      some (directive, .level (position + 1))
    else if c == '[' then do
      let directive ← directive.withTarget? text start position
      some (directive, .span (position + 1))
    else some (directive, .levelOrTarget start)
  | .span start =>
    if c == ']' then do
      let name ← slice? text start position
      some ({ directive with span := some (String.ofList name) }, .target)
    else if c == '\x7b' then do
      let name ← slice? text start position
      let span := if name.isEmpty then none else some (String.ofList name)
      some ({ directive with span }, .field (position + 1))
    else some (directive, .span start)
  | .field start =>
    if c == '\x7d' || c == ',' then do
      let condition ← (slice? text start position).bind Condition.parse?
      let state := if c == ',' then State.field (position + 1) else .fields
      some ({ directive with conditions := directive.conditions ++ [condition] }, state)
    else some (directive, .field start)
  | .fields => if c == ']' then some (directive, .target) else none
  | .target => if c == '=' then some (directive, .level (position + 1)) else none
  | .level start => some (directive, .level start)

def scan (text : List Char) (directive : Directive) (state : State) (position : Nat) :
    List Char → Option (Directive × State)
  | [] => some (directive, state)
  | c :: rest => do
    let (directive, state) ← advance text directive position c state
    scan text directive state (position + c.utf8Size) rest

def complete (text : List Char) (directive : Directive) : State → Option Directive
  | .levelOrTarget start => do
    let name := String.ofList (← dropBytes? start text)
    match limitOf? name with
    | some limit => some { directive with limit }
    | none => some { directive with target := some name }
  | .level start => do
    let name := String.ofList (← dropBytes? start text)
    if name.isEmpty then some directive
    else (limitOf? name).map fun limit ↦ { directive with limit }
  | .target => some directive
  | _ => none

/-- The directive that a text describes. Positions are counted in the trimmed text but
taken in the whole one, so white space in front of a directive spoils it. -/
def parse? (text : List Char) : Option Directive := do
  let (directive, state) ← scan text ⟨none, none, [], everything⟩ .start 0
    (Text.Space.trim text)
  complete text directive state

def applies (directive : Directive) (record : Record) : Bool :=
  directive.span.isNone &&
    directive.conditions.all Condition.holds &&
    directive.target.all fun target ↦ target.toList.isPrefixOf record.target.path.toList

/-- How specific a directive is: the length of its part, then the number of its conditions. -/
def weight (directive : Directive) : Nat × Nat :=
  (directive.target.elim 0 fun target ↦ target.length + 1, directive.conditions.length)

def lighter (one other : Directive) : Bool :=
  one.weight.1 < other.weight.1 ||
    (one.weight.1 == other.weight.1 && one.weight.2 < other.weight.2)

end Directive

abbrev Filter := List Directive

namespace Filter

/-- The filter that lets a level and more important ones through. -/
def ofLevel (level : Level) : Filter :=
  [⟨none, none, [], level.rank⟩]

def pieces : List Char → List (List Char)
  | [] => [[]]
  | c :: rest =>
    if c == ',' then [] :: pieces rest
    else
      match pieces rest with
      | first :: others => (c :: first) :: others
      | [] => [[c]]

/-- The filter that a text describes. Empty pieces are skipped; a text without any other
lets only errors through. -/
def parse? (text : String) : Option Filter :=
  match (pieces text.toList).filter fun piece ↦ !piece.isEmpty with
  | [] => some (ofLevel .error)
  | directives => directives.mapM Directive.parse?

def deciding? (filter : Filter) (record : Record) : Option Directive :=
  filter.foldl
    (fun best directive ↦
      if !directive.applies record then best
      else
        match best with
        | some other => if directive.lighter other then some other else some directive
        | none => some directive)
    none

def lets (filter : Filter) (record : Record) : Bool :=
  match filter.deciding? record with
  | some directive => record.level.rank ≤ directive.limit
  | none => false

end Filter

end QuadPort.Log
