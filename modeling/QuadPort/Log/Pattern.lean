import QuadPort.Log.Pattern.CharacterSet
import QuadPort.Text.Letter

/-!
# Patterns

Which texts are patterns, that is, regular expressions that can be turned into an
automaton. A pattern is a choice of sequences whose parts are atoms, sets and groups; a
part may be repeated. Counts of repetitions are not known.

A pattern is read with a stack of its open groups. What is kept of each is the modes in it
and how deep its parts are nested, as the depth of a pattern is bounded.
-/

namespace QuadPort.Log.Pattern

def maxDepth : Nat := 250

/-! ## Open groups -/

/-- What was read of a group that is still open. -/
structure Group where
  modes : Modes
  /-- The number of sequences that a bar ended. -/
  branches : Nat
  /-- How deep these sequences are nested. -/
  branchDepth : Nat
  /-- The number of parts in the current sequence. -/
  parts : Nat
  /-- How deep these parts are nested. -/
  depth : Nat
  /-- How deep the last part is nested, if it may be repeated. -/
  last : Option Nat
  deriving DecidableEq, Repr

namespace Group

def fresh (modes : Modes) : Group := ⟨modes, 0, 0, 0, 0, none⟩

def add (group : Group) (depth : Nat) : Group :=
  { group with parts := group.parts + 1, depth := max group.depth depth, last := some depth }

/-- A group whose modes change for the rest of it; the change cannot be repeated. -/
def setModes (group : Group) (modes : Modes) : Group :=
  { group.add 0 with modes, last := none }

def again? (group : Group) : Option Group :=
  group.last.map fun depth ↦
    { group with depth := max group.depth (depth + 1), last := some (depth + 1) }

/-- How deep the current sequence is nested: several parts form a level. -/
def sequence (group : Group) : Nat :=
  if 2 ≤ group.parts then group.depth + 1 else group.depth

def bar (group : Group) : Group :=
  { group with
    branches := group.branches + 1, branchDepth := max group.branchDepth group.sequence
    parts := 0, depth := 0, last := none }

/-- How deep the content of a group is nested: a choice forms a level. -/
def content (group : Group) : Nat :=
  if group.branches = 0 then group.sequence else max group.branchDepth group.sequence + 1

end Group

/-- The open groups, innermost first, and the names of groups so far. The outermost group
is the pattern itself. -/
structure Reading where
  group : Group
  around : List Group
  names : List String
  deriving DecidableEq, Repr

/-! ## The start of a group -/

inductive Opening
  /-- A group that is remembered. -/
  | plain
  /-- A group that is remembered by name. -/
  | named (name : String)
  /-- A group with modes of its own. -/
  | scoped (modes : Modes)
  /-- No group, but other modes for the rest of the present one. -/
  | change (modes : Modes)
  deriving DecidableEq, Repr

def isNameStart (c : Char) : Bool :=
  c == '_' || Text.Letter.isAlphabetic c

def isNamePart (c : Char) : Bool :=
  c == '_' || c == '.' || c == '[' || c == ']' || Text.Letter.isAlphanumeric c

/-- A name and the text behind the angle that ends it. -/
def name? (text : List Char) : Option (String × List Char) :=
  match text.takeWhile (· != '>'), text.dropWhile (· != '>') with
  | first :: others, _ :: rest =>
    if isNameStart first && others.all isNamePart then
      some (String.ofList (first :: others), rest)
    else none
  | _, _ => none

/-- The letters of the modes and the hyphen that switches those behind it off. -/
def modeLetters : List Char := ['i', 'm', 's', 'U', 'u', 'R', 'x', '-']

/-- Switches modes by their letters up to a colon or a closing parenthesis. No letter stands
twice, the hyphen is not last, and without letters there must be a colon. -/
def switches? (modes : Modes) (seen : List Char) : List Char → Option (Opening × List Char)
  | [] => none
  | c :: rest =>
    if c == ':' || c == ')' then
      if seen.head? == some '-' then none
      else if c == ':' then some (.scoped modes, rest)
      else if seen.isEmpty then none
      else some (.change modes, rest)
    else if seen.contains c || !modeLetters.contains c then none
    else switches? (modes.switch (!seen.contains '-') c) (c :: seen) rest

def opening? (modes : Modes) (text : List Char) : Option (Opening × List Char) :=
  match modes.skip text with
  | '?' :: 'P' :: '<' :: rest => (name? rest).map fun (name, rest) ↦ (.named name, rest)
  | '?' :: '<' :: rest => (name? rest).map fun (name, rest) ↦ (.named name, rest)
  | '?' :: rest => switches? modes [] rest
  | rest => some (.plain, rest)

/-! ## Reading -/

namespace Reading

def start : Reading := ⟨.fresh .initial, [], []⟩

def add (reading : Reading) (depth : Nat) : Reading :=
  { reading with group := reading.group.add depth }

def push (reading : Reading) (modes : Modes) : Reading :=
  { reading with group := .fresh modes, around := reading.group :: reading.around }

/-- Takes what a parenthesis opens. Names are unique. -/
def enter? (reading : Reading) : Opening → Option Reading
  | .plain => some (reading.push reading.group.modes)
  | .named name =>
    if reading.names.contains name then none
    else some { reading.push reading.group.modes with names := name :: reading.names }
  | .scoped modes => some (reading.push modes)
  | .change modes => some { reading with group := reading.group.setModes modes }

def leave? (reading : Reading) : Option Reading :=
  match reading.around with
  | [] => none
  | group :: around =>
    some { reading with group := group.add (reading.group.content + 1), around }

def addAtom? (reading : Reading) (atom : Atom) : Option Reading :=
  if atom.standsIn reading.group.modes then some (reading.add 0) else none

/-- Reads one part or sign. A repetition may be lazy. -/
def step? (reading : Reading) (c : Char) (rest : List Char) : Option (Reading × List Char) :=
  let modes := reading.group.modes
  if c == '(' then do
    let (opening, rest) ← opening? modes rest
    let reading ← reading.enter? opening
    some (reading, rest)
  else if c == ')' then reading.leave?.map fun reading ↦ (reading, rest)
  else if c == '|' then some ({ reading with group := reading.group.bar }, rest)
  else if c == '[' then do
    let (depth, rest) ← set? modes rest
    some (reading.add depth, rest)
  else if c == '?' || c == '*' || c == '+' then do
    let group ← reading.group.again?
    some ({ reading with group }, if rest.head? == some '?' then rest.drop 1 else rest)
  else if c == '\x7b' then none
  else do
    let (atom, rest) ←
      if c == '\\' then escape? modes rest
      else if c == '.' then some (.anyCharacter, rest)
      else if c == '^' || c == '$' then some (.edge, rest)
      else some (.literal c false, rest)
    let reading ← reading.addAtom? atom
    some (reading, rest)

def finish? (reading : Reading) (text : List Char) : Option Reading :=
  match reading.group.modes.skip text with
  | [] => some reading
  | c :: rest =>
    match reading.step? c rest with
    | some (reading, behind) =>
      if behind.length < text.length then finish? reading behind else none
    | none => none
termination_by text.length
decreasing_by assumption

end Reading

/-- Whether a text is a pattern: all its groups are closed and it is not nested too deep. -/
def isPattern (text : List Char) : Bool :=
  match Reading.start.finish? text with
  | some reading => reading.around.isEmpty && reading.group.content ≤ maxDepth
  | none => false

end QuadPort.Log.Pattern
