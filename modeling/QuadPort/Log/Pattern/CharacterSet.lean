import QuadPort.Log.Pattern.Atom

/-!
# Sets of characters in a pattern

A set stands in brackets and holds characters, ranges, classes with names and further sets.
Hyphens in front are members, and so is a closing bracket that comes first. Doubled signs
between members form intersections, differences and symmetric differences from left to
right.

A set is read with a stack of its open brackets. What is kept of each is how deep its
members are nested.
-/

namespace QuadPort.Log.Pattern

/-- An open bracket, or the place in front of the first one. -/
structure Bracket where
  negated : Bool
  /-- Whether nothing but hyphens was read. -/
  atStart : Bool
  /-- How deep the operands of the operators so far are nested. -/
  left : Option Nat
  /-- The number of members behind the last operator. -/
  members : Nat
  /-- How deep these members are nested. -/
  depth : Nat
  deriving DecidableEq, Repr

namespace Bracket

def empty (negated : Bool) : Bracket := ⟨negated, true, none, 0, 0⟩

def add (bracket : Bracket) (depth : Nat) : Bracket :=
  { bracket with
    atStart := false, members := bracket.members + 1, depth := max bracket.depth depth }

def addHyphen (bracket : Bracket) : Bracket :=
  { bracket.add 0 with atStart := true }

/-- How deep the content of a bracket is nested: several members form a level, and so does
each operator. -/
def content (bracket : Bracket) : Nat :=
  let right := if 2 ≤ bracket.members then bracket.depth + 1 else bracket.depth
  match bracket.left with
  | some left => max left right + 1
  | none => right

def operator (bracket : Bracket) : Bracket :=
  { bracket with atStart := false, left := some bracket.content, members := 0, depth := 0 }

end Bracket

/-! ## Members -/

def classNames : List String :=
  ["alnum", "alpha", "ascii", "blank", "cntrl", "digit", "graph", "lower", "print", "punct",
    "space", "upper", "word", "xdigit"]

/-- A class with a name, such as `[:alpha:]` or `[:^alpha:]`: whether it is negated, and the
text behind it. -/
def namedClass? : List Char → Option (Bool × List Char)
  | '[' :: ':' :: rest =>
    let (negated, rest) :=
      match rest with
      | '^' :: rest => (true, rest)
      | _ => (false, rest)
    let name := String.ofList (rest.takeWhile (· != ':'))
    match rest.dropWhile (· != ':') with
    | ':' :: ']' :: behind => if classNames.contains name then some (negated, behind) else none
    | _ => none
  | _ => none

def namesMember (modes : Modes) (negated : Bool) : Bool :=
  if modes.unicode then !modes.caseless else !negated

def memberAtom? (modes : Modes) : List Char → Option (Atom × List Char)
  | [] => none
  | '\\' :: rest => escape? modes rest
  | c :: rest => some (.literal c false, rest)

/-- The character that decides what a hyphen in front of it means. Where white space is
skipped, so is one mark of a comment, but not the comment. -/
def behindHyphen? (modes : Modes) (text : List Char) : Option Char :=
  if modes.verbose then
    match text.dropWhile Text.Space.isSpace with
    | '#' :: comment => (comment.dropWhile Text.Space.isSpace).head?
    | rest => rest.head?
  else text.head?

/-- Whether a hyphen in front of a text is no sign of a range. -/
def endsMember (modes : Modes) (text : List Char) : Bool :=
  behindHyphen? modes text == some ']' || behindHyphen? modes text == some '-'

def isRange (modes : Modes) : Atom → Atom → Bool
  | .literal low isLowOctet, .literal high isHighOctet =>
    (Atom.literal low isLowOctet).isMember modes &&
      (Atom.literal high isHighOctet).isMember modes && low ≤ high
  | _, _ => false

def member? (modes : Modes) (text : List Char) : Option (List Char) := do
  let (first, rest) ← memberAtom? modes text
  match modes.skip rest with
  | [] => none
  | '-' :: behind =>
    if endsMember modes behind then
      if first.isMember modes then some ('-' :: behind) else none
    else
      match memberAtom? modes (modes.skip behind) with
      | some (last, rest) => if isRange modes first last then some rest else none
      | none => none
  | c :: rest => if first.isMember modes then some (c :: rest) else none

/-! ## Whole sets -/

abbrev Brackets := Bracket × List Bracket

/-- Closes a bracket. One that takes text by bytes must not be negated. -/
def close? (modes : Modes) : Brackets → Option Brackets
  | (bracket, around :: others) =>
    if bracket.negated && !modes.unicode then none
    else some (around.add (bracket.content + 1), others)
  | (_, []) => none

def openBracket (modes : Modes) (brackets : Brackets) (text : List Char) :
    Brackets × List Char :=
  match modes.skip text with
  | '^' :: rest => ((.empty true, brackets.1 :: brackets.2), rest)
  | rest => ((.empty false, brackets.1 :: brackets.2), rest)

def isOperator (c : Char) (text : List Char) : Bool :=
  (c == '&' || c == '-' || c == '~') && text.head? == some c

def setStep? (modes : Modes) (brackets : Brackets) (c : Char) (rest : List Char) :
    Option (Brackets × List Char) :=
  let (bracket, others) := brackets
  let withAtom (bracket : Bracket) (rest : List Char) :=
    if (Atom.literal c false).isMember modes then some ((bracket, others), rest) else none
  if c == '[' then
    match namedClass? (c :: rest) with
    | some (negated, rest) =>
      if namesMember modes negated then some ((bracket.add 0, others), rest) else none
    | none => some (openBracket modes brackets rest)
  else if c == '-' && bracket.atStart then withAtom bracket.addHyphen rest
  else if c == ']' then
    if bracket.atStart && bracket.members == 0 then withAtom (bracket.add 0) rest
    else (close? modes brackets).map fun brackets ↦ (brackets, rest)
  else if isOperator c rest then some ((bracket.operator, others), rest.drop 1)
  else (member? modes (c :: rest)).map fun rest ↦ ((bracket.add 0, others), rest)

def readSet (modes : Modes) (brackets : Brackets) (text : List Char) :
    Option (Nat × List Char) :=
  if brackets.2.isEmpty then some (brackets.1.depth, text)
  else
    match modes.skip text with
    | [] => none
    | c :: rest =>
      match setStep? modes brackets c rest with
      | some (brackets, behind) =>
        if behind.length < text.length then readSet modes brackets behind else none
      | none => none
termination_by text.length
decreasing_by assumption

/-- How deep a set is nested whose first bracket is already taken, and the text behind it. -/
def set? (modes : Modes) (text : List Char) : Option (Nat × List Char) :=
  let (brackets, rest) := openBracket modes (.empty false, []) text
  readSet modes brackets rest

end QuadPort.Log.Pattern
