import QuadPort.Text.Hex
import QuadPort.Text.Space

/-!
# Atoms of a pattern

The smallest parts of a pattern: a character that stands for itself, an escape, the point
and the edges of lines. In which modes an atom may stand follows from two rules: the cases
of letters, the shorthand classes and the edges of words are known for ASCII only, so they
need the mode in which text is taken by bytes; and what is taken by bytes must not match a
part of a character.
-/

namespace QuadPort.Log.Pattern

/-! ## Modes -/

structure Modes where
  /-- Letters stand for both of their cases. -/
  caseless : Bool
  /-- Text is taken by characters, else by bytes. -/
  unicode : Bool
  /-- White space and comments between the parts are skipped. -/
  verbose : Bool
  deriving DecidableEq, Repr

namespace Modes

def initial : Modes := ⟨false, true, false⟩

/-- The modes with one of them switched on or off by its letter. Letters of modes that have
no part in what may be written change nothing. -/
def switch (modes : Modes) (on : Bool) : Char → Modes
  | 'i' => { modes with caseless := on }
  | 'u' => { modes with unicode := on }
  | 'x' => { modes with verbose := on }
  | _ => modes

end Modes

/-- The text behind white space and comments. A comment ends with its line. -/
def skipSpace (inComment : Bool) : List Char → List Char
  | [] => []
  | c :: rest =>
    if inComment then skipSpace (c != '\n') rest
    else if Text.Space.isSpace c then skipSpace false rest
    else if c == '#' then skipSpace true rest
    else c :: rest

/-- The text behind what the modes let pass between two parts. -/
def Modes.skip (modes : Modes) (text : List Char) : List Char :=
  if modes.verbose then skipSpace false text else text

/-! ## Atoms -/

inductive Atom
  /-- A character; an octet is one that two hexadecimal digits stand for. -/
  | literal (c : Char) (isOctet : Bool)
  /-- Any character but the end of a line. -/
  | anyCharacter
  /-- The start or the end of the text or of a line. -/
  | edge
  /-- The start or the end of a word, or a place that is neither. -/
  | wordEdge
  /-- A class with a letter of its own: digits, white space or word characters. -/
  | shorthand (negated : Bool)
  deriving DecidableEq, Repr

namespace Atom

def standsIn (modes : Modes) : Atom → Bool
  | .literal c isOctet =>
    if modes.unicode then !modes.caseless else !isOctet || c.toNat < 0x80
  | .anyCharacter => modes.unicode
  | .edge => true
  | .wordEdge => !modes.unicode
  | .shorthand negated => !modes.unicode && !negated

def isMember (modes : Modes) : Atom → Bool
  | .literal c _ => if modes.unicode then !modes.caseless else c.toNat < 0x80
  | .shorthand negated => !modes.unicode && !negated
  | _ => false

end Atom

/-! ## Escapes -/

/-- The number that exactly `count` hexadecimal digits stand for, behind a number that was
already read. -/
def hexNumber? (modes : Modes) (read : Nat) : Nat → List Char → Option (Nat × List Char)
  | 0, text => some (read, text)
  | count + 1, text =>
    match modes.skip text with
    | [] => none
    | c :: rest =>
      match Text.Hex.digit? c with
      | some digit => hexNumber? modes (16 * read + digit) count rest
      | none => none

/-- How many hexadecimal digits follow a letter that announces a code point. -/
def hexLength? : Char → Option Nat
  | 'x' => some 2
  | 'u' => some 4
  | 'U' => some 8
  | _ => none

/-- The atom that a single character behind a backslash stands for. Marks of ASCII stand for
themselves but for the angles, which mark the edges of words. -/
def simpleEscape? (c : Char) : Option Atom :=
  if c == 'd' || c == 's' || c == 'w' then some (.shorthand false)
  else if c == 'D' || c == 'S' || c == 'W' then some (.shorthand true)
  else if c == 'A' || c == 'z' then some .edge
  else if c == 'b' || c == 'B' || c == '<' || c == '>' then some .wordEdge
  else
    match c with
    | 'a' => some (.literal '\x07' false)
    | 'f' => some (.literal '\x0c' false)
    | 'n' => some (.literal '\n' false)
    | 'r' => some (.literal '\r' false)
    | 't' => some (.literal '\t' false)
    | 'v' => some (.literal '\x0b' false)
    | _ => if c.toNat < 0x80 && !c.isAlphanum then some (.literal c false) else none

/-- The atom behind a backslash. Classes of Unicode and references to groups are none. -/
def escape? (modes : Modes) : List Char → Option (Atom × List Char)
  | [] => none
  | c :: rest =>
    match hexLength? c with
    | some count =>
      match hexNumber? modes 0 count rest with
      | some (code, rest) =>
        if code.isValidChar then some (.literal (Char.ofNat code) (count == 2), rest) else none
      | none => none
    | none => (simpleEscape? c).map fun atom ↦ (atom, rest)

end QuadPort.Log.Pattern
