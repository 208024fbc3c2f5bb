import QuadPort.Text.Hex

/-!
# The smallest parts of a document

Blanks, line ends, comments, keys and strings. A reader takes characters from the front of
the text and hands back what it read with the rest, or nothing if the text does not start
with what it reads.
-/

namespace QuadPort.Toml.Lexeme

/-- A reader of a value of `α` from the front of a text. -/
abbrev Reader (α : Type) := List Char → Option (α × List Char)

/-! ## Character classes -/

def isBlank (c : Char) : Bool := c == ' ' || c == '\t'

def isComment (c : Char) : Bool :=
  c == '\t' || (0x20 ≤ c.toNat && c.toNat ≠ 0x7F)

/-- A character that stands for itself in a string with escapes. -/
def isBasic (c : Char) : Bool := isComment c && c != '"' && c != '\\'

/-- A character that may stand in a string without escapes. -/
def isLiteral (c : Char) : Bool := isComment c && c != '\''

def isDigit (c : Char) : Bool := '0' ≤ c && c ≤ '9'

/-- A character that may stand in a key without quotes. -/
def isBare (c : Char) : Bool :=
  isDigit c || ('a' ≤ c && c ≤ 'z') || ('A' ≤ c && c ≤ 'Z') || c == '-' || c == '_'

/-! ## Blanks, line ends and comments -/

def skipBlanks (text : List Char) : List Char := text.dropWhile isBlank

/-- The text behind a line end. A carriage return alone is none. -/
def lineEnd? : List Char → Option (List Char)
  | '\n' :: rest => some rest
  | '\r' :: '\n' :: rest => some rest
  | _ => none

/-- The text behind blanks, an optional comment and the end of the line or of the text. -/
def endOfLine? (text : List Char) : Option (List Char) :=
  let rest :=
    match skipBlanks text with
    | '#' :: comment => comment.dropWhile isComment
    | rest => rest
  match rest with
  | [] => some []
  | _ => lineEnd? rest

def skipLines (inComment : Bool) : List Char → Option (List Char)
  | '\n' :: rest => skipLines false rest
  | '\r' :: '\n' :: rest => skipLines false rest
  | c :: rest =>
    if inComment then if isComment c then skipLines true rest else none
    else if isBlank c then skipLines false rest
    else if c == '#' then skipLines true rest
    else some (c :: rest)
  | [] => if inComment then none else some []

def skipBreaks : List Char → List Char
  | '\n' :: rest => skipBreaks rest
  | '\r' :: '\n' :: rest => skipBreaks rest
  | c :: rest => if isBlank c then skipBreaks rest else c :: rest
  | [] => []

/-! ## Strings -/

def codePoint? (count : Nat) (text : List Char) : Option (Char × List Char) := do
  let digits ← (text.take count).mapM Text.Hex.digit?
  if digits.length ≠ count then none
  let code := digits.foldl (fun value digit ↦ 16 * value + digit) 0
  if code.isValidChar then some (Char.ofNat code, text.drop count) else none

/-- The character that an escape stands for; the backslash is already taken. -/
def escape? : List Char → Option (Char × List Char)
  | 'b' :: rest => some ('\x08', rest)
  | 'f' :: rest => some ('\x0c', rest)
  | 'n' :: rest => some ('\n', rest)
  | 'r' :: rest => some ('\r', rest)
  | 't' :: rest => some ('\t', rest)
  | '"' :: rest => some ('"', rest)
  | '\\' :: rest => some ('\\', rest)
  | 'u' :: rest => codePoint? 4 rest
  | 'U' :: rest => codePoint? 8 rest
  | _ => none

/-- The text behind a backslash that hides a line end, with all blanks and line ends that
follow; the backslash is already taken. -/
def hiddenBreak? (text : List Char) : Option (List Char) :=
  (lineEnd? (skipBlanks text)).map skipBreaks

/-- The rest of a one-line string with escapes, behind its opening quote. The number
bounds the characters it may take. -/
def basic : Nat → Reader (List Char)
  | 0, _ => none
  | _ + 1, '"' :: rest => some ([], rest)
  | bound + 1, '\\' :: rest => do
    let (c, rest) ← escape? rest
    let (string, rest) ← basic bound rest
    return (c :: string, rest)
  | bound + 1, c :: rest => do
    if !isBasic c then none
    let (string, rest) ← basic bound rest
    return (c :: string, rest)
  | _ + 1, [] => none

def literal : Reader (List Char)
  | '\'' :: rest => some ([], rest)
  | c :: rest => do
    if !isLiteral c then none
    let (string, rest) ← literal rest
    return (c :: string, rest)
  | [] => none

/-- Whether up to two quotes in a row belong to a string of several lines, or it ends. The
text starts with a quote; the string's last characters may be quotes themselves. -/
def closing? (quote : Char) (text : List Char) : Option (List Char × List Char) :=
  let run := (text.takeWhile (· == quote)).length
  if run < 3 then none
  else
    let inside := min (run - 3) 2
    some (List.replicate inside quote, text.drop (inside + 3))

def multiBasic : Nat → Reader (List Char)
  | 0, _ => none
  | _ + 1, [] => none
  | bound + 1, '"' :: rest =>
    match closing? '"' ('"' :: rest) with
    | some closed => some closed
    | none => do
      let (string, rest) ← multiBasic bound rest
      return ('"' :: string, rest)
  | bound + 1, '\\' :: rest =>
    match hiddenBreak? rest with
    | some rest => multiBasic bound rest
    | none => do
      let (c, rest) ← escape? rest
      let (string, rest) ← multiBasic bound rest
      return (c :: string, rest)
  | bound + 1, c :: rest =>
    match lineEnd? (c :: rest) with
    | some rest => do
      let (string, rest) ← multiBasic bound rest
      return ('\n' :: string, rest)
    | none => do
      if !isBasic c then none
      let (string, rest) ← multiBasic bound rest
      return (c :: string, rest)

def multiLiteral : Nat → Reader (List Char)
  | 0, _ => none
  | _ + 1, [] => none
  | bound + 1, '\'' :: rest =>
    match closing? '\'' ('\'' :: rest) with
    | some closed => some closed
    | none => do
      let (string, rest) ← multiLiteral bound rest
      return ('\'' :: string, rest)
  | bound + 1, c :: rest =>
    match lineEnd? (c :: rest) with
    | some rest => do
      let (string, rest) ← multiLiteral bound rest
      return ('\n' :: string, rest)
    | none => do
      if !isLiteral c then none
      let (string, rest) ← multiLiteral bound rest
      return (c :: string, rest)

def trimBreak (text : List Char) : List Char := (lineEnd? text).getD text

def string (text : List Char) : Option (String × List Char) :=
  let bound := text.length
  let read : Option (List Char × List Char) :=
    match text with
    | '"' :: '"' :: '"' :: rest => multiBasic bound (trimBreak rest)
    | '"' :: rest => basic bound rest
    | '\'' :: '\'' :: '\'' :: rest => multiLiteral bound (trimBreak rest)
    | '\'' :: rest => literal rest
    | _ => none
  read.map fun (string, rest) ↦ (String.ofList string, rest)

/-! ## Keys -/

/-- One key, quoted on one line or bare. -/
def key (text : List Char) : Option (String × List Char) :=
  match text with
  | '"' :: rest => (basic text.length rest).map fun (name, rest) ↦ (String.ofList name, rest)
  | '\'' :: rest => (literal rest).map fun (name, rest) ↦ (String.ofList name, rest)
  | _ =>
    let name := text.takeWhile isBare
    if name.isEmpty then none else some (String.ofList name, text.dropWhile isBare)

end QuadPort.Toml.Lexeme
