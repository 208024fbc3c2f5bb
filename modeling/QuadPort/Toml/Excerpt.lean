import QuadPort.Toml.Decode

/-!
# Complaints with an excerpt of the text

A complaint with a place is shown with the line it is on and a row of carets under the
place. Columns count characters, the width of the place counts bytes, and at least one
caret is shown. Every complaint ends with a line end of its own.
-/

namespace QuadPort.Toml.Excerpt

/-- The lines of a text; a text that ends with a line end has an empty last line. -/
def lines : List Char → List (List Char)
  | [] => [[]]
  | c :: rest =>
    if c == '\n' then [] :: lines rest
    else
      match lines rest with
      | first :: others => (c :: first) :: others
      | [] => [[c]]

/-- The line and the column of a byte position, both counted from zero. -/
def locate (offset : Nat) : List Char → Nat × Nat
  | [] => (0, offset)
  | c :: rest =>
    if offset = 0 then (0, 0)
    else if rest.isEmpty then (0, offset)
    else
      let (line, column) := locate (offset - c.utf8Size) rest
      if c == '\n' then (line + 1, column)
      else if line = 0 then (0, column + 1)
      else (line, column)

def times (count : Nat) (c : Char) : String := "".pushn c count

/-- The excerpt for a place: its position, its line, and carets under it. -/
def excerpt (text : List Char) (span : Span) : String :=
  let (line, column) := locate span.start text
  let content := (lines text).getD line []
  let number := toString (line + 1)
  let margin := times (number.length + 1) ' '
  let width := min (span.stop - span.start) (byteCount content - column)
  s!"TOML parse error at line {line + 1}, column {column + 1}\n" ++
    margin ++ "|\n" ++
    number ++ " | " ++ String.ofList content ++ "\n" ++
    margin ++ "|" ++ times (column + 1) ' ' ++ times (max width 1) '^' ++ "\n"

def render (text : List Char) (span : Option Span) (message : String) : String :=
  (span.elim "" (excerpt text)) ++ message ++ "\n"

end QuadPort.Toml.Excerpt
