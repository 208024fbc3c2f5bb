import QuadPort.Text.CodePoints

/-!
# White space

The characters that separate words: the ASCII ones and the separators of other scripts.
-/

namespace QuadPort.Text.Space

def space : CodePoints := [
  0x9, 0xE, 0x20, 0x21, 0x85, 0x86, 0xA0, 0xA1, 0x1680, 0x1681, 0x2000, 0x200B, 0x2028, 0x202A,
  0x202F, 0x2030, 0x205F, 0x2060, 0x3000, 0x3001]

def isSpace (c : Char) : Bool :=
  space.holds c

def trim (text : List Char) : List Char :=
  ((text.dropWhile isSpace).reverse.dropWhile isSpace).reverse

end QuadPort.Text.Space
