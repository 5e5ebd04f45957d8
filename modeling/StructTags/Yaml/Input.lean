/-!
# YAML input

A YAML text is read as a list of cells: characters with their positions. Every line break becomes
a single newline, except for the two Unicode separators, which are breaks of their own. The end of
the list is the end of the text.
-/

namespace StructTags

namespace Yaml

/-- A character and where it stands. `index` counts all characters before it, `line` the breaks
before it and `column` the characters before it on its line. -/
structure Cell where
  char : Char
  index : Nat
  line : Nat
  column : Nat
deriving DecidableEq, Repr

/-! ## Classes of characters -/

/-- The characters a YAML text may consist of. -/
def isAllowed (c : Char) : Bool :=
  let n := c.toNat
  n = 0x09 || n = 0x0A || n = 0x0D || (0x20 ≤ n && n ≤ 0x7E) || n = 0x85
    || (0xA0 ≤ n && n ≤ 0xD7FF) || (0xE000 ≤ n && n ≤ 0xFFFD) || 0x10000 ≤ n

/-- Line breaks, after all but the separators have become newlines. -/
def isBreak (c : Char) : Bool :=
  c = '\n' || c = '\u2028' || c = '\u2029'

def isBlank (c : Char) : Bool :=
  c = ' ' || c = '\t'

def isSpace (c : Char) : Bool :=
  isBlank c || isBreak c

/-- The characters of names: anchors, directives, handles of tags. -/
def isWordChar (c : Char) : Bool :=
  c.isAlphanum || c = '_' || c = '-'

/-- The brackets and commas of flow collections. -/
def isFlowIndicator (c : Char) : Bool :=
  c = ',' || c = '[' || c = ']' || c = '\x7b' || c = '\x7d'

/-- The mark that may stand at the front of a text. -/
def byteOrderMark : Char := '\ufeff'

/-! ## Cells -/

/-- The cells of a text, from the given position on. -/
def cellsFrom (index line column : Nat) : List Char → List Cell
  | [] => []
  | '\r' :: '\n' :: rest => ⟨'\n', index, line, column⟩ :: cellsFrom (index + 2) (line + 1) 0 rest
  | c :: rest =>
    if c = '\r' || c = '\u0085' then
      ⟨'\n', index, line, column⟩ :: cellsFrom (index + 1) (line + 1) 0 rest
    else if isBreak c then ⟨c, index, line, column⟩ :: cellsFrom (index + 1) (line + 1) 0 rest
    else ⟨c, index, line, column⟩ :: cellsFrom (index + 1) line (column + 1) rest

/-- The cells of a text that holds nothing but allowed characters. -/
def cells? (text : List Char) : Option (List Cell) :=
  if text.all isAllowed then some (cellsFrom 0 0 0 text) else none

namespace Cell

def isBlank (c : Cell) : Bool := Yaml.isBlank c.char

def isBreak (c : Cell) : Bool := Yaml.isBreak c.char

def isSpace (c : Cell) : Bool := Yaml.isSpace c.char

end Cell

/-! ## Looking ahead -/

/-- Whether the next character, if there is one, is blank or a break. -/
def atSpace : List Cell → Bool
  | [] => true
  | c :: _ => c.isSpace

/-- Whether the next character is the given one. -/
def atChar (x : Char) : List Cell → Bool
  | [] => false
  | c :: _ => c.char = x

/-- Whether a line starts here that consists of three characters `x`, alone or before a space. -/
def atMarker (x : Char) : List Cell → Bool
  | a :: b :: c :: rest =>
    a.column = 0 && a.char = x && b.char = x && c.char = x && atSpace rest
  | _ => false

/-- Whether a line starts here that ends the current document. -/
def atDocumentMarker (cells : List Cell) : Bool :=
  atMarker '-' cells || atMarker '.' cells

/-- The longest front of which all characters belong to a class, and what follows. -/
def takeWhile (p : Char → Bool) (cells : List Cell) : List Char × List Cell :=
  ((cells.takeWhile (p ·.char)).map (·.char), cells.dropWhile (p ·.char))

def skipBlanks (cells : List Cell) : List Cell :=
  cells.dropWhile (·.isBlank)

/-- Skips blanks, a comment and the break at the end of a line that holds nothing else. -/
def skipLineEnd? (cells : List Cell) : Option (List Cell) :=
  let cells := skipBlanks cells
  let cells := if atChar '#' cells then cells.dropWhile (!·.isBreak) else cells
  match cells with
  | [] => some []
  | c :: rest => if c.isBreak then some rest else none

end Yaml

end StructTags
