import StructTags.Text.Digits
import StructTags.Text.Utf8
import StructTags.Yaml.Input
import StructTags.Yaml.Token

/-!
# Names in YAML

Anchors, aliases, tags and directives.
-/

namespace StructTags

namespace Yaml

/-! ## Anchors -/

/-- The characters that may follow a name directly. -/
def endsName (c : Char) : Bool :=
  isSpace c || "?:,]\x7d%@\x60".toList.contains c

/-- Reads the name of an anchor or an alias behind its indicator. -/
def name? (cells : List Cell) : Option (String × List Cell) :=
  let (name, rest) := takeWhile isWordChar cells
  if !name.isEmpty && rest.head?.all (endsName ·.char) then some (String.ofList name, rest)
  else none

/-! ## Tags -/

/-- The characters of a tag; inside angle brackets there are a few more. -/
def isTagChar (bracketed : Bool) (c : Char) : Bool :=
  isWordChar c || ";/?:@&=+$.%!~*'()".toList.contains c || (bracketed && ",[]".toList.contains c)

/-- The bytes of a tag, in which a percent sign and two digits stand for a byte. -/
def tagBytes? : List Char → Option (List Utf8.Byte)
  | [] => some []
  | '%' :: a :: b :: rest => do
    let byte ← Digits.read? 16 Digits.hex? [a, b]
    return UInt8.ofNat byte :: (← tagBytes? rest)
  | c :: rest => do
    if c = '%' then none else return String.utf8EncodeChar c ++ (← tagBytes? rest)

/-- Reads the characters of a tag, which may be none. -/
def tagText? (bracketed : Bool) (cells : List Cell) : Option (List Char × List Cell) := do
  let (text, rest) := takeWhile (isTagChar bracketed) cells
  return (← Utf8.decode? (← tagBytes? text), rest)

/-- Reads the characters of a tag, of which there must be some. -/
def someTagText? (bracketed : Bool) (cells : List Cell) : Option (String × List Cell) := do
  let (text, rest) ← tagText? bracketed cells
  if text.isEmpty then none else some (String.ofList text, rest)

/-- A tag may be followed by a space, or by a comma in a flow collection. -/
def endsTag (flow : Bool) : List Cell → Bool
  | [] => true
  | c :: _ => c.isSpace || (flow && c.char = ',')

/-- Reads a tag behind its exclamation mark: one in angle brackets, one with a handle of its own, or
one with the handle that is a single mark. A mark alone is a tag too. -/
def tag? (flow : Bool) (cells : List Cell) : Option (Token × List Cell) := do
  let (token, rest) ←
    if atChar '<' cells then do
      let (text, rest) ← someTagText? true cells.tail
      if atChar '>' rest then some (Token.tag "" text, rest.tail) else none
    else do
      let (word, rest) := takeWhile isWordChar cells
      if atChar '!' rest then do
        let (suffix, rest) ← someTagText? false rest.tail
        some (.tag (String.ofList ('!' :: (word ++ ['!']))) suffix, rest)
      else do
        let (more, rest) ← tagText? false rest
        let suffix := word ++ more
        some (if suffix.isEmpty then .tag "" "!" else .tag "!" (String.ofList suffix), rest)
  if endsTag flow rest then some (token, rest) else none

/-! ## Directives -/

/-- Reads a number of at most nine digits. -/
def versionNumber? (cells : List Cell) : Option (Nat × List Cell) := do
  let (digits, rest) := takeWhile Char.isDigit cells
  if digits.length ≤ 9 then return (← Digits.read? 10 Digits.decimal? digits, rest) else none

def version? (cells : List Cell) : Option (Token × List Cell) := do
  let (major, rest) ← versionNumber? (skipBlanks cells)
  if !atChar '.' rest then none
  let (minor, rest) ← versionNumber? rest.tail
  return (.version major minor, rest)

/-- Reads a handle for tags: an exclamation mark, alone or before a word that ends in another. -/
def handleName? (cells : List Cell) : Option (String × List Cell) := do
  if !atChar '!' cells then none
  let (word, rest) := takeWhile isWordChar cells.tail
  if atChar '!' rest then return (String.ofList ('!' :: (word ++ ['!'])), rest.tail)
  else if word.isEmpty then return ("!", rest)
  else none

def handle? (cells : List Cell) : Option (Token × List Cell) := do
  let (name, rest) ← handleName? (skipBlanks cells)
  if !rest.head?.any (·.isBlank) then none
  let (leader, rest) ← someTagText? true (skipBlanks rest)
  if atSpace rest then return (.handle name leader, rest) else none

/-- Reads a directive behind its percent sign, to the end of its line. -/
def directive? (cells : List Cell) : Option (Token × List Cell) := do
  let (name, rest) := takeWhile isWordChar cells
  if !atSpace rest then none
  let (token, rest) ←
    if name = "YAML".toList then version? rest
    else if name = "TAG".toList then handle? rest
    else none
  return (token, ← skipLineEnd? rest)

end Yaml

end StructTags
