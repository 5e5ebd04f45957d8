import StructTags.Text.Digits
import StructTags.Yaml.Input

/-!
# YAML scalars

The texts of plain, quoted and block scalars. A reader starts behind what opens a scalar and
returns its text with what follows it.
-/

namespace StructTags

namespace Yaml

/-! ## Gaps

Blanks and breaks between the words of a flow scalar. Blanks count only if no break follows; a
single newline becomes a blank, and of several the first one is dropped. -/

structure Gap where
  /-- The blanks so far, the last one first. -/
  blanks : List Char := []
  /-- Whether there was a break. -/
  broken : Bool := false
  /-- The first break, unless it was escaped. -/
  first : List Char := []
  /-- The further breaks, the last one first. -/
  further : List Char := []
deriving DecidableEq, Repr

namespace Gap

def push (g : Gap) (c : Char) : Gap :=
  if isBreak c then
    if g.broken then { g with further := c :: g.further }
    else { g with blanks := [], broken := true, first := [c] }
  else if g.broken then g
  else { g with blanks := c :: g.blanks }

/-- The text that the gap stands for, in reverse. -/
def reversed (g : Gap) : List Char :=
  if g.broken then
    if g.first = ['\n'] then if g.further.isEmpty then [' '] else g.further
    else g.further ++ g.first
  else g.blanks

end Gap

/-! ## Plain scalars -/

structure Plain where
  text : List Char
  /-- Whether there was a break behind the text. -/
  broken : Bool
  rest : List Cell

/-- Reads a plain scalar. `indent` is the least column of its further lines, `text` holds what has
been read, in reverse, and `gap` what stands between that and the next character; `fresh` says
whether there was such a gap at all. -/
def plainFrom (flow : Bool) (indent : Nat) (text : List Char) (gap : Gap) (fresh : Bool) :
    List Cell → Option Plain
  | [] => some ⟨text.reverse, gap.broken, []⟩
  | c :: rest =>
    if c.isSpace then
      if c.char = '\t' && gap.broken && c.column < indent then none
      else plainFrom flow indent text (gap.push c.char) true rest
    else
      let done := some ⟨text.reverse, gap.broken, c :: rest⟩
      if fresh && ((!flow && c.column < indent) || atDocumentMarker (c :: rest) || c.char = '#')
      then done
      else if flow && c.char = ':' && rest.head?.any (fun d => isFlowIndicator d.char || d.char = '?')
      then none
      else if (c.char = ':' && atSpace rest) || (flow && isFlowIndicator c.char) then done
      else plainFrom flow indent (c.char :: (gap.reversed ++ text)) {} false rest

def plain? (flow : Bool) (indent : Nat) (cells : List Cell) : Option Plain :=
  plainFrom flow indent [] {} false cells

/-! ## Quoted scalars -/

/-- The characters that a single letter behind a backslash stands for. -/
def unescape? (c : Char) : Option Char :=
  match c with
  | '0' => some '\x00'
  | 'a' => some '\x07'
  | 'b' => some '\x08'
  | 't' => some '\t'
  | '\t' => some '\t'
  | 'n' => some '\n'
  | 'v' => some '\x0b'
  | 'f' => some '\x0c'
  | 'r' => some '\r'
  | 'e' => some '\x1b'
  | ' ' => some ' '
  | '"' => some '"'
  | '/' => some '/'
  | '\\' => some '\\'
  | 'N' => some '\u0085'
  | '_' => some '\u00a0'
  | 'L' => some '\u2028'
  | 'P' => some '\u2029'
  | _ => none

/-- The character with the code that hexadecimal digits spell. -/
def ofHex? (digits : List Cell) : Option Char := do
  let n ← Digits.read? 16 Digits.hex? (digits.map (·.char))
  if n < 0xD800 || (0xDFFF < n && n ≤ 0x10FFFF) then some (Char.ofNat n) else none

/-- Reads a scalar between single quotes, in which a quote is written twice. -/
def singleQuotedFrom (text : List Char) (gap : Gap) : List Cell → Option (List Char × List Cell)
  | [] => none
  | c :: rest =>
    if c.isSpace then singleQuotedFrom text (gap.push c.char) rest
    else if atDocumentMarker (c :: rest) then none
    else
      let text := gap.reversed ++ text
      if c.char = '\'' then
        match rest with
        | [] => some (text.reverse, [])
        | d :: further =>
          if d.char = '\'' then singleQuotedFrom ('\'' :: text) {} further
          else some (text.reverse, d :: further)
      else singleQuotedFrom (c.char :: text) {} rest

/-- Reads a scalar between double quotes, in which a backslash starts an escape. -/
def doubleQuotedFrom (text : List Char) (gap : Gap) : List Cell → Option (List Char × List Cell)
  | [] => none
  | c :: rest =>
    if c.isSpace then doubleQuotedFrom text (gap.push c.char) rest
    else if atDocumentMarker (c :: rest) then none
    else
      let text := gap.reversed ++ text
      if c.char = '"' then some (text.reverse, rest)
      else if c.char = '\\' then
        match rest with
        | [] => none
        | e :: rest =>
          if e.isBreak then doubleQuotedFrom text { broken := true } rest
          else if e.char = 'x' then
            match rest with
            | a :: b :: rest => do doubleQuotedFrom ((← ofHex? [a, b]) :: text) {} rest
            | _ => none
          else if e.char = 'u' then
            match rest with
            | a :: b :: c :: d :: rest => do
              doubleQuotedFrom ((← ofHex? [a, b, c, d]) :: text) {} rest
            | _ => none
          else if e.char = 'U' then
            match rest with
            | a :: b :: c :: d :: e :: f :: g :: h :: rest => do
              doubleQuotedFrom ((← ofHex? [a, b, c, d, e, f, g, h]) :: text) {} rest
            | _ => none
          else do doubleQuotedFrom ((← unescape? e.char) :: text) {} rest
      else doubleQuotedFrom (c.char :: text) {} rest

/-- Reads a scalar behind its opening quote. -/
def quoted? (quote : Char) (cells : List Cell) : Option (List Char × List Cell) :=
  if quote = '"' then doubleQuotedFrom [] {} cells else singleQuotedFrom [] {} cells

/-! ## Block scalars -/

/-- What happens to the breaks at the end of a block scalar. -/
inductive Chomping where
  | strip
  | clip
  | keep
deriving DecidableEq, Repr

structure BlockHeader where
  chomping : Chomping := .clip
  /-- By how much the lines are indented, if the header says so. -/
  increment? : Option Nat := none
deriving DecidableEq, Repr

def chomping? (c : Char) : Option Chomping :=
  if c = '+' then some .keep else if c = '-' then some .strip else none

/-- The increment that a digit other than zero stands for. -/
def increment? (c : Char) : Option Nat :=
  (Digits.decimal? c).filter (· ≠ 0)

/-- Reads the indicators behind the one that opens a block scalar, which may come in either
order, and the rest of the line. -/
def blockHeader? (cells : List Cell) : Option (BlockHeader × List Cell) := do
  let digit (cells : List Cell) : Bool := cells.head?.any (·.char.isDigit)
  let (header, rest) ← match cells with
    | [] => some ({}, [])
    | c :: rest =>
      match chomping? c.char with
      | some chomping =>
        match rest with
        | d :: further =>
          if digit rest then do
            pure ({ chomping, increment? := some (← increment? d.char) }, further)
          else some ({ chomping }, rest)
        | [] => some ({ chomping }, [])
      | none =>
        if digit cells then do
          let increment? := some (← increment? c.char)
          match rest with
          | d :: further =>
            match chomping? d.char with
            | some chomping => pure ({ chomping, increment? }, further)
            | none => pure ({ increment? }, rest)
          | [] => pure ({ increment? }, [])
        else some ({}, cells)
  return (header, ← skipLineEnd? rest)

structure Block where
  /-- The column of the lines, as soon as it is known. -/
  indent? : Option Nat
  /-- The largest column that was found on lines without content. -/
  deepest : Nat := 0
  /-- The text so far, in reverse. -/
  text : List Char := []
  /-- The break behind the last line with content. -/
  first : List Char := []
  /-- The breaks of the empty lines since, the last one first. -/
  further : List Char := []
  /-- Whether the last line with content started with a blank. -/
  blankStart : Bool := false
  /-- Whether a line with content is being read. -/
  inLine : Bool := false
deriving DecidableEq, Repr

namespace Block

/-- Whether a column is still part of the indentation. -/
def isIndentation (b : Block) (column : Nat) : Bool :=
  b.indent?.all (column < ·)

/-- Joins a new line that starts with the given character to the text. In a folded scalar a single
newline between lines that do not start with a blank becomes a blank. -/
def startLine (b : Block) (folded : Bool) (c : Char) : Block :=
  let text :=
    if folded && b.first = ['\n'] && !b.blankStart && !isBlank c then
      if b.further.isEmpty then ' ' :: b.text else b.further ++ b.text
    else b.further ++ (b.first ++ b.text)
  { b with text := c :: text, first := [], further := [], blankStart := isBlank c, inLine := true }

/-- The text once all lines are read. -/
def finish (b : Block) (chomping : Chomping) : List Char :=
  match chomping with
  | .strip => b.text.reverse
  | .clip => (b.first ++ b.text).reverse
  | .keep => (b.further ++ (b.first ++ b.text)).reverse

end Block

/-- Reads the lines of a block scalar. `least` is the least column that they may be indented to
where the header does not say. -/
def blockFrom (folded : Bool) (least : Nat) (b : Block) : List Cell → Option (Block × List Cell)
  | [] => some (b, [])
  | c :: rest =>
    if b.inLine then
      if c.isBreak then blockFrom folded least { b with first := [c.char], inLine := false } rest
      else blockFrom folded least { b with text := c.char :: b.text } rest
    else if c.char = ' ' && b.isIndentation c.column then blockFrom folded least b rest
    else if c.char = '\t' && b.isIndentation c.column then none
    else
      let deepest := max b.deepest c.column
      if c.isBreak then
        blockFrom folded least { b with deepest, further := c.char :: b.further } rest
      else
        let indent := b.indent?.getD (max deepest least)
        if c.column = indent then
          blockFrom folded least ({ b with indent? := some indent }.startLine folded c.char) rest
        else some (b, c :: rest)

/-- Reads a block scalar behind the indicator that opens it, inside a block with the given
column. -/
def block? (folded : Bool) (parent : Int) (cells : List Cell) : Option (List Char × List Cell) := do
  let (header, cells) ← blockHeader? cells
  let indent? := header.increment?.map fun increment => parent.toNat + increment
  let (b, rest) ← blockFrom folded (max (parent + 1).toNat 1) { indent? } cells
  return (b.finish header.chomping, rest)

end Yaml

end StructTags
