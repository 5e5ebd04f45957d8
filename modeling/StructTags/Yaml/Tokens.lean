import StructTags.Yaml.Property
import StructTags.Yaml.Scalar

/-!
# From YAML text to tokens

A block collection starts where a line is indented deeper than the collection around it and ends
where one is indented less. That a scalar is the key of a mapping shows only at the colon behind
it, so the scanner keeps the place where a key may have started, one for each open flow
collection, and puts the tokens for the key there once the colon is found. Such a key is limited to
one line and to 1024 characters.
-/

namespace StructTags

namespace Yaml

/-- A place at which a key may have started. -/
structure Candidate where
  /-- Whether only a key can stand there. -/
  required : Bool
  /-- How many tokens there are before it. -/
  position : Nat
  index : Nat
  line : Nat
  column : Nat
deriving DecidableEq, Repr

structure Scan where
  /-- The tokens so far, the last one first. -/
  tokens : List Token := []
  /-- The column of the current block collection. -/
  indent : Int := -1
  /-- The columns of the collections around it. -/
  outerIndents : List Int := []
  candidate? : Option Candidate := none
  /-- The candidates outside of each open flow collection, the innermost first. -/
  outerCandidates : List (Option Candidate) := []
  /-- Whether a key may start here. -/
  keyAllowed : Bool := true
deriving Repr

namespace Scan

/-- Whether a flow collection is open. -/
def inFlow (s : Scan) : Bool :=
  !s.outerCandidates.isEmpty

def emit (s : Scan) (t : Token) : Scan :=
  { s with tokens := t :: s.tokens }

/-- Puts a token behind the first `position` tokens. -/
def emitAt (s : Scan) (position : Nat) (t : Token) : Scan :=
  { s with tokens := s.tokens.insertIdx (s.tokens.length - position) t }

/-! ## Indentation -/

/-- Starts a block collection if the column lies deeper than that of the current one. -/
def roll (s : Scan) (column position : Nat) (t : Token) : Scan :=
  if !s.inFlow && s.indent < column then
    { s.emitAt position t with indent := column, outerIndents := s.indent :: s.outerIndents }
  else s

/-- Starts a block collection at the given cell. -/
def rollHere (s : Scan) (c : Cell) (t : Token) : Scan :=
  s.roll c.column s.tokens.length t

/-- The columns that remain if all collections deeper than `column` end, and how many those are. -/
def unwind (column : Int) : Int → List Int → Int × List Int × Nat
  | indent, [] => (indent, [], 0)
  | indent, outer :: rest =>
    if column < indent then
      let (indent, outerIndents, n) := unwind column outer rest
      (indent, outerIndents, n + 1)
    else (indent, outer :: rest, 0)

/-- Ends all block collections that lie deeper than a column. -/
def unroll (s : Scan) (column : Int) : Scan :=
  if s.inFlow then s
  else
    let (indent, outerIndents, n) := unwind column s.indent s.outerIndents
    { s with indent, outerIndents, tokens := List.replicate n .blockEnd ++ s.tokens }

/-! ## Candidates for keys -/

/-- The candidate unless it is too far behind. -/
def Candidate.kept? (c : Cell) (k : Candidate) : Option (Option Candidate) :=
  if k.line < c.line || k.index + 1024 < c.index then if k.required then none else some none
  else some (some k)

/-- Forgets the candidates that are too far behind. -/
def expire (s : Scan) (c : Cell) : Option Scan := do
  let keep : Option Candidate → Option (Option Candidate)
    | none => some none
    | some k => Candidate.kept? c k
  return { s with
    candidate? := ← keep s.candidate?
    outerCandidates := ← s.outerCandidates.mapM keep }

/-- Forgets the current candidate, which must not be required. -/
def forget (s : Scan) : Option Scan :=
  if s.candidate?.any (·.required) then none else some { s with candidate? := none }

/-- Makes the given cell the current candidate if a key may start there. -/
def save (s : Scan) (c : Cell) : Option Scan :=
  if s.keyAllowed then do
    return { ← s.forget with
      candidate? := some
        { required := !s.inFlow && s.indent = c.column
          position := s.tokens.length
          index := c.index
          line := c.line
          column := c.column } }
  else some s

def allow (s : Scan) (keyAllowed : Bool) : Scan :=
  { s with keyAllowed }

/-! ## Single tokens -/

/-- A directive or the line that starts or ends a document. -/
def interrupt (s : Scan) : Option Scan := do
  return (← (s.unroll (-1)).forget).allow false

def openFlow (s : Scan) (c : Cell) (t : Token) : Option Scan := do
  let s ← s.save c
  return { s with
    candidate? := none
    outerCandidates := s.candidate? :: s.outerCandidates
    keyAllowed := true }.emit t

def closeFlow (s : Scan) (t : Token) : Option Scan := do
  let s ← s.forget
  let s := match s.outerCandidates with
    | [] => s
    | candidate? :: outerCandidates => { s with candidate?, outerCandidates }
  return (s.allow false).emit t

def flowEntry (s : Scan) : Option Scan := do
  return ((← s.forget).allow true).emit .flowEntry

def blockEntry (s : Scan) (c : Cell) : Option Scan := do
  if !s.inFlow && !s.keyAllowed then none
  return ((← (s.rollHere c .blockSequence).forget).allow true).emit .blockEntry

def key (s : Scan) (c : Cell) : Option Scan := do
  if !s.inFlow && !s.keyAllowed then none
  let s ← (s.rollHere c .blockMapping).forget
  return (s.allow (!s.inFlow)).emit .key

def value (s : Scan) (c : Cell) : Option Scan :=
  match s.candidate? with
  | some k =>
    let s := (s.emitAt k.position .key).roll k.column k.position .blockMapping
    some (({ s with candidate? := none }.allow false).emit .value)
  | none =>
    if !s.inFlow && !s.keyAllowed then none
    else some (((s.rollHere c .blockMapping).allow (!s.inFlow)).emit .value)

/-- A token that may start a key and cannot be followed by one. -/
def starter (s : Scan) (c : Cell) (t : Token) : Option Scan := do
  return ((← s.save c).allow false).emit t

end Scan

/-! ## The scanner -/

/-- Skips what separates tokens. Outside of flow collections a break allows a key, and a tab may
stand only where none is allowed. -/
def skipSeparation (flow keyAllowed comment : Bool) : List Cell → Bool × List Cell
  | [] => (keyAllowed, [])
  | c :: rest =>
    if c.isBreak then skipSeparation flow (keyAllowed || !flow) false rest
    else if comment || c.char = '#' then skipSeparation flow keyAllowed true rest
    else if c.char = ' ' || (c.char = '\t' && (flow || !keyAllowed))
        || (c.char = byteOrderMark && c.index = 0) then
      skipSeparation flow keyAllowed false rest
    else (keyAllowed, c :: rest)

/-- Whether a plain scalar may start with the given character. -/
def startsPlain (flow : Bool) (c : Char) (rest : List Cell) : Bool :=
  !"-?:,[]\x7b\x7d#&*!|>'\"%@\x60".toList.contains c && !isSpace c
    || c = '-' && !rest.head?.any (·.isBlank)
    || !flow && (c = '?' || c = ':') && !atSpace rest

/-- Reads the token that starts with the given cell. -/
def scanToken? (s : Scan) (c : Cell) (rest : List Cell) : Option (Scan × List Cell) := do
  let x := c.char
  if c.column = 0 && x = '%' then
    let s ← s.interrupt
    let (t, rest) ← directive? rest
    return (s.emit t, rest)
  else if atMarker '-' (c :: rest) then return ((← s.interrupt).emit .documentStart, rest.drop 2)
  else if atMarker '.' (c :: rest) then return ((← s.interrupt).emit .documentEnd, rest.drop 2)
  else if x = '[' then return (← s.openFlow c .flowSequence, rest)
  else if x = '\x7b' then return (← s.openFlow c .flowMapping, rest)
  else if x = ']' then return (← s.closeFlow .flowSequenceEnd, rest)
  else if x = '\x7d' then return (← s.closeFlow .flowMappingEnd, rest)
  else if x = ',' then return (← s.flowEntry, rest)
  else if x = '-' && atSpace rest then return (← s.blockEntry c, rest)
  else if x = '?' && (s.inFlow || atSpace rest) then return (← s.key c, rest)
  else if x = ':' && (s.inFlow || atSpace rest) then return (← s.value c, rest)
  else if x = '*' then
    let (name, rest) ← name? rest
    return (← s.starter c (.alias name), rest)
  else if x = '&' then
    let (name, rest) ← name? rest
    return (← s.starter c (.anchor name), rest)
  else if x = '!' then
    let (t, rest) ← tag? s.inFlow rest
    return (← s.starter c t, rest)
  else if (x = '|' || x = '>') && !s.inFlow then
    let s ← s.forget
    let (text, rest) ← block? (x = '>') s.indent rest
    let style := if x = '|' then Style.literal else .quoted
    return ((s.allow true).emit (.scalar style (String.ofList text)), rest)
  else if x = '\'' || x = '"' then
    let (text, rest) ← quoted? x rest
    return (← s.starter c (.scalar .quoted (String.ofList text)), rest)
  else if startsPlain s.inFlow x rest then
    let p ← plain? s.inFlow (s.indent + 1).toNat (c :: rest)
    let s ← s.starter c (.scalar .plain (String.ofList p.text))
    return (s.allow p.broken, p.rest)
  else none

/-- Reads tokens up to the end of the text; every token takes at least one of the `fuel` cells. -/
def tokensFrom? : (fuel : Nat) → Scan → List Cell → Option (List Token)
  | 0, _, _ => none
  | fuel + 1, s, cells => do
    let (keyAllowed, cells) := skipSeparation s.inFlow s.keyAllowed false cells
    let s := s.allow keyAllowed
    match cells with
    | [] => return (← s.interrupt).tokens.reverse
    | c :: rest =>
      let (s, rest) ← scanToken? ((← s.expire c).unroll c.column) c rest
      tokensFrom? fuel s rest

/-- The tokens of a YAML text. -/
def tokens? (text : List Char) : Option (List Token) := do
  let cells ← cells? text
  tokensFrom? (cells.length + 1) {} cells

end Yaml

end StructTags
