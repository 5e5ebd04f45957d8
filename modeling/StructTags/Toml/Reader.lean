import StructTags.Toml.Table
import StructTags.Toml.Text
import StructTags.Toml.Word

/-!
# Reading TOML

A text is read line by line: keys with values, and headers of tables. Values may go over several
lines.
-/

namespace StructTags

namespace Toml

/-! ## Blanks -/

def skipBlanks (cs : List Char) : List Char :=
  cs.dropWhile isBlank

/-- Skips blanks, comments and line ends. -/
def skipLines? (comment : Bool) : List Char → Option (List Char)
  | [] => some []
  | c :: rest =>
    if c = '\n' then skipLines? false rest
    else if c = '\r' then if rest.head? = some '\n' then skipLines? false rest else none
    else if comment then if isLineChar c then skipLines? true rest else none
    else if c = '#' then skipLines? true rest
    else if isBlank c then skipLines? false rest
    else some (c :: rest)

/-- Skips what may follow on a line: blanks, a comment and the end of the line. -/
def finishLine? (comment : Bool) : List Char → Option (List Char)
  | [] => some []
  | c :: rest =>
    if c = '\n' then some rest
    else if c = '\r' then if rest.head? = some '\n' then finishLine? false rest else none
    else if comment then if isLineChar c then finishLine? true rest else none
    else if c = '#' then finishLine? true rest
    else if isBlank c then finishLine? false rest
    else none

/-! ## Keys -/

def isKeyChar (c : Char) : Bool :=
  c.isAlphanum || c = '_' || c = '-'

/-- Reads one part of a key: a word, or a string on one line. -/
def keyPart? (cs : List Char) : Option (String × List Char) :=
  match cs with
  | '"' :: rest => do
    let (text, rest) ← basicFrom false [] .text rest
    return (String.ofList text, rest)
  | '\'' :: rest => do
    let (text, rest) ← literalFrom false [] rest
    return (String.ofList text, rest)
  | _ =>
    let word := cs.takeWhile isKeyChar
    if word.isEmpty then none else some (String.ofList word, cs.dropWhile isKeyChar)

/-- Reads a key, whose parts are divided by dots: the leading parts and the last one. `fuel` bounds
the number of parts. -/
def keyFrom? : (fuel : Nat) → List String → List Char → Option ((List String × String) × List Char)
  | 0, _, _ => none
  | fuel + 1, path, cs => do
    let (part, rest) ← keyPart? (skipBlanks cs)
    match skipBlanks rest with
    | '.' :: rest => keyFrom? fuel (path ++ [part]) rest
    | rest => return ((path, part), rest)

def key? (cs : List Char) : Option ((List String × String) × List Char) :=
  keyFrom? (cs.length + 1) [] cs

/-! ## Values -/

/-- The characters of words. -/
def isWordChar (c : Char) : Bool :=
  c.isAlphanum || c = '_' || c = '-' || c = '+' || c = '.' || c = ':'

/-- Reads a word. Between a date and a time there may be a single blank. -/
def takeWord (cs : List Char) : List Char × List Char :=
  let word := cs.takeWhile isWordChar
  let rest := cs.dropWhile isWordChar
  match rest with
  | ' ' :: further =>
    if afterDate? word = some [] && further.head?.any Char.isDigit then
      (word ++ ' ' :: further.takeWhile isWordChar, further.dropWhile isWordChar)
    else (word, rest)
  | _ => (word, rest)

/-- How deep arrays and inline tables may be nested. -/
def maxDepth : Nat := 80

mutual

/-- Reads a value. `depth` is how much deeper values may be nested, and `fuel` bounds how many
readers can be under way at once or follow one another. -/
def value? : (fuel depth : Nat) → List Char → Option (Document × List Char)
  | 0, _, _ => none
  | fuel + 1, depth, cs =>
    match cs, depth with
    | '[' :: _, 0 | '\x7b' :: _, 0 => none
    | '[' :: rest, depth + 1 => do
      let (items, rest) ← items? fuel depth rest
      return (.list items, rest)
    | '\x7b' :: rest, depth + 1 => do
      let (t, rest) ← fields? fuel depth (Table.empty .named) rest
      return (t.toDocument, rest)
    | _, _ =>
      if cs.head? = some '"' || cs.head? = some '\'' then do
        let (text, rest) ← string? cs
        return (.ofText (String.ofList text), rest)
      else do
        let (word, rest) := takeWord cs
        return (← word? word, rest)

/-- Reads the items of an array and its end. -/
def items? : (fuel depth : Nat) → List Char → Option (List Document × List Char)
  | 0, _, _ => none
  | fuel + 1, depth, cs => do
    match ← skipLines? false cs with
    | ']' :: rest => return ([], rest)
    | cs =>
      let (item, rest) ← value? fuel depth cs
      match ← skipLines? false rest with
      | ',' :: rest =>
        let (items, rest) ← items? fuel depth rest
        return (item :: items, rest)
      | ']' :: rest => return ([item], rest)
      | _ => none

/-- Reads the entries of an inline table and its end. -/
def fields? : (fuel depth : Nat) → Table → List Char → Option (Table × List Char)
  | 0, _, _, _ => none
  | fuel + 1, depth, t, cs => do
    match ← skipLines? false cs with
    | '\x7d' :: rest => return (t, rest)
    | cs =>
      let ((path, key), rest) ← key? cs
      match rest with
      | '=' :: rest =>
        let (d, rest) ← value? fuel depth (skipBlanks rest)
        let t ← t.define? path key d
        match ← skipLines? false rest with
        | ',' :: rest => fields? fuel depth t rest
        | '\x7d' :: rest => return (t, rest)
        | _ => none
      | _ => none

end

/-! ## Documents -/

/-- Reads a document from the start of a line on. `root` holds what has been read, and `current`
is the path of the table that keys belong to; every line takes at least one of the `fuel`
characters. -/
def linesFrom? : (fuel : Nat) → (root : Table) → (current : List String) → List Char → Option Table
  | 0, _, _, _ => none
  | fuel + 1, root, current, cs => do
    match ← skipLines? false cs with
    | [] => return root
    | '[' :: '[' :: rest =>
      let ((path, key), rest) ← key? rest
      match rest with
      | ']' :: ']' :: rest =>
        let root ← root.nextHeader? path key
        linesFrom? fuel root (path ++ [key]) (← finishLine? false rest)
      | _ => none
    | '[' :: rest =>
      let ((path, key), rest) ← key? rest
      match rest with
      | ']' :: rest =>
        let root ← root.header? path key
        linesFrom? fuel root (path ++ [key]) (← finishLine? false rest)
      | _ => none
    | cs =>
      let ((path, key), rest) ← key? cs
      match rest with
      | '=' :: rest =>
        let (d, rest) ← value? (rest.length + 1) maxDepth (skipBlanks rest)
        let root ← root.modify? .implied (Table.define? path key d) current
        linesFrom? fuel root current (← finishLine? false rest)
      | _ => none

/-- Reads a TOML text, which may start with a byte order mark. -/
def read? (text : List Char) : Option Document := do
  let text := if text.head? = some '\ufeff' then text.tail else text
  return (← linesFrom? (text.length + 1) (Table.empty .named) [] text).toDocument

end Toml

end StructTags
