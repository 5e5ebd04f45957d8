import StructTags.Text.Digits

/-!
# TOML strings

A string stands between quotes or between triples of quotes. Between double quotes a backslash
starts an escape; between triples the text may go over several lines. Readers start behind the
opening quotes.
-/

namespace StructTags

namespace Toml

/-- The control characters that stand nowhere in a TOML text; tabs and line ends are none of
them. -/
def isForbidden (c : Char) : Bool :=
  (c.toNat < 0x20 && c ≠ '\t' && c ≠ '\n' && c ≠ '\r') || c.toNat = 0x7F

/-- What may stand inside a line: no control characters but the tab. -/
def isLineChar (c : Char) : Bool :=
  !isForbidden c && c ≠ '\n' && c ≠ '\r'

def isBlank (c : Char) : Bool :=
  c = ' ' || c = '\t'

/-- The characters that a single letter behind a backslash stands for. -/
def unescape? (c : Char) : Option Char :=
  match c with
  | 'b' => some '\x08'
  | 't' => some '\t'
  | 'n' => some '\n'
  | 'f' => some '\x0c'
  | 'r' => some '\r'
  | 'e' => some '\x1b'
  | '"' => some '"'
  | '\\' => some '\\'
  | _ => none

/-- The character with the code that hexadecimal digits spell. -/
def ofHex? (digits : List Char) : Option Char := do
  let n ← Digits.read? 16 Digits.hex? digits
  if n < 0xD800 || (0xDFFF < n && n ≤ 0x10FFFF) then some (Char.ofNat n) else none

/-- How the reader of a string in triple quotes goes on. -/
inductive Mode where
  | text
  /-- Behind a backslash before blanks: the line must end there. -/
  | lineEnd
  /-- Behind such a line: blanks and line ends do not count. -/
  | skip
deriving DecidableEq, Repr

/-- Up to two quotes may stand right before the closing ones. -/
def closing (quote : Char) : List Char → List Char × List Char
  | a :: b :: rest =>
    if a = quote then if b = quote then ([a, b], rest) else ([a], b :: rest) else ([], a :: b :: rest)
  | [a] => if a = quote then ([a], []) else ([], [a])
  | [] => ([], [])

/-- Reads a string in double quotes, or in triples of them if `long` is set. `text` holds what has
been read, in reverse. -/
def basicFrom (long : Bool) (text : List Char) (mode : Mode) : List Char → Option (List Char × List Char)
  | [] => none
  | c :: rest =>
    match mode with
    | .lineEnd =>
      if isBlank c then basicFrom long text .lineEnd rest
      else if c = '\n' then basicFrom long text .skip rest
      else if c = '\r' && rest.head? = some '\n' then basicFrom long text .lineEnd rest
      else none
    | _ =>
      if mode = .skip && (isBlank c || c = '\n') then basicFrom long text .skip rest
      else if c = '\r' then
        if long && rest.head? = some '\n' then
          if mode = .skip then basicFrom long text .skip rest
          else basicFrom long (c :: text) .text rest
        else none
      else if c = '"' then
        if long then
          match rest with
          | '"' :: '"' :: rest =>
            let (quotes, rest) := closing '"' rest
            some (text.reverse ++ quotes, rest)
          | _ => basicFrom long (c :: text) .text rest
        else some (text.reverse, rest)
      else if c = '\\' then
        match rest with
        | [] => none
        | e :: rest =>
          if e = 'x' then
            match rest with
            | a :: b :: rest => do basicFrom long ((← ofHex? [a, b]) :: text) .text rest
            | _ => none
          else if e = 'u' then
            match rest with
            | a :: b :: c :: d :: rest => do
              basicFrom long ((← ofHex? [a, b, c, d]) :: text) .text rest
            | _ => none
          else if e = 'U' then
            match rest with
            | a :: b :: c :: d :: e :: f :: g :: h :: rest => do
              basicFrom long ((← ofHex? [a, b, c, d, e, f, g, h]) :: text) .text rest
            | _ => none
          else if long && isBlank e then basicFrom long text .lineEnd rest
          else if long && e = '\n' then basicFrom long text .skip rest
          else if long && e = '\r' && rest.head? = some '\n' then basicFrom long text .lineEnd rest
          else do basicFrom long ((← unescape? e) :: text) .text rest
      else if isLineChar c || (long && c = '\n') then basicFrom long (c :: text) .text rest
      else none

/-- Reads a string in single quotes, or in triples of them if `long` is set. -/
def literalFrom (long : Bool) (text : List Char) : List Char → Option (List Char × List Char)
  | [] => none
  | c :: rest =>
    if c = '\'' then
      if long then
        match rest with
        | '\'' :: '\'' :: rest =>
          let (quotes, rest) := closing '\'' rest
          some (text.reverse ++ quotes, rest)
        | _ => literalFrom long (c :: text) rest
      else some (text.reverse, rest)
    else if isLineChar c || (long && (c = '\n' || (c = '\r' && rest.head? = some '\n'))) then
      literalFrom long (c :: text) rest
    else none

/-- A line end right behind the opening quotes does not count. -/
def skipFirstLineEnd : List Char → List Char
  | '\n' :: rest => rest
  | '\r' :: '\n' :: rest => rest
  | cs => cs

/-- Reads a string that starts with the first character. -/
def string? : List Char → Option (List Char × List Char)
  | '"' :: '"' :: '"' :: rest => basicFrom true [] .text (skipFirstLineEnd rest)
  | '\'' :: '\'' :: '\'' :: rest => literalFrom true [] (skipFirstLineEnd rest)
  | '"' :: rest => basicFrom false [] .text rest
  | '\'' :: rest => literalFrom false [] rest
  | _ => none

end Toml

end StructTags
