import StructTags.Text.Digits
import StructTags.Text.Utf8

/-!
# Quoted literals

A field's tag stands in the source as a literal: between backquotes everything is taken as it is
but for carriage returns, between double or single quotes a backslash starts an escape. Escapes
name bytes as well as characters, so the body of a literal is decoded into bytes first, and bytes
that are no UTF-8 become U+FFFD.
-/

namespace StructTags

namespace Literal

/-- Why a literal cannot be decoded. -/
inductive Fault where
  | tooShort
  | mismatchedQuotes
  | innerBackquote
  | newline
  | notOneCharacter
  | notQuoted
  | unescapedQuote
  | trailingBackslash
  | unknownEscape (c : Char)
  | shortHex
  | invalidHex
  | invalidCodePoint (n : Nat)
  | shortOctal
  | invalidOctal
  | octalRange
deriving DecidableEq, Repr

def Fault.message : Fault → String
  | .tooShort => "literal too short"
  | .mismatchedQuotes => "mismatched quotes"
  | .innerBackquote => "backquote inside raw string"
  | .newline => "newline in quoted string"
  | .notOneCharacter => "character literal must hold exactly one character"
  | .notQuoted => "not a quoted literal"
  | .unescapedQuote => "unescaped quote"
  | .trailingBackslash => "trailing backslash"
  | .unknownEscape c => "unknown escape sequence \\" ++ String.singleton c
  | .shortHex => "short hex escape"
  | .invalidHex => "invalid hex escape"
  | .invalidCodePoint n => "invalid code point 0x" ++ String.ofList (Digits.write 16 n)
  | .shortOctal => "short octal escape"
  | .invalidOctal => "invalid octal escape"
  | .octalRange => "octal escape out of range"

/-! ## Escapes -/

/-- The number written by the `width` hexadecimal digits that the text must start with. -/
def hexRun (width : Nat) (cs : List Char) : Except Fault Nat :=
  if Utf8.size cs < width then .error .shortHex
  else match (cs.take width).mapM Digits.hex? with
    | none => .error .invalidHex
    | some digits => .ok (Digits.value 16 digits)

/-- The bytes of the character with code point `n`. -/
def codePoint (n : Nat) : Except Fault (List Utf8.Byte) :=
  if n.isValidChar then .ok (String.utf8EncodeChar (Char.ofNat n))
  else .error (.invalidCodePoint n)

/-- The byte written by three octal digits, the first of which is `c`. -/
def octalRun (c : Char) (cs : List Char) : Except Fault (List Utf8.Byte) :=
  if Utf8.size cs < 2 then .error .shortOctal
  else match (c :: cs.take 2).mapM Digits.octal? with
    | none => .error .invalidOctal
    | some digits =>
      let n := Digits.value 8 digits
      if n ≤ 0xFF then .ok [UInt8.ofNat n] else .error .octalRange

/-- The byte that a letter stands for after a backslash. -/
def shortEscape? (c : Char) : Option Utf8.Byte :=
  if c = 'a' then some 0x07
  else if c = 'b' then some 0x08
  else if c = 'f' then some 0x0C
  else if c = 'n' then some 0x0A
  else if c = 'r' then some 0x0D
  else if c = 't' then some 0x09
  else if c = 'v' then some 0x0B
  else if c = '\\' then some 0x5C
  else none

/-- The character with which an unknown escape is reported: the first byte of `c`. -/
def leadChar (c : Char) : Char :=
  match String.utf8EncodeChar c with
  | [] => c
  | b :: _ => Char.ofNat b.toNat

/-- The bytes that an escape stands for, where `c` follows the backslash and `rest` follows `c`,
and how many characters of `rest` belong to it. -/
def escape (quote c : Char) (rest : List Char) : Except Fault (List Utf8.Byte × Nat) :=
  match shortEscape? c with
  | some b => .ok ([b], 0)
  | none =>
    if c = '\'' ∨ c = '"' then
      if c = quote then .ok (String.utf8EncodeChar c, 0) else .error (.unknownEscape c)
    else if c = 'x' then do
      return ([UInt8.ofNat (← hexRun 2 rest)], 2)
    else if c = 'u' then do
      return (← codePoint (← hexRun 4 rest), 4)
    else if c = 'U' then do
      return (← codePoint (← hexRun 8 rest), 8)
    else if (Digits.octal? c).isSome then do
      return (← octalRun c rest, 2)
    else .error (.unknownEscape (leadChar c))

/-- The bytes of the body of an interpreted literal. -/
def bodyBytes (quote : Char) (cs : List Char) : Except Fault (List Utf8.Byte) :=
  match cs with
  | [] => .ok []
  | c :: rest =>
    if c = quote then .error .unescapedQuote
    else if c ≠ '\\' then (String.utf8EncodeChar c ++ ·) <$> bodyBytes quote rest
    else match rest with
      | [] => .error .trailingBackslash
      | e :: rest =>
        match escape quote e rest with
        | .error fault => .error fault
        | .ok (bytes, used) => (bytes ++ ·) <$> bodyBytes quote (rest.drop used)
termination_by cs.length
decreasing_by
  · simp
  · simp only [List.length_cons, List.length_drop]
    omega

/-! ## Literals -/

/-- Decodes what stands between backquotes. -/
def decodeRaw (body : List Char) : Except Fault (List Char) :=
  if '\x60' ∈ body then .error .innerBackquote
  else .ok (body.filter (· ≠ '\r'))

/-- Decodes what stands between quotes that allow escapes. -/
def decodeInterpreted (quote : Char) (body : List Char) : Except Fault (List Char) :=
  if '\n' ∈ body then .error .newline
  else Utf8.decodeLossy <$> bodyBytes quote body

/-- The text that a quoted literal stands for. Quotes are ASCII, so a literal that starts with any
other character cannot end with what it starts with. -/
def decode (cs : List Char) : Except Fault (List Char) :=
  match cs with
  | [] => .error .tooShort
  | quote :: rest =>
    if Utf8.size cs < 2 then .error .tooShort
    else if rest.getLast? ≠ some quote ∨ 0x80 ≤ quote.toNat then .error .mismatchedQuotes
    else
      let body := rest.dropLast
      if quote = '\x60' then decodeRaw body
      else if quote = '"' then decodeInterpreted quote body
      else if quote = '\'' then do
        let text ← decodeInterpreted quote body
        if text.length = 1 then .ok text else .error .notOneCharacter
      else .error .notQuoted

end Literal

/-- The text that a quoted literal stands for. -/
def unquote (literal : String) : Except Literal.Fault String :=
  String.ofList <$> Literal.decode literal.toList

end StructTags
