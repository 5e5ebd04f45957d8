/-!
# UTF-8

Characters as bytes and back. `Utf8.scan` reads a byte sequence as a list of characters in which
`none` stands for a maximal piece that is no part of any well-formed character; `decode?` accepts
only sequences without such a piece, and `decodeLossy` puts the replacement character in its
place.
-/

namespace StructTags

namespace Utf8

abbrev Byte := UInt8

/-- The number of bytes of a text. -/
def size : List Char → Nat
  | [] => 0
  | c :: rest => c.utf8Size + size rest

@[simp] theorem size_append (xs ys : List Char) : size (xs ++ ys) = size xs + size ys := by
  induction xs with
  | nil => simp [size]
  | cons c rest ih =>
    simp only [List.cons_append, size, ih]
    omega

def encode (cs : List Char) : List Byte :=
  cs.flatMap String.utf8EncodeChar

/-- A byte `10xxxxxx`, which can only continue a character. -/
def isContinuation (b : Byte) : Bool :=
  0x80 ≤ b && b ≤ 0xBF

/-- How many bytes a character has that starts with `lead`, or 0 if none does. -/
def width (lead : Byte) : Nat :=
  if lead ≤ 0x7F then 1
  else if 0xC2 ≤ lead && lead ≤ 0xDF then 2
  else if 0xE0 ≤ lead && lead ≤ 0xEF then 3
  else if 0xF0 ≤ lead && lead ≤ 0xF4 then 4
  else 0

/-- Whether `next` may follow `lead`: a continuation byte, with the ranges narrowed after the four
leads whose full range holds overlong forms, surrogates or values past U+10FFFF. -/
def secondFits (lead next : Byte) : Bool :=
  if lead = 0xE0 then 0xA0 ≤ next && next ≤ 0xBF
  else if lead = 0xED then 0x80 ≤ next && next ≤ 0x9F
  else if lead = 0xF0 then 0x90 ≤ next && next ≤ 0xBF
  else if lead = 0xF4 then 0x80 ≤ next && next ≤ 0x8F
  else isContinuation next

/-- The low six bits of a continuation byte. -/
def payload (b : Byte) : Nat :=
  b.toNat % 64

/-- Reads the bytes character by character; `none` marks a piece that is not well formed. Such a
piece is as long as it still begins some character, and one byte long otherwise. -/
def scan : List Byte → List (Option Char)
  | [] => []
  | a :: rest =>
    if width a = 1 then some (Char.ofNat a.toNat) :: scan rest
    else if width a = 0 then none :: scan rest
    else match rest with
      | [] => [none]
      | b :: rest =>
        if !secondFits a b then none :: scan (b :: rest)
        else if width a = 2 then
          some (Char.ofNat (a.toNat % 32 * 64 + payload b)) :: scan rest
        else match rest with
          | [] => [none]
          | c :: rest =>
            if !isContinuation c then none :: scan (c :: rest)
            else if width a = 3 then
              some (Char.ofNat (a.toNat % 16 * 4096 + payload b * 64 + payload c)) :: scan rest
            else match rest with
              | [] => [none]
              | d :: rest =>
                if !isContinuation d then none :: scan (d :: rest)
                else
                  some (Char.ofNat (a.toNat % 8 * 262144 + payload b * 4096 + payload c * 64
                    + payload d)) :: scan rest

/-- U+FFFD, which stands for bytes that are no text. -/
def replacement : Char := '�'

def decodeLossy (bytes : List Byte) : List Char :=
  (scan bytes).map (·.getD replacement)

/-- The text of a well-formed byte sequence. -/
def decode? (bytes : List Byte) : Option (List Char) :=
  (scan bytes).mapM id

end Utf8

end StructTags
