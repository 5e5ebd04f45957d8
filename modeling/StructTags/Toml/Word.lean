import StructTags.Document
import StructTags.Text.Digits

/-!
# TOML words

Values that are written without quotes or brackets: flags, numbers and times.
-/

namespace StructTags

namespace Toml

/-! ## Numbers -/

/-- Digits of a base, with single underscores between them. -/
def digits? (digit? : Char → Option Nat) : List Char → Option (List Nat)
  | [] => none
  | [c] => (digit? c).map ([·])
  | c :: '_' :: rest => do return (← digit? c) :: (← digits? digit? rest)
  | c :: rest => do return (← digit? c) :: (← digits? digit? rest)

/-- The sign, true for a minus, and what follows it. -/
def signed : List Char → Bool × List Char
  | '-' :: rest => (true, rest)
  | '+' :: rest => (false, rest)
  | cs => (false, cs)

/-- Decimal digits without a zero in front of others. -/
def decimal? (cs : List Char) : Option (List Nat) :=
  if cs.head? = some '0' && cs.length > 1 then none else digits? Digits.decimal? cs

/-- The magnitude of an integer, which has a sign only in base ten. -/
def integer? (cs : List Char) : Option (Bool × Nat) :=
  match cs with
  | '0' :: 'x' :: rest => (digits? Digits.hex? rest).map fun ds => (false, Digits.value 16 ds)
  | '0' :: 'o' :: rest => (digits? Digits.octal? rest).map fun ds => (false, Digits.value 8 ds)
  | '0' :: 'b' :: rest => (digits? Digits.binary? rest).map fun ds => (false, Digits.value 2 ds)
  | _ =>
    let (negative, rest) := signed cs
    (decimal? rest).map fun ds => (negative, Digits.value 10 ds)

/-- What an integer means; one of more than 128 bits is refused. -/
def integerMeaning? (negative : Bool) (n : Nat) : Option Meaning :=
  if negative then if n ≤ Nat.pow 2 127 then some .number else none
  else if n < Digits.word64 then some (.natural n)
  else if n < Nat.pow 2 128 then some .number
  else none

def isExponentMark (c : Char) : Bool :=
  c = 'e' || c = 'E'

/-- Whether a number with a fraction, an exponent or both is written that fits in a double. -/
def isFloat (cs : List Char) : Bool :=
  let cs := (signed cs).2
  let mantissa := cs.takeWhile (!isExponentMark ·)
  let exponent := cs.dropWhile (!isExponentMark ·)
  let whole := mantissa.takeWhile (· ≠ '.')
  let fraction := mantissa.dropWhile (· ≠ '.')
  let fraction? := if fraction.isEmpty then some [] else digits? Digits.decimal? fraction.tail
  let exponent? : Option Int :=
    if exponent.isEmpty then some 0
    else
      let (negative, ds) := signed exponent.tail
      (digits? Digits.decimal? ds).map fun ds =>
        if negative then -(Digits.value 10 ds : Int) else Digits.value 10 ds
  match decimal? whole, fraction?, exponent? with
  | some whole, some fraction, some e =>
    (!exponent.isEmpty || !fraction.isEmpty)
      && !Digits.exceedsDouble (Digits.value 10 (whole ++ fraction)) (e - fraction.length)
  | _, _, _ => false

/-- Infinity, or what is no number, with or without a sign. -/
def isSpecial (cs : List Char) : Bool :=
  let cs := (signed cs).2
  cs = "inf".toList || cs = "nan".toList

/-! ## Times -/

/-- The number that two digits write. -/
def pair? (a b : Char) : Option Nat :=
  Digits.read? 10 Digits.decimal? [a, b]

def isLeapYear (year : Nat) : Bool :=
  year % 4 = 0 && (year % 100 ≠ 0 || year % 400 = 0)

def daysIn (year month : Nat) : Nat :=
  if month = 2 then if isLeapYear year then 29 else 28
  else if month = 4 || month = 6 || month = 9 || month = 11 then 30
  else 31

/-- What follows a date of the form `1979-05-27`. -/
def afterDate? : List Char → Option (List Char)
  | a :: b :: c :: d :: '-' :: e :: f :: '-' :: g :: h :: rest => do
    let year ← Digits.read? 10 Digits.decimal? [a, b, c, d]
    let month ← pair? e f
    let day ← pair? g h
    if 1 ≤ month && month ≤ 12 && 1 ≤ day && day ≤ daysIn year month then some rest else none
  | _ => none

/-- What follows the seconds and their fraction, if there are any. -/
def afterSeconds? : List Char → Option (List Char)
  | ':' :: a :: b :: rest => do
    if 60 < (← pair? a b) then none
    match rest with
    | '.' :: rest =>
      if rest.head?.any Char.isDigit then some (rest.dropWhile Char.isDigit) else none
    | _ => some rest
  | ':' :: _ => none
  | cs => some cs

/-- What follows a time of the form `07:32:00`, the seconds being optional. -/
def afterTime? : List Char → Option (List Char)
  | a :: b :: ':' :: c :: d :: rest => do
    if 23 < (← pair? a b) || 59 < (← pair? c d) then none
    afterSeconds? rest
  | _ => none

/-- Whether an offset from universal time is written, which may also be left out. -/
def isOffset : List Char → Bool
  | [] | ['Z'] | ['z'] => true
  | [sign, a, b, ':', c, d] =>
    (sign = '+' || sign = '-') && (pair? a b).any (· ≤ 23) && (pair? c d).any (· ≤ 59)
  | _ => false

/-- Whether a date, a time or both are written. -/
def isTime (cs : List Char) : Bool :=
  match afterDate? cs with
  | some [] => true
  | some (c :: rest) =>
    (c = 'T' || c = 't' || c = ' ') && (afterTime? rest).any isOffset
  | none => afterTime? cs = some []

/-! ## Words -/

/-- The entry under which the text of a time is found. -/
def timeKey : String := "$__toml_private_datetime"

/-- The value that a word stands for. -/
def word? (cs : List Char) : Option Document :=
  if cs = "true".toList then some (.leaf (.ofMeaning (.flag true)))
  else if cs = "false".toList then some (.leaf (.ofMeaning (.flag false)))
  else match integer? cs with
    | some (negative, n) => (integerMeaning? negative n).map fun m => .leaf (.ofMeaning m)
    | none =>
      if isSpecial cs || isFloat cs then some (.leaf (.ofMeaning .number))
      else if isTime cs then some (.record [(.ofText timeKey, .ofText (String.ofList cs))])
      else none

end Toml

end StructTags
