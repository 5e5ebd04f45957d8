/-!
# Digits

Numerals in the bases that literals and documents use: reading single digits and digit runs, and
writing numbers out.
-/

namespace StructTags

namespace Digits

/-- The value of a decimal digit. -/
def decimal? (c : Char) : Option Nat :=
  if '0' ≤ c && c ≤ '9' then some (c.toNat - '0'.toNat) else none

/-- The value of a hexadecimal digit of either case. -/
def hex? (c : Char) : Option Nat :=
  if '0' ≤ c && c ≤ '9' then some (c.toNat - '0'.toNat)
  else if 'a' ≤ c && c ≤ 'f' then some (c.toNat - 'a'.toNat + 10)
  else if 'A' ≤ c && c ≤ 'F' then some (c.toNat - 'A'.toNat + 10)
  else none

/-- The value of an octal digit. -/
def octal? (c : Char) : Option Nat :=
  if '0' ≤ c && c ≤ '7' then some (c.toNat - '0'.toNat) else none

/-- The value of a binary digit. -/
def binary? (c : Char) : Option Nat :=
  if '0' ≤ c && c ≤ '1' then some (c.toNat - '0'.toNat) else none

/-- The number written by `digits`, most significant first. -/
def value (base : Nat) (digits : List Nat) : Nat :=
  digits.foldl (fun n d => n * base + d) 0

/-- Reads a non-empty run of digits. -/
def read? (base : Nat) (digit? : Char → Option Nat) (cs : List Char) : Option Nat :=
  if cs.isEmpty then none else (cs.mapM digit?).map (value base)

/-- The number in the given base, without leading zeros. -/
def write (base n : Nat) : List Char :=
  Nat.toDigits base n

/-- The number in the given base, filled with zeros up to `width`. -/
def writePadded (base width n : Nat) : List Char :=
  let digits := write base n
  List.replicate (width - digits.length) '0' ++ digits

/-- Below this bound a number fits in 64 bits. -/
def word64 : Nat := Nat.pow 2 64

/-- Numbers from here on round to infinity as doubles. -/
def doubleLimit : Nat := Nat.pow 2 1024 - Nat.pow 2 970

/-- Whether `m * 10 ^ e` is too large for a double. The number of digits of `m` decides all cases
but those around `10 ^ 309`. -/
def exceedsDouble (m : Nat) (e : Int) : Bool :=
  if m = 0 then false
  else
    let size : Int := e + (write 10 m).length
    if size > 320 then true
    else if size < 300 then false
    else if e ≥ 0 then decide (m * Nat.pow 10 e.toNat ≥ doubleLimit)
    else decide (m ≥ doubleLimit * Nat.pow 10 (-e).toNat)

end Digits

end StructTags
