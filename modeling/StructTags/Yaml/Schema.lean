import StructTags.Document
import StructTags.Text.Digits
import StructTags.Yaml.Token

/-!
# What YAML scalars mean

A plain scalar may stand for null, a flag or a number; everything else is a text. A tag of the
standard set fixes what a scalar stands for.
-/

namespace StructTags

namespace Yaml

namespace Schema

def isNull (cs : List Char) : Bool :=
  ["null", "Null", "NULL", "~"].contains (String.ofList cs)

def flag? (cs : List Char) : Option Bool :=
  let s := String.ofList cs
  if ["true", "True", "TRUE"].contains s then some true
  else if ["false", "False", "FALSE"].contains s then some false
  else none

/-! ## Integers -/

/-- Digits in one of the bases with a mark of their own. -/
def marked? : List Char → Option Nat
  | '0' :: 'x' :: rest => Digits.read? 16 Digits.hex? rest
  | '0' :: 'o' :: rest => Digits.read? 8 Digits.octal? rest
  | '0' :: 'b' :: rest => Digits.read? 2 Digits.binary? rest
  | _ => none

/-- Decimal digits without a zero in front of others. -/
def decimal? (cs : List Char) : Option Nat :=
  if cs.head? = some '0' && cs.length > 1 then none else Digits.read? 10 Digits.decimal? cs

/-- The magnitude of an integer without its sign. -/
def magnitude? (cs : List Char) : Option Nat :=
  marked? cs <|> decimal? cs

/-- The sign, true for a minus, and what follows it. -/
def signed : List Char → Bool × List Char
  | '-' :: rest => (true, rest)
  | '+' :: rest => (false, rest)
  | cs => (false, cs)

/-- What an integer means. Those of more than 64 bits mean nothing, and those of more than 128 are no
integers. -/
def integer? (cs : List Char) : Option Meaning := do
  let (negative, cs) := signed cs
  let n ← magnitude? cs
  if negative then
    if n = 0 then some (.natural 0)
    else if n ≤ Nat.pow 2 63 then some .number
    else if n ≤ Nat.pow 2 127 then some .foreign else none
  else
    if n < Digits.word64 then some (.natural n)
    else if n < Nat.pow 2 128 then some .foreign else none

/-! ## Fractions -/

/-- The exponent behind a number, if there is one. -/
def exponent? : List Char → Option Int
  | [] => some 0
  | c :: rest => do
    if c ≠ 'e' && c ≠ 'E' then none
    let (negative, digits) := signed rest
    let n ← Digits.read? 10 Digits.decimal? digits
    return if negative then -n else n

/-- Whether a decimal fraction with an exponent is written that fits in a double. -/
def isFinite (cs : List Char) : Bool :=
  let whole := cs.takeWhile Char.isDigit
  let rest := cs.dropWhile Char.isDigit
  let (fraction, rest) := match rest with
    | '.' :: rest => (rest.takeWhile Char.isDigit, rest.dropWhile Char.isDigit)
    | _ => ([], rest)
  match Digits.read? 10 Digits.decimal? (whole ++ fraction), exponent? rest with
  | some n, some e => !Digits.exceedsDouble n (e - fraction.length)
  | _, _ => false

/-- Whether a number is written that may have a fraction or be infinite. -/
def isFloat (cs : List Char) : Bool :=
  let s := String.ofList cs
  [".nan", ".NaN", ".NAN"].contains s
    || [".inf", ".Inf", ".INF"].contains (String.ofList (signed cs).2)
    || isFinite (signed cs).2

/-- Digits behind a zero are a text. -/
def isZeroLed (cs : List Char) : Bool :=
  match (signed cs).2 with
  | '0' :: rest => !rest.isEmpty && rest.all Char.isDigit
  | _ => false

/-! ## Leaves -/

/-- What a plain scalar without a tag stands for. -/
def plainMeaning (cs : List Char) : Meaning :=
  if cs.isEmpty || isNull cs then .null
  else match flag? cs with
    | some b => .flag b
    | none => match integer? cs with
      | some m => m
      | none => if !isZeroLed cs && isFloat cs then .number else .text

/-- The tags of the standard set that fix a meaning. -/
inductive StandardTag where
  | null
  | flag
  | integer
  | float
deriving DecidableEq, Repr

def StandardTag.ofTag? (tag : String) : Option StandardTag :=
  if tag = "tag:yaml.org,2002:null" then some .null
  else if tag = "tag:yaml.org,2002:bool" then some .flag
  else if tag = "tag:yaml.org,2002:int" then some .integer
  else if tag = "tag:yaml.org,2002:float" then some .float
  else none

/-- What a scalar with a standard tag stands for, which is nothing if it does not fit the tag. -/
def StandardTag.meaning (t : StandardTag) (cs : List Char) : Meaning :=
  match t with
  | .null => if isNull cs then .null else .foreign
  | .flag => match flag? cs with
    | some b => .flag b
    | none => .foreign
  | .integer => (integer? cs).getD .foreign
  | .float => if isFloat cs then .number else .foreign

/-- Where a natural number is wanted there must be no minus sign, not even before a zero. -/
def withoutMinus (cs : List Char) (m : Meaning) : Meaning :=
  if (signed cs).1 && m = .natural 0 then .number else m

/-- What a scalar is where a flag or a number is wanted: a plain one by itself, and a literal one by
its tag. -/
def valueOf (tag? : Option String) (style : Style) (cs : List Char) : Meaning :=
  match style, tag? >>= StandardTag.ofTag? with
  | .plain, _ => withoutMinus cs (plainMeaning cs)
  | .literal, some .flag => StandardTag.flag.meaning cs
  | .literal, some .integer => withoutMinus cs (StandardTag.integer.meaning cs)
  | _, _ => .text

/-- What a scalar is where nothing in particular is wanted. -/
def kindOf (tag? : Option String) (style : Style) (cs : List Char) : Meaning :=
  match tag? with
  | none => if style = .plain then plainMeaning cs else .text
  | some tag => match StandardTag.ofTag? tag with
    | some .null => if style = .plain then StandardTag.null.meaning cs else .foreign
    | some t => t.meaning cs
    | none => .text

def leaf (tag? : Option String) (style : Style) (text : String) : Leaf where
  text? := some text
  value := valueOf tag? style text.toList
  kind := kindOf tag? style text.toList

end Schema

end Yaml

end StructTags
