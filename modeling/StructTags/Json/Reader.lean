import StructTags.Json.Value
import StructTags.Text.Digits

/-!
# Reading JSON text

A text is first cut into tokens, and the tokens are then read with a stack of the lists and
records that are still open, one step a token. What a reader of the document never looks at need
only be well formed: a string with half of a surrogate pair is a leaf without a meaning, and a
number too large for a double is one as well.
-/

namespace StructTags

namespace Json

/-! ## Tokens -/

inductive Token where
  | openList
  | closeList
  | openRecord
  | closeRecord
  | comma
  | colon
  /-- A string, `none` if it holds half of a surrogate pair. -/
  | str (s : Option String)
  /-- A number or one of the three words. -/
  | word (m : Meaning)
deriving DecidableEq, Repr

def isBlank (c : Char) : Bool :=
  c = ' ' || c = '\n' || c = '\t' || c = '\r'

/-- The code unit written by four hexadecimal digits. -/
def codeUnit? (a b c d : Char) : Option Nat :=
  Digits.read? 16 Digits.hex? [a, b, c, d]

/-- The character that a letter stands for after a backslash. -/
def unescape? (c : Char) : Option Char :=
  if c = '"' then some '"'
  else if c = '\\' then some '\\'
  else if c = '/' then some '/'
  else if c = 'b' then some '\x08'
  else if c = 'f' then some '\x0c'
  else if c = 'n' then some '\n'
  else if c = 'r' then some '\r'
  else if c = 't' then some '\t'
  else none

def isHighSurrogate (n : Nat) : Bool := 0xD800 ≤ n && n ≤ 0xDBFF

def isLowSurrogate (n : Nat) : Bool := 0xDC00 ≤ n && n ≤ 0xDFFF

/-- A character of a string as it is written: as itself or a short escape, or as a UTF-16 code
unit. -/
inductive Piece where
  | char (c : Char)
  | unit (n : Nat)
deriving DecidableEq, Repr

/-- Reads a string after its opening quote, up to what follows the closing one. -/
def pieces? : List Char → Option (List Piece × List Char)
  | [] => none
  | '"' :: rest => some ([], rest)
  | '\\' :: 'u' :: a :: b :: c :: d :: rest =>
    match codeUnit? a b c d, pieces? rest with
    | some n, some (tail, rest) => some (.unit n :: tail, rest)
    | _, _ => none
  | '\\' :: c :: rest =>
    match unescape? c, pieces? rest with
    | some c, some (tail, rest) => some (.char c :: tail, rest)
    | _, _ => none
  | c :: rest =>
    if c.toNat < 0x20 then none
    else match pieces? rest with
      | some (tail, rest) => some (.char c :: tail, rest)
      | none => none

/-- The text of a string, in which every surrogate must have its partner. -/
def join? : List Piece → Option (List Char)
  | [] => some []
  | .char c :: rest => (join? rest).map (c :: ·)
  | .unit high :: .unit low :: rest =>
    if isHighSurrogate high then
      if isLowSurrogate low then
        (join? rest).map (Char.ofNat (0x10000 + (high - 0xD800) * 0x400 + (low - 0xDC00)) :: ·)
      else none
    else if isLowSurrogate high then none
    else (join? (.unit low :: rest)).map (Char.ofNat high :: ·)
  | .unit n :: rest =>
    if isHighSurrogate n || isLowSurrogate n then none
    else (join? rest).map (Char.ofNat n :: ·)

/-- The digits at the front of a text, and the rest. -/
def digitRun (cs : List Char) : List Char × List Char :=
  (cs.takeWhile Char.isDigit, cs.dropWhile Char.isDigit)

/-- The integer part of a number: a single zero, or digits that do not start with one. -/
def integerPart? : List Char → Option (List Char × List Char)
  | '0' :: rest =>
    match rest with
    | c :: _ => if c.isDigit then none else some (['0'], rest)
    | [] => some (['0'], rest)
  | c :: rest =>
    if c.isDigit then some (c :: rest.takeWhile Char.isDigit, rest.dropWhile Char.isDigit)
    else none
  | [] => none

/-- The digits after a decimal point, if there is one. -/
def fraction? : List Char → Option (Option (List Char) × List Char)
  | '.' :: rest =>
    let (digits, rest) := digitRun rest
    if digits.isEmpty then none else some (some digits, rest)
  | rest => some (none, rest)

/-- The sign at the front of a text, and the rest. -/
def sign : List Char → Int × List Char
  | '-' :: rest => (-1, rest)
  | '+' :: rest => (1, rest)
  | rest => (1, rest)

/-- The exponent, if there is one. -/
def exponent? : List Char → Option (Option Int × List Char)
  | [] => some (none, [])
  | c :: rest =>
    if c = 'e' ∨ c = 'E' then
      match Digits.read? 10 Digits.decimal? (digitRun (sign rest).2).1 with
      | none => none
      | some n => some (some ((sign rest).1 * n), (digitRun (sign rest).2).2)
    else some (none, c :: rest)

/-- What a number means: its value if it is an unsigned integer of 64 bits. -/
def numberMeaning (negative : Bool) (integer : List Char) (fraction : Option (List Char))
    (exponent : Option Int) : Meaning :=
  let digits := integer ++ fraction.getD []
  let m := (Digits.read? 10 Digits.decimal? digits).getD 0
  if !negative && fraction.isNone && exponent.isNone && m < Digits.word64 then .natural m
  else if Digits.exceedsDouble m (exponent.getD 0 - (fraction.getD []).length) then .foreign
  else .number

def number? (cs : List Char) : Option (Meaning × List Char) := do
  let (negative, cs) := match cs with
    | '-' :: rest => (true, rest)
    | rest => (false, rest)
  let (integer, cs) ← integerPart? cs
  let (fraction, cs) ← fraction? cs
  let (exponent, cs) ← exponent? cs
  return (numberMeaning negative integer fraction exponent, cs)

/-- The token at the front of a text that does not start with a blank, and the rest. -/
def token? : List Char → Option (Token × List Char)
  | '[' :: rest => some (.openList, rest)
  | ']' :: rest => some (.closeList, rest)
  | '{' :: rest => some (.openRecord, rest)
  | '}' :: rest => some (.closeRecord, rest)
  | ',' :: rest => some (.comma, rest)
  | ':' :: rest => some (.colon, rest)
  | '"' :: rest => (pieces? rest).map fun (ps, rest) => (.str ((join? ps).map String.ofList), rest)
  | 'n' :: 'u' :: 'l' :: 'l' :: rest => some (.word .null, rest)
  | 't' :: 'r' :: 'u' :: 'e' :: rest => some (.word (.flag true), rest)
  | 'f' :: 'a' :: 'l' :: 's' :: 'e' :: rest => some (.word (.flag false), rest)
  | cs => (number? cs).map fun (m, rest) => (.word m, rest)

/-! ## Every token takes at least one character -/

theorem length_digitRun_le (cs : List Char) : (digitRun cs).2.length ≤ cs.length :=
  (List.dropWhile_sublist _).length_le

theorem length_sign_le (cs : List Char) : (sign cs).2.length ≤ cs.length := by
  unfold sign
  split <;> simp

theorem length_pieces? {cs rest : List Char} {ps : List Piece}
    (h : pieces? cs = some (ps, rest)) : rest.length < cs.length := by
  fun_induction pieces? cs generalizing ps rest <;> simp_all only [List.length_cons, reduceCtorEq] <;>
    grind

theorem length_integerPart? {cs ds rest : List Char} (h : integerPart? cs = some (ds, rest)) :
    rest.length < cs.length := by
  have hle := fun cs => (List.dropWhile_sublist (l := cs) Char.isDigit).length_le
  unfold integerPart? at h
  grind

theorem length_fraction? {cs rest : List Char} {ds : Option (List Char)}
    (h : fraction? cs = some (ds, rest)) : rest.length ≤ cs.length := by
  have hle := length_digitRun_le
  unfold fraction? at h
  grind

theorem length_exponent? {cs rest : List Char} {e : Option Int}
    (h : exponent? cs = some (e, rest)) : rest.length ≤ cs.length := by
  unfold exponent? at h
  split at h
  · grind
  · next c tail =>
    have := length_sign_le tail
    have := length_digitRun_le (sign tail).2
    grind

theorem length_number? {cs rest : List Char} {m : Meaning} (h : number? cs = some (m, rest)) :
    rest.length < cs.length := by
  unfold number? at h
  simp only [Option.bind_eq_bind, Option.bind_eq_some_iff] at h
  obtain ⟨⟨_, _⟩, h₁, ⟨_, _⟩, h₂, ⟨_, _⟩, h₃, h⟩ := h
  have := length_integerPart? h₁
  have := length_fraction? h₂
  have := length_exponent? h₃
  grind

theorem length_token? {cs rest : List Char} {t : Token} (h : token? cs = some (t, rest)) :
    rest.length < cs.length := by
  unfold token? at h
  split at h
  case h_7 =>
    obtain ⟨⟨s, r⟩, hs, h⟩ := Option.map_eq_some_iff.1 h
    have := length_pieces? hs
    grind
  case h_11 =>
    obtain ⟨⟨m, r⟩, hm, h⟩ := Option.map_eq_some_iff.1 h
    have := length_number? hm
    grind
  all_goals grind

/-- The tokens of a text, between which blanks may stand. -/
def tokens? (cs : List Char) : Option (List Token) :=
  match cs with
  | [] => some []
  | c :: rest =>
    if isBlank c then tokens? rest
    else match _h : token? (c :: rest) with
      | none => none
      | some (t, rest') => (tokens? rest').map (t :: ·)
termination_by cs.length
decreasing_by
  · simp
  · exact length_token? _h

/-! ## Values -/

/-- A list or a record that is still open, its parts so far in reverse. -/
inductive Frame where
  | list (done : List Document)
  | record (done : List (Leaf × Document)) (key : Leaf)

/-- What may come next. -/
inductive State where
  /-- A value. -/
  | value (stack : List Frame)
  /-- The first item of a list, or its end. -/
  | itemOrEnd (stack : List Frame)
  /-- A key. -/
  | key (done : List (Leaf × Document)) (stack : List Frame)
  /-- The first key of a record, or its end. -/
  | keyOrEnd (stack : List Frame)
  /-- The colon after a key. -/
  | colon (done : List (Leaf × Document)) (key : Leaf) (stack : List Frame)
  /-- A comma or the end of the innermost list. -/
  | listNext (done : List Document) (stack : List Frame)
  /-- A comma or the end of the innermost record. -/
  | recordNext (done : List (Leaf × Document)) (stack : List Frame)
  /-- Nothing. -/
  | finished (d : Document)

/-- Hands a complete value to what it is a part of. -/
def deliver (d : Document) : List Frame → State
  | [] => .finished d
  | .list done :: stack => .listNext (d :: done) stack
  | .record done key :: stack => .recordNext ((key, d) :: done) stack

def keyOf (s : Option String) : Leaf :=
  s.elim Leaf.unreadable Leaf.ofText

def beginValue (stack : List Frame) : Token → Option State
  | .openList => some (.itemOrEnd stack)
  | .openRecord => some (.keyOrEnd stack)
  | .str s => some (deliver (.leaf (keyOf s)) stack)
  | .word m => some (deliver (.leaf (.ofMeaning m)) stack)
  | _ => none

def step : State → Token → Option State
  | .value stack, t => beginValue stack t
  | .itemOrEnd stack, .closeList => some (deliver (.list []) stack)
  | .itemOrEnd stack, t => beginValue (.list [] :: stack) t
  | .key done stack, .str s => some (.colon done (keyOf s) stack)
  | .keyOrEnd stack, .closeRecord => some (deliver (.record []) stack)
  | .keyOrEnd stack, .str s => some (.colon [] (keyOf s) stack)
  | .colon done key stack, .colon => some (.value (.record done key :: stack))
  | .listNext done stack, .comma => some (.value (.list done :: stack))
  | .listNext done stack, .closeList => some (deliver (.list done.reverse) stack)
  | .recordNext done stack, .comma => some (.key done stack)
  | .recordNext done stack, .closeRecord => some (deliver (.record done.reverse) stack)
  | _, _ => none

/-- How deep a JSON text may be nested where it is looked at. -/
def maxDepth : Nat := 127

/-- The document that a text of exactly one JSON value is. -/
def read? (text : List Char) : Option Document := do
  match ← (← tokens? text).foldlM step (.value []) with
  | .finished d => some d
  | _ => none

end Json

end StructTags
