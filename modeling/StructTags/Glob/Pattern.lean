/-!
# Glob patterns

A pattern is matched against a whole path text: `?` stands for one character, `*` for any number
of them, the slash included, `[…]` and `[!…]` for a character in or out of a set, and `**` as a
whole component for any number of components.
-/

namespace StructTags

namespace Glob

/-- A character or a range of characters between brackets. -/
inductive Item where
  | single (c : Char)
  | range (first last : Char)
deriving DecidableEq, Repr

inductive Token where
  | char (c : Char)
  | anyChar
  | anySequence
  | anyRecursive
  | within (items : List Item)
  | except (items : List Item)
deriving DecidableEq, Repr

abbrev Pattern := List Token

inductive FaultKind where
  | wildcards
  | recursiveWildcards
  | invalidRange
deriving DecidableEq, Repr

/-- What is wrong with a pattern, and at which of its characters. -/
structure Fault where
  position : Nat
  kind : FaultKind
deriving DecidableEq, Repr

def FaultKind.message : FaultKind → String
  | .wildcards => "wildcards are either regular `*` or recursive `**`"
  | .recursiveWildcards => "recursive wildcards must form a single path component"
  | .invalidRange => "invalid range pattern"

def Fault.message (f : Fault) : String :=
  "Pattern syntax error near position " ++ toString f.position ++ ": " ++ f.kind.message

/-! ## Reading -/

/-- The items of a set. A dash between two characters makes a range of them. -/
def items : List Char → List Item
  | [] => []
  | a :: '-' :: b :: rest => .range a b :: items rest
  | a :: rest => .single a :: items rest

/-- Cuts a text before its first closing bracket; the bracket is dropped. -/
def closeBracket? : List Char → Option (List Char × List Char)
  | [] => none
  | ']' :: rest => some ([], rest)
  | c :: rest => (closeBracket? rest).map fun (inner, tail) => (c :: inner, tail)

/-- Reads a set behind its opening bracket. Its first character belongs to it even if it is a
closing bracket. -/
def set? : List Char → Option (Token × List Char)
  | '!' :: c :: rest => (closeBracket? rest).map fun (inner, tail) => (.except (items (c :: inner)), tail)
  | '!' :: [] => none
  | c :: rest => (closeBracket? rest).map fun (inner, tail) => (.within (items (c :: inner)), tail)
  | [] => none

/-- Adds a recursive wildcard, one of which is enough in a row unless it is the first token. -/
def addRecursive (done : List Token) : List Token :=
  match done with
  | .anyRecursive :: _ :: _ => done
  | _ => .anyRecursive :: done

theorem length_closeBracket? {cs inner tail : List Char}
    (h : closeBracket? cs = some (inner, tail)) : tail.length < cs.length := by
  fun_induction closeBracket? cs generalizing inner tail with
  | case1 => simp at h
  | case2 rest => simp_all
  | case3 c rest _ ih =>
    obtain ⟨⟨i, t⟩, hr, hc⟩ := Option.map_eq_some_iff.1 h
    simp only [Prod.mk.injEq] at hc
    have := ih hr
    simp only [List.length_cons, ← hc.2]
    omega

theorem length_set? {cs tail : List Char} {t : Token} (h : set? cs = some (t, tail)) :
    tail.length < cs.length := by
  unfold set? at h
  split at h
  case h_1 | h_3 =>
    obtain ⟨⟨i, r⟩, hr, hc⟩ := Option.map_eq_some_iff.1 h
    simp only [Prod.mk.injEq] at hc
    have := length_closeBracket? hr
    simp only [List.length_cons, ← hc.2]
    omega
  all_goals simp at h

/-- Reads a pattern from its character number `position` on, where `done` holds the tokens before
in reverse and `before?` the character before. -/
def parseFrom (position : Nat) (before? : Option Char) (done : List Token) (cs : List Char) :
    Except Fault Pattern :=
  match cs with
  | [] => .ok done.reverse
  | '?' :: rest => parseFrom (position + 1) (some '?') (.anyChar :: done) rest
  | '*' :: '*' :: '*' :: _ => .error ⟨position + 2, .wildcards⟩
  | '*' :: '*' :: rest =>
    if before?.getD '/' ≠ '/' then .error ⟨position - 1, .recursiveWildcards⟩
    else match rest with
      | [] => .ok (addRecursive done).reverse
      | c :: rest =>
        if c = '/' then parseFrom (position + 3) (some '/') (addRecursive done) rest
        else .error ⟨position + 2, .recursiveWildcards⟩
  | '*' :: rest => parseFrom (position + 1) (some '*') (.anySequence :: done) rest
  | '[' :: rest =>
    match _h : set? rest with
    | none => .error ⟨position, .invalidRange⟩
    | some (t, tail) =>
      parseFrom (position + 1 + (rest.length - tail.length)) (some ']') (t :: done) tail
  | c :: rest => parseFrom (position + 1) (some c) (.char c :: done) rest
termination_by cs.length
decreasing_by
  all_goals simp only [List.length_cons]
  all_goals try have := length_set? _h
  all_goals omega

def parse (pattern : String) : Except Fault Pattern :=
  parseFrom 0 none [] pattern.toList

/-! ## Matching -/

def Item.contains (c : Char) : Item → Bool
  | .single d => c = d
  | .range first last => first ≤ c && c ≤ last

/-- Whether a token that stands for exactly one character stands for `c`. -/
def Token.fits (c : Char) : Token → Bool
  | .char d => c = d
  | .anyChar => true
  | .within items => items.any (Item.contains c)
  | .except items => !items.any (Item.contains c)
  | _ => false

/-- The texts left when any number of characters is taken off the front. -/
def suffixes : List Char → List (List Char)
  | [] => [[]]
  | c :: rest => (c :: rest) :: suffixes rest

/-- The texts left when some leading components are taken off the front, or everything. -/
def componentSuffixes : List Char → List (List Char)
  | [] => []
  | c :: rest => if c = '/' then rest :: componentSuffixes rest else componentSuffixes rest

/-- Whether the pattern stands for the whole text. -/
def isMatch : Pattern → List Char → Bool
  | [], cs => cs.isEmpty
  | .anySequence :: ts, cs => (suffixes cs).any (isMatch ts)
  | .anyRecursive :: ts, cs =>
    isMatch ts cs || (componentSuffixes cs).any (isMatch ts) || isMatch ts []
  | _ :: _, [] => false
  | t :: ts, c :: cs => t.fits c && isMatch ts cs

/-- Whether the pattern stands for the path. -/
def Pattern.accepts (p : Pattern) (path : String) : Bool :=
  isMatch p path.toList

end Glob

end StructTags
