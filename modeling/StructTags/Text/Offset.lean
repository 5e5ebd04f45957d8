import StructTags.Text.Utf8

/-!
# Byte offsets

Positions in a source are byte offsets into its UTF-8 form. A text can be cut at an offset only
if the offset is a character boundary, that is, if it lies inside the text and not inside a
character.
-/

namespace StructTags

namespace Offset

/-- Cuts a text after `n` bytes. -/
def cut? : Nat → List Char → Option (List Char × List Char)
  | 0, cs => some ([], cs)
  | _ + 1, [] => none
  | n + 1, c :: cs =>
    if c.utf8Size ≤ n + 1 then
      (cut? (n + 1 - c.utf8Size) cs).map fun (front, back) => (c :: front, back)
    else none

/-- Whether a text can be cut after `n` bytes. -/
def isBoundary (n : Nat) (cs : List Char) : Bool :=
  (cut? n cs).isSome

/-- The part of a text between two offsets. -/
def slice? (start stop : Nat) (cs : List Char) : Option (List Char) := do
  let (front, _) ← cut? stop cs
  let (_, inner) ← cut? start front
  return inner

/-- The text with the part between two offsets replaced. -/
def splice? (start stop : Nat) (replacement cs : List Char) : Option (List Char) := do
  let (front, back) ← cut? stop cs
  let (before, _) ← cut? start front
  return before ++ replacement ++ back

end Offset

end StructTags
