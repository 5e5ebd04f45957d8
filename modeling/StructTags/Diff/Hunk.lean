import StructTags.Diff.Compact
import StructTags.Text.Line

/-!
# Unified diffs

A diff is shown in hunks: changes with up to three unchanged lines around them, where changes
with no more than six unchanged lines between them share a hunk.
-/

namespace StructTags

namespace Diff

/-- Cuts a script into groups of changes that are close to each other, with at most `n` unchanged
lines around them. -/
def groupFrom (n : Nat) (group : List Op) : List Op → List (List Op)
  | [] =>
    match group with
    | [] => []
    | [.equal ..] => []
    | _ => [group.reverse]
  | .equal old new length :: rest =>
    if length > n * 2 then
      (Op.equal old new n :: group).reverse ::
        groupFrom n [.equal (old + (length - n)) (new + (length - n)) n] rest
    else groupFrom n (.equal old new length :: group) rest
  | op :: rest => groupFrom n (op :: group) rest

/-- Leaves at most `n` unchanged lines before the first change. -/
def trimFront (n : Nat) : List Op → List Op
  | .equal old new length :: rest =>
    .equal (old + (length - n)) (new + (length - n)) (length - (length - n)) :: rest
  | ops => ops

/-- Leaves at most `n` unchanged lines behind the last change. -/
def trimBack (n : Nat) : List Op → List Op
  | [] => []
  | [.equal old new length] => [.equal old new (length - (length - n))]
  | op :: rest => op :: trimBack n rest

def groups (n : Nat) (ops : List Op) : List (List Op) :=
  groupFrom n [] (trimBack n (trimFront n ops))

/-- How a line of a hunk is marked. -/
inductive Mark where
  | kept
  | removed
  | added
deriving DecidableEq, Repr

def Mark.sign : Mark → Char
  | .kept => ' '
  | .removed => '-'
  | .added => '+'

/-- A run of lines of both texts. Starts are counted from zero. -/
structure Hunk where
  oldStart : Nat
  oldLength : Nat
  newStart : Nat
  newLength : Nat
  lines : List (Mark × String)
deriving DecidableEq, Repr

/-- `length` lines from line `start` on. -/
def linesFrom (lines : Array String) (start length : Nat) : List String :=
  (lines.toList.drop start).take length

/-- The lines that an operation shows: removed ones first. -/
def Op.lines (s : Sides) : Op → List (Mark × String)
  | .equal old _ length => (linesFrom s.old old length).map (.kept, ·)
  | .delete old length _ => (linesFrom s.old old length).map (.removed, ·)
  | .insert _ new length => (linesFrom s.new new length).map (.added, ·)
  | .replace old oldLength new newLength =>
    (linesFrom s.old old oldLength).map (.removed, ·) ++
      (linesFrom s.new new newLength).map (.added, ·)

def Hunk.ofGroup (s : Sides) (group : List Op) : Hunk where
  oldStart := (group.head?.map Op.oldStart).getD 0
  oldLength := (group.map Op.oldLength).foldr (· + ·) 0
  newStart := (group.head?.map Op.newStart).getD 0
  newLength := (group.map Op.newLength).foldr (· + ·) 0
  lines := group.flatMap (Op.lines s)

/-- A line of a hunk. A newline is added to one that has none. -/
def showLine (line : Mark × String) : String :=
  let text := String.singleton line.1.sign ++ line.2
  if line.2.toList.getLast? = some '\n' then text else text ++ "\n"

def Hunk.show (h : Hunk) : String :=
  "@@ -" ++ toString (h.oldStart + 1) ++ "," ++ toString h.oldLength ++
    " +" ++ toString (h.newStart + 1) ++ "," ++ toString h.newLength ++ " @@\n" ++
    String.join (h.lines.map showLine)

/-- The lines of two texts. -/
def Sides.ofTexts (before after : String) : Sides where
  old := (Line.terminated before).toArray
  new := (Line.terminated after).toArray

/-- The hunks that show how one text became the other. -/
def Sides.hunks (s : Sides) : List Hunk :=
  (groups 3 s.ops).map (Hunk.ofGroup s)

/-- The diff of a file, under the file's name. -/
def unified (before after path : String) : String :=
  "--- " ++ path ++ "\n+++ " ++ path ++ " (fixed)\n" ++
    String.intercalate "\n" ((Sides.ofTexts before after).hunks.map Hunk.show)

end Diff

end StructTags
