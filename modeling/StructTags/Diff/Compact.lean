import StructTags.Diff.Script

/-!
# Tidying an edit script

Changes are moved as far back as equal lines allow and then as far ahead, which brings changes
that belong together next to each other; adjacent ones are merged. First all deletions are
treated, then all insertions. At the end a deletion and an insertion that meet become one
replacement.
-/

namespace StructTags

namespace Diff

namespace Op

def isDelete : Op → Bool
  | .delete .. => true
  | _ => false

def isInsert : Op → Bool
  | .insert .. => true
  | _ => false

/-- Moves the operation `n` lines back. -/
def back (n : Nat) : Op → Op
  | .equal old new length => .equal (old - n) (new - n) length
  | .delete old length new => .delete (old - n) length (new - n)
  | .insert old new length => .insert (old - n) (new - n) length
  | op => op

/-- Moves the operation `n` lines ahead. -/
def ahead (n : Nat) : Op → Op
  | .equal old new length => .equal (old + n) (new + n) length
  | .delete old length new => .delete (old + n) length (new + n)
  | .insert old new length => .insert (old + n) (new + n) length
  | op => op

end Op

/-- A script with a mark on one of its operations: those before it in reverse, the marked one and
those behind it. -/
structure Marked where
  before : List Op
  here : Op
  behind : List Op

namespace Marked

/-- Moves the marked change back until it meets lines it cannot pass. -/
def moveBack (s : Sides) : Nat → Marked → Marked
  | 0, m => m
  | fuel + 1, m =>
    match m.before, m.here with
    | .equal old new length :: before, .insert iOld iNew iLength =>
      let run := s.agreeBehind (old + length) (iNew + iLength) (min length iLength)
      if run > 0 then
        let behind := match m.behind with
          | .equal o n l :: rest => .equal (o - run) (n - run) (l + run) :: rest
          | rest => .equal (old + length - run) (iNew + iLength - run) run :: rest
        let before := if length = run then before else .equal old new (length - run) :: before
        moveBack s fuel ⟨before, (Op.insert iOld iNew iLength).back run, behind⟩
      else if length = 0 then moveBack s fuel { m with before }
      else m
    | .equal _ _ length :: before, .delete .. =>
      if length = 0 then moveBack s fuel { m with before } else m
    | .delete o l n :: before, .delete _ length _ =>
      moveBack s fuel ⟨before, .delete o (l + length) n, m.behind⟩
    | .insert o n l :: before, .insert _ _ length =>
      moveBack s fuel ⟨before, .insert o n (l + length), m.behind⟩
    | op :: before, here => moveBack s fuel ⟨before, here, op :: m.behind⟩
    | [], _ => m

/-- Moves the marked change ahead until it meets lines it cannot pass. -/
def moveAhead (s : Sides) : Nat → Marked → Marked
  | 0, m => m
  | fuel + 1, m =>
    match m.here, m.behind with
    | .insert iOld iNew iLength, .equal old new length :: behind =>
      let run := s.agreeAhead old iNew (min length iLength)
      if run > 0 then
        let before := match m.before with
          | .equal o n l :: rest => .equal o n (l + run) :: rest
          | rest => .equal old iNew run :: rest
        let behind :=
          if length = run then behind else .equal (old + run) (new + run) (length - run) :: behind
        moveAhead s fuel ⟨before, (Op.insert iOld iNew iLength).ahead run, behind⟩
      else if length = 0 then moveAhead s fuel { m with behind }
      else m
    | .delete .., .equal _ _ length :: behind =>
      if length = 0 then moveAhead s fuel { m with behind } else m
    | .delete o l n, .delete _ length _ :: behind =>
      moveAhead s fuel ⟨m.before, .delete o (l + length) n, behind⟩
    | .insert o n l, .insert _ _ length :: behind =>
      moveAhead s fuel ⟨m.before, .insert o n (l + length), behind⟩
    | here, op :: behind => moveAhead s fuel ⟨op :: m.before, here, behind⟩
    | _, [] => m

end Marked

/-- Treats the changes that `wanted` selects, one after the other. -/
def settle (s : Sides) (wanted : Op → Bool) (moves : Nat) : Nat → List Op → List Op → List Op
  | 0, before, ops => before.reverse ++ ops
  | _ + 1, before, [] => before.reverse
  | fuel + 1, before, op :: ops =>
    if wanted op then
      let m := Marked.moveAhead s moves (Marked.moveBack s moves ⟨before, op, ops⟩)
      settle s wanted moves fuel (m.here :: m.before) m.behind
    else settle s wanted moves fuel (op :: before) ops

/-- The script with its changes moved and merged. -/
def compact (s : Sides) (ops : List Op) : List Op :=
  let moves := 2 * (s.old.size + s.new.size + ops.length) + 2
  let deleted := settle s Op.isDelete moves (moves * moves) [] ops
  settle s Op.isInsert moves (moves * moves) [] deleted

/-! ## Replacements -/

/-- Operations that have been read but may still grow. -/
structure Pending where
  equal? : Option (Nat × Nat × Nat) := none
  delete? : Option (Nat × Nat × Nat) := none
  insert? : Option (Nat × Nat × Nat) := none

namespace Pending

def equalOps (p : Pending) : List Op :=
  match p.equal? with
  | some (old, new, length) => [.equal old new length]
  | none => []

def changeOps (p : Pending) : List Op :=
  match p.delete?, p.insert? with
  | some (old, oldLength, _), some (_, new, newLength) => [.replace old oldLength new newLength]
  | some (old, length, new), none => [.delete old length new]
  | none, some (old, new, length) => [.insert old new length]
  | none, none => []

end Pending

/-- Joins neighbours of one kind, and deletions with insertions that meet them. -/
def joinFrom (p : Pending) : List Op → List Op
  | [] => p.equalOps ++ p.changeOps
  | .equal old new length :: rest =>
    let equal := match p.equal? with
      | some (o, n, l) => (o, n, l + length)
      | none => (old, new, length)
    p.changeOps ++ joinFrom { equal? := some equal } rest
  | .delete old length new :: rest =>
    let delete := match p.delete? with
      | some (o, l, n) => (o, l + length, n)
      | none => (old, length, new)
    p.equalOps ++ joinFrom { p with equal? := none, delete? := some delete } rest
  | .insert old new length :: rest =>
    let insert := match p.insert? with
      | some (o, n, l) => (o, n, l + length)
      | none => (old, new, length)
    p.equalOps ++ joinFrom { p with equal? := none, insert? := some insert } rest
  | .replace old oldLength new newLength :: rest =>
    p.equalOps ++ .replace old oldLength new newLength :: joinFrom { p with equal? := none } rest

/-- The script that turns the old lines into the new ones. -/
def Sides.ops (s : Sides) : List Op :=
  let fuel := s.old.size + s.new.size + 1
  joinFrom {} (compact s (script s fuel ⟨0, s.old.size, 0, s.new.size⟩))

end Diff

end StructTags
