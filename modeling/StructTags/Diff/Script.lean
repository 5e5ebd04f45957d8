/-!
# Edit scripts

An edit script says how one sequence of lines becomes another, as a list of operations on ranges
of lines. The script is found by splitting both sequences at a point that an optimal script goes
through and treating the two halves alike; equal lines at the front and at the back are taken off
first.
-/

namespace StructTags

namespace Diff

/-- An operation on a range of old lines and a range of new lines, each given by its first line
and its length. Lines are counted from zero. -/
inductive Op where
  | equal (old new length : Nat)
  | delete (old length new : Nat)
  | insert (old new length : Nat)
  | replace (old oldLength new newLength : Nat)
deriving DecidableEq, Repr

namespace Op

def oldStart : Op → Nat
  | .equal old _ _ | .delete old _ _ | .insert old _ _ | .replace old _ _ _ => old

def newStart : Op → Nat
  | .equal _ new _ | .delete _ _ new | .insert _ new _ | .replace _ _ new _ => new

def oldLength : Op → Nat
  | .equal _ _ length | .delete _ length _ => length
  | .insert _ _ _ => 0
  | .replace _ length _ _ => length

def newLength : Op → Nat
  | .equal _ _ length | .insert _ _ length => length
  | .delete _ _ _ => 0
  | .replace _ _ _ length => length

end Op

/-- The two sequences of lines. -/
structure Sides where
  old : Array String
  new : Array String

/-- A range of old lines and a range of new lines. -/
structure Window where
  oldStart : Nat
  oldStop : Nat
  newStart : Nat
  newStop : Nat

namespace Window

def oldLength (w : Window) : Nat := w.oldStop - w.oldStart

def newLength (w : Window) : Nat := w.newStop - w.newStart

end Window

namespace Sides

/-- Whether old line `i` and new line `j` are there and equal. -/
def agree (s : Sides) (i j : Nat) : Bool :=
  match s.old[i]?, s.new[j]? with
  | some a, some b => a == b
  | _, _ => false

/-- How many lines agree from old line `i` and new line `j` on, at most `n`. -/
def agreeAhead (s : Sides) (i j : Nat) : Nat → Nat
  | 0 => 0
  | n + 1 => if s.agree i j then agreeAhead s (i + 1) (j + 1) n + 1 else 0

/-- How many lines agree before old line `i` and new line `j`, at most `n`. -/
def agreeBehind (s : Sides) (i j : Nat) : Nat → Nat
  | 0 => 0
  | n + 1 =>
    if i > 0 && j > 0 && s.agree (i - 1) (j - 1) then agreeBehind s (i - 1) (j - 1) n + 1 else 0

/-- The number of equal lines at the front of a window. -/
def agreeFront (s : Sides) (w : Window) : Nat :=
  s.agreeAhead w.oldStart w.newStart (min w.oldLength w.newLength)

/-- The number of equal lines at the back of a window. -/
def agreeBack (s : Sides) (w : Window) : Nat :=
  s.agreeBehind w.oldStop w.newStop (min w.oldLength w.newLength)

end Sides

/-! ## The split point

The search goes forward from the front and backward from the back of a window at once. After `d`
rounds, `forward` holds for every diagonal `k` between `-d` and `d` how many old lines the best
path with `d` changes has passed, and `backward` the same from the other end. When the two meet,
an optimal script goes through the point where they do. -/

/-- How far the paths have come, by diagonal. -/
structure Frontier where
  offset : Nat
  reached : Array Nat

namespace Frontier

/-- A frontier for the diagonals from `-n` to `n`. -/
def empty (n : Nat) : Frontier where
  offset := n
  reached := Array.replicate (2 * n + 1) 0

def get (f : Frontier) (k : Int) : Nat :=
  f.reached.getD (k + f.offset).toNat 0

def set (f : Frontier) (k : Int) (x : Nat) : Frontier :=
  { f with reached := f.reached.setIfInBounds (k + f.offset).toNat x }

/-- The old lines passed where a path with one more change enters diagonal `k` in round `d`. -/
def enter (f : Frontier) (d k : Int) : Nat :=
  if k = -d || (k ≠ d && f.get (k - 1) < f.get (k + 1)) then f.get (k + 1)
  else f.get (k - 1) + 1

end Frontier

/-- The outcome of part of the search: the point found, or the frontiers to go on with. -/
abbrev Search := Except (Nat × Nat) (Frontier × Frontier)

/-- The diagonals of round `d`, from the highest down. -/
def diagonals (d : Nat) : List Int :=
  (List.range (d + 1)).map fun (i : Nat) => (d : Int) - 2 * (i : Int)

/-- One step forward on diagonal `k` in round `d`. -/
def stepForward (s : Sides) (w : Window) (d : Nat) (forward backward : Frontier) (k : Int) :
    Search :=
  let n := w.oldLength
  let m := w.newLength
  let delta : Int := (n : Int) - m
  let x₀ := forward.enter d k
  let y₀ := ((x₀ : Int) - k).toNat
  let x := x₀ +
    if x₀ < n && y₀ < m then
      s.agreeAhead (w.oldStart + x₀) (w.newStart + y₀) (min (n - x₀) (m - y₀))
    else 0
  if delta % 2 ≠ 0 && (k - delta).natAbs + 1 ≤ d && x + backward.get (delta - k) ≥ n then
    .error (w.oldStart + x₀, w.newStart + y₀)
  else .ok (forward.set k x, backward)

/-- One step backward on diagonal `k` in round `d`. -/
def stepBackward (s : Sides) (w : Window) (d : Nat) (forward backward : Frontier) (k : Int) :
    Search :=
  let n := w.oldLength
  let m := w.newLength
  let delta : Int := (n : Int) - m
  let x₀ := backward.enter d k
  let y₀ := ((x₀ : Int) - k).toNat
  let run :=
    if x₀ < n && y₀ < m then
      s.agreeBehind (w.oldStop - x₀) (w.newStop - y₀) (min (n - x₀) (m - y₀))
    else 0
  let x := x₀ + run
  let y := y₀ + run
  if delta % 2 = 0 && (k - delta).natAbs ≤ d && x + forward.get (delta - k) ≥ n then
    .error (w.oldStart + (n - x), w.newStart + (m - y))
  else .ok (forward, backward.set k x)

/-- A round of the search: forward on all its diagonals, then backward. -/
def round (s : Sides) (w : Window) (frontiers : Frontier × Frontier) (d : Nat) : Search := do
  let frontiers ← (diagonals d).foldlM
    (fun (forward, backward) k => stepForward s w d forward backward k) frontiers
  (diagonals d).foldlM
    (fun (forward, backward) k => stepBackward s w d forward backward k) frontiers

/-- A point inside a window that an optimal script goes through. -/
def splitPoint? (s : Sides) (w : Window) : Option (Nat × Nat) :=
  let rounds := (w.oldLength + w.newLength + 1) / 2 + 1
  let start := Frontier.empty (rounds + 1)
  match (List.range rounds).foldlM (round s w) (start, start) with
  | .error point => some point
  | .ok _ => none

/-! ## The script -/

/-- The operations of a window; `fuel` bounds how often it is split. -/
def script (s : Sides) : Nat → Window → List Op
  | fuel, w =>
    let front := s.agreeFront w
    let w := { w with oldStart := w.oldStart + front, newStart := w.newStart + front }
    let back := s.agreeBack w
    let w := { w with oldStop := w.oldStop - back, newStop := w.newStop - back }
    let frontOps :=
      if front = 0 then [] else [Op.equal (w.oldStart - front) (w.newStart - front) front]
    let backOps := if back = 0 then [] else [Op.equal w.oldStop w.newStop back]
    let inner :=
      if w.oldLength = 0 && w.newLength = 0 then []
      else if w.newLength = 0 then [.delete w.oldStart w.oldLength w.newStart]
      else if w.oldLength = 0 then [.insert w.oldStart w.newStart w.newLength]
      else
        let whole :=
          [.delete w.oldStart w.oldLength w.newStart, .insert w.oldStart w.newStart w.newLength]
        match fuel with
        | 0 => whole
        | fuel + 1 =>
          match splitPoint? s w with
          | none => whole
          | some (i, j) =>
            script s fuel { w with oldStop := i, newStop := j } ++
              script s fuel { w with oldStart := i, newStart := j }
    frontOps ++ inner ++ backOps

end Diff

end StructTags
