/-!
# Paths

A path is kept as the text it was given as and compared by its components: empty components and
single dots inside a path do not count, so that `a//b`, `a/./b` and `a/b/` are all `a/b`, while
`./a` starts with a component of its own.
-/

namespace StructTags

namespace Path

/-- A step of a path. -/
inductive Component where
  | root
  | current
  | parent
  | name (s : List Char)
deriving DecidableEq, Repr

/-- The pieces of a text between slashes. -/
def pieces : List Char → List (List Char)
  | [] => [[]]
  | c :: rest =>
    match pieces rest with
    | [] => [[c]]
    | p :: ps => if c = '/' then [] :: p :: ps else (c :: p) :: ps

/-- The component that a piece stands for, if any. -/
def component? (piece : List Char) : Option Component :=
  if piece = [] ∨ piece = ['.'] then none
  else if piece = ['.', '.'] then some .parent
  else some (.name piece)

/-- The pieces of a path with the components they stand for. A dot counts at the front of a
relative path only, and the empty piece at the front of an absolute one is its root. -/
def steps (cs : List Char) : List (List Char × Option Component) :=
  match pieces cs with
  | [] => []
  | [[]] => []
  | first :: rest =>
    let step :=
      if first = [] then some .root
      else if first = ['.'] then some .current
      else component? first
    (first, step) :: rest.map fun piece => (piece, component? piece)

def componentsOf (cs : List Char) : List Component :=
  (steps cs).filterMap (·.2)

def components (path : String) : List Component :=
  componentsOf path.toList

/-- Orders texts by their UTF-8 bytes, which is the order of their characters. -/
def compareNames : List Char → List Char → Ordering
  | [], [] => .eq
  | [], _ :: _ => .lt
  | _ :: _, [] => .gt
  | a :: as, b :: bs => (compare a.toNat b.toNat).then (compareNames as bs)

def Component.rank : Component → Nat
  | .root => 0
  | .current => 1
  | .parent => 2
  | .name _ => 3

def Component.compare : Component → Component → Ordering
  | .name a, .name b => compareNames a b
  | a, b => Ord.compare a.rank b.rank

def compareComponents : List Component → List Component → Ordering
  | [], [] => .eq
  | [], _ :: _ => .lt
  | _ :: _, [] => .gt
  | a :: as, b :: bs => (a.compare b).then (compareComponents as bs)

/-- The order of paths: component by component. -/
def compare (a b : String) : Ordering :=
  compareComponents (components a) (components b)

/-- Whether two texts name the same path. -/
def same (a b : String) : Bool :=
  components a = components b

def isAbsolute (path : String) : Bool :=
  path.toList.head? = some '/'

/-! ## Parts of a path -/

/-- The name that a path ends in. -/
def fileName? (path : String) : Option (List Char) :=
  match (components path).getLast? with
  | some (.name s) => some s
  | _ => none

/-- The part of a file name behind its last dot, unless the name starts with that dot. -/
def extension? (path : String) : Option String := do
  let name ← fileName? path
  let tail := (name.reverse.takeWhile (· ≠ '.')).reverse
  let front := name.take (name.length - tail.length)
  if front.length ≤ 1 then none else some (String.ofList tail)

/-- The path `other` as seen from the directory `path`. -/
def join (path other : String) : String :=
  if isAbsolute other then other
  else if path.isEmpty || path.toList.getLast? = some '/' then path ++ other
  else path ++ "/" ++ other

/-- The text made of some steps of a path, up to the last one that is a component. -/
def textOfSteps (steps : List (List Char × Option Component)) : String :=
  match (steps.reverse.dropWhile (·.2.isNone)).reverse with
  | [([], some .root)] => "/"
  | kept => String.ofList (List.intercalate ['/'] (kept.map (·.1)))

/-- The path without its last component. -/
def parent? (path : String) : Option String :=
  match (steps path.toList).reverse.dropWhile (·.2.isNone) with
  | [] => none
  | (_, some .root) :: _ => none
  | _ :: rest => some (textOfSteps rest.reverse)

/-- A path and those of the directories above it, of which there are at most `n`. -/
def ancestorsFrom : (n : Nat) → String → List String
  | 0, path => [path]
  | n + 1, path =>
    path :: match parent? path with
      | none => []
      | some directory => ancestorsFrom n directory

/-- A path and those of the directories above it. -/
def ancestors (path : String) : List String :=
  ancestorsFrom path.length path

/-- Drops steps until `n` components and whatever follows them up to the next one are gone. -/
def dropSteps : Nat → List (List Char × Option Component) → List (List Char × Option Component)
  | 0, steps => steps.dropWhile (·.2.isNone)
  | _ + 1, [] => []
  | n + 1, (_, none) :: rest => dropSteps (n + 1) rest
  | n + 1, (_, some _) :: rest => dropSteps n rest

/-- The path as seen from `base`, if it lies below. -/
def relativeTo? (path base : String) : Option String :=
  let front := components base
  if front.isPrefixOf (components path) then
    if front.isEmpty then some (textOfSteps (steps path.toList))
    else some (textOfSteps (dropSteps front.length (steps path.toList)))
  else none

end Path

end StructTags
