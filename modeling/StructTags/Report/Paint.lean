/-!
# Colours

Escape sequences for a terminal. A `Paint` that is off leaves every text as it is.
-/

namespace StructTags

inductive Color where
  | red
  | yellow
  | blue
  | green
  | dim
  | bold
deriving DecidableEq, Repr

namespace Color

def all : List Color := [.red, .yellow, .blue, .green, .dim, .bold]

def name : Color → String
  | .red => "red"
  | .yellow => "yellow"
  | .blue => "blue"
  | .green => "green"
  | .dim => "dim"
  | .bold => "bold"

/-- The number that selects the colour in an escape sequence. -/
def code : Color → Nat
  | .red => 31
  | .yellow => 33
  | .blue => 34
  | .green => 32
  | .dim => 2
  | .bold => 1

end Color

/-- Whether texts are coloured. -/
structure Paint where
  enabled : Bool
deriving DecidableEq, Repr

def Paint.apply (p : Paint) (color : Color) (text : String) : String :=
  if p.enabled then "\x1b[" ++ toString color.code ++ "m" ++ text ++ "\x1b[0m" else text

end StructTags
