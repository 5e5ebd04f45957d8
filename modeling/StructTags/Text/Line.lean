/-!
# Lines

Two ways to cut a text into lines. `terminated` keeps the end of each line, which may be a
newline, a carriage return or both, so that the lines make up the text. `displayed` is how a text
is shown: only newlines end a line, with a carriage return before them, and neither is kept.
-/

namespace StructTags

namespace Line

/-- The lines of a text with their ends; `line` holds the current one in reverse. -/
def terminatedFrom (line : List Char) : List Char → List (List Char)
  | [] => if line.isEmpty then [] else [line.reverse]
  | '\r' :: '\n' :: rest => ('\n' :: '\r' :: line).reverse :: terminatedFrom [] rest
  | c :: rest =>
    if c = '\r' || c = '\n' then (c :: line).reverse :: terminatedFrom [] rest
    else terminatedFrom (c :: line) rest

/-- The lines of a text with their ends. -/
def terminated (text : String) : List String :=
  (terminatedFrom [] text.toList).map String.ofList

/-- The lines of a text as they are shown; `line` holds the current one in reverse. -/
def displayedFrom (line : List Char) : List Char → List (List Char)
  | [] => if line.isEmpty then [] else [line.reverse]
  | '\n' :: rest =>
    let shown := match line with
      | '\r' :: line => line
      | line => line
    shown.reverse :: displayedFrom [] rest
  | c :: rest => displayedFrom (c :: line) rest

/-- The lines of a text as they are shown. -/
def displayed (text : String) : List (List Char) :=
  displayedFrom [] text.toList

end Line

end StructTags
