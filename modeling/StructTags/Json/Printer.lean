import StructTags.Json.Value
import StructTags.Text.Digits

/-!
# JSON text

Two layouts: `pretty` puts every item and field on a line of its own, two blanks deeper than
what holds it, and `compact` writes no blank at all. Strings are written raw but for the quote,
the backslash and the control characters below U+0020.
-/

namespace StructTags

namespace Json

/-- How a character stands inside a JSON string. -/
def escapeChar (c : Char) : List Char :=
  if c = '"' then ['\\', '"']
  else if c = '\\' then ['\\', '\\']
  else if c = '\x08' then ['\\', 'b']
  else if c = '\t' then ['\\', 't']
  else if c = '\n' then ['\\', 'n']
  else if c = '\x0c' then ['\\', 'f']
  else if c = '\r' then ['\\', 'r']
  else if c.toNat < 0x20 then '\\' :: 'u' :: Digits.writePadded 16 4 c.toNat
  else [c]

/-- The string with its quotes. -/
def quoteChars (s : String) : List Char :=
  '"' :: (s.toList.flatMap escapeChar ++ ['"'])

def newline (depth : Nat) : List Char :=
  '\n' :: List.replicate (2 * depth) ' '

mutual

def prettyChars (depth : Nat) : Json → List Char
  | .null => "null".toList
  | .bool true => "true".toList
  | .bool false => "false".toList
  | .nat n => Digits.write 10 n
  | .str s => quoteChars s
  | .arr [] => ['[', ']']
  | .arr (j :: rest) =>
    '[' :: (newline (depth + 1) ++ (prettyChars (depth + 1) j ++
      (prettyItems (depth + 1) rest ++ (newline depth ++ [']']))))
  | .obj [] => ['{', '}']
  | .obj ((key, j) :: rest) =>
    '{' :: (newline (depth + 1) ++ (quoteChars key ++ (':' :: ' ' :: (prettyChars (depth + 1) j ++
      (prettyFields (depth + 1) rest ++ (newline depth ++ ['}']))))))

def prettyItems (depth : Nat) : List Json → List Char
  | [] => []
  | j :: rest => ',' :: (newline depth ++ (prettyChars depth j ++ prettyItems depth rest))

def prettyFields (depth : Nat) : List (String × Json) → List Char
  | [] => []
  | (key, j) :: rest =>
    ',' :: (newline depth ++ (quoteChars key ++ (':' :: ' ' :: (prettyChars depth j ++
      prettyFields depth rest))))

end

def pretty (j : Json) : String :=
  String.ofList (prettyChars 0 j)

mutual

def compactChars : Json → List Char
  | .null => "null".toList
  | .bool true => "true".toList
  | .bool false => "false".toList
  | .nat n => Digits.write 10 n
  | .str s => quoteChars s
  | .arr [] => ['[', ']']
  | .arr (j :: rest) => '[' :: (compactChars j ++ (compactItems rest ++ [']']))
  | .obj [] => ['{', '}']
  | .obj ((key, j) :: rest) =>
    '{' :: (quoteChars key ++ (':' :: (compactChars j ++ (compactFields rest ++ ['}']))))

def compactItems : List Json → List Char
  | [] => []
  | j :: rest => ',' :: (compactChars j ++ compactItems rest)

def compactFields : List (String × Json) → List Char
  | [] => []
  | (key, j) :: rest =>
    ',' :: (quoteChars key ++ (':' :: (compactChars j ++ compactFields rest)))

end

def compact (j : Json) : String :=
  String.ofList (compactChars j)

end Json

end StructTags
