import StructTags.Tag.Pair
import StructTags.Tag.Value

/-!
# Editing a tag

A `TagSet` is a whole tag read entry by entry, so that single entries can be changed or removed
and the rest printed back as it was. An entry keeps the text it was read from until it is edited;
from then on it is printed anew.
-/

namespace StructTags

/-- One `key:"name,option,…"` of a tag. -/
structure TagEntry where
  key : String
  value : Tag.Value
  /-- The text the entry was read from, as long as it has not been edited. -/
  source? : Option String
deriving DecidableEq, Repr

/-- The entries of a tag in order. -/
structure TagSet where
  entries : List TagEntry
deriving DecidableEq, Repr

/-! ## Printing -/

namespace Tag

/-- The control characters: U+0000 to U+001F and U+007F to U+009F. -/
def isControl (c : Char) : Bool :=
  c.toNat < 0x20 || (0x7F ≤ c.toNat && c.toNat < 0xA0)

/-- How a character stands between double quotes. -/
def escapeChar (c : Char) : List Char :=
  if c = '"' then ['\\', '"']
  else if c = '\\' then ['\\', '\\']
  else if c = '\n' then ['\\', 'n']
  else if c = '\r' then ['\\', 'r']
  else if c = '\t' then ['\\', 't']
  else if isControl c then '\\' :: 'x' :: Digits.writePadded 16 2 c.toNat
  else [c]

def quoteChars (cs : List Char) : List Char :=
  '"' :: (cs.flatMap escapeChar ++ ['"'])

end Tag

namespace TagEntry

def textChars (e : TagEntry) : List Char :=
  match e.source? with
  | some source => source.toList
  | none => e.key.toList ++ ':' :: Tag.quoteChars e.value.text.toList

/-- The entry as it stands in a tag. -/
def text (e : TagEntry) : String :=
  String.ofList e.textChars

end TagEntry

namespace TagSet

/-- Entries separated by single blanks. -/
def joinEntries : List TagEntry → List Char
  | [] => []
  | [e] => e.textChars
  | e :: rest => e.textChars ++ ' ' :: joinEntries rest

/-- The text of the tag. -/
def text (s : TagSet) : String :=
  String.ofList (joinEntries s.entries)

/-- The tag as a literal between backquotes, or nothing if no entry is left. -/
def literal (s : TagSet) : String :=
  if s.entries.isEmpty then "" else String.ofList ('\x60' :: (joinEntries s.entries ++ ['\x60']))

/-! ## Reading -/

/-- The entry that a pair stands for. -/
def entryOf (p : Tag.Pair) : Except Tag.Part TagEntry :=
  match Literal.decode p.quoted with
  | .error _ => .error .value
  | .ok value => .ok
    { key := String.ofList p.key
      value := .ofText (String.ofList value)
      source? := some (String.ofList p.text) }

def parseChars (cs : List Char) : Except Tag.Part TagSet := do
  let (pairs, fault) := Tag.pairs cs
  let entries ← pairs.mapM entryOf
  match fault with
  | some part => .error part
  | none => .ok ⟨entries⟩

/-- Reads the text of a tag. The first pair that breaks the rules decides the error. -/
def parse (tag : String) : Except Tag.Part TagSet :=
  parseChars tag.toList

/-- The text without the backquotes at both of its ends. -/
def trimBackquotes (cs : List Char) : List Char :=
  ((cs.dropWhile (· = '\x60')).reverse.dropWhile (· = '\x60')).reverse

/-- Reads a tag from its literal between backquotes. -/
def parseLiteral (literal : String) : Except Tag.Part TagSet :=
  parseChars (trimBackquotes literal.toList)

/-! ## Editing -/

/-- The first entry with the given key. -/
def get? (s : TagSet) (key : String) : Option TagEntry :=
  s.entries.find? (·.key = key)

/-- Removes all entries with the given key. -/
def erase (s : TagSet) (key : String) : TagSet :=
  ⟨s.entries.filter (·.key ≠ key)⟩

/-- Clears the name in the first of the entries with the given key. -/
def clearFirst (key : String) : List TagEntry → List TagEntry
  | [] => []
  | e :: rest =>
    if e.key = key then { e with value.name := "", source? := none } :: rest
    else e :: clearFirst key rest

/-- Clears the name in the first entry with the given key and keeps its options. -/
def clearName (s : TagSet) (key : String) : TagSet :=
  ⟨clearFirst key s.entries⟩

/-- Whether the tag has an entry with the given key. -/
def contains (s : TagSet) (key : String) : Bool :=
  s.entries.any (·.key = key)

end TagSet

end StructTags
