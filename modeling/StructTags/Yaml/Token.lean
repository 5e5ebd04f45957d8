/-!
# YAML tokens

What a YAML text is made of once indentation has been turned into brackets and scalars have been
read.
-/

namespace StructTags

namespace Yaml

/-- How a scalar is written. Only plain scalars can stand for anything but texts by themselves, and
literal blocks if a tag says so; `quoted` stands for all other ways. -/
inductive Style where
  | plain
  | literal
  | quoted
deriving DecidableEq, Repr

inductive Token where
  | version (major minor : Nat)
  /-- A handle for tags and what it abbreviates. -/
  | handle (name leader : String)
  | documentStart
  | documentEnd
  | blockSequence
  | blockMapping
  | blockEnd
  | flowSequence
  | flowSequenceEnd
  | flowMapping
  | flowMappingEnd
  | blockEntry
  | flowEntry
  | key
  | value
  | alias (name : String)
  | anchor (name : String)
  | tag (handle suffix : String)
  | scalar (style : Style) (text : String)
deriving DecidableEq, Repr

end Yaml

end StructTags
