import StructTags.Yaml.Tokens

/-!
# YAML nodes

A stream of tokens is read into the tree of its one document. What is left out, such as the value
of a key at the end of a line, is an empty plain scalar.
-/

namespace StructTags

namespace Yaml

inductive Node where
  | alias (name : String)
  | scalar (anchor? tag? : Option String) (style : Style) (text : String)
  | sequence (anchor? tag? : Option String) (items : List Node)
  | mapping (anchor? tag? : Option String) (entries : List (Node × Node))
deriving Repr

/-- What may stand in front of a node. -/
structure Properties where
  anchor? : Option String := none
  tag? : Option String := none
deriving DecidableEq, Repr

namespace Node

/-- What stands where nothing was written. -/
def nothing : Node := .scalar none none .plain ""

/-! ## Handles -/

/-- The handles that are known without being declared. -/
def standardHandles : List (String × String) :=
  [("!", "!"), ("!!", "tag:yaml.org,2002:")]

/-- The tag that a handle and a suffix stand for. -/
def resolveTag? (handles : List (String × String)) (handle suffix : String) : Option String :=
  if handle.isEmpty then some suffix else (handles.lookup handle).map (· ++ suffix)

/-- Reads an anchor and a tag, in either order, and what is left. -/
def properties? (handles : List (String × String)) :
    List Token → Option (Properties × List Token)
  | .anchor name :: .tag handle suffix :: rest
  | .tag handle suffix :: .anchor name :: rest => do
    return (⟨some name, some (← resolveTag? handles handle suffix)⟩, rest)
  | .anchor name :: rest => some (⟨some name, none⟩, rest)
  | .tag handle suffix :: rest => do
    return (⟨none, some (← resolveTag? handles handle suffix)⟩, rest)
  | tokens => some ({}, tokens)

/-! ## What can be left out -/

/-- Whether an entry of a block sequence is left out before this token. -/
def endsBlockItem : List Token → Bool
  | .blockEntry :: _ | .blockEnd :: _ => true
  | _ => false

/-- Whether a key or value of a block mapping is left out before this token. -/
def endsBlockPart : List Token → Bool
  | .key :: _ | .value :: _ | .blockEnd :: _ => true
  | _ => false

/-- Whether a value is left out before this token of a flow collection. -/
def endsFlowValue : List Token → Bool
  | .flowEntry :: _ | .flowSequenceEnd :: _ | .flowMappingEnd :: _ => true
  | _ => false

/-! ## Nodes

`fuel` bounds how many readers can be under way at once or follow one another; every reader but a
bounded number in a row takes a token. -/

mutual

/-- Reads a node. Block collections may stand where `block` is set, and a block sequence that is
not indented where `dashes` is. -/
def read? (handles : List (String × String)) :
    (fuel : Nat) → (block dashes : Bool) → List Token → Option (Node × List Token)
  | 0, _, _, _ => none
  | _ + 1, _, _, .alias name :: rest => some (.alias name, rest)
  | fuel + 1, block, dashes, tokens => do
    let (p, tokens) ← properties? handles tokens
    let otherwise : Option (Node × List Token) :=
      if p = {} then none else some (.scalar p.anchor? p.tag? .plain "", tokens)
    match tokens with
    | .scalar style text :: rest =>
      -- The tag that is a mark alone says no more than no tag.
      let tag? := p.tag?.filter (· ≠ "!")
      return (.scalar p.anchor? tag? style text, rest)
    | .flowSequence :: rest =>
      let (items, rest) ← flowItems? handles fuel true rest
      return (.sequence p.anchor? p.tag? items, rest)
    | .flowMapping :: rest =>
      let (entries, rest) ← flowEntries? handles fuel true rest
      return (.mapping p.anchor? p.tag? entries, rest)
    | .blockSequence :: rest =>
      if block then
        let (items, rest) ← blockItems? handles fuel rest
        return (.sequence p.anchor? p.tag? items, rest)
      else otherwise
    | .blockMapping :: rest =>
      if block then
        let (entries, rest) ← blockEntries? handles fuel rest
        return (.mapping p.anchor? p.tag? entries, rest)
      else otherwise
    | .blockEntry :: _ =>
      if dashes then
        let (items, rest) ← dashItems? handles fuel tokens
        return (.sequence p.anchor? p.tag? items, rest)
      else otherwise
    | _ => otherwise

/-- Reads the items of a block sequence and its end. -/
def blockItems? (handles : List (String × String)) :
    (fuel : Nat) → List Token → Option (List Node × List Token)
  | 0, _ => none
  | fuel + 1, .blockEntry :: rest => do
    let (item, rest) ←
      if endsBlockItem rest then some (nothing, rest) else read? handles fuel true false rest
    let (items, rest) ← blockItems? handles fuel rest
    return (item :: items, rest)
  | _, .blockEnd :: rest => some ([], rest)
  | _, _ => none

/-- Reads the items of a block sequence that ends with its last item. -/
def dashItems? (handles : List (String × String)) :
    (fuel : Nat) → List Token → Option (List Node × List Token)
  | 0, _ => none
  | fuel + 1, .blockEntry :: rest => do
    let (item, rest) ←
      if endsBlockItem rest || endsBlockPart rest then some (nothing, rest)
      else read? handles fuel true false rest
    let (items, rest) ← dashItems? handles fuel rest
    return (item :: items, rest)
  | _, tokens => some ([], tokens)

/-- Reads the entries of a block mapping and its end. -/
def blockEntries? (handles : List (String × String)) :
    (fuel : Nat) → List Token → Option (List (Node × Node) × List Token)
  | 0, _ => none
  | fuel + 1, .key :: rest => do
    let (key, rest) ← blockPart? handles fuel rest
    let (value, rest) ← match rest with
      | .value :: rest => blockPart? handles fuel rest
      | _ => some (nothing, rest)
    let (entries, rest) ← blockEntries? handles fuel rest
    return ((key, value) :: entries, rest)
  | _, .blockEnd :: rest => some ([], rest)
  | _, _ => none

/-- Reads a key or a value of a block mapping. -/
def blockPart? (handles : List (String × String)) :
    (fuel : Nat) → List Token → Option (Node × List Token)
  | 0, _ => none
  | fuel + 1, tokens =>
    if endsBlockPart tokens then some (nothing, tokens) else read? handles fuel true true tokens

/-- Reads the items of a flow sequence and its end. -/
def flowItems? (handles : List (String × String)) :
    (fuel : Nat) → (first : Bool) → List Token → Option (List Node × List Token)
  | 0, _, _ => none
  | _, _, .flowSequenceEnd :: rest => some ([], rest)
  | fuel + 1, false, .flowEntry :: rest => flowItems? handles fuel true rest
  | _, false, _ => none
  | fuel + 1, true, .key :: rest => do
    let (key, rest) ← match rest with
      -- An entry that starts with a question mark is read on behind the token after it.
      | .value :: rest | .flowEntry :: rest | .flowSequenceEnd :: rest => some (nothing, rest)
      | _ => read? handles fuel false false rest
    let (value, rest) ← flowValue? handles fuel rest
    let (items, rest) ← flowItems? handles fuel false rest
    return (.mapping none none [(key, value)] :: items, rest)
  | fuel + 1, true, tokens => do
    let (item, rest) ← read? handles fuel false false tokens
    let (items, rest) ← flowItems? handles fuel false rest
    return (item :: items, rest)

/-- Reads the entries of a flow mapping and its end. -/
def flowEntries? (handles : List (String × String)) :
    (fuel : Nat) → (first : Bool) → List Token → Option (List (Node × Node) × List Token)
  | 0, _, _ => none
  | _, _, .flowMappingEnd :: rest => some ([], rest)
  | fuel + 1, false, .flowEntry :: rest => flowEntries? handles fuel true rest
  | _, false, _ => none
  | fuel + 1, true, .key :: rest => do
    let (key, rest) ← match rest with
      | .value :: _ | .flowEntry :: _ | .flowMappingEnd :: _ => some (nothing, rest)
      | _ => read? handles fuel false false rest
    let (value, rest) ← flowValue? handles fuel rest
    let (entries, rest) ← flowEntries? handles fuel false rest
    return ((key, value) :: entries, rest)
  | fuel + 1, true, tokens => do
    let (key, rest) ← read? handles fuel false false tokens
    let (entries, rest) ← flowEntries? handles fuel false rest
    return ((key, nothing) :: entries, rest)

/-- Reads the value behind a colon, if there is one. -/
def flowValue? (handles : List (String × String)) :
    (fuel : Nat) → List Token → Option (Node × List Token)
  | 0, _ => none
  | fuel + 1, .value :: rest =>
    if endsFlowValue rest then some (nothing, rest) else read? handles fuel false false rest
  | _, tokens => some (nothing, tokens)

end

/-! ## Documents -/

/-- Reads the directives before a document: at most one version, which must be 1.1 or 1.2, and
handles, each declared once. -/
def directives? (versioned : Bool) (handles : List (String × String)) :
    List Token → Option (List (String × String) × List Token)
  | .version major minor :: rest =>
    if versioned || major ≠ 1 || (minor ≠ 1 && minor ≠ 2) then none
    else directives? true handles rest
  | .handle name leader :: rest =>
    if (handles.lookup name).isSome then none
    else directives? versioned ((name, leader) :: handles) rest
  | tokens => some (handles, tokens)

/-- Whether a document is left out before this token. -/
def endsDocument : List Token → Bool
  | [] | .documentStart :: _ | .documentEnd :: _ | .version .. :: _ | .handle .. :: _ => true
  | _ => false

/-- Reads the one document of a stream of tokens; none if the stream is empty. -/
def ofTokens? (tokens : List Token) : Option (Option Node) := do
  if tokens.isEmpty then return none
  let fuel := 4 * tokens.length + 4
  let (node, rest) ← match tokens with
    | .documentStart :: _ | .version .. :: _ | .handle .. :: _ => do
      let (handles, rest) ← directives? false [] tokens
      match rest with
      | .documentStart :: rest =>
        if endsDocument rest then some (nothing, rest)
        else read? (handles ++ standardHandles) fuel true false rest
      | _ => none
    | _ => read? standardHandles fuel true false tokens
  if (rest.dropWhile (· = .documentEnd)).isEmpty then return some node else none

end Node

end Yaml

end StructTags
