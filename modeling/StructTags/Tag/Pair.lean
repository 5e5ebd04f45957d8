import StructTags.Tag.Literal

/-!
# Tag text

The text of a tag is a sequence of pairs `key:"value"`, with any number of blanks before, between
and after them. `Tag.pairs` cuts a text into its pairs as far as it is well formed and says what
is wrong with the first pair that is not; both the look-up of a key and the reading of a whole
tag go through it.
-/

namespace StructTags

namespace Tag

/-- Which part of a tag breaks the rules. -/
inductive Part where
  | key
  | pair
  | value
deriving DecidableEq, Repr

/-- A key and its value, the latter still in its double quotes. -/
structure Pair where
  key : List Char
  quoted : List Char
deriving DecidableEq, Repr

/-- The pair as it is written. -/
def Pair.text (p : Pair) : List Char :=
  p.key ++ ':' :: p.quoted

def isKeyChar (c : Char) : Bool :=
  ' ' < c && c ≠ ':' && c ≠ '"' && c ≠ '\x7f'

/-- Cuts a text behind its first double quote that no backslash escapes. -/
def closeQuote? : List Char → Option (List Char × List Char)
  | [] => none
  | '"' :: rest => some (['"'], rest)
  | '\\' :: c :: rest => (closeQuote? rest).map fun (inner, tail) => ('\\' :: c :: inner, tail)
  | c :: rest => (closeQuote? rest).map fun (inner, tail) => (c :: inner, tail)

/-- The pair at the front of a text, and what follows it. -/
def scanPair (cs : List Char) : Except Part (Pair × List Char) :=
  let key := cs.takeWhile isKeyChar
  if key.isEmpty then .error .key
  else match cs.dropWhile isKeyChar with
    | ':' :: '"' :: rest =>
      match closeQuote? rest with
      | none => .error .value
      | some (inner, tail) => .ok (⟨key, '"' :: inner⟩, tail)
    | ':' :: _ :: _ => .error .value
    | _ => .error .pair

theorem closeQuote?_append {cs inner tail : List Char} (h : closeQuote? cs = some (inner, tail)) :
    cs = inner ++ tail := by
  fun_induction closeQuote? cs generalizing inner tail with
  | case1 => simp at h
  | case2 rest =>
    simp only [Option.some.injEq, Prod.mk.injEq] at h
    simp [← h.1, ← h.2]
  | case3 c rest ih =>
    obtain ⟨⟨i, t⟩, hr, hc⟩ := Option.map_eq_some_iff.1 h
    simp only [Prod.mk.injEq] at hc
    simp [ih hr, ← hc.1, ← hc.2]
  | case4 c rest _ _ ih =>
    obtain ⟨⟨i, t⟩, hr, hc⟩ := Option.map_eq_some_iff.1 h
    simp only [Prod.mk.injEq] at hc
    simp [ih hr, ← hc.1, ← hc.2]

/-- A pair and what follows it make up the whole text. -/
theorem scanPair_append {cs tail : List Char} {p : Pair} (h : scanPair cs = .ok (p, tail)) :
    cs = p.text ++ tail := by
  unfold scanPair at h
  simp only at h
  split at h
  · simp at h
  · split at h
    · next rest hrest =>
      split at h
      · simp at h
      · next inner t hclose =>
        simp only [Except.ok.injEq, Prod.mk.injEq] at h
        have hsplit := List.takeWhile_append_dropWhile (p := isKeyChar) (l := cs)
        rw [hrest, closeQuote?_append hclose] at hsplit
        rw [← hsplit, ← h.1, ← h.2]
        simp [Pair.text]
    · simp at h
    · simp at h

theorem length_scanPair {cs tail : List Char} {p : Pair} (h : scanPair cs = .ok (p, tail)) :
    tail.length < cs.length := by
  rw [scanPair_append h]
  simp [Pair.text]
  omega

/-- The pairs of a text up to the first one that is not well formed, and what is wrong with that
one. -/
def pairs (cs : List Char) : List Pair × Option Part :=
  match _h : cs.dropWhile (· = ' ') with
  | [] => ([], none)
  | c :: rest =>
    match _hs : scanPair (c :: rest) with
    | .error part => ([], some part)
    | .ok (p, tail) =>
      let (more, fault) := pairs tail
      (p :: more, fault)
termination_by cs.length
decreasing_by
  have h₁ := length_scanPair _hs
  have h₂ := (List.dropWhile_sublist (l := cs) (· = ' ')).length_le
  rw [_h] at h₂
  omega

/-- The value of the first pair with the given key. Pairs behind one that is not well formed are
not seen, and a value that cannot be unquoted is none. -/
def lookupChars (cs key : List Char) : Option (List Char) := do
  let p ← (pairs cs).1.find? (·.key = key)
  (Literal.decode p.quoted).toOption

/-- The value that a tag holds under a key. -/
def lookup (tag key : String) : Option String :=
  (lookupChars tag.toList key.toList).map String.ofList

end Tag

end StructTags
