import StructTags.Proofs.LiteralBody
import StructTags.Tag.Pair

/-!
# Scanning pairs

`scanPair_eq_ok_iff` says what the scanner finds: a text starts with a pair exactly if it is the
text of a delimited pair followed by anything. From it follows how `pairs` goes through a text
(`pairs_blank`, `pairs_text_append`), and that more text adds pairs but changes none
(`pairs_prefix_append`). A text is read to its end exactly if it consists of pairs and blanks
(`pairs_eq_none_iff`), and pairs joined by blanks make such a text (`consistsOf_joinPairs`).
-/

namespace StructTags

namespace Tag

open Literal

/-! ## Closing quotes -/

/-- A text that ends with its first closing quote. -/
def Closed (inner : List Char) : Prop :=
  closeQuote? inner = some (inner, [])

theorem closeQuote?_plain {c : Char} (hquote : c ≠ '"') (hslash : c ≠ '\\') (cs : List Char) :
    closeQuote? (c :: cs) = (closeQuote? cs).map fun (inner, tail) => (c :: inner, tail) := by
  rw [closeQuote?.eq_def]
  split <;> simp_all

/-- What closes a text closes it in front of anything. -/
theorem closeQuote?_local {cs inner tail : List Char} (h : closeQuote? cs = some (inner, tail))
    (tail' : List Char) : closeQuote? (inner ++ tail') = some (inner, tail') := by
  fun_induction closeQuote? cs generalizing inner tail with
  | case1 => simp at h
  | case2 rest =>
    simp only [Option.some.injEq, Prod.mk.injEq] at h
    simp [← h.1, closeQuote?]
  | case3 c rest ih =>
    obtain ⟨⟨i, t⟩, hr, hc⟩ := Option.map_eq_some_iff.1 h
    simp only [Prod.mk.injEq] at hc
    simp [← hc.1, closeQuote?, ih hr]
  | case4 c rest hquote hslash ih =>
    obtain ⟨⟨i, t⟩, hr, hc⟩ := Option.map_eq_some_iff.1 h
    simp only [Prod.mk.injEq] at hc
    -- a backslash at the very end of the text closes nothing
    have hplain : c ≠ '\\' := by
      intro hc'
      cases rest with
      | nil => simp [closeQuote?] at hr
      | cons x xs => exact hslash x xs hc' rfl
    rw [← hc.1, List.cons_append, closeQuote?_plain hquote hplain, ih hr]
    rfl

theorem Closed.append {inner : List Char} (h : Closed inner) (tail : List Char) :
    closeQuote? (inner ++ tail) = some (inner, tail) :=
  closeQuote?_local h tail

theorem closed_of_closeQuote? {cs inner tail : List Char}
    (h : closeQuote? cs = some (inner, tail)) : Closed inner := by
  have hlocal := closeQuote?_local h []
  rwa [List.append_nil] at hlocal

theorem closeQuote?_plain_append {xs : List Char} (h : ∀ c ∈ xs, c ≠ '"' ∧ c ≠ '\\')
    (cs : List Char) :
    closeQuote? (xs ++ cs) = (closeQuote? cs).map fun (inner, tail) => (xs ++ inner, tail) := by
  induction xs with
  | nil => simp
  | cons c rest ih =>
    obtain ⟨hquote, hslash⟩ := h c (by simp)
    rw [List.cons_append, closeQuote?_plain hquote hslash, ih fun x hx => h x (by simp [hx]),
      Option.map_map]
    rfl

/-- A body that can be decoded holds no closing quote, since the digits of an escape are none. -/
theorem closed_of_spells {body : List Char} {bytes : List Utf8.Byte} (h : Spells '"' body bytes) :
    Closed (body ++ ['"']) := by
  unfold Closed
  induction h with
  | nil => rfl
  | plain hquote hslash _ ih => rw [List.cons_append, closeQuote?_plain hquote hslash, ih]; rfl
  | @escaped e ds cs front bytes hds _ _ ih =>
    have hplain : ∀ d ∈ ds, d ≠ '"' ∧ d ≠ '\\' := by
      intro d hd
      exact ⟨hds.ne (by decide) d hd, hds.ne (by decide) d hd⟩
    simp only [List.cons_append, List.append_assoc, closeQuote?,
      closeQuote?_plain_append hplain, ih, Option.map_some]

/-! ## One pair -/

/-- A key of key characters and a value that ends with its first closing quote. -/
structure Pair.Delimited (p : Pair) : Prop where
  key_ne_nil : p.key ≠ []
  keyChars : ∀ c ∈ p.key, isKeyChar c = true
  quoted : ∃ inner, p.quoted = '"' :: inner ∧ Closed inner

theorem Pair.Delimited.scanPair {p : Pair} (h : p.Delimited) (tail : List Char) :
    scanPair (p.text ++ tail) = .ok (p, tail) := by
  obtain ⟨inner, hquoted, hclosed⟩ := h.quoted
  -- the key ends at the colon, which is no key character
  have hcolon : isKeyChar ':' = false := by decide
  have htake : (p.text ++ tail).takeWhile isKeyChar = p.key := by
    rw [Pair.text, List.append_assoc, List.takeWhile_append_of_pos h.keyChars]
    simp [hcolon]
  have hdrop : (p.text ++ tail).dropWhile isKeyChar = ':' :: '"' :: (inner ++ tail) := by
    rw [Pair.text, List.append_assoc, List.dropWhile_append_of_pos h.keyChars]
    simp [hcolon, hquoted]
  have hkey : p.key.isEmpty = false := by simpa using h.key_ne_nil
  unfold Tag.scanPair
  simp only [htake, hdrop, hkey, hclosed.append tail, ← hquoted]
  rfl

theorem delimited_of_scanPair {cs tail : List Char} {p : Pair} (h : scanPair cs = .ok (p, tail)) :
    p.Delimited := by
  unfold scanPair at h
  simp only at h
  split at h
  · simp at h
  · next hkey =>
    split at h
    · next rest hrest =>
      split at h
      · simp at h
      · next inner t hclose =>
        simp only [Except.ok.injEq, Prod.mk.injEq] at h
        rw [← h.1]
        refine ⟨by simpa using hkey, ?_, inner, rfl, closed_of_closeQuote? hclose⟩
        intro c hc
        exact List.mem_takeWhile_imp hc
    · simp at h
    · simp at h

/-- The scanner finds the pair that the text starts with. -/
theorem scanPair_eq_ok_iff {cs tail : List Char} {p : Pair} :
    scanPair cs = .ok (p, tail) ↔ p.Delimited ∧ cs = p.text ++ tail := by
  constructor
  · intro h
    exact ⟨delimited_of_scanPair h, scanPair_append h⟩
  · rintro ⟨hp, rfl⟩
    exact hp.scanPair tail

/-! ## All pairs of a text -/

/-- The recursion of `pairs` without the proofs that its termination needs. -/
theorem pairs_eq (cs : List Char) : pairs cs =
    match cs.dropWhile (· = ' ') with
    | [] => ([], none)
    | c :: rest =>
      match scanPair (c :: rest) with
      | .error part => ([], some part)
      | .ok (p, tail) => (p :: (pairs tail).1, (pairs tail).2) := by
  fun_cases pairs cs with
  | case1 h => simp [h]
  | case2 c rest h part hs => simp [h, hs]
  | case3 c rest h p tail hs more fault hmore => simp [h, hs, hmore]

theorem pairs_nil : pairs [] = ([], none) := by
  rw [pairs_eq]
  rfl

theorem pairs_blank (cs : List Char) : pairs (' ' :: cs) = pairs cs := by
  rw [pairs_eq, pairs_eq cs, List.dropWhile_cons_of_pos (by simp)]

theorem pairs_blanks_append {bs : List Char} (h : ∀ b ∈ bs, b = ' ') (cs : List Char) :
    pairs (bs ++ cs) = pairs cs := by
  induction bs with
  | nil => rfl
  | cons b rest ih =>
    rw [h b (by simp), List.cons_append, pairs_blank, ih fun x hx => h x (by simp [hx])]

/-- A key does not start with a blank. -/
theorem Pair.Delimited.text_eq_cons {p : Pair} (h : p.Delimited) :
    ∃ c cs, p.text = c :: cs ∧ c ≠ ' ' := by
  obtain ⟨c, cs, hkey⟩ := List.exists_cons_of_ne_nil h.key_ne_nil
  refine ⟨c, cs ++ ':' :: p.quoted, by simp [Pair.text, hkey], ?_⟩
  rintro rfl
  exact absurd (h.keyChars ' ' (by simp [hkey])) (by decide)

/-- One step of `pairs`: the pair in front is taken off. -/
theorem pairs_text_append {p : Pair} (h : p.Delimited) (tail : List Char) :
    pairs (p.text ++ tail) = (p :: (pairs tail).1, (pairs tail).2) := by
  obtain ⟨c, cs, htext, hc⟩ := h.text_eq_cons
  have hscan := h.scanPair tail
  rw [htext, List.cons_append] at hscan ⊢
  rw [pairs_eq, List.dropWhile_cons_of_neg (by simpa using hc)]
  simp only [hscan]

/-- Where the scanner finds a pair behind the blanks, the text is the blanks, the pair and its
tail. -/
theorem exists_blanks_of_scanPair {cs rest tail : List Char} {p : Pair}
    (hrest : cs.dropWhile (· = ' ') = rest) (hscan : scanPair rest = .ok (p, tail)) :
    p.Delimited ∧ ∃ bs : List Char, (∀ b ∈ bs, b = ' ') ∧ cs = bs ++ (p.text ++ tail) := by
  obtain ⟨hp, htext⟩ := scanPair_eq_ok_iff.1 hscan
  refine ⟨hp, cs.takeWhile (· = ' '), ?_, ?_⟩
  · intro b hb
    simpa using List.mem_takeWhile_imp hb
  · rw [← htext, ← hrest, List.takeWhile_append_dropWhile]

/-- What is found in a text is found first in every text that starts with it: a pair that the end of
the text leaves open is the only one that more text can change. -/
theorem pairs_prefix_append (cs more : List Char) : (pairs cs).1 <+: (pairs (cs ++ more)).1 := by
  fun_induction Tag.pairs cs with
  | case1 => exact List.nil_prefix
  | case2 => exact List.nil_prefix
  | case3 cs c rest hrest p tail hscan ps fault hps ih =>
    obtain ⟨hp, bs, hbs, hcs⟩ := exists_blanks_of_scanPair hrest hscan
    rw [hps] at ih
    rw [hcs, List.append_assoc, List.append_assoc, pairs_blanks_append hbs, pairs_text_append hp]
    exact List.cons_prefix_cons.2 ⟨rfl, ih⟩

/-- The text consists of the given pairs, with blanks before, between and behind them. -/
inductive ConsistsOf : List Char → List Pair → Prop where
  | blanks {bs : List Char} (hbs : ∀ b ∈ bs, b = ' ') : ConsistsOf bs []
  | cons {bs tail : List Char} {p : Pair} {ps : List Pair} (hbs : ∀ b ∈ bs, b = ' ')
      (hp : p.Delimited) (rest : ConsistsOf tail ps) :
      ConsistsOf (bs ++ (p.text ++ tail)) (p :: ps)

theorem ConsistsOf.pairs {cs : List Char} {ps : List Pair} (h : ConsistsOf cs ps) :
    pairs cs = (ps, none) := by
  induction h with
  | @blanks bs hbs =>
    have hpairs := pairs_blanks_append hbs []
    rwa [List.append_nil, pairs_nil] at hpairs
  | cons hbs hp _ ih => rw [pairs_blanks_append hbs, pairs_text_append hp, ih]

theorem consistsOf_of_pairs {cs : List Char} {ps : List Pair} (h : pairs cs = (ps, none)) :
    ConsistsOf cs ps := by
  fun_induction Tag.pairs cs generalizing ps with
  | case1 cs hblank =>
    simp only [Prod.mk.injEq, and_true] at h
    subst h
    refine .blanks fun b hb => ?_
    simpa using List.dropWhile_eq_nil_iff.1 hblank b hb
  | case2 => simp at h
  | case3 cs c rest hrest p tail hscan more fault hmore ih =>
    simp only [Prod.mk.injEq] at h
    obtain ⟨rfl, rfl⟩ := h
    obtain ⟨hp, bs, hbs, hcs⟩ := exists_blanks_of_scanPair hrest hscan
    rw [hcs]
    exact .cons hbs hp (ih hmore)

/-- A text is read to its end exactly if it consists of pairs and blanks. -/
theorem pairs_eq_none_iff {cs : List Char} {ps : List Pair} :
    pairs cs = (ps, none) ↔ ConsistsOf cs ps :=
  ⟨consistsOf_of_pairs, ConsistsOf.pairs⟩

theorem ConsistsOf.delimited {cs : List Char} {ps : List Pair} (h : ConsistsOf cs ps) :
    ∀ p ∈ ps, p.Delimited := by
  induction h with
  | blanks => simp
  | cons _ hp _ ih =>
    intro q hq
    rcases List.mem_cons.1 hq with rfl | hq
    · exact hp
    · exact ih q hq

theorem ConsistsOf.mem_iff {cs : List Char} {ps : List Pair} (h : ConsistsOf cs ps) {x : Char}
    (hx : x ≠ ' ') : x ∈ cs ↔ ∃ p ∈ ps, x ∈ p.text := by
  have hblanks {bs : List Char} (hbs : ∀ b ∈ bs, b = ' ') : x ∉ bs := fun hmem => hx (hbs x hmem)
  induction h with
  | blanks hbs => simp [hblanks hbs]
  | cons hbs _ _ ih => simp [hblanks hbs, ih]

/-! ## Pairs put together -/

/-- Pairs separated by single blanks. -/
def joinPairs : List Pair → List Char
  | [] => []
  | [p] => p.text
  | p :: rest => p.text ++ ' ' :: joinPairs rest

theorem consistsOf_joinPairs {ps : List Pair} (h : ∀ p ∈ ps, p.Delimited) :
    ConsistsOf (joinPairs ps) ps := by
  -- all but the first pair have a blank in front, so the statement is proved with blanks in front
  suffices hblanks : ∀ bs : List Char, (∀ b ∈ bs, b = ' ') → ConsistsOf (bs ++ joinPairs ps) ps by
    exact hblanks [] (by simp)
  induction ps with
  | nil =>
    intro bs hbs
    rw [joinPairs, List.append_nil]
    exact .blanks hbs
  | cons p rest ih =>
    intro bs hbs
    have hp := h p (by simp)
    have hrest := ih fun q hq => h q (by simp [hq])
    cases rest with
    | nil =>
      have hcons := ConsistsOf.cons hbs hp (@ConsistsOf.blanks [] (by simp))
      rwa [List.append_nil] at hcons
    | cons q more => exact .cons hbs hp (hrest [' '] (by simp))

end Tag

end StructTags
