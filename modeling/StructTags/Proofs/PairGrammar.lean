import StructTags.Proofs.TagReaders

/-!
# The grammar of a tag

A tag is blanks, and then pairs with blanks behind each of them. A `Layout` is one way to write a
text in this form, and `Layout.Cuts` says that its pairs follow the rules. The rules are stated on
their own, without the scanner: a key is a run of bytes (`isKeyByte`), and a value ends at its first
quote that no backslash escapes (`Unclosed`).

* `Layout.Cuts.eq`: a text is cut in at most one way;
* `exists_cuts_or_breaks`: a text that cannot be cut has a first place where a pair should start
  and none does;
* `parseChars_of_breaks`: what is wrong at that place decides the error, whatever follows.

`TagSet.parse_grammar` puts them together.
-/

namespace StructTags

namespace Tag

open Literal

/-! ## Keys as bytes -/

/-- A byte that may stand in a key. -/
def isKeyByte (b : Utf8.Byte) : Bool :=
  0x20 < b && b ≠ 0x3A && b ≠ 0x22 && b ≠ 0x7F

theorem encodeChar_ascii {c : Char} (h : c.toNat ≤ 0x7F) :
    String.utf8EncodeChar c = [UInt8.ofNat c.toNat] := by
  have hval : c.val.toNat ≤ 0x7F := h
  rw [String.utf8EncodeChar, if_pos hval]
  rfl

/-- A character beyond ASCII has only bytes beyond ASCII. -/
theorem le_of_mem_encodeChar {c : Char} (h : 0x7F < c.toNat) :
    ∀ b ∈ String.utf8EncodeChar c, 0x80 ≤ b.toNat := by
  have hval : 0x7F < c.val.toNat := h
  fun_cases String.utf8EncodeChar with
  | case1 v hle => omega
  | case2 v => simp; omega
  | case3 v => simp; omega
  | case4 v => simp; omega

/-- A byte of a character may stand in a key exactly if the character may. -/
theorem isKeyByte_of_mem_encodeChar {c : Char} {b : Utf8.Byte} (hb : b ∈ String.utf8EncodeChar c) :
    isKeyByte b = isKeyChar c := by
  have hchar : isKeyChar c = true ↔
      0x20 < c.toNat ∧ c.toNat ≠ 0x3A ∧ c.toNat ≠ 0x22 ∧ c.toNat ≠ 0x7F := by
    simp only [isKeyChar, Bool.and_eq_true, decide_eq_true_eq, ne_eq, ← Char.toNat_inj, and_assoc]
    rfl
  have hbyte : isKeyByte b = true ↔
      0x20 < b.toNat ∧ b.toNat ≠ 0x3A ∧ b.toNat ≠ 0x22 ∧ b.toNat ≠ 0x7F := by
    simp only [isKeyByte, Bool.and_eq_true, decide_eq_true_eq, ne_eq, ← UInt8.toNat_inj,
      UInt8.lt_iff_toNat_lt, and_assoc]
    rfl
  rw [Bool.eq_iff_iff, hchar, hbyte]
  by_cases hascii : c.toNat ≤ 0x7F
  · rw [encodeChar_ascii hascii, List.mem_singleton] at hb
    have hnat : b.toNat = c.toNat := by
      rw [hb]
      simp
      omega
    rw [hnat]
  · -- both are beyond ASCII, where nothing is forbidden
    have hhigh := le_of_mem_encodeChar (by omega) b hb
    omega

theorem forall_isKeyByte_iff {key : List Char} :
    (∀ b ∈ Utf8.encode key, isKeyByte b = true) ↔ ∀ c ∈ key, isKeyChar c = true := by
  constructor
  · intro h c hc
    obtain ⟨b, bs, hbytes⟩ := List.exists_cons_of_ne_nil (String.utf8EncodeChar_ne_nil (c := c))
    have hb : b ∈ String.utf8EncodeChar c := by simp [hbytes]
    rw [← isKeyByte_of_mem_encodeChar hb]
    exact h b (List.mem_flatMap.2 ⟨c, hc, hb⟩)
  · intro h b hb
    obtain ⟨c, hc, hmem⟩ := List.mem_flatMap.1 hb
    rw [isKeyByte_of_mem_encodeChar hmem]
    exact h c hc

/-- The first byte of a text may stand in a key exactly if its first character may. -/
theorem head?_encode_iff {cs : List Char} :
    (∃ b ∈ (Utf8.encode cs).head?, isKeyByte b = false) ↔
      ∃ c ∈ cs.head?, isKeyChar c = false := by
  cases cs with
  | nil => simp [Utf8.encode]
  | cons c rest =>
    obtain ⟨b, bs, hbytes⟩ := List.exists_cons_of_ne_nil (String.utf8EncodeChar_ne_nil (c := c))
    have hb : isKeyByte b = isKeyChar c := isKeyByte_of_mem_encodeChar (by simp [hbytes])
    simp [Utf8.encode, hbytes, hb]

/-! ## Values in quotes -/

/-- A text without a closing quote: each of its double quotes is escaped by a backslash. -/
inductive Unclosed : List Char → Prop where
  | nil : Unclosed []
  | plain {c : Char} {cs : List Char} (hquote : c ≠ '"') (hslash : c ≠ '\\')
      (rest : Unclosed cs) : Unclosed (c :: cs)
  | escaped {c : Char} {cs : List Char} (rest : Unclosed cs) : Unclosed ('\\' :: c :: cs)

theorem Unclosed.closed {body : List Char} (h : Unclosed body) : Closed (body ++ ['"']) := by
  unfold Closed
  induction h with
  | nil => rfl
  | plain hquote hslash _ ih =>
    rw [List.cons_append, closeQuote?_plain hquote hslash, ih]
    rfl
  | escaped _ ih => simp only [List.cons_append, closeQuote?, ih, Option.map_some]

theorem unclosed_of_closeQuote? {cs inner tail : List Char}
    (h : closeQuote? cs = some (inner, tail)) : ∃ body, inner = body ++ ['"'] ∧ Unclosed body := by
  fun_induction closeQuote? cs generalizing inner tail with
  | case1 => simp at h
  | case2 rest =>
    simp only [Option.some.injEq, Prod.mk.injEq] at h
    exact ⟨[], by simp [← h.1], .nil⟩
  | case3 c rest ih =>
    obtain ⟨⟨i, t⟩, hr, hc⟩ := Option.map_eq_some_iff.1 h
    obtain ⟨body, rfl, hbody⟩ := ih hr
    simp only [Prod.mk.injEq] at hc
    exact ⟨'\\' :: c :: body, by simp [← hc.1], .escaped hbody⟩
  | case4 c rest hquote hslash ih =>
    obtain ⟨⟨i, t⟩, hr, hc⟩ := Option.map_eq_some_iff.1 h
    obtain ⟨body, rfl, hbody⟩ := ih hr
    simp only [Prod.mk.injEq] at hc
    have hplain : c ≠ '\\' := by
      rintro rfl
      cases rest with
      | nil => simp [closeQuote?] at hr
      | cons x xs => exact hslash x xs rfl rfl
    exact ⟨c :: body, by simp [← hc.1], .plain hquote hplain hbody⟩

/-! ## Pairs -/

/-- A pair that follows the rules of the grammar. -/
structure Pair.WellFormed (p : Pair) : Prop where
  key_ne_nil : p.key ≠ []
  keyBytes : ∀ b ∈ Utf8.encode p.key, isKeyByte b = true
  quoted : ∃ body, p.quoted = inQuotes body ∧ Unclosed body
  value : ∃ value, unquote (String.ofList p.quoted) = .ok value

theorem exists_unquote_iff {cs : List Char} :
    (∃ value, unquote (String.ofList cs) = .ok value) ↔ ∃ value, decode cs = .ok value := by
  constructor
  · rintro ⟨value, h⟩
    obtain ⟨text, htext, -⟩ := map_eq_ok.1 h
    rw [String.toList_ofList] at htext
    exact ⟨text, htext⟩
  · rintro ⟨text, h⟩
    refine ⟨String.ofList text, map_eq_ok.2 ⟨text, ?_, rfl⟩⟩
    rwa [String.toList_ofList]

theorem Pair.wellFormed_iff {p : Pair} :
    p.WellFormed ↔ p.Delimited ∧ ∃ value, decode p.quoted = .ok value := by
  constructor
  · rintro ⟨hne, hkey, ⟨body, hquoted, hbody⟩, hvalue⟩
    exact ⟨⟨hne, forall_isKeyByte_iff.1 hkey, body ++ ['"'], hquoted, hbody.closed⟩,
      exists_unquote_iff.1 hvalue⟩
  · rintro ⟨⟨hne, hkey, inner, hquoted, hclosed⟩, hvalue⟩
    obtain ⟨body, rfl, hbody⟩ := unclosed_of_closeQuote? hclosed
    exact ⟨hne, forall_isKeyByte_iff.2 hkey, ⟨body, hquoted, hbody⟩, exists_unquote_iff.2 hvalue⟩

/-! ## Layouts -/

def blanks (n : Nat) : List Char :=
  List.replicate n ' '

theorem eq_of_mem_blanks {n : Nat} : ∀ b ∈ blanks n, b = ' ' :=
  fun _ hb => List.eq_of_mem_replicate hb

/-- Blanks in front, and pairs with the number of blanks behind each of them. -/
@[ext] structure Layout where
  lead : Nat
  items : List (Pair × Nat)
deriving DecidableEq, Repr

/-- Pairs and the blanks behind them. -/
def itemsText : List (Pair × Nat) → List Char
  | [] => []
  | (p, n) :: rest => p.text ++ (blanks n ++ itemsText rest)

namespace Layout

def text (l : Layout) : List Char :=
  blanks l.lead ++ itemsText l.items

/-- The layout is a way to write the text as pairs that follow the rules. -/
structure Cuts (l : Layout) (cs : List Char) : Prop where
  wellFormed : ∀ x ∈ l.items, x.1.WellFormed
  text_eq : l.text = cs

theorem cuts_blanks (n : Nat) : Cuts ⟨n, []⟩ (blanks n) :=
  ⟨by simp, by simp [text, itemsText]⟩

theorem Cuts.cons {l : Layout} {cs : List Char} (h : l.Cuts cs) {p : Pair} (hp : p.WellFormed)
    (n : Nat) : Cuts ⟨n, (p, l.lead) :: l.items⟩ (blanks n ++ (p.text ++ cs)) := by
  refine ⟨List.forall_mem_cons.2 ⟨hp, h.wellFormed⟩, ?_⟩
  rw [← h.text_eq]
  rfl

/-- Blanks end where something else starts. -/
theorem blanks_append_inj {n m : Nat} {xs ys : List Char} (hx : xs.head? ≠ some ' ')
    (hy : ys.head? ≠ some ' ') (h : blanks n ++ xs = blanks m ++ ys) : n = m ∧ xs = ys := by
  induction n generalizing m with
  | zero =>
    cases m with
    | zero => exact ⟨rfl, h⟩
    | succ m =>
      have hxs : xs = ' ' :: (blanks m ++ ys) := h
      simp [hxs] at hx
  | succ n ih =>
    cases m with
    | zero =>
      have hys : ' ' :: (blanks n ++ xs) = ys := h
      simp [← hys] at hy
    | succ m =>
      have htail : blanks n ++ xs = blanks m ++ ys := List.tail_eq_of_cons_eq h
      obtain ⟨rfl, hxs⟩ := ih htail
      exact ⟨rfl, hxs⟩

theorem head?_itemsText {items : List (Pair × Nat)} (h : ∀ x ∈ items, x.1.WellFormed) :
    (itemsText items).head? ≠ some ' ' := by
  cases items with
  | nil => simp [itemsText]
  | cons x rest =>
    have hp := Pair.wellFormed_iff.1 (h x (by simp))
    obtain ⟨c, cs, htext, hc⟩ := hp.1.text_eq_cons
    simpa [itemsText, htext] using hc

theorem itemsText_inj {items items' : List (Pair × Nat)} (h : ∀ x ∈ items, x.1.WellFormed)
    (h' : ∀ x ∈ items', x.1.WellFormed) (heq : itemsText items = itemsText items') :
    items = items' := by
  have hcons {x : Pair × Nat} {rest : List (Pair × Nat)} (hx : x.1.WellFormed) :
      itemsText (x :: rest) ≠ [] := by
    obtain ⟨c, cs, htext, -⟩ := (Pair.wellFormed_iff.1 hx).1.text_eq_cons
    simp [itemsText, htext]
  induction items generalizing items' with
  | nil =>
    cases items' with
    | nil => rfl
    | cons x' rest' => exact absurd heq.symm (hcons (h' x' (by simp)))
  | cons x rest ih =>
    cases items' with
    | nil => exact absurd heq (hcons (h x (by simp)))
    | cons x' rest' =>
      obtain ⟨p, n⟩ := x
      obtain ⟨p', n'⟩ := x'
      simp only [List.forall_mem_cons] at h h'
      -- the scanner finds only one pair in front of a text
      have hscan := (Pair.wellFormed_iff.1 h.1).1.scanPair (blanks n ++ itemsText rest)
      have hscan' := (Pair.wellFormed_iff.1 h'.1).1.scanPair (blanks n' ++ itemsText rest')
      rw [itemsText, itemsText] at heq
      rw [heq, hscan'] at hscan
      obtain ⟨rfl, htail⟩ := Prod.mk.inj (Except.ok.inj hscan)
      obtain ⟨rfl, hrest⟩ := blanks_append_inj (head?_itemsText h'.2) (head?_itemsText h.2) htail
      rw [ih h.2 h'.2 hrest.symm]

/-- A text is cut in at most one way. -/
theorem Cuts.eq {l l' : Layout} {cs : List Char} (h : l.Cuts cs) (h' : l'.Cuts cs) : l = l' := by
  obtain ⟨hlead, hitems⟩ := blanks_append_inj (head?_itemsText h.wellFormed)
    (head?_itemsText h'.wellFormed) (h.text_eq.trans h'.text_eq.symm)
  exact Layout.ext hlead (itemsText_inj h.wellFormed h'.wellFormed hitems)

/-- A text that is cut starts with a blank or with a key. -/
theorem Cuts.head {l : Layout} {c : Char} {cs : List Char} (h : l.Cuts (c :: cs)) :
    c = ' ' ∨ isKeyChar c = true := by
  obtain ⟨hwf, htext⟩ := h
  obtain ⟨n, items⟩ := l
  cases n with
  | succ n => exact .inl (List.head_eq_of_cons_eq htext).symm
  | zero =>
    cases items with
    | nil => cases htext
    | cons x rest =>
      have hp := (Pair.wellFormed_iff.1 (hwf x (by simp))).1
      obtain ⟨k, ks, hkey⟩ := List.exists_cons_of_ne_nil hp.key_ne_nil
      have hk : k = c := by
        simp only [text, blanks, itemsText, Pair.text, hkey] at htext
        exact List.head_eq_of_cons_eq htext
      exact .inr (hk ▸ hp.keyChars k (by simp [hkey]))

end Layout

/-! ## Texts that break the rules -/

/-- A pair should start here, and none does that follows the rules. -/
structure Breaks (cs : List Char) : Prop where
  ne_nil : cs ≠ []
  not_blank : cs.head? ≠ some ' '
  no_pair : ∀ (p : Pair) (tail : List Char), p.WellFormed → cs ≠ p.text ++ tail

/-- The text starts with a byte that no key has. -/
def KeyMissing (cs : List Char) : Prop :=
  ∃ b ∈ (Utf8.encode cs).head?, isKeyByte b = false

/-- The text starts with `key`, which is its longest run of bytes that may stand in a key. -/
structure KeyRun (cs key rest : List Char) : Prop where
  text_eq : cs = key ++ rest
  keyBytes : ∀ b ∈ Utf8.encode key, isKeyByte b = true
  longest : rest = [] ∨ ∃ b ∈ (Utf8.encode rest).head?, isKeyByte b = false

/-- The text starts with a key, but no colon with at least one more byte follows it. -/
def ValueMissing (cs : List Char) : Prop :=
  ∃ key rest, KeyRun cs key rest ∧ key ≠ [] ∧ ¬ ∃ c more, rest = ':' :: c :: more

/-- The part of a pair that is wrong. -/
def Blames (cs : List Char) : Part → Prop
  | .key => KeyMissing cs
  | .pair => ValueMissing cs
  | .value => ¬ KeyMissing cs ∧ ¬ ValueMissing cs

theorem keyMissing_iff {cs : List Char} :
    KeyMissing cs ↔ cs ≠ [] ∧ cs.takeWhile isKeyChar = [] := by
  rw [KeyMissing, head?_encode_iff]
  cases cs with
  | nil => simp
  | cons c rest => simp [List.takeWhile_cons]

theorem keyRun_iff {cs key rest : List Char} :
    KeyRun cs key rest ↔ key = cs.takeWhile isKeyChar ∧ rest = cs.dropWhile isKeyChar := by
  constructor
  · rintro ⟨rfl, hkey, hrest⟩
    rw [forall_isKeyByte_iff] at hkey
    rw [head?_encode_iff] at hrest
    rw [List.takeWhile_append_of_pos hkey, List.dropWhile_append_of_pos hkey]
    cases rest with
    | nil => simp
    | cons c more =>
      have hc : isKeyChar c = false := by simpa using hrest
      simp [hc]
  · rintro ⟨rfl, rfl⟩
    refine ⟨List.takeWhile_append_dropWhile.symm, ?_, ?_⟩
    · exact forall_isKeyByte_iff.2 fun c hc => List.mem_takeWhile_imp hc
    · rw [head?_encode_iff]
      cases hrest : cs.dropWhile isKeyChar with
      | nil => exact .inl rfl
      | cons c more =>
        have hhead := List.head?_dropWhile_not isKeyChar cs
        rw [hrest] at hhead
        exact .inr ⟨c, rfl, by simpa using hhead⟩

theorem valueMissing_iff {cs : List Char} :
    ValueMissing cs ↔ cs.takeWhile isKeyChar ≠ [] ∧
      ¬ ∃ c more, cs.dropWhile isKeyChar = ':' :: c :: more := by
  constructor
  · rintro ⟨key, rest, hrun, hne, hcolon⟩
    obtain ⟨rfl, rfl⟩ := keyRun_iff.1 hrun
    exact ⟨hne, hcolon⟩
  · rintro ⟨hne, hcolon⟩
    exact ⟨_, _, keyRun_iff.2 ⟨rfl, rfl⟩, hne, hcolon⟩

/-- Only one part of a pair is to blame. -/
theorem Blames.eq {cs : List Char} {part part' : Part} (h : Blames cs part)
    (h' : Blames cs part') : part = part' := by
  have hboth : ¬ (KeyMissing cs ∧ ValueMissing cs) := by
    rintro ⟨hkey, hvalue⟩
    exact (valueMissing_iff.1 hvalue).1 (keyMissing_iff.1 hkey).2
  cases part <;> cases part' <;> simp_all [Blames]

/-- What the scanner complains about is to blame, and if it finds a pair, only the value can be. -/
theorem exists_blames_scanPair {cs : List Char} (hne : cs ≠ []) :
    ∃ part, Blames cs part ∧
      (scanPair cs = .error part ∨ part = .value ∧ ∃ x, scanPair cs = .ok x) := by
  by_cases hkey : cs.takeWhile isKeyChar = []
  · exact ⟨.key, keyMissing_iff.2 ⟨hne, hkey⟩, .inl (by simp [scanPair, hkey])⟩
  have hnokey : ¬ KeyMissing cs := fun h => hkey (keyMissing_iff.1 h).2
  have hnonempty : (cs.takeWhile isKeyChar).isEmpty = false := by simpa using hkey
  simp only [scanPair, hnonempty, Bool.false_eq_true, if_false]
  by_cases hcolon : ∃ c more, cs.dropWhile isKeyChar = ':' :: c :: more
  · refine ⟨.value, ⟨hnokey, fun h => (valueMissing_iff.1 h).2 hcolon⟩, ?_⟩
    split
    · next rest hrest =>
      cases closeQuote? rest with
      | none => exact .inl rfl
      | some x => exact .inr ⟨rfl, _, rfl⟩
    · exact .inl rfl
    · next hother =>
      obtain ⟨c, more, hdrop⟩ := hcolon
      exact absurd hdrop (hother c more)
  · refine ⟨.pair, valueMissing_iff.2 ⟨hkey, hcolon⟩, .inl ?_⟩
    split
    · next hrest => exact absurd ⟨_, _, hrest⟩ hcolon
    · next hrest => exact absurd ⟨_, _, hrest⟩ hcolon
    · rfl

/-- A text starts with blanks, and something else follows them if there is more. -/
theorem exists_blanks_append (cs : List Char) :
    ∃ n, cs = blanks n ++ cs.dropWhile (· = ' ') ∧ (cs.dropWhile (· = ' ')).head? ≠ some ' ' := by
  have hblanks : ∀ b ∈ cs.takeWhile (· = ' '), b = ' ' := fun b hb => by
    simpa using List.mem_takeWhile_imp hb
  refine ⟨(cs.takeWhile (· = ' ')).length, ?_, ?_⟩
  · rw [blanks, ← List.eq_replicate_of_mem hblanks, List.takeWhile_append_dropWhile]
  · intro hblank
    have hnot := List.head?_dropWhile_not (· = ' ') cs
    simp [hblank] at hnot

/-- If the scanner finds no pair that follows the rules, then there is none. -/
theorem breaks_of_scanPair {cs : List Char} (hne : cs ≠ []) (hblank : cs.head? ≠ some ' ')
    (h : ∀ p tail, scanPair cs = .ok (p, tail) → ¬ p.WellFormed) : Breaks cs := by
  refine ⟨hne, hblank, ?_⟩
  rintro p tail hp rfl
  exact h p tail ((Pair.wellFormed_iff.1 hp).1.scanPair tail) hp

/-- A text is cut by a layout, or it is cut up to a place where a pair should start and none
does. -/
theorem exists_cuts_or_breaks (cs : List Char) :
    (∃ l : Layout, l.Cuts cs) ∨
      ∃ (l : Layout) (front rest : List Char), cs = front ++ rest ∧ l.Cuts front ∧ Breaks rest := by
  fun_induction Tag.pairs cs with
  | case1 cs hrest =>
    obtain ⟨n, hcs, -⟩ := exists_blanks_append cs
    rw [hrest, List.append_nil] at hcs
    exact .inl ⟨_, hcs ▸ Layout.cuts_blanks n⟩
  | case2 cs c rest hrest part hscan =>
    obtain ⟨n, hcs, hhead⟩ := exists_blanks_append cs
    rw [hrest] at hcs hhead
    refine .inr ⟨_, _, _, hcs, Layout.cuts_blanks n, breaks_of_scanPair (by simp) hhead ?_⟩
    intro p tail hok
    rw [hscan] at hok
    cases hok
  | case3 cs c rest hrest p tail hscan more fault hmore ih =>
    obtain ⟨n, hcs, hhead⟩ := exists_blanks_append cs
    rw [hrest] at hcs hhead
    by_cases hp : p.WellFormed
    · rw [scanPair_append hscan] at hcs
      rcases ih with ⟨l, hl⟩ | ⟨l, front, back, rfl, hl, hbreaks⟩
      · exact .inl ⟨_, hcs ▸ hl.cons hp n⟩
      · refine .inr ⟨_, _, back, ?_, hl.cons hp n, hbreaks⟩
        rw [hcs, List.append_assoc, List.append_assoc]
    · refine .inr ⟨_, _, _, hcs, Layout.cuts_blanks n, breaks_of_scanPair (by simp) hhead ?_⟩
      intro q tail' hok
      rw [hscan] at hok
      cases hok
      exact hp

end Tag

namespace TagSet

open Tag Literal

theorem parseChars_blanks (n : Nat) (cs : List Char) :
    parseChars (blanks n ++ cs) = parseChars cs := by
  simp only [parseChars, pairs_blanks_append eq_of_mem_blanks]

theorem parseChars_text_append {p : Pair} (hp : p.Delimited) (tail : List Char) :
    parseChars (p.text ++ tail) = do
      let e ← entryOf p
      let s ← parseChars tail
      return ⟨e :: s.entries⟩ := by
  simp only [parseChars, pairs_text_append hp, List.mapM_cons]
  cases entryOf p with
  | error part => rfl
  | ok e =>
    cases (Tag.pairs tail).1.mapM entryOf with
    | error part => rfl
    | ok es =>
      cases (Tag.pairs tail).2 with
      | none => rfl
      | some part => rfl

/-- The part to blame at a place that breaks the rules is the error. -/
theorem parseChars_of_breaks {cs : List Char} (h : Breaks cs) :
    ∃ part, Blames cs part ∧ parseChars cs = .error part := by
  obtain ⟨part, hblames, hscan⟩ := exists_blames_scanPair h.ne_nil
  refine ⟨part, hblames, ?_⟩
  rcases hscan with hscan | ⟨rfl, ⟨p, tail⟩, hscan⟩
  · obtain ⟨c, rest, rfl⟩ := List.exists_cons_of_ne_nil h.ne_nil
    have hc : c ≠ ' ' := by simpa using h.not_blank
    have hpairs : Tag.pairs (c :: rest) = ([], some part) := by
      rw [pairs_eq, List.dropWhile_cons_of_neg (by simpa using hc)]
      simp only [hscan]
    simp only [parseChars, hpairs]
    rfl
  · -- a pair is found, so its value cannot be decoded
    obtain ⟨hp, hcs⟩ := scanPair_eq_ok_iff.1 hscan
    have hentry : entryOf p = .error .value := by
      unfold entryOf
      cases hdecode : decode p.quoted with
      | error fault => rfl
      | ok value =>
        exact absurd hcs (h.no_pair p tail (Pair.wellFormed_iff.2 ⟨hp, value, hdecode⟩))
    rw [hcs, parseChars_text_append hp, hentry]
    rfl

/-- The entry is what the pair says, and keeps its text. -/
structure ReadFrom (e : TagEntry) (p : Pair) : Prop where
  key_eq : e.key.toList = p.key
  source_eq : e.source? = some (String.ofList p.text)
  value_eq : ∃ value, unquote (String.ofList p.quoted) = .ok value ∧ e.value = .ofText value

theorem exists_readFrom {p : Pair} (h : p.WellFormed) :
    ∃ e, entryOf p = .ok e ∧ ReadFrom e p := by
  obtain ⟨value, hvalue⟩ := (Pair.wellFormed_iff.1 h).2
  refine ⟨_, entryOf_eq_ok_iff.2 ⟨value, hvalue, rfl⟩, String.toList_ofList, rfl, _, ?_, rfl⟩
  rw [unquote, String.toList_ofList, hvalue]
  rfl

/-- The entries of a text that is cut come in front of those of what follows it. -/
theorem exists_entries_of_cuts {l : Layout} {front : List Char} (h : l.Cuts front) :
    ∃ es, List.Forall₂ (fun x e => ReadFrom e x.1) l.items es ∧
      ∀ rest, parseChars (front ++ rest) = (fun s => ⟨es ++ s.entries⟩) <$> parseChars rest := by
  obtain ⟨hwf, rfl⟩ := h
  obtain ⟨n, items⟩ := l
  simp only [Layout.text, List.append_assoc, parseChars_blanks]
  induction items with
  | nil => exact ⟨[], .nil, fun rest => by simp [itemsText]⟩
  | cons x more ih =>
    obtain ⟨p, m⟩ := x
    simp only [List.forall_mem_cons] at hwf
    obtain ⟨e, hentry, hread⟩ := exists_readFrom hwf.1
    obtain ⟨es, hall, hrun⟩ := ih hwf.2
    refine ⟨e :: es, .cons hread hall, fun rest => ?_⟩
    rw [itemsText, List.append_assoc, List.append_assoc,
      parseChars_text_append (Pair.wellFormed_iff.1 hwf.1).1, parseChars_blanks, hrun, hentry]
    cases parseChars rest with
    | error part => rfl
    | ok s => rfl

theorem parseChars_of_cuts {l : Layout} {cs : List Char} (h : l.Cuts cs) :
    ∃ s, parseChars cs = .ok s ∧ List.Forall₂ (fun x e => ReadFrom e x.1) l.items s.entries := by
  obtain ⟨es, hall, hrun⟩ := exists_entries_of_cuts h
  have hnil : parseChars [] = .ok ⟨[]⟩ := by
    simp only [parseChars, pairs_nil]
    rfl
  have hcs := hrun []
  rw [List.append_nil, hnil] at hcs
  exact ⟨⟨es⟩, by simpa using hcs, hall⟩

theorem parseChars_of_cuts_append {l : Layout} {front rest : List Char} (h : l.Cuts front)
    (hrest : Breaks rest) :
    ∃ part, Blames rest part ∧ parseChars (front ++ rest) = .error part := by
  obtain ⟨es, -, hrun⟩ := exists_entries_of_cuts h
  obtain ⟨part, hblames, herror⟩ := parseChars_of_breaks hrest
  refine ⟨part, hblames, ?_⟩
  rw [hrun, herror]
  rfl

theorem exists_parseChars_iff {cs : List Char} :
    (∃ s, parseChars cs = .ok s) ↔ ∃ l : Layout, l.Cuts cs := by
  constructor
  · rintro ⟨s, hs⟩
    rcases exists_cuts_or_breaks cs with hcuts | ⟨l, front, rest, rfl, hl, hbreaks⟩
    · exact hcuts
    · obtain ⟨part, -, herror⟩ := parseChars_of_cuts_append hl hbreaks
      rw [herror] at hs
      cases hs
  · rintro ⟨l, hl⟩
    obtain ⟨s, hs, -⟩ := parseChars_of_cuts hl
    exact ⟨s, hs⟩

/-- Reading accepts exactly the texts of the grammar. Such a text can be cut in only one way, and
its entries are the pairs of that cut, in order and with their text. Any other text is cut up to a
first pair that breaks the rules, and the error says which part of that pair is wrong. -/
theorem parse_grammar (tag : String) :
    ((∃ s, parse tag = .ok s) ↔ ∃ l : Layout, l.Cuts tag.toList) ∧
      (∀ l l' : Layout, l.Cuts tag.toList → l'.Cuts tag.toList → l = l') ∧
      (∀ (s : TagSet) (l : Layout), parse tag = .ok s → l.Cuts tag.toList →
        List.Forall₂ (fun x e => ReadFrom e x.1) l.items s.entries) ∧
      ∀ part, parse tag = .error part ↔ ∃ (l : Layout) (front rest : List Char),
        tag.toList = front ++ rest ∧ l.Cuts front ∧ Breaks rest ∧ Blames rest part := by
  unfold parse
  refine ⟨exists_parseChars_iff, fun l l' hl hl' => hl.eq hl', ?_, fun part => ⟨?_, ?_⟩⟩
  · intro s l hs hl
    obtain ⟨s', hs', hall⟩ := parseChars_of_cuts hl
    rwa [Except.ok.inj (hs.symm.trans hs')]
  · intro herror
    rcases exists_cuts_or_breaks tag.toList with ⟨l, hl⟩ | ⟨l, front, rest, heq, hl, hbreaks⟩
    · obtain ⟨s, hs, -⟩ := parseChars_of_cuts hl
      rw [hs] at herror
      cases herror
    · obtain ⟨part', hblames, herror'⟩ := parseChars_of_cuts_append hl hbreaks
      rw [heq, herror'] at herror
      cases herror
      exact ⟨l, front, rest, heq, hl, hbreaks, hblames⟩
  · rintro ⟨l, front, rest, heq, hl, hbreaks, hblames⟩
    obtain ⟨part', hblames', herror⟩ := parseChars_of_cuts_append hl hbreaks
    rw [heq, herror, hblames.eq hblames']

/-- A key beyond ASCII, no blank between two pairs, and a quote behind two backslashes, which closes
its value; without the last quote the second value is wrong. -/
theorem parse_grammar_adjacent :
    (∃ l : Layout, l.Cuts " é:\"a\\\\\"b:\"\"".toList ∧ l.items.length = 2) ∧
      ∃ (l : Layout) (front rest : List Char), " é:\"a\\\\\"b:\"".toList = front ++ rest ∧
        l.Cuts front ∧ Breaks rest ∧ Blames rest .value := by
  have hok : parse " é:\"a\\\\\"b:\"\"" = .ok
      ⟨[⟨"é", ⟨"a\\", []⟩, some "é:\"a\\\\\""⟩, ⟨"b", ⟨"", []⟩, some "b:\"\""⟩]⟩ := by
    cbv
  have herror : parse " é:\"a\\\\\"b:\"" = .error .value := by
    cbv
  obtain ⟨haccepts, -, hentries, -⟩ := parse_grammar " é:\"a\\\\\"b:\"\""
  obtain ⟨l, hl⟩ := haccepts.1 ⟨_, hok⟩
  exact ⟨⟨l, hl, (hentries _ l hok hl).length_eq⟩,
    ((parse_grammar " é:\"a\\\\\"b:\"").2.2.2 .value).1 herror⟩

end TagSet

end StructTags
