import Mathlib
import StructTags.Json.Printer
import StructTags.Json.Reader

/-!
# JSON texts

What a JSON text is, said without a reader: `Json.tokens` lists the tokens of a value, `Written`
says how a token may be written, and `Layout` how tokens and blanks make up a text. A text is
`WellFormed` if it is laid out from the tokens of some value.

* `tokens?_of_layout`: the tokens of such a text are found again, whatever the blanks between them
  and however characters are escaped;
* `foldlM_tokens`: from the tokens of a value the reader builds the document that it is;
* `layout_prettyChars`: what the printer writes is laid out from the tokens of its value.

So a value that is printed is read back (`read?_pretty`).
-/

namespace StructTags

namespace Json

/-! ## Strings -/

/-- The characters that have an escape of two characters, each behind its letter. -/
def shortEscapes : List (Char × Char) :=
  [('"', '"'), ('\\', '\\'), ('/', '/'), ('b', '\x08'), ('f', '\x0c'), ('n', '\n'), ('r', '\r'),
    ('t', '\t')]

/-- `Spells cs body` says that `body` between quotes is a JSON string of the characters `cs`. A
character that needs two code units can only stand for itself here. -/
inductive Spells : List Char → List Char → Prop
  | nil : Spells [] []
  | plain {c : Char} {cs body : List Char} (hcontrol : 0x20 ≤ c.toNat) (hquote : c ≠ '"')
      (hslash : c ≠ '\\') (hrest : Spells cs body) : Spells (c :: cs) (c :: body)
  | short {letter c : Char} {cs body : List Char} (hletter : (letter, c) ∈ shortEscapes)
      (hrest : Spells cs body) : Spells (c :: cs) ('\\' :: letter :: body)
  | unit {h₁ h₂ h₃ h₄ : Char} {n : Nat} {cs body : List Char}
      (hunit : codeUnit? h₁ h₂ h₃ h₄ = some n) (hscalar : n.isValidChar)
      (hrest : Spells cs body) :
      Spells (Char.ofNat n :: cs) ('\\' :: 'u' :: h₁ :: h₂ :: h₃ :: h₄ :: body)

theorem unescape?_eq_some {letter c : Char} (h : (letter, c) ∈ shortEscapes) :
    unescape? letter = some c ∧ letter ≠ 'u' := by
  simp only [shortEscapes, List.mem_cons, Prod.mk.injEq, List.not_mem_nil, or_false] at h
  rcases h with ⟨rfl, rfl⟩ | ⟨rfl, rfl⟩ | ⟨rfl, rfl⟩ | ⟨rfl, rfl⟩ | ⟨rfl, rfl⟩ | ⟨rfl, rfl⟩ |
    ⟨rfl, rfl⟩ | ⟨rfl, rfl⟩ <;> decide

/-- A code unit that is a character by itself needs no partner. -/
theorem join?_unit {n : Nat} (h : n.isValidChar) (ps : List Piece) :
    join? (.unit n :: ps) = (join? ps).map (Char.ofNat n :: ·) := by
  have hhigh : isHighSurrogate n = false := by
    rw [isHighSurrogate, Bool.and_eq_false_iff, decide_eq_false_iff_not, decide_eq_false_iff_not]
    rcases h with h | ⟨h, -⟩ <;> omega
  have hlow : isLowSurrogate n = false := by
    rw [isLowSurrogate, Bool.and_eq_false_iff, decide_eq_false_iff_not, decide_eq_false_iff_not]
    rcases h with h | ⟨h, -⟩ <;> omega
  rcases ps with _ | ⟨_ | _, rest⟩ <;> simp [join?, hhigh, hlow]

/-- A string is read up to its closing quote, and its characters are found again. -/
theorem pieces?_of_spells {cs body : List Char} (h : Spells cs body) (rest : List Char) :
    ∃ ps, pieces? (body ++ '"' :: rest) = some (ps, rest) ∧ join? ps = some cs := by
  induction h with
  | nil => exact ⟨[], rfl, rfl⟩
  | @plain c cs body hcontrol hquote hslash hrest ih =>
    obtain ⟨ps, hps, hjoin⟩ := ih
    refine ⟨.char c :: ps, ?_, by rw [join?, hjoin]; rfl⟩
    -- Neither a quote nor a backslash, the character stands for itself.
    rw [List.cons_append, pieces?, if_neg (by omega), hps]
    · exact hquote
    · exact fun _ _ _ _ _ h => absurd h hslash
    · exact fun _ _ h => absurd h hslash
  | @short letter c cs body hletter hrest ih =>
    obtain ⟨ps, hps, hjoin⟩ := ih
    obtain ⟨hunescape, hu⟩ := unescape?_eq_some hletter
    refine ⟨.char c :: ps, ?_, by rw [join?, hjoin]; rfl⟩
    -- The letter `u` would start a code unit, but it has no short escape.
    rw [List.cons_append, List.cons_append, pieces?, hunescape, hps]
    exact fun _ _ _ _ _ h => absurd h hu
  | @unit h₁ h₂ h₃ h₄ n cs body hunit hscalar hrest ih =>
    -- What follows may be a code unit too, but not the partner of this one.
    obtain ⟨ps, hps, hjoin⟩ := ih
    refine ⟨.unit n :: ps, ?_, by rw [join?_unit hscalar, hjoin]; rfl⟩
    simp only [List.cons_append]
    rw [pieces?, hunit, hps]

/-- The four digits of a control character. -/
theorem writePadded_control : ∀ n < 0x20,
    Digits.writePadded 16 4 n = ['0', '0', Nat.digitChar (n / 16), Nat.digitChar (n % 16)] ∧
      codeUnit? '0' '0' (Nat.digitChar (n / 16)) (Nat.digitChar (n % 16)) = some n := by
  decide

theorem spells_escapeChar (c : Char) {cs body : List Char} (h : Spells cs body) :
    Spells (c :: cs) (escapeChar c ++ body) := by
  unfold escapeChar
  split_ifs with hquote hslash hback htab hline hfeed hreturn hcontrol
  -- All but the last two branches write a short escape.
  all_goals try
    subst c
    exact .short (by decide) h
  · obtain ⟨hdigits, hunit⟩ := writePadded_control c.toNat hcontrol
    rw [hdigits]
    have hspells := Spells.unit hunit (.inl (by omega)) h
    rwa [Char.ofNat_toNat] at hspells
  · exact .plain (by omega) hquote hslash h

theorem spells_flatMap_escapeChar (cs : List Char) : Spells cs (cs.flatMap escapeChar) := by
  induction cs with
  | nil => exact .nil
  | cons c cs ih => exact spells_escapeChar c ih

/-! ## Numbers -/

theorem mapM_eq_some_map {α β : Type} {f : α → Option β} {g : α → β} {as : List α}
    (h : ∀ a ∈ as, f a = some (g a)) : as.mapM f = some (as.map g) := by
  induction as with
  | nil => rfl
  | cons a as ih =>
    rw [List.mapM_cons, h a (List.mem_cons_self ..),
      ih fun b hb => h b (List.mem_cons_of_mem _ hb)]
    rfl

/-- Nothing that would continue a number stands at the front of a text. -/
def EndsNumber (rest : List Char) : Prop :=
  ∀ c ∈ rest.head?, c.isDigit = false ∧ c ≠ '.' ∧ c ≠ 'e' ∧ c ≠ 'E'

theorem isDigit_of_mem {n : Nat} {c : Char} (h : c ∈ Nat.toDigits 10 n) : c.isDigit :=
  Nat.isDigit_of_mem_toDigits (by decide) (by decide) h

theorem isDigit_of_eq_cons {n : Nat} {c : Char} {text rest : List Char}
    (h : Nat.toDigits 10 n ++ text = c :: rest) : c.isDigit := by
  obtain ⟨d, ds, hds⟩ := List.exists_cons_of_ne_nil (@Nat.toDigits_ne_nil n 10)
  rw [hds] at h
  obtain ⟨rfl, -⟩ := List.cons.inj h
  exact isDigit_of_mem (hds ▸ List.mem_cons_self ..)

theorem read?_toDigits (n : Nat) :
    Digits.read? 10 Digits.decimal? (Nat.toDigits 10 n) = some n := by
  have hdigit : ∀ c ∈ Nat.toDigits 10 n, Digits.decimal? c = some (c.toNat - '0'.toNat) := by
    intro c hc
    rw [Digits.decimal?, if_pos]
    simpa [Char.isDigit, Char.le_def, ge_iff_le] using isDigit_of_mem hc
  rw [Digits.read?, if_neg (by simp [Nat.toDigits_ne_nil]), mapM_eq_some_map hdigit,
    Option.map_some, Digits.value, List.foldl_map]
  simp only [Nat.mul_comm _ 10]
  rw [← Nat.ofDigitChars_eq_foldl, Nat.ofDigitChars_ten_toDigits]

/-- The digits of a number that is not zero do not start with a zero. -/
theorem head_toDigits {n : Nat} (h : 0 < n) : ∃ c ds, Nat.toDigits 10 n = c :: ds ∧ c ≠ '0' := by
  induction n using Nat.strongRecOn with
  | ind n ih =>
    rw [Nat.toDigits_eq_if (by decide)]
    split_ifs with hn
    · refine ⟨n.digitChar, [], rfl, ?_⟩
      interval_cases n <;> decide
    · obtain ⟨c, ds, hds, hc⟩ := ih (n / 10) (by omega) (by omega)
      exact ⟨c, ds ++ [(n % 10).digitChar], by rw [hds]; rfl, hc⟩

theorem EndsNumber.takeWhile {rest : List Char} (h : EndsNumber rest) :
    rest.takeWhile Char.isDigit = [] := by
  cases rest with
  | nil => rfl
  | cons c rest => rw [List.takeWhile_cons, (h c rfl).1]; rfl

theorem EndsNumber.dropWhile {rest : List Char} (h : EndsNumber rest) :
    rest.dropWhile Char.isDigit = rest := by
  cases rest with
  | nil => rfl
  | cons c rest => rw [List.dropWhile_cons, (h c rfl).1]; rfl

theorem integerPart?_toDigits (n : Nat) {rest : List Char} (hrest : EndsNumber rest) :
    integerPart? (Nat.toDigits 10 n ++ rest) = some (Nat.toDigits 10 n, rest) := by
  rcases Nat.eq_zero_or_pos n with rfl | hn
  · cases rest with
    | nil => rfl
    | cons c rest => simp [integerPart?, (hrest c rfl).1]
  · obtain ⟨c, ds, hds, hc⟩ := head_toDigits hn
    have hdigit : ∀ d ∈ c :: ds, d.isDigit := fun d hd => isDigit_of_mem (hds ▸ hd)
    have htail : ∀ d ∈ ds, d.isDigit := fun d hd => hdigit d (List.mem_cons_of_mem _ hd)
    rw [hds, List.cons_append, integerPart?, if_pos (hdigit c (List.mem_cons_self ..)),
      List.takeWhile_append_of_pos htail, List.dropWhile_append_of_pos htail, hrest.takeWhile,
      hrest.dropWhile, List.append_nil]
    exact hc

theorem EndsNumber.fraction? {rest : List Char} (h : EndsNumber rest) :
    fraction? rest = some (none, rest) := by
  rw [Json.fraction?]
  rintro tail rfl
  exact (h '.' rfl).2.1 rfl

theorem EndsNumber.exponent? {rest : List Char} (h : EndsNumber rest) :
    exponent? rest = some (none, rest) := by
  cases rest with
  | nil => rfl
  | cons c rest =>
    obtain ⟨-, -, he, hE⟩ := h c rfl
    rw [Json.exponent?, if_neg (by simp [he, hE])]

theorem number?_toDigits {n : Nat} (hn : n < Digits.word64) {rest : List Char}
    (hrest : EndsNumber rest) :
    number? (Nat.toDigits 10 n ++ rest) = some (.natural n, rest) := by
  have hmeaning : numberMeaning false (Nat.toDigits 10 n) none none = .natural n := by
    simp [numberMeaning, read?_toDigits, hn]
  rw [number?]
  · simp [integerPart?_toDigits n hrest, hrest.fraction?, hrest.exponent?, hmeaning]
  · exact fun _ h => absurd (isDigit_of_eq_cons h) (by decide)

/-! ## Texts -/

/-- `Written t text` says how a token is written that cannot be continued. -/
inductive Written : Token → List Char → Prop
  | openList : Written .openList ['[']
  | closeList : Written .closeList [']']
  | openRecord : Written .openRecord ['{']
  | closeRecord : Written .closeRecord ['}']
  | comma : Written .comma [',']
  | colon : Written .colon [':']
  | str {s : String} {body : List Char} (h : Spells s.toList body) :
      Written (.str (some s)) ('"' :: (body ++ ['"']))
  | null : Written (.word .null) ['n', 'u', 'l', 'l']
  | yes : Written (.word (.flag true)) ['t', 'r', 'u', 'e']
  | no : Written (.word (.flag false)) ['f', 'a', 'l', 's', 'e']

/-- `Layout ts text` says that `text` consists of the tokens `ts`, with blanks around them. A
number is written without leading zeros and ends where it cannot be continued. -/
inductive Layout : List Token → List Char → Prop
  | nil : Layout [] []
  | blank {c : Char} {ts : List Token} {text : List Char} (hc : isBlank c)
      (hrest : Layout ts text) : Layout ts (c :: text)
  | token {t : Token} {front : List Char} {ts : List Token} {text : List Char}
      (ht : Written t front) (hrest : Layout ts text) : Layout (t :: ts) (front ++ text)
  | natural (n : Nat) {ts : List Token} {text : List Char} (hend : EndsNumber text)
      (hrest : Layout ts text) :
      Layout (.word (.natural n) :: ts) (Nat.toDigits 10 n ++ text)

mutual

/-- The tokens of a value, in the order in which they are written. -/
def tokens : Json → List Token
  | .null => [.word .null]
  | .bool b => [.word (.flag b)]
  | .nat n => [.word (.natural n)]
  | .str s => [.str (some s)]
  | .arr [] => [.openList, .closeList]
  | .arr (j :: rest) => .openList :: (tokens j ++ (itemTokens rest ++ [.closeList]))
  | .obj [] => [.openRecord, .closeRecord]
  | .obj ((key, j) :: rest) =>
    .openRecord :: .str (some key) :: .colon ::
      (tokens j ++ (fieldTokens rest ++ [.closeRecord]))

def itemTokens : List Json → List Token
  | [] => []
  | j :: rest => .comma :: (tokens j ++ itemTokens rest)

def fieldTokens : List (String × Json) → List Token
  | [] => []
  | (key, j) :: rest => .comma :: .str (some key) :: .colon :: (tokens j ++ fieldTokens rest)

end

/-- The text is a JSON document: it is laid out from the tokens of a value. -/
def WellFormed (text : String) : Prop :=
  ∃ j : Json, Layout j.tokens text.toList

/-! ## Numbers of 64 bits -/

/-- All numbers of a value have at most 64 bits. The reader keeps no other number. -/
def Fits (j : Json) : Prop :=
  ∀ n, .word (.natural n) ∈ j.tokens → n < Digits.word64

theorem fits_str (s : String) : (Json.str s).Fits := by
  simp [Fits, tokens]

theorem fits_nat {n : Nat} : (Json.nat n).Fits ↔ n < Digits.word64 := by
  simp [Fits, tokens]

theorem toDocument_nat {n : Nat} (h : n < Digits.word64) :
    (Json.nat n).toDocument = .leaf (.ofMeaning (.natural n)) := by
  rw [toDocument, if_pos h]

theorem forall_itemTokens {js : List Json} :
    (∀ n, .word (.natural n) ∈ itemTokens js → n < Digits.word64) ↔ ∀ j ∈ js, j.Fits := by
  induction js with
  | nil => simp [itemTokens]
  | cons j rest ih => simp [itemTokens, or_imp, forall_and, ih, Fits]

theorem forall_fieldTokens {fields : List (String × Json)} :
    (∀ n, .word (.natural n) ∈ fieldTokens fields → n < Digits.word64) ↔
      ∀ f ∈ fields, f.2.Fits := by
  induction fields with
  | nil => simp [fieldTokens]
  | cons f rest ih => simp [fieldTokens, or_imp, forall_and, ih, Fits]

theorem fits_arr {items : List Json} : (Json.arr items).Fits ↔ ∀ j ∈ items, j.Fits := by
  cases items with
  | nil => simp [Fits, tokens]
  | cons j rest =>
    rw [List.forall_mem_cons, ← forall_itemTokens]
    simp [Fits, tokens, or_imp, forall_and]

theorem fits_obj {fields : List (String × Json)} :
    (Json.obj fields).Fits ↔ ∀ f ∈ fields, f.2.Fits := by
  cases fields with
  | nil => simp [Fits, tokens]
  | cons f rest =>
    rw [List.forall_mem_cons, ← forall_fieldTokens]
    simp [Fits, tokens, or_imp, forall_and]

theorem fits_ofOption {α : Type} {encode : α → Json} {a? : Option α}
    (h : ∀ a ∈ a?, (encode a).Fits) : (ofOption encode a?).Fits := by
  cases a? with
  | none => simp [ofOption, Fits, tokens]
  | some a => exact h a rfl

theorem fits_ofList {α : Type} {encode : α → Json} {as : List α}
    (h : ∀ a ∈ as, (encode a).Fits) : (ofList encode as).Fits := by
  rw [ofList, fits_arr, List.forall_mem_map]
  exact h

/-! ## Finding the tokens of a text -/

/-- A token that is written as it should be is found at the front of a text, and starts with no
blank. -/
theorem token?_of_written {t : Token} {front : List Char} (h : Written t front)
    (text : List Char) :
    token? (front ++ text) = some (t, text) ∧ ∀ c ∈ (front ++ text).head?, isBlank c = false := by
  cases h with
  | str h =>
    obtain ⟨ps, hps, hjoin⟩ := pieces?_of_spells h text
    refine ⟨?_, by simp [isBlank]⟩
    simp only [List.cons_append, List.append_assoc, List.nil_append]
    simp [token?, hps, hjoin]
  | _ => exact ⟨rfl, by simp [isBlank]⟩

theorem token?_toDigits {n : Nat} (hn : n < Digits.word64) {text : List Char}
    (hend : EndsNumber text) :
    token? (Nat.toDigits 10 n ++ text) = some (.word (.natural n), text) ∧
      ∀ c ∈ (Nat.toDigits 10 n ++ text).head?, isBlank c = false := by
  refine ⟨?_, ?_⟩
  · rw [token?, number?_toDigits hn hend, Option.map_some]
    -- No other token starts with a digit.
    all_goals exact fun _ h => absurd (isDigit_of_eq_cons h) (by decide)
  · intro c hc
    obtain ⟨rest, hrest⟩ := List.head?_eq_some_iff.1 hc
    have hdigit := isDigit_of_eq_cons hrest
    rw [Bool.eq_false_iff]
    intro hblank
    simp only [isBlank, Bool.or_eq_true, decide_eq_true_eq] at hblank
    rcases hblank with ((rfl | rfl) | rfl) | rfl <;> exact absurd hdigit (by decide)

theorem tokens?_of_token {t : Token} {front text : List Char}
    (h : token? front = some (t, text)) (hblank : ∀ c ∈ front.head?, isBlank c = false) :
    tokens? front = (tokens? text).map (t :: ·) := by
  cases front with
  | nil => simp [token?, number?, integerPart?] at h
  | cons c rest =>
    rw [tokens?, if_neg (by simp [hblank c rfl])]
    split
    · simp_all
    · simp_all

/-- The tokens that a text is laid out from are found again. -/
theorem tokens?_of_layout {ts : List Token} {text : List Char} (h : Layout ts text)
    (hfits : ∀ n, .word (.natural n) ∈ ts → n < Digits.word64) : tokens? text = some ts := by
  induction h with
  | nil => rw [tokens?]
  | blank hc _ ih => rw [tokens?, if_pos hc, ih hfits]
  | @token t front ts text ht _ ih =>
    obtain ⟨htoken, hblank⟩ := token?_of_written ht text
    rw [tokens?_of_token htoken hblank, ih fun n hn => hfits n (List.mem_cons_of_mem _ hn)]
    rfl
  | @natural n ts text hend _ ih =>
    obtain ⟨htoken, hblank⟩ := token?_toDigits (hfits n (List.mem_cons_self ..)) hend
    rw [tokens?_of_token htoken hblank, ih fun n hn => hfits n (List.mem_cons_of_mem _ hn)]
    rfl

/-! ## Building a document from tokens -/

/-- A value does not start with the end of a list, so that the first item of a list is read like
any other value. -/
theorem foldlM_itemOrEnd (j : Json) (ts : List Token) (stack : List Frame) :
    (j.tokens ++ ts).foldlM step (.itemOrEnd stack) =
      (j.tokens ++ ts).foldlM step (.value (.list [] :: stack)) := by
  rcases j with _ | _ | _ | _ | ⟨_ | ⟨_, _⟩⟩ | ⟨_ | ⟨_, _⟩⟩ <;> rfl

-- The three proofs follow the printed value. `done` is what was read of the innermost list or
-- record, last part first, and `ts` whatever comes after it.
mutual

/-- From the tokens of a value the reader builds its document and hands it to what the value is a
part of. -/
theorem foldlM_tokens (j : Json) (hfits : j.Fits) (ts : List Token) (stack : List Frame) :
    (j.tokens ++ ts).foldlM step (.value stack) = ts.foldlM step (deliver j.toDocument stack) := by
  match j with
  | .null => rfl
  | .bool _ => rfl
  | .nat n =>
    rw [toDocument_nat (fits_nat.1 hfits)]
    rfl
  | .str _ => rfl
  | .arr [] => rfl
  | .arr (j :: rest) =>
    obtain ⟨hj, hrest⟩ := List.forall_mem_cons.1 (fits_arr.1 hfits)
    calc
      _ = (j.tokens ++ (itemTokens rest ++ .closeList :: ts)).foldlM step (.itemOrEnd stack) := by
        simp [tokens, step, beginValue]
      _ = (itemTokens rest ++ .closeList :: ts).foldlM step (.listNext [j.toDocument] stack) := by
        rw [foldlM_itemOrEnd, foldlM_tokens j hj, deliver]
      _ = _ := foldlM_itemTokens rest hrest ts [j.toDocument] stack
  | .obj [] => rfl
  | .obj ((key, j) :: rest) =>
    obtain ⟨hj, hrest⟩ := List.forall_mem_cons.1 (fits_obj.1 hfits)
    calc
      _ = (j.tokens ++ (fieldTokens rest ++ .closeRecord :: ts)).foldlM step
          (.value (.record [] (.ofText key) :: stack)) := by
        simp [tokens, step, beginValue, keyOf]
      _ = (fieldTokens rest ++ .closeRecord :: ts).foldlM step
          (.recordNext [(.ofText key, j.toDocument)] stack) := by
        rw [foldlM_tokens j hj, deliver]
      _ = _ := foldlM_fieldTokens rest hrest ts [(.ofText key, j.toDocument)] stack

theorem foldlM_itemTokens (js : List Json) (hfits : ∀ j ∈ js, j.Fits) (ts : List Token)
    (done : List Document) (stack : List Frame) :
    (itemTokens js ++ .closeList :: ts).foldlM step (.listNext done stack) =
      ts.foldlM step (deliver (.list (done.reverse ++ documentsOf js)) stack) := by
  match js with
  | [] => simp [itemTokens, documentsOf, step]
  | j :: rest =>
    obtain ⟨hj, hrest⟩ := List.forall_mem_cons.1 hfits
    calc
      _ = (j.tokens ++ (itemTokens rest ++ .closeList :: ts)).foldlM step
          (.value (.list done :: stack)) := by
        simp [itemTokens, step]
      _ = (itemTokens rest ++ .closeList :: ts).foldlM step
          (.listNext (j.toDocument :: done) stack) := by
        rw [foldlM_tokens j hj, deliver]
      _ = _ := by
        rw [foldlM_itemTokens rest hrest, documentsOf, List.reverse_cons, List.append_assoc]
        rfl

theorem foldlM_fieldTokens (fields : List (String × Json)) (hfits : ∀ f ∈ fields, f.2.Fits)
    (ts : List Token) (done : List (Leaf × Document)) (stack : List Frame) :
    (fieldTokens fields ++ .closeRecord :: ts).foldlM step (.recordNext done stack) =
      ts.foldlM step (deliver (.record (done.reverse ++ entriesOf fields)) stack) := by
  match fields with
  | [] => simp [fieldTokens, entriesOf, step]
  | (key, j) :: rest =>
    obtain ⟨hj, hrest⟩ := List.forall_mem_cons.1 hfits
    calc
      _ = (j.tokens ++ (fieldTokens rest ++ .closeRecord :: ts)).foldlM step
          (.value (.record done (.ofText key) :: stack)) := by
        simp [fieldTokens, step, keyOf]
      _ = (fieldTokens rest ++ .closeRecord :: ts).foldlM step
          (.recordNext ((.ofText key, j.toDocument) :: done) stack) := by
        rw [foldlM_tokens j hj, deliver]
      _ = _ := by
        rw [foldlM_fieldTokens rest hrest, entriesOf, List.reverse_cons, List.append_assoc]
        rfl

end

/-- A text laid out from the tokens of a value is read as the document that the value is. -/
theorem read?_of_layout {j : Json} (hfits : j.Fits) {text : List Char}
    (h : Layout j.tokens text) : read? text = some j.toDocument := by
  have hrun := foldlM_tokens j hfits [] []
  rw [List.append_nil] at hrun
  rw [read?, tokens?_of_layout h hfits]
  simp [hrun, deliver]

/-! ## What the printer writes -/

theorem layout_newline (depth : Nat) {ts : List Token} {text : List Char} (h : Layout ts text) :
    Layout ts (newline depth ++ text) := by
  have hblanks : ∀ n, Layout ts (List.replicate n ' ' ++ text) := by
    intro n
    induction n with
    | zero => exact h
    | succ n ih => exact .blank rfl ih
  exact .blank rfl (hblanks _)

theorem written_quoteChars (s : String) : Written (.str (some s)) (quoteChars s) :=
  .str (spells_flatMap_escapeChar s.toList)

/-- The key of a field and its colon. -/
theorem layout_key (key : String) {ts : List Token} {text : List Char} (h : Layout ts text) :
    Layout (.str (some key) :: .colon :: ts) (quoteChars key ++ (':' :: ' ' :: text)) :=
  .token (written_quoteChars key) (.token .colon (.blank rfl h))

theorem endsNumber_cons {c : Char} (text : List Char)
    (h : c.isDigit = false ∧ c ≠ '.' ∧ c ≠ 'e' ∧ c ≠ 'E') : EndsNumber (c :: text) := by
  rintro _ ⟨⟩
  exact h

theorem endsNumber_newline (depth : Nat) (text : List Char) :
    EndsNumber (newline depth ++ text) :=
  endsNumber_cons _ (by decide)

theorem endsNumber_prettyItems (depth : Nat) (js : List Json) {text : List Char}
    (h : EndsNumber text) : EndsNumber (prettyItems depth js ++ text) := by
  cases js with
  | nil => rwa [prettyItems]
  | cons j rest =>
    rw [prettyItems]
    exact endsNumber_cons _ (by decide)

theorem endsNumber_prettyFields (depth : Nat) (fields : List (String × Json)) {text : List Char}
    (h : EndsNumber text) : EndsNumber (prettyFields depth fields ++ text) := by
  cases fields with
  | nil => rwa [prettyFields]
  | cons f rest =>
    rw [prettyFields]
    exact endsNumber_cons _ (by decide)

mutual

/-- A printed value is laid out from its tokens, whatever follows it that does not continue a
number. -/
theorem layout_prettyChars (depth : Nat) (j : Json) {ts : List Token} {text : List Char}
    (h : Layout ts text) (hend : EndsNumber text) :
    Layout (j.tokens ++ ts) (prettyChars depth j ++ text) := by
  match j with
  | .null => exact .token .null h
  | .bool true => exact .token .yes h
  | .bool false => exact .token .no h
  | .nat n => exact .natural n hend h
  | .str s => exact .token (written_quoteChars s) h
  | .arr [] => simpa [tokens, prettyChars] using Layout.token .openList (.token .closeList h)
  | .arr (j :: rest) =>
    -- From the end: each part is laid out before the text of all that follows it.
    have hclose : Layout (.closeList :: ts) (newline depth ++ (']' :: text)) :=
      layout_newline depth (.token .closeList h)
    have hnumber := endsNumber_newline depth (']' :: text)
    have hitems := layout_prettyItems (depth + 1) rest hclose hnumber
    have hfirst := layout_prettyChars (depth + 1) j hitems (endsNumber_prettyItems _ rest hnumber)
    simpa [tokens, prettyChars] using
      Layout.token .openList (layout_newline (depth + 1) hfirst)
  | .obj [] => simpa [tokens, prettyChars] using Layout.token .openRecord (.token .closeRecord h)
  | .obj ((key, j) :: rest) =>
    have hclose : Layout (.closeRecord :: ts) (newline depth ++ ('}' :: text)) :=
      layout_newline depth (.token .closeRecord h)
    have hnumber := endsNumber_newline depth ('}' :: text)
    have hfields := layout_prettyFields (depth + 1) rest hclose hnumber
    have hfirst := layout_prettyChars (depth + 1) j hfields
      (endsNumber_prettyFields _ rest hnumber)
    simpa [tokens, prettyChars] using
      Layout.token .openRecord (layout_newline (depth + 1) (layout_key key hfirst))

theorem layout_prettyItems (depth : Nat) (js : List Json) {ts : List Token} {text : List Char}
    (h : Layout ts text) (hend : EndsNumber text) :
    Layout (itemTokens js ++ ts) (prettyItems depth js ++ text) := by
  match js with
  | [] => simpa [itemTokens, prettyItems] using h
  | j :: rest =>
    have hrest := layout_prettyItems depth rest h hend
    have hfirst := layout_prettyChars depth j hrest (endsNumber_prettyItems _ rest hend)
    simpa [itemTokens, prettyItems] using Layout.token .comma (layout_newline depth hfirst)

theorem layout_prettyFields (depth : Nat) (fields : List (String × Json)) {ts : List Token}
    {text : List Char} (h : Layout ts text) (hend : EndsNumber text) :
    Layout (fieldTokens fields ++ ts) (prettyFields depth fields ++ text) := by
  match fields with
  | [] => simpa [fieldTokens, prettyFields] using h
  | (key, j) :: rest =>
    have hrest := layout_prettyFields depth rest h hend
    have hfirst := layout_prettyChars depth j hrest (endsNumber_prettyFields _ rest hend)
    simpa [fieldTokens, prettyFields] using
      Layout.token .comma (layout_newline depth (layout_key key hfirst))

end

theorem layout_pretty (j : Json) : Layout j.tokens j.pretty.toList := by
  have h := layout_prettyChars 0 j .nil (by simp [EndsNumber])
  rwa [List.append_nil, List.append_nil, ← @String.toList_ofList (prettyChars 0 j)] at h

/-- What is printed is read back. -/
theorem read?_pretty {j : Json} (hfits : j.Fits) : read? j.pretty.toList = some j.toDocument :=
  read?_of_layout hfits (layout_pretty j)

end Json

end StructTags
