import StructTags.Proofs.CarriageReturns
import StructTags.Proofs.TextPieces

/-!
# The grammar of a literal

A literal stands between backquotes, double quotes or single quotes. `Literal.Denotes` gives its
grammar and its meaning, one rule for each kind of quote, without the decoder:

* between backquotes stands anything but a backquote, and carriage returns do not count;
* between other quotes stand plain characters and escapes (`Written`), where an escape is one of
  `letters`, the quote itself, or a numeral of fixed length that names a byte or a character
  (`Escape`). Together they name bytes, and the literal stands for the text that the bytes read as
  (`Utf8.Reads`); between single quotes this must be one character.

`written_iff` ties the bodies to `Spells`, by which the decoder goes, and `unquote_grammar` says
that exactly these literals are accepted.
-/

namespace StructTags

namespace Literal

/-! ## Numerals -/

/-- A digit and its value; letters count in either case. -/
def IsDigit (base : Nat) (c : Char) (value : Nat) : Prop :=
  value < base ∧ (c = Nat.digitChar value ∨ c = (Nat.digitChar value).toUpper)

/-- The digits write `n` in the given base, the most significant one first. -/
def Numeral (base : Nat) (ds : List Char) (n : Nat) : Prop :=
  ∃ values, List.Forall₂ (IsDigit base) ds values ∧ n = Nat.ofDigits base values.reverse

/-- Digits up to nine are ten characters in a row, and the letters follow each other as well. -/
theorem isDigit_iff {base value : Nat} {c : Char} (hbase : base ≤ 16) :
    IsDigit base c value ↔ value < base ∧
      if value < 10 then c.toNat = 0x30 + value
      else c.toNat = 0x57 + value ∨ c.toNat = 0x37 + value := by
  have hlower : value < 16 → (Nat.digitChar value).toNat =
      if value < 10 then 0x30 + value else 0x57 + value := by
    intro h
    interval_cases value <;> rfl
  have hupper : value < 16 → (Nat.digitChar value).toUpper.toNat =
      if value < 10 then 0x30 + value else 0x37 + value := by
    intro h
    interval_cases value <;> rfl
  unfold IsDigit
  apply and_congr_right
  intro hlt
  rw [← Char.toNat_inj, ← Char.toNat_inj, hlower (by omega), hupper (by omega)]
  split
  · exact or_self_iff
  · rfl

theorem hex?_eq_some_iff {c : Char} {value : Nat} :
    Digits.hex? c = some value ↔ IsDigit 16 c value := by
  rw [isDigit_iff (by omega)]
  simp only [Digits.hex?, Char.le_def, UInt32.le_iff_toNat_le, Bool.and_eq_true,
    decide_eq_true_eq]
  change (if 0x30 ≤ c.toNat ∧ c.toNat ≤ 0x39 then some (c.toNat - 0x30)
    else if 0x61 ≤ c.toNat ∧ c.toNat ≤ 0x66 then some (c.toNat - 0x61 + 10)
    else if 0x41 ≤ c.toNat ∧ c.toNat ≤ 0x46 then some (c.toNat - 0x41 + 10)
    else none) = some value ↔ _
  split_ifs <;> simp only [Option.some.injEq, false_iff] <;> omega

theorem octal?_eq_some_iff {c : Char} {value : Nat} :
    Digits.octal? c = some value ↔ IsDigit 8 c value := by
  rw [isDigit_iff (by omega)]
  simp only [Digits.octal?, Char.le_def, UInt32.le_iff_toNat_le, Bool.and_eq_true,
    decide_eq_true_eq]
  change (if 0x30 ≤ c.toNat ∧ c.toNat ≤ 0x37 then some (c.toNat - 0x30) else none) = some value ↔ _
  split_ifs <;> simp only [Option.some.injEq, false_iff] <;> omega

theorem value_eq_ofDigits (base : Nat) (values : List Nat) :
    Digits.value base values = Nat.ofDigits base values.reverse := by
  rw [Nat.ofDigits_eq_foldr, List.foldr_reverse, Digits.value]
  congr 1
  funext n d
  simp only [Nat.cast_id]
  ring

/-- Reading digits one by one gives the number that they write. -/
theorem numeral_iff {base : Nat} {digit? : Char → Option Nat} {ds : List Char} {n : Nat}
    (hdigit : ∀ c value, digit? c = some value ↔ IsDigit base c value) :
    Numeral base ds n ↔ ∃ values, ds.mapM digit? = some values ∧ Digits.value base values = n := by
  unfold Numeral
  apply exists_congr
  intro values
  rw [mapM_eq_some_iff, value_eq_ofDigits, eq_comm]
  simp only [hdigit]

theorem Numeral.areDigits {ds : List Char} {n : Nat} (h : Numeral 16 ds n) : AreDigits ds := by
  rcases (numeral_iff fun _ _ => hex?_eq_some_iff).1 h with ⟨values, hvalues, -⟩
  exact isSome_of_mapM hvalues

theorem Numeral.areDigits_octal {ds : List Char} {n : Nat} (h : Numeral 8 ds n) :
    AreDigits ds := by
  rcases h with ⟨values, hvalues, -⟩
  have hhex : List.Forall₂ (IsDigit 16) ds values := by
    refine hvalues.imp ?_
    rintro c value ⟨hlt, hc⟩
    exact ⟨by omega, hc⟩
  exact Numeral.areDigits ⟨values, hhex, rfl⟩

theorem Numeral.lt {base : Nat} (hbase : 1 < base) {ds : List Char} {n : Nat}
    (h : Numeral base ds n) : n < base ^ ds.length := by
  rcases h with ⟨values, hvalues, rfl⟩
  rw [hvalues.length_eq, ← List.length_reverse]
  apply Nat.ofDigits_lt_base_pow_length hbase
  intro value hvalue
  rcases List.forall₂_iff_get.1 hvalues with ⟨hlength, hget⟩
  rcases List.mem_iff_get.1 (List.mem_reverse.1 hvalue) with ⟨⟨i, hi⟩, rfl⟩
  exact (hget i (by omega) hi).1

/-! ## Escapes -/

/-- The letters that stand for a byte behind a backslash, and the backslash itself. -/
def letters : List (Char × Utf8.Byte) :=
  [('a', 0x07), ('b', 0x08), ('f', 0x0C), ('n', 0x0A), ('r', 0x0D), ('t', 0x09), ('v', 0x0B),
    ('\\', 0x5C)]

/-- What may stand behind a backslash, and the bytes that it names. A numeral that names a byte is
at most 255, and one that names a character is a code point that a character has. -/
inductive Escape (quote : Char) : List Char → List Utf8.Byte → Prop where
  | letter {c : Char} {b : Utf8.Byte} (h : (c, b) ∈ letters) : Escape quote [c] [b]
  | own : Escape quote [quote] (String.utf8EncodeChar quote)
  | byte {ds : List Char} {b : Utf8.Byte} (hlength : ds.length = 2)
      (h : Numeral 16 ds b.toNat) : Escape quote ('x' :: ds) [b]
  | short {ds : List Char} {c : Char} (hlength : ds.length = 4)
      (h : Numeral 16 ds c.toNat) : Escape quote ('u' :: ds) (String.utf8EncodeChar c)
  | long {ds : List Char} {c : Char} (hlength : ds.length = 8)
      (h : Numeral 16 ds c.toNat) : Escape quote ('U' :: ds) (String.utf8EncodeChar c)
  | octal {ds : List Char} {b : Utf8.Byte} (hlength : ds.length = 3)
      (h : Numeral 8 ds b.toNat) : Escape quote ds [b]

theorem shortEscape?_eq_some_iff {c : Char} {b : Utf8.Byte} :
    shortEscape? c = some b ↔ (c, b) ∈ letters := by
  unfold shortEscape? letters
  split_ifs <;> simp_all [eq_comm]

theorem hexRun_append_eq_ok_iff {ds tail : List Char} {n : Nat} :
    hexRun ds.length (ds ++ tail) = .ok n ↔ Numeral 16 ds n := by
  rw [numeral_iff fun _ _ => hex?_eq_some_iff]
  unfold hexRun
  rw [List.take_left]
  constructor
  · intro h
    split at h
    · cases h
    · cases hvalues : ds.mapM Digits.hex? with
      | none =>
        rw [hvalues] at h
        cases h
      | some values =>
        rw [hvalues] at h
        exact ⟨values, rfl, Except.ok.inj h⟩
  · rintro ⟨values, hvalues, rfl⟩
    have hdigits : AreDigits ds := isSome_of_mapM hvalues
    rw [if_neg (by rw [Utf8.size_append, hdigits.size]; omega), hvalues]

theorem octalRun_append_eq_ok_iff {c : Char} {ds tail : List Char} {bytes : List Utf8.Byte}
    (hlength : ds.length = 2) :
    octalRun c (ds ++ tail) = .ok bytes ↔
      ∃ b : Utf8.Byte, Numeral 8 (c :: ds) b.toNat ∧ bytes = [b] := by
  simp only [numeral_iff fun _ _ => octal?_eq_some_iff]
  unfold octalRun
  rw [← hlength, List.take_left]
  constructor
  · intro h
    split at h
    · cases h
    · cases hvalues : (c :: ds).mapM Digits.octal? with
      | none =>
        rw [hvalues] at h
        cases h
      | some values =>
        rw [hvalues] at h
        simp only at h
        split at h
        · next hle =>
          refine ⟨_, ⟨values, rfl, ?_⟩, (Except.ok.inj h).symm⟩
          rw [UInt8.toNat_ofNat']
          omega
        · cases h
  · rintro ⟨b, ⟨values, hvalues, hb⟩, rfl⟩
    have hdigits : AreDigits (c :: ds) :=
      Numeral.areDigits_octal ((numeral_iff fun _ _ => octal?_eq_some_iff).2 ⟨values, hvalues, rfl⟩)
    have hsize : Utf8.size ds = ds.length := AreDigits.size fun d hd => hdigits d (by simp [hd])
    have hle : b.toNat ≤ 0xFF := Nat.le_of_lt_succ b.toNat_lt
    rw [if_neg (by rw [Utf8.size_append]; omega), hvalues]
    simp only [hb, if_pos hle, UInt8.ofNat_toNat]

theorem codePoint_eq_ok_iff {n : Nat} {bytes : List Utf8.Byte} :
    codePoint n = .ok bytes ↔ ∃ c : Char, c.toNat = n ∧ bytes = String.utf8EncodeChar c := by
  unfold codePoint
  constructor
  · intro h
    split at h
    · next hvalid =>
      refine ⟨Char.ofNat n, ?_, (Except.ok.inj h).symm⟩
      rw [Char.toNat_ofNat, if_pos hvalid]
    · cases h
  · rintro ⟨c, rfl, rfl⟩
    have hvalid : c.toNat.isValidChar := c.valid
    rw [if_pos hvalid, Char.ofNat_toNat]

theorem Numeral.isSome_octal {c : Char} {ds : List Char} {n : Nat} (h : Numeral 8 (c :: ds) n) :
    (Digits.octal? c).isSome := by
  rcases (numeral_iff fun _ _ => octal?_eq_some_iff).1 h with ⟨values, hvalues, -⟩
  exact isSome_of_mapM hvalues c (by simp)

/-- An octal digit starts no other escape. -/
theorem plain_of_octal {c : Char} (h : (Digits.octal? c).isSome) :
    shortEscape? c = none ∧ ¬ (c = '\'' ∨ c = '"') ∧ c ≠ 'x' ∧ c ≠ 'u' ∧ c ≠ 'U' := by
  rw [octal?_isSome_iff] at h
  have hne {x : Char} (hx : x.toNat < 0x30 ∨ 0x37 < x.toNat) : c ≠ x := by
    rintro rfl
    omega
  refine ⟨?_, ?_, hne (by decide), hne (by decide), hne (by decide)⟩
  · rw [Option.eq_none_iff_forall_ne_some]
    intro b hb
    have hmem := shortEscape?_eq_some_iff.1 hb
    simp only [letters, List.mem_cons, Prod.mk.injEq, List.not_mem_nil, or_false] at hmem
    rcases hmem with hc | hc | hc | hc | hc | hc | hc | hc <;> exact hne (by decide) hc.1
  · rintro (hc | hc)
    · exact hne (by decide) hc
    · exact hne (by decide) hc

/-- The escape for a byte. -/
theorem hexByte_eq_ok_iff {ds tail : List Char} {front : List Utf8.Byte} :
    (do return ([UInt8.ofNat (← hexRun 2 (ds ++ tail))], 2)) =
        (.ok (front, ds.length) : Except Fault (List Utf8.Byte × Nat)) ↔
      ds.length = 2 ∧ ∃ b : Utf8.Byte, Numeral 16 ds b.toNat ∧ front = [b] := by
  constructor
  · intro h
    rcases bind_eq_ok.1 h with ⟨n, hn, hr⟩
    rcases Prod.mk.inj (Except.ok.inj hr) with ⟨rfl, hlength⟩
    rw [hlength, hexRun_append_eq_ok_iff] at hn
    have hlt := hn.lt (by omega)
    rw [← hlength] at hlt
    -- two digits write no more than a byte holds
    have hbyte : (UInt8.ofNat n).toNat = n := by
      rw [UInt8.toNat_ofNat']
      omega
    exact ⟨hlength.symm, _, hbyte.symm ▸ hn, rfl⟩
  · rintro ⟨hlength, b, hb, rfl⟩
    have hrun : hexRun 2 (ds ++ tail) = .ok b.toNat := by
      rw [← hlength, hexRun_append_eq_ok_iff]
      exact hb
    rw [hlength]
    apply bind_eq_ok.2 ⟨b.toNat, hrun, _⟩
    rw [UInt8.ofNat_toNat]
    rfl

/-- The escapes for a character, which differ in how many digits they have. -/
theorem hexChar_eq_ok_iff {width : Nat} {ds tail : List Char} {front : List Utf8.Byte} :
    (do return (← codePoint (← hexRun width (ds ++ tail)), width)) =
        (.ok (front, ds.length) : Except Fault (List Utf8.Byte × Nat)) ↔
      ds.length = width ∧ ∃ c : Char, Numeral 16 ds c.toNat ∧ front = String.utf8EncodeChar c := by
  constructor
  · intro h
    rcases bind_eq_ok.1 h with ⟨n, hn, hr⟩
    rcases bind_eq_ok.1 hr with ⟨bytes, hbytes, hr'⟩
    rcases Prod.mk.inj (Except.ok.inj hr') with ⟨rfl, rfl⟩
    rcases codePoint_eq_ok_iff.1 hbytes with ⟨c, rfl, rfl⟩
    exact ⟨rfl, c, hexRun_append_eq_ok_iff.1 hn, rfl⟩
  · rintro ⟨rfl, c, hc, rfl⟩
    exact bind_eq_ok.2 ⟨c.toNat, hexRun_append_eq_ok_iff.2 hc,
      bind_eq_ok.2 ⟨_, codePoint_eq_ok_iff.2 ⟨c, rfl, rfl⟩, rfl⟩⟩

theorem escape_of_ok {quote e : Char} {ds tail : List Char} {front : List Utf8.Byte}
    (h : escape quote e (ds ++ tail) = .ok (front, ds.length)) : Escape quote (e :: ds) front := by
  cases hshort : shortEscape? e with
  | some b =>
    simp only [escape, hshort, Except.ok.injEq, Prod.mk.injEq] at h
    rcases h with ⟨rfl, hlength⟩
    rw [List.length_eq_zero_iff.1 hlength.symm]
    exact .letter (shortEscape?_eq_some_iff.1 hshort)
  | none =>
    unfold escape at h
    simp only [hshort] at h
    split_ifs at h with hquote hown hx hu hU hoctal
    · simp only [Except.ok.injEq, Prod.mk.injEq] at h
      rcases h with ⟨rfl, hlength⟩
      rw [List.length_eq_zero_iff.1 hlength.symm, hown]
      exact .own
    · rcases hexByte_eq_ok_iff.1 h with ⟨hlength, b, hb, rfl⟩
      rw [hx]
      exact .byte hlength hb
    · rcases hexChar_eq_ok_iff.1 h with ⟨hlength, c, hc, rfl⟩
      rw [hu]
      exact .short hlength hc
    · rcases hexChar_eq_ok_iff.1 h with ⟨hlength, c, hc, rfl⟩
      rw [hU]
      exact .long hlength hc
    · rcases bind_eq_ok.1 h with ⟨bytes, hbytes, hr⟩
      rcases Prod.mk.inj (Except.ok.inj hr) with ⟨rfl, hlength⟩
      rcases (octalRun_append_eq_ok_iff hlength.symm).1 hbytes with ⟨b, hb, rfl⟩
      exact .octal (by rw [List.length_cons, ← hlength]) hb

theorem ok_of_escape {quote e : Char} (hquote : quote = '"' ∨ quote = '\'') {ds : List Char}
    {front : List Utf8.Byte} (h : Escape quote (e :: ds) front) (tail : List Char) :
    escape quote e (ds ++ tail) = .ok (front, ds.length) := by
  generalize hes : e :: ds = es at h
  cases h with
  | letter hletter =>
    rcases List.cons.inj hes with ⟨rfl, rfl⟩
    simp [escape, shortEscape?_eq_some_iff.2 hletter]
  | own =>
    rcases List.cons.inj hes with ⟨rfl, rfl⟩
    rcases hquote with rfl | rfl <;> rfl
  | byte hlength hb =>
    rcases List.cons.inj hes with ⟨rfl, rfl⟩
    exact hexByte_eq_ok_iff.2 ⟨hlength, _, hb, rfl⟩
  | short hlength hc =>
    rcases List.cons.inj hes with ⟨rfl, rfl⟩
    exact hexChar_eq_ok_iff.2 ⟨hlength, _, hc, rfl⟩
  | long hlength hc =>
    rcases List.cons.inj hes with ⟨rfl, rfl⟩
    exact hexChar_eq_ok_iff.2 ⟨hlength, _, hc, rfl⟩
  | @octal _ b hlength hb =>
    subst hes
    have hlength' : ds.length = 2 := by simpa using hlength
    have hrun : octalRun e (ds ++ tail) = .ok [b] :=
      (octalRun_append_eq_ok_iff hlength').2 ⟨b, hb, rfl⟩
    rcases plain_of_octal hb.isSome_octal with ⟨hshort, hquotes, hx, hu, hU⟩
    simp only [escape, hshort, if_neg hquotes, if_neg hx, if_neg hu, if_neg hU,
      if_pos hb.isSome_octal, hrun, hlength']
    rfl

/-- An escape has one character that says what it is, which is no newline, and digits. -/
theorem Escape.exists_cons {quote : Char} (hquote : quote = '"' ∨ quote = '\'') {es : List Char}
    {front : List Utf8.Byte} (h : Escape quote es front) :
    ∃ e ds, es = e :: ds ∧ e ≠ '\n' ∧ AreDigits ds := by
  have hnone : AreDigits [] := by simp [AreDigits]
  cases h with
  | @letter c b hletter =>
    refine ⟨c, [], rfl, ?_, hnone⟩
    rintro rfl
    revert hletter
    simp [letters]
  | own =>
    refine ⟨quote, [], rfl, ?_, hnone⟩
    rcases hquote with rfl | rfl <;> decide
  | byte _ hb => exact ⟨'x', _, rfl, by decide, hb.areDigits⟩
  | short _ hc => exact ⟨'u', _, rfl, by decide, hc.areDigits⟩
  | long _ hc => exact ⟨'U', _, rfl, by decide, hc.areDigits⟩
  | octal hlength hb =>
    have hdigits := hb.areDigits_octal
    cases es with
    | nil => simp at hlength
    | cons d rest =>
      exact ⟨d, rest, rfl, hdigits.ne (by decide) d (by simp), fun x hx => hdigits x (by simp [hx])⟩

/-! ## Bodies -/

/-- A body between quotes that allow escapes, and the bytes that it names. -/
inductive Written (quote : Char) : List Char → List Utf8.Byte → Prop where
  | nil : Written quote [] []
  | plain {c : Char} {cs : List Char} {bytes : List Utf8.Byte} (hnewline : c ≠ '\n')
      (hslash : c ≠ '\\') (hquote : c ≠ quote) (rest : Written quote cs bytes) :
      Written quote (c :: cs) (String.utf8EncodeChar c ++ bytes)
  | escape {es cs : List Char} {front bytes : List Utf8.Byte} (h : Escape quote es front)
      (rest : Written quote cs bytes) : Written quote ('\\' :: (es ++ cs)) (front ++ bytes)

theorem written_iff {quote : Char} (hquote : quote = '"' ∨ quote = '\'') {body : List Char}
    {bytes : List Utf8.Byte} :
    Written quote body bytes ↔ '\n' ∉ body ∧ Spells quote body bytes := by
  constructor
  · intro h
    induction h with
    | nil => exact ⟨List.not_mem_nil, .nil⟩
    | plain hnewline hslash hplain _ ih =>
      exact ⟨List.not_mem_cons_of_ne_of_not_mem hnewline.symm ih.1, .plain hplain hslash ih.2⟩
    | escape hescape _ ih =>
      rcases hescape.exists_cons hquote with ⟨e, ds, rfl, hnewline, hdigits⟩
      have hds : '\n' ∉ ds := fun hmem => hdigits.ne (by decide) _ hmem rfl
      refine ⟨?_, .escaped hdigits (ok_of_escape hquote hescape) ih.2⟩
      simp [hnewline.symm, hds, ih.1]
  · rintro ⟨hnewline, hspells⟩
    induction hspells with
    | nil => exact .nil
    | plain hplain hslash _ ih =>
      have hc := List.ne_of_not_mem_cons hnewline
      exact .plain hc.symm hslash hplain (ih (List.not_mem_of_not_mem_cons hnewline))
    | @escaped e ds cs front bytes _ hescape _ ih =>
      have hcs : '\n' ∉ cs := fun hmem => hnewline (by simp [hmem])
      exact .escape (escape_of_ok (hescape [])) (ih hcs)

theorem decodeInterpreted_iff_written {quote : Char} (hquote : quote = '"' ∨ quote = '\'')
    {body text : List Char} : decodeInterpreted quote body = .ok text ↔
      ∃ bytes, Written quote body bytes ∧ Utf8.Reads bytes text := by
  have hslash : quote ≠ '\\' := by rcases hquote with rfl | rfl <;> decide
  rw [decodeInterpreted_eq_ok_iff hslash]
  simp only [written_iff hquote, Utf8.reads_iff]
  constructor
  · rintro ⟨hnewline, bytes, hspells, rfl⟩
    exact ⟨bytes, ⟨hnewline, hspells⟩, rfl⟩
  · rintro ⟨bytes, ⟨hnewline, hspells⟩, rfl⟩
    exact ⟨hnewline, bytes, hspells, rfl⟩

/-! ## Literals -/

/-- The literal stands for the text. -/
inductive Denotes : List Char → List Char → Prop where
  | raw {body : List Char} (h : '\x60' ∉ body) :
      Denotes ('\x60' :: (body ++ ['\x60'])) (dropReturns body)
  | text {body text : List Char} {bytes : List Utf8.Byte} (h : Written '"' body bytes)
      (hreads : Utf8.Reads bytes text) : Denotes ('"' :: (body ++ ['"'])) text
  | character {body : List Char} {bytes : List Utf8.Byte} {c : Char}
      (h : Written '\'' body bytes) (hreads : Utf8.Reads bytes [c]) :
      Denotes ('\'' :: (body ++ ['\''])) [c]

theorem decode_inSingleQuotes_eq_ok_iff {body text : List Char} :
    decode ('\'' :: (body ++ ['\''])) = .ok text ↔
      decodeInterpreted '\'' body = .ok text ∧ ∃ c, text = [c] := by
  rw [decode_between (by decide), if_neg (by decide), if_neg (by decide), if_pos rfl, bind_eq_ok]
  constructor
  · rintro ⟨decoded, hdecoded, h⟩
    split at h
    · next hlength =>
      rw [← Except.ok.inj h]
      exact ⟨hdecoded, List.length_eq_one_iff.1 hlength⟩
    · cases h
  · rintro ⟨hdecoded, c, rfl⟩
    exact ⟨[c], hdecoded, if_pos rfl⟩

/-- The decoder finds what a literal stands for, and nothing where it stands for nothing. -/
theorem decode_eq_ok_iff {literal text : List Char} :
    decode literal = .ok text ↔ Denotes literal text := by
  constructor
  · intro h
    cases literal with
    | nil => cases h
    | cons quote rest =>
      rcases exists_body_of_decode h with ⟨body, rfl⟩
      rcases quote_of_decode h with rfl | rfl | ⟨rfl, -⟩
      · rw [decode_backquoted, decodeRaw_eq_ok_iff] at h
        rcases h with ⟨hbody, rfl⟩
        exact .raw hbody
      · have hbody := (decode_inQuotes body).symm.trans h
        rcases (decodeInterpreted_iff_written (.inl rfl)).1 hbody with ⟨bytes, hwritten, hreads⟩
        exact .text hwritten hreads
      · rcases decode_inSingleQuotes_eq_ok_iff.1 h with ⟨hbody, c, rfl⟩
        rcases (decodeInterpreted_iff_written (.inr rfl)).1 hbody with ⟨bytes, hwritten, hreads⟩
        exact .character hwritten hreads
  · intro h
    cases h with
    | raw hbody =>
      rw [decode_backquoted, decodeRaw_eq_ok_iff]
      exact ⟨hbody, rfl⟩
    | text hwritten hreads =>
      apply (decode_inQuotes _).trans
      exact (decodeInterpreted_iff_written (.inl rfl)).2 ⟨_, hwritten, hreads⟩
    | character hwritten hreads =>
      rw [decode_inSingleQuotes_eq_ok_iff, decodeInterpreted_iff_written (.inr rfl)]
      exact ⟨⟨_, hwritten, hreads⟩, _, rfl⟩

/-- A literal of the grammar is accepted with the text that it stands for, and every other string
is rejected. -/
theorem unquote_grammar (literal : String) :
    (∀ text, unquote literal = .ok text ↔ Denotes literal.toList text.toList) ∧
      ((∃ fault, unquote literal = .error fault) ↔ ¬ ∃ text, Denotes literal.toList text) := by
  constructor
  · intro text
    rw [unquote, map_eq_ok]
    simp only [decode_eq_ok_iff]
    constructor
    · rintro ⟨cs, hcs, rfl⟩
      rwa [String.toList_ofList]
    · intro h
      exact ⟨text.toList, h, String.ofList_toList⟩
  · simp only [← decode_eq_ok_iff]
    unfold unquote
    cases decode literal.toList with
    | error fault => simp [Functor.map, Except.map]
    | ok text => simp [Functor.map, Except.map]

end Literal

end StructTags
