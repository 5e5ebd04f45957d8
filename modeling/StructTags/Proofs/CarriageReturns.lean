import StructTags.Proofs.Quoting
import StructTags.Proofs.TagReaders

/-!
# Carriage returns

A literal between backquotes loses its carriage returns when it is decoded. A tag that can be read
with them can also be read without them, pair by pair (`ConsistsOf.dropReturns`), since they can
stand only as plain characters inside values.

The values need not be the same without them. `map_readBack_options_eq_iff` says what this means
for the options of a value that is quoted again: they come back as the options without carriage
returns exactly if there were none among them and no control character U+0080 to U+009F either.
The argument counts carriage returns, which neither quoting nor lossy decoding adds or removes.
-/

namespace StructTags

open Tag

namespace Literal

/-- The text without its carriage returns. -/
def dropReturns (cs : List Char) : List Char :=
  cs.filter (· ≠ '\r')

theorem dropReturns_of_notMem {cs : List Char} (h : '\r' ∉ cs) : dropReturns cs = cs := by
  rw [dropReturns, List.filter_eq_self]
  intro c hc
  have hne : c ≠ '\r' := by
    rintro rfl
    exact h hc
  simpa using hne

theorem dropReturns_append (xs ys : List Char) :
    dropReturns (xs ++ ys) = dropReturns xs ++ dropReturns ys :=
  List.filter_append xs ys

/-! ## Literals between backquotes -/

theorem decode_backquoted (body : List Char) :
    decode ('\x60' :: (body ++ ['\x60'])) = decodeRaw body := by
  rw [decode_between (by decide), if_pos rfl]

theorem decodeRaw_eq_ok_iff {body text : List Char} :
    decodeRaw body = .ok text ↔ '\x60' ∉ body ∧ text = dropReturns body := by
  unfold decodeRaw
  split
  · next h => simp [h]
  · next h => simp [h, dropReturns, eq_comm]

/-- A literal that starts with a backquote and can be decoded has its text between backquotes. -/
theorem exists_body_of_backquoted {literal text : String}
    (hraw : literal.toList.head? = some '\x60') (h : unquote literal = .ok text) :
    ∃ body, literal.toList = '\x60' :: (body ++ ['\x60']) ∧ '\x60' ∉ body ∧
      text.toList = dropReturns body := by
  obtain ⟨rest, hliteral⟩ : ∃ rest, literal.toList = '\x60' :: rest := by
    cases hcs : literal.toList with
    | nil => simp [hcs] at hraw
    | cons c rest =>
      rw [hcs] at hraw
      exact ⟨rest, by simpa using hraw⟩
  obtain ⟨cs, hdecode, rfl⟩ := map_eq_ok.1 h
  rw [hliteral] at hdecode
  obtain ⟨body, rfl⟩ := exists_body_of_decode hdecode
  rw [decode_backquoted, decodeRaw_eq_ok_iff] at hdecode
  exact ⟨body, hliteral, hdecode.1, by rw [String.toList_ofList, hdecode.2]⟩

theorem unquote_backquoted {body : List Char} :
    unquote (String.ofList ('\x60' :: (body ++ ['\x60']))) =
      if '\x60' ∈ body then .error .innerBackquote else .ok (String.ofList (dropReturns body)) := by
  rw [unquote, String.toList_ofList, decode_backquoted, decodeRaw]
  split <;> rfl

/-! ## Bodies of values -/

/-- The second byte sequence is the first one without some of its carriage returns. -/
inductive ReturnsDropped : List Utf8.Byte → List Utf8.Byte → Prop where
  | nil : ReturnsDropped [] []
  | keep {b : Utf8.Byte} {bs bs' : List Utf8.Byte} (rest : ReturnsDropped bs bs') :
      ReturnsDropped (b :: bs) (b :: bs')
  | drop {bs bs' : List Utf8.Byte} (rest : ReturnsDropped bs bs') :
      ReturnsDropped (0x0D :: bs) bs'

theorem ReturnsDropped.append_left {bs bs' : List Utf8.Byte} (h : ReturnsDropped bs bs')
    (front : List Utf8.Byte) : ReturnsDropped (front ++ bs) (front ++ bs') := by
  induction front with
  | nil => exact h
  | cons b rest ih => exact .keep ih

theorem ReturnsDropped.count_le {bs bs' : List Utf8.Byte} (h : ReturnsDropped bs bs') :
    bs'.count 0x0D ≤ bs.count 0x0D := by
  induction h with
  | nil => simp
  | keep _ ih =>
    simp only [List.count_cons]
    omega
  | drop _ ih =>
    simp only [List.count_cons_self]
    omega

theorem ReturnsDropped.count_eq {bs bs' : List Utf8.Byte} (h : ReturnsDropped bs bs')
    {b : Utf8.Byte} (hb : b ≠ 0x0D) : bs.count b = bs'.count b := by
  induction h with
  | nil => rfl
  | keep _ ih => simp only [List.count_cons, ih]
  | drop _ ih => rw [List.count_cons_of_ne hb.symm, ih]

/-- If no carriage return was dropped, nothing was. -/
theorem ReturnsDropped.eq_of_count_eq {bs bs' : List Utf8.Byte} (h : ReturnsDropped bs bs')
    (hcount : bs'.count 0x0D = bs.count 0x0D) : bs' = bs := by
  induction h with
  | nil => rfl
  | keep _ ih =>
    simp only [List.count_cons, Nat.add_right_cancel_iff] at hcount
    rw [ih hcount]
  | drop rest ih =>
    have hle := rest.count_le
    simp only [List.count_cons_self] at hcount
    omega

theorem ReturnsDropped.dropWhile {bs bs' : List Utf8.Byte} (h : ReturnsDropped bs bs')
    {b : Utf8.Byte} (hb : b ≠ 0x0D) :
    ReturnsDropped (bs.dropWhile (· ≠ b)) (bs'.dropWhile (· ≠ b)) := by
  induction h with
  | nil => exact .nil
  | @keep x bs bs' rest ih =>
    by_cases hx : x = b
    · rw [List.dropWhile_cons_of_neg (by simpa using hx),
        List.dropWhile_cons_of_neg (by simpa using hx)]
      exact .keep rest
    · rw [List.dropWhile_cons_of_pos (by simpa using hx),
        List.dropWhile_cons_of_pos (by simpa using hx)]
      exact ih
  | drop _ ih =>
    rw [List.dropWhile_cons_of_pos (by simpa using hb.symm)]
    exact ih

/-- A carriage return behind a backslash is no escape. -/
theorem escape_return (cs : List Char) :
    escape '"' '\r' cs = .error (.unknownEscape (leadChar '\r')) := by
  rfl

theorem Spells.dropReturns {body : List Char} {bytes : List Utf8.Byte}
    (h : Spells '"' body bytes) :
    ∃ bytes', Spells '"' (dropReturns body) bytes' ∧ ReturnsDropped bytes bytes' := by
  induction h with
  | nil => exact ⟨[], .nil, .nil⟩
  | @plain c cs bytes hquote hslash _ ih =>
    obtain ⟨bytes', hspells, hdropped⟩ := ih
    by_cases hc : c = '\r'
    · subst hc
      exact ⟨bytes', hspells, .drop hdropped⟩
    · have hfilter : Literal.dropReturns (c :: cs) = c :: Literal.dropReturns cs := by
        simp [Literal.dropReturns, hc]
      rw [hfilter]
      exact ⟨_, .plain hquote hslash hspells, hdropped.append_left _⟩
  | @escaped e ds cs front bytes hds hescape _ ih =>
    -- neither the character behind the backslash nor a digit is a carriage return
    obtain ⟨bytes', hspells, hdropped⟩ := ih
    have he : e ≠ '\r' := by
      rintro rfl
      have hok := hescape []
      rw [escape_return] at hok
      cases hok
    have hfilter : Literal.dropReturns ('\\' :: e :: (ds ++ cs)) =
        '\\' :: e :: (ds ++ Literal.dropReturns cs) := by
      have hds' : Literal.dropReturns ds = ds :=
        dropReturns_of_notMem fun hmem => hds.ne (by decide) '\r' hmem rfl
      rw [← hds', ← dropReturns_append, hds']
      simp [Literal.dropReturns, he]
    rw [hfilter]
    exact ⟨_, .escaped hds hescape hspells, hdropped.append_left _⟩

/-! ## Options -/

theorem count_map_readBack_return (cs : List Char) :
    (cs.map readBack).count '\r' = cs.count '\r' := by
  have hreturn (c : Char) : readBack c = '\r' ↔ c = '\r' :=
    readBack_eq_iff (by decide) (by decide)
  induction cs with
  | nil => rfl
  | cons c rest ih => simp [List.count_cons, ih, hreturn]

/-- The options of a value come back, quoted and read, as the options without the dropped carriage
returns, exactly if none was dropped among them and none of them is changed by quoting. -/
theorem map_readBack_options_eq_iff {bytes bytes' : List Utf8.Byte}
    (h : ReturnsDropped bytes bytes') :
    ((Utf8.decodeLossy bytes).dropWhile (· ≠ ',')).map readBack =
        (Utf8.decodeLossy bytes').dropWhile (· ≠ ',') ↔
      (Utf8.decodeLossy bytes).dropWhile (· ≠ ',') =
          (Utf8.decodeLossy bytes').dropWhile (· ≠ ',') ∧
        ∀ c ∈ (Utf8.decodeLossy bytes').dropWhile (· ≠ ','), isHighControl c = false := by
  have hcut (bs : List Utf8.Byte) : (Utf8.decodeLossy bs).dropWhile (· ≠ ',') =
      Utf8.decodeLossy (bs.dropWhile (· ≠ 0x2C)) :=
    Utf8.dropWhile_decodeLossy_ascii (b := 0x2C) (by decide) bs
  have hcount (bs : List Utf8.Byte) : (Utf8.decodeLossy bs).count '\r' = bs.count 0x0D :=
    Utf8.count_decodeLossy_ascii (b := 0x0D) (by decide) bs
  rw [hcut, hcut]
  constructor
  · -- equal texts have equally many carriage returns, so none was dropped
    intro hsame
    have hreturns := congrArg (List.count '\r') hsame
    rw [count_map_readBack_return, hcount, hcount] at hreturns
    have hbytes := (h.dropWhile (b := 0x2C) (by decide)).eq_of_count_eq hreturns.symm
    rw [hbytes] at hsame ⊢
    exact ⟨rfl, map_readBack_eq_self_iff.1 hsame⟩
  · rintro ⟨hsame, hlow⟩
    rw [hsame]
    exact map_readBack_eq_self_iff.2 hlow

end Literal

/-! ## Pairs -/

namespace Tag

open Literal

/-- The pair without the carriage returns in its value. -/
def Pair.dropReturns (p : Pair) : Pair :=
  ⟨p.key, Literal.dropReturns p.quoted⟩

theorem Pair.Delimited.dropReturns_text {p : Pair} (h : p.Delimited) :
    Literal.dropReturns p.text = p.dropReturns.text := by
  have hkey : '\r' ∉ p.key := by
    intro hmem
    exact absurd (h.keyChars '\r' hmem) (by decide)
  rw [Pair.text, dropReturns_append, dropReturns_of_notMem hkey]
  rfl

/-- The value of a delimited pair is a body in double quotes. -/
theorem Pair.Delimited.exists_body {p : Pair} (h : p.Delimited) {value : List Char}
    (hvalue : decode p.quoted = .ok value) :
    ∃ body bytes, p.quoted = inQuotes body ∧ '\n' ∉ body ∧ Spells '"' body bytes ∧
      value = Utf8.decodeLossy bytes := by
  obtain ⟨inner, hquoted, -⟩ := h.quoted
  rw [hquoted] at hvalue ⊢
  obtain ⟨body, rfl⟩ := exists_body_of_decode hvalue
  obtain ⟨hnewline, bytes, hspells, htext⟩ := decode_inQuotes_eq_ok_iff.1 hvalue
  exact ⟨body, bytes, rfl, hnewline, hspells, htext⟩

/-- Without its carriage returns a pair is still delimited and its value still decoded. -/
theorem Pair.Delimited.dropReturns {p : Pair} (h : p.Delimited) {value : List Char}
    (hvalue : decode p.quoted = .ok value) :
    p.dropReturns.Delimited ∧ ∃ bytes bytes', value = Utf8.decodeLossy bytes ∧
      decode p.dropReturns.quoted = .ok (Utf8.decodeLossy bytes') ∧
      ReturnsDropped bytes bytes' := by
  obtain ⟨body, bytes, hquoted, hnewline, hspells, htext⟩ := h.exists_body hvalue
  obtain ⟨bytes', hspells', hdropped⟩ := hspells.dropReturns
  have hquoted' : p.dropReturns.quoted = inQuotes (Literal.dropReturns body) := by
    rw [Pair.dropReturns, hquoted]
    simp [inQuotes, Literal.dropReturns]
  have hnewline' : '\n' ∉ Literal.dropReturns body := by
    intro hmem
    exact hnewline (List.mem_of_mem_filter hmem)
  refine ⟨⟨h.key_ne_nil, h.keyChars, _, hquoted', closed_of_spells hspells'⟩, ?_⟩
  refine ⟨bytes, bytes', htext, ?_, hdropped⟩
  rw [hquoted']
  exact decode_inQuotes_eq_ok_iff.2 ⟨hnewline', bytes', hspells', rfl⟩

/-- A tag that can be read consists of the same pairs without its carriage returns. -/
theorem ConsistsOf.dropReturns {cs : List Char} {ps : List Pair} (h : ConsistsOf cs ps)
    (hdecode : ∀ p ∈ ps, ∃ value, decode p.quoted = .ok value) :
    ConsistsOf (Literal.dropReturns cs) (ps.map Pair.dropReturns) := by
  have hblanks {bs : List Char} (hbs : ∀ b ∈ bs, b = ' ') : Literal.dropReturns bs = bs := by
    apply dropReturns_of_notMem
    intro hmem
    exact absurd (hbs '\r' hmem) (by decide)
  induction h with
  | blanks hbs =>
    rw [hblanks hbs]
    exact .blanks hbs
  | @cons bs tail p ps hbs hp _ ih =>
    obtain ⟨value, hvalue⟩ := hdecode p (by simp)
    rw [dropReturns_append, dropReturns_append, hblanks hbs, hp.dropReturns_text]
    exact .cons hbs (hp.dropReturns hvalue).1 (ih fun q hq => hdecode q (by simp [hq]))

end Tag

theorem TagSet.trimBackquotes_backquoted {body : List Char} (h : '\x60' ∉ body) :
    TagSet.trimBackquotes ('\x60' :: (body ++ ['\x60'])) = body := by
  unfold TagSet.trimBackquotes
  rw [List.dropWhile_cons_of_pos (by simp)]
  cases body with
  | nil => rfl
  | cons c rest =>
    have hc : c ≠ '\x60' := fun heq => h (by simp [heq])
    have hback : (c :: rest).reverse.dropWhile (· = '\x60') = (c :: rest).reverse := by
      rw [List.dropWhile_eq_self_iff]
      intro hpos hbad
      have hmem : '\x60' ∈ (c :: rest).reverse := by
        rw [← of_decide_eq_true hbad]
        exact List.getElem_mem hpos
      exact h (List.mem_reverse.1 hmem)
    rw [List.cons_append, List.dropWhile_cons_of_neg (by simpa using hc), ← List.cons_append,
      List.reverse_append, List.reverse_singleton, List.singleton_append,
      List.dropWhile_cons_of_pos (by simp), hback, List.reverse_reverse]

end StructTags
