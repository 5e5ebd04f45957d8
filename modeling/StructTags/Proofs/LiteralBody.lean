import StructTags.Proofs.LossyDecoding
import StructTags.Tag.Literal

/-!
# The body of a literal

`Literal.Spells quote cs bytes` says that `cs` is a body between `quote`s that stands for `bytes`:
a sequence of plain characters and of escapes, where an escape is a backslash, the character
behind it and as many digits as that character asks for. `bodyBytes_eq_ok_iff` holds the decoder
to it, and results about bodies are inductions over the derivation.

The digits of an escape are all it looks at (`escape_local`), so neither what follows an escape nor
what is taken out behind it changes its meaning.
-/

namespace StructTags

namespace Literal

/-- The digits an escape may hold; none of them is special in a literal. -/
def AreDigits (ds : List Char) : Prop :=
  ∀ d ∈ ds, (Digits.hex? d).isSome

theorem AreDigits.ne {ds : List Char} (h : AreDigits ds) {c : Char}
    (hc : Digits.hex? c = none) : ∀ d ∈ ds, d ≠ c := by
  rintro d hd rfl
  simpa [hc] using h d hd

theorem hex?_isSome_iff {c : Char} : (Digits.hex? c).isSome ↔
    (0x30 ≤ c.toNat ∧ c.toNat ≤ 0x39) ∨ (0x61 ≤ c.toNat ∧ c.toNat ≤ 0x66) ∨
      (0x41 ≤ c.toNat ∧ c.toNat ≤ 0x46) := by
  simp only [Digits.hex?, Char.le_def, UInt32.le_iff_toNat_le, Bool.and_eq_true,
    decide_eq_true_eq]
  change (if 0x30 ≤ c.toNat ∧ c.toNat ≤ 0x39 then _ else if 0x61 ≤ c.toNat ∧ c.toNat ≤ 0x66
    then _ else if 0x41 ≤ c.toNat ∧ c.toNat ≤ 0x46 then _ else _ : Option Nat).isSome ↔ _
  split_ifs <;> simp <;> omega

theorem octal?_isSome_iff {c : Char} :
    (Digits.octal? c).isSome ↔ 0x30 ≤ c.toNat ∧ c.toNat ≤ 0x37 := by
  simp only [Digits.octal?, Char.le_def, UInt32.le_iff_toNat_le, Bool.and_eq_true,
    decide_eq_true_eq]
  change (if 0x30 ≤ c.toNat ∧ c.toNat ≤ 0x37 then _ else _ : Option Nat).isSome ↔ _
  split_ifs <;> simp <;> omega

theorem utf8Size_ascii {c : Char} (h : c.toNat ≤ 0x7F) : c.utf8Size = 1 := by
  rw [Char.utf8Size, if_pos]
  exact UInt32.le_iff_toNat_le.2 h

theorem AreDigits.size {ds : List Char} (h : AreDigits ds) : Utf8.size ds = ds.length := by
  induction ds with
  | nil => rfl
  | cons d rest ih =>
    have hd := hex?_isSome_iff.1 (h d (by simp))
    rw [Utf8.size, utf8Size_ascii (by omega), ih fun x hx => h x (by simp [hx]), List.length_cons]
    omega

theorem mapM_eq_some_iff {α β : Type} {f : α → Option β} {xs : List α} {ys : List β} :
    xs.mapM f = some ys ↔ List.Forall₂ (fun x y => f x = some y) xs ys := by
  induction xs generalizing ys with
  | nil => simp [eq_comm]
  | cons x rest ih =>
    simp only [List.mapM_cons, Option.pure_def, Option.bind_eq_bind, Option.bind_eq_some_iff,
      Option.some.injEq, List.forall₂_cons_left_iff, ih]
    constructor
    · rintro ⟨y, hy, zs, hzs, rfl⟩
      exact ⟨y, zs, hy, hzs, rfl⟩
    · rintro ⟨y, zs, hy, hzs, rfl⟩
      exact ⟨y, hy, zs, hzs, rfl⟩

theorem isSome_of_mapM {α β : Type} {f : α → Option β} {xs : List α} {ys : List β}
    (h : xs.mapM f = some ys) : ∀ x ∈ xs, (f x).isSome := by
  rw [mapM_eq_some_iff] at h
  induction h with
  | nil => exact List.forall_mem_nil _
  | cons hx _ ih => exact List.forall_mem_cons.2 ⟨Option.isSome_of_eq_some hx, ih⟩

/-- Digits that fill the first `n` bytes are `n` in number, and they are all that is seen of a text
cut to `n` characters, whatever follows. -/
theorem take_local {n : Nat} {cs : List Char} (hds : AreDigits (cs.take n))
    (hsize : ¬ Utf8.size cs < n) :
    (cs.take n).length = n ∧ ∀ tail, (cs.take n ++ tail).take n = cs.take n ∧
      ¬ Utf8.size (cs.take n ++ tail) < n := by
  -- the bound is on bytes, but digits have one byte each
  have hlen : (cs.take n).length = n := by
    by_contra hne
    have hshort : cs.length < n := by
      rw [List.length_take] at hne
      omega
    rw [List.take_of_length_le (by omega)] at hds
    rw [hds.size] at hsize
    omega
  refine ⟨hlen, fun tail => ⟨?_, ?_⟩⟩
  · rw [List.take_append_of_le_length (by omega), List.take_of_length_le (by omega)]
  · rw [Utf8.size_append, hds.size]
    omega

/-- A reader that gives `result` on `cs` after reading `n` digits, and gives it on every text that
starts with them. -/
def ReadsDigits {α : Type} (run : List Char → Except Fault α) (cs : List Char) (result : α)
    (n : Nat) : Prop :=
  ∃ ds tail, cs = ds ++ tail ∧ ds.length = n ∧ AreDigits ds ∧
    ∀ tail', run (ds ++ tail') = .ok result

theorem hexRun_local {n width : Nat} {cs : List Char} (h : hexRun width cs = .ok n) :
    ReadsDigits (hexRun width) cs n width := by
  unfold hexRun at h
  split at h
  · simp at h
  · next hsize =>
    split at h
    · simp at h
    · next digits hdigits =>
      have hds : AreDigits (cs.take width) := isSome_of_mapM hdigits
      obtain ⟨hlen, hlocal⟩ := take_local hds hsize
      refine ⟨cs.take width, cs.drop width, (List.take_append_drop width cs).symm, hlen, hds, ?_⟩
      intro tail'
      rw [hexRun, if_neg (hlocal tail').2, (hlocal tail').1, hdigits]
      exact h

theorem octalRun_local {c : Char} {bytes : List Utf8.Byte} {cs : List Char}
    (h : octalRun c cs = .ok bytes) : ReadsDigits (octalRun c) cs bytes 2 := by
  unfold octalRun at h
  split at h
  · simp at h
  · next hsize =>
    split at h
    · simp at h
    · next digits hdigits =>
      have hds : AreDigits (cs.take 2) := by
        intro d hd
        have hoctal := octal?_isSome_iff.1 (isSome_of_mapM hdigits d (by simp [hd]))
        rw [hex?_isSome_iff]
        omega
      obtain ⟨hlen, hlocal⟩ := take_local hds hsize
      refine ⟨cs.take 2, cs.drop 2, (List.take_append_drop 2 cs).symm, hlen, hds, ?_⟩
      intro tail'
      rw [octalRun, if_neg (hlocal tail').2, (hlocal tail').1, hdigits]
      exact h

theorem bind_eq_ok {ε α β : Type} {x : Except ε α} {f : α → Except ε β} {r : β} :
    x >>= f = .ok r ↔ ∃ a, x = .ok a ∧ f a = .ok r := by
  cases x <;> simp [bind, Except.bind]

theorem ReadsDigits.bind {α β : Type} {run : List Char → Except Fault α} {cs : List Char} {a : α}
    {n : Nat} {f : α → Except Fault β} {b : β} (h : ReadsDigits run cs a n) (hf : f a = .ok b) :
    ReadsDigits (fun cs => run cs >>= f) cs b n := by
  obtain ⟨ds, tail, hcs, hlen, hds, hlocal⟩ := h
  exact ⟨ds, tail, hcs, hlen, hds, fun tail' => bind_eq_ok.2 ⟨a, hlocal tail', hf⟩⟩

/-- What an escape looks at: the digits it uses and nothing behind them. -/
theorem escape_local {quote e : Char} {cs : List Char} {bytes : List Utf8.Byte} {used : Nat}
    (h : escape quote e cs = .ok (bytes, used)) :
    ReadsDigits (escape quote e) cs (bytes, used) used := by
  have hdigits : AreDigits [] := by simp [AreDigits]
  cases hshort : shortEscape? e with
  | some b =>
    simp only [escape, hshort, Except.ok.injEq, Prod.mk.injEq] at h
    exact ⟨[], cs, rfl, h.2, hdigits, fun _ => by simp [escape, hshort, h]⟩
  | none =>
    unfold escape at h ⊢
    simp only [hshort] at h ⊢
    split_ifs at h ⊢ with hquote hown hx hu hU hoctal
    · simp only [Except.ok.injEq, Prod.mk.injEq] at h
      exact ⟨[], cs, rfl, h.2, hdigits, fun _ => by simp [← h.1, ← h.2]⟩
    · -- the remaining escapes all read digits, by one of two readers
      obtain ⟨n, hn, hr⟩ := bind_eq_ok.1 h
      have hused : 2 = used := (Prod.mk.inj (Except.ok.inj hr)).2
      exact hused ▸ (hexRun_local hn).bind (hused ▸ hr)
    · obtain ⟨n, hn, hr⟩ := bind_eq_ok.1 h
      obtain ⟨bs, hbs, hr'⟩ := bind_eq_ok.1 hr
      have hused : 4 = used := (Prod.mk.inj (Except.ok.inj hr')).2
      exact hused ▸ (hexRun_local hn).bind (hused ▸ hr)
    · obtain ⟨n, hn, hr⟩ := bind_eq_ok.1 h
      obtain ⟨bs, hbs, hr'⟩ := bind_eq_ok.1 hr
      have hused : 8 = used := (Prod.mk.inj (Except.ok.inj hr')).2
      exact hused ▸ (hexRun_local hn).bind (hused ▸ hr)
    · obtain ⟨bs, hbs, hr⟩ := bind_eq_ok.1 h
      have hused : 2 = used := (Prod.mk.inj (Except.ok.inj hr)).2
      exact hused ▸ (octalRun_local hbs).bind (hused ▸ hr)

/-! ## Bodies -/

/-- The body `cs` of a literal between `quote`s stands for `bytes`. -/
inductive Spells (quote : Char) : List Char → List Utf8.Byte → Prop where
  | nil : Spells quote [] []
  | plain {c : Char} {cs : List Char} {bytes : List Utf8.Byte} (hquote : c ≠ quote)
      (hslash : c ≠ '\\') (rest : Spells quote cs bytes) :
      Spells quote (c :: cs) (String.utf8EncodeChar c ++ bytes)
  | escaped {e : Char} {ds cs : List Char} {front bytes : List Utf8.Byte} (hds : AreDigits ds)
      (hescape : ∀ tail, escape quote e (ds ++ tail) = .ok (front, ds.length))
      (rest : Spells quote cs bytes) :
      Spells quote ('\\' :: e :: (ds ++ cs)) (front ++ bytes)

theorem map_eq_ok {ε α β : Type} {x : Except ε α} {f : α → β} {r : β} :
    f <$> x = .ok r ↔ ∃ a, x = .ok a ∧ f a = r := by
  cases x <;> simp [Functor.map, Except.map]

theorem spells_of_bodyBytes {quote : Char} {cs : List Char} {bytes : List Utf8.Byte}
    (h : bodyBytes quote cs = .ok bytes) : Spells quote cs bytes := by
  fun_induction bodyBytes quote cs generalizing bytes with
  | case1 =>
    cases h
    exact .nil
  | case2 => simp at h
  | case3 c rest hquote hslash ih =>
    obtain ⟨bs, hbs, rfl⟩ := map_eq_ok.1 h
    exact .plain hquote hslash (ih hbs)
  | case4 => simp at h
  | case5 => simp at h
  | case6 c hquote hslash e rest front used hescape ih =>
    -- what the escape has used is its digits, and the rest of the body starts behind them
    obtain ⟨bs, hbs, rfl⟩ := map_eq_ok.1 h
    obtain ⟨ds, tail, rfl, rfl, hds, hlocal⟩ := escape_local hescape
    rw [List.drop_left] at ih hbs
    have hc : c = '\\' := by simpa using hslash
    exact hc ▸ .escaped hds hlocal (ih hbs)

theorem Spells.bodyBytes {quote : Char} (hslash : quote ≠ '\\') {cs : List Char}
    {bytes : List Utf8.Byte} (h : Spells quote cs bytes) : bodyBytes quote cs = .ok bytes := by
  induction h with
  | nil => simp [Literal.bodyBytes]
  | plain hquote hplain _ ih =>
    rw [Literal.bodyBytes.eq_def]
    simp only [if_neg hquote, if_pos hplain, ih]
    rfl
  | @escaped e ds cs front bytes hds hescape _ ih =>
    rw [Literal.bodyBytes, if_neg hslash.symm, if_neg (by simp)]
    simp only [hescape, List.drop_left, ih]
    rfl

/-- The decoder accepts exactly the bodies that spell something, and gives what they spell. -/
theorem bodyBytes_eq_ok_iff {quote : Char} (hslash : quote ≠ '\\') {cs : List Char}
    {bytes : List Utf8.Byte} : bodyBytes quote cs = .ok bytes ↔ Spells quote cs bytes :=
  ⟨spells_of_bodyBytes, Spells.bodyBytes hslash⟩

/-! ## Between quotes -/

/-- What stands between two quotes is decoded as the kind of quote says. -/
theorem decode_between {quote : Char} (hascii : quote.toNat < 0x80) (body : List Char) :
    decode (quote :: (body ++ [quote])) =
      if quote = '\x60' then decodeRaw body
      else if quote = '"' then decodeInterpreted quote body
      else if quote = '\'' then do
        let text ← decodeInterpreted quote body
        if text.length = 1 then .ok text else .error .notOneCharacter
      else .error .notQuoted := by
  have hsize : ¬ Utf8.size (quote :: (body ++ [quote])) < 2 := by
    have hpos := quote.utf8Size_pos
    simp only [Utf8.size, Utf8.size_append]
    omega
  have hmatch : ¬ ((body ++ [quote]).getLast? ≠ some quote ∨ 0x80 ≤ quote.toNat) := by
    rintro (hlast | hhigh)
    · simp at hlast
    · omega
  simp only [decode, if_neg hsize, if_neg hmatch, List.dropLast_concat]

/-- A literal that can be decoded ends with the quote it starts with. -/
theorem exists_body_of_decode {quote : Char} {rest text : List Char}
    (h : decode (quote :: rest) = .ok text) : ∃ body, rest = body ++ [quote] := by
  by_cases hlast : rest.getLast? = some quote
  · exact List.getLast?_eq_some_iff.1 hlast
  · simp only [decode, hlast, ne_eq, not_false_eq_true, true_or, if_true] at h
    split at h <;> cases h

/-- A literal that can be decoded stands between backquotes or double quotes, or it stands for one
character. -/
theorem quote_of_decode {quote : Char} {rest text : List Char}
    (h : decode (quote :: rest) = .ok text) :
    quote = '\x60' ∨ quote = '"' ∨ quote = '\'' ∧ text.length = 1 := by
  obtain ⟨body, rfl⟩ := exists_body_of_decode h
  have hascii : quote.toNat < 0x80 := by
    by_contra hhigh
    have hbad : (body ++ [quote]).getLast? ≠ some quote ∨ 0x80 ≤ quote.toNat := .inr (by omega)
    rw [decode] at h
    simp only [if_pos hbad] at h
    split at h <;> cases h
  rw [decode_between hascii] at h
  split at h
  · next hraw => exact .inl hraw
  split at h
  · next hdouble => exact .inr (.inl hdouble)
  split at h
  · next hsingle =>
    obtain ⟨text', -, h⟩ := bind_eq_ok.1 h
    split at h
    · next hlength =>
      obtain rfl := Except.ok.inj h
      exact .inr (.inr ⟨hsingle, hlength⟩)
    · cases h
  · cases h

theorem decodeInterpreted_eq_ok_iff {quote : Char} (hslash : quote ≠ '\\') {body text : List Char} :
    decodeInterpreted quote body = .ok text ↔
      '\n' ∉ body ∧ ∃ bytes, Spells quote body bytes ∧ text = Utf8.decodeLossy bytes := by
  unfold decodeInterpreted
  split
  · next hnewline => simp [hnewline]
  · next hnewline =>
    rw [map_eq_ok]
    simp only [hnewline, not_false_eq_true, true_and, bodyBytes_eq_ok_iff hslash]
    constructor
    · rintro ⟨bytes, hspells, rfl⟩
      exact ⟨bytes, hspells, rfl⟩
    · rintro ⟨bytes, hspells, rfl⟩
      exact ⟨bytes, hspells, rfl⟩

/-- The text in double quotes. -/
def inQuotes (body : List Char) : List Char :=
  '"' :: (body ++ ['"'])

theorem decode_inQuotes (body : List Char) :
    decode (inQuotes body) = decodeInterpreted '"' body := by
  rw [inQuotes, decode_between (by decide), if_neg (by decide), if_pos rfl]

theorem decode_inQuotes_eq_ok_iff {body text : List Char} :
    decode (inQuotes body) = .ok text ↔
      '\n' ∉ body ∧ ∃ bytes, Spells '"' body bytes ∧ text = Utf8.decodeLossy bytes := by
  rw [decode_inQuotes, decodeInterpreted_eq_ok_iff (by decide)]

end Literal

end StructTags
