import StructTags.Proofs.CheckedScan
import StructTags.Proofs.LiteralGrammar

/-!
# Reading a tag with checked accesses

The readers of literals and of tags in the form of `Bytewise.scanPair`: they go through bytes by
index, cut the text at offsets, subtract lengths and add up digits, and each of these may crash.

* `number_eq`: the digits of an escape fit in a word;
* `unescape_eq`: the body of a literal is decoded without a crash;
* `first_eq_last_iff`: the first and the last byte of a literal are equal only if they are the same
  ASCII character, so the body between them is a text;
* `decode_eq`, `lookup_eq` and `parse_eq`: the readers never crash, and agree with those of
  characters.

`readers_never_crash` states all of this for one text.
-/

namespace StructTags

open Utf8 (Byte encode size)

open Literal (Fault)

/-- The character with the number of a byte. -/
def charOf (b : Byte) : Char :=
  Char.ofNat b.toNat

theorem toNat_charOf (b : Byte) : (charOf b).toNat = b.toNat := by
  have hlt := b.toNat_lt
  rw [charOf, Char.toNat_ofNat, if_pos (by simp only [Nat.isValidChar]; omega)]

theorem charOf_byteOf {c : Char} (h : c.toNat ≤ 0x7F) : charOf (byteOf c) = c := by
  rw [← Char.toNat_inj, toNat_charOf, byteOf, UInt8.toNat_ofNat']
  omega

theorem size_cons_ascii {c : Char} (h : c.toNat ≤ 0x7F) (cs : List Char) :
    size (c :: cs) = 1 + size cs := by
  rw [size, Literal.utf8Size_ascii h]

namespace Bytewise

/-! ## Checked numbers -/

-- indices are not bounded: their sums stay below twice the length of a text, which a word holds

/-- The difference of two lengths. -/
def sub (m n : Nat) : Checked Nat :=
  if n ≤ m then .ok (m - n) else .error .arithmetic

/-- A number that has to fit in 32 bits. -/
def word (n : Nat) : Checked Nat :=
  if n < 0x100000000 then .ok n else .error .arithmetic

/-- The bytes between two indices, if there are that many. -/
def range? (bytes : List Byte) (start stop : Nat) : Option (List Byte) :=
  if start ≤ stop ∧ stop ≤ bytes.length then some ((bytes.drop start).take (stop - start)) else none

/-- The number that digits write behind `n`, read into a word. -/
def number (base : Nat) (digit? : Char → Option Nat) (bad : Fault) (n : Nat) :
    List Byte → Run Fault Nat
  | [] => return n
  | b :: rest => do
    match digit? (charOf b) with
    | none => throw bad
    | some d => number base digit? bad (← word (n * base + d)) rest

/-! ## Escapes -/

def hexValue (bytes : List Byte) (i width : Nat) : Run Fault Nat :=
  match range? bytes i (i + width) with
  | none => throw .shortHex
  | some digits => number 16 Digits.hex? .invalidHex 0 digits

/-- The byte written by three octal digits, the first of which is in front of `i`. -/
def octalValue (bytes : List Byte) (i : Nat) : Run Fault (List Byte) := do
  let start ← sub i 1
  match range? bytes start (i + 2) with
  | none => throw .shortOctal
  | some digits =>
    let n ← number 8 Digits.octal? .invalidOctal 0 digits
    if n ≤ 0xFF then return [UInt8.ofNat n] else throw .octalRange

/-- The bytes that an escape stands for, where the byte `esc` follows the backslash and `i` is the
index behind it, and how many bytes from `i` on belong to it. -/
def escape (bytes : List Byte) (quote esc : Byte) (i : Nat) : Run Fault (List Byte × Nat) :=
  match Literal.shortEscape? (charOf esc) with
  | some b => return ([b], 0)
  | none =>
    if esc = byteOf '\'' ∨ esc = byteOf '"' then
      if esc = quote then return ([esc], 0) else throw (.unknownEscape (charOf esc))
    else if esc = byteOf 'x' then do
      return ([UInt8.ofNat (← hexValue bytes i 2)], 2)
    else if esc = byteOf 'u' then do
      return (← answer (Literal.codePoint (← hexValue bytes i 4)), 4)
    else if esc = byteOf 'U' then do
      return (← answer (Literal.codePoint (← hexValue bytes i 8)), 8)
    else if (Digits.octal? (charOf esc)).isSome then do
      return (← octalValue bytes i, 2)
    else throw (.unknownEscape (charOf esc))

section

variable {bytes : List Byte} {i : Nat} {cs : List Char}

theorem range?_of_drop (h : bytes.drop i = encode cs) (hle : i ≤ bytes.length) (n : Nat) :
    range? bytes i (i + n) = if size cs < n then none else some ((encode cs).take n) := by
  have hlength : bytes.length = i + size cs := by
    rw [← Utf8.length_encode, ← h, List.length_drop]
    omega
  rw [range?, h, Nat.add_sub_cancel_left]
  by_cases hshort : size cs < n
  · rw [if_neg (by omega), if_pos hshort]
  · rw [if_pos (by omega), if_neg hshort]

/-- Digits are ASCII, so as many bytes are read as characters, and the word that holds `k` more
digits behind `n` holds them. -/
theorem number_eq {base : Nat} {digit? : Char → Option Nat} (bad : Fault)
    (hlt : ∀ c d, digit? c = some d → d < base) (hascii : ∀ c, 0x7F < c.toNat → digit? c = none)
    {k n : Nat} (hsize : k ≤ size cs) (hfits : (n + 1) * base ^ k ≤ 0x100000000) :
    number base digit? bad n ((encode cs).take k) =
      answer (((cs.take k).mapM digit?).elim (.error bad)
        fun ds => .ok (ds.foldl (fun n d => n * base + d) n)) := by
  induction k generalizing n cs with
  | zero => rfl
  | succ k ih =>
    cases cs with
    | nil => simp [size] at hsize
    | cons c rest =>
      by_cases hc : c.toNat ≤ 0x7F
      · have hbytes : encode (c :: rest) = byteOf c :: encode rest := by
          rw [encode_cons, Tag.encodeChar_ascii hc]
          rfl
        rw [size_cons_ascii hc] at hsize
        rw [hbytes, List.take_succ_cons, number, charOf_byteOf hc, List.take_succ_cons,
          List.mapM_cons]
        cases hdigit : digit? c with
        | none => rfl
        | some d =>
          have hd := hlt c d hdigit
          have hbound : (n * base + d + 1) * base ^ k ≤ 0x100000000 :=
            calc (n * base + d + 1) * base ^ k
                ≤ (n + 1) * base * base ^ k := Nat.mul_le_mul_right _ (by rw [Nat.succ_mul]; omega)
              _ = (n + 1) * base ^ (k + 1) := by rw [Nat.pow_succ']; ring
              _ ≤ 0x100000000 := hfits
          have hword : word (n * base + d) = .ok (n * base + d) := by
            have hpos : 0 < base ^ k := Nat.pow_pos (by omega)
            have hle := Nat.le_mul_of_pos_right (n * base + d + 1) hpos
            rw [word, if_pos (by omega)]
          simp only [hword, lift_ok, answer_ok_bind]
          rw [ih (by omega) hbound]
          cases (rest.take k).mapM digit? with
          | none => rfl
          | some ds => rfl
      · -- the first byte of `c` is no digit, and neither is `c`
        obtain ⟨b, bs, hbytes⟩ := exists_encodeChar c
        have hb := Tag.le_of_mem_encodeChar (c := c) (by omega) b (by simp [hbytes])
        have hbyte : digit? (charOf b) = none := hascii _ (by rw [toNat_charOf]; omega)
        rw [encode_cons, hbytes, List.cons_append, List.take_succ_cons, number, hbyte,
          List.take_succ_cons, List.mapM_cons, hascii c (by omega)]
        rfl

theorem hex?_lt {c : Char} {d : Nat} (h : Digits.hex? c = some d) : d < 16 :=
  (Literal.hex?_eq_some_iff.1 h).1

theorem octal?_lt {c : Char} {d : Nat} (h : Digits.octal? c = some d) : d < 8 :=
  (Literal.octal?_eq_some_iff.1 h).1

theorem hex?_eq_none {c : Char} (h : 0x7F < c.toNat) : Digits.hex? c = none := by
  rw [← Option.not_isSome_iff_eq_none, Literal.hex?_isSome_iff]
  omega

theorem octal?_eq_none {c : Char} (h : 0x7F < c.toNat) : Digits.octal? c = none := by
  rw [← Option.not_isSome_iff_eq_none, Literal.octal?_isSome_iff]
  omega

theorem hexValue_eq (h : bytes.drop i = encode cs) (hle : i ≤ bytes.length) {width : Nat}
    (hwidth : width ≤ 8) : hexValue bytes i width = answer (Literal.hexRun width cs) := by
  unfold hexValue Literal.hexRun
  rw [range?_of_drop h hle]
  by_cases hshort : size cs < width
  · rw [if_pos hshort, if_pos hshort]
    rfl
  · have hfits : (0 + 1) * 16 ^ width ≤ 0x100000000 := by
      have hpow := Nat.pow_le_pow_right (n := 16) (by omega) hwidth
      omega
    rw [if_neg hshort, if_neg hshort]
    simp only
    rw [number_eq .invalidHex (fun _ _ => hex?_lt) (fun _ => hex?_eq_none) (by omega) hfits]
    cases (cs.take width).mapM Digits.hex? with
    | none => rfl
    | some ds => rfl

theorem octalValue_eq {e : Char} (he : e.toNat ≤ 0x7F) (h : bytes.drop i = encode (e :: cs)) :
    octalValue bytes (i + 1) = answer (Literal.octalRun e cs) := by
  have hle : i ≤ bytes.length := by
    obtain ⟨b, bs, hbytes⟩ := exists_encodeChar e
    rw [encode_cons, hbytes, List.cons_append] at h
    exact (lt_of_drop h).le
  have hsub : sub (i + 1) 1 = .ok i := by rw [sub, if_pos (by omega), Nat.add_sub_cancel]
  have hsize := size_cons_ascii he cs
  -- the range of the digits starts at `e`, one byte in front of the index
  have hrange := range?_of_drop h hle 3
  unfold octalValue Literal.octalRun
  simp only [hsub, lift_ok, answer_ok_bind]
  rw [show i + 1 + 2 = i + 3 by omega, hrange, hsize]
  by_cases hshort : size cs < 2
  · rw [if_pos (by omega), if_pos hshort]
    rfl
  · rw [if_neg (by omega), if_neg hshort]
    simp only
    rw [number_eq .invalidOctal (fun _ _ => octal?_lt) (fun _ => octal?_eq_none)
      (by rw [hsize]; omega) (by decide), List.take_succ_cons]
    cases (e :: cs.take 2).mapM Digits.octal? with
    | none => rfl
    | some ds =>
      simp only [Option.elim_some, answer_ok_bind, pure_eq, throw_eq]
      exact (apply_ite answer _ _ _).symm

/-- No escape starts with a character beyond ASCII. -/
theorem escape_beyond {c : Char} (hc : 0x7F < c.toNat) :
    Literal.shortEscape? c = none ∧ ∀ quote cs,
      Literal.escape quote c cs = .error (.unknownEscape (Literal.leadChar c)) := by
  have hne (x : Char) (hx : x.toNat ≤ 0x7F) : c ≠ x := by
    rintro rfl
    omega
  have hshort : Literal.shortEscape? c = none := by
    unfold Literal.shortEscape?
    repeat rw [if_neg (hne _ (by decide))]
  have hquotes : ¬ (c = '\'' ∨ c = '"') := not_or.2 ⟨hne _ (by decide), hne _ (by decide)⟩
  refine ⟨hshort, fun quote cs => ?_⟩
  simp only [Literal.escape, hshort, if_neg hquotes, if_neg (hne 'x' (by decide)),
    if_neg (hne 'u' (by decide)), if_neg (hne 'U' (by decide)), octal?_eq_none hc]
  rfl

variable {quote e : Char} {b : Byte} {bs : List Byte}

theorem escape_ascii (hquote : quote.toNat ≤ 0x7F) (he : e.toNat ≤ 0x7F)
    (h : bytes.drop i = encode (e :: cs)) :
    escape bytes (byteOf quote) (byteOf e) (i + 1) = answer (Literal.escape quote e cs) := by
  have hbyte : String.utf8EncodeChar e = [byteOf e] := Tag.encodeChar_ascii he
  have hahead := h
  rw [encode_cons, hbyte] at hahead
  have hrest : bytes.drop (i + 1) = encode cs := drop_succ_of_drop hahead
  have hhex {width : Nat} (hwidth : width ≤ 8) :=
    hexValue_eq hrest (Nat.succ_le_of_lt (lt_of_drop hahead)) hwidth
  -- each test of the byte is the test of the character
  have hiff (x : Char) (hx : x.toNat ≤ 0x7F) : byteOf e = byteOf x ↔ e = x :=
    eq_byteOf_iff hx (by simp [hbyte])
  have hlead : Literal.leadChar e = e := by
    rw [Literal.leadChar, hbyte]
    exact charOf_byteOf he
  unfold escape Literal.escape
  simp only [hiff quote hquote, hiff '\'' (by decide), hiff '"' (by decide), hiff 'x' (by decide),
    hiff 'u' (by decide), hiff 'U' (by decide), charOf_byteOf he, hlead, hbyte,
    hhex (by decide : 2 ≤ 8), hhex (by decide : 4 ≤ 8), hhex (Nat.le_refl 8), octalValue_eq he h,
    pure_eq, throw_eq, answer_bind_answer]
  cases Literal.shortEscape? e with
  | some b => rfl
  | none =>
    simp only [apply_ite answer]
    rfl

/-- An escape is read from the first byte of its character on. -/
theorem escape_eq (hquote : quote.toNat ≤ 0x7F) (h : bytes.drop i = encode (e :: cs))
    (hbytes : String.utf8EncodeChar e = b :: bs) :
    escape bytes (byteOf quote) b (i + 1) = answer (Literal.escape quote e cs) := by
  have hiff (x : Char) (hx : x.toNat ≤ 0x7F) : b = byteOf x ↔ e = x :=
    eq_byteOf_iff hx (by simp [hbytes])
  by_cases he : e.toNat ≤ 0x7F
  · rw [(hiff e he).2 rfl]
    exact escape_ascii hquote he h
  · -- neither the character nor its first byte, taken as a character, starts an escape
    have hb := Tag.le_of_mem_encodeChar (c := e) (by omega) b (by simp [hbytes])
    have hhigh : 0x7F < (charOf b).toNat := by
      rw [toNat_charOf]
      omega
    have hne (x : Char) (hx : x.toNat ≤ 0x7F) : b ≠ byteOf x := by
      rw [Ne, hiff x hx]
      rintro rfl
      exact he hx
    have hquotes : ¬ (b = byteOf '\'' ∨ b = byteOf '"') :=
      not_or.2 ⟨hne _ (by decide), hne _ (by decide)⟩
    have hlead : Literal.leadChar e = charOf b := by
      rw [Literal.leadChar, hbytes]
      rfl
    rw [(escape_beyond (c := e) (by omega)).2, hlead]
    simp only [escape, (escape_beyond hhigh).1, if_neg hquotes, if_neg (hne 'x' (by decide)),
      if_neg (hne 'u' (by decide)), if_neg (hne 'U' (by decide)), octal?_eq_none hhigh]
    rfl

end

/-! ## The body of a literal -/

/-- The bytes that the body of a literal stands for from `i` on, behind those found so far. -/
def unescape (bytes : List Byte) (quote : Byte) (i : Nat) (out : List Byte) :
    Run Fault (List Byte) :=
  if _h : i < bytes.length then do
    let b ← byteAt bytes i
    if b = quote then throw .unescapedQuote
    else if b ≠ byteOf '\\' then unescape bytes quote (i + 1) (out ++ [b])
    else match bytes[i + 1]? with
      | none => throw .trailingBackslash
      | some esc => do
        let (front, used) ← escape bytes quote esc (i + 2)
        unescape bytes quote (i + 2 + used) (out ++ front)
  else return out
termination_by bytes.length - i

section

variable {bytes ys zs : List Byte} {quote b : Byte} {i : Nat}

theorem unescape_quote (h : bytes.drop i = quote :: ys) (out : List Byte) :
    unescape bytes quote i out = answer (.error .unescapedQuote) := by
  rw [unescape, dif_pos (lt_of_drop h), byteAt_of_drop h, lift_ok, answer_ok_bind, if_pos rfl]
  rfl

theorem unescape_slash (hquote : byteOf '\\' ≠ quote) (h : bytes.drop i = byteOf '\\' :: ys)
    (out : List Byte) :
    unescape bytes quote i out = ys.head?.elim (answer (.error .trailingBackslash)) fun esc =>
      escape bytes quote esc (i + 2) >>= fun x =>
        unescape bytes quote (i + 2 + x.2) (out ++ x.1) := by
  have hnext : bytes[i + 1]? = ys.head? := by
    rw [← List.head?_drop, drop_succ_of_drop h]
  rw [unescape, dif_pos (lt_of_drop h), byteAt_of_drop h, lift_ok, answer_ok_bind, if_neg hquote,
    if_neg (not_not.2 rfl), hnext]
  cases ys.head? with
  | none => rfl
  | some esc => rfl

/-- Bytes that are neither quotes nor backslashes are taken over one by one. -/
theorem unescape_plain (hplain : ∀ y ∈ ys, y ≠ quote ∧ y ≠ byteOf '\\')
    (h : bytes.drop i = ys ++ zs) (out : List Byte) :
    unescape bytes quote i out = unescape bytes quote (i + ys.length) (out ++ ys) := by
  induction ys generalizing i out with
  | nil => rw [List.length_nil, Nat.add_zero, List.append_nil]
  | cons y rest ih =>
    obtain ⟨hquote, hslash⟩ := hplain y (by simp)
    rw [unescape, dif_pos (lt_of_drop h), byteAt_of_drop h, lift_ok, answer_ok_bind, if_neg hquote,
      if_pos hslash, ih (fun x hx => hplain x (by simp [hx])) (drop_succ_of_drop h),
      List.length_cons, List.append_assoc, List.singleton_append, Nat.add_assoc, Nat.add_comm 1]

end

section

variable {quote e : Char} {rest : List Char} {bytes : List Byte} {i : Nat}

/-- At a backslash the escape behind it is read, and the loop goes on behind that. -/
theorem unescape_escape (hascii : quote.toNat ≤ 0x7F) (hquote : byteOf '\\' ≠ byteOf quote)
    (h : bytes.drop i = byteOf '\\' :: encode (e :: rest)) (out : List Byte) :
    unescape bytes (byteOf quote) i out = answer (Literal.escape quote e rest) >>= fun x =>
      unescape bytes (byteOf quote) (i + 2 + x.2) (out ++ x.1) := by
  obtain ⟨b, bs, hbytes⟩ := exists_encodeChar e
  have hhead : (encode (e :: rest)).head? = some b := by
    rw [encode_cons, hbytes, List.cons_append, List.head?_cons]
  rw [unescape_slash hquote h, hhead, Option.elim_some,
    ← escape_eq hascii (drop_succ_of_drop h) hbytes]

/-- What an escape uses is ASCII, so that the loop goes on in front of a character. -/
theorem drop_used {front : List Byte} {used : Nat}
    (hescape : Literal.escape quote e rest = .ok (front, used))
    (h : bytes.drop i = encode (e :: rest)) :
    bytes.drop (i + 1 + used) = encode (rest.drop used) := by
  have he : e.toNat ≤ 0x7F := by
    by_contra hhigh
    rw [(escape_beyond (c := e) (by omega)).2] at hescape
    cases hescape
  obtain ⟨ds, tail, rfl, rfl, hds, -⟩ := Literal.escape_local hescape
  have hlength : (encode (e :: ds)).length = 1 + ds.length := by
    rw [Utf8.length_encode, size_cons_ascii he, hds.size]
  rw [← List.cons_append, Utf8.encode_append] at h
  rw [List.drop_left, Nat.add_assoc, ← hlength]
  exact drop_add_of_drop h

end

/-- The body is decoded without a crash, whatever it holds. -/
theorem unescape_eq {quote : Char} (hascii : quote.toNat ≤ 0x7F) (hne : quote ≠ '\\')
    {cs : List Char} {bytes : List Byte} {i : Nat} (h : bytes.drop i = encode cs)
    (out : List Byte) :
    unescape bytes (byteOf quote) i out = answer ((out ++ ·) <$> Literal.bodyBytes quote cs) := by
  have hslash : String.utf8EncodeChar '\\' = [byteOf '\\'] := by decide
  have hquoteSlash : byteOf '\\' ≠ byteOf quote := by
    rw [Ne, eq_byteOf_iff hascii (by rw [hslash]; exact List.mem_singleton_self _)]
    exact hne.symm
  -- at every turn of the loop the rest of the body lies ahead of its index
  fun_induction Literal.bodyBytes quote cs generalizing i out with
  | case1 =>
    have hle := le_of_drop h
    rw [unescape, dif_neg (by omega)]
    simp only [pure_eq, Functor.map, Except.map, List.append_nil]
  | case2 rest =>
    rw [encode_cons, Tag.encodeChar_ascii hascii] at h
    exact unescape_quote h out
  | case3 c rest hquote hplain ih =>
    have hbytes : ∀ y ∈ String.utf8EncodeChar c, y ≠ byteOf quote ∧ y ≠ byteOf '\\' := by
      intro y hy
      rw [Ne, Ne, eq_byteOf_iff hascii hy, eq_byteOf_iff (by decide) hy]
      exact ⟨hquote, hplain⟩
    rw [encode_cons] at h
    rw [unescape_plain hbytes h, ih (drop_add_of_drop h)]
    cases Literal.bodyBytes quote rest with
    | error fault => rfl
    | ok bs => simp only [Functor.map, Except.map, List.append_assoc]
  | case4 c hquote hc =>
    have hc' : c = '\\' := by simpa using hc
    rw [hc'] at h
    exact unescape_slash hquoteSlash h out
  | case5 c hquote hc e rest fault hescape =>
    have hc' : c = '\\' := by simpa using hc
    rw [encode_cons, hc', hslash] at h
    rw [unescape_escape hascii hquoteSlash h, hescape]
    rfl
  | case6 c hquote hc e rest front used hescape ih =>
    have hc' : c = '\\' := by simpa using hc
    rw [encode_cons, hc', hslash] at h
    have hnext := drop_used hescape (drop_succ_of_drop h)
    rw [unescape_escape hascii hquoteSlash h, hescape, answer_ok_bind, ih hnext]
    cases Literal.bodyBytes quote (rest.drop used) with
    | error fault => rfl
    | ok bs => simp only [Functor.map, Except.map, List.append_assoc]

/-! ## Literals -/

/-- The first byte of a character continues none, and the last one leads none. -/
theorem encodeChar_ends {c : Char} {b : Byte} :
    ((String.utf8EncodeChar c).head? = some b → b.toNat ≤ 0x7F ∨ 0xC0 ≤ b.toNat) ∧
      ((String.utf8EncodeChar c).getLast? = some b → b.toNat ≤ 0xBF) := by
  -- one case per encoded length
  fun_cases String.utf8EncodeChar <;> constructor <;> rintro ⟨⟩ <;> simp <;> omega

/-- The text stands between two copies of an ASCII character. -/
def Enclosed (cs : List Char) : Prop :=
  ∃ (quote : Char) (body : List Char), quote.toNat ≤ 0x7F ∧ cs = quote :: (body ++ [quote])

/-- A text of more than one byte starts and ends with the same byte only if it starts and ends with
the same ASCII character. -/
theorem first_eq_last_iff {cs : List Char} (hsize : 2 ≤ size cs) :
    (encode cs).head? = (encode cs).getLast? ↔ Enclosed cs := by
  constructor
  · intro h
    have hne : cs ≠ [] := by
      rintro rfl
      simp [size] at hsize
    obtain ⟨c, rest, hcons⟩ := List.exists_cons_of_ne_nil hne
    obtain ⟨front, last, hconcat⟩ := (List.eq_nil_or_concat' cs).resolve_left hne
    obtain ⟨b, bs, hbytes⟩ := exists_encodeChar c
    have hfirst : (encode cs).head? = some b := by
      rw [hcons, encode_cons, hbytes, List.cons_append, List.head?_cons]
    have hlast : (String.utf8EncodeChar last).getLast? = some b := by
      have hbytes : encode [last] ≠ [] := by simp [encode]
      rw [hfirst, hconcat, Utf8.encode_append, List.getLast?_append_of_ne_nil _ hbytes] at h
      simpa [encode] using h.symm
    have hmem : b ∈ String.utf8EncodeChar c := by simp [hbytes]
    -- the byte both starts and ends a character, so it is ASCII and the character itself
    have hb : b.toNat ≤ 0x7F := by
      have hstart := encodeChar_ends.1 (by rw [hbytes, List.head?_cons])
      have hstop := encodeChar_ends.2 hlast
      omega
    have hascii : c.toNat ≤ 0x7F := by
      by_contra hhigh
      have hle := Tag.le_of_mem_encodeChar (by omega) b hmem
      omega
    have hsame : last = c := by
      rw [← eq_byteOf_iff hascii (List.mem_of_getLast? hlast)]
      exact (eq_byteOf_iff hascii hmem).2 rfl
    cases front with
    | nil =>
      rw [hconcat, hsame, List.nil_append, size_cons_ascii hascii, size] at hsize
      omega
    | cons x body =>
      have hx : x = c := (List.cons.inj (hcons.symm.trans hconcat)).1.symm
      exact ⟨c, body, hascii, by rw [hconcat, hx, hsame, List.cons_append]⟩
  · rintro ⟨quote, body, hascii, rfl⟩
    have hquote : encode [quote] = [byteOf quote] := by
      rw [encode_cons, Tag.encodeChar_ascii hascii]
      rfl
    rw [← List.singleton_append, Utf8.encode_append, Utf8.encode_append, hquote,
      List.singleton_append, List.head?_cons, ← List.cons_append, List.getLast?_concat]

/-- Decodes what stands between quotes that allow escapes. -/
def decodeInterpreted (quote : Byte) (body : List Char) : Run Fault (List Char) := do
  if '\n' ∈ body then throw .newline
  else return Utf8.decodeLossy (← unescape (encode body) quote 0 [])

/-- Decodes what stands between quotes, where `quote` is their byte. -/
def decodeBody (quote : Byte) (body : List Char) : Run Fault (List Char) := do
  if quote = byteOf '\x60' then answer (Literal.decodeRaw body)
  else if quote = byteOf '"' ∨ quote = byteOf '\'' then
    let text ← decodeInterpreted quote body
    if quote = byteOf '\'' ∧ text.length ≠ 1 then throw .notOneCharacter else return text
  else throw .notQuoted

/-- The text that a quoted literal stands for. -/
def decode (cs : List Char) : Run Fault (List Char) := do
  let bytes := encode cs
  if bytes.length < 2 then throw .tooShort
  else
    let quote ← byteAt bytes 0
    if quote ≠ (← byteAt bytes (← sub bytes.length 1)) then throw .mismatchedQuotes
    else decodeBody quote (← slice cs 1 (← sub bytes.length 1))

theorem decodeInterpreted_eq {quote : Char} (hascii : quote.toNat ≤ 0x7F) (hne : quote ≠ '\\')
    (body : List Char) :
    decodeInterpreted (byteOf quote) body = answer (Literal.decodeInterpreted quote body) := by
  unfold decodeInterpreted Literal.decodeInterpreted
  by_cases hnewline : '\n' ∈ body
  · rw [if_pos hnewline, if_pos hnewline]
    rfl
  · rw [if_neg hnewline, if_neg hnewline, unescape_eq hascii hne (List.drop_zero)]
    cases Literal.bodyBytes quote body with
    | error fault => rfl
    | ok bytes => rfl

theorem decodeBody_eq {quote : Char} (hascii : quote.toNat ≤ 0x7F) (body : List Char) :
    decodeBody (byteOf quote) body = answer (Literal.decode (quote :: (body ++ [quote]))) := by
  have hiff (x : Char) (hx : x.toNat ≤ 0x7F) : byteOf quote = byteOf x ↔ quote = x :=
    eq_byteOf_iff hx (by rw [Tag.encodeChar_ascii hascii]; exact List.mem_singleton_self _)
  rw [Literal.decode_between (by omega)]
  simp only [decodeBody, hiff '\x60' (by decide), hiff '"' (by decide), hiff '\'' (by decide)]
  by_cases hraw : quote = '\x60'
  · rw [if_pos hraw, if_pos hraw]
  rw [if_neg hraw, if_neg hraw]
  by_cases hdouble : quote = '"'
  · subst hdouble
    rw [if_pos (.inl rfl), if_pos rfl, decodeInterpreted_eq (by decide) (by decide)]
    cases Literal.decodeInterpreted '"' body with
    | error fault => rfl
    | ok text => rfl
  by_cases hsingle : quote = '\''
  · subst hsingle
    rw [if_pos (.inr rfl), if_neg (by decide), if_pos rfl,
      decodeInterpreted_eq (by decide) (by decide)]
    cases Literal.decodeInterpreted '\'' body with
    | error fault => rfl
    | ok text =>
      rw [answer_ok_bind]
      by_cases hlength : text.length = 1
      · rw [if_neg (by simp [hlength])]
        exact congrArg answer (if_pos hlength).symm
      · rw [if_pos ⟨rfl, hlength⟩]
        exact congrArg answer (if_neg hlength).symm
  · rw [if_neg (not_or.2 ⟨hdouble, hsingle⟩), if_neg hdouble, if_neg hsingle]
    rfl

theorem decode_not_enclosed {cs : List Char} (hsize : 2 ≤ size cs) (h : ¬ Enclosed cs) :
    Literal.decode cs = .error .mismatchedQuotes := by
  cases cs with
  | nil => simp [size] at hsize
  | cons quote rest =>
    have hends : rest.getLast? ≠ some quote ∨ 0x80 ≤ quote.toNat := by
      by_contra hquoted
      rw [not_or, not_not, Nat.not_le] at hquoted
      obtain ⟨body, hbody⟩ := List.getLast?_eq_some_iff.1 hquoted.1
      exact h ⟨quote, body, by omega, by rw [hbody]⟩
    rw [Literal.decode, if_neg (by omega), if_pos hends]

theorem decode_short {cs : List Char} (h : size cs < 2) : Literal.decode cs = .error .tooShort := by
  cases cs with
  | nil => rfl
  | cons c rest => rw [Literal.decode, if_pos h]

theorem slice_body {quote : Char} (hascii : quote.toNat ≤ 0x7F) (body : List Char) :
    slice (quote :: (body ++ [quote])) 1 (size (quote :: (body ++ [quote])) - 1) = .ok body := by
  have hone : size [quote] = 1 := size_cons_ascii hascii []
  have hstop : size (quote :: (body ++ [quote])) - 1 = 1 + size body := by
    rw [size_cons_ascii hascii, Utf8.size_append, hone, ← Nat.add_assoc, Nat.add_sub_cancel]
  have hslice := slice_append [quote] body [quote]
  rwa [hone, List.append_assoc, List.singleton_append, ← hstop] at hslice

/-- Both ends of the body of a literal are boundaries, so it is decoded without a crash. -/
theorem decode_eq (cs : List Char) : decode cs = answer (Literal.decode cs) := by
  have hlength := Utf8.length_encode cs
  by_cases hshort : size cs < 2
  · rw [decode, if_pos (by omega), decode_short hshort]
    rfl
  obtain ⟨first, hfirst⟩ : ∃ b, (encode cs)[0]? = some b :=
    ⟨_, List.getElem?_eq_getElem (by omega)⟩
  obtain ⟨last, hlast⟩ : ∃ b, (encode cs)[size cs - 1]? = some b :=
    ⟨_, List.getElem?_eq_getElem (by omega)⟩
  have hends : first = last ↔ (encode cs).head? = (encode cs).getLast? := by
    rw [List.head?_eq_getElem?, List.getLast?_eq_getElem?, hlength, hfirst, hlast, Option.some_inj]
  have hsub : sub (size cs) 1 = .ok (size cs - 1) := by rw [sub, if_pos (by omega)]
  rw [first_eq_last_iff (by omega)] at hends
  simp only [decode, hlength, if_neg hshort, hsub, byteAt_of_getElem? hfirst,
    byteAt_of_getElem? hlast, lift_ok, answer_ok_bind]
  by_cases henclosed : Enclosed cs
  · -- the first byte is that of the quote, and the text is cut behind it and in front of the last
    rw [if_neg (not_not.2 (hends.2 henclosed))]
    obtain ⟨quote, body, hascii, rfl⟩ := henclosed
    have hquote : first = byteOf quote := by
      rw [encode_cons, Tag.encodeChar_ascii hascii] at hfirst
      exact (Option.some.inj hfirst).symm
    rw [slice_body hascii, lift_ok, answer_ok_bind, hquote, decodeBody_eq hascii]
  · rw [if_pos (mt hends.1 henclosed), decode_not_enclosed (by omega) henclosed]
    rfl

/-! ## Tags -/

theorem run_scanPair (cs : List Char) : (scanPair cs).run = .ok (Tag.scanPair cs) := by
  rw [scanPair_eq]
  rfl

theorem length_of_scanPair {cs rest tail : List Char} {p : Tag.Pair}
    (hrest : cs.dropWhile (· = ' ') = rest) (h : (scanPair rest).run = .ok (.ok (p, tail))) :
    tail.length < cs.length := by
  have hblanks := (List.dropWhile_sublist (l := cs) (· = ' ')).length_le
  have hscan := Tag.length_scanPair (Except.ok.inj ((run_scanPair rest).symm.trans h))
  rw [hrest] at hblanks
  omega

/-- The value of the first pair with the given key. -/
def lookupChars (cs key : List Char) : Checked (Option (List Char)) :=
  match _h : cs.dropWhile (· = ' ') with
  | [] => return none
  | c :: rest =>
    match _hs : (scanPair (c :: rest)).run with
    | .error crash => throw crash
    | .ok (.error _) => return none
    | .ok (.ok (p, tail)) =>
      if p.key = key then (·.toOption) <$> (decode p.quoted).run else lookupChars tail key
termination_by cs.length
decreasing_by exact length_of_scanPair _h _hs

/-- The entry of the pair that a text starts with, where `tail` follows the pair. Its source is as
long as the text is longer than the tail. -/
def entryOf (cs : List Char) (p : Tag.Pair) (tail : List Char) : Run Tag.Part TagEntry := do
  let value ← (decode p.quoted).adapt fun _ => .value
  let source ← slice cs 0 (← sub (size cs) (size tail))
  return { key := String.ofList p.key
           value := .ofText (String.ofList value)
           source? := some (String.ofList source) }

def parseChars (cs : List Char) : Run Tag.Part (List TagEntry) :=
  match _h : cs.dropWhile (· = ' ') with
  | [] => return []
  | c :: rest =>
    match _hs : (scanPair (c :: rest)).run with
    | .error crash => throwThe Crash crash
    | .ok (.error part) => throw part
    | .ok (.ok (p, tail)) => do
      let e ← entryOf (c :: rest) p tail
      return e :: (← parseChars tail)
termination_by cs.length
decreasing_by exact length_of_scanPair _h _hs

section

variable {cs rest tail : List Char} {c : Char} {p : Tag.Pair} {part : Tag.Part}

theorem pairs_of_scanPair (hrest : cs.dropWhile (· = ' ') = c :: rest)
    (hscan : (scanPair (c :: rest)).run = .ok (.ok (p, tail))) :
    Tag.pairs cs = (p :: (Tag.pairs tail).1, (Tag.pairs tail).2) := by
  rw [run_scanPair] at hscan
  rw [Tag.pairs_eq, hrest]
  simp only [Except.ok.inj hscan]

theorem pairs_of_scanPair_error (hrest : cs.dropWhile (· = ' ') = c :: rest)
    (hscan : (scanPair (c :: rest)).run = .ok (.error part)) : Tag.pairs cs = ([], some part) := by
  rw [run_scanPair] at hscan
  rw [Tag.pairs_eq, hrest]
  simp only [Except.ok.inj hscan]

theorem pairs_of_blanks (hrest : cs.dropWhile (· = ' ') = []) : Tag.pairs cs = ([], none) := by
  rw [Tag.pairs_eq, hrest]

end

theorem lookupChars_eq (cs key : List Char) :
    lookupChars cs key = .ok (Tag.lookupChars cs key) := by
  -- the scanner never crashes, so that case is empty
  fun_induction lookupChars cs key with
  | case1 cs hrest =>
    rw [Tag.lookupChars, pairs_of_blanks hrest]
    rfl
  | case2 cs c rest hrest crash hscan =>
    rw [run_scanPair] at hscan
    cases hscan
  | case3 cs c rest hrest part hscan =>
    rw [Tag.lookupChars, pairs_of_scanPair_error hrest hscan]
    rfl
  | case4 cs c rest hrest p tail hscan hkey =>
    rw [Tag.lookupChars, pairs_of_scanPair hrest hscan,
      List.find?_cons_of_pos (by simpa using hkey), decode_eq]
    rfl
  | case5 cs c rest hrest p tail hscan hkey ih =>
    rw [ih, Tag.lookupChars, Tag.lookupChars, pairs_of_scanPair hrest hscan,
      List.find?_cons_of_neg (by simpa using hkey)]

/-- What the tail leaves of the text is the pair. -/
theorem entryOf_eq {cs tail : List Char} {p : Tag.Pair} (h : Tag.scanPair cs = .ok (p, tail)) :
    entryOf cs p tail = answer (TagSet.entryOf p) := by
  have hcs := Tag.scanPair_append h
  have hsub : sub (size cs) (size tail) = .ok (size p.text) := by
    rw [sub, hcs, Utf8.size_append, if_pos (by omega), Nat.add_sub_cancel]
  have hslice : slice cs 0 (size p.text) = .ok p.text := by rw [hcs, slice_front]
  unfold entryOf TagSet.entryOf
  rw [decode_eq, adapt_answer]
  cases Literal.decode p.quoted with
  | error fault => rfl
  | ok value =>
    simp only [Except.mapError, answer_ok_bind, hsub, hslice, lift_ok, pure_eq]

theorem parseChars_eq (cs : List Char) :
    parseChars cs = answer (TagSet.entries <$> TagSet.parseChars cs) := by
  fun_induction parseChars cs with
  | case1 cs hrest =>
    rw [TagSet.parseChars, pairs_of_blanks hrest]
    rfl
  | case2 cs c rest hrest crash hscan =>
    rw [run_scanPair] at hscan
    cases hscan
  | case3 cs c rest hrest part hscan =>
    rw [TagSet.parseChars, pairs_of_scanPair_error hrest hscan]
    rfl
  | case4 cs c rest hrest p tail hscan ih =>
    have hpair : Tag.scanPair (c :: rest) = .ok (p, tail) :=
      Except.ok.inj ((run_scanPair _).symm.trans hscan)
    have hp := Tag.delimited_of_scanPair hpair
    -- the blanks in front of the pair do not count
    have hparse : TagSet.parseChars cs = TagSet.parseChars (p.text ++ tail) := by
      simp only [TagSet.parseChars, pairs_of_scanPair hrest hscan, Tag.pairs_text_append hp]
    rw [hparse, TagSet.parseChars_text_append hp, entryOf_eq hpair, ih]
    cases TagSet.entryOf p with
    | error part => rfl
    | ok e =>
      cases TagSet.parseChars tail with
      | error part => rfl
      | ok s => rfl

/-! ## The readers -/

/-- The text that a quoted literal stands for. -/
def unquote (literal : String) : Run Fault String :=
  String.ofList <$> decode literal.toList

/-- The value that a tag holds under a key. -/
def lookup (tag key : String) : Checked (Option String) :=
  (·.map String.ofList) <$> lookupChars tag.toList key.toList

/-- Reads the text of a tag. -/
def parse (tag : String) : Run Tag.Part TagSet :=
  TagSet.mk <$> parseChars tag.toList

theorem unquote_eq (literal : String) : unquote literal = answer (StructTags.unquote literal) := by
  rw [unquote, StructTags.unquote, decode_eq]
  cases Literal.decode literal.toList with
  | error fault => rfl
  | ok text => rfl

theorem lookup_eq (tag key : String) : lookup tag key = .ok (Tag.lookup tag key) := by
  rw [lookup, Tag.lookup, lookupChars_eq]
  rfl

theorem parse_eq (tag : String) : parse tag = answer (TagSet.parse tag) := by
  rw [parse, TagSet.parse, parseChars_eq]
  cases TagSet.parseChars tag.toList with
  | error part => rfl
  | ok s => rfl

theorem Enclosed.boundaries {cs : List Char} (h : Enclosed cs) :
    Offset.isBoundary 1 cs ∧ Offset.isBoundary (size cs - 1) cs := by
  obtain ⟨quote, body, hascii, rfl⟩ := h
  have hone : size [quote] = 1 := size_cons_ascii hascii []
  rw [Offset.isBoundary_iff, Offset.isBoundary_iff]
  refine ⟨⟨[quote], body ++ [quote], rfl, hone⟩, quote :: body, [quote], rfl, ?_⟩
  rw [← List.cons_append, Utf8.size_append, hone, Nat.add_sub_cancel]

/-- No reader of tags crashes, whatever its text, and each finds what the reader of characters
finds. Behind this stand two facts on where a text is cut. A literal whose first and last byte are
equal is cut at boundaries. So is a pair, even though the search for its closing quote may pass over
the first byte of a longer character: the bytes up to the end of the key, those from the opening to
the closing quote, and those behind it are well formed. -/
theorem readers_never_crash (text : String) :
    (unquote text).run = .ok (StructTags.unquote text) ∧
    (scanPair text.toList).run = .ok (Tag.scanPair text.toList) ∧
    (∀ key, lookup text key = .ok (Tag.lookup text key)) ∧
    (parse text).run = .ok (TagSet.parse text) ∧
    (2 ≤ (encode text.toList).length →
      (encode text.toList).head? = (encode text.toList).getLast? →
      Offset.isBoundary 1 text.toList ∧
        Offset.isBoundary ((encode text.toList).length - 1) text.toList) ∧
    ∀ p tail, Tag.scanPair text.toList = .ok (p, tail) →
      ∃ i j, keyEnd (encode text.toList) 0 = .ok i ∧
        quoteEnd ((encode text.toList).drop (i + 1)) 1 = .ok j ∧
        Utf8.decode? ((encode text.toList).take i) = some p.key ∧
        Utf8.decode? (((encode text.toList).drop (i + 1)).take (j + 1)) = some p.quoted ∧
        Utf8.decode? ((encode text.toList).drop (i + j + 2)) = some tail := by
  refine ⟨?_, run_scanPair text.toList, lookup_eq text, ?_, ?_, ?_⟩
  · rw [unquote_eq]
    rfl
  · rw [parse_eq]
    rfl
  · rw [Utf8.length_encode]
    intro hsize hends
    exact ((first_eq_last_iff hsize).1 hends).boundaries
  · intro p tail hscan
    obtain ⟨i, j, hi, hj, hkey, hquoted, htail⟩ := exists_ranges hscan
    refine ⟨i, j, hi, hj, ?_, ?_, ?_⟩
    · rw [hkey, Utf8.decode?_encode]
    · rw [hquoted, Utf8.decode?_encode]
    · rw [htail, Utf8.decode?_encode]

/-- The text starts and ends with the same byte, and the backslash stands in front of a character of
two bytes, of which the search passes over the first. -/
theorem readers_never_crash_escaped :
    (encode "k:\"\\é\"k".toList).head? = (encode "k:\"\\é\"k".toList).getLast? ∧
      Offset.isBoundary 1 "k:\"\\é\"k".toList ∧
      Tag.scanPair "k:\"\\é\"k".toList = .ok (⟨['k'], "\"\\é\"".toList⟩, ['k']) ∧
      ∃ i j, quoteEnd ((encode "k:\"\\é\"k".toList).drop (i + 1)) 1 = .ok j ∧
        Utf8.decode? (((encode "k:\"\\é\"k".toList).drop (i + 1)).take (j + 1)) =
          some "\"\\é\"".toList := by
  have hends : (encode "k:\"\\é\"k".toList).head? = (encode "k:\"\\é\"k".toList).getLast? := by
    cbv
  have hscan : Tag.scanPair "k:\"\\é\"k".toList =
      .ok (⟨['k'], "\"\\é\"".toList⟩, ['k']) := by
    cbv
  obtain ⟨-, -, -, -, hbody, hpair⟩ := readers_never_crash "k:\"\\é\"k"
  obtain ⟨i, j, -, hj, -, hquoted, -⟩ := hpair _ _ hscan
  exact ⟨hends, (hbody (by cbv) hends).1, hscan, i, j, hj, hquoted⟩

end Bytewise

end StructTags
