import StructTags.Proofs.PairGrammar
import StructTags.Proofs.SimultaneousFixes

/-!
# Scanning a pair with checked accesses

A text is stored as bytes. A scanner that goes through the bytes by index may leave the text, and
one that cuts the text at byte offsets may cut a character in two; either stops the program. `Crash`
lists these failures, and `Bytewise.scanPair` is the scanner of `Tag.scanPair` in this form, where an
access that is not allowed is a crash and nothing else.

The loops move by bytes and pass over the byte behind a backslash, so they do stand inside
characters. They never cut there, because they cut only beside ASCII bytes:

* `eq_byteOf_iff`: an ASCII byte belongs to no other character than its own;
* `keyEnd_encode`: the key ends behind a whole number of characters;
* `quoteEnd_unclosed`: the search for the closing quote passes a text without one to its end.

`scanPair_eq` puts them together: the scanner never crashes and finds what `Tag.scanPair` finds.
-/

namespace StructTags

open Utf8 (Byte encode size)

/-! ## Bytes of characters -/

/-- The byte of an ASCII character. -/
def byteOf (c : Char) : Byte :=
  UInt8.ofNat c.toNat

/-- A byte of a character is that of an ASCII character only if it is that character. -/
theorem eq_byteOf_iff {x : Char} (hx : x.toNat ≤ 0x7F) {c : Char} {b : Byte}
    (hb : b ∈ String.utf8EncodeChar c) : b = byteOf x ↔ c = x := by
  have hbyte {y : Char} (hy : y.toNat ≤ 0x7F) : (byteOf y).toNat = y.toNat := by
    rw [byteOf, UInt8.toNat_ofNat']
    omega
  by_cases hc : c.toNat ≤ 0x7F
  · rw [Tag.encodeChar_ascii hc, List.mem_singleton] at hb
    have hnat : b.toNat = c.toNat := hb ▸ hbyte hc
    rw [← UInt8.toNat_inj, hbyte hx, hnat, Char.toNat_inj]
  · have hhigh := Tag.le_of_mem_encodeChar (by omega) b hb
    constructor
    · rintro rfl
      rw [hbyte hx] at hhigh
      omega
    · rintro rfl
      exact absurd hx hc

theorem encode_cons (c : Char) (cs : List Char) :
    encode (c :: cs) = String.utf8EncodeChar c ++ encode cs :=
  rfl

/-- The first byte of a character, and those behind it. -/
theorem exists_encodeChar (c : Char) : ∃ b bs, String.utf8EncodeChar c = b :: bs :=
  List.exists_cons_of_ne_nil String.utf8EncodeChar_ne_nil

/-- The bytes of a text are well formed, and those of no other text. -/
theorem Utf8.decode?_encode (cs : List Char) : Utf8.decode? (encode cs) = some cs := by
  induction cs with
  | nil => rfl
  | cons c rest ih =>
    rw [Utf8.decode?] at ih ⊢
    rw [encode_cons, Utf8.scan_encodeChar, List.mapM_cons, ih]
    rfl

namespace Bytewise

/-! ## Checked accesses -/

/-- Why a reader stops without an answer. -/
inductive Crash where
  /-- There is no byte at the index. -/
  | index (i : Nat)
  /-- The offsets are not in order, or one of them is no boundary of the text. -/
  | slice (start stop : Nat)
  /-- A difference is negative, or a number is too large for its word. -/
  | arithmetic
deriving DecidableEq, Repr

/-- A computation that may crash. -/
abbrev Checked := Except Crash

/-- A reader that may crash, and that may refuse its text if it does not. -/
abbrev Run (ε : Type) := ExceptT ε Checked

/-- The run that ends with an answer or a refusal. -/
def answer {ε α : Type} (x : Except ε α) : Run ε α :=
  ExceptT.mk (.ok x)

def byteAt (bytes : List Byte) (i : Nat) : Checked Byte :=
  match bytes[i]? with
  | some b => .ok b
  | none => .error (.index i)

def slice (cs : List Char) (start stop : Nat) : Checked (List Char) :=
  match Offset.slice? start stop cs with
  | some inner => .ok inner
  | none => .error (.slice start stop)

section

variable {ε α β : Type}

@[simp] theorem pure_eq (a : α) : (pure a : Run ε α) = answer (.ok a) := rfl

@[simp] theorem throw_eq (e : ε) : (throw e : Run ε α) = answer (.error e) := rfl

@[simp] theorem lift_ok (a : α) :
    (liftM (Except.ok a : Checked α) : Run ε α) = answer (.ok a) := rfl

@[simp] theorem answer_ok_bind (a : α) (f : α → Run ε β) : answer (.ok a) >>= f = f a := rfl

@[simp] theorem adapt_answer {ε' : Type} (f : ε → ε') (x : Except ε α) :
    (answer x).adapt f = answer (x.mapError f) := rfl

theorem answer_bind_answer (x : Except ε α) (f : α → Except ε β) :
    (answer x >>= fun a => answer (f a)) = answer (x >>= f) := by
  cases x <;> rfl

end

theorem slice_append (front inner back : List Char) :
    slice (front ++ inner ++ back) (size front) (size front + size inner) = .ok inner := by
  have hslice : Offset.slice? (size front) (size front + size inner) (front ++ inner ++ back) =
      some inner := Offset.slice?_eq_some_iff.2 ⟨front, back, rfl, rfl, rfl⟩
  rw [slice, hslice]

theorem slice_front (inner back : List Char) :
    slice (inner ++ back) 0 (size inner) = .ok inner := by
  have hslice := slice_append [] inner back
  rwa [size, Nat.zero_add] at hslice

theorem slice_back (front inner : List Char) :
    slice (front ++ inner) (size front) (size (front ++ inner)) = .ok inner := by
  have hslice := slice_append front inner []
  rwa [List.append_nil, ← Utf8.size_append] at hslice

-- the loops are followed by what lies ahead of their index

section

variable {bytes ys zs : List Byte} {i : Nat} {b : Byte}

theorem lt_of_drop (h : bytes.drop i = b :: ys) : i < bytes.length := by
  have hlength := congrArg List.length h
  rw [List.length_drop, List.length_cons] at hlength
  omega

theorem le_of_drop (h : bytes.drop i = []) : bytes.length ≤ i :=
  List.drop_eq_nil_iff.1 h

theorem byteAt_of_getElem? (h : bytes[i]? = some b) : byteAt bytes i = .ok b := by
  rw [byteAt, h]

theorem byteAt_of_drop (h : bytes.drop i = b :: ys) : byteAt bytes i = .ok b :=
  byteAt_of_getElem? (by rw [← List.head?_drop, h, List.head?_cons])

theorem drop_add_of_drop (h : bytes.drop i = ys ++ zs) : bytes.drop (i + ys.length) = zs := by
  rw [← List.drop_drop, h, List.drop_left]

theorem drop_succ_of_drop (h : bytes.drop i = b :: ys) : bytes.drop (i + 1) = ys := by
  rw [← List.tail_drop, h, List.tail_cons]

/-- In front of a character its first byte is read, which tells whether it is a given ASCII one. -/
theorem exists_byteAt {c : Char} {cs : List Char} (h : bytes.drop i = encode (c :: cs)) :
    ∃ b, byteAt bytes i = .ok b ∧ ∀ x : Char, x.toNat ≤ 0x7F → (b = byteOf x ↔ c = x) := by
  obtain ⟨b, bs, hbytes⟩ := exists_encodeChar c
  rw [encode_cons, hbytes, List.cons_append] at h
  exact ⟨b, byteAt_of_drop h, fun x hx => eq_byteOf_iff hx (by simp [hbytes])⟩

end

/-! ## The key -/

/-- The index behind the bytes from `i` on that may stand in a key. -/
def keyEnd (bytes : List Byte) (i : Nat) : Checked Nat :=
  if _h : i < bytes.length then do
    if Tag.isKeyByte (← byteAt bytes i) then keyEnd bytes (i + 1) else return i
  else return i
termination_by bytes.length - i

theorem keyEnd_of_drop {bytes ys : List Byte} {i : Nat} (h : bytes.drop i = ys) :
    keyEnd bytes i = .ok (i + (ys.takeWhile Tag.isKeyByte).length) := by
  induction ys generalizing i with
  | nil =>
    have hle := le_of_drop h
    rw [keyEnd, dif_neg (by omega)]
    rfl
  | cons b rest ih =>
    rw [keyEnd, dif_pos (lt_of_drop h), byteAt_of_drop h]
    simp only [bind, Except.bind]
    cases hb : Tag.isKeyByte b with
    | true =>
      rw [if_pos rfl, ih (drop_succ_of_drop h), List.takeWhile_cons_of_pos hb, List.length_cons,
        Nat.add_assoc, Nat.add_comm 1]
    | false =>
      rw [if_neg (by simp), List.takeWhile_cons_of_neg (by simp [hb])]
      rfl

theorem takeWhile_encode (cs : List Char) :
    (encode cs).takeWhile Tag.isKeyByte = encode (cs.takeWhile Tag.isKeyChar) := by
  induction cs with
  | nil => rfl
  | cons c rest ih =>
    rw [encode_cons]
    cases hc : Tag.isKeyChar c with
    | true =>
      have hall : ∀ b ∈ String.utf8EncodeChar c, Tag.isKeyByte b = true := fun b hb =>
        (Tag.isKeyByte_of_mem_encodeChar hb).trans hc
      rw [List.takeWhile_append_of_pos hall, ih, List.takeWhile_cons_of_pos hc, encode_cons]
    | false =>
      obtain ⟨b, bs, hbytes⟩ := exists_encodeChar c
      have hb : Tag.isKeyByte b = false :=
        (Tag.isKeyByte_of_mem_encodeChar (by simp [hbytes])).trans hc
      rw [hbytes, List.cons_append, List.takeWhile_cons_of_neg (by simp [hb]),
        List.takeWhile_cons_of_neg (by simp [hc])]
      rfl

/-- The bytes of the key are those of the characters of the key. -/
theorem keyEnd_encode (cs : List Char) :
    keyEnd (encode cs) 0 = .ok (size (cs.takeWhile Tag.isKeyChar)) := by
  have hend := keyEnd_of_drop (List.drop_zero (l := encode cs))
  rwa [takeWhile_encode, Utf8.length_encode, Nat.zero_add] at hend

/-! ## The closing quote -/

/-- The index of the first double quote from `j` on that no backslash escapes, or an index behind
the bytes if there is none. The byte behind a backslash is passed over, whatever it is. -/
def quoteEnd (bytes : List Byte) (j : Nat) : Checked Nat :=
  if _h : j < bytes.length then do
    let b ← byteAt bytes j
    if b = byteOf '"' then return j
    else if b = byteOf '\\' then quoteEnd bytes (j + 2)
    else quoteEnd bytes (j + 1)
  else return j
termination_by bytes.length - j

section

variable {bytes ys zs : List Byte} {j : Nat} {b : Byte}

theorem quoteEnd_step (h : bytes.drop j = b :: ys) :
    quoteEnd bytes j =
      if b = byteOf '"' then .ok j
      else if b = byteOf '\\' then quoteEnd bytes (j + 2)
      else quoteEnd bytes (j + 1) := by
  rw [quoteEnd, dif_pos (lt_of_drop h), byteAt_of_drop h]
  rfl

theorem quoteEnd_of_le (h : bytes.length ≤ j) : quoteEnd bytes j = .ok j := by
  rw [quoteEnd, dif_neg (by omega)]
  rfl

/-- Bytes that are neither quotes nor backslashes are passed one by one. -/
theorem quoteEnd_plain (hplain : ∀ y ∈ ys, y ≠ byteOf '"' ∧ y ≠ byteOf '\\')
    (h : bytes.drop j = ys ++ zs) : quoteEnd bytes j = quoteEnd bytes (j + ys.length) := by
  induction ys generalizing j with
  | nil => rfl
  | cons y rest ih =>
    obtain ⟨hquote, hslash⟩ := hplain y (by simp)
    rw [quoteEnd_step h, if_neg hquote, if_neg hslash,
      ih (fun x hx => hplain x (by simp [hx])) (drop_succ_of_drop h), List.length_cons,
      Nat.add_assoc, Nat.add_comm 1]

end

theorem plain_of_mem {c : Char} (hquote : c ≠ '"') (hslash : c ≠ '\\') :
    ∀ y ∈ String.utf8EncodeChar c, y ≠ byteOf '"' ∧ y ≠ byteOf '\\' := by
  intro y hy
  rw [Ne, Ne, eq_byteOf_iff (by decide) hy, eq_byteOf_iff (by decide) hy]
  exact ⟨hquote, hslash⟩

/-- The bytes of a character behind the first one are neither quotes nor backslashes, since a
character that has any is beyond ASCII. -/
theorem plain_of_mem_tail {c : Char} {b : Byte} {bs : List Byte}
    (h : String.utf8EncodeChar c = b :: bs) : ∀ y ∈ bs, y ≠ byteOf '"' ∧ y ≠ byteOf '\\' := by
  by_cases hc : c.toNat ≤ 0x7F
  · rw [Tag.encodeChar_ascii hc] at h
    rw [← (List.cons.inj h).2]
    exact List.forall_mem_nil _
  · intro y hy
    refine plain_of_mem ?_ ?_ y (h ▸ List.mem_cons_of_mem b hy)
    · rintro rfl
      exact hc (by decide)
    · rintro rfl
      exact hc (by decide)

/-- The search passes a text without a closing quote to its end, whatever follows. -/
theorem quoteEnd_unclosed {body : List Char} (hbody : Tag.Unclosed body) {bytes zs : List Byte}
    {j : Nat} (h : bytes.drop j = encode body ++ zs) :
    quoteEnd bytes j = quoteEnd bytes (j + size body) := by
  induction hbody generalizing j with
  | nil => rfl
  | @plain c cs hquote hslash _ ih =>
    rw [encode_cons, List.append_assoc] at h
    have hnext := drop_add_of_drop h
    rw [quoteEnd_plain (plain_of_mem hquote hslash) h, ih hnext, String.length_utf8EncodeChar, size,
      Nat.add_assoc]
  | @escaped c cs _ ih =>
    obtain ⟨b, bs, hbytes⟩ := exists_encodeChar c
    have hslash : String.utf8EncodeChar '\\' = [byteOf '\\'] := by decide
    rw [encode_cons, encode_cons, hslash, hbytes, List.append_assoc, List.append_assoc] at h
    -- behind the backslash and the first byte of `c` the search goes on byte by byte
    have hrest : bytes.drop (j + 2) = bs ++ (encode cs ++ zs) :=
      drop_succ_of_drop (drop_succ_of_drop h)
    have hsize : size ('\\' :: c :: cs) = 2 + bs.length + size cs := by
      have hone : Char.utf8Size '\\' = 1 := rfl
      rw [size, size, ← String.length_utf8EncodeChar c, hbytes, List.length_cons, hone]
      omega
    rw [quoteEnd_step h, if_neg (by decide), if_pos rfl,
      quoteEnd_plain (plain_of_mem_tail hbytes) hrest, ih (drop_add_of_drop hrest), hsize]
    simp only [Nat.add_assoc]

/-- A text in which no quote closes has none, up to a backslash at its end. -/
theorem unclosed_of_closeQuote?_none {cs : List Char} (h : Tag.closeQuote? cs = none) :
    Tag.Unclosed cs ∨ ∃ body, Tag.Unclosed body ∧ cs = body ++ ['\\'] := by
  fun_induction Tag.closeQuote? cs with
  | case1 => exact .inl .nil
  | case2 => simp at h
  | case3 c rest ih =>
    rcases ih (Option.map_eq_none_iff.1 h) with hrest | ⟨body, hbody, rfl⟩
    · exact .inl (.escaped hrest)
    · exact .inr ⟨'\\' :: c :: body, .escaped hbody, rfl⟩
  | case4 c rest hquote hescape ih =>
    by_cases hslash : c = '\\'
    · cases rest with
      | nil => exact .inr ⟨[], .nil, by rw [hslash]; rfl⟩
      | cons x xs => exact absurd rfl (hescape x xs hslash)
    · rcases ih (Option.map_eq_none_iff.1 h) with hrest | ⟨body, hbody, rfl⟩
      · exact .inl (.plain hquote hslash hrest)
      · exact .inr ⟨c :: body, .plain hquote hslash hbody, rfl⟩

/-- The search ends at the closing quote if there is one. -/
theorem quoteEnd_of_some {bytes : List Byte} {j : Nat} {cs inner tail : List Char}
    (h : bytes.drop j = encode cs) (hclose : Tag.closeQuote? cs = some (inner, tail)) :
    ∃ k, quoteEnd bytes j = .ok k ∧ k + 1 = j + size inner := by
  obtain ⟨body, hinner, hbody⟩ := Tag.unclosed_of_closeQuote? hclose
  have hquote : encode ['"'] = [byteOf '"'] := by decide
  have hone : size ['"'] = 1 := rfl
  rw [Tag.closeQuote?_append hclose, hinner, List.append_assoc, Utf8.encode_append,
    Utf8.encode_append, hquote] at h
  have hnext := drop_add_of_drop h
  rw [Utf8.length_encode] at hnext
  refine ⟨j + size body, ?_, ?_⟩
  · rw [quoteEnd_unclosed hbody h, quoteEnd_step hnext, if_pos rfl]
  · rw [hinner, Utf8.size_append, hone, Nat.add_assoc]

/-- The search runs off the end of a text without a closing quote. -/
theorem quoteEnd_of_none {bytes : List Byte} {j : Nat} {cs : List Char}
    (h : bytes.drop j = encode cs) (hclose : Tag.closeQuote? cs = none) :
    ∃ k, quoteEnd bytes j = .ok k ∧ bytes.length ≤ k := by
  rcases unclosed_of_closeQuote?_none hclose with hcs | ⟨body, hbody, rfl⟩
  · rw [← List.append_nil (encode cs)] at h
    have hle := le_of_drop (drop_add_of_drop h)
    rw [Utf8.length_encode] at hle
    exact ⟨_, (quoteEnd_unclosed hcs h).trans (quoteEnd_of_le hle), hle⟩
  · have hslash : encode ['\\'] = [byteOf '\\'] := by decide
    rw [Utf8.encode_append, hslash] at h
    have hnext := drop_add_of_drop h
    rw [Utf8.length_encode] at hnext
    have hle : bytes.length ≤ j + size body + 2 :=
      (le_of_drop (drop_succ_of_drop hnext)).trans (Nat.le_succ _)
    refine ⟨j + size body + 2, ?_, hle⟩
    rw [quoteEnd_unclosed hbody h, quoteEnd_step hnext, if_neg (by decide), if_pos rfl,
      quoteEnd_of_le hle]

/-! ## The pair -/

/-- The value at the front of a text that starts with a double quote, and what follows it. -/
def scanQuoted (cs : List Char) : Run Tag.Part (List Char × List Char) := do
  let bytes := encode cs
  let j ← quoteEnd bytes 1
  if bytes.length ≤ j then throw .value
  else return (← slice cs 0 (j + 1), ← slice cs (j + 1) bytes.length)

/-- The pair at the front of a text, and what follows it. -/
def scanPair (cs : List Char) : Run Tag.Part (Tag.Pair × List Char) := do
  let bytes := encode cs
  let i ← keyEnd bytes 0
  if i = 0 then throw .key
  else if bytes.length ≤ i + 1 then throw .pair
  else if (← byteAt bytes i) ≠ byteOf ':' then throw .pair
  else if (← byteAt bytes (i + 1)) ≠ byteOf '"' then throw .value
  else
    let key ← slice cs 0 i
    let (quoted, tail) ← scanQuoted (← slice cs (i + 1) bytes.length)
    return (⟨key, quoted⟩, tail)

theorem drop_quote (more : List Char) : (encode ('"' :: more)).drop 1 = encode more :=
  rfl

theorem scanQuoted_of_some {more inner tail : List Char}
    (h : Tag.closeQuote? more = some (inner, tail)) :
    scanQuoted ('"' :: more) = answer (.ok ('"' :: inner, tail)) := by
  obtain ⟨k, hend, hk⟩ := quoteEnd_of_some (drop_quote more) h
  have hsize : k + 1 = size ('"' :: inner) := hk
  have hcut : '"' :: more = ('"' :: inner) ++ tail := by
    rw [Tag.closeQuote?_append h, List.cons_append]
  have hinside : ¬ size ('"' :: inner ++ tail) ≤ k := by
    rw [Utf8.size_append]
    omega
  rw [hcut] at hend ⊢
  simp only [scanQuoted, hend, lift_ok, answer_ok_bind, Utf8.length_encode, if_neg hinside, hsize,
    slice_front, slice_back, pure_eq]

theorem scanQuoted_of_none {more : List Char} (h : Tag.closeQuote? more = none) :
    scanQuoted ('"' :: more) = answer (.error .value) := by
  obtain ⟨k, hend, hk⟩ := quoteEnd_of_none (drop_quote more) h
  simp only [scanQuoted, hend, lift_ok, answer_ok_bind, if_pos hk, throw_eq]

/-- The text is cut behind the key and behind the colon, both of which are boundaries. -/
theorem scanPair_colon {key more : List Char} {d : Char} (hkey : key ≠ [])
    (hend : keyEnd (encode (key ++ ':' :: d :: more)) 0 = .ok (size key)) :
    scanPair (key ++ ':' :: d :: more) =
      if d = '"' then (fun x => (⟨key, x.1⟩, x.2)) <$> scanQuoted (d :: more)
      else answer (.error .value) := by
  have hsize : size key ≠ 0 := fun hzero => hkey (Offset.size_eq_zero hzero)
  have hfront : size (key ++ [':']) = size key + 1 := Utf8.size_append _ _
  have hcut : key ++ ':' :: d :: more = (key ++ [':']) ++ (d :: more) := by simp
  have hlong : ¬ (encode (key ++ ':' :: d :: more)).length ≤ size key + 1 := by
    have hpos := d.utf8Size_pos
    rw [hcut, Utf8.length_encode, Utf8.size_append, hfront, size]
    omega
  have hkeyAhead := Utf8.drop_encode_append key (':' :: d :: more)
  have hvalueAhead := Utf8.drop_encode_append (key ++ [':']) (d :: more)
  rw [← hcut, hfront] at hvalueAhead
  obtain ⟨b, hcolonByte, hb⟩ := exists_byteAt hkeyAhead
  obtain ⟨b', hquoteByte, hb'⟩ := exists_byteAt hvalueAhead
  have hrest : slice (key ++ ':' :: d :: more) (size key + 1)
      (encode (key ++ ':' :: d :: more)).length = .ok (d :: more) := by
    rw [Utf8.length_encode, hcut, ← hfront, slice_back]
  have hcolon : ¬ b ≠ byteOf ':' := not_not.2 ((hb ':' (by decide)).2 rfl)
  simp only [scanPair, hend, hcolonByte, hquoteByte, lift_ok, answer_ok_bind, if_neg hsize,
    if_neg hlong, if_neg hcolon, slice_front, hrest, hb' '"' (by decide), ne_eq, throw_eq]
  by_cases hquote : d = '"'
  · rw [if_neg (not_not.2 hquote), if_pos hquote]
    rfl
  · rw [if_pos hquote, if_neg hquote]

/-- Without a colon and a byte behind it the text is not cut. -/
theorem scanPair_no_colon {key rest : List Char} (hkey : key ≠ [])
    (hend : keyEnd (encode (key ++ rest)) 0 = .ok (size key))
    (hrest : ∀ d more, rest ≠ ':' :: d :: more) :
    scanPair (key ++ rest) = answer (.error .pair) := by
  have hsize : size key ≠ 0 := fun hzero => hkey (Offset.size_eq_zero hzero)
  have hahead := Utf8.drop_encode_append key rest
  simp only [scanPair, hend, lift_ok, answer_ok_bind, if_neg hsize, throw_eq]
  by_cases hshort : (encode (key ++ rest)).length ≤ size key + 1
  · rw [if_pos hshort]
  rw [if_neg hshort]
  cases rest with
  | nil =>
    rw [Utf8.length_encode, List.append_nil] at hshort
    omega
  | cons c more =>
    obtain ⟨b, hbyte, hb⟩ := exists_byteAt hahead
    have hcolon : c ≠ ':' := by
      rintro rfl
      cases more with
      | nil => exact hshort (by rw [Utf8.length_encode, Utf8.size_append]; rfl)
      | cons d more => exact hrest d more rfl
    rw [hbyte, lift_ok, answer_ok_bind, if_pos (mt (hb ':' (by decide)).1 hcolon)]

/-- The scanner never crashes, and finds what the scanner of characters finds. -/
theorem scanPair_eq (cs : List Char) : scanPair cs = answer (Tag.scanPair cs) := by
  have hcut := List.takeWhile_append_dropWhile (p := Tag.isKeyChar) (l := cs)
  have hend := keyEnd_encode cs
  unfold Tag.scanPair
  generalize cs.takeWhile Tag.isKeyChar = key at hcut hend ⊢
  generalize cs.dropWhile Tag.isKeyChar = rest at hcut ⊢
  subst hcut
  by_cases hkey : key = []
  · subst hkey
    simp only [scanPair, hend, lift_ok, answer_ok_bind]
    rfl
  have hnonempty : key.isEmpty = false := by simpa using hkey
  simp only [hnonempty, Bool.false_eq_true, if_false]
  split
  · next more =>
    rw [scanPair_colon hkey hend, if_pos rfl]
    cases hclose : Tag.closeQuote? more with
    | none =>
      rw [scanQuoted_of_none hclose]
      rfl
    | some x =>
      rw [scanQuoted_of_some hclose]
      rfl
  · next d more hquote =>
    rw [scanPair_colon hkey hend, if_neg hquote]
  · next hrest => exact scanPair_no_colon hkey hend hrest

/-- The bytes between the places where the loops stop are the key, the value in quotes and the tail,
each of them a text of its own. -/
theorem exists_ranges {cs tail : List Char} {p : Tag.Pair} (h : Tag.scanPair cs = .ok (p, tail)) :
    ∃ i j, keyEnd (encode cs) 0 = .ok i ∧ quoteEnd ((encode cs).drop (i + 1)) 1 = .ok j ∧
      (encode cs).take i = encode p.key ∧
      ((encode cs).drop (i + 1)).take (j + 1) = encode p.quoted ∧
      (encode cs).drop (i + j + 2) = encode tail := by
  obtain ⟨hp, hcs⟩ := Tag.scanPair_eq_ok_iff.1 h
  obtain ⟨inner, hquoted, hclosed⟩ := hp.quoted
  have hend := keyEnd_encode cs
  have hkey : cs.takeWhile Tag.isKeyChar = p.key := by
    rw [hcs, Tag.Pair.text, List.append_assoc, List.takeWhile_append_of_pos hp.keyChars]
    simp [Tag.isKeyChar]
  have hcut : cs = (p.key ++ [':']) ++ (p.quoted ++ tail) := by
    rw [hcs, Tag.Pair.text]
    simp
  have hfront : size (p.key ++ [':']) = size p.key + 1 := Utf8.size_append _ _
  have hrest : (encode cs).drop (size p.key + 1) = encode (p.quoted ++ tail) := by
    rw [hcut, ← hfront, Utf8.drop_encode_append]
  have hone : (encode (p.quoted ++ tail)).drop 1 = encode (inner ++ tail) := by
    rw [hquoted, List.cons_append, drop_quote]
  obtain ⟨j, hj, hstop⟩ := quoteEnd_of_some hone (hclosed.append tail)
  have hsize : j + 1 = (encode p.quoted).length := by
    rw [hstop, hquoted, Utf8.length_encode]
    rfl
  refine ⟨size p.key, j, hkey ▸ hend, hrest ▸ hj, ?_, ?_, ?_⟩
  · rw [hcs, Tag.Pair.text, List.append_assoc, Utf8.encode_append, ← Utf8.length_encode,
      List.take_left]
  · rw [hrest, hsize, Utf8.encode_append, List.take_left]
  · have hsum : size p.key + j + 2 = size p.key + 1 + (j + 1) := by omega
    rw [hsum, ← List.drop_drop, hrest, hsize, Utf8.encode_append, List.drop_left]

end Bytewise

end StructTags
