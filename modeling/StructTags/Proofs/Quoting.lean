import StructTags.Proofs.LiteralBody
import StructTags.Tag.Set

/-!
# Reading back what was quoted

`decode_quoteChars`: a quoted text is always a literal that can be decoded, and it comes back
character by character, but for the control characters U+0080 to U+009F. These are escaped as a
single byte, which on its own is no text, so U+FFFD comes back for each of them.
-/

namespace StructTags

namespace Tag

open Literal

/-- The control characters that are no ASCII: U+0080 to U+009F. -/
def isHighControl (c : Char) : Bool :=
  0x80 ≤ c.toNat && c.toNat < 0xA0

/-- What comes back for a character that was quoted. -/
def readBack (c : Char) : Char :=
  if isHighControl c then Utf8.replacement else c

theorem readBack_eq_self_iff {c : Char} : readBack c = c ↔ isHighControl c = false := by
  unfold readBack
  split
  · next h =>
    constructor
    · rintro rfl
      exact absurd h (by decide)
    · intro hfalse
      simp [hfalse] at h
  · next h => simpa using h

/-- A character that is kept comes only from itself. -/
theorem readBack_eq_iff {c x : Char} (hx : isHighControl x = false) (hne : x ≠ Utf8.replacement) :
    readBack c = x ↔ c = x := by
  unfold readBack
  split
  · next h =>
    constructor
    · intro hc
      exact absurd hc.symm hne
    · rintro rfl
      simp [hx] at h
  · rfl

theorem map_eq_self_iff {α : Type} {f : α → α} {xs : List α} :
    xs.map f = xs ↔ ∀ x ∈ xs, f x = x := by
  calc xs.map f = xs ↔ xs.map f = xs.map id := by rw [List.map_id]
    _ ↔ ∀ x ∈ xs, f x = x := List.map_inj_left

theorem map_readBack_eq_self_iff {cs : List Char} :
    cs.map readBack = cs ↔ ∀ c ∈ cs, isHighControl c = false := by
  rw [map_eq_self_iff]
  simp only [readBack_eq_self_iff]

/-! ## Hexadecimal escapes -/

theorem hex?_digitChar {d : Nat} (h : d < 16) : Digits.hex? (Nat.digitChar d) = some d := by
  interval_cases d <;> rfl

theorem writePadded_two {n : Nat} (h : n < 256) :
    Digits.writePadded 16 2 n = [Nat.digitChar (n / 16), Nat.digitChar (n % 16)] := by
  unfold Digits.writePadded Digits.write
  by_cases hsmall : n < 16
  · rw [Nat.toDigits_of_lt_base hsmall, Nat.div_eq_of_lt hsmall, Nat.mod_eq_of_lt hsmall]
    rfl
  · rw [Nat.toDigits_of_base_le (by omega) (by omega), Nat.toDigits_of_lt_base (by omega)]
    rfl

theorem areDigits_writePadded {n : Nat} (h : n < 256) :
    AreDigits (Digits.writePadded 16 2 n) := by
  rw [writePadded_two h]
  intro d hd
  simp only [List.mem_cons, List.not_mem_nil, or_false] at hd
  rcases hd with rfl | rfl
  · rw [hex?_digitChar (by omega)]
    rfl
  · rw [hex?_digitChar (by omega)]
    rfl

theorem hexRun_writePadded {n : Nat} (h : n < 256) (tail : List Char) :
    hexRun 2 (Digits.writePadded 16 2 n ++ tail) = .ok n := by
  have hsize := (areDigits_writePadded h).size
  rw [writePadded_two h] at hsize ⊢
  have hlong : ¬ Utf8.size ([Nat.digitChar (n / 16), Nat.digitChar (n % 16)] ++ tail) < 2 := by
    rw [Utf8.size_append, hsize, List.length_cons, List.length_singleton]
    omega
  rw [hexRun, if_neg hlong]
  simp [hex?_digitChar (show n / 16 < 16 by omega), hex?_digitChar (show n % 16 < 16 by omega),
    Digits.value]
  omega

/-! ## One character -/

/-- The bytes that the quoted form of a character spells. -/
def quotedBytes (c : Char) : List Utf8.Byte :=
  if isHighControl c then [UInt8.ofNat c.toNat] else String.utf8EncodeChar c

theorem isControl_lt {c : Char} (h : isControl c) : c.toNat < 0xA0 := by
  simp only [isControl, Bool.or_eq_true, Bool.and_eq_true, decide_eq_true_eq] at h
  omega

theorem isControl_of_isHighControl {c : Char} (h : isHighControl c) : isControl c := by
  simp only [isHighControl, Bool.and_eq_true, decide_eq_true_eq] at h
  simp only [isControl, Bool.or_eq_true, Bool.and_eq_true, decide_eq_true_eq]
  omega

theorem quotedBytes_control {c : Char} (h : isControl c) :
    quotedBytes c = [UInt8.ofNat c.toNat] := by
  unfold quotedBytes
  split
  · rfl
  · next hlow =>
    have hlt := isControl_lt h
    have hascii : c.val.toNat ≤ 0x7F := by
      simp only [isHighControl, Bool.and_eq_true, decide_eq_true_eq, not_and] at hlow
      change c.toNat ≤ 0x7F
      omega
    rw [String.utf8EncodeChar, if_pos hascii]
    rfl

/-- The quoted form of a character is one piece of a body. -/
theorem spells_escapeChar (c : Char) {cs : List Char} {bytes : List Utf8.Byte}
    (h : Spells '"' cs bytes) : Spells '"' (escapeChar c ++ cs) (quotedBytes c ++ bytes) := by
  have hshort {e : Char} {front : List Utf8.Byte}
      (he : ∀ tail, escape '"' e tail = .ok (front, 0)) :
      Spells '"' ('\\' :: e :: cs) (front ++ bytes) :=
    @Spells.escaped '"' e [] cs front bytes (by simp [AreDigits]) he h
  unfold escapeChar
  split_ifs with hquote hslash hnewline hreturn htab hcontrol
  · subst hquote
    exact hshort fun _ => rfl
  · subst hslash
    exact hshort fun _ => rfl
  · subst hnewline
    exact hshort fun _ => rfl
  · subst hreturn
    exact hshort fun _ => rfl
  · subst htab
    exact hshort fun _ => rfl
  · -- a control character is written as one byte, whether or not it is ASCII
    have hlt : c.toNat < 256 := by
      have := isControl_lt hcontrol
      omega
    have hlen : (Digits.writePadded 16 2 c.toNat).length = 2 := by simp [writePadded_two hlt]
    rw [quotedBytes_control hcontrol]
    refine .escaped (areDigits_writePadded hlt) (fun tail => ?_) h
    have hx : shortEscape? 'x' = none := by decide
    simp [escape, hx, hexRun_writePadded hlt, hlen, bind, Except.bind, pure, Except.pure]
  · have hlow : isHighControl c = false := by
      by_contra hhigh
      exact hcontrol (isControl_of_isHighControl (by simpa using hhigh))
    rw [quotedBytes, hlow]
    exact .plain hquote hslash h

/-! ## Whole texts -/

theorem spells_flatMap_escapeChar (cs : List Char) :
    Spells '"' (cs.flatMap escapeChar) (cs.flatMap quotedBytes) := by
  induction cs with
  | nil => exact .nil
  | cons c rest ih =>
    rw [List.flatMap_cons, List.flatMap_cons]
    exact spells_escapeChar c ih

theorem decodeLossy_quotedBytes (cs : List Char) :
    Utf8.decodeLossy (cs.flatMap quotedBytes) = cs.map readBack := by
  induction cs with
  | nil => rfl
  | cons c rest ih =>
    rw [List.flatMap_cons, List.map_cons, quotedBytes, readBack]
    split
    · next hhigh =>
      simp only [isHighControl, Bool.and_eq_true, decide_eq_true_eq] at hhigh
      have hbyte : (UInt8.ofNat c.toNat).toNat = c.toNat := by simp; omega
      rw [List.singleton_append, Utf8.decodeLossy_lone _ (by omega) (by omega), ih]
    · rw [Utf8.decodeLossy_encodeChar_append, ih]

/-- A character in the quoted form that needs no escape and is part of none stands for itself. -/
theorem eq_of_mem_escapeChar {c x : Char} (hdigit : Digits.hex? x = none)
    (hletter : x ∉ ['\\', '"', 'n', 'r', 't', 'x']) (h : x ∈ escapeChar c) :
    c = x ∧ isControl x = false := by
  simp only [List.mem_cons, List.not_mem_nil, or_false, not_or] at hletter
  unfold escapeChar at h
  split_ifs at h with hquote hslash hnewline hreturn htab hcontrol
  · simp [hletter] at h
  · simp [hletter] at h
  · simp [hletter] at h
  · simp [hletter] at h
  · simp [hletter] at h
  · simp only [List.mem_cons, hletter, false_or] at h
    have hlt := isControl_lt hcontrol
    exact absurd rfl (((areDigits_writePadded (by omega)).ne hdigit) x h)
  · have hx : x = c := by simpa using h
    subst hx
    exact ⟨rfl, by simpa using hcontrol⟩

/-- No control character stands in a quoted text. -/
theorem control_notMem_escaped {x : Char} (hcontrol : isControl x) (hdigit : Digits.hex? x = none)
    (hletter : x ∉ ['\\', '"', 'n', 'r', 't', 'x']) (cs : List Char) :
    x ∉ cs.flatMap escapeChar := by
  intro h
  obtain ⟨c, -, hc⟩ := List.mem_flatMap.1 h
  have hfalse := (eq_of_mem_escapeChar hdigit hletter hc).2
  simp [hcontrol] at hfalse

theorem return_notMem_quoteChars (cs : List Char) : '\r' ∉ quoteChars cs := by
  have hbody := control_notMem_escaped (x := '\r') (by decide) (by decide) (by decide) cs
  simp [quoteChars, hbody]

/-- A backquote is not escaped. -/
theorem backquote_mem_quoteChars_iff {cs : List Char} : '\x60' ∈ quoteChars cs ↔ '\x60' ∈ cs := by
  have hmem : '\x60' ∈ cs.flatMap escapeChar ↔ '\x60' ∈ cs := by
    rw [List.mem_flatMap]
    constructor
    · rintro ⟨c, hc, hx⟩
      rw [(eq_of_mem_escapeChar (by decide) (by decide) hx).1] at hc
      exact hc
    · intro h
      exact ⟨'\x60', h, by decide⟩
  simp [quoteChars, hmem]

/-- A quoted text is read back, up to the control characters above ASCII. -/
theorem decode_quoteChars (cs : List Char) :
    decode (quoteChars cs) = .ok (cs.map readBack) := by
  change decode (inQuotes (cs.flatMap escapeChar)) = _
  rw [decode_inQuotes_eq_ok_iff]
  refine ⟨control_notMem_escaped (by decide) (by decide) (by decide) cs, ?_⟩
  exact ⟨_, spells_flatMap_escapeChar cs, (decodeLossy_quotedBytes cs).symm⟩

end Tag

end StructTags
