import Mathlib
import StructTags.Text.Utf8

/-!
# Lossy decoding

What `Utf8.decodeLossy` gives on the bytes that literals are made of:

* `decodeLossy_encodeChar_append`: an encoded character comes back, whatever follows it;
* `decodeLossy_lone`: a continuation byte that continues nothing becomes U+FFFD;
* `decodeLossy_append_ascii`: an ASCII byte is a boundary, so both sides of it are decoded on
  their own;
* `count_decodeLossy_ascii`: an ASCII character comes only from its own byte.
-/

namespace StructTags

namespace Utf8

/-! ## Byte classes as numbers -/

theorem width_eq (b : Byte) : width b =
    if b.toNat ≤ 0x7F then 1
    else if 0xC2 ≤ b.toNat ∧ b.toNat ≤ 0xDF then 2
    else if 0xE0 ≤ b.toNat ∧ b.toNat ≤ 0xEF then 3
    else if 0xF0 ≤ b.toNat ∧ b.toNat ≤ 0xF4 then 4
    else 0 := by
  simp [width, UInt8.le_iff_toNat_le]

theorem width_ascii {b : Byte} (h : b.toNat ≤ 0x7F) : width b = 1 := by
  rw [width_eq, if_pos h]

theorem isContinuation_iff {b : Byte} :
    isContinuation b = true ↔ 0x80 ≤ b.toNat ∧ b.toNat ≤ 0xBF := by
  simp [isContinuation, UInt8.le_iff_toNat_le]

theorem secondFits_iff {a b : Byte} :
    secondFits a b = true ↔ 0x80 ≤ b.toNat ∧ b.toNat ≤ 0xBF ∧
      (a.toNat = 0xE0 → 0xA0 ≤ b.toNat) ∧ (a.toNat = 0xED → b.toNat ≤ 0x9F) ∧
      (a.toNat = 0xF0 → 0x90 ≤ b.toNat) ∧ (a.toNat = 0xF4 → b.toNat ≤ 0x8F) := by
  simp only [secondFits, ← UInt8.toNat_inj, UInt8.reduceToNat]
  split_ifs <;> simp [isContinuation, UInt8.le_iff_toNat_le] <;> omega

/-- No lead takes an ASCII byte as its second. -/
theorem secondFits_ascii (a : Byte) {b : Byte} (h : b.toNat ≤ 0x7F) : secondFits a b = false := by
  rw [← Bool.not_eq_true, secondFits_iff]
  omega

theorem isContinuation_ascii {b : Byte} (h : b.toNat ≤ 0x7F) : isContinuation b = false := by
  rw [← Bool.not_eq_true, isContinuation_iff]
  omega

/-! ## One character -/

theorem scan_one {a : Byte} (rest : List Byte) (ha : width a = 1) :
    scan (a :: rest) = some (Char.ofNat a.toNat) :: scan rest := by
  rw [scan.eq_def]
  simp [ha]

theorem scan_two {a b : Byte} (rest : List Byte) (ha : width a = 2) (hb : secondFits a b) :
    scan (a :: b :: rest) = some (Char.ofNat (a.toNat % 32 * 64 + payload b)) :: scan rest := by
  rw [scan.eq_def]
  simp [ha, hb]

theorem scan_three {a b c : Byte} (rest : List Byte) (ha : width a = 3) (hb : secondFits a b)
    (hc : isContinuation c) :
    scan (a :: b :: c :: rest) =
      some (Char.ofNat (a.toNat % 16 * 4096 + payload b * 64 + payload c)) :: scan rest := by
  rw [scan.eq_def]
  simp [ha, hb, hc]

theorem scan_four {a b c d : Byte} (rest : List Byte) (ha : width a = 4) (hb : secondFits a b)
    (hc : isContinuation c) (hd : isContinuation d) :
    scan (a :: b :: c :: d :: rest) =
      some (Char.ofNat (a.toNat % 8 * 262144 + payload b * 4096 + payload c * 64 + payload d)) ::
        scan rest := by
  rw [scan.eq_def]
  simp [ha, hb, hc, hd]

/-- A byte that starts no character is a piece of its own. -/
theorem scan_zero {a : Byte} (rest : List Byte) (ha : width a = 0) :
    scan (a :: rest) = none :: scan rest := by
  rw [scan.eq_def]
  simp [ha]

/-- The bytes of a character are read as that character. -/
theorem scan_encodeChar (c : Char) (rest : List Byte) :
    scan (String.utf8EncodeChar c ++ rest) = some c :: scan rest := by
  have hvalid : c.val.toNat < 0xD800 ∨ 0xDFFF < c.val.toNat ∧ c.val.toNat < 0x110000 := c.valid
  have hc : Char.ofNat c.val.toNat = c := Char.ofNat_toNat c
  -- one case per encoded length; in each the bytes are written as numbers first
  fun_cases String.utf8EncodeChar with
  | case1 v h =>
    have ha : (UInt8.ofNat v).toNat = v := by simp; omega
    rw [List.cons_append, List.nil_append, scan_one rest (width_ascii (by omega)), ha, hc]
  | case2 v h1 h2 =>
    have ha : (UInt8.ofNat (v / 64 % 0x20 + 0xc0)).toNat = v / 64 + 0xC0 := by simp; omega
    have hb : (UInt8.ofNat (v % 0x40 + 0x80)).toNat = v % 64 + 0x80 := by simp; omega
    have hw : width (UInt8.ofNat (v / 64 % 0x20 + 0xc0)) = 2 := by
      rw [width_eq, if_neg (by omega), if_pos (by omega)]
    have hv : (v / 64 + 0xC0) % 32 * 64 + (v % 64 + 0x80) % 64 = v := by omega
    simp only [List.cons_append, List.nil_append]
    rw [scan_two rest hw (secondFits_iff.2 (by omega)), payload, ha, hb, hv, hc]
  | case3 v h1 h2 h3 =>
    have ha : (UInt8.ofNat (v / 4096 % 0x10 + 0xe0)).toNat = v / 4096 + 0xE0 := by simp; omega
    have hb : (UInt8.ofNat (v / 64 % 0x40 + 0x80)).toNat = v / 64 % 64 + 0x80 := by simp; omega
    have hd : (UInt8.ofNat (v % 0x40 + 0x80)).toNat = v % 64 + 0x80 := by simp; omega
    have hw : width (UInt8.ofNat (v / 4096 % 0x10 + 0xe0)) = 3 := by
      rw [width_eq, if_neg (by omega), if_neg (by omega), if_pos (by omega)]
    have hv : (v / 4096 + 0xE0) % 16 * 4096 + (v / 64 % 64 + 0x80) % 64 * 64
        + (v % 64 + 0x80) % 64 = v := by omega
    simp only [List.cons_append, List.nil_append]
    rw [scan_three rest hw (secondFits_iff.2 (by omega)) (isContinuation_iff.2 (by omega)),
      payload, payload, ha, hb, hd, hv, hc]
  | case4 v h1 h2 h3 =>
    have ha : (UInt8.ofNat (v / 262144 % 0x08 + 0xf0)).toNat = v / 262144 + 0xF0 := by
      simp; omega
    have hb : (UInt8.ofNat (v / 4096 % 0x40 + 0x80)).toNat = v / 4096 % 64 + 0x80 := by
      simp; omega
    have hd : (UInt8.ofNat (v / 64 % 0x40 + 0x80)).toNat = v / 64 % 64 + 0x80 := by simp; omega
    have he : (UInt8.ofNat (v % 0x40 + 0x80)).toNat = v % 64 + 0x80 := by simp; omega
    have hw : width (UInt8.ofNat (v / 262144 % 0x08 + 0xf0)) = 4 := by
      rw [width_eq, if_neg (by omega), if_neg (by omega), if_neg (by omega), if_pos (by omega)]
    have hv : (v / 262144 + 0xF0) % 8 * 262144 + (v / 4096 % 64 + 0x80) % 64 * 4096
        + (v / 64 % 64 + 0x80) % 64 * 64 + (v % 64 + 0x80) % 64 = v := by omega
    simp only [List.cons_append, List.nil_append]
    rw [scan_four rest hw (secondFits_iff.2 (by omega)) (isContinuation_iff.2 (by omega))
      (isContinuation_iff.2 (by omega)), payload, payload, payload, ha, hb, hd, he, hv, hc]

/-! ## ASCII bytes

An ASCII byte neither continues a character nor lets one begin before it, so it cuts the bytes
into two parts that are read independently. -/

theorem scan_append_ascii {b : Byte} (hb : b.toNat ≤ 0x7F) (xs ys : List Byte) :
    scan (xs ++ b :: ys) = scan xs ++ some (Char.ofNat b.toNat) :: scan ys := by
  have hone := scan_one ys (width_ascii hb)
  have hcont := isContinuation_ascii hb
  have hsecond (a : Byte) := secondFits_ascii a hb
  fun_induction scan xs with
  | case1 => exact hone
  | case2 a rest ha ih => rw [List.cons_append, scan_one _ ha, ih, List.cons_append]
  | case3 a rest h1 h0 ih => rw [List.cons_append, scan_zero _ h0, ih, List.cons_append]
  | case4 a h1 h0 =>
    -- the character that `a` begins is cut short by `b`
    rw [List.cons_append, List.nil_append, scan.eq_def]
    simp [h1, h0, hsecond, hone]
  | case5 a h1 h0 c rest hc ih =>
    -- `c` does not continue `a` and is read again as a lead, with or without the tail
    simp only [List.cons_append] at ih ⊢
    rw [scan.eq_def]
    simp [h1, h0, hc, ih]
  | case6 a h1 h0 c rest hc h2 ih =>
    simp only [List.cons_append]
    rw [scan_two _ h2 (by simpa using hc), ih]
  | case7 a h1 h0 c hc h2 =>
    simp only [List.cons_append, List.nil_append]
    rw [scan.eq_def]
    simp [h1, h2, h0, hc, hone, hcont]
  | case8 a h1 h0 c hc h2 d rest hd ih =>
    simp only [List.cons_append] at ih ⊢
    rw [scan.eq_def]
    simp [h1, h2, h0, hc, hd, ih]
  | case9 a h1 h0 c hc h2 d rest hd h3 ih =>
    simp only [List.cons_append]
    rw [scan_three _ h3 (by simpa using hc) (by simpa using hd), ih]
  | case10 a h1 h0 c hc h2 d hd h3 =>
    simp only [List.cons_append, List.nil_append]
    rw [scan.eq_def]
    simp [h1, h2, h0, h3, hc, hd, hone, hcont]
  | case11 a h1 h0 c hc h2 d hd h3 e rest he ih =>
    simp only [List.cons_append] at ih ⊢
    rw [scan.eq_def]
    simp [h1, h2, h0, h3, hc, hd, he, ih]
  | case12 a h1 h0 c hc h2 d hd h3 e rest he ih =>
    simp only [List.cons_append]
    rw [scan.eq_def]
    simp [h1, h2, h0, h3, hc, hd, he, ih]

theorem toNat_ofNat_ascii {b : Byte} (h : b.toNat ≤ 0x7F) :
    (Char.ofNat b.toNat).toNat = b.toNat := by
  rw [Char.toNat_ofNat, if_pos]
  simp only [Nat.isValidChar]
  omega

/-- The number that several bytes stand for is no ASCII character. -/
theorem ofNat_ne_ascii {c : Char} {n : Nat} (hc : c.toNat ≤ 0x7F) (hn : 0x80 ≤ n)
    (hvalid : n.isValidChar) : Char.ofNat n ≠ c := by
  intro h
  have hnat := Char.toNat_ofNat n
  rw [h, if_pos hvalid] at hnat
  omega

theorem two_valid {a b : Byte} (ha : width a = 2) :
    0x80 ≤ a.toNat % 32 * 64 + payload b ∧ (a.toNat % 32 * 64 + payload b).isValidChar := by
  rw [width_eq] at ha
  simp only [payload, Nat.isValidChar]
  split_ifs at ha <;> omega

theorem three_valid {a b c : Byte} (ha : width a = 3) (hb : secondFits a b) :
    0x80 ≤ a.toNat % 16 * 4096 + payload b * 64 + payload c ∧
      (a.toNat % 16 * 4096 + payload b * 64 + payload c).isValidChar := by
  rw [width_eq] at ha
  have hb' := secondFits_iff.1 hb
  simp only [payload, Nat.isValidChar]
  split_ifs at ha <;> omega

theorem four_valid {a b c d : Byte} (ha : width a = 4) (hb : secondFits a b) :
    0x80 ≤ a.toNat % 8 * 262144 + payload b * 4096 + payload c * 64 + payload d ∧
      (a.toNat % 8 * 262144 + payload b * 4096 + payload c * 64 + payload d).isValidChar := by
  rw [width_eq] at ha
  have hb' := secondFits_iff.1 hb
  simp only [payload, Nat.isValidChar]
  split_ifs at ha <;> omega

theorem width_eq_four {a : Byte} (h0 : width a ≠ 0) (h1 : width a ≠ 1) (h2 : width a ≠ 2)
    (h3 : width a ≠ 3) : width a = 4 := by
  rw [width_eq] at *
  split_ifs at * <;> omega

/-- Every occurrence of an ASCII character is an occurrence of its byte. -/
theorem count_scan_ascii {b : Byte} (hb : b.toNat ≤ 0x7F) (bs : List Byte) :
    (scan bs).count (some (Char.ofNat b.toNat)) = bs.count b := by
  have hnat := toNat_ofNat_ascii hb
  have hascii : (Char.ofNat b.toNat).toNat ≤ 0x7F := by omega
  -- bytes of a longer character differ from `b`, and so does the character itself
  have hlead {a : Byte} (ha : width a ≠ 1) : a ≠ b := by
    rintro rfl
    exact ha (width_ascii hb)
  have hsecond {a c : Byte} (h : secondFits a c) : c ≠ b := by
    rintro rfl
    simp [secondFits_ascii a hb] at h
  have hcont {c : Byte} (h : isContinuation c) : c ≠ b := by
    rintro rfl
    simp [isContinuation_ascii hb] at h
  have hlong {n : Nat} (h : 0x80 ≤ n ∧ n.isValidChar) : Char.ofNat n ≠ Char.ofNat b.toNat :=
    ofNat_ne_ascii hascii h.1 h.2
  fun_induction scan bs with
  | case1 => rfl
  | case2 a rest ha ih =>
    have hsame : Char.ofNat a.toNat = Char.ofNat b.toNat ↔ a = b := by
      constructor
      · intro h
        have ha' : a.toNat ≤ 0x7F := by
          rw [width_eq] at ha
          split_ifs at ha <;> omega
        have hva := toNat_ofNat_ascii ha'
        rw [h, hnat] at hva
        exact UInt8.toNat_inj.1 hva.symm
      · rintro rfl
        rfl
    simp [List.count_cons, ih, hsame]
  | case3 a rest h1 h0 ih => simp [ih, hlead h1]
  | case4 a h1 h0 => simp [hlead h1]
  | case5 a h1 h0 c rest hc ih => simpa [List.count_cons, hlead h1] using ih
  | case6 a h1 h0 c rest hc h2 ih =>
    have hc' : c ≠ b := hsecond (by simpa using hc)
    simp [ih, hlead h1, hc', hlong (two_valid h2)]
  | case7 a h1 h0 c hc h2 =>
    have hc' : c ≠ b := hsecond (by simpa using hc)
    simp [hlead h1, hc']
  | case8 a h1 h0 c hc h2 d rest hd ih =>
    have hc' : c ≠ b := hsecond (by simpa using hc)
    simpa [List.count_cons, hlead h1, hc'] using ih
  | case9 a h1 h0 c hc h2 d rest hd h3 ih =>
    have hfit : secondFits a c := by simpa using hc
    have hd' : d ≠ b := hcont (by simpa using hd)
    simp [ih, hlead h1, hsecond hfit, hd', hlong (three_valid h3 hfit)]
  | case10 a h1 h0 c hc h2 d hd h3 =>
    have hc' : c ≠ b := hsecond (by simpa using hc)
    have hd' : d ≠ b := hcont (by simpa using hd)
    simp [hlead h1, hc', hd']
  | case11 a h1 h0 c hc h2 d hd h3 e rest he ih =>
    have hc' : c ≠ b := hsecond (by simpa using hc)
    have hd' : d ≠ b := hcont (by simpa using hd)
    simpa [List.count_cons, hlead h1, hc', hd'] using ih
  | case12 a h1 h0 c hc h2 d hd h3 e rest he ih =>
    have hfit : secondFits a c := by simpa using hc
    have hd' : d ≠ b := hcont (by simpa using hd)
    have he' : e ≠ b := hcont (by simpa using he)
    simp [ih, hlead h1, hsecond hfit, hd', he',
      hlong (four_valid (width_eq_four h0 h1 h2 h3) hfit)]

/-! ## Whole texts -/

theorem decodeLossy_encodeChar_append (c : Char) (rest : List Byte) :
    decodeLossy (String.utf8EncodeChar c ++ rest) = c :: decodeLossy rest := by
  simp [decodeLossy, scan_encodeChar]

/-- A continuation byte with no character to continue is lost. -/
theorem decodeLossy_lone {b : Byte} (rest : List Byte) (hl : 0x80 ≤ b.toNat)
    (hu : b.toNat ≤ 0xBF) : decodeLossy (b :: rest) = replacement :: decodeLossy rest := by
  have hw : width b = 0 := by
    rw [width_eq, if_neg (by omega), if_neg (by omega), if_neg (by omega), if_neg (by omega)]
  simp [decodeLossy, scan_zero rest hw]

theorem decodeLossy_append_ascii {b : Byte} (hb : b.toNat ≤ 0x7F) (xs ys : List Byte) :
    decodeLossy (xs ++ b :: ys) = decodeLossy xs ++ Char.ofNat b.toNat :: decodeLossy ys := by
  simp [decodeLossy, scan_append_ascii hb]

theorem count_decodeLossy_ascii {b : Byte} (hb : b.toNat ≤ 0x7F) (bs : List Byte) :
    (decodeLossy bs).count (Char.ofNat b.toNat) = bs.count b := by
  have hne : replacement ≠ Char.ofNat b.toNat := by
    intro h
    have hnat := toNat_ofNat_ascii hb
    rw [← h] at hnat
    have hfffd : replacement.toNat = 0xFFFD := rfl
    omega
  rw [← count_scan_ascii hb, decodeLossy]
  induction scan bs with
  | nil => rfl
  | cons o rest ih =>
    cases o with
    | none => simp [ih, hne]
    | some c => simp [List.count_cons, ih]

/-- Cutting at the first occurrence of an ASCII character and decoding commute. -/
theorem dropWhile_decodeLossy_ascii {b : Byte} (hb : b.toNat ≤ 0x7F) (bs : List Byte) :
    (decodeLossy bs).dropWhile (· ≠ Char.ofNat b.toNat) = decodeLossy (bs.dropWhile (· ≠ b)) := by
  -- in front of the first `b` there is no byte `b`, hence no character either
  have hfront : b ∉ bs.takeWhile (· ≠ b) := by
    intro h
    simpa using List.mem_takeWhile_imp h
  have hnone : Char.ofNat b.toNat ∉ decodeLossy (bs.takeWhile (· ≠ b)) := by
    rw [← List.count_eq_zero, count_decodeLossy_ascii hb]
    exact List.count_eq_zero.2 hfront
  have hall : ∀ c ∈ decodeLossy (bs.takeWhile (· ≠ b)), decide (c ≠ Char.ofNat b.toNat) = true := by
    intro c hc
    have hne : c ≠ Char.ofNat b.toNat := by
      rintro rfl
      exact hnone hc
    simpa using hne
  have hsplit := List.takeWhile_append_dropWhile (p := (· ≠ b)) (l := bs)
  cases hback : bs.dropWhile (· ≠ b) with
  | nil =>
    rw [hback, List.append_nil] at hsplit
    rw [hsplit] at hall
    exact List.dropWhile_eq_nil_iff.2 hall
  | cons x rest =>
    have hx : x = b := by
      have h := List.head?_dropWhile_not (· ≠ b) bs
      rw [hback] at h
      simpa using h
    conv_lhs => rw [← hsplit, hback, hx]
    rw [decodeLossy_append_ascii hb, List.dropWhile_append_of_pos hall, hx]
    have hone : decodeLossy (b :: rest) = Char.ofNat b.toNat :: decodeLossy rest :=
      decodeLossy_append_ascii hb [] rest
    simp [hone]

end Utf8

end StructTags
