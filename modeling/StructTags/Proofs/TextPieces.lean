import StructTags.Proofs.LossyDecoding

/-!
# How bytes are read as text

`Utf8.Reads` says, without the decoder, which text a sequence of bytes stands for: it is a sequence
of characters in UTF-8 and of broken pieces, and each broken piece stands for U+FFFD. A piece is
`Broken` if no character comes first, and it is as long as it can be while it still begins some
character, or one byte long if its first byte begins none.

`reads_iff` holds `decodeLossy` to this. The decoder finds a character wherever there is one
(`encodeChar_ofNat_one` to `encodeChar_ofNat_four`), and `steps_of_ne_nil` is one step of it.
-/

namespace StructTags

namespace Utf8

/-! ## Texts with broken pieces -/

/-- The bytes are the first ones of a character, or all of them. -/
def Begins (bs : List Byte) : Prop :=
  ∃ c more, String.utf8EncodeChar c = bs ++ more

/-- What is lost at once where no character comes first, with `rest` behind it. -/
structure Broken (piece rest : List Byte) : Prop where
  ne_nil : piece ≠ []
  no_char : ∀ c more, piece ++ rest ≠ String.utf8EncodeChar c ++ more
  begins : Begins piece ∨ piece.length = 1
  longest : ∀ more tail, more ≠ [] → rest = more ++ tail → ¬ Begins (piece ++ more)

/-- The bytes stand for the text. -/
inductive Reads : List Byte → List Char → Prop where
  | nil : Reads [] []
  | char {bs : List Byte} {cs : List Char} (c : Char) (rest : Reads bs cs) :
      Reads (String.utf8EncodeChar c ++ bs) (c :: cs)
  | broken {piece bs : List Byte} {cs : List Char} (h : Broken piece bs) (rest : Reads bs cs) :
      Reads (piece ++ bs) (replacement :: cs)

/-- What is lost at once is determined by the bytes. -/
theorem Broken.eq {piece rest piece' rest' : List Byte} (h : Broken piece rest)
    (h' : Broken piece' rest') (heq : piece ++ rest = piece' ++ rest') :
    piece = piece' ∧ rest = rest' := by
  -- the longer of two pieces begins no character, so it has one byte, and the shorter one none
  have hlonger {p q more tail : List Byte} (hp : Broken p (more ++ tail)) (hq : Broken q tail)
      (hpq : q = p ++ more) : more = [] := by
    by_contra hmore
    rcases hq.begins with hbegins | hlength
    · rw [hpq] at hbegins
      exact hp.longest more tail hmore rfl hbegins
    · have hp' := List.length_pos_iff.2 hp.ne_nil
      have hmore' := List.length_pos_iff.2 hmore
      rw [hpq, List.length_append] at hlength
      omega
  rcases List.append_eq_append_iff.1 heq with ⟨more, hpiece, rfl⟩ | ⟨more, hpiece, rfl⟩
  · have hnil := hlonger h h' hpiece
    rw [hpiece, hnil]
    simp
  · have hnil := hlonger h' h hpiece
    rw [hpiece, hnil]
    simp

/-! ## Bytes of one character -/

theorem val_ofNat {n : Nat} (h : n.isValidChar) : (Char.ofNat n).val.toNat = n := by
  have hnat := Char.toNat_ofNat n
  rw [if_pos h] at hnat
  exact hnat

theorem encodeChar_ofNat_one {a : Byte} (ha : width a = 1) :
    String.utf8EncodeChar (Char.ofNat a.toNat) = [a] := by
  have hle : a.toNat ≤ 0x7F := by
    rw [width_eq] at ha
    split_ifs at ha <;> omega
  rw [String.utf8EncodeChar, val_ofNat (by simp only [Nat.isValidChar]; omega), if_pos hle,
    UInt8.ofNat_toNat]

theorem encodeChar_ofNat_two {a b : Byte} (ha : width a = 2) (hb : secondFits a b) :
    String.utf8EncodeChar (Char.ofNat (a.toNat % 32 * 64 + payload b)) = [a, b] := by
  have hvalid := two_valid ha (b := b)
  have hb' := secondFits_iff.1 hb
  rw [width_eq] at ha
  have ha' : 0xC2 ≤ a.toNat ∧ a.toNat ≤ 0xDF := by split_ifs at ha <;> omega
  generalize hn : a.toNat % 32 * 64 + payload b = n at hvalid ⊢
  simp only [payload] at hn
  rw [String.utf8EncodeChar, val_ofNat hvalid.2, if_neg (by omega), if_pos (by omega)]
  simp only [List.cons.injEq, and_true, ← UInt8.toNat_inj, UInt8.toNat_ofNat']
  omega

theorem encodeChar_ofNat_three {a b c : Byte} (ha : width a = 3) (hb : secondFits a b)
    (hc : isContinuation c) :
    String.utf8EncodeChar (Char.ofNat (a.toNat % 16 * 4096 + payload b * 64 + payload c)) =
      [a, b, c] := by
  have hvalid := three_valid ha hb (c := c)
  have hb' := secondFits_iff.1 hb
  have hc' := isContinuation_iff.1 hc
  rw [width_eq] at ha
  have ha' : 0xE0 ≤ a.toNat ∧ a.toNat ≤ 0xEF := by split_ifs at ha <;> omega
  generalize hn : a.toNat % 16 * 4096 + payload b * 64 + payload c = n at hvalid ⊢
  simp only [payload] at hn
  rw [String.utf8EncodeChar, val_ofNat hvalid.2, if_neg (by omega), if_neg (by omega),
    if_pos (by omega)]
  simp only [List.cons.injEq, and_true, ← UInt8.toNat_inj, UInt8.toNat_ofNat']
  omega

theorem encodeChar_ofNat_four {a b c d : Byte} (ha : width a = 4) (hb : secondFits a b)
    (hc : isContinuation c) (hd : isContinuation d) :
    String.utf8EncodeChar (Char.ofNat (a.toNat % 8 * 262144 + payload b * 4096 + payload c * 64
      + payload d)) = [a, b, c, d] := by
  have hvalid := four_valid ha hb (c := c) (d := d)
  have hb' := secondFits_iff.1 hb
  have hc' := isContinuation_iff.1 hc
  have hd' := isContinuation_iff.1 hd
  rw [width_eq] at ha
  have ha' : 0xF0 ≤ a.toNat ∧ a.toNat ≤ 0xF4 := by split_ifs at ha <;> omega
  generalize hn : a.toNat % 8 * 262144 + payload b * 4096 + payload c * 64 + payload d = n
    at hvalid ⊢
  simp only [payload] at hn
  rw [String.utf8EncodeChar, val_ofNat hvalid.2, if_neg (by omega), if_neg (by omega),
    if_neg (by omega)]
  simp only [List.cons.injEq, and_true, ← UInt8.toNat_inj, UInt8.toNat_ofNat']
  omega

/-- A lead with a second byte that fits begins a character. -/
theorem begins_two {a b : Byte} (h0 : width a ≠ 0) (h1 : width a ≠ 1) (hb : secondFits a b) :
    Begins [a, b] := by
  have hcont : isContinuation 0x80 := by decide
  by_cases h2 : width a = 2
  · exact ⟨_, [], encodeChar_ofNat_two h2 hb⟩
  by_cases h3 : width a = 3
  · exact ⟨_, [0x80], encodeChar_ofNat_three h3 hb hcont⟩
  · have h4 := width_eq_four h0 h1 h2 h3
    exact ⟨_, [0x80, 0x80], encodeChar_ofNat_four h4 hb hcont hcont⟩

theorem begins_three {a b c : Byte} (h4 : width a = 4) (hb : secondFits a b)
    (hc : isContinuation c) : Begins [a, b, c] :=
  ⟨_, [0x80], encodeChar_ofNat_four h4 hb hc (by decide)⟩

/-! ## The decoder -/

/-- Where the decoder gives up, whatever follows, no character begins. -/
theorem not_begins_of_scan {bs : List Byte} (h : ∀ tail, ∃ xs, scan (bs ++ tail) = none :: xs) :
    ¬ Begins bs := by
  rintro ⟨c, more, hc⟩
  rcases h more with ⟨xs, hxs⟩
  have hscan := scan_encodeChar c []
  rw [List.append_nil, hc, hxs] at hscan
  cases hscan

/-- What the decoder is at: a character, or a broken piece that it gives up. -/
def Steps (bs : List Byte) : Prop :=
  (∃ c rest, bs = String.utf8EncodeChar c ++ rest) ∨
    ∃ piece rest, bs = piece ++ rest ∧ Broken piece rest ∧ scan bs = none :: scan rest

/-- A piece is broken if the decoder gives it up at the end, and would give it up in front of the
next byte too, whatever follows that one. -/
theorem steps_broken (piece : List Byte) {rest : List Byte} (hne : piece ≠ [])
    (hbegins : Begins piece ∨ piece.length = 1) (hend : scan piece = [none])
    (hnext : ∀ b more, rest = b :: more →
      ∀ tail, scan (piece ++ b :: tail) = none :: scan (b :: tail)) : Steps (piece ++ rest) := by
  have hscan : scan (piece ++ rest) = none :: scan rest := by
    cases rest with
    | nil => rw [List.append_nil, hend, scan]
    | cons b more => exact hnext b more rfl more
  refine .inr ⟨piece, rest, rfl, ⟨hne, ?_, hbegins, ?_⟩, hscan⟩
  · intro c more hchar
    rw [hchar, scan_encodeChar] at hscan
    cases hscan
  · intro more tail hmore hrest
    rcases List.exists_cons_of_ne_nil hmore with ⟨b, bs, rfl⟩
    apply not_begins_of_scan
    intro tail'
    rw [List.append_assoc]
    exact ⟨_, hnext b (bs ++ tail) hrest (bs ++ tail')⟩

section

variable {a b c d : Byte}

theorem scan_second (rest : List Byte) (h0 : width a ≠ 0) (h1 : width a ≠ 1)
    (hb : secondFits a b = false) : scan (a :: b :: rest) = none :: scan (b :: rest) := by
  rw [scan.eq_def]
  simp [h1, h0, hb]

theorem scan_third (rest : List Byte) (h0 : width a ≠ 0) (h1 : width a ≠ 1) (h2 : width a ≠ 2)
    (hb : secondFits a b) (hc : isContinuation c = false) :
    scan (a :: b :: c :: rest) = none :: scan (c :: rest) := by
  rw [scan.eq_def]
  simp [h1, h0, h2, hb, hc]

theorem scan_fourth (rest : List Byte) (h4 : width a = 4) (hb : secondFits a b)
    (hc : isContinuation c) (hd : isContinuation d = false) :
    scan (a :: b :: c :: d :: rest) = none :: scan (d :: rest) := by
  rw [scan.eq_def]
  simp [h4, hb, hc, hd]

-- one lemma for each byte that the decoder looks at, from the last one to the first

theorem steps_fourth (rest : List Byte) (h4 : width a = 4) (hb : secondFits a b)
    (hc : isContinuation c) : Steps (a :: b :: c :: rest) := by
  by_cases hd : ∃ d more, rest = d :: more ∧ isContinuation d
  · rcases hd with ⟨d, more, rfl, hd⟩
    exact .inl ⟨_, more, by rw [encodeChar_ofNat_four h4 hb hc hd]; rfl⟩
  · have hend : scan [a, b, c] = [none] := by
      rw [scan.eq_def]
      simp [h4, hb, hc]
    apply steps_broken [a, b, c] (by simp) (.inl (begins_three h4 hb hc)) hend
    intro d more hrest tail
    have hd' : isContinuation d = false := by
      simpa using fun hcont => hd ⟨d, more, hrest, hcont⟩
    exact scan_fourth tail h4 hb hc hd'

theorem steps_third (rest : List Byte) (h0 : width a ≠ 0) (h1 : width a ≠ 1)
    (hb : secondFits a b) : Steps (a :: b :: rest) := by
  by_cases h2 : width a = 2
  · exact .inl ⟨_, rest, by rw [encodeChar_ofNat_two h2 hb]; rfl⟩
  by_cases hc : ∃ c more, rest = c :: more ∧ isContinuation c
  · rcases hc with ⟨c, more, rfl, hc⟩
    by_cases h3 : width a = 3
    · exact .inl ⟨_, more, by rw [encodeChar_ofNat_three h3 hb hc]; rfl⟩
    · exact steps_fourth more (width_eq_four h0 h1 h2 h3) hb hc
  · have hend : scan [a, b] = [none] := by
      rw [scan.eq_def]
      simp [h0, h1, h2, hb]
    apply steps_broken [a, b] (by simp) (.inl (begins_two h0 h1 hb)) hend
    intro c more hrest tail
    have hc' : isContinuation c = false := by
      simpa using fun hcont => hc ⟨c, more, hrest, hcont⟩
    exact scan_third tail h0 h1 h2 hb hc'

theorem steps_second (rest : List Byte) (h0 : width a ≠ 0) (h1 : width a ≠ 1) :
    Steps (a :: rest) := by
  by_cases hb : ∃ b more, rest = b :: more ∧ secondFits a b
  · rcases hb with ⟨b, more, rfl, hb⟩
    exact steps_third more h0 h1 hb
  · have hend : scan [a] = [none] := by
      rw [scan.eq_def]
      simp [h0, h1]
    apply steps_broken [a] (by simp) (.inr rfl) hend
    intro b more hrest tail
    have hb' : secondFits a b = false := by
      simpa using fun hfits => hb ⟨b, more, hrest, hfits⟩
    exact scan_second tail h0 h1 hb'

end

/-- One step of the decoder: a character comes first, or a broken piece that is given up. -/
theorem steps_of_ne_nil {bs : List Byte} (hne : bs ≠ []) : Steps bs := by
  rcases List.exists_cons_of_ne_nil hne with ⟨a, rest, rfl⟩
  by_cases h1 : width a = 1
  · exact .inl ⟨_, rest, by rw [encodeChar_ofNat_one h1]; rfl⟩
  by_cases h0 : width a = 0
  · apply steps_broken [a] (by simp) (.inr rfl) (scan_zero [] h0)
    intro b more _ tail
    exact scan_zero (b :: tail) h0
  · exact steps_second rest h0 h1

theorem decodeLossy_of_reads {bs : List Byte} {cs : List Char} (h : Reads bs cs) :
    decodeLossy bs = cs := by
  induction h with
  | nil => rfl
  | char c _ ih => rw [decodeLossy_encodeChar_append, ih]
  | @broken piece bs cs hbroken _ ih =>
    have hne : piece ++ bs ≠ [] := by simp [hbroken.ne_nil]
    rcases steps_of_ne_nil hne with ⟨c, more, hchar⟩ | ⟨piece', bs', heq, hbroken', hscan⟩
    · exact absurd hchar (hbroken.no_char c more)
    · -- the decoder gives up the same piece
      rcases hbroken.eq hbroken' heq with ⟨-, rfl⟩
      rw [decodeLossy, hscan, ← ih]
      rfl

theorem reads_decodeLossy (bs : List Byte) : Reads bs (decodeLossy bs) := by
  induction hn : bs.length using Nat.strong_induction_on generalizing bs with
  | _ n ih =>
    by_cases hne : bs = []
    · rw [hne]
      exact .nil
    rcases steps_of_ne_nil hne with ⟨c, rest, rfl⟩ | ⟨piece, rest, rfl, hbroken, hscan⟩
    · have hpos := List.length_pos_iff.2 (String.utf8EncodeChar_ne_nil (c := c))
      rw [List.length_append] at hn
      rw [decodeLossy_encodeChar_append]
      exact .char c (ih rest.length (by omega) rest rfl)
    · have hpos := List.length_pos_iff.2 hbroken.ne_nil
      rw [List.length_append] at hn
      have hdecode : decodeLossy (piece ++ rest) = replacement :: decodeLossy rest := by
        rw [decodeLossy, hscan]
        rfl
      rw [hdecode]
      exact .broken hbroken (ih rest.length (by omega) rest rfl)

/-- Bytes stand for exactly one text, which the decoder finds. -/
theorem reads_iff {bs : List Byte} {cs : List Char} : Reads bs cs ↔ decodeLossy bs = cs := by
  constructor
  · exact decodeLossy_of_reads
  · rintro rfl
    exact reads_decodeLossy bs

end Utf8

end StructTags
