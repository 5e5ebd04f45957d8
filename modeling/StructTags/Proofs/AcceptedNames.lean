import StructTags.Proofs.CarriageReturns
import StructTags.Proofs.SourcePositions
import StructTags.Rule.Json

/-!
# Accepted names

The `json` rules accept names of letters, decimal digits and some punctuation. On its way out of a
source such a name passes three readers: one that takes off the backquotes of a literal, one that
takes off the double quotes of a value, and one that splits the value at its commas. Each of them
treats other characters in its own way. No accepted character is among them (`isReserved`), so an
accepted name can be written into a tag as it is.

* `inRanges_apart` compares tables of characters range by range;
* `decode_inQuotes_verbatim` and `lookup_verbatim` take a text without reserved characters through
  the readers.

`JsonRules.validName_verbatim` is the result.
-/

namespace StructTags

/-! ## Characters with a meaning -/

/-- Tables without a common code point: of any two ranges one ends before the other starts. -/
theorem Unicode.inRanges_apart {ranges others : List (Nat × Nat)}
    (h : ∀ r ∈ ranges, ∀ o ∈ others, r.2 < o.1 ∨ o.2 < r.1) {n : Nat}
    (hn : inRanges ranges n = true) : inRanges others n = false := by
  simp only [inRanges, List.any_eq_true, List.any_eq_false, Bool.and_eq_true,
    decide_eq_true_eq] at hn ⊢
  rcases hn with ⟨r, hr, hfirst, hlast⟩
  intro o ho hmem
  have hapart := h r hr o ho
  omega

namespace Tag

/-- What some reader of a tag does not take as it is: the control characters, the double quote, the
comma, the backslash and the backquote. -/
def reservedRanges : List (Nat × Nat) :=
  [(0x00, 0x1F), (0x22, 0x22), (0x2C, 0x2C), (0x5C, 0x5C), (0x60, 0x60), (0x7F, 0x9F)]

def isReserved (c : Char) : Bool :=
  Unicode.inRanges reservedRanges c.toNat

end Tag

open Tag Literal

theorem Unicode.isReserved_of_isLetter {c : Char} (h : isLetter c = true) :
    isReserved c = false := by
  refine inRanges_apart ?_ h
  decide +kernel

theorem Unicode.isReserved_of_isDecimalDigit {c : Char} (h : isDecimalDigit c = true) :
    isReserved c = false := by
  refine inRanges_apart ?_ h
  decide +kernel

/-- No accepted character is reserved. -/
theorem JsonRules.isReserved_of_isNameChar {c : Char} (h : isNameChar c = true) :
    isReserved c = false := by
  simp only [isNameChar, Bool.or_eq_true, List.contains_iff_mem] at h
  rcases h with (hletter | hdigit) | hpunctuation
  · exact Unicode.isReserved_of_isLetter hletter
  · exact Unicode.isReserved_of_isDecimalDigit hdigit
  · have hall : ∀ x ∈ namePunctuation, isReserved x = false := by
      simp [namePunctuation, isReserved, Unicode.inRanges, reservedRanges]
    exact hall c hpunctuation

/-! ## Texts without such characters -/

namespace Tag

variable {cs : List Char}

theorem notMem_of_isReserved (h : ∀ c ∈ cs, isReserved c = false) {x : Char}
    (hx : isReserved x = true) : x ∉ cs := by
  intro hmem
  rw [h x hmem] at hx
  simp at hx

/-- Between double quotes such a text is spelled by its own characters. -/
theorem spells_verbatim (h : ∀ c ∈ cs, isReserved c = false) : Spells '"' cs (Utf8.encode cs) := by
  induction cs with
  | nil => exact .nil
  | cons c rest ih =>
    have hquote : '"' ∉ c :: rest := notMem_of_isReserved h (by decide)
    have hslash : '\\' ∉ c :: rest := notMem_of_isReserved h (by decide)
    refine .plain ?_ ?_ (ih fun x hx => h x (List.mem_cons_of_mem c hx))
    · rintro rfl
      exact hquote List.mem_cons_self
    · rintro rfl
      exact hslash List.mem_cons_self

theorem decode_inQuotes_verbatim (h : ∀ c ∈ cs, isReserved c = false) :
    decode (inQuotes cs) = .ok cs := by
  rw [decode_inQuotes_eq_ok_iff]
  refine ⟨notMem_of_isReserved h (by decide), _, spells_verbatim h, ?_⟩
  rw [Utf8.decodeLossy_encode]

/-- The text is found under the key that it was written under. -/
theorem lookup_verbatim {key : List Char} (hkey : key ≠ [])
    (hchars : ∀ c ∈ key, isKeyChar c = true) (h : ∀ c ∈ cs, isReserved c = false) :
    lookupChars (key ++ ':' :: inQuotes cs) key = some cs := by
  have hp : Pair.Delimited ⟨key, inQuotes cs⟩ :=
    ⟨hkey, hchars, cs ++ ['"'], rfl, closed_of_spells (spells_verbatim h)⟩
  have hpairs := pairs_text_append hp []
  rw [List.append_nil, Pair.text] at hpairs
  simp [lookupChars, hpairs, decode_inQuotes_verbatim h, Except.toOption]

end Tag

/-- Between backquotes nothing changes a text without backquotes and carriage returns. -/
theorem unquote_verbatim {text : String} (hback : '\x60' ∉ text.toList)
    (hreturn : '\r' ∉ text.toList) : unquote ("\x60" ++ text ++ "\x60") = .ok text := by
  have hliteral : "\x60" ++ text ++ "\x60" =
      String.ofList ('\x60' :: (text.toList ++ ['\x60'])) := by
    rw [← String.toList_inj]
    simp
  rw [hliteral, unquote_backquoted, if_neg hback, dropReturns_of_notMem hreturn,
    String.ofList_toList]

/-! ## Names -/

namespace JsonRules

/-- The text of a tag with a name under a key. -/
def named (key name : String) : String :=
  key ++ ":\"" ++ name ++ "\""

theorem toList_named (key name : String) :
    (named key name).toList = key.toList ++ ':' :: inQuotes name.toList := by
  simp [named, inQuotes]

theorem mem_named_iff {key name : String} {c : Char} (hcolon : c ≠ ':') (hquote : c ≠ '"') :
    c ∈ (named key name).toList ↔ c ∈ key.toList ∨ c ∈ name.toList := by
  simp [toList_named, inQuotes, hcolon, hquote]

/-- An accepted name can be written as it is into a tag between backquotes, under any key that holds
no backquote: the literal can be decoded, the name is what is found under the key, and unless it
asks that the field be left out it is read as this name without options. -/
theorem validName_verbatim {key name : String} (hname : isValidName name = true) (hkey : key ≠ "")
    (hchars : ∀ c ∈ key.toList, isKeyChar c = true ∧ c ≠ '\x60') :
    unquote ("\x60" ++ named key name ++ "\x60") = .ok (named key name) ∧
      Tag.lookup (named key name) key = some name ∧
      (name ≠ "-" → Usage.ofText name = .use { name, options := [] }) := by
  have hplain : ∀ c ∈ name.toList, isReserved c = false := by
    intro c hc
    exact isReserved_of_isNameChar (List.all_eq_true.1 hname c hc)
  refine ⟨?_, ?_, ?_⟩
  · -- neither part holds what the raw literal does not keep
    apply unquote_verbatim
    · rw [mem_named_iff (by decide) (by decide)]
      rintro (hmem | hmem)
      · exact (hchars _ hmem).2 rfl
      · exact notMem_of_isReserved hplain (by decide) hmem
    · rw [mem_named_iff (by decide) (by decide)]
      rintro (hmem | hmem)
      · exact absurd (hchars _ hmem).1 (by decide)
      · exact notMem_of_isReserved hplain (by decide) hmem
  · have hlookup := lookup_verbatim (by simpa using hkey) (fun c hc => (hchars c hc).1) hplain
    rw [Tag.lookup, toList_named, hlookup, Option.map_some, String.ofList_toList]
  · intro hskip
    have hcomma : ',' ∉ name.toList := notMem_of_isReserved hplain (by decide)
    rw [Usage.ofText, if_neg hskip, Value.ofText, segments_of_notMem hcomma]
    simp

/-- Letters and digits of several scripts, blanks and punctuation, under a key that holds a
backslash. -/
theorem validName_verbatim_scripts :
    isValidName "naïve/π 7٣:b" = true ∧
      unquote "\x60k\\é:\"naïve/π 7٣:b\"\x60" = .ok "k\\é:\"naïve/π 7٣:b\"" ∧
      Tag.lookup "k\\é:\"naïve/π 7٣:b\"" "k\\é" = some "naïve/π 7٣:b" ∧
      Usage.ofText "naïve/π 7٣:b" = .use ⟨"naïve/π 7٣:b", []⟩ := by
  have hname : isValidName "naïve/π 7٣:b" = true := by decide +kernel
  have hkey : ∀ c ∈ "k\\é".toList, isKeyChar c = true ∧ c ≠ '\x60' := by simp [isKeyChar]
  rcases validName_verbatim hname (by decide) hkey with ⟨hliteral, hvalue, husage⟩
  exact ⟨hname, hliteral, hvalue, husage (by decide)⟩

end JsonRules

end StructTags
