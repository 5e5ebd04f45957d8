import StructTags.Proofs.Quoting
import StructTags.Proofs.TagReaders

/-!
# Editing, printing and reading again

A tag that was read is changed by a run of edits, each of which erases a key or clears a name,
and printed. The invariant is `TagEntry.Sound`: every entry either still has the text it was read
from or was edited and has no name. `sound_apply` is the step and `sound_edit` the run; both are
cases of `forall_apply` and `forall_edit`, which carry any property of single entries through a run.

Printed entries can always be read again (`parseChars_joinEntries`). What comes back is
`TagEntry.reread`: an entry that was not edited as it was, an edited one with U+FFFD in place of
the control characters U+0080 to U+009F. `parse_text_edit_same_iff` draws the line: the same
entries come back exactly if no option of an edited entry holds such a character.
-/

namespace StructTags

open Tag Literal

/-! ## Values that are read back -/

namespace Tag.Value

/-- A text that was quoted and read back. -/
def readBackText (s : String) : String :=
  String.ofList (s.toList.map readBack)

/-- A value that was quoted and read back. -/
def readBack (v : Value) : Value :=
  ⟨readBackText v.name, v.options.map readBackText⟩

theorem readBackText_eq_self_iff {s : String} :
    readBackText s = s ↔ ∀ c ∈ s.toList, isHighControl c = false := by
  rw [← map_readBack_eq_self_iff, readBackText, ← String.toList_inj, String.toList_ofList]

theorem comma_mem_map_readBack_iff {cs : List Char} :
    ',' ∈ cs.map Tag.readBack ↔ ',' ∈ cs := by
  have hcomma (c : Char) : Tag.readBack c = ',' ↔ c = ',' :=
    readBack_eq_iff (by decide) (by decide)
  simp [List.mem_map, hcomma]

theorem CommaFree.readBack {v : Value} (h : v.CommaFree) : v.readBack.CommaFree := by
  refine ⟨?_, ?_⟩
  · simpa only [Value.readBack, readBackText, String.toList_ofList, comma_mem_map_readBack_iff]
      using h.1
  · intro o ho
    obtain ⟨o', ho', rfl⟩ := List.mem_map.1 ho
    simpa only [readBackText, String.toList_ofList, comma_mem_map_readBack_iff] using h.2 o' ho'

theorem joinSegments_map (f : Char → Char) (hf : f ',' = ',') (head : List Char)
    (tail : List (List Char)) :
    (joinSegments head tail).map f = joinSegments (head.map f) (tail.map (List.map f)) := by
  induction tail generalizing head with
  | nil => rfl
  | cons s rest ih => simp [joinSegments, ih, hf]

theorem text_readBack (v : Value) : v.readBack.text = readBackText v.text := by
  have hjoin := joinSegments_map Tag.readBack (by decide) v.name.toList
    (v.options.map String.toList)
  simp [Value.text, readBackText, hjoin, Value.readBack, Function.comp_def]

end Tag.Value

/-! ## Entries -/

namespace TagEntry

/-- What holds of every entry of a tag that was read and then edited. -/
structure Sound (e : TagEntry) : Prop where
  key_ne_nil : e.key.toList ≠ []
  keyChars : ∀ c ∈ e.key.toList, isKeyChar c = true
  commaFree : e.value.CommaFree
  /-- An entry that has not been edited is printed as what it was read from. -/
  unedited : e.source? ≠ none → e.pair.Delimited ∧ TagSet.entryOf e.pair = .ok e
  /-- The only edit of an entry clears its name. -/
  edited : e.source? = none → e.value.name = ""

/-- The entry without its name. -/
def cleared (e : TagEntry) : TagEntry :=
  ⟨e.key, e.value.unnamed, none⟩

/-- The entry that comes back when an entry is printed and read again. -/
def reread (e : TagEntry) : TagEntry :=
  match e.source? with
  | some _ => e
  | none => ⟨e.key, e.value.readBack, some e.text⟩

theorem textChars_edited {e : TagEntry} (h : e.source? = none) :
    e.textChars = e.key.toList ++ ':' :: quoteChars e.value.text.toList := by
  simp [textChars, h]

theorem pair_edited {e : TagEntry} (h : e.source? = none) :
    e.pair = ⟨e.key.toList, quoteChars e.value.text.toList⟩ := by
  simp [pair, textChars_edited h]

theorem textChars_unedited {e : TagEntry} (h : TagSet.entryOf e.pair = .ok e) :
    e.textChars = e.pair.text := by
  obtain ⟨value, -, he⟩ := TagSet.entryOf_eq_ok_iff.1 h
  have hsource : e.source? = some (String.ofList e.pair.text) := congrArg source? he
  simp [textChars, hsource]

namespace Sound

theorem textChars {e : TagEntry} (h : e.Sound) : e.textChars = e.pair.text := by
  by_cases hsource : e.source? = none
  · rw [textChars_edited hsource, pair_edited hsource]
    rfl
  · exact textChars_unedited (h.unedited hsource).2

theorem delimited {e : TagEntry} (h : e.Sound) : e.pair.Delimited := by
  by_cases hsource : e.source? = none
  · -- a quoted text closes where it ends because it can be decoded
    rw [pair_edited hsource]
    exact ⟨h.key_ne_nil, h.keyChars, _, rfl, closed_of_spells (spells_flatMap_escapeChar _)⟩
  · exact (h.unedited hsource).1

theorem entryOf {e : TagEntry} (h : e.Sound) : TagSet.entryOf e.pair = .ok e.reread := by
  cases hsource : e.source? with
  | some source =>
    have hread : e.reread = e := by simp [reread, hsource]
    rw [hread]
    exact (h.unedited (by simp [hsource])).2
  | none =>
    rw [TagSet.entryOf_eq_ok_iff]
    refine ⟨_, by rw [pair_edited hsource]; exact decode_quoteChars _, ?_⟩
    have hvalue : Value.ofText (Value.readBackText e.value.text) = e.value.readBack := by
      rw [← Value.text_readBack, Value.ofText_text h.commaFree.readBack]
    have hread : e.reread = ⟨e.key, e.value.readBack, some e.text⟩ := by simp [reread, hsource]
    rw [hread, ← hvalue, ← h.textChars]
    simp [pair, text, Value.readBackText]

end Sound

end TagEntry

namespace TagSet

/-! ## Printing a tag -/

theorem joinEntries_eq_joinPairs {es : List TagEntry} (h : ∀ e ∈ es, e.Sound) :
    joinEntries es = joinPairs (es.map TagEntry.pair) := by
  induction es with
  | nil => rfl
  | cons e rest ih =>
    have he := (h e (by simp)).textChars
    have hrest := ih fun x hx => h x (by simp [hx])
    cases rest with
    | nil => exact he
    | cons e' more =>
      rw [joinEntries.eq_def, List.map_cons, joinPairs.eq_def]
      simp only [he, hrest]
      rfl

theorem consistsOf_joinEntries {es : List TagEntry} (h : ∀ e ∈ es, e.Sound) :
    ConsistsOf (joinEntries es) (es.map TagEntry.pair) := by
  rw [joinEntries_eq_joinPairs h]
  apply consistsOf_joinPairs
  intro p hp
  obtain ⟨e, he, rfl⟩ := List.mem_map.1 hp
  exact (h e he).delimited

/-- What is printed can be read again, entry by entry. -/
theorem parseChars_joinEntries {es : List TagEntry} (h : ∀ e ∈ es, e.Sound) :
    parseChars (joinEntries es) = .ok ⟨es.map TagEntry.reread⟩ := by
  have hpair {e : TagEntry} (he : e ∈ es) : e.reread.pair = e.pair :=
    pair_of_entryOf (h e he).entryOf
  rw [parseChars_eq_ok_iff]
  refine ⟨?_, ?_⟩
  · have hmap : (es.map TagEntry.reread).map TagEntry.pair = es.map TagEntry.pair := by
      rw [List.map_map]
      exact List.map_congr_left fun e he => hpair he
    rw [hmap]
    exact consistsOf_joinEntries h
  · intro e' he'
    obtain ⟨e, he, rfl⟩ := List.mem_map.1 he'
    rw [hpair he]
    exact (h e he).entryOf

/-! ## Runs of edits -/

/-- A single edit of a tag. -/
inductive Edit where
  | erase (key : String)
  | clearName (key : String)
deriving DecidableEq, Repr

def Edit.apply (s : TagSet) : Edit → TagSet
  | .erase key => s.erase key
  | .clearName key => s.clearName key

/-- The tag after a run of edits. -/
def edit (s : TagSet) (edits : List Edit) : TagSet :=
  edits.foldl Edit.apply s

theorem sound_of_parseChars {cs : List Char} {s : TagSet} (h : parseChars cs = .ok s) :
    ∀ e ∈ s.entries, e.Sound := by
  obtain ⟨htext, hread⟩ := parseChars_eq_ok_iff.1 h
  intro e he
  have hdelimited := htext.delimited e.pair (List.mem_map_of_mem he)
  obtain ⟨value, -, hvalue⟩ := entryOf_eq_ok_iff.1 (hread e he)
  refine ⟨hdelimited.key_ne_nil, hdelimited.keyChars, ?_, ?_, ?_⟩
  · rw [congrArg TagEntry.value hvalue]
    exact Value.commaFree_ofText _
  · intro _
    exact ⟨hdelimited, hread e he⟩
  · intro hnone
    rw [congrArg TagEntry.source? hvalue] at hnone
    simp at hnone

theorem sound_cleared {e : TagEntry} (h : e.Sound) : e.cleared.Sound := by
  refine ⟨h.key_ne_nil, h.keyChars, h.commaFree.unnamed, ?_, fun _ => rfl⟩
  intro hsome
  exact absurd rfl hsome

/-- An entry after clearing a name is an old one, or the first under the key without its name. -/
theorem mem_clearFirst {key : String} {es : List TagEntry} {e : TagEntry}
    (h : e ∈ clearFirst key es) :
    e ∈ es ∨ ∃ e', es.find? (·.key = key) = some e' ∧ e = e'.cleared := by
  induction es with
  | nil => simp [clearFirst] at h
  | cons x rest ih =>
    unfold clearFirst at h
    split at h
    · next hx =>
      rcases List.mem_cons.1 h with rfl | h
      · exact .inr ⟨x, by simp [hx], rfl⟩
      · exact .inl (by simp [h])
    · next hx =>
      rcases List.mem_cons.1 h with rfl | h
      · exact .inl (by simp)
      · rcases ih h with h | ⟨e', he', rfl⟩
        · exact .inl (by simp [h])
        · exact .inr ⟨e', by simp [hx, he'], rfl⟩

theorem get?_erase_self (s : TagSet) (key : String) : (s.erase key).get? key = none := by
  rw [get?, List.find?_eq_none]
  intro e he
  simpa using (List.mem_filter.1 he).2

theorem get?_erase_ne (s : TagSet) {key k : String} (hk : k ≠ key) :
    (s.erase key).get? k = s.get? k := by
  rw [get?, erase, List.find?_filter, get?]
  congr 1
  funext e
  have hboth : (e.key ≠ key ∧ e.key = k) ↔ e.key = k := by
    constructor
    · intro h
      exact h.2
    · rintro rfl
      exact ⟨hk, rfl⟩
  simpa using hboth

theorem get?_clearName_ne (s : TagSet) {key k : String} (hk : k ≠ key) :
    (s.clearName key).get? k = s.get? k := by
  obtain ⟨es⟩ := s
  simp only [get?, clearName]
  induction es with
  | nil => rfl
  | cons e rest ih =>
    unfold clearFirst
    split
    · next he =>
      have hne : e.key ≠ k := fun heq => hk (heq.symm.trans he)
      simp [hne]
    · rw [List.find?_cons, List.find?_cons, ih]

theorem get?_clearName_self (s : TagSet) (key : String) :
    (s.clearName key).get? key = (s.get? key).map TagEntry.cleared := by
  obtain ⟨es⟩ := s
  simp only [get?, clearName]
  induction es with
  | nil => rfl
  | cons e rest ih =>
    unfold clearFirst
    split
    · next he => simp [he, TagEntry.cleared, Value.unnamed]
    · next he => simp [he, ih]

/-- What holds of all entries, and of an entry whenever its name is cleared, survives an edit. -/
theorem forall_apply {P : TagEntry → Prop} (hcleared : ∀ e, P e → P e.cleared) {s : TagSet}
    (h : ∀ e ∈ s.entries, P e) (op : Edit) : ∀ e ∈ (op.apply s).entries, P e := by
  intro e he
  cases op with
  | erase key => exact h e (List.mem_of_mem_filter he)
  | clearName key =>
    rcases mem_clearFirst he with he | ⟨e', he', rfl⟩
    · exact h e he
    · exact hcleared e' (h e' (List.mem_of_find?_eq_some he'))

theorem forall_edit {P : TagEntry → Prop} (hcleared : ∀ e, P e → P e.cleared) {s : TagSet}
    (h : ∀ e ∈ s.entries, P e) (edits : List Edit) : ∀ e ∈ (s.edit edits).entries, P e := by
  induction edits generalizing s with
  | nil => exact h
  | cons op rest ih => exact ih (forall_apply hcleared h op)

/-- Every edit keeps the entries sound. -/
theorem sound_apply {s : TagSet} (h : ∀ e ∈ s.entries, e.Sound) (op : Edit) :
    ∀ e ∈ (op.apply s).entries, e.Sound :=
  forall_apply (fun _ he => sound_cleared he) h op

theorem sound_edit {s : TagSet} (h : ∀ e ∈ s.entries, e.Sound) (edits : List Edit) :
    ∀ e ∈ (s.edit edits).entries, e.Sound :=
  forall_edit (fun _ he => sound_cleared he) h edits

/-! ## The same entries -/

/-- What a reader sees of an entry: its key, its name and its options. -/
def seen (e : TagEntry) : String × Value :=
  (e.key, e.value)

theorem seen_reread_eq_iff {e : TagEntry} (h : e.Sound) :
    seen e.reread = seen e ↔
      (e.source? = none → ∀ o ∈ e.value.options, ∀ c ∈ o.toList, isHighControl c = false) := by
  cases hsource : e.source? with
  | some source => simp [TagEntry.reread, hsource]
  | none =>
    have hname : Value.readBackText e.value.name = e.value.name := by
      rw [h.edited hsource]
      rfl
    have hvalue : e.value.readBack = e.value ↔
        e.value.options.map Value.readBackText = e.value.options := by
      constructor
      · intro heq
        exact congrArg Value.options heq
      · intro heq
        rw [Value.readBack, hname, heq]
    have hread : e.reread = ⟨e.key, e.value.readBack, some e.text⟩ := by
      simp [TagEntry.reread, hsource]
    simp only [hread, seen, Prod.mk.injEq, true_and, hvalue, map_eq_self_iff,
      Value.readBackText_eq_self_iff, true_implies]

/-- Printing an edited tag and reading it again succeeds, and it gives the entries with the same
keys, names and options in the same order exactly if no option of an edited entry holds one of the
control characters U+0080 to U+009F. -/
theorem parse_text_edit_same_iff {tag : String} {s : TagSet} (h : parse tag = .ok s)
    (edits : List Edit) :
    ∃ r, parse (s.edit edits).text = .ok r ∧
      r.entries = (s.edit edits).entries.map TagEntry.reread ∧
      (r.entries.map seen = (s.edit edits).entries.map seen ↔
        ∀ e ∈ (s.edit edits).entries, e.source? = none →
          ∀ o ∈ e.value.options, ∀ c ∈ o.toList, isHighControl c = false) := by
  have hsound := sound_edit (sound_of_parseChars h) edits
  refine ⟨⟨(s.edit edits).entries.map TagEntry.reread⟩, ?_, rfl, ?_⟩
  · rw [parse, text, String.toList_ofList]
    exact parseChars_joinEntries hsound
  · rw [List.map_map, List.map_inj_left]
    constructor
    · intro hsame e he
      exact (seen_reread_eq_iff (hsound e he)).1 (hsame e he)
    · intro hfree e he
      exact (seen_reread_eq_iff (hsound e he)).2 (hfree e he)

/-- A tabulator in an option survives the edit of its entry. -/
theorem parse_text_edit_tab :
    parse "json:\"a,\\t\" bson:\"b\"" = .ok
        ⟨[⟨"json", ⟨"a", ["\t"]⟩, some "json:\"a,\\t\""⟩, ⟨"bson", ⟨"b", []⟩, some "bson:\"b\""⟩]⟩ ∧
      ∃ r, parse "json:\",\\t\" bson:\"b\"" = .ok r ∧
        r.entries.map seen = [("json", ⟨"", ["\t"]⟩), ("bson", ⟨"b", []⟩)] := by
  have h : parse "json:\"a,\\t\" bson:\"b\"" = .ok
      ⟨[⟨"json", ⟨"a", ["\t"]⟩, some "json:\"a,\\t\""⟩, ⟨"bson", ⟨"b", []⟩, some "bson:\"b\""⟩]⟩ := by
    cbv
  obtain ⟨r, hparse, -, hsame⟩ := parse_text_edit_same_iff h [.clearName "json"]
  have hedit : edit
      ⟨[⟨"json", ⟨"a", ["\t"]⟩, some "json:\"a,\\t\""⟩, ⟨"bson", ⟨"b", []⟩, some "bson:\"b\""⟩]⟩
      [.clearName "json"] =
      ⟨[⟨"json", ⟨"", ["\t"]⟩, none⟩, ⟨"bson", ⟨"b", []⟩, some "bson:\"b\""⟩]⟩ := by
    cbv
  have htext : text ⟨[⟨"json", ⟨"", ["\t"]⟩, none⟩, ⟨"bson", ⟨"b", []⟩, some "bson:\"b\""⟩]⟩ =
      "json:\",\\t\" bson:\"b\"" := by
    cbv
  rw [hedit] at hparse hsame
  rw [htext] at hparse
  exact ⟨h, r, hparse, hsame.2 (by simp [isHighControl])⟩

/-- Not every edited tag is read back: U+0085 in an option is printed as a byte, which is no text,
and is read as U+FFFD. -/
theorem parse_text_edit_not_same :
    ¬ ∀ (tag : String) (s : TagSet) (edits : List Edit), parse tag = .ok s →
      ∃ r, parse (s.edit edits).text = .ok r ∧
        r.entries.map seen = (s.edit edits).entries.map seen := by
  intro hall
  have h : parse "json:\"a,\\u0085\"" =
      .ok ⟨[⟨"json", ⟨"a", ["\u0085"]⟩, some "json:\"a,\\u0085\""⟩]⟩ := by
    cbv
  have hedit : edit ⟨[⟨"json", ⟨"a", ["\u0085"]⟩, some "json:\"a,\\u0085\""⟩]⟩ [.clearName "json"] =
      ⟨[⟨"json", ⟨"", ["\u0085"]⟩, none⟩]⟩ := by
    cbv
  have hparse : parse (text ⟨[⟨"json", ⟨"", ["\u0085"]⟩, none⟩]⟩) =
      .ok ⟨[⟨"json", ⟨"", ["\uFFFD"]⟩, some "json:\",\\x85\""⟩]⟩ := by
    cbv
  obtain ⟨r, hr, hsame⟩ := hall _ _ [.clearName "json"] h
  rw [hedit, hparse] at hr
  rw [hedit, ← Except.ok.inj hr] at hsame
  exact absurd hsame (by decide)

end TagSet

end StructTags
