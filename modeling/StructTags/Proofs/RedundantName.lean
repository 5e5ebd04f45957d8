import StructTags.Proofs.CarriageReturns
import StructTags.Proofs.CheckerReports
import StructTags.Proofs.TagEditing

/-!
# Dropping a redundant name

The `json` rule about repeated names suggests the tag without the name, or without the entry if
the entry has no options. The suggestion should mean what the tag meant: every other key keeps its
value, and the value under `json` loses its name and nothing else.

`NameDropped` says this of a replacement. It does not always hold, because the rule looks at the
decoded literal but edits the literal as it is written, and because the edited entry is quoted
without regard to the backquotes around the tag. `nameDropped_suggestion_iff` gives the exact
condition: both ways of reading the tag see the same options, and no option holds a backquote or
one of the control characters U+0080 to U+009F.

`ReadTwice` holds the two readings side by side. The suggestion is made in one of two ways, and
each has its lemma: `ReadTwice.nameDropped_erase` and `ReadTwice.nameDropped_clearName_iff`.
-/

namespace StructTags

open Tag Literal

/-! ## What is seen of an entry -/

namespace TagEntry

/-- The value that the look-up finds for an entry in the decoded literal. -/
def valueSeen? (e : TagEntry) : Option String :=
  (decode e.pair.dropReturns.quoted).toOption.map String.ofList

theorem Sound.decodes {e : TagEntry} (h : e.Sound) : ∃ value, decode e.pair.quoted = .ok value := by
  obtain ⟨value, hvalue, -⟩ := TagSet.entryOf_eq_ok_iff.1 h.entryOf
  exact ⟨value, hvalue⟩

/-- An edited entry is quoted, so it holds no carriage return that could be dropped. -/
theorem valueSeen?_edited {e : TagEntry} (h : e.source? = none) :
    e.valueSeen? = some (Value.readBackText e.value.text) := by
  have hquoted : e.pair.dropReturns.quoted = quoteChars e.value.text.toList := by
    rw [pair_edited h]
    exact dropReturns_of_notMem (return_notMem_quoteChars _)
  rw [valueSeen?, hquoted, decode_quoteChars]
  rfl

/-- An entry as it was read differs from what is seen of it by dropped carriage returns. -/
theorem Sound.valueSeen?_unedited {e : TagEntry} (h : e.Sound) (hsource : e.source? ≠ none) :
    ∃ value bytes bytes', e.valueSeen? = some value ∧
      e.value.text.toList = Utf8.decodeLossy bytes ∧
      value.toList = Utf8.decodeLossy bytes' ∧ ReturnsDropped bytes bytes' := by
  obtain ⟨hdelimited, hread⟩ := h.unedited hsource
  obtain ⟨-, bytes, bytes', htext, hvalue, hdropped⟩ :=
    hdelimited.dropReturns (TagSet.decode_of_entryOf hread)
  refine ⟨String.ofList (Utf8.decodeLossy bytes'), bytes, bytes', ?_, htext, ?_, hdropped⟩
  · rw [valueSeen?, hvalue]
    rfl
  · rw [String.toList_ofList]

end TagEntry

namespace Tag.Value

theorem options_eq_nil_iff {text : String} : (ofText text).options = [] ↔ ',' ∉ text.toList := by
  constructor
  · intro hnil hmem
    have hjoin := joinSegments_segments text.toList
    have hempty : (segments text.toList).2 = [] := by simpa [ofText] using hnil
    rw [hempty, joinSegments] at hjoin
    rw [← hjoin] at hmem
    exact (segments_notMem_comma text.toList).1 hmem
  · intro hmem
    simp [ofText, segments_of_notMem hmem]

/-- What holds of a comma holds of all options exactly if it holds of the value without name. -/
theorem forall_mem_unnamed_iff {v : Value} {P : Char → Prop} (hcomma : P ',') :
    (∀ c ∈ v.unnamed.text.toList, P c) ↔ ∀ o ∈ v.options, ∀ c ∈ o.toList, P c := by
  have hjoin (tail : List (List Char)) :
      ∀ head, (∀ c ∈ joinSegments head tail, P c) ↔
        (∀ c ∈ head, P c) ∧ ∀ s ∈ tail, ∀ c ∈ s, P c := by
    induction tail with
    | nil => simp [joinSegments]
    | cons s rest ih =>
      intro head
      simp only [joinSegments, List.mem_append, List.mem_cons, or_imp, forall_and, ih,
        forall_eq, hcomma, true_and]
  simp [Value.text, Value.unnamed, hjoin]

/-- Dropping carriage returns neither adds nor removes the options of a value. -/
theorem options_eq_nil_iff_of_dropped {bytes bytes' : List Utf8.Byte} {text text' : String}
    (htext : text.toList = Utf8.decodeLossy bytes) (htext' : text'.toList = Utf8.decodeLossy bytes')
    (h : ReturnsDropped bytes bytes') :
    (ofText text).options = [] ↔ (ofText text').options = [] := by
  have hcount (bs : List Utf8.Byte) : (Utf8.decodeLossy bs).count ',' = bs.count 0x2C :=
    Utf8.count_decodeLossy_ascii (b := 0x2C) (by decide) bs
  rw [options_eq_nil_iff, options_eq_nil_iff, htext, htext', ← List.count_eq_zero,
    ← List.count_eq_zero, hcount, hcount, h.count_eq (by decide)]

/-- The options that are printed come back as the options that were seen, exactly if both readings
have the same options and these hold no control character that quoting loses. -/
theorem readBackText_unnamed_eq_iff {bytes bytes' : List Utf8.Byte} {v : Value} {text' : String}
    (hfree : v.CommaFree) (htext : v.text.toList = Utf8.decodeLossy bytes)
    (htext' : text'.toList = Utf8.decodeLossy bytes') (h : ReturnsDropped bytes bytes') :
    readBackText v.unnamed.text = (ofText text').unnamed.text ↔
      v.options = (ofText text').options ∧
        ∀ o ∈ (ofText text').options, ∀ c ∈ o.toList, isHighControl c = false := by
  have hunnamed : v.unnamed.text.toList = (Utf8.decodeLossy bytes).dropWhile (· ≠ ',') := by
    rw [← htext, ← String.toList_ofList (l := v.text.toList.dropWhile (· ≠ ',')),
      ← text_unnamed_ofText, ofText_text hfree]
  have hunnamed' : (ofText text').unnamed.text.toList =
      (Utf8.decodeLossy bytes').dropWhile (· ≠ ',') := by
    rw [text_unnamed_ofText, String.toList_ofList, htext']
  rw [options_eq_iff hfree (commaFree_ofText text'), ← forall_mem_unnamed_iff (by decide),
    ← String.toList_inj, ← String.toList_inj, readBackText, String.toList_ofList, hunnamed,
    hunnamed']
  exact map_readBack_options_eq_iff h

end Tag.Value

/-- Under a key without backquotes, an edited entry holds one exactly if an option does. -/
theorem TagEntry.Sound.backquote_notMem_iff {e : TagEntry} (h : e.Sound) (hsource : e.source? = none)
    (hkey : '\x60' ∉ e.key.toList) :
    '\x60' ∉ e.pair.text ↔ ∀ o ∈ e.value.options, ∀ c ∈ o.toList, c ≠ '\x60' := by
  have hunnamed : e.value.unnamed = e.value := by
    rw [Value.unnamed, ← h.edited hsource]
  rw [← Value.forall_mem_unnamed_iff (by decide), hunnamed, TagEntry.pair_edited hsource]
  simp [Pair.text, hkey, backquote_mem_quoteChars_iff, List.forall_mem_ne']

namespace TagSet

theorem lookup_dropReturns {cs : List Char} {es : List TagEntry} (hsound : ∀ e ∈ es, e.Sound)
    (h : ConsistsOf cs (es.map TagEntry.pair)) (k : String) :
    lookup (String.ofList (dropReturns cs)) k =
      (es.find? (·.key = k)).bind TagEntry.valueSeen? := by
  have hdropped : ConsistsOf (dropReturns cs) (es.map fun e => e.pair.dropReturns) := by
    have hmap := h.dropReturns fun p hp => by
      obtain ⟨e, he, rfl⟩ := List.mem_map.1 hp
      exact (hsound e he).decodes
    rwa [List.map_map] at hmap
  rw [lookup, String.toList_ofList, lookupChars_of_consistsOf (fun _ => rfl) hdropped]
  cases es.find? (·.key = k) with
  | none => rfl
  | some e => rfl

theorem literal_eq_empty_iff {s : TagSet} : s.literal = "" ↔ s.entries = [] := by
  unfold literal
  cases s.entries with
  | nil => simp
  | cons e rest =>
    rw [← String.toList_inj]
    simp

theorem unquote_literal {s : TagSet} (hne : s.entries ≠ []) :
    unquote s.literal =
      if '\x60' ∈ joinEntries s.entries then .error .innerBackquote
      else .ok (String.ofList (dropReturns (joinEntries s.entries))) := by
  have hempty : s.entries.isEmpty = false := by simpa using hne
  rw [literal, hempty]
  exact unquote_backquoted

end TagSet

/-! ## The suggestion -/

namespace JsonRules

/-- The replacement means what the tag meant without the redundant name. An empty one leaves no
tag, so the tag must hold no other key. Any other can be decoded, keeps the value of every other
key, and has under `json` the old options without a name, or nothing if there are no options. -/
def NameDropped (text replacement : String) : Prop :=
  if replacement = "" then ∃ ps, ConsistsOf text.toList ps ∧ ∀ p ∈ ps, p.key = key.toList
  else ∃ text', unquote replacement = .ok text' ∧
    (∀ k, k ≠ key → lookup text' k = lookup text k) ∧
    lookup text' key = (lookup text key).bind fun value =>
      if (Value.ofText value).options = [] then none
      else some (Value.ofText value).unnamed.text

/-- The two ways in which what stands between the backquotes is read: `text` is the decoded
literal, and `tags` are the entries of the literal as it is written. -/
structure ReadTwice (text : String) (body : List Char) (tags : TagSet) : Prop where
  no_backquote : '\x60' ∉ body
  text_eq : text = String.ofList (dropReturns body)
  consists : ConsistsOf body (tags.entries.map TagEntry.pair)
  sound : ∀ e ∈ tags.entries, e.Sound
  unedited : ∀ e ∈ tags.entries, e.source? ≠ none

theorem exists_readTwice {literal text : String} {tags : TagSet}
    (hraw : literal.toList.head? = some '\x60') (htext : unquote literal = .ok text)
    (htags : TagSet.parseLiteral literal = .ok tags) : ∃ body, ReadTwice text body tags := by
  obtain ⟨body, hliteral, hbody, hdropped⟩ := exists_body_of_backquoted hraw htext
  rw [TagSet.parseLiteral, hliteral, TagSet.trimBackquotes_backquoted hbody] at htags
  obtain ⟨hconsists, hread⟩ := TagSet.parseChars_eq_ok_iff.1 htags
  refine ⟨body, hbody, ?_, hconsists, TagSet.sound_of_parseChars htags, ?_⟩
  · rw [← hdropped, String.ofList_toList]
  · intro e he hnone
    obtain ⟨value, -, hvalue⟩ := TagSet.entryOf_eq_ok_iff.1 (hread e he)
    rw [congrArg TagEntry.source? hvalue] at hnone
    simp at hnone

section ReadTwice

variable {text : String} {body : List Char} {tags : TagSet}

theorem ReadTwice.lookup (h : ReadTwice text body tags) (k : String) :
    lookup text k = (tags.get? k).bind TagEntry.valueSeen? := by
  rw [h.text_eq]
  exact TagSet.lookup_dropReturns h.sound h.consists k

/-- The two readings of the value under a key differ by carriage returns only. -/
theorem ReadTwice.returnsDropped (h : ReadTwice text body tags) {k value : String}
    {entry : TagEntry} (hentry : tags.get? k = some entry)
    (hvalue : Tag.lookup text k = some value) :
    ∃ bytes bytes', entry.value.text.toList = Utf8.decodeLossy bytes ∧
      value.toList = Utf8.decodeLossy bytes' ∧ ReturnsDropped bytes bytes' := by
  have hmem : entry ∈ tags.entries := List.mem_of_find?_eq_some hentry
  obtain ⟨seen, bytes, bytes', hseen, htext, htext', hdropped⟩ :=
    (h.sound entry hmem).valueSeen?_unedited (h.unedited entry hmem)
  rw [h.lookup, hentry, Option.bind_some, hseen] at hvalue
  obtain rfl := Option.some.inj hvalue
  exact ⟨bytes, bytes', htext, htext', hdropped⟩

/-- Both readings of the value under a key have options, or none has. -/
theorem ReadTwice.options_eq_nil_iff (h : ReadTwice text body tags) {k value : String}
    {entry : TagEntry} (hentry : tags.get? k = some entry)
    (hvalue : Tag.lookup text k = some value) :
    entry.value.options = [] ↔ (Value.ofText value).options = [] := by
  have hsound := h.sound entry (List.mem_of_find?_eq_some hentry)
  obtain ⟨bytes, bytes', htext, htext', hdropped⟩ := h.returnsDropped hentry hvalue
  have hiff := Value.options_eq_nil_iff_of_dropped htext htext' hdropped
  rwa [Value.ofText_text hsound.commaFree] at hiff

theorem ReadTwice.backquote_notMem (h : ReadTwice text body tags) :
    ∀ e ∈ tags.entries, '\x60' ∉ e.pair.text := by
  intro e he hmem
  exact h.no_backquote ((h.consists.mem_iff (by decide)).2 ⟨e.pair, List.mem_map_of_mem he, hmem⟩)

/-- What the replacement made from sound entries means. -/
theorem nameDropped_literal_iff {text : String} {s : TagSet} (hsound : ∀ e ∈ s.entries, e.Sound)
    (hne : s.entries ≠ []) :
    NameDropped text s.literal ↔
      (∀ e ∈ s.entries, '\x60' ∉ e.pair.text) ∧
      (∀ k, k ≠ key → (s.get? k).bind TagEntry.valueSeen? = Tag.lookup text k) ∧
      (s.get? key).bind TagEntry.valueSeen? = (Tag.lookup text key).bind fun value =>
        if (Value.ofText value).options = [] then none
        else some (Value.ofText value).unnamed.text := by
  have hconsists := TagSet.consistsOf_joinEntries hsound
  have hlookup (k : String) :
      Tag.lookup (String.ofList (dropReturns (TagSet.joinEntries s.entries))) k =
        (s.get? k).bind TagEntry.valueSeen? :=
    TagSet.lookup_dropReturns hsound hconsists k
  have hback : '\x60' ∉ TagSet.joinEntries s.entries ↔ ∀ e ∈ s.entries, '\x60' ∉ e.pair.text := by
    rw [hconsists.mem_iff (by decide)]
    simp
  rw [NameDropped, if_neg (mt TagSet.literal_eq_empty_iff.1 hne), TagSet.unquote_literal hne,
    ← hback]
  split
  · -- with a backquote in it the replacement is no literal
    next hmem => simp [hmem]
  · next hmem =>
    constructor
    · rintro ⟨text', htext', hothers, hjson⟩
      rw [← Except.ok.inj htext'] at hothers hjson
      simp only [hlookup] at hothers hjson
      exact ⟨hmem, hothers, hjson⟩
    · rintro ⟨-, hothers, hjson⟩
      refine ⟨_, rfl, ?_, ?_⟩
      · intro k hk
        rw [hlookup]
        exact hothers k hk
      · rw [hlookup]
        exact hjson

/-- Without options the whole entry goes, and nothing else changes. -/
theorem ReadTwice.nameDropped_erase (h : ReadTwice text body tags) {value : String}
    (hvalue : Tag.lookup text key = some value) (hoptions : (Value.ofText value).options = []) :
    NameDropped text (tags.erase key).literal := by
  by_cases hne : (tags.erase key).entries = []
  · -- no entry is left: every pair of the tag is one under `json`
    rw [NameDropped, if_pos (TagSet.literal_eq_empty_iff.2 hne)]
    refine ⟨(tags.entries.map TagEntry.pair).map Pair.dropReturns, ?_, ?_⟩
    · rw [h.text_eq, String.toList_ofList]
      apply h.consists.dropReturns
      intro p hp
      obtain ⟨e, he, rfl⟩ := List.mem_map.1 hp
      exact (h.sound e he).decodes
    · intro p hp
      obtain ⟨q, hq, rfl⟩ := List.mem_map.1 hp
      obtain ⟨e, he, rfl⟩ := List.mem_map.1 hq
      have hkey : e.key = key := by
        by_contra hother
        have hmem : e ∈ (tags.erase key).entries := List.mem_filter.2 ⟨he, by simpa using hother⟩
        rw [hne] at hmem
        simp at hmem
      rw [← hkey]
      rfl
  · have hsub {e : TagEntry} (he : e ∈ (tags.erase key).entries) : e ∈ tags.entries :=
      List.mem_of_mem_filter he
    rw [nameDropped_literal_iff (fun e he => h.sound e (hsub he)) hne]
    refine ⟨fun e he => h.backquote_notMem e (hsub he), ?_, ?_⟩
    · intro k hk
      rw [h.lookup, TagSet.get?_erase_ne _ hk]
    · rw [TagSet.get?_erase_self, hvalue]
      simp [hoptions]

/-- Clearing the name brings a backquote into the tag exactly if an option holds one. -/
theorem ReadTwice.backquote_notMem_clearName_iff (h : ReadTwice text body tags) {entry : TagEntry}
    (hentry : tags.get? key = some entry) :
    (∀ e ∈ (tags.clearName key).entries, '\x60' ∉ e.pair.text) ↔
      ∀ o ∈ entry.value.options, ∀ c ∈ o.toList, c ≠ '\x60' := by
  have hkey : '\x60' ∉ entry.key.toList := by
    have hold := h.backquote_notMem entry (List.mem_of_find?_eq_some hentry)
    intro hmem
    exact hold (by simp [Pair.text, TagEntry.pair, hmem])
  have hsound := TagSet.sound_cleared (h.sound entry (List.mem_of_find?_eq_some hentry))
  have hcleared : '\x60' ∉ entry.cleared.pair.text ↔
      ∀ o ∈ entry.value.options, ∀ c ∈ o.toList, c ≠ '\x60' :=
    hsound.backquote_notMem_iff rfl hkey
  rw [← hcleared]
  constructor
  · intro hall
    have hget : (tags.clearName key).get? key = some entry.cleared := by
      rw [TagSet.get?_clearName_self, hentry, Option.map_some]
    exact hall _ (List.mem_of_find?_eq_some hget)
  · intro hnot e he
    rcases TagSet.mem_clearFirst he with he | ⟨e', he', rfl⟩
    · exact h.backquote_notMem e he
    · obtain rfl : e' = entry := Option.some.inj (he'.symm.trans hentry)
      exact hnot

/-- With options the name is cleared, and the suggestion is right exactly if what is printed for
the options is read as the options that the checker saw. -/
theorem ReadTwice.nameDropped_clearName_iff (h : ReadTwice text body tags) {entry : TagEntry}
    {value : String} (hentry : tags.get? key = some entry)
    (hvalue : Tag.lookup text key = some value) (hoptions : (Value.ofText value).options ≠ []) :
    NameDropped text (tags.clearName key).literal ↔
      entry.value.options = (Value.ofText value).options ∧
        ∀ o ∈ (Value.ofText value).options, ∀ c ∈ o.toList,
          c ≠ '\x60' ∧ isHighControl c = false := by
  have hsound : ∀ e ∈ (tags.clearName key).entries, e.Sound :=
    TagSet.sound_apply h.sound (.clearName key)
  have hjson : (tags.clearName key).get? key = some entry.cleared := by
    rw [TagSet.get?_clearName_self, hentry, Option.map_some]
  have hne : (tags.clearName key).entries ≠ [] :=
    List.ne_nil_of_mem (List.mem_of_find?_eq_some hjson)
  have hothers (k : String) (hk : k ≠ key) :
      ((tags.clearName key).get? k).bind TagEntry.valueSeen? = Tag.lookup text k := by
    rw [h.lookup, TagSet.get?_clearName_ne _ hk]
  have hfree := (h.sound entry (List.mem_of_find?_eq_some hentry)).commaFree
  obtain ⟨bytes, bytes', htext, htext', hdropped⟩ := h.returnsDropped hentry hvalue
  have hsame := Value.readBackText_unnamed_eq_iff hfree htext htext' hdropped
  rw [nameDropped_literal_iff hsound hne, h.backquote_notMem_clearName_iff hentry, hjson,
    Option.bind_some, TagEntry.valueSeen?_edited rfl, hvalue, Option.bind_some, if_neg hoptions,
    Option.some.injEq, TagEntry.cleared, hsame]
  constructor
  · rintro ⟨hback, -, heq, hcontrol⟩
    rw [heq] at hback
    exact ⟨heq, fun o ho c hc => ⟨hback o ho c hc, hcontrol o ho c hc⟩⟩
  · rintro ⟨heq, hplain⟩
    refine ⟨?_, hothers, heq, fun o ho c hc => (hplain o ho c hc).2⟩
    rw [heq]
    exact fun o ho c hc => (hplain o ho c hc).1

end ReadTwice

/-- When the suggestion for a field that repeats its name is right. -/
theorem RepeatsName.nameDropped_iff {field : Field} {tag : TagLiteral} {text value : String}
    {tags : TagSet} (h : RepeatsName field tag text value tags)
    (hraw : tag.literal.toList.head? = some '\x60') :
    ∃ entry, tags.get? key = some entry ∧
      (NameDropped text (withoutName tags).1.literal ↔
        entry.value.options = (Value.ofText value).options ∧
          ∀ o ∈ (Value.ofText value).options, ∀ c ∈ o.toList,
            c ≠ '\x60' ∧ isHighControl c = false) := by
  obtain ⟨body, hread⟩ := exists_readTwice hraw h.text_eq h.tags_eq
  -- what the checker has found under the key comes from an entry of the tag as it is written
  have hlookup := hread.lookup key
  rw [h.value_eq] at hlookup
  obtain ⟨entry, hentry, -⟩ := Option.bind_eq_some_iff.1 hlookup.symm
  refine ⟨entry, hentry, ?_⟩
  have hnil := hread.options_eq_nil_iff hentry h.value_eq
  by_cases hempty : entry.value.options = []
  · have hrest : (withoutName tags).1 = tags.erase key := by simp [withoutName, hentry, hempty]
    rw [hrest, hempty, hnil.1 hempty]
    simpa using hread.nameDropped_erase h.value_eq (hnil.1 hempty)
  · have hrest : (withoutName tags).1 = tags.clearName key := by
      simp [withoutName, hentry, hempty]
    rw [hrest]
    exact hread.nameDropped_clearName_iff hentry h.value_eq (mt hnil.2 hempty)

/-- Each report of a repeated name in a backquoted tag has one suggestion. The suggestion means the
tag without the name exactly if the tag as it is written and the decoded tag have the same options
under `json`, and none of these holds a backquote or one of the control characters U+0080 to
U+009F. -/
theorem nameDropped_suggestion_iff {p : Package} {d : Diagnostic} (hd : d ∈ checker.run p)
    (hrule : d.ruleId = sameTagName) :
    (∃ x ∈ p.visit, d ∈ checker.reportsOn x.1 x.2) ∧
      ∀ file field tag, d ∈ checker.reportsOn file field → field.tag = some tag →
        tag.literal.toList.head? = some '\x60' →
        ∃ text value tags entry s, unquote tag.literal = .ok text ∧
          Tag.lookup text key = some value ∧ TagSet.parseLiteral tag.literal = .ok tags ∧
          tags.get? key = some entry ∧ d.suggestions = [s] ∧
          s.location = Location.ofSpan file tag.span ∧
          (NameDropped text s.replacement ↔
            entry.value.options = (Value.ofText value).options ∧
              ∀ o ∈ (Value.ofText value).options, ∀ c ∈ o.toList,
                c ≠ '\x60' ∧ isHighControl c = false) := by
  constructor
  · rw [Checker.run_eq_flatMap, List.nil_append] at hd
    exact List.mem_flatMap.1 hd
  · intro file field tag hreport htag hraw
    obtain ⟨tag', text, value, tags, hrepeats, rfl⟩ :=
      (plain_or_sameNameReport hreport).resolve_left fun hplain => hplain.1 hrule
    obtain rfl : tag' = tag := Option.some.inj (hrepeats.tag_eq.symm.trans htag)
    obtain ⟨entry, hentry, hiff⟩ := hrepeats.nameDropped_iff hraw
    exact ⟨text, value, tags, entry, _, hrepeats.text_eq, hrepeats.value_eq, hrepeats.tags_eq,
      hentry, rfl, rfl, hiff⟩

/-- A field with the given name and tag. -/
def fieldOf (name literal : String) : Field :=
  ⟨some name, none, {}, some ⟨literal, {}⟩, []⟩

/-- A file that holds only this field. -/
def fileOf (name literal : String) : SourceFile :=
  ⟨"a", none, [⟨none, {}, [fieldOf name literal]⟩]⟩

theorem visit_fileOf (name literal : String) :
    Package.visit ⟨none, [fileOf name literal]⟩ =
      [(fileOf name literal, fieldOf name literal)] := by
  simp [Package.visit, Package.entered, fileOf, fieldOf, enteredAll, Struct.entered, enteredNested]

theorem mem_visit_fileOf (name literal : String) :
    (fileOf name literal, fieldOf name literal) ∈
      Package.visit ⟨none, [fileOf name literal]⟩ := by
  rw [visit_fileOf]
  exact List.mem_singleton.2 rfl

/-- The name is dropped in front of the option, and the other entry stays. -/
theorem nameDropped_suggestion_omitempty :
    ∃ d ∈ checker.run ⟨none, [fileOf "A" "\x60json:\"A,omitempty\" bson:\"b\"\x60"]⟩,
      d.ruleId = sameTagName ∧ ∃ s, d.suggestions = [s] ∧
        s.replacement = "\x60json:\",omitempty\" bson:\"b\"\x60" ∧
        NameDropped "json:\"A,omitempty\" bson:\"b\"" s.replacement := by
  have htext : unquote "\x60json:\"A,omitempty\" bson:\"b\"\x60" =
      .ok "json:\"A,omitempty\" bson:\"b\"" := by
    cbv
  have hvalue : Tag.lookup "json:\"A,omitempty\" bson:\"b\"" key = some "A,omitempty" := by
    cbv
  have hname : Value.ofText "A,omitempty" = ⟨"A", ["omitempty"]⟩ := by
    cbv
  have htags : TagSet.parseLiteral "\x60json:\"A,omitempty\" bson:\"b\"\x60" =
      .ok ⟨[⟨"json", ⟨"A", ["omitempty"]⟩, some "json:\"A,omitempty\""⟩,
        ⟨"bson", ⟨"b", []⟩, some "bson:\"b\""⟩]⟩ := by
    cbv
  have hrepeats : RepeatsName (fieldOf "A" "\x60json:\"A,omitempty\" bson:\"b\"\x60") _ _ _ _ :=
    ⟨rfl, htext, hvalue, by decide, by rw [hname]; rfl, htags⟩
  have hvisit := mem_visit_fileOf "A" "\x60json:\"A,omitempty\" bson:\"b\"\x60"
  have hreport := hrepeats.mem_reportsOn
    (fileOf "A" "\x60json:\"A,omitempty\" bson:\"b\"\x60")
  have hrun := Checker.mem_run hvisit hreport
  obtain ⟨text, value, tags, entry, s, htext', hvalue', htags', hentry, hs, -, hiff⟩ :=
    (nameDropped_suggestion_iff hrun rfl).2 _ _ _ hreport rfl rfl
  obtain rfl := Except.ok.inj (htext.symm.trans htext')
  obtain rfl := Option.some.inj (hvalue.symm.trans hvalue')
  obtain rfl := Except.ok.inj (htags.symm.trans htags')
  obtain rfl := Option.some.inj hentry
  obtain rfl := List.singleton_inj.1 hs
  exact ⟨_, hrun, rfl, _, rfl, by cbv, hiff.2 (by rw [hname]; simp [isHighControl])⟩

/-- The suggestion is not always right: an option spelled `\x60` holds a backquote, which stands
unescaped in the suggestion and ends the literal too early. -/
theorem suggestion_not_nameDropped :
    ¬ ∀ (p : Package) (d : Diagnostic) (file : SourceFile) (field : Field) (tag : TagLiteral)
      (text : String) (s : Suggestion), d ∈ checker.run p → d.ruleId = sameTagName →
      (file, field) ∈ p.visit → d ∈ checker.reportsOn file field → field.tag = some tag →
      tag.literal.toList.head? = some '\x60' → unquote tag.literal = .ok text →
      s ∈ d.suggestions → NameDropped text s.replacement := by
  intro hall
  have htext : unquote "\x60json:\"A,\\x60\"\x60" = .ok "json:\"A,\\x60\"" := by
    cbv
  have hvalue : Tag.lookup "json:\"A,\\x60\"" key = some "A,\x60" := by
    cbv
  have hname : (Value.ofText "A,\x60").name = "A" := by
    cbv
  have htags : TagSet.parseLiteral "\x60json:\"A,\\x60\"\x60" =
      .ok ⟨[⟨"json", ⟨"A", ["\x60"]⟩, some "json:\"A,\\x60\""⟩]⟩ := by
    cbv
  have hliteral : (withoutName ⟨[⟨"json", ⟨"A", ["\x60"]⟩, some "json:\"A,\\x60\""⟩]⟩).1.literal =
      "\x60json:\",\x60\"\x60" := by
    cbv
  have hfault : unquote "\x60json:\",\x60\"\x60" = .error .innerBackquote := by
    cbv
  have hrepeats : RepeatsName (fieldOf "A" "\x60json:\"A,\\x60\"\x60") _ _ _ _ :=
    ⟨rfl, htext, hvalue, by decide, by rw [hname]; rfl, htags⟩
  have hvisit := mem_visit_fileOf "A" "\x60json:\"A,\\x60\"\x60"
  have hreport := hrepeats.mem_reportsOn (fileOf "A" "\x60json:\"A,\\x60\"\x60")
  have hdropped := hall _ _ _ _ _ _ _ (Checker.mem_run hvisit hreport) rfl hvisit hreport rfl rfl
    htext (List.mem_singleton.2 rfl)
  rw [hliteral, NameDropped, if_neg (by decide), hfault] at hdropped
  obtain ⟨text', htext', -⟩ := hdropped
  simp at htext'

end JsonRules

end StructTags
