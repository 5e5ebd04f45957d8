import StructTags.Proofs.RedundantName

/-!
# Fixing converges

A field whose tag was replaced as the rule about repeated names suggests is not reported by this
rule again. The suggestion is printed from entries of which the first under `json` has no name:
either all entries with this key are gone, or this one has lost its name. What is read back from
the suggestion may differ from what was meant, but a name does not come back
(`name_eq_empty_of_withoutName`).

`fixing_converges` states this for a field, and for a package in which every reported field was
fixed. Fields with an empty name are left out: such a name is repeated by every value without one.
-/

namespace StructTags

open Tag Literal

/-- The tag that a replacement leaves in the source, which is none if the replacement is empty. -/
def TagLiteral.ofReplacement? (replacement : String) (span : Span) : Option TagLiteral :=
  if replacement = "" then none else some ⟨replacement, span⟩

theorem TagLiteral.literal_of_ofReplacement? {replacement : String} {span : Span}
    {tag : TagLiteral} (h : ofReplacement? replacement span = some tag) :
    tag.literal = replacement := by
  rw [ofReplacement?, Option.ite_none_left_eq_some] at h
  rw [← Option.some.inj h.2]

namespace JsonRules

/-! ## When a repeated name is reported -/

theorem exists_sameTagName_iff {file : SourceFile} {field : Field} :
    (∃ d ∈ checker.reportsOn file field, d.ruleId = sameTagName) ↔
      ∃ tag text value tags, RepeatsName field tag text value tags := by
  constructor
  · rintro ⟨d, hd, hrule⟩
    obtain ⟨tag, text, value, tags, hrepeats, -⟩ := exists_repeatsName_of_ruleId hd hrule
    exact ⟨tag, text, value, tags, hrepeats⟩
  · rintro ⟨tag, text, value, tags, hrepeats⟩
    exact ⟨_, hrepeats.mem_reportsOn file, rfl⟩

/-! ## The tag without the name -/

theorem withoutName_cases (tags : TagSet) :
    (withoutName tags).1 = tags.erase key ∨ (withoutName tags).1 = tags.clearName key := by
  unfold withoutName
  split
  · split
    · exact .inl rfl
    · exact .inr rfl
  · exact .inl rfl

/-- An entry without a name is read back without one. -/
theorem name_of_valueSeen?_cleared {e : TagEntry} (h : e.Sound) {value : String}
    (hvalue : e.cleared.valueSeen? = some value) : (Value.ofText value).name = "" := by
  have hfree : e.value.unnamed.readBack.CommaFree := h.commaFree.unnamed.readBack
  rw [TagEntry.valueSeen?_edited rfl] at hvalue
  obtain rfl := Option.some.inj hvalue
  rw [TagEntry.cleared, ← Value.text_readBack, Value.ofText_text hfree]
  rfl

/-- If the tag without the redundant name still has a value under `json`, then one without name. -/
theorem name_eq_empty_of_withoutName {tags : TagSet} (hsound : ∀ e ∈ tags.entries, e.Sound)
    {text value : String} (htext : unquote (withoutName tags).1.literal = .ok text)
    (hvalue : Tag.lookup text key = some value) : (Value.ofText value).name = "" := by
  have hrest : ∀ e ∈ (withoutName tags).1.entries, e.Sound := by
    rcases withoutName_cases tags with heq | heq
    · rw [heq]
      exact TagSet.sound_apply hsound (.erase key)
    · rw [heq]
      exact TagSet.sound_apply hsound (.clearName key)
  have hne : (withoutName tags).1.entries ≠ [] := by
    intro hnil
    have hfault : (unquote "").toOption = none := by decide
    rw [← TagSet.literal_eq_empty_iff.2 hnil, htext] at hfault
    simp [Except.toOption] at hfault
  -- what the checker finds comes from the first entry under the key
  have hseen : ((withoutName tags).1.get? key).bind TagEntry.valueSeen? = some value := by
    rw [TagSet.unquote_literal hne] at htext
    split at htext
    · cases htext
    · obtain rfl := Except.ok.inj htext
      rw [← hvalue]
      exact (TagSet.lookup_dropReturns hrest (TagSet.consistsOf_joinEntries hrest) key).symm
  obtain ⟨e, hget, he⟩ := Option.bind_eq_some_iff.1 hseen
  rcases withoutName_cases tags with heq | heq
  · rw [heq, TagSet.get?_erase_self] at hget
    cases hget
  · rw [heq, TagSet.get?_clearName_self] at hget
    obtain ⟨e', he', rfl⟩ := Option.map_eq_some_iff.1 hget
    exact name_of_valueSeen?_cleared (hsound e' (List.mem_of_find?_eq_some he')) he

/-! ## Fixed fields -/

/-- A field that was fixed does not repeat its name. -/
theorem RepeatsName.not_replaced {field field' : Field} {tag tag' : TagLiteral}
    {text text' value value' : String} {tags tags' : TagSet} {span : Span}
    (h : RepeatsName field tag text value tags) (hnonempty : field.name ≠ some "")
    (hname : field'.name = field.name)
    (htag : field'.tag = TagLiteral.ofReplacement? (withoutName tags).1.literal span) :
    ¬ RepeatsName field' tag' text' value' tags' := by
  intro h'
  have htext := h'.text_eq
  rw [TagLiteral.literal_of_ofReplacement? (htag.symm.trans h'.tag_eq)] at htext
  have hempty : (Value.ofText value').name = "" :=
    name_eq_empty_of_withoutName (TagSet.sound_of_parseChars h.tags_eq) htext h'.value_eq
  apply hnonempty
  rw [← hname, h'.name_eq, hempty]

/-- A field repeats its name whatever its other parts are. -/
theorem RepeatsName.congr {field field' : Field} {tag : TagLiteral} {text value : String}
    {tags : TagSet} (h : RepeatsName field tag text value tags) (hname : field'.name = field.name)
    (hliteral : field'.tag.map TagLiteral.literal = field.tag.map TagLiteral.literal) :
    ∃ tag', RepeatsName field' tag' text value tags := by
  rw [h.tag_eq] at hliteral
  obtain ⟨tag', htag', heq⟩ := Option.map_eq_some_iff.1 hliteral
  exact ⟨tag', htag', by rw [heq, h.text_eq], h.value_eq, h.not_skip, by rw [hname, h.name_eq],
    by rw [heq, h.tags_eq]⟩

/-- A field before and after the suggestions were applied. The tag of a field that was reported is
the suggested one. Other fields keep their literal, though it may stand elsewhere in the file. -/
inductive Fixed : SourceFile × Field → SourceFile × Field → Prop
  | replaced {x y : SourceFile × Field} {d : Diagnostic} {s : Suggestion} (span : Span)
      (reported : d ∈ checker.reportsOn x.1 x.2) (rule : d.ruleId = sameTagName)
      (suggested : s ∈ d.suggestions) (name : y.2.name = x.2.name)
      (tag : y.2.tag = TagLiteral.ofReplacement? s.replacement span) : Fixed x y
  | kept {x y : SourceFile × Field}
      (unreported : ∀ d ∈ checker.reportsOn x.1 x.2, d.ruleId ≠ sameTagName)
      (name : y.2.name = x.2.name)
      (literal : y.2.tag.map TagLiteral.literal = x.2.tag.map TagLiteral.literal) : Fixed x y

theorem Fixed.not_reported {x y : SourceFile × Field} (h : Fixed x y)
    (hnonempty : x.2.name ≠ some "") :
    ∀ d ∈ checker.reportsOn y.1 y.2, d.ruleId ≠ sameTagName := by
  intro d hd hrule
  obtain ⟨tag', text', value', tags', h'⟩ := exists_sameTagName_iff.1 ⟨d, hd, hrule⟩
  cases h with
  | replaced span reported rule suggested name tag =>
    obtain ⟨_, text, value, tags, hrepeats, rfl⟩ := exists_repeatsName_of_ruleId reported rule
    obtain rfl := List.mem_singleton.1 suggested
    exact hrepeats.not_replaced hnonempty name tag h'
  | kept unreported name literal =>
    obtain ⟨tag, h⟩ := h'.congr name.symm literal.symm
    obtain ⟨d, hd, hrule⟩ := exists_sameTagName_iff.2 ⟨tag, text', value', tags', h⟩
    exact unreported d hd hrule

/-- Each report of a repeated name has one suggestion, which replaces the tag. With the suggested
tag in place of the old one the field is not reported again. So after all suggestions for a package
were applied a second run reports no repeated name. -/
theorem fixing_converges :
    (∀ file field d, d ∈ checker.reportsOn file field → d.ruleId = sameTagName →
      ∃ tag s, field.tag = some tag ∧ d.suggestions = [s] ∧
        s.location = Location.ofSpan file tag.span ∧
        (field.name ≠ some "" → ∀ file' span,
          ∀ d' ∈ checker.reportsOn file'
              { field with tag := TagLiteral.ofReplacement? s.replacement span },
            d'.ruleId ≠ sameTagName)) ∧
    ∀ p p' : Package, (∀ x ∈ p.visit, x.2.name ≠ some "") → List.Forall₂ Fixed p.visit p'.visit →
      ∀ d ∈ checker.run p', d.ruleId ≠ sameTagName := by
  constructor
  · intro file field d hd hrule
    obtain ⟨tag, text, value, tags, hrepeats, heq⟩ := exists_repeatsName_of_ruleId hd hrule
    refine ⟨tag, _, hrepeats.tag_eq, congrArg Diagnostic.suggestions heq, rfl, ?_⟩
    intro hnonempty file' span
    have hfixed : Fixed (file, field) (file', { field with
        tag := TagLiteral.ofReplacement? (withoutName tags).1.literal span }) :=
      .replaced span hd hrule (by rw [heq]; exact List.mem_singleton.2 rfl) rfl rfl
    exact hfixed.not_reported hnonempty
  · intro p p' hnonempty hfixed d hd
    rw [Checker.run_eq_flatMap, List.nil_append] at hd
    obtain ⟨y, hy, hd⟩ := List.mem_flatMap.1 hd
    obtain ⟨i, hi, rfl⟩ := List.mem_iff_getElem.1 hy
    obtain ⟨hlength, hget⟩ := List.forall₂_iff_get.1 hfixed
    exact (hget i (hlength ▸ hi) hi).not_reported (hnonempty _ (List.getElem_mem _)) d hd

/-- A name that is given twice, with a carriage return in the option of the first entry. Only this
entry changes, and the carriage return is escaped. -/
theorem fixing_converges_twice_named :
    ∃ d ∈ checker.run ⟨none, [fileOf "A" "\x60json:\"A,o\r\" json:\"A\"\x60"]⟩,
      d.ruleId = sameTagName ∧
        d.suggestions.map Suggestion.replacement = ["\x60json:\",o\\r\" json:\"A\"\x60"] ∧
        ∀ d' ∈ checker.run ⟨none, [fileOf "A" "\x60json:\",o\\r\" json:\"A\"\x60"]⟩,
          d'.ruleId ≠ sameTagName := by
  have htext : unquote "\x60json:\"A,o\r\" json:\"A\"\x60" = .ok "json:\"A,o\" json:\"A\"" := by
    cbv
  have hvalue : Tag.lookup "json:\"A,o\" json:\"A\"" key = some "A,o" := by
    cbv
  have hname : (Value.ofText "A,o").name = "A" := by
    cbv
  have htags : TagSet.parseLiteral "\x60json:\"A,o\r\" json:\"A\"\x60" =
      .ok ⟨[⟨"json", ⟨"A", ["o\r"]⟩, some "json:\"A,o\r\""⟩,
        ⟨"json", ⟨"A", []⟩, some "json:\"A\""⟩]⟩ := by
    cbv
  have hliteral : (withoutName ⟨[⟨"json", ⟨"A", ["o\r"]⟩, some "json:\"A,o\r\""⟩,
      ⟨"json", ⟨"A", []⟩, some "json:\"A\""⟩]⟩).1.literal =
        "\x60json:\",o\\r\" json:\"A\"\x60" := by
    cbv
  have hrepeats : RepeatsName (fieldOf "A" "\x60json:\"A,o\r\" json:\"A\"\x60") _ _ _ _ :=
    ⟨rfl, htext, hvalue, by decide, by rw [hname]; rfl, htags⟩
  have hreport := hrepeats.mem_reportsOn (fileOf "A" "\x60json:\"A,o\r\" json:\"A\"\x60")
  refine ⟨_, Checker.mem_run (mem_visit_fileOf _ _) hreport, rfl, by rw [← hliteral]; rfl, ?_⟩
  refine fixing_converges.2 ⟨none, [fileOf "A" "\x60json:\"A,o\r\" json:\"A\"\x60"]⟩ _ ?_ ?_
  · rw [visit_fileOf]
    simp [fieldOf]
  · rw [visit_fileOf, visit_fileOf, List.forall₂_cons]
    refine ⟨.replaced {} hreport rfl (List.mem_singleton.2 rfl) rfl ?_, .nil⟩
    rw [hliteral]
    rfl

end JsonRules

end StructTags
