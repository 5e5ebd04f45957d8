import StructTags.Proofs.RedundantName

/-!
# What a run of edits keeps

Every edit names a key. Here runs of edits are looked at from outside of the keys they name, and
from outside of the tag they are made in:

* `under_apply_ne` is the step and `under_edit` the run: the entries under a key that no edit names
  stay as they are. What the look-up finds in the printed tag depends on the entries under the key
  alone (`lookup_text`), so it does not change either. `edit_leaves_other_keys` puts this together.
* `Raw` says where a backquote may stand in a tag that was read between backquotes: only in an
  entry that was edited. `literal_edit_decodes_iff` gives the exact condition under which the edited
  tag can stand between backquotes again.
-/

namespace StructTags

open Tag Literal

namespace TagSet

/-! ## Keys that no edit names -/

/-- The key that an edit names. -/
def Edit.key : Edit → String
  | .erase key => key
  | .clearName key => key

/-- The entries with the given key, in order. -/
def under (s : TagSet) (key : String) : List TagEntry :=
  s.entries.filter (·.key = key)

theorem get?_eq_head?_under (s : TagSet) (key : String) : s.get? key = (s.under key).head? := by
  rw [get?, under, List.head?_filter]

theorem filter_clearFirst_ne {key k : String} (hk : key ≠ k) (es : List TagEntry) :
    (clearFirst key es).filter (·.key = k) = es.filter (·.key = k) := by
  induction es with
  | nil => rfl
  | cons e rest ih =>
    unfold clearFirst
    split
    · -- the entry that is cleared is under `key`, so neither list keeps it
      next he =>
      have hne : e.key ≠ k := by
        rw [he]
        exact hk
      simp [hne]
    · rw [List.filter_cons, List.filter_cons, ih]

/-- An edit leaves alone the entries under all keys but the one it names. -/
theorem under_apply_ne (s : TagSet) {op : Edit} {k : String} (hk : op.key ≠ k) :
    (op.apply s).under k = s.under k := by
  cases op with
  | erase key =>
    show (s.entries.filter (·.key ≠ key)).filter (·.key = k) = s.entries.filter (·.key = k)
    rw [List.filter_filter]
    apply List.filter_congr
    intro e _
    have hkept : e.key = k → e.key ≠ key := by
      rintro rfl
      exact hk.symm
    simpa using hkept
  | clearName key => exact filter_clearFirst_ne hk s.entries

theorem under_edit (s : TagSet) {edits : List Edit} {k : String}
    (hk : ∀ op ∈ edits, op.key ≠ k) : (s.edit edits).under k = s.under k := by
  induction edits generalizing s with
  | nil => rfl
  | cons op rest ih =>
    have hrest := ih (op.apply s) fun x hx => hk x (by simp [hx])
    rw [← under_apply_ne s (hk op (by simp)), ← hrest]
    rfl

/-- The look-up in a printed tag finds the first entry under the key, as it is read back. -/
theorem lookup_text {s : TagSet} (h : ∀ e ∈ s.entries, e.Sound) (k : String) :
    lookup s.text k = (s.get? k).map (·.reread.value.text) := by
  have hparse : parse s.text = .ok ⟨s.entries.map TagEntry.reread⟩ := by
    rw [parse, text, String.toList_ofList]
    exact parseChars_joinEntries h
  -- reading back changes no key, so the search stops at the same entry
  have hkey (e : TagEntry) : e.reread.key = e.key := by
    unfold TagEntry.reread
    split
    · rfl
    · rfl
  rw [lookup_eq_get?_text hparse, get?, get?, List.find?_map, Option.map_map]
  simp only [Function.comp_def, hkey]

theorem edit_append (s : TagSet) (edits : List Edit) (op : Edit) :
    s.edit (edits ++ [op]) = op.apply (s.edit edits) := by
  rw [edit, List.foldl_append]
  rfl

/-- Edits of keys of `K` change nothing under any other key: the entries stay the same in the same
order, they are printed with the same text, and the look-up in the printed tag finds what it found
in the tag that was read. Once a key is erased, the look-up finds nothing under it. -/
theorem edit_leaves_other_keys {tag : String} {s : TagSet} (h : parse tag = .ok s)
    (K : Set String) (edits : List Edit) (hK : ∀ op ∈ edits, op.key ∈ K) :
    (∀ k, k ∉ K →
      (s.edit edits).under k = s.under k ∧
      ((s.edit edits).under k).map TagEntry.text = (s.under k).map TagEntry.text ∧
      lookup (s.edit edits).text k = lookup tag k) ∧
    ∀ k, lookup (s.edit (edits ++ [.erase k])).text k = none := by
  have hsound := sound_of_parseChars h
  constructor
  · intro k hk
    have hunder : (s.edit edits).under k = s.under k := by
      apply under_edit
      rintro op hop rfl
      exact hk (hK op hop)
    refine ⟨hunder, by rw [hunder], ?_⟩
    rw [lookup_text (sound_edit hsound edits), lookup_eq_get?_text h, get?_eq_head?_under,
      get?_eq_head?_under, hunder]
    -- an entry of the tag that was read has its text, so it is read back as it is
    apply Option.map_congr
    intro e he
    have hmem : e ∈ s.entries := List.mem_of_mem_filter (List.mem_of_mem_head? he)
    rcases entryOf_eq_ok_iff.1 ((parseChars_eq_ok_iff.1 h).2 e hmem) with ⟨value, -, hvalue⟩
    rw [hvalue]
    rfl
  · intro k
    rw [lookup_text (sound_edit hsound _), edit_append]
    show Option.map _ (((s.edit edits).erase k).get? k) = none
    rw [get?_erase_self]
    rfl

/-- An option that looks like another pair does not leak out of its entry when the entry is printed
anew, and erasing a key removes both of its entries. -/
theorem edit_leaves_other_keys_lookalike :
    lookup "json:\",\\\" bson:\\\"x\" bson:\"b\" json:\"c\"" "bson" = some "b" ∧
      lookup "bson:\"b\"" "json" = none := by
  have h : parse "json:\"a,\\\" bson:\\\"x\" bson:\"b\" json:\"c\"" = .ok
      ⟨[⟨"json", ⟨"a", ["\" bson:\"x"]⟩, some "json:\"a,\\\" bson:\\\"x\""⟩,
        ⟨"bson", ⟨"b", []⟩, some "bson:\"b\""⟩, ⟨"json", ⟨"c", []⟩, some "json:\"c\""⟩]⟩ := by
    cbv
  rcases edit_leaves_other_keys h {"json"} [.clearName "json"] (by simp [Edit.key])
    with ⟨hothers, herased⟩
  have hbson := (hothers "bson" (by simp)).2.2
  have hjson := herased "json"
  have htext : (edit ⟨[⟨"json", ⟨"a", ["\" bson:\"x"]⟩, some "json:\"a,\\\" bson:\\\"x\""⟩,
      ⟨"bson", ⟨"b", []⟩, some "bson:\"b\""⟩, ⟨"json", ⟨"c", []⟩, some "json:\"c\""⟩]⟩
      [.clearName "json"]).text = "json:\",\\\" bson:\\\"x\" bson:\"b\" json:\"c\"" := by
    cbv
  have hrest : (edit ⟨[⟨"json", ⟨"a", ["\" bson:\"x"]⟩, some "json:\"a,\\\" bson:\\\"x\""⟩,
      ⟨"bson", ⟨"b", []⟩, some "bson:\"b\""⟩, ⟨"json", ⟨"c", []⟩, some "json:\"c\""⟩]⟩
      ([.clearName "json"] ++ [.erase "json"])).text = "bson:\"b\"" := by
    cbv
  have hbefore : lookup "json:\"a,\\\" bson:\\\"x\" bson:\"b\" json:\"c\"" "bson" = some "b" := by
    cbv
  rw [htext, hbefore] at hbson
  rw [hrest] at hjson
  exact ⟨hbson, hjson⟩

/-! ## Between backquotes -/

/-- Where a backquote may stand in an entry that was read between backquotes: not in its key, and
nowhere as long as it has the text it was read from. -/
structure Raw (e : TagEntry) : Prop where
  key : '\x60' ∉ e.key.toList
  unedited : e.source? ≠ none → '\x60' ∉ e.pair.text

theorem raw_cleared {e : TagEntry} (h : Raw e) : Raw e.cleared := by
  constructor
  · exact h.key
  · intro hsource
    exact absurd rfl hsource

/-- The entries of a literal between backquotes hold no backquote. -/
theorem raw_of_parseLiteral {literal text : String} {s : TagSet}
    (hquote : literal.toList.head? = some '\x60') (htext : unquote literal = .ok text)
    (hs : parseLiteral literal = .ok s) : ∀ e ∈ s.entries, e.Sound ∧ Raw e := by
  rcases JsonRules.exists_readTwice hquote htext hs with ⟨body, hread⟩
  intro e he
  have hfree := hread.backquote_notMem e he
  refine ⟨hread.sound e he, ?_, fun _ => hfree⟩
  intro hkey
  exact hfree (by simp [Pair.text, TagEntry.pair, hkey])

/-- Sound entries can be put between backquotes exactly if no backquote stands in an option that
was printed anew. -/
theorem exists_unquote_literal_iff {s : TagSet} (hsound : ∀ e ∈ s.entries, e.Sound)
    (hraw : ∀ e ∈ s.entries, Raw e) (hne : s.entries ≠ []) :
    (∃ text, unquote s.literal = .ok text) ↔
      ∀ e ∈ s.entries, e.source? = none → ∀ o ∈ e.value.options, '\x60' ∉ o.toList := by
  have hentry (e : TagEntry) (he : e ∈ s.entries) : '\x60' ∉ e.pair.text ↔
      (e.source? = none → ∀ o ∈ e.value.options, '\x60' ∉ o.toList) := by
    by_cases hsource : e.source? = none
    · rw [(hsound e he).backquote_notMem_iff hsource (hraw e he).key]
      simp [hsource, List.forall_mem_ne']
    · simp [hsource, (hraw e he).unedited hsource]
  have hmem : '\x60' ∈ joinEntries s.entries ↔ ∃ e ∈ s.entries, '\x60' ∈ e.pair.text := by
    rw [(consistsOf_joinEntries hsound).mem_iff (by decide)]
    simp
  rw [unquote_literal hne]
  constructor
  · rintro ⟨text, htext⟩ e he
    rw [← hentry e he]
    intro hback
    rw [if_pos (hmem.2 ⟨e, he, hback⟩)] at htext
    cases htext
  · intro hfree
    refine ⟨_, if_neg ?_⟩
    rw [hmem]
    rintro ⟨e, he, hback⟩
    exact (hentry e he).2 (hfree e he) hback

/-- An edited tag is the empty text exactly if no entry is left. Otherwise it is a literal that can
be decoded exactly if no option of an edited entry holds a backquote. -/
theorem literal_edit_decodes_iff {literal text : String} {s : TagSet}
    (hquote : literal.toList.head? = some '\x60') (htext : unquote literal = .ok text)
    (hs : parseLiteral literal = .ok s) (edits : List Edit) :
    ((s.edit edits).literal = "" ↔ (s.edit edits).entries = []) ∧
      ((s.edit edits).entries ≠ [] →
        ((∃ text', unquote (s.edit edits).literal = .ok text') ↔
          ∀ e ∈ (s.edit edits).entries, e.source? = none →
            ∀ o ∈ e.value.options, '\x60' ∉ o.toList)) := by
  have hread := raw_of_parseLiteral hquote htext hs
  have hsound := sound_edit (fun e he => (hread e he).1) edits
  have hraw := forall_edit (P := Raw) (fun _ he => raw_cleared he)
    (fun e he => (hread e he).2) edits
  constructor
  · exact literal_eq_empty_iff
  · intro hne
    exact exists_unquote_literal_iff hsound hraw hne

/-- A newline in an option is printed as an escape, so the edited tag is a literal again. -/
theorem literal_edit_decodes_newline :
    parseLiteral "\x60json:\"a,\\n\"\x60" =
        .ok ⟨[⟨"json", ⟨"a", ["\n"]⟩, some "json:\"a,\\n\""⟩]⟩ ∧
      ∃ text, unquote "\x60json:\",\\n\"\x60" = .ok text := by
  have htext : unquote "\x60json:\"a,\\n\"\x60" = .ok "json:\"a,\\n\"" := by
    cbv
  have hs : parseLiteral "\x60json:\"a,\\n\"\x60" =
      .ok ⟨[⟨"json", ⟨"a", ["\n"]⟩, some "json:\"a,\\n\""⟩]⟩ := by
    cbv
  have hedit : edit ⟨[⟨"json", ⟨"a", ["\n"]⟩, some "json:\"a,\\n\""⟩]⟩ [.clearName "json"] =
      ⟨[⟨"json", ⟨"", ["\n"]⟩, none⟩]⟩ := by
    cbv
  have hliteral : literal ⟨[⟨"json", ⟨"", ["\n"]⟩, none⟩]⟩ = "\x60json:\",\\n\"\x60" := by
    cbv
  have hdecodes := (literal_edit_decodes_iff rfl htext hs [.clearName "json"]).2
  rw [hedit, hliteral] at hdecodes
  exact ⟨hs, (hdecodes (by simp)).2 (by simp)⟩

/-- Not every edited tag is a literal: a backquote that was spelled as an escape is printed as it
is and ends the literal too early. -/
theorem literal_edit_not_decodes :
    ¬ ∀ (literal text : String) (s : TagSet) (edits : List Edit),
      literal.toList.head? = some '\x60' → unquote literal = .ok text →
      parseLiteral literal = .ok s → (s.edit edits).entries ≠ [] →
      ∃ text', unquote (s.edit edits).literal = .ok text' := by
  intro hall
  have htext : unquote "\x60json:\"a,\\x60\"\x60" = .ok "json:\"a,\\x60\"" := by
    cbv
  have hs : parseLiteral "\x60json:\"a,\\x60\"\x60" =
      .ok ⟨[⟨"json", ⟨"a", ["\x60"]⟩, some "json:\"a,\\x60\""⟩]⟩ := by
    cbv
  have hedit : edit ⟨[⟨"json", ⟨"a", ["\x60"]⟩, some "json:\"a,\\x60\""⟩]⟩ [.clearName "json"] =
      ⟨[⟨"json", ⟨"", ["\x60"]⟩, none⟩]⟩ := by
    cbv
  have hfault : unquote (literal ⟨[⟨"json", ⟨"", ["\x60"]⟩, none⟩]⟩) = .error .innerBackquote := by
    cbv
  rcases hall _ _ _ [.clearName "json"] rfl htext hs (by simp [hedit]) with ⟨text', htext'⟩
  rw [hedit, hfault] at htext'
  cases htext'

end TagSet

end StructTags
