import StructTags.Proofs.PairScan
import StructTags.Tag.Set

/-!
# The two readers of a tag

A tag is read in two ways: `Tag.lookup` searches for one key and stops at the first pair that is
not well formed, `TagSet.parse` reads the whole tag or fails. `parseChars_eq_ok_iff` says what a
successful reading is, and `lookup_eq_first_entry` that both readers then agree, down to the name
and options that a value is split into.

The search depends only on the text up to the pair that it finds: `scanPair_exact_and_local` says so
for one pair and for the whole search.
-/

namespace StructTags

/-! ## Splitting values -/

namespace Tag

theorem segments_notMem_comma (cs : List Char) :
    ',' ∉ (segments cs).1 ∧ ∀ s ∈ (segments cs).2, ',' ∉ s := by
  induction cs with
  | nil => simp [segments]
  | cons c rest ih =>
    by_cases hc : c = ','
    · simpa [segments, hc] using ih
    · simpa [segments, hc, Ne.symm hc] using ih

theorem segments_of_notMem {head : List Char} (h : ',' ∉ head) : segments head = (head, []) := by
  induction head with
  | nil => rfl
  | cons c rest ih =>
    simp only [List.mem_cons, not_or] at h
    simp [segments, ih h.2, Ne.symm h.1]

theorem segments_append_comma {head : List Char} (h : ',' ∉ head) (cs : List Char) :
    segments (head ++ ',' :: cs) = (head, (segments cs).1 :: (segments cs).2) := by
  induction head with
  | nil => simp [segments]
  | cons c rest ih =>
    simp only [List.mem_cons, not_or] at h
    simp [segments, ih h.2, Ne.symm h.1]

/-- Parts without commas are found again after they were joined by commas. -/
theorem segments_joinSegments {head : List Char} {tail : List (List Char)} (hhead : ',' ∉ head)
    (htail : ∀ s ∈ tail, ',' ∉ s) : segments (joinSegments head tail) = (head, tail) := by
  induction tail generalizing head with
  | nil => exact segments_of_notMem hhead
  | cons s rest ih =>
    rw [joinSegments, segments_append_comma hhead,
      ih (htail s (by simp)) fun x hx => htail x (by simp [hx])]

/-- The options with the commas before them are what is left from the first comma on. -/
theorem joinSegments_nil_segments (cs : List Char) :
    joinSegments [] (segments cs).2 = cs.dropWhile (· ≠ ',') := by
  induction cs with
  | nil => rfl
  | cons c rest ih =>
    by_cases hc : c = ','
    · rw [List.dropWhile_cons_of_neg (by simpa using hc)]
      simp [segments, hc, joinSegments, joinSegments_segments]
    · rw [List.dropWhile_cons_of_pos (by simpa using hc), ← ih]
      simp [segments, hc]

namespace Value

/-- The name and the options hold no comma, which is what makes the value readable. -/
def CommaFree (v : Value) : Prop :=
  ',' ∉ v.name.toList ∧ ∀ o ∈ v.options, ',' ∉ o.toList

theorem commaFree_ofText (text : String) : (ofText text).CommaFree := by
  obtain ⟨hhead, htail⟩ := segments_notMem_comma text.toList
  simpa [CommaFree, ofText] using ⟨hhead, htail⟩

@[simp] theorem text_ofText (text : String) : (ofText text).text = text := by
  have hjoin := joinSegments_segments text.toList
  simp [Value.text, ofText, Function.comp_def, hjoin]

theorem ofText_text {v : Value} (h : v.CommaFree) : ofText v.text = v := by
  have htail : ∀ s ∈ v.options.map String.toList, ',' ∉ s := by
    intro s hs
    obtain ⟨o, ho, rfl⟩ := List.mem_map.1 hs
    exact h.2 o ho
  simp [Value.text, ofText, segments_joinSegments h.1 htail, Function.comp_def]

/-- The value without its name. -/
def unnamed (v : Value) : Value :=
  { v with name := "" }

theorem CommaFree.unnamed {v : Value} (h : v.CommaFree) : v.unnamed.CommaFree :=
  ⟨by simp [Value.unnamed], h.2⟩

/-- The text of a value without its name is what is left of it from the first comma on. -/
theorem text_unnamed_ofText (text : String) :
    (ofText text).unnamed.text = String.ofList (text.toList.dropWhile (· ≠ ',')) := by
  have hjoin := joinSegments_nil_segments text.toList
  simp [Value.text, Value.unnamed, ofText, Function.comp_def, hjoin]

/-- Values have the same options if they are the same without their names. -/
theorem options_eq_iff {v w : Value} (hv : v.CommaFree) (hw : w.CommaFree) :
    v.options = w.options ↔ v.unnamed.text = w.unnamed.text := by
  constructor
  · intro h
    simp only [Value.unnamed, h]
  · intro h
    have hvalue : v.unnamed = w.unnamed := by
      rw [← ofText_text hv.unnamed, ← ofText_text hw.unnamed, h]
    have hoptions : v.unnamed.options = w.unnamed.options := by rw [hvalue]
    exact hoptions

end Value

end Tag

/-! ## Reading a whole tag -/

/-- The pair that an entry is printed as. -/
def TagEntry.pair (e : TagEntry) : Tag.Pair :=
  ⟨e.key.toList, e.textChars.drop (e.key.toList.length + 1)⟩

namespace TagSet

open Tag Literal

theorem entryOf_eq_ok_iff {p : Pair} {e : TagEntry} :
    entryOf p = .ok e ↔ ∃ value, decode p.quoted = .ok value ∧
      e = ⟨String.ofList p.key, .ofText (String.ofList value), some (String.ofList p.text)⟩ := by
  unfold entryOf
  cases decode p.quoted with
  | error fault => simp
  | ok value => simp [eq_comm]

/-- An entry keeps the pair it was read from. -/
theorem pair_of_entryOf {p : Pair} {e : TagEntry} (h : entryOf p = .ok e) : e.pair = p := by
  obtain ⟨value, -, rfl⟩ := entryOf_eq_ok_iff.1 h
  simp [TagEntry.pair, TagEntry.textChars, Pair.text]

theorem mapM_entryOf_eq_ok_iff {ps : List Pair} {es : List TagEntry} :
    ps.mapM entryOf = .ok es ↔ ps = es.map TagEntry.pair ∧ ∀ e ∈ es, entryOf e.pair = .ok e := by
  induction ps generalizing es with
  | nil =>
    simp only [List.mapM_nil, pure, Except.pure, Except.ok.injEq]
    constructor
    · rintro rfl
      simp
    · rintro ⟨h, -⟩
      simpa using h
  | cons p rest ih =>
    rw [List.mapM_cons, bind_eq_ok]
    constructor
    · rintro ⟨e, he, hrest⟩
      obtain ⟨more, hmore, hes⟩ := bind_eq_ok.1 hrest
      obtain ⟨hps, hall⟩ := ih.1 hmore
      have hpair := pair_of_entryOf he
      cases hes
      refine ⟨by simp [hpair, hps], ?_⟩
      intro e' he'
      rcases List.mem_cons.1 he' with rfl | he'
      · rwa [hpair]
      · exact hall e' he'
    · rintro ⟨hps, hall⟩
      cases es with
      | nil => simp at hps
      | cons e more =>
        simp only [List.map_cons, List.cons.injEq] at hps
        refine ⟨e, hps.1 ▸ hall e (by simp), bind_eq_ok.2 ⟨more, ?_, rfl⟩⟩
        exact ih.2 ⟨hps.2, fun e' he' => hall e' (by simp [he'])⟩

/-- A tag can be read exactly if it consists of pairs whose values can be decoded, and then the
entries are these pairs. -/
theorem parseChars_eq_ok_iff {cs : List Char} {s : TagSet} :
    parseChars cs = .ok s ↔
      ConsistsOf cs (s.entries.map TagEntry.pair) ∧ ∀ e ∈ s.entries, entryOf e.pair = .ok e := by
  rw [← pairs_eq_none_iff]
  rcases hpairs : Tag.pairs cs with ⟨ps, fault⟩
  simp only [parseChars, hpairs, bind_eq_ok, Prod.mk.injEq]
  constructor
  · rintro ⟨es, hes, hfault⟩
    cases fault with
    | some part => simp at hfault
    | none =>
      cases hfault
      obtain ⟨hps, hall⟩ := mapM_entryOf_eq_ok_iff.1 hes
      exact ⟨⟨hps, rfl⟩, hall⟩
  · rintro ⟨⟨hps, rfl⟩, hall⟩
    exact ⟨s.entries, mapM_entryOf_eq_ok_iff.2 ⟨hps, hall⟩, rfl⟩

/-! ## Looking up a key -/

/-- The look-up in a text of pairs that stand for entries, each under the key of its entry. -/
theorem lookupChars_of_consistsOf {cs : List Char} {es : List TagEntry} {f : TagEntry → Pair}
    (hf : ∀ e, (f e).key = e.key.toList) (h : ConsistsOf cs (es.map f)) (k : String) :
    lookupChars cs k.toList =
      (es.find? (·.key = k)).bind fun e => (decode (f e).quoted).toOption := by
  have hkey : (fun p : Pair => decide (p.key = k.toList)) ∘ f = fun e => decide (e.key = k) := by
    funext e
    simp [hf, String.toList_inj]
  rw [lookupChars, h.pairs]
  simp only [List.find?_map, hkey]
  cases es.find? (·.key = k) with
  | none => rfl
  | some e => rfl

/-- The value of an entry is what its pair decodes to. -/
theorem decode_of_entryOf {e : TagEntry} (h : entryOf e.pair = .ok e) :
    decode e.pair.quoted = .ok e.value.text.toList := by
  obtain ⟨value, hvalue, he⟩ := entryOf_eq_ok_iff.1 h
  have htext : e.value.text = String.ofList value := by
    rw [he]
    simp
  rw [hvalue, htext, String.toList_ofList]

theorem lookup_eq_get?_text {tag : String} {s : TagSet} (h : parse tag = .ok s) (k : String) :
    lookup tag k = (s.get? k).map (·.value.text) := by
  obtain ⟨htext, hall⟩ := parseChars_eq_ok_iff.1 h
  rw [lookup, lookupChars_of_consistsOf (fun _ => rfl) htext, get?]
  cases hfind : s.entries.find? (·.key = k) with
  | none => rfl
  | some e =>
    have he := decode_of_entryOf (hall e (List.mem_of_find?_eq_some hfind))
    simp [he, Except.toOption]

/-- Both readers agree on a tag that can be read as a whole. Looking up a key gives the value of
the first entry with that key, and unless that value is the skip marker, splitting it again gives
the name and the options of the entry, of which a reader that knows only some options finds the
others unknown. -/
theorem lookup_eq_first_entry {tag : String} {s : TagSet} (h : parse tag = .ok s) (k : String) :
    lookup tag k = (s.get? k).map (·.value.text) ∧
      ∀ e, s.get? k = some e → e.value.text ≠ "-" →
        Usage.ofText e.value.text = .use e.value ∧
        ∀ known : List String, (Usage.ofText e.value.text).value.unknownOptions known =
          e.value.options.filter (· ∉ known) := by
  refine ⟨lookup_eq_get?_text h k, ?_⟩
  intro e hget hskip
  have hread := (parseChars_eq_ok_iff.1 h).2 e (List.mem_of_find?_eq_some hget)
  obtain ⟨value, -, he⟩ := entryOf_eq_ok_iff.1 hread
  have hfree : e.value.CommaFree := by
    rw [he]
    exact Value.commaFree_ofText _
  have husage : Usage.ofText e.value.text = .use e.value := by
    rw [Usage.ofText, if_neg hskip, Value.ofText_text hfree]
  refine ⟨husage, fun known => ?_⟩
  rw [husage]
  simp [Usage.value, Value.unknownOptions]

/-- Of two entries with one key the first counts, and an escape in its value is undone before the
value is split. -/
theorem lookup_first_of_two :
    parse "json:\"a,\\x62\" json:\"c\"" = .ok
        ⟨[⟨"json", ⟨"a", ["b"]⟩, some "json:\"a,\\x62\""⟩, ⟨"json", ⟨"c", []⟩, some "json:\"c\""⟩]⟩ ∧
      lookup "json:\"a,\\x62\" json:\"c\"" "json" = some "a,b" ∧
      Usage.ofText "a,b" = .use ⟨"a", ["b"]⟩ := by
  have h : parse "json:\"a,\\x62\" json:\"c\"" = .ok
      ⟨[⟨"json", ⟨"a", ["b"]⟩, some "json:\"a,\\x62\""⟩, ⟨"json", ⟨"c", []⟩, some "json:\"c\""⟩]⟩ := by
    cbv
  obtain ⟨hlookup, husage⟩ := lookup_eq_first_entry h "json"
  have htext : (⟨"a", ["b"]⟩ : Value).text = "a,b" := by cbv
  refine ⟨h, ?_, ?_⟩
  · rw [hlookup]
    exact congrArg some htext
  · have huse := (husage ⟨"json", ⟨"a", ["b"]⟩, some "json:\"a,\\x62\""⟩ rfl (by rw [htext]; decide)).1
    rwa [htext] at huse

end TagSet

/-! ## Texts that go on -/

namespace Tag

/-- A value that is found in a text is found in every text that starts with it. -/
theorem lookupChars_append {cs key value : List Char} (h : lookupChars cs key = some value)
    (more : List Char) : lookupChars (cs ++ more) key = some value := by
  obtain ⟨p, hfind, hvalue⟩ := Option.bind_eq_some_iff.1 h
  obtain ⟨ps, hps⟩ := pairs_prefix_append cs more
  have hfind' : (pairs (cs ++ more)).1.find? (·.key = key) = some p := by
    rw [← hps, List.find?_append, hfind, Option.some_or]
  exact Option.bind_eq_some_iff.2 ⟨p, hfind', hvalue⟩

theorem lookup_append {tag key value : String} (h : lookup tag key = some value) (more : String) :
    lookup (tag ++ more) key = some value := by
  obtain ⟨cs, hcs, hvalue⟩ := Option.map_eq_some_iff.1 h
  rw [lookup, String.toList_append, lookupChars_append hcs, ← hvalue]
  rfl

/-- The scanner cuts a text into a key, a colon, a value in quotes and a tail that is shorter than
the text, without losing anything, and finds the same key and value in front of any other tail.
Hence a key that is found in a text is found with the same value when the text goes on. -/
theorem scanPair_exact_and_local (text more : String) :
    (∀ (p : Pair) (tail : List Char), scanPair text.toList = .ok (p, tail) →
      text.toList = p.key ++ [':'] ++ p.quoted ++ tail ∧
        Utf8.size tail < Utf8.size text.toList ∧
        scanPair (p.key ++ [':'] ++ p.quoted ++ more.toList) = .ok (p, more.toList)) ∧
      ∀ key value : String, lookup text key = some value →
        lookup (text ++ more) key = some value := by
  refine ⟨?_, fun key value h => lookup_append h more⟩
  intro p tail hscan
  have htext (cs : List Char) : p.key ++ [':'] ++ p.quoted ++ cs = p.text ++ cs := by
    simp [Pair.text]
  obtain ⟨hp, hcut⟩ := scanPair_eq_ok_iff.1 hscan
  rw [htext, htext]
  refine ⟨hcut, ?_, hp.scanPair more.toList⟩
  have hcolon : Char.utf8Size ':' = 1 := rfl
  rw [hcut, Utf8.size_append, Pair.text, Utf8.size_append, Utf8.size, hcolon]
  omega

/-- The value holds an escaped quote and a character beyond ASCII; behind it stands half of a pair,
which the rest of the text completes. -/
theorem scanPair_exact_and_local_half :
    scanPair "a:\"\\\"é\"b:".toList = .ok (⟨['a'], "\"\\\"é\"".toList⟩, ['b', ':']) ∧
      scanPair "a:\"\\\"é\"\"c\"".toList = .ok (⟨['a'], "\"\\\"é\"".toList⟩, "\"c\"".toList) ∧
      lookup "a:\"\\\"é\"b:" "a" = some "\"é" ∧
      lookup "a:\"\\\"é\"b:\"c\"" "a" = some "\"é" := by
  have hscan : scanPair "a:\"\\\"é\"b:".toList =
      .ok (⟨['a'], "\"\\\"é\"".toList⟩, ['b', ':']) := by
    cbv
  have hlookup : lookup "a:\"\\\"é\"b:" "a" = some "\"é" := by cbv
  obtain ⟨hpair, hvalue⟩ := scanPair_exact_and_local "a:\"\\\"é\"b:" "\"c\""
  exact ⟨hscan, (hpair _ _ hscan).2.2, hlookup, hvalue _ _ hlookup⟩

end Tag

end StructTags
