import StructTags.Proofs.PairGrammar
import StructTags.Proofs.RedundantName

/-!
# Quoting styles

One text can be written as many literals: between backquotes with carriage returns in it, or
between double quotes with some characters escaped. What is reported on a tag should follow from
its text alone.

All rules but one look at the text, so they give the same reports however the tag is written. The
`json` rule about repeated names reads the literal itself, which is a tag only if it stands between
backquotes and is well formed together with its carriage returns (`RawTag`). So a repeated name is
not reported in a double-quoted literal. `JsonRules.SameReading` is the condition under which the
reports on a field are the same, and `ruleIds_respelled` says what this means for a run.
-/

namespace StructTags

open Tag Literal

/-! ## Literals -/

/-- A text in which a key is found has more than one character. -/
theorem Tag.one_lt_of_lookup {text k value : String} (h : lookup text k = some value) :
    1 < text.toList.length := by
  obtain ⟨cs, hcs, -⟩ := Option.map_eq_some_iff.1 h
  obtain ⟨p, hfind, -⟩ := Option.bind_eq_some_iff.1 hcs
  have hmem := List.mem_of_find?_eq_some hfind
  rw [pairs_eq] at hmem
  split at hmem
  · simp at hmem
  next c rest hrest =>
  split at hmem
  · simp at hmem
  next q tail hscan =>
  have hlength := congrArg List.length (scanPair_eq_ok_iff.1 hscan).2
  have hpos := List.length_pos_iff.2 (scanPair_eq_ok_iff.1 hscan).1.key_ne_nil
  have hle := (List.dropWhile_sublist (l := text.toList) (· = ' ')).length_le
  rw [hrest] at hle
  simp only [Pair.text, List.length_append, List.length_cons] at hlength hle
  omega

/-- The literal stands between backquotes, and what stands there is a tag as it is, with all its
carriage returns. -/
def RawTag (literal : String) : Prop :=
  ∃ body, literal.toList = '\x60' :: (body ++ ['\x60']) ∧ ∃ l : Layout, l.Cuts body

theorem TagSet.trimBackquotes_cons_append {quote : Char} (h : quote ≠ '\x60') (body : List Char) :
    TagSet.trimBackquotes (quote :: (body ++ [quote])) = quote :: (body ++ [quote]) := by
  unfold TagSet.trimBackquotes
  rw [List.dropWhile_cons_of_neg (by simpa using h), ← List.cons_append, List.reverse_append,
    List.reverse_singleton, List.singleton_append, List.dropWhile_cons_of_neg (by simpa using h)]
  simp

/-- Which literals of a text with a key in it can be read without decoding them. -/
theorem exists_parseLiteral_iff {literal text k value : String} (htext : unquote literal = .ok text)
    (hvalue : Tag.lookup text k = some value) :
    (∃ tags, TagSet.parseLiteral literal = .ok tags) ↔ RawTag literal := by
  obtain ⟨cs, hdecode, rfl⟩ := map_eq_ok.1 htext
  unfold TagSet.parseLiteral RawTag
  rw [TagSet.exists_parseChars_iff]
  cases hliteral : literal.toList with
  | nil =>
    rw [hliteral] at hdecode
    cases hdecode
  | cons quote rest =>
    rw [hliteral] at hdecode
    obtain ⟨body, rfl⟩ := exists_body_of_decode hdecode
    rcases quote_of_decode hdecode with rfl | rfl | ⟨rfl, hlength⟩
    · -- between backquotes the literal is read as it stands
      rw [decode_backquoted, decodeRaw_eq_ok_iff] at hdecode
      rw [TagSet.trimBackquotes_backquoted hdecode.1]
      simp
    · -- a double quote starts no key
      rw [TagSet.trimBackquotes_cons_append (by decide)]
      constructor
      · rintro ⟨l, hl⟩
        exact absurd hl.head (by decide)
      · rintro ⟨_, hback, -⟩
        cases hback
    · -- one character holds no pair
      have hlong := one_lt_of_lookup hvalue
      rw [String.toList_ofList] at hlong
      omega

/-! ## Reports on the same text -/

/-- The rules that reports belong to, in order. -/
def ruleIds (ds : List Diagnostic) : List String :=
  ds.map Diagnostic.ruleId

theorem ruleIds_append (ds ds' : List Diagnostic) :
    ruleIds (ds ++ ds') = ruleIds ds ++ ruleIds ds' :=
  List.map_append

/-- Two fields with the same name and type, and with tags of the same text. -/
structure Site.Respelled (s s' : Site) (text : String) : Prop where
  name_eq : s.field.name = s'.field.name
  type_eq : s.field.type = s'.field.type
  unquote_eq : unquote s.tag.literal = .ok text
  unquote_eq' : unquote s'.tag.literal = .ok text

/-- Which of the rules in `keep` a field breaks depends on its tag through the text alone. -/
def Checker.FollowsText (c : Checker) (keep : String → Bool) : Prop :=
  ∀ (s s' : Site) (text value : String), s.Respelled s' text → Tag.lookup text c.key = some value →
    (ruleIds (c.check s value)).filter keep = (ruleIds (c.check s' value)).filter keep

section Dialects

variable {s s' : Site} {text : String}

theorem BsonRules.ruleIds_check (h : s.Respelled s' text) (value : String) :
    ruleIds (BsonRules.check s value) = ruleIds (BsonRules.check s' value) := by
  unfold BsonRules.check
  cases Tag.Usage.ofText value with
  | skip => rfl
  | use v =>
    simp only [ruleIds, List.map_append, BsonRules.checkOptions, BsonRules.checkSameName,
      BsonRules.checkInline, BsonRules.checkMinsize, apply_ite (List.map Diagnostic.ruleId),
      List.map_cons, List.map_nil, h.name_eq, h.type_eq]
    rfl

theorem BindingRules.ruleIds_check (h : s.Respelled s' text) (value : String) :
    ruleIds (BindingRules.check s value) = ruleIds (BindingRules.check s' value) := by
  unfold BindingRules.check
  rw [h.unquote_eq, h.unquote_eq', h.type_eq]
  simp only
  split
  · rfl
  · split
    · simp only [ruleIds, apply_ite (List.map Diagnostic.ruleId)]
      rfl
    · rfl

namespace JsonRules

theorem ruleIds_checkName (value : Tag.Value) :
    ruleIds (checkName s value) = ruleIds (checkName s' value) := by
  simp only [ruleIds, checkName, apply_ite (List.map Diagnostic.ruleId)]
  rfl

theorem ruleIds_checkString (h : s.Respelled s' text) (value : Tag.Value) :
    ruleIds (checkString s value) = ruleIds (checkString s' value) := by
  simp only [ruleIds, checkString, apply_ite (List.map Diagnostic.ruleId), h.type_eq]
  rfl

/-- The name repeats the field's, and the literal can be read as it stands. -/
def SameNameSeen (site : Site) (value : Tag.Value) : Prop :=
  site.field.name = some value.name ∧ ∃ tags, TagSet.parseLiteral site.tag.literal = .ok tags

theorem ruleIds_checkSameName (site : Site) (value : Tag.Value) :
    (SameNameSeen site value ∧ ruleIds (checkSameName site value) = [sameTagName]) ∨
      ¬ SameNameSeen site value ∧ ruleIds (checkSameName site value) = [] := by
  unfold checkSameName
  split
  · next hname =>
    cases htags : TagSet.parseLiteral site.tag.literal with
    | error part => exact .inr ⟨by simp [SameNameSeen, htags], rfl⟩
    | ok tags => exact .inl ⟨⟨hname, tags, htags⟩, rfl⟩
  · next hname => exact .inr ⟨fun h => hname h.1, rfl⟩

theorem ruleIds_checkSameName_eq_iff (value : Tag.Value) :
    ruleIds (checkSameName s value) = ruleIds (checkSameName s' value) ↔
      (SameNameSeen s value ↔ SameNameSeen s' value) := by
  rcases ruleIds_checkSameName s value with ⟨hseen, hids⟩ | ⟨hseen, hids⟩
  · rcases ruleIds_checkSameName s' value with ⟨hseen', hids'⟩ | ⟨hseen', hids'⟩
    · simp [hids, hids', hseen, hseen']
    · simp [hids, hids', hseen, hseen']
  · rcases ruleIds_checkSameName s' value with ⟨hseen', hids'⟩ | ⟨hseen', hids'⟩
    · simp [hids, hids', hseen, hseen']
    · simp [hids, hids', hseen, hseen']

/-- The rules in front of the one about repeated names look at the text only. -/
theorem exists_ruleIds_check (h : s.Respelled s' text) {value : String} (hskip : value ≠ "-") :
    ∃ front, ruleIds (check s value) = front ++ ruleIds (checkSameName s (.ofText value)) ∧
      ruleIds (check s' value) = front ++ ruleIds (checkSameName s' (.ofText value)) := by
  refine ⟨ruleIds (checkName s (.ofText value) ++ checkString s (.ofText value)), ?_, ?_⟩
  · rw [check_of_ne_skip hskip, ruleIds_append]
  · rw [check_of_ne_skip hskip, ruleIds_append, ruleIds_append, ruleIds_append,
      ruleIds_checkName (s := s), ruleIds_checkString h]

theorem ruleIds_check_eq_iff (h : s.Respelled s' text) {value : String}
    (hvalue : Tag.lookup text key = some value) :
    ruleIds (check s value) = ruleIds (check s' value) ↔
      (value ≠ "-" → s.field.name = some (Tag.Value.ofText value).name →
        (RawTag s.tag.literal ↔ RawTag s'.tag.literal)) := by
  by_cases hskip : value = "-"
  · simp [hskip, check_skip]
  obtain ⟨front, hfront, hfront'⟩ := exists_ruleIds_check h hskip
  rw [hfront, hfront', List.append_cancel_left_eq, ruleIds_checkSameName_eq_iff, SameNameSeen,
    SameNameSeen, ← h.name_eq, and_congr_right_iff, exists_parseLiteral_iff h.unquote_eq hvalue,
    exists_parseLiteral_iff h.unquote_eq' hvalue]
  simp [hskip]

theorem filter_ruleIds_check (h : s.Respelled s' text) (value : String) :
    (ruleIds (check s value)).filter (· ≠ sameTagName) =
      (ruleIds (check s' value)).filter (· ≠ sameTagName) := by
  have hdropped (site : Site) (v : Tag.Value) :
      (ruleIds (checkSameName site v)).filter (· ≠ sameTagName) = [] := by
    rcases ruleIds_checkSameName site v with ⟨-, hids⟩ | ⟨-, hids⟩
    · simp [hids]
    · simp [hids]
  by_cases hskip : value = "-"
  · rw [hskip, check_skip, check_skip]
  · obtain ⟨front, hfront, hfront'⟩ := exists_ruleIds_check h hskip
    rw [hfront, hfront', List.filter_append, List.filter_append, hdropped, hdropped]

end JsonRules

end Dialects

theorem Dialect.followsText_of_ne_json {dialect : Dialect} (h : dialect ≠ .json) :
    dialect.checker.FollowsText fun _ => true := by
  intro s s' text value hsites _
  cases dialect with
  | json => exact absurd rfl h
  | bson => exact congrArg _ (BsonRules.ruleIds_check hsites value)
  | binding => exact congrArg _ (BindingRules.ruleIds_check hsites value)

theorem JsonRules.followsText : JsonRules.checker.FollowsText (· ≠ sameTagName) :=
  fun _ _ _ value hsites _ => filter_ruleIds_check hsites value

/-! ## Runs -/

/-- The text of a field's tag, if there is a tag and it can be decoded. -/
def Field.tagText? (field : Field) : Option (Option String) :=
  field.tag.map fun tag => (unquote tag.literal).toOption

/-- The second field differs from the first one at most in how its tag is written, and in what is
nested in it. -/
structure Field.Respelled (field field' : Field) : Prop where
  name_eq : field.name = field'.name
  type_eq : field.type = field'.type
  tagText?_eq : field.tagText? = field'.tagText?

theorem Field.Respelled.cases {field field' : Field} (h : field.Respelled field')
    (file file' : SourceFile) :
    (field.tag = none ∧ field'.tag = none) ∨
      (∃ tag tag' fault fault', field.tag = some tag ∧ field'.tag = some tag' ∧
        unquote tag.literal = .error fault ∧ unquote tag'.literal = .error fault') ∨
      ∃ tag tag' text, field.tag = some tag ∧ field'.tag = some tag' ∧
        Site.Respelled ⟨file, field, tag⟩ ⟨file', field', tag'⟩ text := by
  have htags := h.tagText?_eq
  unfold Field.tagText? at htags
  cases htag : field.tag with
  | none =>
    rw [htag, Option.map_none, eq_comm, Option.map_eq_none_iff] at htags
    exact .inl ⟨rfl, htags⟩
  | some tag =>
    rw [htag, Option.map_some, eq_comm] at htags
    obtain ⟨tag', htag', heq⟩ := Option.map_eq_some_iff.1 htags
    cases htext : unquote tag.literal with
    | error fault =>
      cases htext' : unquote tag'.literal with
      | error fault' => exact .inr (.inl ⟨tag, tag', fault, fault', rfl, htag', htext, htext'⟩)
      | ok text => simp [htext, htext', Except.toOption] at heq
    | ok text =>
      have htext' : unquote tag'.literal = .ok text := by
        cases htext' : unquote tag'.literal with
        | error fault' => simp [htext, htext', Except.toOption] at heq
        | ok text' => simpa [htext, htext', Except.toOption] using heq
      exact .inr (.inr ⟨tag, tag', text, rfl, htag', h.name_eq, h.type_eq, htext, htext'⟩)

namespace Checker

variable {c : Checker} {keep : String → Bool}

theorem FollowsText.reportsOn (hc : c.FollowsText keep) {file file' : SourceFile}
    {field field' : Field} (h : field.Respelled field') :
    (ruleIds (c.reportsOn file field)).filter keep =
      (ruleIds (c.reportsOn file' field')).filter keep := by
  rcases h.cases file file' with
    ⟨htag, htag'⟩ | ⟨tag, tag', fault, fault', htag, htag', herror, herror'⟩ |
    ⟨tag, tag', text, htag, htag', hsites⟩
  · rw [reportsOn_untagged htag, reportsOn_untagged htag']
  · rw [reportsOn_invalid htag herror, reportsOn_invalid htag' herror']
    rfl
  · cases hvalue : Tag.lookup text c.key with
    | none =>
      rw [reportsOn_missing htag hsites.unquote_eq hvalue,
        reportsOn_missing htag' hsites.unquote_eq' hvalue]
    | some value =>
      rw [reportsOn_eq htag hsites.unquote_eq hvalue, reportsOn_eq htag' hsites.unquote_eq' hvalue]
      exact hc _ _ text value hsites hvalue

/-- If the same rules are reported on each field, then also in a run. -/
theorem filter_ruleIds_run {p p' : Package}
    (h : List.Forall₂ (fun x y => (ruleIds (c.reportsOn x.1 x.2)).filter keep =
      (ruleIds (c.reportsOn y.1 y.2)).filter keep) p.visit p'.visit) :
    (ruleIds (c.run p)).filter keep = (ruleIds (c.run p')).filter keep := by
  rw [run_eq_flatMap, run_eq_flatMap, List.nil_append, List.nil_append]
  generalize p.visit = xs at h ⊢
  generalize p'.visit = ys at h ⊢
  induction h with
  | nil => rfl
  | cons hfield _ ih =>
    rw [List.flatMap_cons, List.flatMap_cons, ruleIds_append, ruleIds_append, List.filter_append,
      List.filter_append, hfield, ih]

end Checker

/-- If the value under `json` repeats the name of the field, then both tags can be read from their
literals as they stand, or none can. -/
def JsonRules.SameReading (field field' : Field) : Prop :=
  ∀ (tag tag' : TagLiteral) (text value : String), field.tag = some tag → field'.tag = some tag' →
    unquote tag.literal = .ok text → Tag.lookup text key = some value → value ≠ "-" →
    field.name = some (Value.ofText value).name → (RawTag tag.literal ↔ RawTag tag'.literal)

/-- When the reports under `json` on two fields are the same. -/
theorem JsonRules.ruleIds_reportsOn_eq_iff {file file' : SourceFile} {field field' : Field}
    (h : field.Respelled field') :
    ruleIds (checker.reportsOn file field) = ruleIds (checker.reportsOn file' field') ↔
      SameReading field field' := by
  rcases h.cases file file' with
    ⟨htag, htag'⟩ | ⟨tag, tag', fault, fault', htag, htag', herror, herror'⟩ |
    ⟨tag, tag', text, htag, htag', hsites⟩
  · rw [Checker.reportsOn_untagged htag, Checker.reportsOn_untagged htag']
    simp [SameReading, htag]
  · rw [Checker.reportsOn_invalid htag herror, Checker.reportsOn_invalid htag' herror']
    refine iff_of_true rfl ?_
    intro tag₁ tag₂ text value htag₁ _ htext
    obtain rfl := Option.some.inj (htag.symm.trans htag₁)
    cases herror.symm.trans htext
  · have hreading : SameReading field field' ↔
        ∀ value, Tag.lookup text checker.key = some value → value ≠ "-" →
          field.name = some (Value.ofText value).name →
          (RawTag tag.literal ↔ RawTag tag'.literal) := by
      constructor
      · intro hsame value
        exact hsame tag tag' text value htag htag' hsites.unquote_eq
      · intro hsame tag₁ tag₂ text₁ value htag₁ htag₂ htext
        obtain rfl := Option.some.inj (htag.symm.trans htag₁)
        obtain rfl := Option.some.inj (htag'.symm.trans htag₂)
        obtain rfl := Except.ok.inj (hsites.unquote_eq.symm.trans htext)
        exact hsame value
    rw [hreading]
    cases hvalue : Tag.lookup text checker.key with
    | none =>
      rw [Checker.reportsOn_missing htag hsites.unquote_eq hvalue,
        Checker.reportsOn_missing htag' hsites.unquote_eq' hvalue]
      simp
    | some value =>
      rw [Checker.reportsOn_eq htag hsites.unquote_eq hvalue,
        Checker.reportsOn_eq htag' hsites.unquote_eq' hvalue, checker_check,
        ruleIds_check_eq_iff hsites hvalue]
      simp

/-- When the same rules are reported on two fields. -/
theorem Dialect.ruleIds_reportsOn_eq_iff (dialect : Dialect) {file file' : SourceFile}
    {field field' : Field} (h : field.Respelled field') :
    ruleIds (dialect.checker.reportsOn file field) =
        ruleIds (dialect.checker.reportsOn file' field') ↔
      (dialect = .json → JsonRules.SameReading field field') := by
  by_cases hjson : dialect = .json
  · subst hjson
    exact (JsonRules.ruleIds_reportsOn_eq_iff h).trans (by simp)
  · have hsame : (ruleIds (dialect.checker.reportsOn file field)).filter (fun _ => true) =
        (ruleIds (dialect.checker.reportsOn file' field')).filter (fun _ => true) :=
      (followsText_of_ne_json hjson).reportsOn h
    simpa [hjson] using hsame

/-- Two packages that differ in how tags are written. A run reports the same rules in the same order
if the dialect is not `json`, or if it is and wherever a name is repeated both literals are tags as
they stand or none is; for a single field this is also necessary. All rules but the one about
repeated names agree in any case. -/
theorem ruleIds_respelled (dialect : Dialect) {p p' : Package}
    (h : List.Forall₂ (fun x y => x.2.Respelled y.2) p.visit p'.visit) :
    ((dialect = .json → List.Forall₂ (fun x y => JsonRules.SameReading x.2 y.2) p.visit p'.visit) →
        ruleIds (dialect.checker.run p) = ruleIds (dialect.checker.run p')) ∧
      (p.visit.length = 1 → ruleIds (dialect.checker.run p) = ruleIds (dialect.checker.run p') →
        dialect = .json →
        List.Forall₂ (fun x y => JsonRules.SameReading x.2 y.2) p.visit p'.visit) ∧
      (ruleIds (dialect.checker.run p)).filter (· ≠ JsonRules.sameTagName) =
        (ruleIds (dialect.checker.run p')).filter (· ≠ JsonRules.sameTagName) := by
  have hall (hreading : dialect = .json →
      List.Forall₂ (fun x y => JsonRules.SameReading x.2 y.2) p.visit p'.visit) :
      ruleIds (dialect.checker.run p) = ruleIds (dialect.checker.run p') := by
    obtain ⟨hlength, hzip⟩ := List.forall₂_iff_zip.1 h
    have hfields : List.Forall₂ (fun x y =>
        (ruleIds (dialect.checker.reportsOn x.1 x.2)).filter (fun _ => true) =
          (ruleIds (dialect.checker.reportsOn y.1 y.2)).filter (fun _ => true))
        p.visit p'.visit := by
      refine List.forall₂_iff_zip.2 ⟨hlength, fun hmem => ?_⟩
      refine congrArg _ ((dialect.ruleIds_reportsOn_eq_iff (hzip hmem)).2 fun hjson => ?_)
      exact (List.forall₂_iff_zip.1 (hreading hjson)).2 hmem
    simpa using Checker.filter_ruleIds_run hfields
  refine ⟨hall, ?_, ?_⟩
  · intro hlength hsame hjson
    obtain ⟨x, hx⟩ := List.length_eq_one_iff.1 hlength
    rw [hx] at h ⊢
    obtain ⟨y, rest, hxy, hrest, hy⟩ := List.forall₂_cons_left_iff.1 h
    obtain rfl := List.forall₂_nil_left_iff.1 hrest
    rw [Checker.run_eq_flatMap, Checker.run_eq_flatMap, hx, hy] at hsame
    rw [hy]
    exact .cons ((dialect.ruleIds_reportsOn_eq_iff hxy).1 (by simpa using hsame) hjson) .nil
  · by_cases hjson : dialect = .json
    · subst hjson
      exact Checker.filter_ruleIds_run (h.imp fun _ _ hxy => JsonRules.followsText.reportsOn hxy)
    · rw [hall fun heq => absurd heq hjson]

section Instances

open JsonRules

/-- A carriage return in an option is no part of the text, and the literal is a tag with it, so the
repeated name is reported with and without it. In double quotes all other rules find the same. -/
theorem ruleIds_respelled_return :
    (sameTagName ∈ ruleIds (Dialect.json.checker.run ⟨none, [fileOf "A" "\x60json:\"A,o\"\x60"]⟩) ∧
      sameTagName ∈
        ruleIds (Dialect.json.checker.run ⟨none, [fileOf "A" "\x60json:\"A,o\r\"\x60"]⟩)) ∧
    (ruleIds (Dialect.json.checker.run ⟨none, [fileOf "A" "\x60json:\"A,o\"\x60"]⟩)).filter
        (· ≠ sameTagName) =
      (ruleIds (Dialect.json.checker.run ⟨none, [fileOf "A" "\"json:\\\"A,o\\\"\""]⟩)).filter
        (· ≠ sameTagName) := by
  have htext : unquote "\x60json:\"A,o\"\x60" = .ok "json:\"A,o\"" := by
    cbv
  have hreturn : unquote "\x60json:\"A,o\r\"\x60" = .ok "json:\"A,o\"" := by
    cbv
  have hdouble : unquote "\"json:\\\"A,o\\\"\"" = .ok "json:\"A,o\"" := by
    cbv
  have hvalue : Tag.lookup "json:\"A,o\"" key = some "A,o" := by
    cbv
  have hname : (Value.ofText "A,o").name = "A" := by
    cbv
  have htags : TagSet.parseLiteral "\x60json:\"A,o\"\x60" =
      .ok ⟨[⟨"json", ⟨"A", ["o"]⟩, some "json:\"A,o\""⟩]⟩ := by
    cbv
  have htagsReturn : TagSet.parseLiteral "\x60json:\"A,o\r\"\x60" =
      .ok ⟨[⟨"json", ⟨"A", ["o\r"]⟩, some "json:\"A,o\r\""⟩]⟩ := by
    cbv
  have hrepeats : RepeatsName (fieldOf "A" "\x60json:\"A,o\"\x60") _ _ _ _ :=
    ⟨rfl, htext, hvalue, by decide, by rw [hname]; rfl, htags⟩
  have hreport := Checker.mem_run (mem_visit_fileOf _ _) (hrepeats.mem_reportsOn _)
  have hmem := List.mem_map_of_mem (f := Diagnostic.ruleId) hreport
  -- both literals are tags as they stand
  have hreading : SameReading (fieldOf "A" "\x60json:\"A,o\"\x60")
      (fieldOf "A" "\x60json:\"A,o\r\"\x60") := by
    rintro _ _ _ _ ⟨⟩ ⟨⟩ - - - -
    exact iff_of_true ((exists_parseLiteral_iff htext hvalue).1 ⟨_, htags⟩)
      ((exists_parseLiteral_iff hreturn hvalue).1 ⟨_, htagsReturn⟩)
  have hvisits : List.Forall₂ (fun x y => x.2.Respelled y.2)
      (Package.visit ⟨none, [fileOf "A" "\x60json:\"A,o\"\x60"]⟩)
      (Package.visit ⟨none, [fileOf "A" "\x60json:\"A,o\r\"\x60"]⟩) := by
    rw [visit_fileOf, visit_fileOf]
    exact .cons ⟨rfl, rfl, by simp [Field.tagText?, fieldOf, htext, hreturn]⟩ .nil
  have hsame := (ruleIds_respelled .json hvisits).1 fun _ => by
    rw [visit_fileOf, visit_fileOf]
    exact .cons hreading .nil
  refine ⟨⟨hmem, hsame ▸ hmem⟩, (ruleIds_respelled .json ?_).2.2⟩
  rw [visit_fileOf, visit_fileOf]
  exact .cons ⟨rfl, rfl, by simp [Field.tagText?, fieldOf, htext, hdouble]⟩ .nil

/-- The same text does not always give the same reports: between double quotes a repeated name is
not seen. -/
theorem ruleIds_double_quoted :
    ¬ ∀ (dialect : Dialect) (file : SourceFile) (field : Field) (tag₁ tag₂ : TagLiteral)
      (text : String), unquote tag₁.literal = .ok text → unquote tag₂.literal = .ok text →
      ruleIds (dialect.checker.reportsOn file { field with tag := some tag₁ }) =
        ruleIds (dialect.checker.reportsOn file { field with tag := some tag₂ }) := by
  intro hall
  have htext : unquote "\x60json:\"A\"\x60" = .ok "json:\"A\"" := by
    cbv
  have hdouble : unquote "\"json:\\\"A\\\"\"" = .ok "json:\"A\"" := by
    cbv
  have hvalue : Tag.lookup "json:\"A\"" key = some "A" := by
    cbv
  have hname : (Value.ofText "A").name = "A" := by
    cbv
  have htags : TagSet.parseLiteral "\x60json:\"A\"\x60" =
      .ok ⟨[⟨"json", ⟨"A", []⟩, some "json:\"A\""⟩]⟩ := by
    cbv
  have hsame := hall .json (fileOf "A" "") (fieldOf "A" "") ⟨_, {}⟩ ⟨_, {}⟩ _ htext hdouble
  have hfields : Field.Respelled (fieldOf "A" "\x60json:\"A\"\x60")
      (fieldOf "A" "\"json:\\\"A\\\"\"") :=
    ⟨rfl, rfl, by simp [Field.tagText?, fieldOf, htext, hdouble]⟩
  have hiff := (ruleIds_reportsOn_eq_iff hfields).1 hsame _ _ _ "A" rfl rfl htext hvalue (by decide)
    (by rw [hname]; rfl)
  obtain ⟨body, hbody, -⟩ := hiff.1 ((exists_parseLiteral_iff htext hvalue).1 ⟨_, htags⟩)
  cases hbody

end Instances

end StructTags
