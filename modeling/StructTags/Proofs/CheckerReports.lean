import Mathlib
import StructTags.Rule.Linter

/-!
# What is reported

A run of a checker visits one field after the other, and each visit adds the reports on its field to
those collected before (`Checker.visit_eq`). So a run gives the reports on one field after the other
(`Checker.run_eq_flatMap`), and what holds of the reports on a field holds of a run, and then of a
linter (`Linter.mem_lint`).

For the fixes only one rule counts. `JsonRules.reportsOn_cases` says what is reported on a field
under the key `json`: reports without suggestions, and possibly one last report that the name
repeats the field's, with its suggestion. No other checker suggests anything
(`Dialect.plain_of_ne_json`).
-/

namespace StructTags

theorem Package.visit_eq_flatMap (p : Package) :
    p.visit = p.files.flatMap fun file => (visitStructs file.structs).map (file, ·) := by
  simp only [visit, entered, visitStructs, List.flatMap_assoc, List.flatMap_map, List.map_flatMap]

namespace Checker

/-- The reports on a single field. -/
def reportsOn (c : Checker) (file : SourceFile) (field : Field) : List Diagnostic :=
  (encounter? c.key file field).toList.flatMap c.report

/-- A visit keeps what was collected and adds the reports on the field. -/
theorem visit_eq (c : Checker) (file : SourceFile) (collected : List Diagnostic) (field : Field) :
    c.visit file collected field = collected ++ c.reportsOn file field := by
  unfold visit reportsOn
  cases encounter? c.key file field with
  | none => rw [Option.toList_none, List.flatMap_nil, List.append_nil]
  | some e => rw [Option.toList_some, List.flatMap_singleton]

theorem enter_eq (c : Checker) (file : SourceFile) (collected : List Diagnostic) (s : Struct) :
    c.enter file collected s = collected ++ s.fields.flatMap (c.reportsOn file) := by
  rw [enter, funext₂ (c.visit_eq file), List.foldl_append_eq_append, List.flatMap_def]

theorem run_eq_flatMap (c : Checker) (p : Package) (before : List Diagnostic) :
    c.run p before = before ++ p.visit.flatMap fun x => c.reportsOn x.1 x.2 := by
  simp only [run, enter_eq, List.foldl_append_eq_append, ← List.flatMap_def, Package.visit,
    List.flatMap_assoc, List.flatMap_map]

/-- What a run reports is what is to be said about the encounters. -/
theorem run_eq_encounters (c : Checker) (p : Package) (before : List Diagnostic) :
    c.run p before = before ++ (p.encounters c.key).flatMap c.report := by
  rw [run_eq_flatMap, Package.encounters, List.filterMap_eq_flatMap_toList, List.flatMap_assoc]
  rfl

theorem mem_run {c : Checker} {p : Package} {file : SourceFile} {field : Field} {d : Diagnostic}
    (hvisit : (file, field) ∈ p.visit) (hd : d ∈ c.reportsOn file field) : d ∈ c.run p := by
  rw [run_eq_flatMap, List.nil_append]
  exact List.mem_flatMap.2 ⟨(file, field), hvisit, hd⟩

section ReportsOn

variable {c : Checker} {file : SourceFile} {field : Field} {tag : TagLiteral}

theorem reportsOn_untagged (htag : field.tag = none) : c.reportsOn file field = [] := by
  simp [reportsOn, encounter?, htag]

theorem reportsOn_invalid {fault : Literal.Fault} (htag : field.tag = some tag)
    (htext : unquote tag.literal = .error fault) :
    c.reportsOn file field =
      [Site.tagDiagnostic ⟨file, field, tag⟩ invalidTag .error "invalid tag"] := by
  simp [reportsOn, encounter?, htag, htext, report]

theorem reportsOn_missing {text : String} (htag : field.tag = some tag)
    (htext : unquote tag.literal = .ok text) (hvalue : Tag.lookup text c.key = none) :
    c.reportsOn file field = [] := by
  simp [reportsOn, encounter?, htag, htext, hvalue]

/-- The reports on a field whose tag can be decoded and holds the key are those on its value. -/
theorem reportsOn_eq {text value : String} (htag : field.tag = some tag)
    (htext : unquote tag.literal = .ok text) (hvalue : Tag.lookup text c.key = some value) :
    c.reportsOn file field = c.check ⟨file, field, tag⟩ value := by
  simp [reportsOn, encounter?, htag, htext, hvalue, report]

/-- Each report on a field is about its tag: that it cannot be decoded, or about a value. -/
theorem mem_reportsOn {d : Diagnostic} (h : d ∈ c.reportsOn file field) :
    ∃ tag, field.tag = some tag ∧
      (d = Site.tagDiagnostic ⟨file, field, tag⟩ invalidTag .error "invalid tag" ∨
        ∃ text value, unquote tag.literal = .ok text ∧ Tag.lookup text c.key = some value ∧
          d ∈ c.check ⟨file, field, tag⟩ value) := by
  cases htag : field.tag with
  | none =>
    rw [reportsOn_untagged htag] at h
    cases h
  | some tag =>
    refine ⟨tag, rfl, ?_⟩
    cases htext : unquote tag.literal with
    | error fault =>
      rw [reportsOn_invalid htag htext] at h
      exact .inl (List.mem_singleton.1 h)
    | ok text =>
      cases hvalue : Tag.lookup text c.key with
      | none =>
        rw [reportsOn_missing htag htext hvalue] at h
        cases h
      | some value =>
        rw [reportsOn_eq htag htext hvalue] at h
        exact .inr ⟨text, value, rfl, hvalue, h⟩

end ReportsOn

end Checker

namespace JsonRules

/-- The report that a tag's name repeats the field's, with the rest of the tag as suggestion. -/
def sameNameReport (site : Site) (tags : TagSet) : Diagnostic :=
  { site.tagDiagnostic sameTagName .warning "same json tag name" with
    suggestions :=
      [{ message := (withoutName tags).2
         replacement := (withoutName tags).1.literal
         location := site.tagLocation
         applicability := .always }] }

/-- When a field's tag merely repeats its name: the value under `json` is no skip marker and has
the field's name, and the whole tag can be read from its literal. -/
structure RepeatsName (field : Field) (tag : TagLiteral) (text value : String) (tags : TagSet) :
    Prop where
  tag_eq : field.tag = some tag
  text_eq : unquote tag.literal = .ok text
  value_eq : Tag.lookup text key = some value
  not_skip : value ≠ "-"
  name_eq : field.name = some (Tag.Value.ofText value).name
  tags_eq : TagSet.parseLiteral tag.literal = .ok tags

/-- A report that suggests nothing and is not about a repeated name. -/
def Plain (d : Diagnostic) : Prop :=
  d.ruleId ≠ sameTagName ∧ d.suggestions = []

theorem plain_tagDiagnostic {site : Site} {rule message : String} {severity : Severity}
    (h : rule ≠ sameTagName) : Plain (site.tagDiagnostic rule severity message) :=
  ⟨h, rfl⟩

theorem plain_of_mem_ite {c : Prop} [Decidable c] {r d : Diagnostic} (hr : Plain r)
    (hd : d ∈ if c then [r] else []) : Plain d := by
  split at hd
  · rwa [List.mem_singleton.1 hd]
  · simp at hd

theorem plain_checkName {site : Site} {value : Tag.Value} :
    ∀ d ∈ checkName site value, Plain d := by
  intro d hd
  rw [checkName, ← ite_not] at hd
  exact plain_of_mem_ite (plain_tagDiagnostic (by decide)) hd

theorem plain_checkString {site : Site} {value : Tag.Value} :
    ∀ d ∈ checkString site value, Plain d :=
  fun _ hd => plain_of_mem_ite (plain_tagDiagnostic (by decide)) hd

theorem checker_key : checker.key = key := by
  rfl

theorem checker_check : checker.check = check := by
  rfl

/-- A value that is no skip marker is checked as the name and options it is split into. -/
theorem check_of_ne_skip {site : Site} {value : String} (h : value ≠ "-") :
    check site value = checkName site (.ofText value) ++ checkString site (.ofText value) ++
      checkSameName site (.ofText value) := by
  rw [check, Tag.Usage.ofText, if_neg h]

theorem check_skip (site : Site) : check site "-" = [] := by
  rfl

theorem RepeatsName.checkSameName {file : SourceFile} {field : Field} {tag : TagLiteral}
    {text value : String} {tags : TagSet} (h : RepeatsName field tag text value tags) :
    checkSameName ⟨file, field, tag⟩ (.ofText value) =
      [sameNameReport ⟨file, field, tag⟩ tags] := by
  rw [JsonRules.checkSameName, if_pos h.name_eq, h.tags_eq]
  rfl

/-- The last report on a field that repeats its name says so. -/
theorem RepeatsName.reportsOn {file : SourceFile} {field : Field} {tag : TagLiteral}
    {text value : String} {tags : TagSet} (h : RepeatsName field tag text value tags) :
    checker.reportsOn file field =
      checkName ⟨file, field, tag⟩ (.ofText value) ++
        checkString ⟨file, field, tag⟩ (.ofText value) ++
        [sameNameReport ⟨file, field, tag⟩ tags] := by
  have hvalue := h.value_eq
  rw [← checker_key] at hvalue
  rw [Checker.reportsOn_eq h.tag_eq h.text_eq hvalue, checker_check, check_of_ne_skip h.not_skip,
    h.checkSameName]

theorem RepeatsName.mem_reportsOn {field : Field} {tag : TagLiteral} {text value : String}
    {tags : TagSet} (h : RepeatsName field tag text value tags) (file : SourceFile) :
    sameNameReport ⟨file, field, tag⟩ tags ∈ checker.reportsOn file field := by
  simp [h.reportsOn]

/-- Where the report of a repeated name comes from. -/
theorem repeatsName_of_mem_checkSameName {file : SourceFile} {field : Field} {tag : TagLiteral}
    {text value : String} {d : Diagnostic} (htag : field.tag = some tag)
    (htext : unquote tag.literal = .ok text) (hvalue : Tag.lookup text key = some value)
    (hskip : value ≠ "-") (h : d ∈ checkSameName ⟨file, field, tag⟩ (.ofText value)) :
    ∃ tags, RepeatsName field tag text value tags := by
  unfold JsonRules.checkSameName at h
  split at h
  · next hname =>
    cases htags : TagSet.parseLiteral tag.literal with
    | error part => simp [htags] at h
    | ok tags => exact ⟨tags, htag, htext, hvalue, hskip, hname, htags⟩
  · simp at h

/-- What is reported on a field: plain reports, and behind them the report of a repeated name
exactly if the field repeats its name. -/
theorem reportsOn_cases (file : SourceFile) (field : Field) :
    ((∀ d ∈ checker.reportsOn file field, Plain d) ∧
        ¬ ∃ tag text value tags, RepeatsName field tag text value tags) ∨
      ∃ before tag text value tags, RepeatsName field tag text value tags ∧
        (∀ d ∈ before, Plain d) ∧
        checker.reportsOn file field = before ++ [sameNameReport ⟨file, field, tag⟩ tags] := by
  by_cases hrepeats : ∃ tag text value tags, RepeatsName field tag text value tags
  · obtain ⟨tag, text, value, tags, h⟩ := hrepeats
    refine .inr ⟨_, tag, text, value, tags, h, ?_, h.reportsOn⟩
    intro d hd
    rcases List.mem_append.1 hd with hd | hd
    · exact plain_checkName d hd
    · exact plain_checkString d hd
  · refine .inl ⟨?_, hrepeats⟩
    intro d hd
    obtain ⟨tag, htag, rfl | ⟨text, value, htext, hvalue, hd⟩⟩ := Checker.mem_reportsOn hd
    · exact plain_tagDiagnostic (by decide)
    · rw [checker_key] at hvalue
      rw [checker_check] at hd
      by_cases hskip : value = "-"
      · rw [hskip, check_skip] at hd
        simp at hd
      rw [check_of_ne_skip hskip, List.mem_append, List.mem_append] at hd
      rcases hd with (hd | hd) | hd
      · exact plain_checkName d hd
      · exact plain_checkString d hd
      · obtain ⟨tags, h⟩ := repeatsName_of_mem_checkSameName htag htext hvalue hskip hd
        exact absurd ⟨tag, text, value, tags, h⟩ hrepeats

/-- A report on a field is plain, or it is the report that the field repeats its name. -/
theorem plain_or_sameNameReport {file : SourceFile} {field : Field} {d : Diagnostic}
    (h : d ∈ checker.reportsOn file field) :
    Plain d ∨ ∃ tag text value tags, RepeatsName field tag text value tags ∧
      d = sameNameReport ⟨file, field, tag⟩ tags := by
  rcases reportsOn_cases file field with
    ⟨hplain, -⟩ | ⟨before, tag, text, value, tags, hr, hplain, heq⟩
  · exact .inl (hplain d h)
  · rw [heq, List.mem_append, List.mem_singleton] at h
    rcases h with h | h
    · exact .inl (hplain d h)
    · exact .inr ⟨tag, text, value, tags, hr, h⟩

theorem exists_repeatsName_of_ruleId {file : SourceFile} {field : Field} {d : Diagnostic}
    (h : d ∈ checker.reportsOn file field) (hrule : d.ruleId = sameTagName) :
    ∃ tag text value tags, RepeatsName field tag text value tags ∧
      d = sameNameReport ⟨file, field, tag⟩ tags :=
  (plain_or_sameNameReport h).resolve_left fun hplain => hplain.1 hrule

end JsonRules

/-! ## The other dialects -/

open JsonRules

theorem BsonRules.plain_check (site : Site) (text : String) :
    ∀ d ∈ BsonRules.check site text, Plain d := by
  intro d hd
  unfold BsonRules.check at hd
  split at hd
  · simp at hd
  · simp only [List.mem_append] at hd
    rcases hd with ((hd | hd) | hd) | hd
    · rw [checkOptions, ← ite_not] at hd
      exact plain_of_mem_ite (plain_tagDiagnostic (by decide)) hd
    · exact plain_of_mem_ite (plain_tagDiagnostic (by decide)) hd
    · exact plain_of_mem_ite (plain_tagDiagnostic (by decide)) hd
    · exact plain_of_mem_ite (plain_tagDiagnostic (by decide)) hd

theorem BindingRules.plain_check (site : Site) (text : String) :
    ∀ d ∈ BindingRules.check site text, Plain d := by
  intro d hd
  unfold BindingRules.check at hd
  split at hd
  · simp at hd
  · split at hd
    · simp at hd
    · split at hd
      · have hrule : existsNonPointer ≠ sameTagName := by decide
        exact plain_of_mem_ite ⟨hrule, rfl⟩ hd
      · simp at hd

theorem Dialect.plain_of_ne_json {dialect : Dialect} (hne : dialect ≠ .json) {file : SourceFile}
    {field : Field} : ∀ d ∈ dialect.checker.reportsOn file field, Plain d := by
  have hcheck : ∀ site text, ∀ d ∈ dialect.checker.check site text, Plain d := by
    cases dialect with
    | json => exact absurd rfl hne
    | bson => exact BsonRules.plain_check
    | binding => exact BindingRules.plain_check
  intro d hd
  obtain ⟨tag, -, rfl | ⟨text, value, -, -, hd⟩⟩ := Checker.mem_reportsOn hd
  · exact plain_tagDiagnostic (by decide)
  · exact hcheck _ _ d hd

/-! ## Linters -/

namespace Dialect

theorem rank_inj {a b : Dialect} : a.rank = b.rank ↔ a = b := by
  cases a <;> cases b <;> decide

theorem mem_squeeze {dialect : Dialect} {ds : List Dialect} :
    dialect ∈ squeeze ds ↔ dialect ∈ ds := by
  fun_induction squeeze ds with
  | case1 a rest ih => simp [ih]
  | case2 a b rest _ ih => rw [List.mem_cons, ih, ← List.mem_cons]
  | case3 => rfl

/-- Equal dialects follow each other in a sorted list, so that only one of them is left. -/
theorem pairwise_squeeze {ds : List Dialect} (h : ds.Pairwise fun a b => a.rank ≤ b.rank) :
    (squeeze ds).Pairwise fun a b => a.rank < b.rank := by
  fun_induction squeeze ds with
  | case1 a rest ih => exact ih (List.pairwise_cons.1 h).2
  | case2 a b rest hne ih =>
    obtain ⟨ha, hrest⟩ := List.pairwise_cons.1 h
    refine List.pairwise_cons.2 ⟨?_, ih hrest⟩
    intro x hx
    have hab : a.rank < b.rank :=
      Nat.lt_of_le_of_ne (ha b List.mem_cons_self) (mt rank_inj.1 hne)
    rcases List.mem_cons.1 (mem_squeeze.1 hx) with rfl | hx
    · exact hab
    · exact hab.trans_le ((List.pairwise_cons.1 hrest).1 x hx)
  | case3 ds hshort =>
    rcases ds with _ | ⟨a, _ | ⟨b, rest⟩⟩
    · exact .nil
    · exact List.pairwise_singleton _ a
    · exact absurd rfl (hshort a b rest)

theorem mem_normalize {dialect : Dialect} {ds : List Dialect} :
    dialect ∈ normalize ds ↔ dialect ∈ ds := by
  rw [normalize, mem_squeeze, List.mem_mergeSort]

theorem pairwise_normalize (ds : List Dialect) :
    (normalize ds).Pairwise fun a b => a.rank < b.rank := by
  have hsorted : (ds.mergeSort fun a b => a.rank ≤ b.rank).Pairwise fun a b =>
      decide (a.rank ≤ b.rank) = true := by
    apply List.pairwise_mergeSort
    · intro a b c hab hbc
      rw [decide_eq_true_eq] at hab hbc ⊢
      exact hab.trans hbc
    · intro a b
      simpa using Nat.le_total a.rank b.rank
  exact pairwise_squeeze (hsorted.imp of_decide_eq_true)

theorem nodup_normalize (ds : List Dialect) : (normalize ds).Nodup :=
  (pairwise_normalize ds).imp fun hlt heq => (heq ▸ hlt).false

/-- Sorting and dropping repeats picks the given ones out of all dialects. -/
theorem normalize_eq_filter (ds : List Dialect) : normalize ds = all.filter (ds.contains ·) := by
  have hall : all.Pairwise fun a b => a.rank < b.rank := by decide
  have hirrefl : Std.Irrefl fun a b : Dialect => a.rank < b.rank := ⟨fun a => lt_irrefl a.rank⟩
  have hasymm : Std.Antisymm fun a b : Dialect => a.rank < b.rank :=
    ⟨fun _ _ hab hba => absurd hab hba.asymm⟩
  -- both lists ascend, so it is enough that they have the same members
  refine (pairwise_normalize ds).eq_of_mem_iff (hall.filter (ds.contains ·)) ?_
  intro dialect
  have hmem : dialect ∈ all := by cases dialect <;> decide
  simp [mem_normalize, hmem]

end Dialect

namespace Linter

/-- The linters there are: the default one, those of a configuration, and restrictions of these. -/
inductive Built : Linter → Prop
  | default : Built {}
  | ofConfig (c : Config) : Built (ofConfig c)
  | withDialects {l : Linter} (h : Built l) (ds : List Dialect) : Built (l.withDialects ds)

/-- A linter runs no dialect twice. -/
theorem Built.dialects_sublist {l : Linter} (h : l.Built) : l.dialects.Sublist Dialect.all := by
  cases h with
  | default => exact List.Sublist.refl _
  | ofConfig c =>
    unfold Linter.ofConfig Config.enabledDialects
    split
    · rw [Dialect.normalize_eq_filter]
      exact List.filter_sublist
    · exact List.Sublist.refl _
  | withDialects _ ds =>
    rw [Linter.withDialects, Dialect.normalize_eq_filter]
    exact List.filter_sublist

theorem dropRepeats_sublist (seen : List Location) (ds : List Diagnostic) :
    (dropRepeats seen ds).Sublist ds := by
  induction ds generalizing seen with
  | nil => exact List.Sublist.refl _
  | cons d rest ih =>
    unfold dropRepeats
    split
    · exact (ih seen).cons_cons d
    · split
      · exact (ih seen).cons d
      · exact (ih _).cons_cons d

/-- Settings change the severity of a report at most. -/
theorem eq_of_adjust? {l : Linter} {d d' : Diagnostic} (h : l.adjust? d = some d') :
    ∃ severity, d' = { d with severity } := by
  unfold adjust? at h
  split at h
  · exact ⟨d.severity, (Option.some.inj h).symm⟩
  · obtain ⟨severity, -, rfl⟩ := Option.map_eq_some_iff.1 h
    exact ⟨severity, rfl⟩

/-- Each report of a linter is one of a dialect on a field, except for its severity. -/
theorem mem_lint {l : Linter} {p : Package} {d : Diagnostic} (h : d ∈ l.lint p) :
    ∃ dialect ∈ l.dialects, ∃ file field, (file, field) ∈ p.visit ∧
      ∃ d' ∈ dialect.checker.reportsOn file field, ∃ severity, d = { d' with severity } := by
  unfold lint at h
  split at h
  · rw [Diagnostics.sortByLocation, List.mem_mergeSort] at h
    obtain ⟨d', hd', hadjust⟩ := List.mem_filterMap.1 h
    obtain ⟨dialect, hdialect, hrun⟩ :=
      List.mem_flatMap.1 ((dropRepeats_sublist [] _).subset hd')
    rw [Checker.run_eq_flatMap, List.nil_append] at hrun
    obtain ⟨⟨file, field⟩, hvisit, hreport⟩ := List.mem_flatMap.1 hrun
    exact ⟨dialect, hdialect, file, field, hvisit, d', hreport, eq_of_adjust? hadjust⟩
  · simp at h

/-- A report of a linter is plain, or it is the report that a field repeats its name. -/
theorem plain_or_sameNameReport {l : Linter} {p : Package} {d : Diagnostic} (h : d ∈ l.lint p) :
    Plain d ∨ ∃ file field tag text value tags severity, (file, field) ∈ p.visit ∧
      RepeatsName field tag text value tags ∧
      d = { sameNameReport ⟨file, field, tag⟩ tags with severity } := by
  obtain ⟨dialect, -, file, field, hvisit, d', hd', severity, rfl⟩ := mem_lint h
  by_cases hjson : dialect = .json
  · subst hjson
    rcases JsonRules.plain_or_sameNameReport hd' with
      hplain | ⟨tag, text, value, tags, hrepeats, rfl⟩
    · exact .inl hplain
    · exact .inr ⟨file, field, tag, text, value, tags, severity, hvisit, hrepeats, rfl⟩
  · exact .inl (Dialect.plain_of_ne_json hjson d' hd')

end Linter

end StructTags
