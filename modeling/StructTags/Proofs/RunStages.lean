import StructTags.Proofs.CheckerReports
import StructTags.Proofs.PlaceOrder

/-!
# The stages of a run

A run collects the reports of its dialects, drops repeated reports of tags that cannot be decoded,
applies the settings and sorts what is left.

* A dialect reports under its own rules, with the severities of the table, and at the tag or the
  type of a field (`Dialect.reports_of_mem_check`).
* Dropping repeats only looks at positions, so it can be done for some positions or some rules alone
  (`Linter.filter_dropRepeats`).
* Settings keep the places of reports, so they can as well be applied at the end
  (`Linter.lint_eq_filterMap`).
-/

namespace StructTags

/-! ## What a dialect reports -/

theorem Rule.ofId?_of_mem : ∀ r ∈ Rule.table, Rule.ofId? r.id = some r := by
  decide

theorem Rule.mem_of_ofId? {id : String} {r : Rule} (h : Rule.ofId? id = some r) :
    r ∈ Rule.table ∧ r.id = id :=
  ⟨List.mem_of_find?_eq_some h, by simpa using List.find?_some h⟩

namespace Dialect

/-- The table has a rule of the dialect with this id and severity. -/
def HasRule (dialect : Dialect) (id : String) (severity : Severity) : Prop :=
  ∃ r ∈ Rule.table, r.id = id ∧ r.dialect = some dialect ∧ r.severity = severity

instance (dialect : Dialect) (id : String) (severity : Severity) :
    Decidable (dialect.HasRule id severity) :=
  inferInstanceAs (Decidable (∃ r ∈ Rule.table, _))

/-- A report about a field under a rule of the dialect, as the table has it. -/
structure Reports (dialect : Dialect) (site : Site) (d : Diagnostic) : Prop where
  listed : dialect.HasRule d.ruleId d.severity
  placed : d.location = site.tagLocation ∨ d.location = site.typeLocation

theorem Reports.of_mem_ite {dialect : Dialect} {site : Site} {c : Prop} [Decidable c]
    {r d : Diagnostic} (hd : d ∈ if c then [r] else [])
    (hlisted : dialect.HasRule r.ruleId r.severity)
    (hplaced : r.location = site.tagLocation ∨ r.location = site.typeLocation) :
    dialect.Reports site d := by
  rw [List.mem_ite_nil_right, List.mem_singleton] at hd
  rw [hd.2]
  exact ⟨hlisted, hplaced⟩

end Dialect

section Checks

open Dialect

variable {site : Site} {text : String} {d : Diagnostic}

theorem JsonRules.reports_of_mem_check (h : d ∈ JsonRules.check site text) :
    Dialect.json.Reports site d := by
  by_cases hskip : text = "-"
  · rw [hskip, check_skip] at h
    simp at h
  · rw [check_of_ne_skip hskip, List.mem_append, List.mem_append] at h
    rcases h with (h | h) | h
    · rw [checkName, ← ite_not] at h
      exact .of_mem_ite h (show HasRule .json invalidName .error by decide) (.inl rfl)
    · exact .of_mem_ite h (show HasRule .json stringNonScalar .error by decide) (.inl rfl)
    · unfold checkSameName at h
      split at h
      · split at h
        · simp at h
        · rw [List.mem_singleton.1 h]
          exact ⟨show HasRule .json sameTagName .warning by decide, .inl rfl⟩
      · simp at h

theorem BsonRules.reports_of_mem_check (h : d ∈ BsonRules.check site text) :
    Dialect.bson.Reports site d := by
  unfold BsonRules.check at h
  split at h
  · simp at h
  · simp only [List.mem_append] at h
    rcases h with ((h | h) | h) | h
    · rw [checkOptions, ← ite_not] at h
      exact .of_mem_ite h (show HasRule .bson invalidOptions .error by decide) (.inl rfl)
    · exact .of_mem_ite h (show HasRule .bson sameTagName .warning by decide) (.inl rfl)
    · exact .of_mem_ite h (show HasRule .bson inlineShape .error by decide) (.inl rfl)
    · exact .of_mem_ite h (show HasRule .bson minsizeShape .error by decide) (.inl rfl)

theorem BindingRules.reports_of_mem_check (h : d ∈ BindingRules.check site text) :
    Dialect.binding.Reports site d := by
  unfold BindingRules.check at h
  split at h
  · simp at h
  · split at h
    · simp at h
    · split at h
      · exact .of_mem_ite h (show HasRule .binding existsNonPointer .error by decide) (.inr rfl)
      · simp at h

/-- What a dialect reports about a value is under its own rules, with their severities, and stands
at the tag or at the type. -/
theorem Dialect.reports_of_mem_check (dialect : Dialect)
    (h : d ∈ dialect.checker.check site text) : dialect.Reports site d := by
  cases dialect with
  | json => exact JsonRules.reports_of_mem_check h
  | bson => exact BsonRules.reports_of_mem_check h
  | binding => exact @BindingRules.reports_of_mem_check site text d h

end Checks

/-- A report on a field is that its tag cannot be decoded, or it is under a rule of the dialect. -/
theorem Dialect.invalidTag_or_reports (dialect : Dialect) {file : SourceFile} {field : Field}
    {d : Diagnostic} (h : d ∈ dialect.checker.reportsOn file field) :
    (d.ruleId = Checker.invalidTag ∧ d.severity = .error) ∨
      ∃ tag, dialect.Reports ⟨file, field, tag⟩ d := by
  obtain ⟨tag, -, rfl | ⟨text, value, -, -, hd⟩⟩ := Checker.mem_reportsOn h
  · exact .inl ⟨rfl, rfl⟩
  · exact .inr ⟨tag, dialect.reports_of_mem_check hd⟩

namespace Linter

/-! ## Repeated reports -/

section Repeats

open Checker (invalidTag)

variable {d : Diagnostic} {seen : List Location}

theorem dropRepeats_cons_other (h : d.ruleId ≠ invalidTag) (rest : List Diagnostic) :
    dropRepeats seen (d :: rest) = d :: dropRepeats seen rest := by
  rw [dropRepeats, if_pos h]

theorem dropRepeats_cons_seen (h : d.ruleId = invalidTag)
    (hseen : seen.any d.location.samePosition = true) (rest : List Diagnostic) :
    dropRepeats seen (d :: rest) = dropRepeats seen rest := by
  rw [dropRepeats, if_neg (not_not_intro h), if_pos hseen]

theorem dropRepeats_cons_new (h : d.ruleId = invalidTag)
    (hseen : ¬ seen.any d.location.samePosition = true) (rest : List Diagnostic) :
    dropRepeats seen (d :: rest) = d :: dropRepeats (d.location :: seen) rest := by
  rw [dropRepeats, if_neg (not_not_intro h), if_neg hseen]

/-- Repeats can be dropped from a part of the reports alone, provided that reports of one position
are all in the part or all out of it. What was seen before matters only for the part. -/
theorem filter_dropRepeats {keep : Diagnostic → Bool}
    (hkeep : ∀ d d' : Diagnostic, d.ruleId = invalidTag → d'.ruleId = invalidTag →
      d.location.samePosition d'.location = true → keep d = keep d')
    (ds : List Diagnostic) {seen seen' : List Location}
    (hseen : ∀ d : Diagnostic, keep d = true → d.ruleId = invalidTag →
      seen.any d.location.samePosition = seen'.any d.location.samePosition) :
    (dropRepeats seen ds).filter keep = dropRepeats seen' (ds.filter keep) := by
  induction ds generalizing seen seen' with
  | nil => rfl
  | cons d rest ih =>
    by_cases hinvalid : d.ruleId = invalidTag
    swap
    · rw [dropRepeats_cons_other hinvalid]
      by_cases hd : keep d = true
      · rw [List.filter_cons_of_pos hd, List.filter_cons_of_pos hd, dropRepeats_cons_other hinvalid,
          ih hseen]
      · rw [List.filter_cons_of_neg hd, List.filter_cons_of_neg hd, ih hseen]
    by_cases hd : keep d = true
    · rw [List.filter_cons_of_pos hd]
      by_cases hbefore : seen.any d.location.samePosition = true
      · have hbefore' := hseen d hd hinvalid ▸ hbefore
        rw [dropRepeats_cons_seen hinvalid hbefore, dropRepeats_cons_seen hinvalid hbefore',
          ih hseen]
      · have hbefore' := hseen d hd hinvalid ▸ hbefore
        rw [dropRepeats_cons_new hinvalid hbefore, dropRepeats_cons_new hinvalid hbefore',
          List.filter_cons_of_pos hd, ih]
        intro d' hd' hinvalid'
        rw [List.any_cons, List.any_cons, hseen d' hd' hinvalid']
    · rw [List.filter_cons_of_neg hd]
      by_cases hbefore : seen.any d.location.samePosition = true
      · rw [dropRepeats_cons_seen hinvalid hbefore, ih hseen]
      · rw [dropRepeats_cons_new hinvalid hbefore, List.filter_cons_of_neg hd, ih]
        -- the position of `d` is of no account for the part
        intro d' hd' hinvalid'
        have hother : d'.location.samePosition d.location = false := by
          by_contra hsame
          rw [Bool.not_eq_false] at hsame
          exact hd (hkeep d' d hinvalid' hinvalid hsame ▸ hd')
        rw [List.any_cons, hother, Bool.false_or, hseen d' hd' hinvalid']

/-- Reports of positions that were all seen are dropped. -/
theorem dropRepeats_eq_nil {ds : List Diagnostic}
    (h : ∀ d ∈ ds, d.ruleId = invalidTag ∧ seen.any d.location.samePosition = true) :
    dropRepeats seen ds = [] := by
  induction ds with
  | nil => rfl
  | cons d rest ih =>
    obtain ⟨⟨hinvalid, hseen⟩, hrest⟩ := List.forall_mem_cons.1 h
    rw [dropRepeats_cons_seen hinvalid hseen, ih hrest]

/-- After a report of a tag that cannot be decoded its position has been seen, whether the report
was kept or dropped. -/
theorem exists_dropRepeats_cons (h : d.ruleId = invalidTag) (seen : List Location) :
    ∃ kept seen', (∀ rest, dropRepeats seen (d :: rest) = kept ++ dropRepeats seen' rest) ∧
      ∀ place : Location,
        place.samePosition d.location = true ∨ seen.any place.samePosition = true →
          seen'.any place.samePosition = true := by
  by_cases hseen : seen.any d.location.samePosition = true
  · refine ⟨[], seen, dropRepeats_cons_seen h hseen, ?_⟩
    rintro place (hsame | hplace)
    · have heq : place.samePosition = d.location.samePosition :=
        funext (Location.samePosition_congr hsame)
      rwa [heq]
    · exact hplace
  · refine ⟨[d], d.location :: seen, dropRepeats_cons_new h hseen, ?_⟩
    intro place hplace
    rwa [List.any_cons, Bool.or_eq_true]

/-- Reports behind others for the same positions are dropped. -/
theorem dropRepeats_append {ds ds' : List Diagnostic} (hds : ∀ d ∈ ds, d.ruleId = invalidTag)
    (h : ∀ d' ∈ ds', d'.ruleId = invalidTag ∧ (seen.any d'.location.samePosition = true ∨
      ∃ d ∈ ds, d'.location.samePosition d.location = true)) :
    dropRepeats seen (ds ++ ds') = dropRepeats seen ds := by
  induction ds generalizing seen with
  | nil => exact dropRepeats_eq_nil fun d' hd' => ⟨(h d' hd').1, by simpa using (h d' hd').2⟩
  | cons d rest ih =>
    obtain ⟨hd, hrest⟩ := List.forall_mem_cons.1 hds
    obtain ⟨kept, seen', hcons, hseen'⟩ := exists_dropRepeats_cons hd seen
    rw [List.cons_append, hcons, hcons, ih hrest]
    intro d' hd'
    refine (h d' hd').imp_right ?_
    rintro (hbefore | ⟨e, he, hsame⟩)
    · exact .inl (hseen' _ (.inr hbefore))
    rcases List.mem_cons.1 he with rfl | he
    · exact .inl (hseen' _ (.inl hsame))
    · exact .inr ⟨e, he, hsame⟩

end Repeats

/-! ## Settings -/

/-- The reports of a run in order, before settings are applied. -/
def unadjusted (l : Linter) (p : Package) : List Diagnostic :=
  Diagnostics.sortByLocation (dropRepeats [] (l.reports p))

theorem mem_reports {l : Linter} {p : Package} {d : Diagnostic} :
    d ∈ l.reports p ↔ ∃ dialect ∈ l.dialects, ∃ file field, (file, field) ∈ p.visit ∧
      d ∈ dialect.checker.reportsOn file field := by
  simp [reports, Checker.run_eq_flatMap]

theorem keepsPlace_adjust? (l : Linter) : Diagnostics.KeepsPlace l.adjust? := by
  intro d d' h
  obtain ⟨severity, rfl⟩ := eq_of_adjust? h
  rfl

/-- Settings can be applied when everything else is done. -/
theorem lint_eq_filterMap (l : Linter) (p : Package) :
    l.lint p = if l.enabled then (l.unadjusted p).filterMap l.adjust? else [] := by
  rw [lint, unadjusted, l.keepsPlace_adjust?.sortByLocation_filterMap]

theorem lint_of_no_settings (l : Linter) (p : Package) :
    lint { l with settings := [] } p = if l.enabled then l.unadjusted p else [] := by
  rw [lint_eq_filterMap]
  exact if_congr Iff.rfl List.filterMap_some rfl

end Linter

end StructTags
