import StructTags.Proofs.RuleSettings

/-!
# Dialects side by side

Dialects are run one after the other into one list. None of them has an influence on what another
one reports: restricted to the rules of one dialect, the result of a run is that of a run of this
dialect alone. The reports of tags that cannot be decoded belong to no dialect. Every dialect makes
them all, and dropping repeats leaves those of the first one.

All stages of a run commute with the restriction to some rules (`Linter.filter_lint`), so it is
enough to compare what the dialects report.
-/

namespace StructTags

open Checker (invalidTag)

namespace Dialect

/-- Whether a rule belongs to the dialect. -/
def owns (dialect : Dialect) (ruleId : String) : Bool :=
  (Rule.ofId? ruleId).any (·.dialect = some dialect)

theorem Reports.owns_iff {dialect other : Dialect} {site : Site} {d : Diagnostic}
    (h : dialect.Reports site d) : other.owns d.ruleId = true ↔ dialect = other := by
  obtain ⟨r, hr, hid, hdialect, -⟩ := h.listed
  rw [owns, ← hid, Rule.ofId?_of_mem r hr]
  simp [hdialect]

theorem owns_invalidTag (dialect : Dialect) : dialect.owns invalidTag = false := by
  cases dialect <;> decide

theorem Reports.ruleId_ne_invalidTag {dialect : Dialect} {site : Site} {d : Diagnostic}
    (h : dialect.Reports site d) : d.ruleId ≠ invalidTag := by
  intro heq
  have howns := h.owns_iff.2 rfl
  rw [heq, owns_invalidTag] at howns
  exact absurd howns (by simp)

theorem normalize_ne_nil {ds : List Dialect} (h : ds ≠ []) : normalize ds ≠ [] := by
  obtain ⟨dialect, hmem⟩ := List.exists_mem_of_ne_nil ds h
  exact List.ne_nil_of_mem (mem_normalize.2 hmem)

/-! ## What one dialect reports -/

/-- The report that the tag of a field cannot be decoded. -/
def undecodable (file : SourceFile) (field : Field) : List Diagnostic :=
  match field.tag with
  | none => []
  | some tag =>
    match unquote tag.literal with
    | .error _ => [Site.tagDiagnostic ⟨file, field, tag⟩ invalidTag .error "invalid tag"]
    | .ok _ => []

/-- Each dialect reports the tags that cannot be decoded. -/
theorem filter_invalidTag_reportsOn (dialect : Dialect) (file : SourceFile) (field : Field) :
    (dialect.checker.reportsOn file field).filter (·.ruleId = invalidTag) =
      undecodable file field := by
  unfold undecodable
  cases htag : field.tag with
  | none => rw [Checker.reportsOn_untagged htag, List.filter_nil]
  | some tag =>
    cases htext : unquote tag.literal with
    | error fault =>
      rw [Checker.reportsOn_invalid htag htext]
      simp only [htext]
      rfl
    | ok text =>
      simp only [htext]
      -- what is reported about a value is under a rule of the dialect
      cases hvalue : Tag.lookup text dialect.checker.key with
      | none => rw [Checker.reportsOn_missing htag htext hvalue, List.filter_nil]
      | some value =>
        rw [Checker.reportsOn_eq htag htext hvalue, List.filter_eq_nil_iff]
        intro d hd
        simpa using (dialect.reports_of_mem_check hd).ruleId_ne_invalidTag

theorem filter_owns_reportsOn {dialect other : Dialect} (hne : dialect ≠ other) (file : SourceFile)
    (field : Field) :
    (dialect.checker.reportsOn file field).filter (fun d => other.owns d.ruleId) = [] := by
  rw [List.filter_eq_nil_iff]
  intro d hd
  rcases dialect.invalidTag_or_reports hd with ⟨hid, -⟩ | ⟨tag, hreports⟩
  · simp [hid, owns_invalidTag]
  · exact fun howns => hne (hreports.owns_iff.1 howns)

end Dialect

namespace Linter

/-! ## Runs restricted to some rules -/

/-- The linters that were given a list of dialects to run: by a configuration, or afterwards. -/
inductive Given : Linter → List Dialect → Prop
  | configured {c : Config} {ds : List Dialect} (h : c.dialects = some ds) : Given (ofConfig c) ds
  | restricted (l : Linter) (ds : List Dialect) : Given (l.withDialects ds) ds

theorem Given.dialects_eq {l : Linter} {ds : List Dialect} (h : l.Given ds) :
    l.dialects = Dialect.normalize ds := by
  cases h with
  | configured h => rw [ofConfig, Config.enabledDialects, h]
  | restricted => rfl

variable {l : Linter}

theorem filter_reports (l : Linter) (p : Package) (keep : String → Bool) :
    (l.reports p).filter (fun d => keep d.ruleId) =
      l.dialects.flatMap fun dialect => p.visit.flatMap fun x =>
        (dialect.checker.reportsOn x.1 x.2).filter fun d => keep d.ruleId := by
  simp only [reports, Checker.run_eq_flatMap, List.nil_append, List.filter_flatMap]

/-- The reports under some rules come from the reports that the dialects make under these rules. -/
theorem filter_lint (l : Linter) (p : Package) (keep : String → Bool) :
    (l.lint p).filter (fun d => keep d.ruleId) =
      if l.enabled then
        (Diagnostics.sortByLocation
          (dropRepeats [] ((l.reports p).filter fun d => keep d.ruleId))).filterMap l.adjust?
      else [] := by
  have hadjust (ds : List Diagnostic) : (ds.filterMap l.adjust?).filter (fun d => keep d.ruleId) =
      (ds.filter fun d => keep d.ruleId).filterMap l.adjust? := by
    rw [List.filter_filterMap, List.filterMap_filter]
    refine List.filterMap_congr ?_
    intro d _
    cases hd : l.adjust? d with
    | none => simp
    | some d' =>
      obtain ⟨severity, rfl⟩ := eq_of_adjust? hd
      rfl
  have hrepeats : (dropRepeats [] (l.reports p)).filter (fun d => keep d.ruleId) =
      dropRepeats [] ((l.reports p).filter fun d => keep d.ruleId) := by
    refine filter_dropRepeats ?_ _ fun _ _ _ => rfl
    intro d d' hd hd' _
    rw [hd, hd']
  rw [lint_eq_filterMap, apply_ite (List.filter _), hadjust, unadjusted,
    ← Diagnostics.sortByLocation_filter, hrepeats, List.filter_nil]

theorem filter_lint_congr (keep : String → Bool) {l l' : Linter} {p : Package}
    (henabled : l.enabled = l'.enabled) (hsettings : l.settings = l'.settings)
    (h : dropRepeats [] ((l.reports p).filter fun d => keep d.ruleId) =
      dropRepeats [] ((l'.reports p).filter fun d => keep d.ruleId)) :
    (l.lint p).filter (fun d => keep d.ruleId) = (l'.lint p).filter fun d => keep d.ruleId := by
  have hadjust : l.adjust? = l'.adjust? := by
    funext d
    rw [adjust?, adjust?, hsettings]
  rw [filter_lint, filter_lint, henabled, h, hadjust]

/-- Restricted to the rules of a dialect that is run, the reports are those of the dialect. -/
theorem filter_owns_reports {ds : List Dialect} (hl : l.dialects = Dialect.normalize ds)
    (dialect : Dialect) (p : Package) :
    (l.reports p).filter (fun d => dialect.owns d.ruleId) =
      if dialect ∈ ds then
        p.visit.flatMap fun x =>
          (dialect.checker.reportsOn x.1 x.2).filter fun d => dialect.owns d.ruleId
      else [] := by
  have hother {others : List Dialect} (hothers : dialect ∉ others) :
      (others.flatMap fun other => p.visit.flatMap fun x =>
        (other.checker.reportsOn x.1 x.2).filter fun d => dialect.owns d.ruleId) = [] := by
    rw [List.flatMap_eq_nil_iff]
    intro other hmem
    rw [List.flatMap_eq_nil_iff]
    intro x _
    have hne : other ≠ dialect := fun heq => hothers (by rwa [← heq])
    exact Dialect.filter_owns_reportsOn hne x.1 x.2
  rw [filter_reports, hl]
  split
  · next hmem =>
    obtain ⟨before, after, hsplit⟩ := List.append_of_mem (Dialect.mem_normalize.2 hmem)
    have hnodup := Dialect.nodup_normalize ds
    rw [hsplit, List.nodup_middle, List.nodup_cons, List.mem_append, not_or] at hnodup
    rw [hsplit, List.flatMap_append, List.flatMap_cons, hother hnodup.1.1, hother hnodup.1.2,
      List.nil_append, List.append_nil]
  · next hmem => exact hother fun h => hmem (Dialect.mem_normalize.1 h)

/-- However many dialects are run, the tags that cannot be decoded are reported as if there were
one. -/
theorem dropRepeats_undecodable (hl : l.dialects ≠ []) (p : Package) :
    dropRepeats [] ((l.reports p).filter fun d => d.ruleId = invalidTag) =
      dropRepeats [] (p.visit.flatMap fun x => Dialect.undecodable x.1 x.2) := by
  have hreports : ((l.reports p).filter fun d => d.ruleId = invalidTag) =
      l.dialects.flatMap fun _ => p.visit.flatMap fun x => Dialect.undecodable x.1 x.2 := by
    rw [filter_reports l p fun id => id = invalidTag]
    simp only [Dialect.filter_invalidTag_reportsOn]
  have hinvalid : ∀ d ∈ p.visit.flatMap fun x => Dialect.undecodable x.1 x.2,
      d.ruleId = invalidTag := by
    intro d hd
    obtain ⟨x, -, hd⟩ := List.mem_flatMap.1 hd
    rw [← Dialect.filter_invalidTag_reportsOn .json, List.mem_filter] at hd
    simpa using hd.2
  obtain ⟨first, rest, hdialects⟩ := List.exists_cons_of_ne_nil hl
  rw [hreports, hdialects, List.flatMap_cons]
  refine dropRepeats_append hinvalid ?_
  intro d hd
  obtain ⟨-, -, hd⟩ := List.mem_flatMap.1 hd
  exact ⟨hinvalid d hd, .inr ⟨d, hd, Location.samePosition_refl _⟩⟩

/-- What a linter reports under the rules of a dialect is what the dialect alone would give, or
nothing if the dialect is not run. The tags reported as not decodable are the same for all lists of
dialects but the empty one. There are no other reports. -/
theorem lint_dialects_independent {ds : List Dialect} (hl : l.Given ds) (p : Package) :
    (∀ dialect : Dialect, (l.lint p).filter (fun d => dialect.owns d.ruleId) =
        if dialect ∈ ds then
          ((l.withDialects [dialect]).lint p).filter fun d => dialect.owns d.ruleId
        else []) ∧
      (ds ≠ [] → ∀ ds', ds' ≠ [] → (l.lint p).filter (fun d => d.ruleId = invalidTag) =
        ((l.withDialects ds').lint p).filter fun d => d.ruleId = invalidTag) ∧
      ∀ d ∈ l.lint p, d.ruleId = invalidTag ∨ ∃ dialect ∈ ds, dialect.owns d.ruleId = true := by
  refine ⟨?_, ?_, ?_⟩
  · intro dialect
    split
    · next hmem =>
      refine filter_lint_congr dialect.owns rfl rfl ?_
      rw [filter_owns_reports hl.dialects_eq, if_pos hmem,
        filter_owns_reports (Given.restricted l _).dialects_eq, if_pos (List.mem_singleton.2 rfl)]
    · next hmem =>
      rw [filter_lint, filter_owns_reports hl.dialects_eq, if_neg hmem]
      simp [dropRepeats, Diagnostics.sortByLocation]
  · intro hds ds' hds'
    refine filter_lint_congr (fun id => id = invalidTag) rfl rfl ?_
    rw [dropRepeats_undecodable (hl.dialects_eq ▸ Dialect.normalize_ne_nil hds),
      dropRepeats_undecodable (Dialect.normalize_ne_nil hds')]
  · intro d hd
    obtain ⟨dialect, hdialect, file, field, -, d', hd', severity, rfl⟩ := mem_lint hd
    rcases dialect.invalidTag_or_reports hd' with ⟨hid, -⟩ | ⟨tag, hreports⟩
    · exact .inl hid
    · rw [hl.dialects_eq, Dialect.mem_normalize] at hdialect
      exact .inr ⟨dialect, hdialect, hreports.owns_iff.2 rfl⟩

set_option maxRecDepth 100000 in
/-- A list with a repeat, in another order than the dialects are run. -/
theorem lint_dialects_independent_repeat :
    ((withDialects {} [.bson, .json, .bson]).lint mixedPackage).map (·.ruleId) =
        [JsonRules.sameTagName, BsonRules.sameTagName, invalidTag] ∧
      ((withDialects {} [.bson, .json, .bson]).lint mixedPackage).filter
          (fun d => Dialect.bson.owns d.ruleId) =
        ((withDialects {} [.bson]).lint mixedPackage).filter fun d => Dialect.bson.owns d.ruleId :=
  ⟨by cbv, (lint_dialects_independent (.restricted {} [.bson, .json, .bson]) mixedPackage).1 .bson⟩

end Linter

end StructTags
