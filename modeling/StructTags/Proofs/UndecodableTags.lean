import StructTags.Proofs.DialectIndependence
import StructTags.Proofs.Traversal

/-!
# Tags that cannot be decoded

Every dialect comes upon the tags that cannot be decoded and reports them, and a filter that
remembers positions leaves one report for each position. `mem_dropRepeats_iff` says what the filter
leaves: of the reports at a position the first one. As all dialects report the same tags in the same
order, this is the report of the first such field that is visited (`lint_undecodable_once`).
-/

namespace StructTags

open Checker (invalidTag)

/-! ## Fields with such tags -/

/-- The field as a site, if it has a tag that cannot be decoded. -/
def undecodableSite? (file : SourceFile) (field : Field) : Option Site :=
  match field.tag with
  | none => none
  | some tag =>
    match unquote tag.literal with
    | .error _ => some ⟨file, field, tag⟩
    | .ok _ => none

theorem undecodableSite?_eq_some_iff {file : SourceFile} {field : Field} {site : Site} :
    undecodableSite? file field = some site ↔
      site.file = file ∧ site.field = field ∧ field.tag = some site.tag ∧
        ∃ fault, unquote site.tag.literal = .error fault := by
  obtain ⟨file', field', tag'⟩ := site
  unfold undecodableSite?
  cases htag : field.tag with
  | none => simp
  | some tag =>
    cases htext : unquote tag.literal with
    | error fault =>
      simp only [htext, Option.some.injEq, Site.mk.injEq]
      constructor
      · rintro ⟨rfl, rfl, rfl⟩
        exact ⟨rfl, rfl, rfl, fault, htext⟩
      · rintro ⟨rfl, rfl, rfl, -⟩
        exact ⟨rfl, rfl, rfl⟩
    | ok text =>
      simp only [htext, reduceCtorEq, false_iff]
      rintro ⟨-, -, htag', fault, hfault⟩
      rw [← Option.some.inj htag', htext] at hfault
      cases hfault

namespace Package

/-- The fields of a package whose tags cannot be decoded, in the order they are visited. -/
def undecodableSites (p : Package) : List Site :=
  p.visit.filterMap fun x => undecodableSite? x.1 x.2

/-- A struct of the package, at any depth, has a field with a tag that cannot be decoded. -/
structure HasUndecodable (p : Package) (site : Site) : Prop where
  placed : ∃ place s, p.structAt? place = some (site.file, s) ∧ site.field ∈ s.fields
  tagged : site.field.tag = some site.tag
  rejected : ∃ fault, unquote site.tag.literal = .error fault

theorem mem_visit_iff {p : Package} {file : SourceFile} {field : Field} :
    (file, field) ∈ p.visit ↔
      ∃ place s, p.structAt? place = some (file, s) ∧ field ∈ s.fields := by
  simp only [visit_eq_stops, List.mem_flatMap, List.mem_map, Prod.mk.injEq]
  constructor
  · rintro ⟨⟨place, file', s⟩, hstop, field', hfield, rfl, rfl⟩
    exact ⟨place, s, mem_stops_iff.1 hstop, hfield⟩
  · rintro ⟨place, s, hat, hfield⟩
    exact ⟨(place, file, s), mem_stops_iff.2 hat, field, hfield, rfl, rfl⟩

theorem mem_undecodableSites_iff {p : Package} {site : Site} :
    site ∈ p.undecodableSites ↔ p.HasUndecodable site := by
  simp only [undecodableSites, List.mem_filterMap, undecodableSite?_eq_some_iff]
  constructor
  · rintro ⟨⟨file, field⟩, hvisit, rfl, rfl, htag, hfault⟩
    exact ⟨mem_visit_iff.1 hvisit, htag, hfault⟩
  · rintro ⟨hplaced, htag, hfault⟩
    exact ⟨(site.file, site.field), mem_visit_iff.2 hplaced, rfl, rfl, htag, hfault⟩

end Package

/-- The report that a tag cannot be decoded. -/
def Site.undecodableReport (site : Site) : Diagnostic :=
  site.tagDiagnostic invalidTag .error "invalid tag"

theorem Site.location_undecodableReport (site : Site) :
    site.undecodableReport.location = site.tagLocation := by
  rfl

theorem flatMap_undecodable (p : Package) :
    (p.visit.flatMap fun x => Dialect.undecodable x.1 x.2) =
      p.undecodableSites.map Site.undecodableReport := by
  have hfield (file : SourceFile) (field : Field) : Dialect.undecodable file field =
      ((undecodableSite? file field).map Site.undecodableReport).toList := by
    unfold Dialect.undecodable undecodableSite?
    cases field.tag with
    | none => rfl
    | some tag =>
      cases htext : unquote tag.literal with
      | error fault =>
        simp only [htext]
        rfl
      | ok text =>
        simp only [htext]
        rfl
  simp only [hfield]
  rw [← List.filterMap_eq_flatMap_toList, Package.undecodableSites, List.map_filterMap]

namespace Linter

/-! ## One report for each position -/

section Repeats

variable {ds : List Diagnostic} {seen : List Location}

/-- Of the reports at a position that was not seen the first one is left. -/
theorem mem_dropRepeats_iff (hds : ∀ d ∈ ds, d.ruleId = invalidTag) {d : Diagnostic} :
    d ∈ dropRepeats seen ds ↔
      ds.find? (fun e => e.location.samePosition d.location) = some d ∧
        seen.any d.location.samePosition = false := by
  induction ds generalizing seen with
  | nil => simp [dropRepeats]
  | cons e rest ih =>
    obtain ⟨he, hrest⟩ := List.forall_mem_cons.1 hds
    by_cases hsame : e.location.samePosition d.location = true
    · have hany : seen.any d.location.samePosition = seen.any e.location.samePosition := by
        rw [funext (Location.samePosition_congr hsame)]
      simp only [List.find?_cons, hsame, hany]
      by_cases hseen : seen.any e.location.samePosition = true
      · simp [dropRepeats_cons_seen he hseen, ih hrest, hany, hseen]
      · have hsame' : d.location.samePosition e.location = true := by
          rwa [Location.samePosition_comm]
        rw [dropRepeats_cons_new he hseen, List.mem_cons, ih hrest]
        simp [hsame', hseen, eq_comm]
    · have hne : d ≠ e := by
        rintro rfl
        exact hsame (Location.samePosition_refl _)
      have hother : d.location.samePosition e.location = false := by
        rw [Location.samePosition_comm]
        simpa using hsame
      simp only [List.find?_cons, Bool.eq_false_of_not_eq_true hsame]
      by_cases hseen : seen.any e.location.samePosition = true
      · rw [dropRepeats_cons_seen he hseen, ih hrest]
      · rw [dropRepeats_cons_new he hseen, List.mem_cons, ih hrest, List.any_cons, hother]
        simp [hne]

theorem pairwise_dropRepeats (hds : ∀ d ∈ ds, d.ruleId = invalidTag) :
    (dropRepeats seen ds).Pairwise fun a b => a.location.samePosition b.location = false := by
  induction ds generalizing seen with
  | nil => exact .nil
  | cons d rest ih =>
    obtain ⟨hd, hrest⟩ := List.forall_mem_cons.1 hds
    by_cases hseen : seen.any d.location.samePosition = true
    · rw [dropRepeats_cons_seen hd hseen]
      exact ih hrest
    · rw [dropRepeats_cons_new hd hseen, List.pairwise_cons]
      refine ⟨?_, ih hrest⟩
      -- a report behind `d` is left only if the position of `d` is not its own
      intro b hb
      have hnew := ((mem_dropRepeats_iff hrest).1 hb).2
      rw [List.any_cons, Bool.or_eq_false_iff] at hnew
      rw [Location.samePosition_comm]
      exact hnew.1

/-- Reports under other rules are left alone. -/
theorem filter_other_dropRepeats (seen : List Location) (ds : List Diagnostic) :
    (dropRepeats seen ds).filter (fun d => d.ruleId ≠ invalidTag) =
      ds.filter fun d => d.ruleId ≠ invalidTag := by
  induction ds generalizing seen with
  | nil => rfl
  | cons d rest ih =>
    by_cases hd : d.ruleId = invalidTag
    · rw [List.filter_cons_of_neg (by simpa using hd)]
      by_cases hseen : seen.any d.location.samePosition = true
      · rw [dropRepeats_cons_seen hd hseen, ih]
      · rw [dropRepeats_cons_new hd hseen, List.filter_cons_of_neg (by simpa using hd), ih]
    · have hd' : decide (d.ruleId ≠ invalidTag) = true := by simpa using hd
      simp only [dropRepeats_cons_other hd, List.filter_cons, hd', if_true, ih]

end Repeats

/-! ## Settings -/

theorem exists_adjust? {l : Linter} {d : Diagnostic}
    (h : l.settings.lookup d.ruleId ≠ some .off) :
    ∃ severity, l.adjust? d = some { d with severity } := by
  unfold adjust?
  cases hsetting : l.settings.lookup d.ruleId with
  | none => exact ⟨d.severity, rfl⟩
  | some setting =>
    cases setting with
    | off => exact absurd hsetting h
    | info => exact ⟨.info, rfl⟩
    | warn => exact ⟨.warning, rfl⟩
    | error => exact ⟨.error, rfl⟩

/-- The reports of tags that cannot be decoded are those of the fields, repeats dropped. -/
theorem filter_undecodable_lint {l : Linter} (henabled : l.enabled = true)
    (hdialects : l.dialects ≠ []) (p : Package) :
    (l.lint p).filter (fun d => d.ruleId = invalidTag) =
      (Diagnostics.sortByLocation
        (dropRepeats [] (p.undecodableSites.map Site.undecodableReport))).filterMap l.adjust? := by
  rw [filter_lint l p fun id => id = invalidTag, if_pos henabled,
    dropRepeats_undecodable hdialects, flatMap_undecodable]

theorem ruleId_undecodableReport (p : Package) :
    ∀ d ∈ p.undecodableSites.map Site.undecodableReport, d.ruleId = invalidTag := by
  intro d hd
  obtain ⟨site, -, rfl⟩ := List.mem_map.1 hd
  rfl

/-- The reports of tags that cannot be decoded: one for each position, that of the first field. -/
theorem mem_filter_undecodable_lint_iff {l : Linter} (henabled : l.enabled = true)
    (hdialects : l.dialects ≠ []) {p : Package} {d : Diagnostic} :
    d ∈ (l.lint p).filter (fun d => d.ruleId = invalidTag) ↔
      ∃ site, p.undecodableSites.find? (fun other =>
          other.tagLocation.samePosition site.tagLocation) = some site ∧
        l.adjust? site.undecodableReport = some d := by
  rw [filter_undecodable_lint henabled hdialects, List.mem_filterMap]
  simp only [(Diagnostics.sortByLocation_perm _).mem_iff,
    mem_dropRepeats_iff (ruleId_undecodableReport p), List.find?_map, Option.map_eq_some_iff,
    Function.comp_def, Site.location_undecodableReport]
  constructor
  · rintro ⟨_, ⟨⟨site, hsite, rfl⟩, -⟩, hadjust⟩
    rw [Site.location_undecodableReport] at hsite
    exact ⟨site, hsite, hadjust⟩
  · rintro ⟨site, hsite, hadjust⟩
    rw [← Site.location_undecodableReport] at hsite
    exact ⟨_, ⟨⟨site, hsite, rfl⟩, rfl⟩, hadjust⟩

theorem pairwise_filter_undecodable_lint {l : Linter} (henabled : l.enabled = true)
    (hdialects : l.dialects ≠ []) (p : Package) :
    ((l.lint p).filter fun d => d.ruleId = invalidTag).Pairwise fun a b =>
      a.location.samePosition b.location = false := by
  rw [filter_undecodable_lint henabled hdialects]
  have hpairwise := @pairwise_dropRepeats _ [] (ruleId_undecodableReport p)
  have hsorted := ((Diagnostics.sortByLocation_perm _).pairwise_iff fun {a b} hab => by
    rwa [Location.samePosition_comm]).2 hpairwise
  refine List.Pairwise.filterMap l.adjust? ?_ hsorted
  intro a a' hne b hb b' hb'
  rw [l.keepsPlace_adjust? a b hb, l.keepsPlace_adjust? a' b' hb']
  exact hne

/-- A linter that runs at all and does not turn the rule off reports tags that cannot be decoded
once for each position: at exactly the positions of such tags, whatever the depth of their structs,
and with the message of the first of them that is visited. Dropping the repeats takes away no report
under any other rule. -/
theorem lint_undecodable_once {l : Linter} (henabled : l.enabled = true)
    (hdialects : l.dialects ≠ []) (hsetting : l.settings.lookup invalidTag ≠ some .off)
    (p : Package) :
    (((l.lint p).filter fun d => d.ruleId = invalidTag).Pairwise fun a b =>
        a.location.samePosition b.location = false) ∧
      (∀ place : Location,
        (∃ d ∈ l.lint p, d.ruleId = invalidTag ∧ d.location.samePosition place = true) ↔
          ∃ site, p.HasUndecodable site ∧ site.tagLocation.samePosition place = true) ∧
      (∀ d ∈ l.lint p, d.ruleId = invalidTag →
        ∃ site, p.undecodableSites.find? (fun site =>
            site.tagLocation.samePosition d.location) = some site ∧
          d.message = "invalid tag: " ++ site.tagText) ∧
      (dropRepeats [] (l.reports p)).filter (fun d => d.ruleId ≠ invalidTag) =
        (l.reports p).filter fun d => d.ruleId ≠ invalidTag := by
  have hmem {d : Diagnostic} : d ∈ l.lint p ∧ d.ruleId = invalidTag ↔
      ∃ site, p.undecodableSites.find? (fun other =>
          other.tagLocation.samePosition site.tagLocation) = some site ∧
        l.adjust? site.undecodableReport = some d := by
    rw [← mem_filter_undecodable_lint_iff henabled hdialects, List.mem_filter, decide_eq_true_eq]
  refine ⟨pairwise_filter_undecodable_lint henabled hdialects p, ?_, ?_,
    filter_other_dropRepeats [] _⟩
  · intro place
    constructor
    · rintro ⟨d, hd, hid, hplace⟩
      obtain ⟨site, hfind, hadjust⟩ := hmem.1 ⟨hd, hid⟩
      obtain ⟨severity, rfl⟩ := eq_of_adjust? hadjust
      exact ⟨site, Package.mem_undecodableSites_iff.1 (List.mem_of_find?_eq_some hfind), hplace⟩
    · rintro ⟨site, hsite, hplace⟩
      -- the first field at the position of `site` is reported there
      obtain ⟨first, hfind⟩ : ∃ first, p.undecodableSites.find? (fun other =>
          other.tagLocation.samePosition site.tagLocation) = some first := by
        rw [← Option.isSome_iff_exists, List.find?_isSome]
        exact ⟨site, Package.mem_undecodableSites_iff.2 hsite, Location.samePosition_refl _⟩
      have hsame : first.tagLocation.samePosition site.tagLocation = true := by
        simpa only using List.find?_some hfind
      have hcongr (other : Site) : other.tagLocation.samePosition first.tagLocation =
          other.tagLocation.samePosition site.tagLocation := by
        rw [Location.samePosition_comm, Location.samePosition_congr hsame,
          Location.samePosition_comm]
      obtain ⟨severity, hadjust⟩ := @exists_adjust? l first.undecodableReport hsetting
      obtain ⟨hd, hid⟩ := hmem.2 ⟨first, by simpa only [hcongr] using hfind, hadjust⟩
      refine ⟨_, hd, hid, ?_⟩
      show first.tagLocation.samePosition place = true
      rwa [Location.samePosition_congr hsame]
  · intro d hd hid
    obtain ⟨site, hfind, hadjust⟩ := hmem.1 ⟨hd, hid⟩
    obtain ⟨severity, rfl⟩ := eq_of_adjust? hadjust
    exact ⟨site, hfind, rfl⟩

/-- Two tags at one position, under two spellings of one path, one in a nested struct, and one at
the same offset in another file. None of them can be decoded. -/
def undecodablePackage : Package :=
  ⟨none, [⟨"a/b", none, [⟨none, {},
      [⟨some "A", none, {}, some ⟨"x", ⟨1, 2⟩⟩,
        [⟨none, {}, [⟨none, none, {}, some ⟨"y", ⟨5, 6⟩⟩, []⟩]⟩]⟩]⟩]⟩,
    ⟨"a//b", none, [⟨none, {}, [⟨some "B", none, {}, some ⟨"z", ⟨1, 2⟩⟩, []⟩]⟩]⟩,
    ⟨"a/c", none, [⟨none, {}, [⟨some "C", none, {}, some ⟨"w", ⟨1, 2⟩⟩, []⟩]⟩]⟩]⟩

set_option maxRecDepth 100000 in
/-- Of the two tags at one position the first one is reported; the nested one and the one in the
other file are reported as well. -/
theorem lint_undecodable_once_nested :
    (((lint {} undecodablePackage).filter fun d => d.ruleId = invalidTag).Pairwise fun a b =>
        a.location.samePosition b.location = false) ∧
      (lint {} undecodablePackage).map
          (fun d => (d.location.file, d.location.offset, d.message)) =
        [("a/b", 1, "invalid tag: x"), ("a/b", 5, "invalid tag: y"),
          ("a/c", 1, "invalid tag: w")] :=
  ⟨(@lint_undecodable_once {} rfl (by decide) (by decide) undecodablePackage).1, by cbv⟩

end Linter

end StructTags
