import StructTags.Proofs.CheckerReports
import StructTags.Proofs.Splicing

/-!
# Fixing a package

The fixes of a run are spliced into the sources of its files. If the model agrees with the sources,
then all of them are applied, and nothing changes but the tags reported to repeat a name.

* `Package.Faithful` says what is expected of the model;
* `Linter.fixesIn_subperm` bounds the fixes of a file by those of its fields, so that no two of them
  are about one field;
* `Linter.applyAll_fixesIn` is the result.
-/

namespace StructTags

open JsonRules

/-! ## Packages that agree with their sources -/

/-- Whether two spans have no byte in common. -/
def Span.Disjoint (a b : Span) : Prop :=
  min a.stop b.stop ≤ max a.start b.start

/-- The tags of a file as they are visited. -/
def SourceFile.tags (file : SourceFile) : List TagLiteral :=
  (visitStructs file.structs).filterMap (·.tag)

/-- What a package promises about its files: their paths differ, each tag's literal stands in the
source under the tag's span, and the tags of a file do not overlap. -/
structure Package.Faithful (p : Package) : Prop where
  paths_differ : p.files.Pairwise fun a b => Path.same a.path b.path = false
  literal_eq : ∀ file ∈ p.files, ∀ tag ∈ file.tags, file.text? tag.span = some tag.literal
  disjoint : ∀ file ∈ p.files, file.tags.Pairwise fun a b => a.span.Disjoint b.span

theorem Package.Faithful.eq_of_same {p : Package} (h : p.Faithful) {a b : SourceFile}
    (ha : a ∈ p.files) (hb : b ∈ p.files) (hsame : Path.same a.path b.path = true) : a = b := by
  by_contra hne
  have hsymm : Std.Symm fun a b : SourceFile => Path.same a.path b.path = false :=
    ⟨fun a b hab => by rwa [Path.same_comm]⟩
  have hdiffer := h.paths_differ.forall ha hb hne
  rw [hdiffer] at hsame
  simp at hsame

theorem SourceFile.text?_eq_some_iff {file : SourceFile} {source text : String} {span : Span}
    (hsource : file.source = some source) :
    file.text? span = some text ↔
      Offset.slice? span.start span.stop source.toList = some text.toList := by
  simp only [text?, hsource, Option.bind_eq_bind, Option.bind_some, Option.pure_def,
    Option.bind_eq_some_iff, Option.some.injEq]
  constructor
  · rintro ⟨cs, hcs, rfl⟩
    rw [hcs, String.toList_ofList]
  · intro h
    exact ⟨_, h, String.ofList_toList⟩

theorem mem_visit {p : Package} {file : SourceFile} {field : Field} :
    (file, field) ∈ p.visit ↔ file ∈ p.files ∧ field ∈ visitStructs file.structs := by
  simp [p.visit_eq_flatMap]

theorem Location.span_ofSpan (file : SourceFile) {span : Span} (h : span.start ≤ span.stop) :
    (Location.ofSpan file span).span = span := by
  simp only [Location.ofSpan, Location.span, Span.length]
  rw [Nat.add_sub_cancel' h]

/-! ## The fix of a field -/

namespace JsonRules

/-- The fix that the report of a repeated name suggests. -/
def sameNameFix (site : Site) (tags : TagSet) : Fix where
  id := sameTagName ++ "@" ++ toString site.tag.span.start
  description := (withoutName tags).2
  location := site.tagLocation
  replacement := (withoutName tags).1.literal
  applicability := .always
  ruleId := sameTagName

end JsonRules

namespace Fix

/-- The safe fixes that a report suggests. -/
def suggestedBy (d : Diagnostic) : List Fix :=
  collect [d] false

theorem collect_eq_flatMap (ds : List Diagnostic) : collect ds false = ds.flatMap suggestedBy := by
  unfold suggestedBy
  simp [collect, List.filter_flatMap]

theorem suggestedBy_plain {d : Diagnostic} (h : Plain d) : suggestedBy d = [] := by
  simp [suggestedBy, collect, h.2]

theorem suggestedBy_sameNameReport (site : Site) (tags : TagSet) (severity : Severity) :
    suggestedBy { sameNameReport site tags with severity } = [sameNameFix site tags] := by
  rfl

theorem suggestedBy_severity (d : Diagnostic) (severity : Severity) :
    suggestedBy { d with severity } = suggestedBy d := by
  rfl

/-- The fixes that the reports on a field suggest. -/
def suggestedOn (file : SourceFile) (field : Field) : List Fix :=
  (checker.reportsOn file field).flatMap suggestedBy

/-- On one field there is at most one fix. -/
theorem suggestedOn_cases (file : SourceFile) (field : Field) :
    suggestedOn file field = [] ∨ ∃ tag text value tags, RepeatsName field tag text value tags ∧
      suggestedOn file field = [sameNameFix ⟨file, field, tag⟩ tags] := by
  have hnone {ds : List Diagnostic} (hplain : ∀ d ∈ ds, Plain d) : ds.flatMap suggestedBy = [] := by
    rw [List.flatMap_eq_nil_iff]
    exact fun d hd => suggestedBy_plain (hplain d hd)
  rcases reportsOn_cases file field with
    ⟨hplain, -⟩ | ⟨before, tag, text, value, tags, hrepeats, hplain, heq⟩
  · exact .inl (hnone hplain)
  · refine .inr ⟨tag, text, value, tags, hrepeats, ?_⟩
    rw [suggestedOn, heq, List.flatMap_append, hnone hplain]
    rfl

theorem mem_suggestedOn {file : SourceFile} {field : Field} {f : Fix}
    (h : f ∈ suggestedOn file field) : ∃ tag text value tags,
      RepeatsName field tag text value tags ∧ f = sameNameFix ⟨file, field, tag⟩ tags := by
  rcases suggestedOn_cases file field with hnil | ⟨tag, text, value, tags, hrepeats, heq⟩
  · rw [hnil] at h
    simp at h
  · rw [heq, List.mem_singleton] at h
    exact ⟨tag, text, value, tags, hrepeats, h⟩

end Fix

/-! ## The fixes of a file -/

namespace Linter

/-- The safe fixes of a run that lie in a file. -/
def fixesIn (l : Linter) (p : Package) (file : SourceFile) : List Fix :=
  (Fix.collect (l.lint p) false).filter fun f => Path.same f.location.file file.path

theorem flatMap_adjust_sublist (l : Linter) (ds : List Diagnostic) :
    ((ds.filterMap l.adjust?).flatMap Fix.suggestedBy).Sublist (ds.flatMap Fix.suggestedBy) := by
  rw [List.filterMap_eq_flatMap_toList, List.flatMap_assoc]
  apply List.Sublist.flatMap_right
  intro d _
  cases hadjust : l.adjust? d with
  | none => exact List.nil_sublist _
  | some d' =>
    -- a fix does not hold the severity of its report
    obtain ⟨severity, rfl⟩ := eq_of_adjust? hadjust
    rw [Option.toList_some, List.flatMap_singleton, Fix.suggestedBy_severity]

theorem flatMap_reports_sublist {l : Linter} (hl : l.Built) (p : Package) :
    ((l.reports p).flatMap Fix.suggestedBy).Sublist
      ((checker.run p).flatMap Fix.suggestedBy) := by
  have hother {dialect : Dialect} (hne : dialect ≠ .json) :
      (dialect.checker.run p).flatMap Fix.suggestedBy = [] := by
    rw [Checker.run_eq_flatMap, List.nil_append, List.flatMap_assoc, List.flatMap_eq_nil_iff]
    intro x _
    rw [List.flatMap_eq_nil_iff]
    exact fun d hd => Fix.suggestedBy_plain (Dialect.plain_of_ne_json hne d hd)
  have hall : (Dialect.all.flatMap fun dialect =>
      (dialect.checker.run p).flatMap Fix.suggestedBy) =
      (checker.run p).flatMap Fix.suggestedBy := by
    rw [Dialect.all, List.flatMap_cons, List.flatMap_cons, List.flatMap_cons, List.flatMap_nil,
      @hother .bson (by decide), @hother .binding (by decide)]
    simp [Dialect.checker]
  rw [reports, List.flatMap_assoc, ← hall]
  exact hl.dialects_sublist.flatMap _

/-- All fixes of a run are fixes of fields, and no field counts twice. -/
theorem collect_lint_subperm {l : Linter} (hl : l.Built) (p : Package) :
    (Fix.collect (l.lint p) false).Subperm
      (p.visit.flatMap fun x => Fix.suggestedOn x.1 x.2) := by
  rw [Fix.collect_eq_flatMap]
  unfold lint
  split
  · -- sorting permutes the reports; the steps before it only drop some
    have hsort := (List.mergeSort_perm ((dropRepeats [] (l.reports p)).filterMap l.adjust?)
      fun a b => a.location.compare b.location ≠ .gt).flatMap_right Fix.suggestedBy
    have hreports := ((l.flatMap_adjust_sublist _).trans
      ((dropRepeats_sublist [] (l.reports p)).flatMap Fix.suggestedBy)).trans
      (flatMap_reports_sublist hl p)
    rw [Checker.run_eq_flatMap, List.nil_append, List.flatMap_assoc] at hreports
    exact hsort.subperm.trans hreports.subperm
  · exact List.nil_subperm

/-- The fixes that lie in a file are those of its own fields. -/
theorem filter_suggestedOn {p : Package} (hp : p.Faithful) {file : SourceFile}
    (hfile : file ∈ p.files) :
    (p.visit.flatMap fun x => Fix.suggestedOn x.1 x.2).filter
        (fun f => Path.same f.location.file file.path) =
      (visitStructs file.structs).flatMap (Fix.suggestedOn file) := by
  have hvisit : (p.visit.flatMap fun x => Fix.suggestedOn x.1 x.2) =
      p.files.flatMap fun file => (visitStructs file.structs).flatMap (Fix.suggestedOn file) := by
    simp [p.visit_eq_flatMap, List.flatMap_assoc, List.flatMap_map]
  have hpath {file : SourceFile} {f : Fix}
      (hf : f ∈ (visitStructs file.structs).flatMap (Fix.suggestedOn file)) :
      f.location.file = file.path := by
    obtain ⟨field, -, hf⟩ := List.mem_flatMap.1 hf
    obtain ⟨tag, text, value, tags, -, rfl⟩ := Fix.mem_suggestedOn hf
    rfl
  have hother {files : List SourceFile}
      (hdiffer : ∀ other ∈ files, Path.same other.path file.path = false) :
      (files.flatMap fun file => (visitStructs file.structs).flatMap (Fix.suggestedOn file)).filter
        (fun f => Path.same f.location.file file.path) = [] := by
    rw [List.filter_eq_nil_iff]
    intro f hf
    obtain ⟨other, hmem, hf⟩ := List.mem_flatMap.1 hf
    simp [hpath hf, hdiffer other hmem]
  have hself : ((visitStructs file.structs).flatMap (Fix.suggestedOn file)).filter
      (fun f => Path.same f.location.file file.path) =
      (visitStructs file.structs).flatMap (Fix.suggestedOn file) := by
    rw [List.filter_eq_self]
    intro f hf
    simp [hpath hf, Path.same]
  -- every file before or behind this one has another path
  obtain ⟨before, after, hfiles⟩ := List.append_of_mem hfile
  have hpaths := hp.paths_differ
  rw [hfiles, List.pairwise_append, List.pairwise_cons] at hpaths
  obtain ⟨-, ⟨hafter, -⟩, hbefore⟩ := hpaths
  rw [hvisit, hfiles, List.flatMap_append, List.flatMap_cons, List.filter_append,
    List.filter_append, hself, hother fun other hmem => hbefore other hmem file (by simp),
    hother fun other hmem => by rw [Path.same_comm]; exact hafter other hmem]
  simp

theorem fixesIn_subperm {l : Linter} (hl : l.Built) {p : Package} (hp : p.Faithful)
    {file : SourceFile} (hfile : file ∈ p.files) :
    (l.fixesIn p file).Subperm ((visitStructs file.structs).flatMap (Fix.suggestedOn file)) := by
  rw [← filter_suggestedOn hp hfile]
  exact (collect_lint_subperm hl p).filter _

/-- A fix in a file is the one that a report on a field of the file suggests. -/
theorem mem_fixesIn {l : Linter} {p : Package} (hp : p.Faithful) {file : SourceFile}
    (hfile : file ∈ p.files) {f : Fix} (hf : f ∈ l.fixesIn p file) :
    ∃ field tag text value tags severity, field ∈ visitStructs file.structs ∧
      RepeatsName field tag text value tags ∧
      { sameNameReport ⟨file, field, tag⟩ tags with severity } ∈ l.lint p ∧
      f = sameNameFix ⟨file, field, tag⟩ tags := by
  obtain ⟨hcollect, hsame⟩ := List.mem_filter.1 hf
  rw [Fix.collect_eq_flatMap] at hcollect
  obtain ⟨d, hd, hsuggested⟩ := List.mem_flatMap.1 hcollect
  rcases plain_or_sameNameReport hd with
    hplain | ⟨file', field, tag, text, value, tags, severity, hvisit, hrepeats, rfl⟩
  · rw [Fix.suggestedBy_plain hplain] at hsuggested
    simp at hsuggested
  · rw [Fix.suggestedBy_sameNameReport, List.mem_singleton] at hsuggested
    rw [hsuggested] at hsame
    obtain ⟨hfile', hfield⟩ := mem_visit.1 hvisit
    obtain rfl : file' = file := hp.eq_of_same hfile' hfile hsame
    exact ⟨field, tag, text, value, tags, severity, hfield, hrepeats, hd, hsuggested⟩

end Linter

/-! ## Applying them -/

theorem JsonRules.RepeatsName.literal_ne_empty {field : Field} {tag : TagLiteral}
    {text value : String} {tags : TagSet} (h : RepeatsName field tag text value tags) :
    tag.literal ≠ "" := by
  intro hempty
  have hfault : (unquote "").toOption = none := by decide
  rw [← hempty, h.text_eq] at hfault
  simp [Except.toOption] at hfault

theorem JsonRules.RepeatsName.mem_tags {file : SourceFile} {field : Field} {tag : TagLiteral}
    {text value : String} {tags : TagSet} (h : RepeatsName field tag text value tags)
    (hfield : field ∈ visitStructs file.structs) : tag ∈ file.tags :=
  List.mem_filterMap.2 ⟨field, hfield, h.tag_eq⟩

namespace Package.Faithful

variable {p : Package} {file : SourceFile} {source : String} {tag : TagLiteral}

theorem slice?_tag (hp : p.Faithful) (hfile : file ∈ p.files) (hsource : file.source = some source)
    (htag : tag ∈ file.tags) :
    Offset.slice? tag.span.start tag.span.stop source.toList = some tag.literal.toList :=
  (SourceFile.text?_eq_some_iff hsource).1 (hp.literal_eq file hfile tag htag)

theorem start_add_size (hp : p.Faithful) (hfile : file ∈ p.files)
    (hsource : file.source = some source) (htag : tag ∈ file.tags) :
    tag.span.start + Utf8.size tag.literal.toList = tag.span.stop := by
  obtain ⟨front, back, -, -, hstop⟩ :=
    Offset.slice?_eq_some_iff.1 (hp.slice?_tag hfile hsource htag)
  exact hstop

theorem span_ofSpan (hp : p.Faithful) (hfile : file ∈ p.files)
    (hsource : file.source = some source) (htag : tag ∈ file.tags) :
    (Location.ofSpan file tag.span).span = tag.span := by
  have hstop := hp.start_add_size hfile hsource htag
  exact Location.span_ofSpan file (by omega)

/-- A tag that repeats a name is not empty. -/
theorem start_lt_stop (hp : p.Faithful) (hfile : file ∈ p.files)
    (hsource : file.source = some source) (htag : tag ∈ file.tags) {field : Field}
    {text value : String} {tags : TagSet} (h : RepeatsName field tag text value tags) :
    tag.span.start < tag.span.stop := by
  have hstop := hp.start_add_size hfile hsource htag
  have hpos : Utf8.size tag.literal.toList ≠ 0 := by
    intro hzero
    exact h.literal_ne_empty (String.toList_eq_nil_iff.1 (Offset.size_eq_zero hzero))
  omega

theorem conflict_free (hp : p.Faithful) (hfile : file ∈ p.files)
    (hsource : file.source = some source) :
    ((visitStructs file.structs).flatMap (Fix.suggestedOn file)).Pairwise
      fun a b => a.conflictsWith b = false := by
  rw [List.pairwise_flatMap]
  constructor
  · intro field _
    rcases Fix.suggestedOn_cases file field with hnil | ⟨_, _, _, _, -, heq⟩
    · simp [hnil]
    · simp [heq]
  · -- fixes of different fields: their tags are disjoint
    have hdisjoint := hp.disjoint file hfile
    rw [SourceFile.tags, List.pairwise_filterMap] at hdisjoint
    refine hdisjoint.imp_of_mem ?_
    intro a b ha hb hab f hf g hg
    obtain ⟨tag, text, value, tags, hrepeats, rfl⟩ := Fix.mem_suggestedOn hf
    obtain ⟨tag', text', value', tags', hrepeats', rfl⟩ := Fix.mem_suggestedOn hg
    have htag := hrepeats.mem_tags ha
    have htag' := hrepeats'.mem_tags hb
    -- two spans without a common byte lie apart because neither is empty
    have hapart : tag.span.stop ≤ tag'.span.start ∨ tag'.span.stop ≤ tag.span.start := by
      have hlt := hp.start_lt_stop hfile hsource htag hrepeats
      have hlt' := hp.start_lt_stop hfile hsource htag' hrepeats'
      have hdis := hab tag hrepeats.tag_eq tag' hrepeats'.tag_eq
      unfold Span.Disjoint at hdis
      omega
    have hspan : (sameNameFix ⟨file, a, tag⟩ tags).span = tag.span :=
      hp.span_ofSpan hfile hsource htag
    have hspan' : (sameNameFix ⟨file, b, tag'⟩ tags').span = tag'.span :=
      hp.span_ofSpan hfile hsource htag'
    simpa [Fix.conflictsWith, hspan, hspan', or_iff_not_imp_left] using fun _ => hapart

end Package.Faithful

namespace Linter

/-- A report of a run that the name in a tag of the file repeats the field's. -/
structure Flags (l : Linter) (p : Package) (file : SourceFile) (tag : TagLiteral)
    (d : Diagnostic) : Prop where
  tag_mem : tag ∈ file.tags
  reported : d ∈ l.lint p
  rule : d.ruleId = sameTagName
  location : d.location = Location.ofSpan file tag.span

/-- What a report of a repeated name suggests is a fix in its file, at the place of the tag. -/
theorem Flags.exists_fix {l : Linter} {p : Package} {file : SourceFile} {tag : TagLiteral}
    {d : Diagnostic} (h : l.Flags p file tag d) :
    ∃ s, d.suggestions = [s] ∧ ∃ f ∈ l.fixesIn p file,
      f.location = Location.ofSpan file tag.span ∧ f.replacement = s.replacement := by
  obtain ⟨-, hreported, hrule, hlocation⟩ := h
  rcases plain_or_sameNameReport hreported with
    hplain | ⟨file', field, tag', text, value, tags, severity, -, -, rfl⟩
  · exact absurd hrule hplain.1
  · have hplace : (sameNameFix ⟨file', field, tag'⟩ tags).location =
        Location.ofSpan file tag.span := hlocation
    refine ⟨_, rfl, sameNameFix ⟨file', field, tag'⟩ tags, ?_, hplace, rfl⟩
    -- the fix lies in this file because its report does
    rw [fixesIn, List.mem_filter, Fix.collect_eq_flatMap, List.mem_flatMap, hplace]
    refine ⟨⟨_, hreported, ?_⟩, by simp [Location.ofSpan, Path.same]⟩
    rw [Fix.suggestedBy_sameNameReport]
    exact List.mem_singleton.2 rfl

section Faithful

variable {l : Linter} {p : Package} {file : SourceFile} {source : String}

theorem file_of_mem_fixesIn (hp : p.Faithful) (hfile : file ∈ p.files) :
    ∀ f ∈ l.fixesIn p file, f.location.file = file.path := by
  intro f hf
  obtain ⟨_, _, _, _, _, _, -, -, -, rfl⟩ := mem_fixesIn hp hfile hf
  rfl

theorem fits_of_mem_fixesIn (hp : p.Faithful) (hfile : file ∈ p.files)
    (hsource : file.source = some source) :
    ∀ f ∈ l.fixesIn p file, f.fits source.toList = true := by
  intro f hf
  obtain ⟨field, tag, text, value, tags, _, hfield, hrepeats, -, rfl⟩ := mem_fixesIn hp hfile hf
  have htag := hrepeats.mem_tags hfield
  have hspan : (sameNameFix ⟨file, field, tag⟩ tags).span = tag.span :=
    hp.span_ofSpan hfile hsource htag
  rw [Fix.fits, hspan, hp.slice?_tag hfile hsource htag]
  rfl

theorem pairwise_fixesIn (hl : l.Built) (hp : p.Faithful) (hfile : file ∈ p.files)
    (hsource : file.source = some source) :
    (l.fixesIn p file).Pairwise fun a b => a.conflictsWith b = false := by
  obtain ⟨fixes, hperm, hsub⟩ := fixesIn_subperm hl hp hfile
  refine ((hp.conflict_free hfile hsource).sublist hsub).perm hperm ?_
  intro a b hab
  rwa [Fix.conflictsWith_comm]

/-- The fixes of a run that lie in a file are all applied to its source. In the result exactly the
tags reported to repeat a name are replaced, each by what its report suggests, and everything else
is unchanged. -/
theorem applyAll_fixesIn (hl : l.Built) (hp : p.Faithful) (hfile : file ∈ p.files)
    (hsource : file.source = some source) :
    (Fix.applyAll source (l.fixesIn p file)).applied.Perm (l.fixesIn p file) ∧
      (Fix.applyAll source (l.fixesIn p file)).skipped = [] ∧
      (Fix.applyAll source (l.fixesIn p file)).errors = [] ∧
      ∃ swaps, Spliced 0 swaps source.toList
          (Fix.applyAll source (l.fixesIn p file)).content.toList ∧
        (∀ tag d, l.Flags p file tag d →
          ∃ s, d.suggestions = [s] ∧ (tag.span, s.replacement.toList) ∈ swaps) ∧
        ∀ span new, (span, new) ∈ swaps → ∃ tag d s, l.Flags p file tag d ∧
          d.suggestions = [s] ∧ span = tag.span ∧ new = s.replacement.toList := by
  have hsame : ∀ a ∈ l.fixesIn p file, ∀ b ∈ l.fixesIn p file,
      Path.same a.location.file b.location.file = true := by
    intro a ha b hb
    rw [file_of_mem_fixesIn hp hfile a ha, file_of_mem_fixesIn hp hfile b hb]
    simp [Path.same]
  obtain ⟨happlied, hskipped, hfailed, hspliced⟩ := Fix.applyAll_of_fits hsame
    (pairwise_fixesIn hl hp hfile hsource) (fits_of_mem_fixesIn hp hfile hsource)
  have hperm := Fix.inOrder_perm (l.fixesIn p file)
  refine ⟨by rwa [happlied], hskipped, by rw [FixResult.errors, hfailed, List.map_nil], _,
    hspliced, ?_, ?_⟩
  · -- a reported tag is replaced
    intro tag d hflags
    obtain ⟨s, hs, f, hf, hplace, hreplacement⟩ := hflags.exists_fix
    refine ⟨s, hs, List.mem_map.2 ⟨f, hperm.mem_iff.2 hf, ?_⟩⟩
    rw [Fix.swap, Fix.span, hplace, hreplacement, hp.span_ofSpan hfile hsource hflags.tag_mem]
  · -- nothing else is replaced: every fix comes from such a report
    intro span new hswap
    obtain ⟨f, hf, hfswap⟩ := List.mem_map.1 hswap
    obtain ⟨field, tag, text, value, tags, severity, hfield, hrepeats, hreported, rfl⟩ :=
      mem_fixesIn hp hfile (hperm.mem_iff.1 hf)
    obtain ⟨rfl, rfl⟩ := Prod.mk.inj hfswap
    have htag := hrepeats.mem_tags hfield
    exact ⟨tag, _, _, ⟨htag, hreported, rfl, rfl⟩, rfl, hp.span_ofSpan hfile hsource htag, rfl⟩

end Faithful

/-- A file with two tags that repeat names, the second one in a nested struct. -/
def nestedFile : SourceFile :=
  ⟨"a", some "é \x60json:\"A\"\x60 \x60json:\"B,x\"\x60",
    [⟨none, {}, [⟨some "A", none, {}, some ⟨"\x60json:\"A\"\x60", ⟨3, 13⟩⟩,
      [⟨none, {}, [⟨some "B", none, {}, some ⟨"\x60json:\"B,x\"\x60", ⟨14, 26⟩⟩, []⟩]⟩]⟩]⟩]⟩

theorem faithful_nestedFile : Package.Faithful ⟨none, [nestedFile]⟩ := by
  have htags : nestedFile.tags =
      [⟨"\x60json:\"A\"\x60", ⟨3, 13⟩⟩, ⟨"\x60json:\"B,x\"\x60", ⟨14, 26⟩⟩] := by
    cbv
  refine ⟨List.pairwise_singleton _ _, ?_, ?_⟩
  · intro file hfile tag htag
    obtain rfl := List.mem_singleton.1 hfile
    rw [htags] at htag
    rcases List.mem_pair.1 htag with rfl | rfl
    · cbv
    · cbv
  · intro file hfile
    obtain rfl := List.mem_singleton.1 hfile
    rw [htags]
    simp [Span.Disjoint]

set_option maxRecDepth 100000 in
/-- The first tag goes, the second one loses its name, and the rest is as it was. -/
theorem applyAll_fixesIn_nested :
    Package.Faithful ⟨none, [nestedFile]⟩ ∧
      (Fix.applyAll "é \x60json:\"A\"\x60 \x60json:\"B,x\"\x60"
        (fixesIn {} ⟨none, [nestedFile]⟩ nestedFile)).content = "é  \x60json:\",x\"\x60" ∧
      (Fix.applyAll "é \x60json:\"A\"\x60 \x60json:\"B,x\"\x60"
        (fixesIn {} ⟨none, [nestedFile]⟩ nestedFile)).skipped = [] ∧
      ∃ swaps, Spliced 0 swaps "é \x60json:\"A\"\x60 \x60json:\"B,x\"\x60".toList
        "é  \x60json:\",x\"\x60".toList := by
  have hcontent : (Fix.applyAll "é \x60json:\"A\"\x60 \x60json:\"B,x\"\x60"
      (fixesIn {} ⟨none, [nestedFile]⟩ nestedFile)).content = "é  \x60json:\",x\"\x60" := by
    cbv
  obtain ⟨-, hskipped, -, swaps, hspliced, -⟩ :=
    applyAll_fixesIn .default faithful_nestedFile (List.mem_singleton.2 rfl)
      (show nestedFile.source = some _ from rfl)
  rw [hcontent] at hspliced
  exact ⟨faithful_nestedFile, hcontent, hskipped, swaps, hspliced⟩

end Linter

end StructTags
