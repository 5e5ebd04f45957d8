import StructTags.File.Tree
import StructTags.Fix.Files
import StructTags.Proofs.Autofix
import StructTags.Proofs.FileSystems
import StructTags.Proofs.PlaceOrder

/-!
# Stale exports

Fixes of all exports are put together by path, and a file is compared with one text only: the last
one that was exported for its path.

* `Fix.fixFile_eq` parts what is decided about one file from what is done about it. The decision
  depends on the text of the file alone.
* `Fix.fixFile_cases` says what may happen to one file, and `Fix.mem_applied_fixFiles` what a run
  over all files applies. A fix is `Applied` to the text that the file has when its turn has come.
* `Fix.grouped_byFile`: fixes stand under the path of their own file.
* `Sources.text?_ofFiles_eq_some_iff` says which text a file is compared with.

So `Fix.applied_current_iff`: a fix that is applied was computed from the text in the file, unless
that of its export was followed by another one for the same path. In that case the fix is applied to
a text that it was not made for (`Fix.stale_export_applied`).

All this holds for every file system, that is, for any states with access to files.
-/

namespace StructTags

/-! ## The last text of a path -/

/-- The text of the last of the files that has the path and holds a text. -/
def LastExported (files : List SourceFile) (path text : String) : Prop :=
  ∃ before file after, files = before ++ file :: after ∧ Path.same file.path path = true ∧
    file.source = some text ∧
      ∀ later ∈ after, Path.same later.path path = true → later.source = none

namespace Sources

/-- The texts that files hold. -/
def ofFiles (files : List SourceFile) : Sources :=
  files.filterMap fun file => file.source.map fun source => (file.path, source)

theorem flatMap_sources (packages : List Package) :
    packages.flatMap (·.sources) = ofFiles (packages.flatMap (·.files)) := by
  rw [ofFiles, List.filterMap_flatMap]
  rfl

/-- The file whose text counts for a path. -/
theorem text?_ofFiles (files : List SourceFile) (path : String) :
    (ofFiles files).text? path = (files.reverse.find? fun file =>
      file.source.isSome && Path.same file.path path).bind (·.source) := by
  have hany (file : SourceFile) : (file.source.map fun source => (file.path, source)).any
      (fun entry => Path.same entry.1 path) = (file.source.isSome && Path.same file.path path) := by
    cases file.source <;> simp
  simp only [text?, ofFiles, ← List.filterMap_reverse, List.find?_filterMap, hany,
    Option.map_bind, Function.comp_def, Option.map_map, Option.map_id']

theorem text?_ofFiles_eq_some_iff {files : List SourceFile} {path text : String} :
    (ofFiles files).text? path = some text ↔ LastExported files path text := by
  rw [text?_ofFiles, Option.bind_eq_some_iff]
  constructor
  · rintro ⟨file, hfind, hsource⟩
    obtain ⟨hfile, after, before, heq, hnone⟩ := List.find?_eq_some_iff_append.1 hfind
    rw [Bool.and_eq_true] at hfile
    refine ⟨before.reverse, file, after.reverse, ?_, hfile.2, hsource, ?_⟩
    · rw [← files.reverse_reverse, heq]
      simp
    · intro later hlater hsame
      simpa [hsame] using hnone later (List.mem_reverse.1 hlater)
  · rintro ⟨before, file, after, rfl, hsame, hsource, hlater⟩
    refine ⟨file, List.find?_eq_some_iff_append.2 ⟨?_, after.reverse, before.reverse, ?_, ?_⟩,
      hsource⟩
    · simp [hsame, hsource]
    · simp
    · intro later hmem
      cases hpath : Path.same later.path path with
      | false => simp
      | true => simp [hlater later (List.mem_reverse.1 hmem) hpath]

theorem exists_lastExported {files : List SourceFile} {file : SourceFile} {path source : String}
    (hfile : file ∈ files) (hsame : Path.same file.path path = true)
    (hsource : file.source = some source) : ∃ text, LastExported files path text := by
  have hfind : (files.reverse.find? fun file =>
      file.source.isSome && Path.same file.path path).isSome :=
    List.find?_isSome.2 ⟨file, List.mem_reverse.2 hfile, by simp [hsame, hsource]⟩
  obtain ⟨last, hlast⟩ := Option.isSome_iff_exists.1 hfind
  have hsome := List.find?_some hlast
  rw [Bool.and_eq_true] at hsome
  obtain ⟨text, htext⟩ := Option.isSome_iff_exists.1 hsome.1
  exact ⟨text, text?_ofFiles_eq_some_iff.1 (by rw [text?_ofFiles, hlast, Option.bind_some, htext])⟩

end Sources

namespace Fix

/-! ## The fixes for a file -/

/-- Every fix is listed under the path of its file, and none comes from elsewhere. -/
def Grouped (fixes : List Fix) (files : List (String × List Fix)) : Prop :=
  ∀ x ∈ files, ∀ f ∈ x.2, f ∈ fixes ∧ Path.same f.location.file x.1 = true

theorem grouped_addToFile {fixes : List Fix} {files : List (String × List Fix)} {f : Fix}
    (hf : f ∈ fixes) (h : Grouped fixes files) : Grouped fixes (addToFile f files) := by
  have hnew : ∀ g ∈ [f], g ∈ fixes ∧ Path.same g.location.file f.location.file = true := by
    simp [hf, Path.same]
  induction files with
  | nil => exact List.forall_mem_singleton.2 hnew
  | cons x rest ih =>
    obtain ⟨hx, hrest⟩ := List.forall_mem_cons.1 h
    rw [addToFile]
    split
    · exact List.forall_mem_cons.2 ⟨hnew, h⟩
    · rename_i hsame
      refine List.forall_mem_cons.2 ⟨List.forall_mem_append.2 ⟨hx, ?_⟩, hrest⟩
      exact List.forall_mem_singleton.2 ⟨hf, Path.compare_eq_eq_iff.1 hsame⟩
    · exact List.forall_mem_cons.2 ⟨hx, ih hrest⟩

theorem grouped_byFile (fixes : List Fix) : Grouped fixes (byFile fixes) := by
  refine List.foldlRecOn fixes _ (fun x hx => by simp at hx) ?_
  intro files hfiles f hf
  exact grouped_addToFile hf hfiles

theorem mem_of_mem_choose {taken fixes : List Fix} {f : Fix} (h : f ∈ (choose taken fixes).1) :
    f ∈ taken ∨ f ∈ fixes := by
  fun_induction choose taken fixes with
  | case1 taken => exact .inl (List.mem_reverse.1 h)
  | case2 taken g rest _ chosen skipped heq ih =>
    rw [heq] at ih
    exact (ih h).imp_right (List.mem_cons_of_mem g)
  | case3 taken g rest _ ih =>
    rcases ih h with htaken | hrest
    · rcases List.mem_cons.1 htaken with rfl | htaken
      · exact .inr List.mem_cons_self
      · exact .inl htaken
    · exact .inr (List.mem_cons_of_mem g hrest)

theorem mem_of_mem_applyEach {cs : List Char} {fixes : List Fix} {f : Fix}
    (h : f ∈ (applyEach cs fixes).applied) : f ∈ fixes := by
  induction fixes using List.reverseRecOn with
  | nil => simp [applyEach] at h
  | append_singleton fixes g ih =>
    rw [applyEach_append_singleton] at h
    split at h
    · rcases List.mem_cons.1 h with rfl | h
      · simp
      · exact List.mem_append_left _ (ih h)
    · exact List.mem_append_left _ (ih h)

/-- Only fixes that were given are applied. -/
theorem mem_of_mem_applied {content : String} {fixes : List Fix} {f : Fix}
    (h : f ∈ (applyAll content fixes).applied) : f ∈ fixes := by
  have hchosen : f ∈ (choose [] (inOrder fixes)).1 := List.mem_reverse.1 (mem_of_mem_applyEach h)
  rcases mem_of_mem_choose hchosen with hnone | hf
  · simp at hnone
  · exact (inOrder_perm fixes).mem_iff.1 hf

/-! ## One file -/

/-- A file that is to get another text. -/
structure FileChange where
  path : String
  before : String
  after : String

/-- A file with the given text is to be changed: it is as it was exported last, and some fix applies
to it. -/
def IsDue (sources : Sources) (path : String) (fixes : List Fix) (content : String) : Prop :=
  isStale sources path content = false ∧ (applyAll content fixes).applied ≠ []

section Plan

variable {sources : Sources} {path : String} {fixes : List Fix}

/-- The change that is due to a file, by what reading it has given. -/
def change? (sources : Sources) (path : String) (fixes : List Fix) :
    Except IoFault String → Option FileChange
  | .error _ => none
  | .ok content =>
    if isStale sources path content || (applyAll content fixes).applied.isEmpty then none
    else some ⟨path, content, (applyAll content fixes).content⟩

/-- What is to be reported about the file if the change can be made. -/
def reportOn (sources : Sources) (path : String) (fixes : List Fix) :
    Except IoFault String → FixReport
  | .error fault => { log := [(Error.io path fault).message] }
  | .ok content =>
    if isStale sources path content then {}
    else
      { applied := (applyAll content fixes).applied.map fun f => (path, f.id)
        log := (applyAll content fixes).errors.map fun e => "Fix error in " ++ path ++ ": " ++ e }

theorem change?_eq_some_iff {text : Except IoFault String} {c : FileChange} :
    change? sources path fixes text = some c ↔
      text = .ok c.before ∧ c.path = path ∧ IsDue sources path fixes c.before ∧
        c.after = (applyAll c.before fixes).content := by
  cases text with
  | error fault => simp [change?]
  | ok content =>
    rw [change?, Except.ok.injEq]
    constructor
    · intro h
      split at h
      · cases h
      · next hdue =>
        obtain rfl := Option.some.inj h
        exact ⟨rfl, rfl, by simpa [IsDue] using hdue, rfl⟩
    · rintro ⟨rfl, rfl, hdue, hafter⟩
      rw [if_neg (by simpa [IsDue] using hdue), ← hafter]

theorem applied_reportOn_of_none {text : Except IoFault String}
    (h : change? sources path fixes text = none) :
    (reportOn sources path fixes text).applied = [] := by
  cases text with
  | error fault => rfl
  | ok content =>
    rw [reportOn]
    split
    · rfl
    · next hstale =>
      have happlied : (applyAll content fixes).applied = [] := by
        simpa [change?, hstale] using h
      simp [happlied]

theorem applied_reportOn_of_due {content : String} (h : IsDue sources path fixes content) :
    (reportOn sources path fixes (.ok content)).applied =
      (applyAll content fixes).applied.map fun f => (path, f.id) := by
  simp [reportOn, h.1]

/-- It is the same report in a preview and in a run: there is no diff and no failure in it yet. -/
theorem reportOn_neutral (text : Except IoFault String) :
    (reportOn sources path fixes text).diffs = [] ∧
      (reportOn sources path fixes text).failure? = none := by
  cases text with
  | error fault => exact ⟨rfl, rfl⟩
  | ok content =>
    rw [reportOn]
    split
    · exact ⟨rfl, rfl⟩
    · exact ⟨rfl, rfl⟩

variable {m : Type → Type} [Monad m] [FileAccess m]

/-- Writes a change, or shows it. -/
def carryOut (write : Bool) (report : FixReport) : Option FileChange → m FixReport
  | none => return report
  | some c => do
    if write then
      match ← FileAccess.write c.path c.after with
      | .ok () => return report
      | .error fault => return { report with applied := [], failure? := some (.io c.path fault) }
    else return { report with diffs := [Diff.unified c.before c.after c.path] }

/-- What is to be done about a file is decided by its text, before anything is written. -/
theorem fixFile_eq (write : Bool) :
    (fixFile sources write path fixes : m FixReport) = FileAccess.readText path >>= fun text =>
      carryOut write (reportOn sources path fixes text) (change? sources path fixes text) := by
  unfold fixFile
  refine bind_congr fun text => ?_
  cases text with
  | error fault => rfl
  | ok content =>
    cases hstale : isStale sources path content with
    | true => simp [change?, reportOn, carryOut, hstale]
    | false =>
      cases hempty : (applyAll content fixes).applied.isEmpty with
      | true => simp_all [change?, reportOn, carryOut]
      | false =>
        simp only [change?, reportOn, hstale, hempty, Bool.or_self, Bool.false_eq_true, if_false]
        rfl

end Plan

theorem run_bind {σ α β : Type} (x : StateM σ α) (f : α → StateM σ β) (s : σ) :
    (x >>= f).run s = (f (x.run s).1).run (x.run s).2 :=
  rfl

section Run

variable {σ : Type} [FileAccess (StateM σ)] {sources : Sources}

/-- What reading a file gives in a state of the file system. -/
def textIn (s : σ) (path : String) : Except IoFault String :=
  ((FileAccess.readText path : StateM σ _).run s).1

/-- The state after a file has been read. -/
def afterRead (s : σ) (path : String) : σ :=
  ((FileAccess.readText path : StateM σ _).run s).2

theorem run_fixFile (s : σ) (write : Bool) (path : String) (fixes : List Fix) :
    (fixFile sources write path fixes : StateM σ FixReport).run s =
      (carryOut write (reportOn sources path fixes (textIn s path))
        (change? sources path fixes (textIn s path)) : StateM σ FixReport).run
          (afterRead s path) := by
  rw [fixFile_eq, run_bind]
  rfl

/-- A change that can be written is reported as planned. -/
theorem run_carryOut_written {s : σ} {c : FileChange}
    (h : ((FileAccess.write c.path c.after : StateM σ _).run s).1 = .ok ()) (report : FixReport) :
    (carryOut true report (some c) : StateM σ FixReport).run s =
      (report, written s c.path c.after) := by
  simp only [carryOut, if_true]
  rw [run_bind, h]
  rfl

/-- Otherwise no fix is reported as applied. -/
theorem run_carryOut_failed {s : σ} {c : FileChange} {fault : IoFault}
    (h : ((FileAccess.write c.path c.after : StateM σ _).run s).1 = .error fault)
    (report : FixReport) :
    (carryOut true report (some c) : StateM σ FixReport).run s =
      ({ report with applied := [], failure? := some (.io c.path fault) },
        written s c.path c.after) := by
  simp only [carryOut, if_true]
  rw [run_bind, h]
  rfl

/-- Fixing one file in a state: the report, and the state after it. -/
def fixFileIn (sources : Sources) (s : σ) (path : String) (fixes : List Fix) : FixReport × σ :=
  (fixFile sources true path fixes : StateM σ FixReport).run s

/-- In a state with the given text in the file, the fixes rewrite it: some are reported as applied,
and what they make of the text is written. -/
structure Rewrites (sources : Sources) (s : σ) (path : String) (fixes : List Fix)
    (content : String) : Prop where
  text_eq : textIn s path = .ok content
  reported : (fixFileIn sources s path fixes).1.applied ≠ []
  state_eq : (fixFileIn sources s path fixes).2 =
    written (afterRead s path) path (applyAll content fixes).content

/-- What happens to one file: nothing is applied, or the file holds the text that was exported last
and all fixes that can be are applied to it. -/
theorem fixFile_cases (sources : Sources) (s : σ) (path : String) (fixes : List Fix) :
    let result := fixFileIn sources s path fixes
    result.1.applied = [] ∨
      result.1.failure? = none ∧ ∃ content, textIn s path = .ok content ∧
        IsDue sources path fixes content ∧
        result.1.applied = ((applyAll content fixes).applied.map fun f => (path, f.id)) ∧
        result.2 = written (afterRead s path) path (applyAll content fixes).content := by
  simp only [fixFileIn, run_fixFile]
  cases hchange : change? sources path fixes (textIn s path) with
  | none => exact .inl (applied_reportOn_of_none hchange)
  | some c =>
    obtain ⟨htext, rfl, hdue, hafter⟩ := change?_eq_some_iff.1 hchange
    cases hwrite : ((FileAccess.write c.path c.after : StateM σ _).run (afterRead s c.path)).1 with
    | error fault =>
      rw [run_carryOut_failed hwrite]
      exact .inl rfl
    | ok =>
      rw [run_carryOut_written hwrite, htext]
      exact .inr ⟨(reportOn_neutral _).2, c.before, rfl, hdue, applied_reportOn_of_due hdue,
        by rw [hafter]⟩

theorem Rewrites.not_stale {s : σ} {path content : String} {fixes : List Fix}
    (h : Rewrites sources s path fixes content) : isStale sources path content = false := by
  rcases fixFile_cases sources s path fixes with happlied | ⟨-, content', htext, hdue, -⟩
  · exact absurd happlied h.reported
  · obtain rfl := Except.ok.inj (h.text_eq.symm.trans htext)
    exact hdue.1

/-- The report lists the fixes of a file that is rewritten. -/
theorem mem_applied_fixFile {s : σ} {path : String} {fixes : List Fix} {x : String × String} :
    x ∈ (fixFileIn sources s path fixes).1.applied ↔
      ∃ content, Rewrites sources s path fixes content ∧
        ∃ f ∈ (applyAll content fixes).applied, (path, f.id) = x := by
  rcases fixFile_cases sources s path fixes with
    happlied | ⟨-, content, htext, hdue, happlied, hstate⟩
  · constructor
    · simp [happlied]
    · rintro ⟨content, hrewrites, -⟩
      exact absurd happlied hrewrites.reported
  · have hreported : (fixFileIn sources s path fixes).1.applied ≠ [] := by
      rw [happlied]
      simpa using hdue.2
    rw [happlied, List.mem_map]
    constructor
    · intro hx
      exact ⟨content, ⟨htext, hreported, hstate⟩, hx⟩
    · rintro ⟨content', hrewrites, hx⟩
      obtain rfl := Except.ok.inj (hrewrites.text_eq.symm.trans htext)
      exact hx

/-! ## All files -/

/-- Fixing files one after the other: the report, and the state after the last one. -/
def fixFilesIn (sources : Sources) (s : σ) (files : List (String × List Fix)) : FixReport × σ :=
  (fixFiles sources true files : StateM σ FixReport).run s

/-- In a run from a state, the fix is applied to the file at the path, and the text of the file is
`content` when the files before it are done. -/
def Applied (sources : Sources) (files : List (String × List Fix)) (s : σ) (path content : String)
    (f : Fix) : Prop :=
  ∃ before fixes after, files = before ++ (path, fixes) :: after ∧
    (fixFilesIn sources s before).1.failure? = none ∧
    Rewrites sources (fixFilesIn sources s before).2 path fixes content ∧
    f ∈ (applyAll content fixes).applied

section Cons

variable {path' : String} {fixes : List Fix} {s : σ}

theorem fixFilesIn_cons_failed (rest : List (String × List Fix))
    (h : (fixFileIn sources s path' fixes).1.failure? ≠ none) :
    fixFilesIn sources s ((path', fixes) :: rest) = fixFileIn sources s path' fixes := by
  rw [fixFileIn] at h
  rw [fixFilesIn, fixFiles, run_bind, if_pos (Option.isSome_iff_ne_none.2 h)]
  rfl

theorem fixFilesIn_cons_ok (rest : List (String × List Fix))
    (h : (fixFileIn sources s path' fixes).1.failure? = none) :
    fixFilesIn sources s ((path', fixes) :: rest) =
      let step := fixFileIn sources s path' fixes
      let next := fixFilesIn sources step.2 rest
      (step.1.append next.1, next.2) := by
  rw [fixFileIn] at h
  rw [fixFilesIn, fixFiles, run_bind, if_neg (Option.not_isSome_iff_eq_none.2 h)]
  rfl

/-- A fix is applied to the first file, or to another one after that. -/
theorem applied_cons_iff {path content : String} {rest : List (String × List Fix)} {f : Fix} :
    Applied sources ((path', fixes) :: rest) s path content f ↔
      path' = path ∧ Rewrites sources s path' fixes content ∧
          f ∈ (applyAll content fixes).applied ∨
        (fixFileIn sources s path' fixes).1.failure? = none ∧
          Applied sources rest (fixFileIn sources s path' fixes).2 path content f := by
  constructor
  · rintro ⟨before, fixes', after, heq, hok, hrewrites, hf⟩
    cases before with
    | nil =>
      obtain ⟨hhead, rfl⟩ := List.cons.inj heq
      obtain ⟨rfl, rfl⟩ := Prod.mk.inj hhead
      exact .inl ⟨rfl, hrewrites, hf⟩
    | cons x before =>
      obtain ⟨rfl, rfl⟩ := List.cons.inj heq
      by_cases hstep : (fixFileIn sources s path' fixes).1.failure? = none
      · rw [fixFilesIn_cons_ok before hstep] at hok hrewrites
        exact .inr ⟨hstep, before, fixes', after, rfl, hok, hrewrites, hf⟩
      · rw [fixFilesIn_cons_failed before hstep] at hok
        exact absurd hok hstep
  · rintro (⟨rfl, hrewrites, hf⟩ | ⟨hstep, before, fixes', after, rfl, hok, hrewrites, hf⟩)
    · exact ⟨[], fixes, rest, rfl, rfl, hrewrites, hf⟩
    · refine ⟨(path', fixes) :: before, fixes', after, rfl, ?_, ?_, hf⟩
      · rw [fixFilesIn_cons_ok before hstep]
        exact hok
      · rw [fixFilesIn_cons_ok before hstep]
        exact hrewrites

end Cons

/-- The report of a run lists the fixes that are applied, and nothing else. -/
theorem mem_applied_fixFiles {files : List (String × List Fix)} {s : σ} {path id : String} :
    (path, id) ∈ (fixFilesIn sources s files).1.applied ↔
      ∃ content f, Applied sources files s path content f ∧ f.id = id := by
  -- the remaining files meet the state that the first one leaves behind
  induction files generalizing s with
  | nil =>
    have hnone : (fixFilesIn sources s []).1.applied = [] := rfl
    simp [hnone, Applied]
  | cons x rest ih =>
    obtain ⟨path', fixes⟩ := x
    have hhead : (path, id) ∈ (fixFileIn sources s path' fixes).1.applied ↔
        ∃ content f, (path' = path ∧ Rewrites sources s path' fixes content ∧
          f ∈ (applyAll content fixes).applied) ∧ f.id = id := by
      rw [mem_applied_fixFile]
      constructor
      · rintro ⟨content, hrewrites, f, hf, heq⟩
        obtain ⟨rfl, rfl⟩ := Prod.mk.inj heq
        exact ⟨content, f, ⟨rfl, hrewrites, hf⟩, rfl⟩
      · rintro ⟨content, f, ⟨rfl, hrewrites, hf⟩, rfl⟩
        exact ⟨content, hrewrites, f, hf, rfl⟩
    simp only [applied_cons_iff, or_and_right, exists_or]
    rw [← hhead]
    by_cases hstep : (fixFileIn sources s path' fixes).1.failure? = none
    · rw [fixFilesIn_cons_ok rest hstep]
      simp only [hstep, true_and]
      rw [← ih]
      exact List.mem_append
    · rw [fixFilesIn_cons_failed rest hstep]
      simp [hstep]

end Run

/-! ## Where fixes come from -/

/-- A report on a field of the file suggests the fix. -/
def ComputedFrom (f : Fix) (file : SourceFile) : Prop :=
  ∃ field ∈ visitStructs file.structs, ∃ dialect : Dialect,
    ∃ d ∈ dialect.checker.reportsOn file field, f ∈ suggestedBy d

theorem ComputedFrom.file_eq {f : Fix} {file : SourceFile} (h : f.ComputedFrom file) :
    f.location.file = file.path := by
  obtain ⟨field, -, dialect, d, hd, hf⟩ := h
  by_cases hjson : dialect = .json
  · subst hjson
    obtain ⟨tag, text, value, tags, -, rfl⟩ :=
      mem_suggestedOn (List.mem_flatMap.2 ⟨d, hd, hf⟩ : f ∈ suggestedOn file field)
    rfl
  · rw [suggestedBy_plain (Dialect.plain_of_ne_json hjson d hd)] at hf
    simp at hf

theorem exists_computedFrom {l : Linter} {p : Package} {d : Diagnostic} (hd : d ∈ l.lint p)
    {f : Fix} (hf : f ∈ suggestedBy d) : ∃ file ∈ p.files, f.ComputedFrom file := by
  obtain ⟨dialect, -, file, field, hvisit, d', hd', severity, rfl⟩ := Linter.mem_lint hd
  obtain ⟨hfile, hfield⟩ := mem_visit.1 hvisit
  rw [suggestedBy_severity] at hf
  exact ⟨file, hfile, field, hfield, dialect, d', hd', hf⟩

section Exports

variable {σ : Type} [FileAccess (StateM σ)] {packages : List Package} {s : σ}
  {path content : String} {f : Fix}

/-- A file is rewritten only if it still holds the text that was exported last. -/
theorem Applied.eq_of_lastExported {files : List (String × List Fix)} {text : String}
    (h : Applied (packages.flatMap (·.sources)) files s path content f)
    (hlast : LastExported (packages.flatMap (·.files)) path text) : text = content := by
  obtain ⟨before, fixes, after, -, -, hrewrites, -⟩ := h
  have hcurrent := hrewrites.not_stale
  rw [isStale, Sources.flatMap_sources, Sources.text?_ofFiles_eq_some_iff.2 hlast] at hcurrent
  simpa using hcurrent

/-- A fix is applied under the path of its file. -/
theorem Applied.mem_and_same {sources : Sources} {fixes : List Fix}
    (h : Applied sources (byFile fixes) s path content f) :
    f ∈ fixes ∧ Path.same f.location.file path = true := by
  obtain ⟨before, group, after, heq, -, -, hf⟩ := h
  have hgroup : (path, group) ∈ byFile fixes := by
    rw [heq]
    simp
  exact grouped_byFile fixes _ hgroup f (mem_of_mem_applied hf)

/-- In a run that fixes what diagnostics about packages suggest, the fix is applied to the file at
the path, which holds the text `content` when it is read. -/
def AppliedBy (ds : List Diagnostic) (packages : List Package) (s : σ) (path content : String)
    (f : Fix) : Prop :=
  Applied (packages.flatMap (·.sources)) (byFile (collect ds false)) s path content f

/-- The report lists the fixes that are applied, and each of them was computed from one of the
exported files. Such a file is free of text or up to date exactly if it has no other text than the
last one that was exported for the path. -/
theorem applied_current_iff {l : Linter} {ds : List Diagnostic}
    (hds : ∀ d ∈ ds, ∃ p ∈ packages, d ∈ l.lint p) (s : σ) :
    (∀ path id,
      (path, id) ∈ ((applySuggested ds packages true : StateM σ FixReport).run s).1.applied ↔
        ∃ content f, AppliedBy ds packages s path content f ∧ f.id = id) ∧
    ∀ path content f, AppliedBy ds packages s path content f →
      (∃ file ∈ packages.flatMap (·.files), f.ComputedFrom file) ∧
      ∀ file ∈ packages.flatMap (·.files), f.ComputedFrom file →
        (file.source = none ∨ file.source = some content ↔
          ∀ text, file.source = some text →
            LastExported (packages.flatMap (·.files)) path text) := by
  refine ⟨fun path id => mem_applied_fixFiles, ?_⟩
  intro path content f happlied
  obtain ⟨hf, hpath⟩ := happlied.mem_and_same
  constructor
  · rw [collect_eq_flatMap] at hf
    obtain ⟨d, hd, hf⟩ := List.mem_flatMap.1 hf
    obtain ⟨p, hp, hd⟩ := hds d hd
    obtain ⟨file, hfile, hcomputed⟩ := exists_computedFrom hd hf
    exact ⟨file, List.mem_flatMap.2 ⟨p, hp, hfile⟩, hcomputed⟩
  intro file hfile hcomputed
  -- the file has the path of the fix, so one of its texts is the one compared with the disk
  have hsame : Path.same file.path path = true := by
    rw [← hcomputed.file_eq]
    exact hpath
  constructor
  · intro hcurrent text htext
    obtain ⟨last, hlast⟩ := Sources.exists_lastExported hfile hsame htext
    rcases hcurrent with hnone | hcontent
    · rw [htext] at hnone
      cases hnone
    · rw [htext, Option.some.injEq, ← happlied.eq_of_lastExported hlast] at hcontent
      rwa [hcontent]
  · intro hlast
    cases htext : file.source with
    | none => exact .inl rfl
    | some text => exact .inr (by rw [happlied.eq_of_lastExported (hlast text htext)])

end Exports

/-! ## Two exports of one file -/

/-- A file that holds nothing but a tag. -/
def taggedFile : SourceFile :=
  ⟨"m.go", some "\x60json:\"A\"\x60",
    [⟨none, {}, [⟨some "A", none, {}, some ⟨"\x60json:\"A\"\x60", ⟨0, 10⟩⟩, []⟩]⟩]⟩

/-- The same file with another text. -/
def untaggedFile : SourceFile :=
  ⟨"m.go", some "package m\n", []⟩

theorem not_computedFrom_untaggedFile (f : Fix) : ¬ f.ComputedFrom untaggedFile := by
  rintro ⟨field, hfield, -⟩
  simp [untaggedFile, visitStructs, enteredAll] at hfield

/-- A directory with this file alone. -/
def treeWith (text : String) : File.Tree :=
  ⟨.directory [("m.go", .file (Utf8.encode text.toList))], []⟩

/-- An export of the one file followed by an export of the other one. -/
def exportsOf (first second : SourceFile) : List Package :=
  [⟨none, [first]⟩, ⟨none, [second]⟩]

/-- What is reported about two exports. -/
def reportsOf (first second : SourceFile) : List Diagnostic :=
  (exportsOf first second).flatMap (Linter.ofConfig {}).lint

/-- Fixing what two exports suggest, in a directory where the file holds the given text. -/
def fixExports (first second : SourceFile) (text : String) : FixReport × File.Tree :=
  (applySuggested (reportsOf first second) (exportsOf first second) true :
    StateM File.Tree FixReport).run (treeWith text)

set_option maxRecDepth 100000 in
theorem applied_current_iff_tagged :
    (fixExports untaggedFile taggedFile "\x60json:\"A\"\x60").1.applied =
        [("m.go", "json/same-tag-name@0")] ∧
      ∃ content f, AppliedBy (reportsOf untaggedFile taggedFile)
          (exportsOf untaggedFile taggedFile) (treeWith "\x60json:\"A\"\x60") "m.go" content f ∧
        f.ComputedFrom taggedFile ∧ taggedFile.source = some content := by
  have hrun : (fixExports untaggedFile taggedFile "\x60json:\"A\"\x60").1.applied =
      [("m.go", "json/same-tag-name@0")] := by
    cbv
  have hds : ∀ d ∈ reportsOf untaggedFile taggedFile, ∃ p ∈ exportsOf untaggedFile taggedFile,
      d ∈ (Linter.ofConfig {}).lint p :=
    fun _ hd => List.mem_flatMap.1 hd
  obtain ⟨hreport, hcurrent⟩ := applied_current_iff hds (treeWith "\x60json:\"A\"\x60")
  obtain ⟨content, f, happlied, -⟩ :=
    (hreport _ _).1 (hrun ▸ List.mem_singleton_self _ : _ ∈ (fixExports _ _ _).1.applied)
  obtain ⟨⟨file, hfile, hcomputed⟩, hiff⟩ := hcurrent "m.go" content f happlied
  have htagged : f.ComputedFrom taggedFile := by
    rcases List.mem_pair.1 hfile with rfl | rfl
    · exact absurd hcomputed (not_computedFrom_untaggedFile f)
    · exact hcomputed
  refine ⟨hrun, content, f, happlied, htagged, ?_⟩
  refine ((hiff taggedFile (.tail _ (.head _)) htagged).2 ?_).resolve_left (by decide)
  intro text htext
  exact ⟨[untaggedFile], taggedFile, [], rfl, by decide, htext, by simp⟩

set_option maxRecDepth 100000 in
/-- A fix that was computed from an outdated text is applied if a later export has the text that the
file holds now. Here nothing is left of the file. -/
theorem stale_export_applied :
    textIn (fixExports taggedFile untaggedFile "package m\n").2 "m.go" = .ok "" ∧
      ∃ content f, AppliedBy (reportsOf taggedFile untaggedFile)
          (exportsOf taggedFile untaggedFile) (treeWith "package m\n") "m.go" content f ∧
        ¬ ∃ file ∈ (exportsOf taggedFile untaggedFile).flatMap (·.files), f.ComputedFrom file ∧
          (file.source = none ∨ file.source = some content) := by
  -- one evaluation gives the report and the file after it
  have hboth : let result := fixExports taggedFile untaggedFile "package m\n"
      (result.1.applied, textIn result.2 "m.go") = ([("m.go", "json/same-tag-name@0")], .ok "") := by
    cbv
  obtain ⟨hrun, htext⟩ := Prod.mk.inj hboth
  obtain ⟨content, f, happlied, -⟩ := mem_applied_fixFiles.1
    (hrun ▸ List.mem_singleton_self _ : _ ∈ (fixExports taggedFile untaggedFile _).1.applied)
  have hcontent : "package m\n" = content := by
    refine happlied.eq_of_lastExported ?_
    exact ⟨[taggedFile], untaggedFile, [], rfl, by decide, rfl, by simp⟩
  refine ⟨htext, content, f, happlied, ?_⟩
  rintro ⟨file, hfile, hcomputed, hcurrent⟩
  rcases List.mem_pair.1 hfile with rfl | rfl
  · rw [← hcontent] at hcurrent
    exact absurd hcurrent (by decide)
  · exact not_computedFrom_untaggedFile f hcomputed

end Fix

end StructTags
