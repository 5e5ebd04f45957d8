import StructTags.Proofs.FileSystems
import StructTags.Proofs.StaleExports

/-!
# Previews of fixes

A run that fixes files reads, compares, fixes and writes one file after the other; a preview does
the same, but it shows a diff where the run writes. Where different paths name different files, no
write is seen by a later step, so that the run writes just what the preview shows.

* `changesIn` and `reportIn` are what is due to files in a state. They depend on the texts of these
  files alone (`due_congr`).
* `run_fixFile_preview` and `run_fixFile_write` are the step: what is due to one file is shown by
  the one and written by the other.
* `run_fixFiles_preview` and `run_fixFiles_write` carry this over all files, whose paths differ
  because they are kept in order (`ordered_byFile`).

`applySuggested_foretold` states what follows for the fixes of diagnostics.
-/

namespace StructTags

namespace Fix

/-! ## Files by path -/

/-- Files in the order of their paths, with no path twice. -/
def Ordered (files : List (String × List Fix)) : Prop :=
  files.Pairwise fun x y => Path.compare x.1 y.1 = .lt

theorem same_of_compare_lt {a b : String} (h : Path.compare a b = .lt) : Path.same a b = false := by
  refine Bool.eq_false_of_not_eq_true fun hsame => ?_
  rw [Path.compare_eq_eq_iff.2 hsame] at h
  cases h

theorem mem_addToFile {f : Fix} {files : List (String × List Fix)} {x : String × List Fix}
    (h : x ∈ addToFile f files) :
    x.1 = f.location.file ∨ ∃ y ∈ files, y.1 = x.1 := by
  induction files with
  | nil => exact .inl (by simp_all [addToFile])
  | cons y rest ih =>
    rw [addToFile] at h
    split at h
    · rcases List.mem_cons.1 h with rfl | h
      · exact .inl rfl
      · exact .inr ⟨x, h, rfl⟩
    · rcases List.mem_cons.1 h with rfl | h
      · exact .inr ⟨y, List.mem_cons_self, rfl⟩
      · exact .inr ⟨x, List.mem_cons_of_mem y h, rfl⟩
    · rcases List.mem_cons.1 h with rfl | h
      · exact .inr ⟨y, List.mem_cons_self, rfl⟩
      · refine (ih h).imp_right ?_
        rintro ⟨z, hz, heq⟩
        exact ⟨z, List.mem_cons_of_mem y hz, heq⟩

theorem ordered_addToFile (f : Fix) {files : List (String × List Fix)} (h : Ordered files) :
    Ordered (addToFile f files) := by
  induction files with
  | nil => exact List.pairwise_singleton _ _
  | cons y rest ih =>
    obtain ⟨hy, hrest⟩ := List.pairwise_cons.1 h
    rw [addToFile]
    split
    · rename_i hlt
      refine List.pairwise_cons.2 ⟨?_, h⟩
      intro x hx
      rcases List.mem_cons.1 hx with rfl | hx
      · exact hlt
      · exact Std.TransCmp.lt_trans hlt (hy x hx)
    · exact List.pairwise_cons.2 ⟨hy, hrest⟩
    · rename_i hgt
      refine List.pairwise_cons.2 ⟨?_, ih hrest⟩
      intro x hx
      rcases mem_addToFile hx with heq | ⟨z, hz, heq⟩
      · rw [heq]
        exact Std.OrientedCmp.lt_of_gt hgt
      · rw [← heq]
        exact hy z hz

theorem ordered_byFile (fixes : List Fix) : Ordered (byFile fixes) := by
  refine List.foldlRecOn fixes _ List.Pairwise.nil ?_
  intro files hfiles f _
  exact ordered_addToFile f hfiles

/-- Fixes are listed under the path of one of them. -/
theorem exists_path_of_mem_byFile {fixes : List Fix} :
    ∀ x ∈ byFile fixes, ∃ f ∈ fixes, f.location.file = x.1 := by
  refine List.foldlRecOn (motive := fun files : List (String × List Fix) =>
    ∀ x ∈ files, ∃ f ∈ fixes, f.location.file = x.1) fixes _ (fun x hx => by simp at hx) ?_
  intro files hfiles f hf x hx
  rcases mem_addToFile hx with heq | ⟨y, hy, heq⟩
  · exact ⟨f, hf, heq.symm⟩
  · rw [← heq]
    exact hfiles y hy

/-! ## Reading a file -/

section Run

variable {σ : Type} [FileAccess (StateM σ)] {sources : Sources}

/-- The text that bytes are. -/
def textOf : Except IoFault (List Utf8.Byte) → Except IoFault String
  | .error fault => .error fault
  | .ok bytes =>
    match Utf8.decode? bytes with
    | some text => .ok (String.ofList text)
    | none => .error .invalidText

theorem run_readText (s : σ) (path : String) :
    (FileAccess.readText path : StateM σ _).run s =
      (textOf (bytesIn s path), ((FileAccess.read path : StateM σ _).run s).2) := by
  rw [FileAccess.readText, run_bind, bytesIn]
  cases ((FileAccess.read path : StateM σ _).run s).1 with
  | error fault => rfl
  | ok bytes =>
    simp only [textOf]
    cases Utf8.decode? bytes with
    | none => rfl
    | some text => rfl

theorem textIn_eq (s : σ) (path : String) : textIn s path = textOf (bytesIn s path) := by
  rw [textIn, run_readText]

theorem exists_bytes_of_textIn {s : σ} {path text : String} (h : textIn s path = .ok text) :
    ∃ bytes, bytesIn s path = .ok bytes := by
  rw [textIn_eq] at h
  cases hbytes : bytesIn s path with
  | error fault =>
    rw [hbytes] at h
    cases h
  | ok bytes => exact ⟨bytes, rfl⟩

/-! ## What is due -/

/-- The changes that are due to files in a state. -/
def changesIn (sources : Sources) (s : σ) (files : List (String × List Fix)) : List FileChange :=
  files.filterMap fun x => change? sources x.1 x.2 (textIn s x.1)

/-- What is to be reported about these files. -/
def reportIn (sources : Sources) (s : σ) (files : List (String × List Fix)) : FixReport :=
  files.foldr (fun x report => (reportOn sources x.1 x.2 (textIn s x.1)).append report) {}

theorem changesIn_cons (s : σ) (x : String × List Fix) (rest : List (String × List Fix)) :
    changesIn sources s (x :: rest) =
      (change? sources x.1 x.2 (textIn s x.1)).toList ++ changesIn sources s rest := by
  simp only [changesIn, List.filterMap_eq_flatMap_toList, List.flatMap_cons]

theorem reportIn_cons (s : σ) (x : String × List Fix) (rest : List (String × List Fix)) :
    reportIn sources s (x :: rest) =
      (reportOn sources x.1 x.2 (textIn s x.1)).append (reportIn sources s rest) :=
  rfl

theorem reportIn_neutral (s : σ) (files : List (String × List Fix)) :
    (reportIn sources s files).diffs = [] ∧ (reportIn sources s files).failure? = none := by
  induction files with
  | nil => exact ⟨rfl, rfl⟩
  | cons x rest ih =>
    refine ⟨?_, ih.2⟩
    rw [reportIn_cons, FixReport.append, (reportOn_neutral _).1, ih.1, List.append_nil]

theorem applied_reportIn (s : σ) (files : List (String × List Fix)) :
    (reportIn sources s files).applied =
      files.flatMap fun x => (reportOn sources x.1 x.2 (textIn s x.1)).applied := by
  induction files with
  | nil => rfl
  | cons x rest ih => rw [List.flatMap_cons, ← ih, reportIn_cons, FixReport.append]

/-- What is due depends on the texts of the files alone. -/
theorem due_congr {s s' : σ} {files : List (String × List Fix)}
    (h : ∀ x ∈ files, textIn s' x.1 = textIn s x.1) :
    changesIn sources s' files = changesIn sources s files ∧
      reportIn sources s' files = reportIn sources s files := by
  induction files with
  | nil => exact ⟨rfl, rfl⟩
  | cons x rest ih =>
    obtain ⟨hx, hrest⟩ := List.forall_mem_cons.1 h
    obtain ⟨hchanges, hreport⟩ := ih hrest
    simp only [changesIn_cons, reportIn_cons, hx, hchanges, hreport, and_self]

/-- In the given state the fixes for files make this change: the file holds the text exported last,
and some fix applies to it. -/
def Makes (sources : Sources) (files : List (String × List Fix)) (s : σ) (c : FileChange) : Prop :=
  ∃ fixes, (c.path, fixes) ∈ files ∧ textIn s c.path = .ok c.before ∧
    IsDue sources c.path fixes c.before ∧ c.after = (applyAll c.before fixes).content

theorem mem_changesIn {s : σ} {files : List (String × List Fix)} {c : FileChange} :
    c ∈ changesIn sources s files ↔ Makes sources files s c := by
  rw [changesIn, List.mem_filterMap]
  constructor
  · rintro ⟨⟨path, fixes⟩, hx, hchange⟩
    obtain ⟨htext, rfl, hdue, hafter⟩ := change?_eq_some_iff.1 hchange
    exact ⟨fixes, hx, htext, hdue, hafter⟩
  · rintro ⟨fixes, hx, htext, hdue, hafter⟩
    exact ⟨_, hx, change?_eq_some_iff.2 ⟨htext, rfl, hdue, hafter⟩⟩

/-- Fixes are reported as applied for a file that changes, and for no other. -/
theorem exists_mem_applied_reportOn {path other : String} {fixes : List Fix}
    {text : Except IoFault String} :
    (∃ id, (other, id) ∈ (reportOn sources path fixes text).applied) ↔
      ∃ c, change? sources path fixes text = some c ∧ c.path = other := by
  cases hchange : change? sources path fixes text with
  | none => simp [applied_reportOn_of_none hchange]
  | some c =>
    obtain ⟨rfl, rfl, hdue, -⟩ := change?_eq_some_iff.1 hchange
    obtain ⟨f, hf⟩ := List.exists_mem_of_ne_nil _ hdue.2
    rw [applied_reportOn_of_due hdue]
    constructor
    · rintro ⟨id, hid⟩
      obtain ⟨g, -, hg⟩ := List.mem_map.1 hid
      exact ⟨c, rfl, (Prod.mk.inj hg).1⟩
    · rintro ⟨c', hc, rfl⟩
      obtain rfl := Option.some.inj hc
      exact ⟨f.id, List.mem_map_of_mem hf⟩

theorem exists_mem_applied_reportIn {s : σ} {files : List (String × List Fix)} {path : String} :
    (∃ id, (path, id) ∈ (reportIn sources s files).applied) ↔
      ∃ c ∈ changesIn sources s files, c.path = path := by
  simp only [applied_reportIn, changesIn, List.mem_flatMap, List.mem_filterMap]
  constructor
  · rintro ⟨id, x, hx, hid⟩
    obtain ⟨c, hc, hpath⟩ := exists_mem_applied_reportOn.1 ⟨id, hid⟩
    exact ⟨c, ⟨x, hx, hc⟩, hpath⟩
  · rintro ⟨c, ⟨x, hx, hc⟩, hpath⟩
    obtain ⟨id, hid⟩ := exists_mem_applied_reportOn.2 ⟨c, hc, hpath⟩
    exact ⟨id, x, hx, hid⟩

/-- Changes come in the order of the files. -/
theorem pairwise_changesIn (sources : Sources) (s : σ) {files : List (String × List Fix)}
    (hordered : Ordered files) :
    (changesIn sources s files).Pairwise fun a b => Path.compare a.path b.path = .lt := by
  rw [changesIn, List.pairwise_filterMap]
  refine hordered.imp ?_
  intro x y hxy a ha b hb
  rw [(change?_eq_some_iff.1 ha).2.1, (change?_eq_some_iff.1 hb).2.1]
  exact hxy

/-! ## Writing changes -/

/-- The state after changes have been written, one after the other. -/
def rewritten (s : σ) (changes : List FileChange) : σ :=
  changes.foldl (fun s c => written s c.path c.after) s

theorem rewritten_append (s : σ) (xs ys : List FileChange) :
    rewritten s (xs ++ ys) = rewritten (rewritten s xs) ys :=
  List.foldl_append

section Separate

variable {names : Set String} {states : Set σ} {s : σ}

/-- Written changes are seen in their own files, and other files are as they were. -/
theorem bytesIn_rewritten (h : Separate names states) (hs : s ∈ states) {changes : List FileChange}
    (hnames : ∀ c ∈ changes, c.path ∈ names)
    (hread : ∀ c ∈ changes, ∃ old, bytesIn s c.path = .ok old)
    (hdiffer : changes.Pairwise fun a b => Path.same a.path b.path = false) :
    rewritten s changes ∈ states ∧
      (∀ c ∈ changes, bytesIn (rewritten s changes) c.path = .ok (Utf8.encode c.after.toList)) ∧
      ∀ q ∈ names, (∀ c ∈ changes, Path.same c.path q = false) →
        bytesIn (rewritten s changes) q = bytesIn s q := by
  -- the remaining changes meet the state that the first one leaves behind
  induction changes generalizing s with
  | nil => exact ⟨hs, by simp, fun _ _ _ => rfl⟩
  | cons c rest ih =>
    obtain ⟨hc, hrest⟩ := List.forall_mem_cons.1 hnames
    obtain ⟨⟨old, hold⟩, hreadRest⟩ := List.forall_mem_cons.1 hread
    obtain ⟨hfirst, hdifferRest⟩ := List.pairwise_cons.1 hdiffer
    have hother : ∀ q ∈ names, Path.same c.path q = false →
        bytesIn (written s c.path c.after) q = bytesIn s q :=
      h.bytes_other s hs c.path hc old c.after hold
    obtain ⟨hmem, hchanged, hkept⟩ := ih (h.written_mem s hs c.path hc old c.after hold) hrest
      (fun d hd => by rw [hother d.path (hrest d hd) (hfirst d hd)]; exact hreadRest d hd)
      hdifferRest
    refine ⟨hmem, ?_, ?_⟩
    · refine List.forall_mem_cons.2 ⟨?_, hchanged⟩
      have hlater : ∀ d ∈ rest, Path.same d.path c.path = false := by
        intro d hd
        rw [Path.same_comm]
        exact hfirst d hd
      exact (hkept c.path hc hlater).trans (h.bytes_written s hs c.path hc old c.after hold)
    · intro q hq hnone
      obtain ⟨hcq, hnoneRest⟩ := List.forall_mem_cons.1 hnone
      exact (hkept q hq hnoneRest).trans (hother q hq hcq)

theorem afterRead_eq (h : Separate names states) (hs : s ∈ states) {path : String}
    (hpath : path ∈ names) : afterRead s path = s := by
  rw [afterRead, run_readText]
  exact h.read_state s hs path hpath

/-! ## One file -/

/-- A report that shows changes. -/
def showing (report : FixReport) (changes : List FileChange) : FixReport :=
  { report with diffs := changes.map fun c => Diff.unified c.before c.after c.path }

theorem showing_nil {report : FixReport} (h : report.diffs = []) : showing report [] = report := by
  rw [showing, List.map_nil, ← h]

theorem showing_append (a b : FixReport) (xs ys : List FileChange) :
    showing (a.append b) (xs ++ ys) = (showing a xs).append (showing b ys) := by
  simp only [showing, FixReport.append, List.map_append]

/-- A preview of a file shows the change that is due, and writes nothing. -/
theorem run_fixFile_preview (h : Separate names states) (hs : s ∈ states)
    {x : String × List Fix} (hx : x.1 ∈ names) :
    (fixFile sources false x.1 x.2 : StateM σ FixReport).run s =
      (showing (reportOn sources x.1 x.2 (textIn s x.1))
        (change? sources x.1 x.2 (textIn s x.1)).toList, s) := by
  rw [run_fixFile, afterRead_eq h hs hx]
  cases change? sources x.1 x.2 (textIn s x.1) with
  | none =>
    rw [Option.toList_none, showing_nil (reportOn_neutral _).1]
    rfl
  | some c => rfl

/-- Fixing a file reports the same but for the diff, and writes the change. -/
theorem run_fixFile_write (h : Separate names states) (hs : s ∈ states)
    {x : String × List Fix} (hx : x.1 ∈ names) :
    (fixFile sources true x.1 x.2 : StateM σ FixReport).run s =
      (reportOn sources x.1 x.2 (textIn s x.1),
        rewritten s (change? sources x.1 x.2 (textIn s x.1)).toList) := by
  rw [run_fixFile, afterRead_eq h hs hx]
  cases hchange : change? sources x.1 x.2 (textIn s x.1) with
  | none => rfl
  | some c =>
    obtain ⟨htext, hpath, -⟩ := change?_eq_some_iff.1 hchange
    obtain ⟨old, hold⟩ := exists_bytes_of_textIn htext
    rw [← hpath] at hx hold
    exact run_carryOut_written (h.write_ok s hs c.path hx old c.after hold) _

/-! ## All files -/

/-- If one file is done without a failure, the others follow. -/
theorem run_fixFiles_cons {write : Bool} {x : String × List Fix} {report : FixReport} {s' : σ}
    (hrun : (fixFile sources write x.1 x.2 : StateM σ FixReport).run s = (report, s'))
    (hok : report.failure? = none) (rest : List (String × List Fix)) :
    (fixFiles sources write (x :: rest) : StateM σ FixReport).run s =
      let next := (fixFiles sources write rest : StateM σ FixReport).run s'
      (report.append next.1, next.2) := by
  rw [fixFiles, run_bind, hrun, if_neg (by simp [hok])]
  rfl

/-- A preview shows the changes that are due, and writes nothing. -/
theorem run_fixFiles_preview (h : Separate names states) (hs : s ∈ states)
    {files : List (String × List Fix)} (hnames : ∀ x ∈ files, x.1 ∈ names) :
    (fixFiles sources false files : StateM σ FixReport).run s =
      (showing (reportIn sources s files) (changesIn sources s files), s) := by
  induction files with
  | nil => rfl
  | cons x rest ih =>
    obtain ⟨hx, hrest⟩ := List.forall_mem_cons.1 hnames
    rw [run_fixFiles_cons (run_fixFile_preview h hs hx) (reportOn_neutral _).2, ih hrest,
      changesIn_cons, reportIn_cons, showing_append]

/-- The changes are about files that can be read, each about another one. -/
theorem changesIn_apart (sources : Sources) (s : σ) {files : List (String × List Fix)}
    (hnames : ∀ x ∈ files, x.1 ∈ names) (hordered : Ordered files) :
    (∀ c ∈ changesIn sources s files, c.path ∈ names) ∧
      (∀ c ∈ changesIn sources s files, ∃ old, bytesIn s c.path = .ok old) ∧
      (changesIn sources s files).Pairwise fun a b => Path.same a.path b.path = false := by
  refine ⟨?_, ?_, (pairwise_changesIn sources s hordered).imp same_of_compare_lt⟩
  · intro c hc
    obtain ⟨fixes, hx, -⟩ := mem_changesIn.1 hc
    exact hnames _ hx
  · intro c hc
    obtain ⟨fixes, -, htext, -⟩ := mem_changesIn.1 hc
    exact exists_bytes_of_textIn htext

/-- Fixing files reports the same but for the diffs, and writes the changes. -/
theorem run_fixFiles_write (h : Separate names states) (hs : s ∈ states)
    {files : List (String × List Fix)} (hnames : ∀ x ∈ files, x.1 ∈ names)
    (hordered : Ordered files) :
    (fixFiles sources true files : StateM σ FixReport).run s =
      (reportIn sources s files, rewritten s (changesIn sources s files)) := by
  induction files generalizing s with
  | nil => rfl
  | cons x rest ih =>
    obtain ⟨hx, hrest⟩ := List.forall_mem_cons.1 hnames
    obtain ⟨hfirst, hordered⟩ := List.pairwise_cons.1 hordered
    -- what the first file leaves behind looks to the others like the state before it
    obtain ⟨hpaths, hread, hapart⟩ := @changesIn_apart σ _ names sources s [x]
      (List.forall_mem_singleton.2 hx) (List.pairwise_singleton _ x)
    obtain ⟨hmem, -, hkept⟩ := bytesIn_rewritten h hs hpaths hread hapart
    have hsingle : changesIn sources s [x] = (change? sources x.1 x.2 (textIn s x.1)).toList := by
      rw [changesIn_cons]
      exact List.append_nil _
    rw [hsingle] at hmem hkept
    have htext : ∀ y ∈ rest,
        textIn (rewritten s (change? sources x.1 x.2 (textIn s x.1)).toList) y.1 =
          textIn s y.1 := by
      intro y hy
      rw [textIn_eq, hkept y.1 (hrest y hy), ← textIn_eq]
      intro c hc
      rw [(change?_eq_some_iff.1 (Option.mem_toList.1 hc)).2.1]
      exact same_of_compare_lt (hfirst y hy)
    obtain ⟨hchanges, hreport⟩ := @due_congr σ _ sources _ _ rest htext
    rw [run_fixFiles_cons (run_fixFile_write h hs hx) (reportOn_neutral _).2,
      ih hmem hrest hordered, hchanges, hreport, reportIn_cons, changesIn_cons, rewritten_append]

/-! ## Previews -/

/-- A preview from a state tells what a run from the same state does: the run makes `changes`, and
the preview shows them. -/
structure Foretells (names : Set String) (s : σ) (changes : List FileChange)
    (preview fixed : FixReport × σ) : Prop where
  no_failure : preview.1.failure? = none
  /-- Both report the same fixes as applied, and only the preview shows diffs. -/
  report_eq : fixed.1 = { preview.1 with diffs := [] }
  /-- The diffs shown are those between the two texts of each change, in the order of the files. -/
  diffs_eq : preview.1.diffs = changes.map fun c => Diff.unified c.before c.after c.path
  in_order : changes.Pairwise fun a b => Path.compare a.path b.path = .lt
  /-- The preview writes nothing. -/
  preview_state : preview.2 = s
  /-- The run writes the changes, one after the other, and nothing else. -/
  fixed_state : fixed.2 = rewritten s changes
  /-- A change starts from the text on disk. -/
  before_eq : ∀ c ∈ changes, textIn s c.path = .ok c.before
  /-- After the run the file holds the other text of the change. -/
  after_eq : ∀ c ∈ changes, bytesIn fixed.2 c.path = .ok (Utf8.encode c.after.toList)
  /-- The files that change are those with a fix that is applied. -/
  changed_iff : ∀ path, (∃ c ∈ changes, c.path = path) ↔ ∃ id, (path, id) ∈ fixed.1.applied
  /-- A file without such a fix stays as it is. -/
  unchanged : ∀ path ∈ names, (∀ x ∈ fixed.1.applied, Path.same x.1 path = false) →
    bytesIn fixed.2 path = bytesIn s path

theorem foretells_changesIn (h : Separate names states) (hs : s ∈ states)
    {files : List (String × List Fix)} (hnames : ∀ x ∈ files, x.1 ∈ names)
    (hordered : Ordered files) :
    Foretells names s (changesIn sources s files)
      (showing (reportIn sources s files) (changesIn sources s files), s)
      (reportIn sources s files, rewritten s (changesIn sources s files)) := by
  obtain ⟨hpaths, hread, hapart⟩ := changesIn_apart sources s hnames hordered
  obtain ⟨-, hchanged, hkept⟩ := bytesIn_rewritten h hs hpaths hread hapart
  obtain ⟨hdiffs, hok⟩ := reportIn_neutral s files
  refine ⟨hok, ?_, rfl, pairwise_changesIn sources s hordered, rfl, rfl, ?_,
    hchanged, ?_, ?_⟩
  · rw [showing, ← hdiffs]
  · intro c hc
    obtain ⟨fixes, -, htext, -⟩ := mem_changesIn.1 hc
    exact htext
  · intro path
    exact exists_mem_applied_reportIn.symm
  · intro path hpath hnone
    refine hkept path hpath ?_
    intro c hc
    obtain ⟨id, hid⟩ := exists_mem_applied_reportIn.2 ⟨c, hc, rfl⟩
    exact hnone (c.path, id) hid

/-- Where different paths name different files, a preview of what diagnostics suggest tells what
applying it does, and it shows all changes that the fixes make in the state it starts from. -/
theorem applySuggested_foretold (h : Separate names states) (hs : s ∈ states)
    {ds : List Diagnostic} (hnames : ∀ f ∈ collect ds false, f.location.file ∈ names)
    (packages : List Package) :
    ∃ changes : List FileChange,
      Foretells names s changes
        ((applySuggested ds packages false : StateM σ FixReport).run s)
        ((applySuggested ds packages true : StateM σ FixReport).run s) ∧
      ∀ c, c ∈ changes ↔
        Makes (packages.flatMap (·.sources)) (byFile (collect ds false)) s c := by
  have hfiles : ∀ x ∈ byFile (collect ds false), x.1 ∈ names := by
    intro x hx
    obtain ⟨f, hf, hpath⟩ := exists_path_of_mem_byFile x hx
    rw [← hpath]
    exact hnames f hf
  have hordered := ordered_byFile (collect ds false)
  refine ⟨changesIn (packages.flatMap (·.sources)) s (byFile (collect ds false)), ?_, ?_⟩
  · unfold applySuggested
    rw [run_fixFiles_preview h hs hfiles, run_fixFiles_write h hs hfiles hordered]
    exact foretells_changesIn h hs hfiles hordered
  · intro c
    exact mem_changesIn

end Separate

end Run

/-! ## A preview of three files -/

/-- Three exported files with the same tag: the first is as exported, the second has changed and the
third is gone. -/
def mixedExports : List Package :=
  [⟨none, ["a.go", "b.go", "c.go"].map fun path => { taggedFile with path }⟩]

def mixedTree : File.Tree :=
  ⟨.directory [("a.go", .file (Utf8.encode "\x60json:\"A\"\x60".toList)), ("b.go", .file [])], []⟩

def mixedReports : List Diagnostic :=
  mixedExports.flatMap (Linter.ofConfig {}).lint

/-- The fix that removes the tag. -/
def removal (path : String) : Fix where
  id := "json/same-tag-name@0"
  description := "remove the json tag"
  location := ⟨path, 1, 1, 0, 10⟩
  replacement := ""
  applicability := .always
  ruleId := "json/same-tag-name"

set_option maxRecDepth 100000 in
theorem collect_mixedReports :
    collect mixedReports false = [removal "a.go", removal "b.go", removal "c.go"] := by
  cbv

set_option maxRecDepth 100000 in
theorem byFile_removals :
    byFile [removal "a.go", removal "b.go", removal "c.go"] =
      [("a.go", [removal "a.go"]), ("b.go", [removal "b.go"]), ("c.go", [removal "c.go"])] := by
  cbv

set_option maxRecDepth 100000 in
theorem mixedTree_distinguishing :
    mixedTree ∈ File.Tree.distinguishing {"a.go", "b.go", "c.go"} := by
  have ha : mixedTree.place "a.go" = .ok ["a.go"] := by decide
  have hb : mixedTree.place "b.go" = .ok ["b.go"] := by decide
  have hc : mixedTree.place "c.go" = .error .notFound := by decide
  rintro p (rfl | rfl | rfl) q (rfl | rfl | rfl) hdiffer place hp hq <;>
    simp_all [Path.same]

set_option maxRecDepth 100000 in
theorem makes_iff_mixed (c : FileChange) :
    Makes (mixedExports.flatMap (·.sources)) (byFile (collect mixedReports false)) mixedTree c ↔
      c = ⟨"a.go", "\x60json:\"A\"\x60", ""⟩ := by
  have ha : textIn mixedTree "a.go" = .ok "\x60json:\"A\"\x60" := by cbv
  have hb : textIn mixedTree "b.go" = .ok "" := by cbv
  have hc : textIn mixedTree "c.go" = .error .notFound := by cbv
  have hcurrent :
      isStale (mixedExports.flatMap (·.sources)) "a.go" "\x60json:\"A\"\x60" = false := by
    cbv
  have hstale : isStale (mixedExports.flatMap (·.sources)) "b.go" "" = true := by cbv
  have happlied :
      applyAll "\x60json:\"A\"\x60" [removal "a.go"] = ⟨"", [removal "a.go"], [], []⟩ := by
    cbv
  rw [collect_mixedReports, byFile_removals]
  constructor
  · rintro ⟨fixes, hfile, htext, ⟨hdue, -⟩, hafter⟩
    obtain ⟨path, before, after⟩ := c
    simp only [List.mem_cons, Prod.mk.injEq, List.not_mem_nil, or_false] at hfile
    rcases hfile with ⟨rfl, rfl⟩ | ⟨rfl, rfl⟩ | ⟨rfl, rfl⟩
    · obtain rfl := Except.ok.inj (ha.symm.trans htext)
      rw [happlied] at hafter
      obtain rfl : after = "" := hafter
      rfl
    · obtain rfl := Except.ok.inj (hb.symm.trans htext)
      rw [hstale] at hdue
      cases hdue
    · cases hc.symm.trans htext
  · rintro rfl
    exact ⟨[removal "a.go"], List.mem_cons_self, ha, ⟨hcurrent, by simp [happlied]⟩,
      by rw [happlied]⟩

/-- Only the first file changes: the tag in it is removed, and that is what the preview shows. -/
theorem applySuggested_foretold_mixed :
    Foretells {"a.go", "b.go", "c.go"} mixedTree [⟨"a.go", "\x60json:\"A\"\x60", ""⟩]
        ((applySuggested mixedReports mixedExports false : StateM File.Tree FixReport).run
          mixedTree)
        ((applySuggested mixedReports mixedExports true : StateM File.Tree FixReport).run
          mixedTree) ∧
      ((applySuggested mixedReports mixedExports false : StateM File.Tree FixReport).run
          mixedTree).1.diffs =
        ["--- a.go\n+++ a.go (fixed)\n@@ -1,1 +1,0 @@\n-\x60json:\"A\"\x60\n"] := by
  have hnames : ∀ f ∈ collect mixedReports false,
      f.location.file ∈ ({"a.go", "b.go", "c.go"} : Set String) := by
    simp [collect_mixedReports, removal]
  obtain ⟨changes, hforetells, hmakes⟩ := applySuggested_foretold (File.Tree.separate _)
    mixedTree_distinguishing hnames mixedExports
  have hnodup : changes.Nodup := by
    refine hforetells.in_order.imp ?_
    rintro a _ hlt rfl
    simpa [Path.same] using same_of_compare_lt hlt
  have hchanges : changes = [⟨"a.go", "\x60json:\"A\"\x60", ""⟩] := by
    refine List.perm_singleton.1 ((List.perm_ext_iff_of_nodup hnodup (List.nodup_singleton _)).2 ?_)
    intro c
    rw [hmakes, makes_iff_mixed, List.mem_singleton]
  rw [hchanges] at hforetells
  refine ⟨hforetells, ?_⟩
  rw [hforetells.diffs_eq]
  decide +kernel

end Fix

end StructTags
