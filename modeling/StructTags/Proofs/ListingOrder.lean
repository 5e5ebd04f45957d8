import StructTags.Proofs.SimultaneousFixes

/-!
# The order in which fixes are listed

Fixes are taken greedily: each one is compared with all that were taken before it, so another order
of arrival could keep another part of a chain of overlapping fixes. They are put in the order of
their places first. This leaves nothing to the order of the list, as long as fixes at one place are
equal.

Two equal fixes may still write the path of their file in different ways. Nothing that comes of
applying fixes to a text shows how a path is written, so all fixes of one file can be moved to one
spelling of its path (`inFile`):

* `inOrder_map`, `choose_map` and `applyEach_map` follow this through the three steps;
* `inOrder_eq_of_perm` says that equal fixes have one order only.

They meet in `applyAll_relisted`.
-/

namespace StructTags

namespace Fix

/-! ## Spelling the path of a file -/

/-- The fix with the path of its file written in the given way. -/
def inFile (path : String) (f : Fix) : Fix :=
  { f with location := { f.location with file := path } }

/-- Whether two fixes are equal. Their files are compared as paths. -/
def same (a b : Fix) : Bool :=
  Path.same a.location.file b.location.file && a.inFile b.location.file = b

@[simp] theorem span_inFile (path : String) (f : Fix) : (f.inFile path).span = f.span := rfl

@[simp] theorem applyTo?_inFile (path : String) (f : Fix) (cs : List Char) :
    (f.inFile path).applyTo? cs = f.applyTo? cs := rfl

@[simp] theorem id_inFile (path : String) (f : Fix) : (f.inFile path).id = f.id := rfl

@[simp] theorem fault_inFile (path : String) (f : Fix) : (f.inFile path).fault = f.fault := rfl

theorem inFile_eq_of_same {a b : Fix} (h : a.same b = true) (path : String) :
    a.inFile path = b.inFile path := by
  simp only [same, Bool.and_eq_true, decide_eq_true_eq] at h
  rw [← h.2]
  rfl

/-- Two fixes of the file conflict however its path is written. -/
theorem conflictsWith_inFile {path : String} {a b : Fix}
    (ha : Path.same a.location.file path = true) (hb : Path.same b.location.file path = true) :
    (a.inFile path).conflictsWith (b.inFile path) = a.conflictsWith b := by
  have hsame : Path.same a.location.file b.location.file = true := by
    simp only [Path.same, decide_eq_true_eq] at ha hb ⊢
    exact ha.trans hb.symm
  have hself : Path.same path path = true := by simp [Path.same]
  calc (a.inFile path).conflictsWith (b.inFile path)
      = (Path.same path path && !(a.span.stop ≤ b.span.start || b.span.stop ≤ a.span.start)) := rfl
    _ = a.conflictsWith b := by rw [conflictsWith, hself, hsame]

theorem inOrder_map (path : String) (fixes : List Fix) :
    inOrder (fixes.map (inFile path)) = (inOrder fixes).map (inFile path) := by
  symm
  apply List.map_mergeSort
  intro a _ b _
  rfl

theorem choose_map {path : String} {taken fixes : List Fix}
    (htaken : ∀ f ∈ taken, Path.same f.location.file path = true)
    (hfixes : ∀ f ∈ fixes, Path.same f.location.file path = true) :
    choose (taken.map (inFile path)) (fixes.map (inFile path)) =
      ((choose taken fixes).1.map (inFile path), (choose taken fixes).2.map (inFile path)) := by
  induction fixes generalizing taken with
  | nil => simp [choose]
  | cons f rest ih =>
    rcases List.forall_mem_cons.1 hfixes with ⟨hf, hrest⟩
    have hany : (taken.map (inFile path)).any (·.conflictsWith (f.inFile path)) =
        taken.any (·.conflictsWith f) := by
      rw [List.any_map, Bool.eq_iff_iff, List.any_eq_true, List.any_eq_true]
      constructor
      · rintro ⟨g, hg, hconflict⟩
        exact ⟨g, hg, conflictsWith_inFile (htaken g hg) hf ▸ hconflict⟩
      · rintro ⟨g, hg, hconflict⟩
        exact ⟨g, hg, (conflictsWith_inFile (htaken g hg) hf).trans hconflict⟩
    rw [List.map_cons, choose, choose, hany]
    by_cases hconflict : taken.any (·.conflictsWith f) = true
    · rw [if_pos hconflict, if_pos hconflict, ih htaken hrest, List.map_cons]
    · rw [if_neg hconflict, if_neg hconflict, ← List.map_cons]
      exact ih (List.forall_mem_cons.2 ⟨hf, htaken⟩) hrest

theorem applyEach_map (path : String) (cs : List Char) (fixes : List Fix) :
    applyEach cs (fixes.map (inFile path)) =
      { text := (applyEach cs fixes).text
        applied := (applyEach cs fixes).applied.map (inFile path)
        failed := (applyEach cs fixes).failed.map (inFile path) } := by
  -- the fix applied last is the last of the list, so the induction takes it from there
  induction fixes using List.reverseRecOn with
  | nil => rfl
  | append_singleton fixes f ih =>
    rw [List.map_append, List.map_singleton, applyEach_append_singleton,
      applyEach_append_singleton, ih, applyTo?_inFile]
    cases f.applyTo? (applyEach cs fixes).text with
    | none => simp
    | some text => simp

/-! ## Putting fixes in order -/

theorem span_eq_of_notAfter {a b : Fix} (hab : a.notAfter b = true) (hba : b.notAfter a = true) :
    a.span = b.span := by
  simp only [notAfter, Bool.or_eq_true, Bool.and_eq_true, decide_eq_true_eq] at hab hba
  have hstart : a.span.start = b.span.start := by omega
  have hstop : a.span.stop = b.span.stop := by omega
  calc a.span = ⟨a.span.start, a.span.stop⟩ := rfl
    _ = b.span := by rw [hstart, hstop]

/-- If fixes at one place are equal, then there is one way only to put them in order. -/
theorem inOrder_eq_of_perm {fixes fixes' : List Fix} (hperm : fixes.Perm fixes')
    (hequal : ∀ a ∈ fixes, ∀ b ∈ fixes, a.span = b.span → a = b) :
    inOrder fixes = inOrder fixes' := by
  have horders : (inOrder fixes).Perm (inOrder fixes') :=
    (inOrder_perm fixes).trans (hperm.trans (inOrder_perm fixes').symm)
  refine List.Perm.eq_of_pairwise ?_ (pairwise_inOrder fixes) (pairwise_inOrder fixes') horders
  intro a b ha hb hab hba
  have ha' : a ∈ fixes := (inOrder_perm fixes).mem_iff.1 ha
  have hb' : b ∈ fixes := (hperm.trans (inOrder_perm fixes').symm).mem_iff.2 hb
  exact hequal a ha' b hb' (span_eq_of_notAfter hab hba)

/-! ## Applying -/

/-- How the path of the file is written shows in the fixes alone. -/
theorem applyAll_map {path : String} {fixes : List Fix}
    (hfile : ∀ f ∈ fixes, Path.same f.location.file path = true) (content : String) :
    applyAll content (fixes.map (inFile path)) =
      { content := (applyAll content fixes).content
        applied := (applyAll content fixes).applied.map (inFile path)
        skipped := (applyAll content fixes).skipped.map (inFile path)
        failed := (applyAll content fixes).failed.map (inFile path) } := by
  have hordered : ∀ f ∈ inOrder fixes, Path.same f.location.file path = true := by
    intro f hf
    exact hfile f ((inOrder_perm fixes).mem_iff.1 hf)
  have hchoose := @choose_map path [] _ (by simp) hordered
  rw [List.map_nil] at hchoose
  simp only [applyAll, inOrder_map, hchoose, ← List.map_reverse, applyEach_map]

/-- Applying fixes of one file does not depend on the order in which they are listed, if those at
one place are equal: the text that results, the fixes that are applied, the number of those that are
skipped and the errors are the same, and in the same order. -/
theorem applyAll_relisted (content : String) {fixes fixes' : List Fix} (hperm : fixes.Perm fixes')
    (hfile : ∀ a ∈ fixes, ∀ b ∈ fixes, Path.same a.location.file b.location.file = true)
    (hequal : ∀ a ∈ fixes, ∀ b ∈ fixes, a.span = b.span → a.same b = true) :
    (applyAll content fixes).content = (applyAll content fixes').content ∧
      (applyAll content fixes).applied.map (·.id) =
        (applyAll content fixes').applied.map (·.id) ∧
      (applyAll content fixes).skipped.length = (applyAll content fixes').skipped.length ∧
      (applyAll content fixes).errors = (applyAll content fixes').errors := by
  by_cases hnil : fixes = []
  · rw [hnil, List.nil_perm] at hperm
    rw [hnil, hperm]
    exact ⟨rfl, rfl, rfl, rfl⟩
  rcases List.exists_mem_of_ne_nil fixes hnil with ⟨f, hf⟩
  -- with one spelling of the path, fixes at one place are the same value
  have hordered : inOrder (fixes.map (inFile f.location.file)) =
      inOrder (fixes'.map (inFile f.location.file)) := by
    apply inOrder_eq_of_perm (hperm.map _)
    intro a ha b hb hspan
    rcases List.mem_map.1 ha with ⟨a, ha', rfl⟩
    rcases List.mem_map.1 hb with ⟨b, hb', rfl⟩
    rw [span_inFile, span_inFile] at hspan
    exact inFile_eq_of_same (hequal a ha' b hb' hspan) _
  have hmoved : applyAll content (fixes.map (inFile f.location.file)) =
      applyAll content (fixes'.map (inFile f.location.file)) := by
    rw [applyAll, applyAll, hordered]
  rw [applyAll_map (fun g hg => hfile g hg f hf),
    applyAll_map fun g hg => hfile g (hperm.mem_iff.2 hg) f hf, FixResult.mk.injEq] at hmoved
  rcases hmoved with ⟨hcontent, happlied, hskipped, hfailed⟩
  refine ⟨hcontent, ?_, ?_, ?_⟩
  · simpa [Function.comp_def] using congrArg (List.map (·.id)) happlied
  · simpa using congrArg List.length hskipped
  · simpa [FixResult.errors, Function.comp_def] using
      congrArg (List.map fun g => "Fix " ++ g.id ++ ": " ++ g.fault.message) hfailed

/-- Fixes for a text of ten digits. The first place overlaps the second one and that the third one,
two fixes are listed twice with their file written in another way, one of them an insertion, and one
fix lies behind the end. -/
def chainedFixes : List Fix :=
  [fixAt 6 3 "c", fixAt 4 0 "+", fixAt 3 4 "b", (fixAt 6 3 "c").inFile "a.go/", fixAt 20 1 "z",
    fixAt 0 4 "a", (fixAt 4 0 "+").inFile "a.go/."]

set_option maxRecDepth 100000 in
/-- Of the chain the first and the third fix are applied in either order, and the insertion is made
twice. -/
theorem applyAll_relisted_chain :
    applyAll "0123456789" chainedFixes =
        { content := "a++45c9"
          applied := [fixAt 0 4 "a", fixAt 4 0 "+", (fixAt 4 0 "+").inFile "a.go/.", fixAt 6 3 "c"]
          skipped := [fixAt 3 4 "b", (fixAt 6 3 "c").inFile "a.go/"]
          failed := [fixAt 20 1 "z"] } ∧
      (applyAll "0123456789" chainedFixes.reverse).content = "a++45c9" ∧
      (applyAll "0123456789" chainedFixes.reverse).applied.map (·.id) = ["0", "4", "4", "6"] ∧
      (applyAll "0123456789" chainedFixes.reverse).skipped.length = 2 := by
  have hsort : inOrder chainedFixes = [fixAt 0 4 "a", fixAt 3 4 "b", fixAt 4 0 "+",
      (fixAt 4 0 "+").inFile "a.go/.", fixAt 6 3 "c", (fixAt 6 3 "c").inFile "a.go/",
      fixAt 20 1 "z"] := by
    cbv
  have hresult : applyAll "0123456789" chainedFixes =
      { content := "a++45c9"
        applied := [fixAt 0 4 "a", fixAt 4 0 "+", (fixAt 4 0 "+").inFile "a.go/.", fixAt 6 3 "c"]
        skipped := [fixAt 3 4 "b", (fixAt 6 3 "c").inFile "a.go/"]
        failed := [fixAt 20 1 "z"] } := by
    rw [applyAll, hsort]
    decide
  rcases applyAll_relisted "0123456789" chainedFixes.reverse_perm.symm (by decide) (by decide) with
    ⟨hcontent, happlied, hskipped, -⟩
  rw [← hcontent, ← happlied, ← hskipped, hresult]
  decide

end Fix

end StructTags
