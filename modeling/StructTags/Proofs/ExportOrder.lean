import StructTags.Proofs.RunStages
import StructTags.Proofs.Traversal

/-!
# The order of an export

An export lists files, structs, fields and nested structs in some order. Two packages that differ in
these orders alone are `Reordered`, at every depth at once.

* The reports on a field depend on neither its place in the export nor what is nested in it
  (`Dialect.reportsOn_bare`), and in reordered packages the same fields are visited
  (`Package.Reordered.bareVisit_perm`).
* All reports at one position come from one field, if no two fields share a position
  (`Linter.atPosition_reports_reordered`), so that nothing is left for the order to decide.

`Linter.lint_reordered` puts this together.
-/

namespace StructTags

/-! ## Reordering -/

/-- The second list holds the items of the first one in some order, each up to `R`. -/
def UpToOrder {α : Type} (R : α → α → Prop) (xs ys : List α) : Prop :=
  ∃ zs, xs.Perm zs ∧ List.Forall₂ R zs ys

mutual

/-- The second field is the first one, with the structs nested in it reordered at any depth. -/
inductive Field.Reordered : Field → Field → Prop
  | mk {name : Option String} {type : Option FieldType} {typeSpan : Span} {tag : Option TagLiteral}
      {nested structs nested' : List Struct} (hperm : nested.Perm structs)
      (hstructs : List.Forall₂ Struct.Reordered structs nested') :
      Field.Reordered ⟨name, type, typeSpan, tag, nested⟩ ⟨name, type, typeSpan, tag, nested'⟩

/-- The second struct is the first one with its fields reordered, and likewise what is nested in
them. -/
inductive Struct.Reordered : Struct → Struct → Prop
  | mk {name : Option String} {span : Span} {fields items fields' : List Field}
      (hperm : fields.Perm items) (hfields : List.Forall₂ Field.Reordered items fields') :
      Struct.Reordered ⟨name, span, fields⟩ ⟨name, span, fields'⟩

end

/-- The second file is the first one with its structs reordered. -/
structure SourceFile.Reordered (file file' : SourceFile) : Prop where
  path_eq : file.path = file'.path
  source_eq : file.source = file'.source
  structs : UpToOrder Struct.Reordered file.structs file'.structs

/-- The second package is the first one with its files reordered. -/
structure Package.Reordered (p p' : Package) : Prop where
  name_eq : p.name = p'.name
  files : UpToOrder SourceFile.Reordered p.files p'.files

namespace UpToOrder

variable {α β : Type} {R : α → α → Prop} {S : β → β → Prop} {xs ys : List α}

/-- Items may as well be replaced first and reordered then. -/
theorem exists_forall₂_perm (h : UpToOrder R xs ys) : ∃ zs, List.Forall₂ R xs zs ∧ zs.Perm ys := by
  obtain ⟨zs, hperm, hzs⟩ := h
  exact List.perm_comp_forall₂ hperm hzs

theorem append {xs' ys' : List α} (h : UpToOrder R xs ys) (h' : UpToOrder R xs' ys') :
    UpToOrder R (xs ++ xs') (ys ++ ys') := by
  obtain ⟨zs, hperm, hzs⟩ := h
  obtain ⟨zs', hperm', hzs'⟩ := h'
  exact ⟨zs ++ zs', hperm.append hperm', List.rel_append hzs hzs'⟩

theorem trans_perm {zs : List α} (h : UpToOrder R xs ys) (hperm : ys.Perm zs) :
    UpToOrder R xs zs := by
  obtain ⟨us, hus, hforall⟩ := h
  obtain ⟨vs, hvs, hforall'⟩ := List.perm_comp_forall₂ hperm.symm hforall.flip
  exact ⟨vs, hus.trans hforall'.symm, hvs.flip⟩

theorem eq_iff_perm {xs ys : List α} : UpToOrder (· = ·) xs ys ↔ xs.Perm ys := by
  simp [UpToOrder, List.forall₂_eq_eq_eq]

theorem flatMap (h : UpToOrder R xs ys) {f : α → List β}
    (hf : ∀ x y, R x y → UpToOrder S (f x) (f y)) : UpToOrder S (xs.flatMap f) (ys.flatMap f) := by
  obtain ⟨zs, hzs, hperm⟩ := h.exists_forall₂_perm
  have hrelated : UpToOrder S (xs.flatMap f) (zs.flatMap f) := by
    clear hperm h
    induction hzs with
    | nil => exact ⟨[], .nil, .nil⟩
    | cons hxy _ ih =>
      rw [List.flatMap_cons, List.flatMap_cons]
      exact (hf _ _ hxy).append ih
  exact hrelated.trans_perm (hperm.flatMap_right f)

/-- If related items give permutations, then so do the lists. -/
theorem perm_flatMap (h : UpToOrder R xs ys) {f : α → List β}
    (hf : ∀ x y, R x y → (f x).Perm (f y)) : (xs.flatMap f).Perm (ys.flatMap f) :=
  eq_iff_perm.1 (h.flatMap fun x y hxy => eq_iff_perm.2 (hf x y hxy))

theorem perm_map (h : UpToOrder R xs ys) {f : α → β} (hf : ∀ x y, R x y → f x = f y) :
    (xs.map f).Perm (ys.map f) := by
  rw [List.map_eq_flatMap, List.map_eq_flatMap]
  exact h.perm_flatMap fun x y hxy => by rw [hf x y hxy]

end UpToOrder

theorem Field.Reordered.nested {field field' : Field} (h : field.Reordered field') :
    UpToOrder Struct.Reordered field.nested field'.nested := by
  cases h with
  | mk hperm hstructs => exact ⟨_, hperm, hstructs⟩

theorem Struct.Reordered.fields {s s' : Struct} (h : s.Reordered s') :
    UpToOrder Field.Reordered s.fields s'.fields := by
  cases h with
  | mk hperm hfields => exact ⟨_, hperm, hfields⟩

/-! ## What a report depends on -/

/-- The field without what is nested in it. -/
def Field.bare (field : Field) : Field :=
  { field with nested := [] }

/-- The file without its structs. -/
def SourceFile.bare (file : SourceFile) : SourceFile :=
  { file with structs := [] }

theorem Field.Reordered.bare_eq {field field' : Field} (h : field.Reordered field') :
    field.bare = field'.bare := by
  cases h with
  | mk => rfl

theorem SourceFile.Reordered.bare_eq {file file' : SourceFile} (h : file.Reordered file') :
    file.bare = file'.bare := by
  rw [SourceFile.bare, SourceFile.bare, h.path_eq, h.source_eq]

theorem Dialect.check_bare (dialect : Dialect) (file : SourceFile) (field : Field)
    (tag : TagLiteral) (text : String) :
    dialect.checker.check ⟨file.bare, field.bare, tag⟩ text =
      dialect.checker.check ⟨file, field, tag⟩ text := by
  cases dialect <;> rfl

/-- Neither the structs of a file nor what is nested in a field counts for the reports on the
field. -/
theorem Dialect.reportsOn_bare (dialect : Dialect) (file : SourceFile) (field : Field) :
    dialect.checker.reportsOn file.bare field.bare = dialect.checker.reportsOn file field := by
  cases htag : field.tag with
  | none =>
    have hbare : field.bare.tag = none := htag
    rw [Checker.reportsOn_untagged htag, Checker.reportsOn_untagged hbare]
  | some tag =>
    have hbare : field.bare.tag = some tag := htag
    cases htext : unquote tag.literal with
    | error fault =>
      rw [Checker.reportsOn_invalid htag htext, Checker.reportsOn_invalid hbare htext]
      rfl
    | ok text =>
      cases hvalue : Tag.lookup text dialect.checker.key with
      | none =>
        rw [Checker.reportsOn_missing htag htext hvalue,
          Checker.reportsOn_missing hbare htext hvalue]
      | some value =>
        rw [Checker.reportsOn_eq htag htext hvalue, Checker.reportsOn_eq hbare htext hvalue,
          dialect.check_bare]

/-! ## What is visited -/

theorem visitStructs_perm {structs structs' : List Struct} (h : structs.Perm structs') :
    (visitStructs structs).Perm (visitStructs structs') := by
  have hflat (structs : List Struct) : enteredAll structs = structs.flatMap Struct.entered := by
    induction structs with
    | nil => rw [enteredAll, List.flatMap_nil]
    | cons s rest ih => rw [enteredAll, ih, List.flatMap_cons]
  have hentered : (enteredAll structs).Perm (enteredAll structs') := by
    rw [hflat, hflat]
    exact h.flatMap_right Struct.entered
  exact hentered.flatMap_right _

theorem Struct.Reordered.children {s s' : Struct} (h : s.Reordered s') :
    UpToOrder Struct.Reordered s.children s'.children :=
  h.fields.flatMap fun _ _ hfield => hfield.nested

/-- In reordered structs the same fields are visited. -/
theorem visitStructs_reordered {structs structs' : List Struct}
    (h : UpToOrder Struct.Reordered structs structs') :
    ((visitStructs structs).map Field.bare).Perm ((visitStructs structs').map Field.bare) := by
  induction structs using forest_induction generalizing structs' with
  | nil =>
    obtain ⟨zs, hzs, hperm⟩ := h.exists_forall₂_perm
    cases hzs
    rw [List.nil_perm.1 hperm]
  | cons s rest ihs ih =>
    -- the structs are first changed one by one and then permuted as a whole
    obtain ⟨zs, hzs, hperm⟩ := h.exists_forall₂_perm
    cases hzs with
    | @cons _ s' _ rest' hs hrest =>
      have hfields : (s.fields.map Field.bare).Perm (s'.fields.map Field.bare) :=
        hs.fields.perm_map fun _ _ hfield => hfield.bare_eq
      refine List.Perm.trans ?_ ((visitStructs_perm hperm).map Field.bare)
      simp only [visitStructs_cons, List.map_append]
      exact (hfields.append (ihs hs.children)).append (ih ⟨rest, .refl rest, hrest⟩)

namespace Package

/-- The fields of a package with their files, as far as they count for reports. -/
def bareVisit (p : Package) : List (SourceFile × Field) :=
  p.visit.map fun x => (x.1.bare, x.2.bare)

theorem Reordered.bareVisit_perm {p p' : Package} (h : p.Reordered p') :
    p.bareVisit.Perm p'.bareVisit := by
  have heq (p : Package) : p.bareVisit = p.files.flatMap fun file =>
      ((visitStructs file.structs).map Field.bare).map (file.bare, ·) := by
    simp [bareVisit, visit_eq_flatMap, List.map_flatMap, Function.comp_def]
  rw [heq, heq]
  refine h.files.perm_flatMap fun file file' hfile => ?_
  rw [hfile.bare_eq]
  exact (visitStructs_reordered hfile.structs).map _

end Package

/-! ## What is found at a position -/

/-- A list of one item over and over has no other order. -/
theorem eq_of_perm_of_forall_eq {α : Type} {xs ys : List α} (hperm : xs.Perm ys)
    (h : ∀ x ∈ xs, ∀ y ∈ xs, x = y) : xs = ys := by
  cases xs with
  | nil => exact (List.nil_perm.1 hperm).symm
  | cons x rest =>
    have hx : x :: rest = List.replicate (x :: rest).length x :=
      List.eq_replicate_of_mem fun y hy => h y hy x List.mem_cons_self
    rw [hx] at hperm ⊢
    exact (List.perm_replicate.1 hperm.symm).symm

/-- Where reports on a field may start: at its type, and at its tag if it has one. -/
def Field.starts (field : Field) : List Nat :=
  field.typeSpan.start :: (field.tag.map (·.span.start)).toList

/-- Whether reports on both fields may start at one position. -/
def SharePosition (x y : SourceFile × Field) : Prop :=
  Path.same x.1.path y.1.path = true ∧ ∃ start ∈ x.2.starts, start ∈ y.2.starts

/-- Whether reports on a field may start at the position of a place. -/
def startsAt (place : Location) (x : SourceFile × Field) : Bool :=
  Path.same x.1.path place.file && decide (place.offset ∈ x.2.starts)

theorem sharePosition_of_startsAt {place : Location} {x y : SourceFile × Field}
    (hx : startsAt place x = true) (hy : startsAt place y = true) : SharePosition x y := by
  simp only [startsAt, Path.same, Bool.and_eq_true, decide_eq_true_eq] at hx hy
  refine ⟨?_, place.offset, hx.2, hy.2⟩
  rw [Path.same, hx.1, hy.1, decide_eq_true rfl]

theorem startsAt_of_mem_reportsOn {dialect : Dialect} {file : SourceFile} {field : Field}
    {d : Diagnostic} (h : d ∈ dialect.checker.reportsOn file field) {place : Location}
    (hplace : d.location.samePosition place = true) : startsAt place (file, field) = true := by
  obtain ⟨tag, htag, hd⟩ := Checker.mem_reportsOn h
  have hplaced : d.location = Site.tagLocation ⟨file, field, tag⟩ ∨
      d.location = Site.typeLocation ⟨file, field, tag⟩ := by
    rcases hd with rfl | ⟨text, value, -, -, hd⟩
    · exact .inl rfl
    · exact (dialect.reports_of_mem_check hd).placed
  simp only [Location.samePosition, Bool.and_eq_true, decide_eq_true_eq] at hplace
  rw [startsAt, Bool.and_eq_true, decide_eq_true_eq, ← hplace.2]
  rcases hplaced with hlocation | hlocation
  · rw [hlocation] at hplace ⊢
    exact ⟨hplace.1, by simp [Field.starts, htag, Site.tagLocation, Location.ofSpan]⟩
  · rw [hlocation] at hplace ⊢
    exact ⟨hplace.1, by simp [Field.starts, Site.typeLocation, Location.ofSpan]⟩

namespace Diagnostics

theorem atPosition_flatMap {α : Type} (place : Location) (xs : List α) (f : α → List Diagnostic) :
    atPosition place (xs.flatMap f) = xs.flatMap fun x => atPosition place (f x) :=
  List.filter_flatMap

end Diagnostics

namespace Linter

open Diagnostics

/-- At a position only the fields count that start there. -/
theorem atPosition_run (dialect : Dialect) (p : Package) (place : Location) :
    atPosition place (dialect.checker.run p []) =
      (p.bareVisit.filter (startsAt place)).flatMap fun x =>
        atPosition place (dialect.checker.reportsOn x.1 x.2) := by
  have hnone (x : SourceFile × Field) (hx : ¬ startsAt place x = true) :
      atPosition place (dialect.checker.reportsOn x.1 x.2) = [] := by
    refine List.filter_eq_nil_iff.2 fun d hd hplace => hx ?_
    exact startsAt_of_mem_reportsOn hd hplace
  have hbare : p.visit.flatMap (fun x => atPosition place (dialect.checker.reportsOn x.1 x.2)) =
      p.bareVisit.flatMap fun x => atPosition place (dialect.checker.reportsOn x.1 x.2) := by
    rw [Package.bareVisit, List.flatMap_map]
    exact List.flatMap_congr fun x _ => by rw [dialect.reportsOn_bare]
  rw [Checker.run_eq_flatMap, List.nil_append, atPosition_flatMap, hbare]
  induction p.bareVisit with
  | nil => rfl
  | cons x rest ih =>
    rw [List.flatMap_cons, ih]
    by_cases hx : startsAt place x = true
    · rw [List.filter_cons_of_pos hx, List.flatMap_cons]
    · rw [List.filter_cons_of_neg hx, hnone x hx, List.nil_append]

theorem atPosition_reports_reordered {p p' : Package} (hp : p.Reordered p')
    (h : ∀ x ∈ p.visit, ∀ y ∈ p.visit, SharePosition x y → x = y) (l : Linter) (place : Location) :
    atPosition place (l.reports p) = atPosition place (l.reports p') := by
  have hsame : p.bareVisit.filter (startsAt place) = p'.bareVisit.filter (startsAt place) := by
    refine eq_of_perm_of_forall_eq (hp.bareVisit_perm.filter _) ?_
    -- two fields that start here share a position
    intro x hx y hy
    obtain ⟨hx, hxplace⟩ := List.mem_filter.1 hx
    obtain ⟨hy, hyplace⟩ := List.mem_filter.1 hy
    obtain ⟨x', hx', rfl⟩ := List.mem_map.1 hx
    obtain ⟨y', hy', rfl⟩ := List.mem_map.1 hy
    rw [h x' hx' y' hy' (sharePosition_of_startsAt hxplace hyplace)]
  rw [reports, reports, atPosition_flatMap, atPosition_flatMap]
  refine List.flatMap_congr fun dialect _ => ?_
  rw [atPosition_run, atPosition_run, hsame]

theorem atPosition_dropRepeats (place : Location) (ds : List Diagnostic) :
    atPosition place (dropRepeats [] ds) = dropRepeats [] (atPosition place ds) :=
  filter_dropRepeats (fun _ _ _ _ hsame => Location.samePosition_congr hsame place) ds
    fun _ _ _ => rfl

/-- Where no two different fields share a position, the order of an export does not matter: files,
structs, fields and nested structs may come in any order. -/
theorem lint_reordered {p p' : Package} (hp : p.Reordered p')
    (h : ∀ x ∈ p.visit, ∀ y ∈ p.visit, SharePosition x y → x = y) (l : Linter) :
    l.lint p = l.lint p' := by
  have hunadjusted : l.unadjusted p = l.unadjusted p' := by
    refine sortByLocation_eq_iff.2 fun place => ?_
    rw [atPosition_dropRepeats, atPosition_dropRepeats, atPosition_reports_reordered hp h]
  rw [lint_eq_filterMap, lint_eq_filterMap, hunadjusted]

/-- Two files, where a struct is nested in a field of the first one, with all lists in the given
order. -/
def nestedPackage (order : {α : Type} → List α → List α) : Package :=
  ⟨none, order
    [⟨"b", none, order [⟨none, {}, order
        [⟨some "B", none, ⟨4, 10⟩, some ⟨"\x60json:\"B\" bson:\"b\"\x60", ⟨50, 69⟩⟩,
            order [⟨none, {}, order
              [⟨some "C", none, ⟨12, 15⟩, some ⟨"json", ⟨16, 20⟩⟩, []⟩,
                ⟨some "D", none, ⟨24, 27⟩, some ⟨"\x60json:\"D\"\x60", ⟨28, 38⟩⟩, []⟩]⟩]⟩,
          ⟨some "E", none, ⟨72, 75⟩, some ⟨"bson", ⟨76, 80⟩⟩, []⟩]⟩]⟩,
      ⟨"a", none, order [⟨none, {}, order
        [⟨some "A", none, ⟨4, 7⟩, some ⟨"\x60json:\"A\"\x60", ⟨8, 18⟩⟩, []⟩]⟩]⟩]⟩

theorem nestedPackage_reordered : (nestedPackage id).Reordered (nestedPackage List.reverse) := by
  have hleaf {name : Option String} {typeSpan : Span} {tag : Option TagLiteral} :
      Field.Reordered ⟨name, none, typeSpan, tag, []⟩ ⟨name, none, typeSpan, tag, []⟩ :=
    .mk .nil .nil
  refine ⟨rfl, _, .swap _ _ _, .cons ⟨rfl, rfl, _, .refl _, .cons ?_ .nil⟩
    (.cons ⟨rfl, rfl, _, .refl _, .cons ?_ .nil⟩ .nil)⟩
  · exact .mk (.refl _) (.cons hleaf .nil)
  · refine .mk (.swap _ _ _) (.cons hleaf (.cons (.mk (.refl _) (.cons ?_ .nil)) .nil))
    exact .mk (.swap _ _ _) (.cons hleaf (.cons hleaf .nil))

set_option maxRecDepth 100000 in
theorem lint_reordered_nested :
    ((ofConfig {}).lint (nestedPackage id)).map (fun d => (d.location.file, d.location.offset)) =
        [("a", 8), ("b", 16), ("b", 28), ("b", 50), ("b", 50), ("b", 76)] ∧
      (ofConfig {}).lint (nestedPackage id) = (ofConfig {}).lint (nestedPackage List.reverse) := by
  have hpaths : Path.same "b" "a" = false ∧ Path.same "a" "b" = false := by
    decide
  refine ⟨by cbv, lint_reordered nestedPackage_reordered ?_ _⟩
  simpa [nestedPackage, Package.visit, Package.entered, enteredAll, Struct.entered, enteredNested,
    SharePosition, Field.starts] using hpaths

end Linter

end StructTags
