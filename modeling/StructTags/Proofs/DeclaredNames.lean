import StructTags.Proofs.DialectIndependence
import StructTags.Proofs.ExportOrder

/-!
# Declared names

The type of a field may stand behind declared names and behind pointers. The rules ask four
questions about its shape, and they take off these layers in three ways: names only
(`FieldType.underlying`), names and pointers (`FieldType.dereferenced`), and names down to the first
pointer (`BsonRules.isInlineable`). A declared name makes no difference to any of them.

A change of types is followed through a run:

* two packages with related types are visited side by side (`Package.Retyped.visit`), and what is
  reported on a field depends on its own type alone (`Field.Retyped.reportsOn_eq`);
* the reports are compared one by one (`Dialect.reportsOn_behindNames`); only the message under one
  rule may show the type, and only if the source does not;
* dropping repeats, applying settings and sorting look at neither message (`Linter.forall₂_lint`).

`Linter.lint_behind_names` states what this means for a run.
-/

namespace StructTags

/-! ## Layers around a type -/

namespace FieldType

/-- The second type is the first one behind any number of declared names. -/
inductive BehindNames (t : FieldType) : FieldType → Prop
  | refl : BehindNames t t
  | named (name : String) {u : FieldType} (h : BehindNames t u) : BehindNames t (.named name u)

/-- The second type is the first one behind names and pointers, in any order. -/
inductive BehindLayers (t : FieldType) : FieldType → Prop
  | refl : BehindLayers t t
  | named (name : String) {u : FieldType} (h : BehindLayers t u) : BehindLayers t (.named name u)
  | pointer {u : FieldType} (h : BehindLayers t u) : BehindLayers t (.pointer u)

variable {t u : FieldType}

theorem BehindNames.behindLayers (h : t.BehindNames u) : t.BehindLayers u := by
  induction h with
  | refl => exact .refl
  | named name _ ih => exact .named name ih

theorem BehindNames.underlying_eq (h : t.BehindNames u) : u.underlying = t.underlying := by
  induction h with
  | refl => rfl
  | named name _ ih => rw [underlying, ih]

theorem BehindNames.isInlineable_eq (h : t.BehindNames u) :
    BsonRules.isInlineable u = BsonRules.isInlineable t := by
  induction h with
  | refl => rfl
  | named name _ ih => rw [BsonRules.isInlineable, ih]

theorem BehindLayers.basicKind?_eq (h : t.BehindLayers u) : u.basicKind? = t.basicKind? := by
  have hbare : u.dereferenced = t.dereferenced := by
    induction h with
    | refl => rfl
    | named name _ ih => rw [dereferenced, ih]
    | pointer _ ih => rw [dereferenced, ih]
  rw [basicKind?, basicKind?, hbare]

end FieldType

section Shapes

open FieldType

variable {type type' : Option FieldType}

theorem behindLayers_of_behindNames (h : Option.Rel BehindNames type type') :
    Option.Rel BehindLayers type type' := by
  cases h with
  | none => exact .none
  | some h => exact .some h.behindLayers

theorem JsonRules.isScalar_behindLayers (h : Option.Rel BehindLayers type type') :
    isScalar type' = isScalar type := by
  cases h with
  | none => rfl
  | some h => simp only [isScalar, Option.bind_some, h.basicKind?_eq]

theorem BsonRules.isMinsizeable_behindLayers (h : Option.Rel BehindLayers type type') :
    type'.any isMinsizeable = type.any isMinsizeable := by
  cases h with
  | none => rfl
  | some h => simp only [Option.any_some, isMinsizeable, h.basicKind?_eq]

theorem BsonRules.isInlineable_behindNames (h : Option.Rel BehindNames type type') :
    type'.any isInlineable = type.any isInlineable := by
  cases h with
  | none => rfl
  | some h => simp only [Option.any_some, h.isInlineable_eq]

theorem BindingRules.isPointerOrInterface_behindNames (h : Option.Rel BehindNames type type') :
    type'.any (!isPointerOrInterface ·) = type.any (!isPointerOrInterface ·) := by
  cases h with
  | none => rfl
  | some h => simp only [Option.any_some, isPointerOrInterface, h.underlying_eq]

end Shapes

/-! ## Packages with other types -/

mutual

/-- The second field is the first one with types exchanged for related ones, its own and those of
the fields nested in it at any depth. -/
inductive Field.Retyped (R : FieldType → FieldType → Prop) : Field → Field → Prop
  | mk {name : Option String} {type type' : Option FieldType} {typeSpan : Span}
      {tag : Option TagLiteral} {nested nested' : List Struct} (htype : Option.Rel R type type')
      (hnested : List.Forall₂ (Struct.Retyped R) nested nested') :
      Field.Retyped R ⟨name, type, typeSpan, tag, nested⟩ ⟨name, type', typeSpan, tag, nested'⟩

/-- The second struct is the first one with types of fields exchanged for related ones. -/
inductive Struct.Retyped (R : FieldType → FieldType → Prop) : Struct → Struct → Prop
  | mk {name : Option String} {span : Span} {fields fields' : List Field}
      (hfields : List.Forall₂ (Field.Retyped R) fields fields') :
      Struct.Retyped R ⟨name, span, fields⟩ ⟨name, span, fields'⟩

end

/-- The second file is the first one with types of fields exchanged for related ones. -/
structure SourceFile.Retyped (R : FieldType → FieldType → Prop) (file file' : SourceFile) :
    Prop where
  path_eq : file.path = file'.path
  source_eq : file.source = file'.source
  structs : List.Forall₂ (Struct.Retyped R) file.structs file'.structs

/-- The second package is the first one with types of fields exchanged for related ones. -/
structure Package.Retyped (R : FieldType → FieldType → Prop) (p p' : Package) : Prop where
  name_eq : p.name = p'.name
  files : List.Forall₂ (SourceFile.Retyped R) p.files p'.files

/-- The field with another type. -/
def Field.withType (field : Field) (type : Option FieldType) : Field :=
  { field with type }

section Retyped

variable {R : FieldType → FieldType → Prop}

theorem Field.Retyped.type {field field' : Field} (h : field.Retyped R field') :
    Option.Rel R field.type field'.type := by
  cases h with
  | mk htype _ => exact htype

theorem Struct.Retyped.fields {s s' : Struct} (h : s.Retyped R s') :
    List.Forall₂ (Field.Retyped R) s.fields s'.fields := by
  cases h with
  | mk hfields => exact hfields

theorem Struct.Retyped.children {s s' : Struct} (h : s.Retyped R s') :
    List.Forall₂ (Struct.Retyped R) s.children s'.children := by
  refine List.rel_flatMap h.fields ?_
  intro field field' hfield
  cases hfield with
  | mk _ hnested => exact hnested

/-- In such structs related fields are visited one after the other. -/
theorem visitStructs_retyped {structs structs' : List Struct}
    (h : List.Forall₂ (Struct.Retyped R) structs structs') :
    List.Forall₂ (Field.Retyped R) (visitStructs structs) (visitStructs structs') := by
  induction structs using forest_induction generalizing structs' with
  | nil =>
    cases h
    rw [visitStructs_nil]
    exact .nil
  | cons s rest ihs ih =>
    cases h with
    | @cons _ s' _ rest' hs hrest =>
      rw [visitStructs_cons, visitStructs_cons]
      exact List.rel_append (List.rel_append hs.fields (ihs hs.children)) (ih hrest)

theorem Package.Retyped.visit {p p' : Package} (h : p.Retyped R p') :
    List.Forall₂ (fun x x' => x.1.bare = x'.1.bare ∧ x.2.Retyped R x'.2) p.visit p'.visit := by
  rw [p.visit_eq_flatMap, p'.visit_eq_flatMap]
  refine List.rel_flatMap h.files ?_
  intro file file' hfile
  have hbare : file.bare = file'.bare := by
    rw [SourceFile.bare, SourceFile.bare, hfile.path_eq, hfile.source_eq]
  rw [List.forall₂_map_left_iff, List.forall₂_map_right_iff]
  exact (visitStructs_retyped hfile.structs).imp fun _ _ hfield => ⟨hbare, hfield⟩

/-- What is reported on such a field is what is reported on the original one with the other type. -/
theorem Field.Retyped.reportsOn_eq (dialect : Dialect) {file file' : SourceFile}
    (hfile : file.bare = file'.bare) {field field' : Field} (h : field.Retyped R field') :
    dialect.checker.reportsOn file' field' =
      dialect.checker.reportsOn file (field.withType field'.type) := by
  have hbare : field'.bare = (field.withType field'.type).bare := by
    cases h with
    | mk => rfl
  rw [← dialect.reportsOn_bare, ← hfile, hbare, dialect.reportsOn_bare]

end Retyped

/-! ## Reports on a field with another type -/

/-- The source of a file gives no text for a span, or only an empty one. -/
def SourceFile.Hides (file : SourceFile) (span : Span) : Prop :=
  ∀ text, file.text? span = some text → text = ""

/-- The second report is the first one, except that its message may be another one where `may`
allows it. -/
structure Diagnostic.SameBut (may : Diagnostic → Prop) (d d' : Diagnostic) : Prop where
  ruleId_eq : d'.ruleId = d.ruleId
  severity_eq : d'.severity = d.severity
  location_eq : d'.location = d.location
  suggestions_eq : d'.suggestions = d.suggestions
  message_eq : d'.message = d.message ∨ may d

theorem Diagnostic.SameBut.refl (may : Diagnostic → Prop) (d : Diagnostic) : d.SameBut may d :=
  ⟨rfl, rfl, rfl, rfl, .inl rfl⟩

section Reports

open FieldType

variable {file : SourceFile} {field : Field} {tag : TagLiteral} {type : Option FieldType}

/-- The type is shown as the source has it, unless there is nothing to show. -/
theorem Site.typeText_withType :
    Site.typeText ⟨file, field.withType type, tag⟩ = Site.typeText ⟨file, field, tag⟩ ∨
      file.Hides field.typeSpan := by
  cases hshown : (file.text? field.typeSpan).filter (!·.isEmpty) with
  | some text =>
    left
    simp only [Site.typeText, Field.withType, hshown]
  | none =>
    right
    intro text htext
    rw [htext] at hshown
    simpa using hshown

theorem filter_ite_eq_nil {c : Prop} [Decidable c] {r : Diagnostic} {keep : String → Bool}
    (h : keep r.ruleId = false) :
    (if c then [r] else []).filter (fun d => keep d.ruleId) = [] := by
  split
  · simp [h]
  · rfl

theorem JsonRules.check_withType (h : isScalar type = isScalar field.type) (text : String) :
    check ⟨file, field.withType type, tag⟩ text = check ⟨file, field, tag⟩ text := by
  have hstring (value : Tag.Value) : checkString ⟨file, field.withType type, tag⟩ value =
      checkString ⟨file, field, tag⟩ value := by
    simp only [checkString, Field.withType, h]
    rfl
  unfold check
  cases Tag.Usage.ofText text with
  | skip => rfl
  | use value =>
    simp only [hstring]
    rfl

/-- Unless the field is left out, its value is checked against four rules; the last two ask for the
type. -/
theorem BsonRules.check_use {site : Site} {text : String} {value : Tag.Value}
    (h : Tag.Usage.ofText text = .use value) :
    check site text = checkOptions site value ++ checkSameName site value ++
      checkInline site value ++ checkMinsize site value := by
  rw [check, h]

theorem BsonRules.checkMinsize_withType
    (h : type.any isMinsizeable = field.type.any isMinsizeable) (value : Tag.Value) :
    checkMinsize ⟨file, field.withType type, tag⟩ value =
      checkMinsize ⟨file, field, tag⟩ value := by
  simp only [checkMinsize, Field.withType, h]
  rfl

theorem BsonRules.check_withType (hinline : type.any isInlineable = field.type.any isInlineable)
    (hminsize : type.any isMinsizeable = field.type.any isMinsizeable) (text : String) :
    check ⟨file, field.withType type, tag⟩ text = check ⟨file, field, tag⟩ text := by
  cases husage : Tag.Usage.ofText text with
  | skip => rw [check, check, husage]
  | use value =>
    have hchecked : checkInline ⟨file, field.withType type, tag⟩ value =
        checkInline ⟨file, field, tag⟩ value := by
      simp only [checkInline, Field.withType, hinline]
      rfl
    rw [check_use husage, check_use husage, hchecked, checkMinsize_withType hminsize]
    rfl

/-- The rule about `inline` is the only one that may tell a pointer. -/
theorem BsonRules.filter_check_withType
    (h : type.any isMinsizeable = field.type.any isMinsizeable) (text : String)
    {keep : String → Bool} (hkeep : keep inlineShape = false) :
    (check ⟨file, field.withType type, tag⟩ text).filter (fun d => keep d.ruleId) =
      (check ⟨file, field, tag⟩ text).filter fun d => keep d.ruleId := by
  have hdropped (site : Site) (value : Tag.Value) :
      (checkInline site value).filter (fun d => keep d.ruleId) = [] := by
    rw [checkInline]
    exact filter_ite_eq_nil hkeep
  cases husage : Tag.Usage.ofText text with
  | skip => rw [check, check, husage]
  | use value =>
    simp only [check_use husage, List.filter_append, hdropped, checkMinsize_withType h]
    rfl

/-- Whether a tag can be read as a whole and marks its field with `exists`. -/
def BindingRules.marked (tag : TagLiteral) : Bool :=
  ((unquote tag.literal).toOption.bind fun text =>
    (TagSet.parse text).toOption.bind (·.get? key)).any fun entry => marksExists entry.value

theorem BindingRules.check_eq_ite (site : Site) (text : String) :
    check site text =
      if marked site.tag && site.field.type.any (!isPointerOrInterface ·) then
        [site.typeDiagnostic existsNonPointer .error "exists field must be pointer/interface"]
      else [] := by
  unfold check marked
  cases unquote site.tag.literal with
  | error fault => rfl
  | ok text =>
    cases hparse : TagSet.parse text with
    | error part => simp [Except.toOption, hparse]
    | ok tags =>
      cases hentry : tags.get? key with
      | none => simp [Except.toOption, hparse, hentry]
      | some entry =>
        cases htype : site.field.type with
        | none => simp [hparse, hentry]
        | some t => simp [Except.toOption, hparse, hentry]

theorem BindingRules.check_withType (h : Option.Rel BehindNames field.type type) (text : String) :
    List.Forall₂
      (Diagnostic.SameBut fun d => d.ruleId = existsNonPointer ∧ file.Hides field.typeSpan)
      (check ⟨file, field, tag⟩ text) (check ⟨file, field.withType type, tag⟩ text) := by
  rw [check_eq_ite, check_eq_ite, Field.withType]
  simp only [isPointerOrInterface_behindNames h]
  split
  · refine .cons ⟨rfl, rfl, rfl, rfl, ?_⟩ .nil
    rcases Site.typeText_withType with hshown | hhides
    · left
      exact congrArg ("exists field must be pointer/interface" ++ ": " ++ ·) hshown
    · right
      exact ⟨rfl, hhides⟩
  · exact .nil

/-- What holds of the reports about every value of a field holds of the reports on the field. -/
theorem Checker.reportsOn_withType (c : Checker) {P : List Diagnostic → List Diagnostic → Prop}
    (hrefl : ∀ ds, P ds ds)
    (hcheck : ∀ tag text, P (c.check ⟨file, field, tag⟩ text)
      (c.check ⟨file, field.withType type, tag⟩ text)) :
    P (c.reportsOn file field) (c.reportsOn file (field.withType type)) := by
  cases htag : field.tag with
  | none =>
    have htag' : (field.withType type).tag = none := htag
    rw [reportsOn_untagged htag, reportsOn_untagged htag']
    exact hrefl []
  | some tag =>
    have htag' : (field.withType type).tag = some tag := htag
    cases htext : unquote tag.literal with
    | error fault =>
      rw [reportsOn_invalid htag htext, reportsOn_invalid htag' htext]
      exact hrefl _
    | ok text =>
      cases hvalue : Tag.lookup text c.key with
      | none =>
        rw [reportsOn_missing htag htext hvalue, reportsOn_missing htag' htext hvalue]
        exact hrefl []
      | some value =>
        rw [reportsOn_eq htag htext hvalue, reportsOn_eq htag' htext hvalue]
        exact hcheck tag value

/-- A declared name changes no report on a field, but for what a message shows of the type. -/
theorem Dialect.reportsOn_behindNames (dialect : Dialect)
    (h : Option.Rel BehindNames field.type type) :
    List.Forall₂
      (Diagnostic.SameBut fun d =>
        d.ruleId = BindingRules.existsNonPointer ∧ file.Hides field.typeSpan)
      (dialect.checker.reportsOn file field)
      (dialect.checker.reportsOn file (field.withType type)) := by
  have hlayers := behindLayers_of_behindNames h
  have hsame {ds ds' : List Diagnostic} (heq : ds' = ds) {may : Diagnostic → Prop} :
      List.Forall₂ (Diagnostic.SameBut may) ds ds' := by
    rw [heq]
    exact List.forall₂_same.2 fun d _ => .refl may d
  refine dialect.checker.reportsOn_withType (fun ds => hsame rfl) ?_
  intro tag text
  cases dialect with
  | json => exact hsame (JsonRules.check_withType (JsonRules.isScalar_behindLayers hlayers) text)
  | bson =>
    exact hsame (BsonRules.check_withType (BsonRules.isInlineable_behindNames h)
      (BsonRules.isMinsizeable_behindLayers hlayers) text)
  | binding => exact BindingRules.check_withType h text

/-- The rules that look through names and pointers alike. -/
def scalarRules : List String :=
  [JsonRules.stringNonScalar, BsonRules.minsizeShape]

/-- Neither a name nor a pointer changes what is reported on a field under these rules. -/
theorem Dialect.filter_reportsOn_behindLayers (dialect : Dialect)
    (h : Option.Rel BehindLayers field.type type) :
    (dialect.checker.reportsOn file field).filter (fun d => scalarRules.contains d.ruleId) =
      (dialect.checker.reportsOn file (field.withType type)).filter
        fun d => scalarRules.contains d.ruleId := by
  refine dialect.checker.reportsOn_withType
    (P := fun ds ds' => ds.filter _ = ds'.filter _) (fun ds => rfl) ?_
  intro tag text
  cases dialect with
  | json =>
    have hcheck : JsonRules.check ⟨file, field.withType type, tag⟩ text =
        JsonRules.check ⟨file, field, tag⟩ text :=
      JsonRules.check_withType (JsonRules.isScalar_behindLayers h) text
    exact congrArg _ hcheck.symm
  | bson =>
    exact (BsonRules.filter_check_withType (BsonRules.isMinsizeable_behindLayers h) text
      (by decide)).symm
  | binding =>
    have hdropped (site : Site) :
        (BindingRules.check site text).filter (fun d => scalarRules.contains d.ruleId) = [] := by
      rw [BindingRules.check_eq_ite]
      exact filter_ite_eq_nil (show scalarRules.contains BindingRules.existsNonPointer = false by
        decide)
    exact (hdropped _).trans (hdropped _).symm

end Reports

/-! ## Runs -/

/-- Sorting keeps related diagnostics side by side. -/
theorem Diagnostics.forall₂_sortByLocation {Q : Diagnostic → Diagnostic → Prop}
    (hQ : ∀ d d', Q d d' → d'.location = d.location) {ds ds' : List Diagnostic}
    (h : List.Forall₂ Q ds ds') : List.Forall₂ Q (sortByLocation ds) (sortByLocation ds') := by
  -- both lists are the two sides of one list of pairs, which is sorted as a whole
  obtain ⟨zs, rfl, rfl⟩ : ∃ zs : List (Diagnostic × Diagnostic),
      zs.map Prod.fst = ds ∧ zs.map Prod.snd = ds' :=
    ⟨ds.zip ds', List.map_fst_zip h.length_eq.le, List.map_snd_zip h.length_eq.ge⟩
  rw [List.forall₂_map_left_iff, List.forall₂_map_right_iff, List.forall₂_same] at h
  have hfirst : (zs.mergeSort fun a b => notAfter a.1 b.1).map Prod.fst =
      (zs.map Prod.fst).mergeSort notAfter := by
    apply List.map_mergeSort
    intro a _ b _
    rfl
  have hsecond : (zs.mergeSort fun a b => notAfter a.1 b.1).map Prod.snd =
      (zs.map Prod.snd).mergeSort notAfter := by
    apply List.map_mergeSort
    intro a ha b hb
    rw [notAfter, notAfter, hQ _ _ (h a ha), hQ _ _ (h b hb)]
  rw [sortByLocation_eq, sortByLocation_eq, ← hfirst, ← hsecond, List.forall₂_map_left_iff,
    List.forall₂_map_right_iff, List.forall₂_same]
  intro z hz
  exact h z (List.mem_mergeSort.1 hz)

namespace Linter

variable {may : Diagnostic → Prop}

theorem forall₂_dropRepeats {ds ds' : List Diagnostic}
    (h : List.Forall₂ (Diagnostic.SameBut may) ds ds') (seen : List Location) :
    List.Forall₂ (Diagnostic.SameBut may) (dropRepeats seen ds) (dropRepeats seen ds') := by
  induction h generalizing seen with
  | nil => exact .nil
  | cons hd _ ih =>
    rw [dropRepeats, dropRepeats, hd.ruleId_eq, hd.location_eq]
    split
    · exact .cons hd (ih seen)
    · split
      · exact ih seen
      · exact .cons hd (ih _)

theorem forall₂_filterMap_adjust? (l : Linter)
    (hmay : ∀ d severity, may d → may { d with severity }) {ds ds' : List Diagnostic}
    (h : List.Forall₂ (Diagnostic.SameBut may) ds ds') :
    List.Forall₂ (Diagnostic.SameBut may) (ds.filterMap l.adjust?) (ds'.filterMap l.adjust?) := by
  refine List.rel_filterMap ?_ h
  intro d d' hd
  rw [adjust?, adjust?, hd.ruleId_eq]
  cases l.settings.lookup d.ruleId with
  | none => exact .some hd
  | some setting =>
    simp only
    cases setting.severity? with
    | none => exact .none
    | some severity =>
      exact .some ⟨rfl, rfl, hd.location_eq, hd.suggestions_eq,
        hd.message_eq.imp_right (hmay d severity)⟩

/-- If the reports of two runs differ in messages alone, then so do the results. -/
theorem forall₂_lint (l : Linter) (hmay : ∀ d severity, may d → may { d with severity })
    {p p' : Package} (h : List.Forall₂ (Diagnostic.SameBut may) (l.reports p) (l.reports p')) :
    List.Forall₂ (Diagnostic.SameBut may) (l.lint p) (l.lint p') := by
  unfold lint
  split
  · refine Diagnostics.forall₂_sortByLocation (fun d d' hd => hd.location_eq) ?_
    exact l.forall₂_filterMap_adjust? hmay (forall₂_dropRepeats h [])
  · exact .nil

end Linter

/-- The report is that a field marked `exists` is no pointer, and the source does not show the type
of this field. -/
def Package.HidesTypeOf (p : Package) (d : Diagnostic) : Prop :=
  d.ruleId = BindingRules.existsNonPointer ∧
    ∃ file field, (file, field) ∈ p.visit ∧ file.Hides field.typeSpan ∧
      ∃ severity, { d with severity } ∈ BindingRules.checker.reportsOn file field

theorem Dialect.eq_binding_of_mem_reportsOn {dialect : Dialect} {file : SourceFile} {field : Field}
    {d : Diagnostic} (hd : d ∈ dialect.checker.reportsOn file field)
    (hrule : d.ruleId = BindingRules.existsNonPointer) : dialect = .binding := by
  rcases dialect.invalidTag_or_reports hd with ⟨hinvalid, -⟩ | ⟨tag, hreports⟩
  · rw [hinvalid] at hrule
    exact absurd hrule (by decide)
  · apply hreports.owns_iff.1
    rw [hrule]
    decide

namespace Linter

open FieldType

theorem forall₂_reports (l : Linter) {p p' : Package} (hp : p.Retyped BehindNames p') :
    List.Forall₂ (Diagnostic.SameBut p.HidesTypeOf) (l.reports p) (l.reports p') := by
  refine List.rel_flatMap (List.forall₂_same.2 fun _ _ => rfl) ?_
  rintro dialect _ rfl
  simp only [Checker.run_eq_flatMap, List.nil_append]
  refine List.rel_flatMap ((List.forall₂_and_left _ _).2 ⟨fun x hx => hx, hp.visit⟩) ?_
  rintro x x' ⟨hx, hfile, hfield⟩
  simp only [hfield.reportsOn_eq dialect hfile]
  have hreports := @Dialect.reportsOn_behindNames x.1 x.2 _ dialect hfield.type
  -- a report whose message may change has to be traced to this field
  refine ((List.forall₂_and_left _ _).2 ⟨fun d hd => hd, hreports⟩).imp ?_
  rintro d d' ⟨hd, hsame⟩
  refine ⟨hsame.ruleId_eq, hsame.severity_eq, hsame.location_eq, hsame.suggestions_eq, ?_⟩
  rcases hsame.message_eq with hmessage | ⟨hrule, hhides⟩
  · exact .inl hmessage
  · rw [Dialect.eq_binding_of_mem_reportsOn hd hrule] at hd
    exact .inr ⟨hrule, x.1, x.2, hx, hhides, d.severity, hd⟩

theorem filter_reports_behindLayers (l : Linter) {p p' : Package} (hp : p.Retyped BehindLayers p') :
    (l.reports p).filter (fun d => scalarRules.contains d.ruleId) =
      (l.reports p').filter fun d => scalarRules.contains d.ruleId := by
  rw [filter_reports, filter_reports]
  refine List.flatMap_congr fun dialect _ => ?_
  rw [← List.forall₂_eq_eq_eq]
  refine List.rel_flatMap hp.visit ?_
  rintro x x' ⟨hfile, hfield⟩
  simp only [hfield.reportsOn_eq dialect hfile, List.forall₂_eq_eq_eq]
  exact dialect.filter_reportsOn_behindLayers hfield.type

/-- Declared names around the types of fields, any number of them and at any depth, change nothing
in the result of a run but messages that show a type because the source does not. Names and pointers
together change nothing in what is reported under the rules about scalars. -/
theorem lint_behind_names (l : Linter) (p p' : Package) :
    (p.Retyped BehindNames p' →
        List.Forall₂ (Diagnostic.SameBut p.HidesTypeOf) (l.lint p) (l.lint p')) ∧
      (p.Retyped BehindLayers p' →
        (l.lint p).filter (fun d => scalarRules.contains d.ruleId) =
          (l.lint p').filter fun d => scalarRules.contains d.ruleId) := by
  constructor
  · intro hp
    refine l.forall₂_lint ?_ (l.forall₂_reports hp)
    rintro d severity ⟨hrule, file, field, hvisit, hhides, hreported⟩
    exact ⟨hrule, file, field, hvisit, hhides, hreported⟩
  · intro hp
    rw [filter_lint, filter_lint, l.filter_reports_behindLayers hp]

/-- A file without its source, with a struct nested in the field of another one. The types of both
fields stand behind `wrap`. -/
def shapedPackage (wrap : FieldType → FieldType) : Package :=
  let inner : Field := ⟨some "B", some (wrap (.slice (.basic .int))), ⟨10, 15⟩,
    some ⟨"\x60json:\"b,string\" bson:\"c,inline\"\x60", ⟨16, 48⟩⟩, []⟩
  let outer : Field := ⟨some "A", some (wrap (.basic .int)), ⟨2, 50⟩,
    some ⟨"\x60bson:\"b,minsize\" binding:\"exists\"\x60", ⟨51, 86⟩⟩, [⟨none, ⟨2, 50⟩, [inner]⟩]⟩
  ⟨none, [⟨"a", none, [⟨some "S", ⟨0, 88⟩, [outer]⟩]⟩]⟩

theorem shapedPackage_retyped {R : FieldType → FieldType → Prop} {wrap : FieldType → FieldType}
    (h : ∀ t, R t (wrap t)) : (shapedPackage id).Retyped R (shapedPackage wrap) := by
  refine ⟨rfl, .cons ⟨rfl, rfl, .cons (.mk (.cons (.mk (.some (h _)) ?_) .nil)) .nil⟩ .nil⟩
  exact .cons (.mk (.cons (.mk (.some (h _)) .nil) .nil)) .nil

set_option maxRecDepth 100000 in
/-- There is a report under each rule about types. The message of the first one shows the type and
changes with its name. -/
theorem lint_behind_names_nested :
    (lint {} (shapedPackage id)).map (fun d => d.ruleId) =
        [BindingRules.existsNonPointer, JsonRules.stringNonScalar, BsonRules.inlineShape,
          BsonRules.minsizeShape] ∧
      ((lint {} (shapedPackage (.named "N"))).map fun d => d.message).head? =
        some "exists field must be pointer/interface: N" ∧
      List.Forall₂ (Diagnostic.SameBut (shapedPackage id).HidesTypeOf)
        (lint {} (shapedPackage id)) (lint {} (shapedPackage (.named "N"))) ∧
      (lint {} (shapedPackage id)).filter (fun d => scalarRules.contains d.ruleId) =
        (lint {} (shapedPackage (.named "N" ∘ .pointer))).filter
          fun d => scalarRules.contains d.ruleId := by
  refine ⟨by cbv, by cbv, ?_, ?_⟩
  · exact (lint_behind_names _ _ _).1 (shapedPackage_retyped fun t => .named "N" .refl)
  · exact (lint_behind_names _ _ _).2 (shapedPackage_retyped fun t => .named "N" (.pointer .refl))

end Linter

end StructTags
