import Mathlib
import StructTags.Model.Load
import StructTags.Proofs.RecordCodec
import StructTags.Proofs.Traversal

/-!
# Exports

An export loses nothing: reading a package from the document that it is written as gives the
package back, whatever structs are nested in its fields and whatever types these have.

* `recovers_fieldType`: a type is cut into its form and parts again (`parts?_toJson`), at every
  level of the type;
* `recovers_structs`: structs and the structs nested in their fields, by `forest_induction`;
* `Package.export_lossless`: a package, from its document and from the text of a JSON file.

Numbers are the only limit: a reader keeps them up to 64 bits.
-/

namespace StructTags

/-! ## Numbers of 64 bits -/

@[mk_iff]
structure Span.Fits (s : Span) : Prop where
  start : s.start < Digits.word64
  stop : s.stop < Digits.word64

/-- The lengths of arrays in a type have at most 64 bits. -/
def FieldType.Fits : FieldType → Prop
  | .pointer elem => elem.Fits
  | .named _ underlying => underlying.Fits
  | .map key value => key.Fits ∧ value.Fits
  | .slice elem => elem.Fits
  | .array length elem => length < Digits.word64 ∧ elem.Fits
  | _ => True

/-- The numbers of a field have at most 64 bits, those of the structs nested in it aside. -/
@[mk_iff]
structure Field.Fits (f : Field) : Prop where
  type : ∀ t ∈ f.type, t.Fits
  typeSpan : f.typeSpan.Fits
  tag : ∀ t ∈ f.tag, t.span.Fits

/-- The numbers of a struct and of its own fields have at most 64 bits. -/
@[mk_iff]
structure Struct.Fits (s : Struct) : Prop where
  span : s.span.Fits
  fields : ∀ f ∈ s.fields, f.Fits

/-- All numbers of a package have at most 64 bits, at any depth. -/
def Package.Fits (p : Package) : Prop :=
  ∀ file ∈ p.files, ∀ x ∈ walk 0 file.structs, x.2.Fits

/-! ## Types -/

namespace FieldType

theorem outerForm?_name (f : Form) : outerForm? (.ofText f.name) = some f := by
  cases f <;> rfl

theorem innerForm?_name (f : Form) : innerForm? (.ofText f.name) = some f := by
  cases f <;> rfl

theorem plainKind?_name (k : BasicKind) : plainKind? (.ofText k.name) = some k := by
  cases k <;> rfl

/-- The form of a type. -/
def form : FieldType → Form
  | .basic _ => .basic
  | .pointer _ => .pointer
  | .named _ _ => .named
  | .struct => .struct
  | .interface => .interface
  | .map _ _ => .map
  | .slice _ => .slice
  | .array _ _ => .array
  | .other _ => .other

/-- What belongs to the form of a type, under the names that it is written with. -/
def parts : FieldType → List (String × Json)
  | .basic kind => [("basic", .str kind.name)]
  | .pointer elem => [("elem", elem.toJson)]
  | .named name underlying => [("name", .str name), ("underlying", underlying.toJson)]
  | .struct => []
  | .interface => []
  | .map key value => [("key", key.toJson), ("value", value.toJson)]
  | .slice elem => [("elem", elem.toJson)]
  | .array length elem => [("len", .nat length), ("elem", elem.toJson)]
  | .other text => [("repr", .str text)]

theorem toJson_eq (t : FieldType) : t.toJson = .obj (("kind", .str t.form.name) :: t.parts) := by
  cases t <;> rfl

theorem names_parts (t : FieldType) : t.parts.map (·.1) = t.form.fields := by
  cases t <;> rfl

theorem mapM_range_eq {α : Type} {f : Nat → Option α} {as : List α}
    (h : ∀ i (hi : i < as.length), f i = some as[i]) : (List.range as.length).mapM f = some as := by
  have hmap : (List.finRange as.length).mapM (fun i : Fin as.length => f i) =
      some ((List.finRange as.length).map fun i => as[i]) :=
    Json.mapM_eq_some_map fun i _ => h i i.2
  rw [← List.map_coe_finRange_eq_range, List.mapM_map]
  exact hmap.trans (congrArg some (List.map_getElem_finRange as))

/-- A name is numbered by where it stands. -/
theorem findIdx?_eq_some {names : List String} (hnodup : names.Nodup) {i : Nat}
    (hi : i < names.length) {name : String} :
    names.findIdx? (· = name) = some i ↔ name = names[i] := by
  rw [List.findIdx?_eq_some_iff_getElem]
  constructor
  · rintro ⟨_, hname, -⟩
    exact (of_decide_eq_true hname).symm
  · rintro rfl
    refine ⟨hi, by simp, fun j hji hname => ?_⟩
    exact hji.ne (hnodup.getElem_inj_iff.1 (of_decide_eq_true hname))

/-- Exactly one part has a given number. -/
theorem filter_index_eq {parts : List (String × Json)} (hnodup : (parts.map (·.1)).Nodup) {i : Nat}
    (hi : i < parts.length) :
    (parts.map fun x => ((parts.map (·.1)).findIdx? (· = x.1), x.2.toDocument)).filter
      (·.1 = some i) = [(some i, parts[i].2.toDocument)] := by
  have hindex : ∀ name : String,
      (parts.map (·.1)).findIdx? (· = name) = some i ↔ name = parts[i].1 := by
    intro name
    rw [findIdx?_eq_some hnodup (by simpa using hi), List.getElem_map]
  rw [List.filter_map, List.filter_congr (q := fun x => x.1 = parts[i].1),
    Json.filter_name_eq hnodup (List.getElem_mem hi)]
  · rw [List.map_singleton, (hindex _).2 rfl]
  · intro x _
    exact decide_eq_decide.2 (hindex x.1)

/-- The entry with the form is told from the parts. -/
theorem isKind_part {f : Form} {name : String} (h : name ∈ f.fields) (d : Document) :
    isKind (.ofText name, d) = false := by
  have hkind : "kind" ∉ f.fields := by cases f <;> decide
  have hne : name ≠ "kind" := fun hname => hkind (hname ▸ h)
  simp [isKind, Leaf.ofText, hne]

/-- Written behind the name of its form, the parts of a type are found again in order. -/
theorem parts?_obj {form? : Document → Option Form} {f : Form}
    (hform : form? (.ofText f.name) = some f) {parts : List (String × Json)}
    (hparts : parts.map (·.1) = f.fields) :
    parts? form? (Json.obj (("kind", .str f.name) :: parts)).toDocument =
      some (f, parts.map (·.2.toDocument)) := by
  have hpart : ∀ e ∈ parts.map fun x => (Leaf.ofText x.1, x.2.toDocument), isKind e = false := by
    intro e he
    obtain ⟨x, hx, rfl⟩ := List.mem_map.1 he
    exact isKind_part (hparts ▸ List.mem_map.2 ⟨x, hx, rfl⟩) _
  have hkind : isKind (.ofText "kind", .ofText f.name) = true := rfl
  have hfind : (parts.map fun x => (Leaf.ofText x.1, x.2.toDocument)).filter isKind = [] :=
    List.filter_eq_nil_iff.2 fun e he => by simp [hpart e he]
  have hothers : (parts.map fun x => (Leaf.ofText x.1, x.2.toDocument)).filter (!isKind ·) =
      parts.map fun x => (Leaf.ofText x.1, x.2.toDocument) :=
    List.filter_eq_self.2 fun e he => by simp [hpart e he]
  have hindexed : (parts.map fun x => (Leaf.ofText x.1, x.2.toDocument)).mapM
      (fun e => (plainIndex? f.fields e.1).bind fun index => pure (index, e.2)) =
        some (parts.map fun x => (f.fields.findIdx? (· = x.1), x.2.toDocument)) := by
    rw [List.mapM_map]
    exact Json.mapM_eq_some_map fun x _ => rfl
  rw [Json.toDocument, Json.entriesOf_eq, List.map_cons, Json.toDocument, parts?,
    List.filter_cons_of_pos hkind, List.filter_cons_of_neg (by simp [hkind]), hfind, hothers]
  simp only [hform, Option.bind_eq_bind, Option.bind_some]
  -- A form without parts is read without looking at the other entries.
  split_ifs with hempty
  · have hnil : parts = [] := by
      rwa [← hparts, List.isEmpty_iff, List.map_eq_nil_iff] at hempty
    rw [hnil]
    rfl
  · have hnodup : (parts.map (·.1)).Nodup := hparts ▸ by cases f <;> decide
    have hlength : (parts.map (·.1)).length = (parts.map (·.2.toDocument)).length := by
      rw [List.length_map, List.length_map]
    rw [hindexed, ← hparts, Option.bind_some, hlength, mapM_range_eq]
    · rfl
    · intro i hi
      rw [List.length_map] at hi
      rw [filter_index_eq hnodup hi, List.getElem_map]

theorem parts?_toJson {form? : Document → Option Form}
    (hform : ∀ f : Form, form? (.ofText f.name) = some f) (t : FieldType) :
    parts? form? t.toJson.toDocument = some (t.form, t.parts.map (·.2.toDocument)) := by
  rw [toJson_eq]
  exact parts?_obj (hform t.form) (names_parts t)

/-- A type is recovered wherever its form is read by its name. -/
theorem recovers_ofParts? {form? : Document → Option Form}
    (hform : ∀ f : Form, form? (.ofText f.name) = some f) (t : FieldType) :
    Json.Recovers toJson (ofParts? form?) t := by
  induction t generalizing form? with
  | basic kind =>
    intro _ n hn
    obtain ⟨m, rfl, -⟩ := Json.exists_depth_obj hn
    have hkind : plainKind? (Json.str kind.name).toDocument = some kind := plainKind?_name kind
    rw [ofParts?, parts?_toJson hform]
    simp [form, parts, hkind]
  | struct | interface | other =>
    intro _ n hn
    obtain ⟨m, rfl, -⟩ := Json.exists_depth_obj hn
    rw [ofParts?, parts?_toJson hform]
    rfl
  | pointer elem ih | slice elem ih =>
    intro hfits n hn
    obtain ⟨m, rfl, hdepth⟩ := Json.exists_depth_obj hn
    have helem := (ih innerForm?_name).field hfits hdepth "elem" (by simp)
    rw [ofParts?, parts?_toJson hform]
    simp [form, parts, helem]
  | named name underlying ih =>
    intro hfits n hn
    obtain ⟨m, rfl, hdepth⟩ := Json.exists_depth_obj hn
    have hname : plainText? (Json.str name).toDocument = some name := rfl
    have hunderlying := (ih innerForm?_name).field hfits hdepth "underlying" (by simp)
    rw [ofParts?, parts?_toJson hform]
    simp [form, parts, hname, hunderlying]
  | map key value ihkey ihvalue =>
    intro hfits n hn
    obtain ⟨m, rfl, hdepth⟩ := Json.exists_depth_obj hn
    have hkey := (ihkey innerForm?_name).field hfits hdepth "key" (by simp)
    have hvalue := (ihvalue innerForm?_name).field hfits hdepth "value" (by simp)
    rw [ofParts?, parts?_toJson hform]
    simp [form, parts, hkey, hvalue]
  | array length elem ih =>
    intro hfits n hn
    obtain ⟨m, rfl, hdepth⟩ := Json.exists_depth_obj hn
    have hlength : plainNatural? (Json.nat length).toDocument = some length := by
      rw [Json.toDocument_nat (Json.fits_nat.1 (Json.fits_obj.1 hfits ("len", _) (by simp)))]
      rfl
    have helem := (ih innerForm?_name).field hfits hdepth "elem" (by simp)
    rw [ofParts?, parts?_toJson hform]
    simp [form, parts, hlength, helem]

/-- What was written can be read without knowing what is wanted of it. -/
theorem isPlain_toDocument {n : Nat} {j : Json} (h : j.toDocument.depth ≤ n) :
    j.toDocument.isPlain n := by
  -- The recursion is on the depth: it falls with every list and record, so that no statements
  -- about lists of values are needed beside this one.
  match j with
  | .null | .bool _ | .str _ =>
    simp [Json.toDocument, Document.isPlain, Document.ofText, Leaf.ofMeaning, Leaf.ofText]
  | .nat k =>
    rw [Json.toDocument, Document.isPlain]
    split <;> simp [Leaf.ofMeaning]
  | .arr items =>
    obtain ⟨m, rfl, hdepth⟩ := Json.exists_depth_arr h
    rw [Json.toDocument, Json.documentsOf_eq, Document.isPlain, List.all_map, List.all_eq_true]
    exact fun j hj => isPlain_toDocument (hdepth j hj)
  | .obj fields =>
    obtain ⟨m, rfl, hdepth⟩ := Json.exists_depth_obj h
    rw [Json.toDocument, Json.entriesOf_eq, Document.isPlain, List.all_map, List.all_eq_true]
    intro f hf
    simpa [Leaf.ofText] using isPlain_toDocument (hdepth f hf)
termination_by n

theorem recovers_fieldType (t : FieldType) : Json.Recovers toJson ofDocument? t := by
  intro hfits n hn
  -- The outermost form is read as a text, the others as what they are by themselves.
  have hread := recovers_ofParts? outerForm?_name t hfits n hn
  rw [toJson_eq] at hn hread ⊢
  obtain ⟨m, rfl, hdepth⟩ := Json.exists_depth_obj hn
  have hplain : partsArePlain m (Json.obj (("kind", .str t.form.name) :: t.parts)).toDocument := by
    rw [Json.toDocument, Json.entriesOf_eq, partsArePlain, List.all_map, List.all_eq_true]
    intro f hf
    simp [Leaf.ofText, isPlain_toDocument (hdepth f hf)]
  rw [ofDocument?, if_pos hplain, hread]

theorem fits_toJson {t : FieldType} (h : t.Fits) : t.toJson.Fits := by
  induction t with
  | basic | struct | interface | other => simp [toJson, Json.fits_obj, Json.fits_str]
  | pointer elem ih | slice elem ih => simpa [toJson, Json.fits_obj, Json.fits_str] using ih h
  | named name underlying ih => simpa [toJson, Json.fits_obj, Json.fits_str] using ih h
  | map key value ihkey ihvalue =>
    simp [toJson, Json.fits_obj, Json.fits_str, ihkey h.1, ihvalue h.2]
  | array length elem ih =>
    simp [toJson, Json.fits_obj, Json.fits_str, Json.fits_nat, h.1, ih h.2]

end FieldType

/-! ## Structs -/

theorem Span.fits_toJson {s : Span} : s.toJson.Fits ↔ s.Fits := by
  simp [toJson, Json.fits_obj, Json.fits_nat, Span.fits_iff]

theorem recovers_span (r : Reading) (s : Span) :
    Json.Recovers Span.toJson (Span.ofDocument? r) s := by
  intro hfits n hn
  obtain ⟨hstart, hstop⟩ := Span.fits_toJson.1 hfits
  obtain ⟨m, rfl, -⟩ := Json.exists_depth_obj hn
  rw [Span.ofDocument?, Span.toJson, Json.fields?_obj r []]
  · simp [Json.natural?_nat, hstart, hstop]
  · rfl
  · decide

theorem recovers_optionalType (t? : Option FieldType) :
    Json.Recovers (.ofOption FieldType.toJson)
      (fun n => Document.optional (FieldType.ofDocument? n)) t? := by
  refine Json.recovers_ofOption (fun t => ?_) fun t _ => FieldType.recovers_fieldType t
  rw [FieldType.toJson_eq]
  rfl

theorem recovers_tagLiteral (r : Reading) (t : TagLiteral) :
    Json.Recovers TagLiteral.toJson (TagLiteral.ofDocument? r) t := by
  intro hfits n hn
  obtain ⟨m, rfl, hdepth⟩ := Json.exists_depth_obj hn
  have hspan := (recovers_span r t.span).field hfits hdepth "span" (by simp)
  rw [TagLiteral.ofDocument?, TagLiteral.toJson, Json.fields?_obj r []]
  · simp [Json.text?_str, hspan]
  · rfl
  · decide

theorem recovers_optionalTag (r : Reading) (t? : Option TagLiteral) :
    Json.Recovers (.ofOption TagLiteral.toJson)
      (fun n => Document.optional (TagLiteral.ofDocument? r n)) t? :=
  Json.recovers_ofOption (fun _ => rfl) fun t _ => recovers_tagLiteral r t

theorem structsToJson_eq (structs : List Struct) :
    structsToJson structs = structs.map Struct.toJson := by
  induction structs with
  | nil => rfl
  | cons s rest ih => rw [structsToJson, ih, List.map_cons]

theorem fieldsToJson_eq (fields : List Field) : fieldsToJson fields = fields.map Field.toJson := by
  induction fields with
  | nil => rfl
  | cons f rest ih => rw [fieldsToJson, ih, List.map_cons]

/-- The entry with the structs nested in a field, which is left out if there are none. -/
def Field.nestedEntry (f : Field) : List (String × Json) :=
  if f.nested.isEmpty then [] else [("nested", .ofList Struct.toJson f.nested)]

theorem Field.toJson_eq (f : Field) :
    f.toJson = .obj
      ([("name", .ofOption .str f.name),
        ("type", .ofOption FieldType.toJson f.type),
        ("typeSpan", f.typeSpan.toJson),
        ("tag", .ofOption TagLiteral.toJson f.tag)] ++ f.nestedEntry) := by
  obtain ⟨name, type, typeSpan, tag, nested⟩ := f
  cases nested with
  | nil => rfl
  | cons s rest =>
    rw [Field.toJson, structsToJson_eq]
    rfl

theorem Struct.toJson_eq (s : Struct) :
    s.toJson = .obj
      [("name", .ofOption .str s.name),
       ("span", s.span.toJson),
       ("fields", .ofList Field.toJson s.fields)] := by
  obtain ⟨name, span, fields⟩ := s
  rw [Struct.toJson, fieldsToJson_eq]
  rfl

theorem Field.eta (f : Field) : (⟨f.name, f.type, f.typeSpan, f.tag, f.nested⟩ : Field) = f := by
  cases f
  rfl

theorem Struct.eta (s : Struct) : (⟨s.name, s.span, s.fields⟩ : Struct) = s := by
  cases s
  rfl

theorem Struct.listOfDocument?_eq (r : Reading) (n : Nat) (d : Document) :
    Struct.listOfDocument? r n d = d.listOf? n (Struct.ofDocument? r) := by
  cases n <;> rfl

theorem Field.listOfDocument?_eq (r : Reading) (n : Nat) (d : Document) :
    Field.listOfDocument? r n d = d.listOf? n (Field.ofDocument? r) := by
  cases n <;> rfl

theorem recovers_optionalStr (s? : Option String) :
    Json.Recovers (.ofOption .str) (fun _ => Document.optional Document.text?) s? :=
  Json.recovers_ofOption (fun _ => rfl) fun s _ => Json.recovers_str s

/-- A field is recovered if the structs nested in it are. -/
theorem recovers_field (r : Reading) (f : Field)
    (hnested : ∀ s ∈ f.nested, Json.Recovers Struct.toJson (Struct.ofDocument? r) s) :
    Json.Recovers Field.toJson (Field.ofDocument? r) f := by
  intro hfits n hn
  rw [Field.toJson_eq] at hfits hn ⊢
  obtain ⟨m, rfl, hdepth⟩ := Json.exists_depth_obj hn
  have hname := (recovers_optionalStr f.name).field hfits hdepth "name" (by simp)
  have htype := (recovers_optionalType f.type).field hfits hdepth "type" (by simp)
  have htypeSpan := (recovers_span r f.typeSpan).field hfits hdepth "typeSpan" (by simp)
  have htag := (recovers_optionalTag r f.tag).field hfits hdepth "tag" (by simp)
  rw [Field.ofDocument?]
  -- Without nested structs there is no entry for them, and a missing one stands for none.
  by_cases hempty : f.nested.isEmpty
  · have hentry : f.nestedEntry = [] := if_pos hempty
    have hnil : f.nested = [] := List.isEmpty_iff.1 hempty
    rw [hentry, List.append_nil, Json.fields?_obj r ["nested"]]
    · simp [Document.optionalField, Document.fieldOr, hname, htype, htypeSpan, htag, ← hnil,
        Field.eta]
    · rfl
    · decide
  · have hentry : f.nestedEntry = [("nested", .ofList Struct.toJson f.nested)] := if_neg hempty
    rw [hentry] at hfits hdepth ⊢
    have hlist := (Json.recovers_ofList hnested).field hfits hdepth "nested" (by simp)
    rw [Json.fields?_obj r []]
    · simp [Document.optionalField, Document.fieldOr, hname, htype, htypeSpan, htag,
        Struct.listOfDocument?_eq, hlist, Field.eta]
    · rfl
    · decide

/-- A struct is recovered if its fields are. -/
theorem recovers_struct (r : Reading) (s : Struct)
    (hfields : ∀ f ∈ s.fields, Json.Recovers Field.toJson (Field.ofDocument? r) f) :
    Json.Recovers Struct.toJson (Struct.ofDocument? r) s := by
  intro hfits n hn
  rw [Struct.toJson_eq] at hfits hn ⊢
  obtain ⟨m, rfl, hdepth⟩ := Json.exists_depth_obj hn
  have hname := (recovers_optionalStr s.name).field hfits hdepth "name" (by simp)
  have hspan := (recovers_span r s.span).field hfits hdepth "span" (by simp)
  have hlist := (Json.recovers_ofList hfields).field hfits hdepth "fields" (by simp)
  rw [Struct.ofDocument?, Json.fields?_obj r []]
  · simp [Document.optionalField, Document.fieldOr, hname, hspan, Field.listOfDocument?_eq, hlist,
      Struct.eta]
  · rfl
  · decide

theorem recovers_structs (r : Reading) (structs : List Struct) :
    ∀ s ∈ structs, Json.Recovers Struct.toJson (Struct.ofDocument? r) s := by
  induction structs using forest_induction with
  | nil => simp
  | cons s rest ihnested ihrest =>
    have hfields : ∀ f ∈ s.fields, Json.Recovers Field.toJson (Field.ofDocument? r) f := by
      intro f hf
      refine recovers_field r f fun t ht => ihnested t ?_
      exact List.mem_flatMap.2 ⟨f, hf, ht⟩
    exact List.forall_mem_cons.2 ⟨recovers_struct r s hfields, ihrest⟩

/-! ## Packages -/

theorem SourceFile.toJson_eq (file : SourceFile) :
    file.toJson = .obj
      [("path", .str file.path),
       ("source", .ofOption .str file.source),
       ("structs", .ofList Struct.toJson file.structs)] := by
  rw [SourceFile.toJson, structsToJson_eq]
  rfl

theorem recovers_sourceFile (r : Reading) (file : SourceFile) :
    Json.Recovers SourceFile.toJson (SourceFile.ofDocument? r) file := by
  intro hfits n hn
  rw [SourceFile.toJson_eq] at hfits hn ⊢
  obtain ⟨m, rfl, hdepth⟩ := Json.exists_depth_obj hn
  have hsource := (recovers_optionalStr file.source).field hfits hdepth "source" (by simp)
  have hlist := (Json.recovers_ofList (recovers_structs r file.structs)).field hfits hdepth
    "structs" (by simp)
  rw [SourceFile.ofDocument?, Json.fields?_obj r []]
  · simp [Document.optionalField, Document.fieldOr, Json.text?_str, hsource,
      Struct.listOfDocument?_eq, hlist]
  · rfl
  · decide

theorem recovers_package (r : Reading) (p : Package) :
    Json.Recovers Package.toJson (Package.ofDocument? r) p := by
  intro hfits n hn
  obtain ⟨m, rfl, hdepth⟩ := Json.exists_depth_obj hn
  have hname := (recovers_optionalStr p.name).field hfits hdepth "name" (by simp)
  have hlist := (Json.recovers_ofList fun file (_ : file ∈ p.files) =>
    recovers_sourceFile r file).field hfits hdepth "files" (by simp)
  rw [Package.ofDocument?, Package.toJson, Json.fields?_obj r []]
  · simp [Document.optionalField, Document.fieldOr, hname, hlist]
  · rfl
  · decide

theorem fits_optionalStr (s? : Option String) : (Json.ofOption .str s?).Fits :=
  Json.fits_ofOption fun s _ => Json.fits_str s

theorem Field.fits_toJson {f : Field} (h : f.Fits) (hnested : ∀ s ∈ f.nested, s.toJson.Fits) :
    f.toJson.Fits := by
  have htype : (Json.ofOption FieldType.toJson f.type).Fits :=
    Json.fits_ofOption fun t ht => FieldType.fits_toJson (h.type t ht)
  have htag : (Json.ofOption TagLiteral.toJson f.tag).Fits := by
    refine Json.fits_ofOption fun t ht => ?_
    simp [TagLiteral.toJson, Json.fits_obj, Json.fits_str, Span.fits_toJson, h.tag t ht]
  have hentry : ∀ e ∈ f.nestedEntry, e.2.Fits := by
    rw [Field.nestedEntry]
    split_ifs
    · simp
    · exact List.forall_mem_singleton.2 (Json.fits_ofList hnested)
  rw [Field.toJson_eq, Json.fits_obj, List.forall_mem_append]
  refine ⟨?_, hentry⟩
  simp [fits_optionalStr, htype, htag, Span.fits_toJson, h.typeSpan]

theorem Struct.fits_toJson {s : Struct} (h : s.Fits) (hfields : ∀ f ∈ s.fields, f.toJson.Fits) :
    s.toJson.Fits := by
  have hlist := Json.fits_ofList hfields
  simp [Struct.toJson_eq, Json.fits_obj, fits_optionalStr, Span.fits_toJson, h.span, hlist]

theorem forall_walk_cons {i : Nat} {s : Struct} {rest : List Struct} :
    (∀ x ∈ walk i (s :: rest), x.2.Fits) ↔
      s.Fits ∧ (∀ x ∈ walk 0 s.children, x.2.Fits) ∧ ∀ x ∈ walk (i + 1) rest, x.2.Fits := by
  rw [walk_cons, List.forall_mem_append, List.forall_mem_cons, List.forall_mem_map, and_assoc]

/-- What is written of structs has numbers of at most 64 bits if the structs have. -/
theorem fits_structs {i : Nat} {structs : List Struct} (h : ∀ x ∈ walk i structs, x.2.Fits) :
    ∀ s ∈ structs, s.toJson.Fits := by
  induction structs using forest_induction generalizing i with
  | nil => simp
  | cons s rest ihnested ihrest =>
    obtain ⟨hs, hnested, hrest⟩ := forall_walk_cons.1 h
    have hchildren : ∀ t ∈ s.children, t.toJson.Fits := ihnested hnested
    have hfields : ∀ f ∈ s.fields, f.toJson.Fits := by
      intro f hf
      refine Field.fits_toJson (hs.fields f hf) fun t ht => hchildren t ?_
      exact List.mem_flatMap.2 ⟨f, hf, ht⟩
    exact List.forall_mem_cons.2 ⟨Struct.fits_toJson hs hfields, ihrest hrest⟩

theorem Package.fits_toJson {p : Package} (h : p.Fits) : p.toJson.Fits := by
  have hfiles : (Json.ofList SourceFile.toJson p.files).Fits := by
    refine Json.fits_ofList fun file hfile => ?_
    have hstructs := Json.fits_ofList (fits_structs (h file hfile))
    simp [SourceFile.toJson_eq, Json.fits_obj, Json.fits_str, fits_optionalStr, hstructs]
  simp [Package.toJson, Json.fits_obj, fits_optionalStr, hfiles]

/-- An export gives back the package it was made of, from its document and, as far as a JSON text
may be nested, from the text of a JSON file. -/
theorem Package.export_lossless {p : Package} (h : p.Fits) :
    (∀ (r : Reading) (n : Nat), p.toJson.toDocument.depth ≤ n →
      ofDocument? r n p.toJson.toDocument = some p) ∧
    (p.toJson.toDocument.depth ≤ Json.maxDepth →
      ∀ path, Path.extension? path = some "json" → parse path p.toJson.pretty = .ok p) := by
  have hfits := Package.fits_toJson h
  have hdocument := fun r n hn => recovers_package r p hfits n hn
  refine ⟨hdocument, fun hdepth path hpath => ?_⟩
  simp [parse, hpath, Json.read?_pretty hfits, hdocument .json _ hdepth]

/-- An embedded field, a struct nested two levels deep, types of most forms, and options that are
left out. -/
def variedPackage : Package where
  name := none
  files :=
    [{ path := "a/\"b\".go"
       source := some "type T struct \x7b\n\x7d"
       structs :=
        [{ name := some "T"
           span := ⟨5, 18446744073709551615⟩
           fields :=
            [{ name := none
               type := some (.named "unsafe.Pointer" (.basic .unsafePointer))
               typeSpan := {}
               tag := some ⟨"\x60json:\"-\"\x60", ⟨7, 9⟩⟩
               nested := [] },
             { name := some "m"
               type := some (.map (.basic .string) (.array 3 (.pointer .struct)))
               typeSpan := ⟨20, 40⟩
               tag := none
               nested :=
                [{ name := none
                   span := {}
                   fields :=
                    [{ name := some "x"
                       type := none
                       typeSpan := {}
                       tag := none
                       nested := [⟨none, {}, []⟩] }] }] }] }] },
     { path := "", source := none, structs := [] }]

theorem Package.export_lossless_varied :
    variedPackage.Fits ∧ variedPackage.toJson.toDocument.depth ≤ Json.maxDepth ∧
      ofDocument? .json Json.maxDepth variedPackage.toJson.toDocument = some variedPackage ∧
      ofDocument? .yaml Json.maxDepth variedPackage.toJson.toDocument = some variedPackage ∧
      parse "export.json" variedPackage.toJson.pretty = .ok variedPackage := by
  have hfits : variedPackage.Fits := by
    simp only [variedPackage, Package.Fits, List.forall_mem_cons, forall_walk_cons, Struct.children,
      List.flatMap_cons, List.flatMap_nil, List.nil_append, List.append_nil]
    simp [walk_nil, Struct.fits_iff, Field.fits_iff, Span.fits_iff, FieldType.Fits, Digits.word64]
  have hdepth : variedPackage.toJson.toDocument.depth ≤ Json.maxDepth := by decide
  obtain ⟨hdocument, htext⟩ := export_lossless hfits
  exact ⟨hfits, hdepth, hdocument .json _ hdepth, hdocument .yaml _ hdepth,
    htext hdepth "export.json" (by cbv)⟩

end StructTags
