import Mathlib
import StructTags.Proofs.JsonText

/-!
# Decoding what was encoded

The parts that encoded records are made of, and how each of them is decoded:

* `fields?_obj`: the fields of a record are found under their names, and one that was left out is
  missing;
* `recovers_ofOption`: a value that may be null;
* `recovers_ofList`: the items of a list.

`Recovers` is what is proved of every type that is written as JSON: it is found again wherever its
nesting is allowed.
-/

namespace StructTags

namespace Json

/-! ## Documents of lists and records -/

theorem documentsOf_eq (js : List Json) : documentsOf js = js.map toDocument := by
  induction js with
  | nil => rfl
  | cons j rest ih => rw [documentsOf, ih, List.map_cons]

theorem entriesOf_eq (fields : List (String × Json)) :
    entriesOf fields = fields.map fun f => (.ofText f.1, f.2.toDocument) := by
  induction fields with
  | nil => rfl
  | cons f rest ih => rw [entriesOf, ih, List.map_cons]

theorem depthOfList_le {js : List Json} {n : Nat} :
    Document.depthOfList (documentsOf js) ≤ n ↔ ∀ j ∈ js, j.toDocument.depth ≤ n := by
  induction js with
  | nil => simp [documentsOf, Document.depthOfList]
  | cons j rest ih => simp [documentsOf, Document.depthOfList, ih]

theorem depthOfEntries_le {fields : List (String × Json)} {n : Nat} :
    Document.depthOfEntries (entriesOf fields) ≤ n ↔ ∀ f ∈ fields, f.2.toDocument.depth ≤ n := by
  induction fields with
  | nil => simp [entriesOf, Document.depthOfEntries]
  | cons f rest ih => simp [entriesOf, Document.depthOfEntries, ih]

theorem depth_str (s : String) : (Json.str s).toDocument.depth = 0 := rfl

theorem depth_nat (n : Nat) : (Json.nat n).toDocument.depth = 0 := rfl

theorem depth_arr_le {js : List Json} {n : Nat} :
    (Json.arr js).toDocument.depth ≤ n + 1 ↔ ∀ j ∈ js, j.toDocument.depth ≤ n := by
  rw [toDocument, Document.depth, Nat.add_le_add_iff_right, depthOfList_le]

theorem depth_obj_le {fields : List (String × Json)} {n : Nat} :
    (Json.obj fields).toDocument.depth ≤ n + 1 ↔ ∀ f ∈ fields, f.2.toDocument.depth ≤ n := by
  rw [toDocument, Document.depth, Nat.add_le_add_iff_right, depthOfEntries_le]

/-- A depth that allows a record allows its fields one level below. -/
theorem exists_depth_obj {fields : List (String × Json)} {n : Nat}
    (h : (Json.obj fields).toDocument.depth ≤ n) :
    ∃ m, n = m + 1 ∧ ∀ f ∈ fields, f.2.toDocument.depth ≤ m := by
  cases n with
  | zero => simp [toDocument, Document.depth] at h
  | succ m => exact ⟨m, rfl, depth_obj_le.1 h⟩

theorem exists_depth_arr {js : List Json} {n : Nat}
    (h : (Json.arr js).toDocument.depth ≤ n) :
    ∃ m, n = m + 1 ∧ ∀ j ∈ js, j.toDocument.depth ≤ m := by
  cases n with
  | zero => simp [toDocument, Document.depth] at h
  | succ m => exact ⟨m, rfl, depth_arr_le.1 h⟩

/-! ## Fields -/

theorem namedEntries?_obj (fields : List (String × Json)) :
    (Json.obj fields).toDocument.namedEntries? =
      some (fields.map fun f => (f.1, f.2.toDocument)) := by
  rw [Document.namedEntries?, toDocument, Document.entries?, entriesOf_eq]
  simp only [Option.bind_eq_bind, Option.bind_some, List.mapM_map]
  exact mapM_eq_some_map fun f _ => rfl

/-- Only one entry has the name of an entry. -/
theorem filter_name_eq {α : Type} {entries : List (String × α)} {e : String × α}
    (hnodup : (entries.map (·.1)).Nodup) (h : e ∈ entries) :
    entries.filter (·.1 = e.1) = [e] := by
  induction entries with
  | nil => simp at h
  | cons first rest ih =>
    obtain ⟨hfresh, hrest⟩ := List.nodup_cons.1 hnodup
    rcases List.mem_cons.1 h with rfl | h
    · rw [List.filter_cons_of_pos (by simp), List.filter_eq_nil_iff.2]
      intro other hother hname
      exact hfresh (List.mem_map.2 ⟨other, hother, of_decide_eq_true hname⟩)
    · rw [List.filter_cons_of_neg, ih hrest h]
      intro hname
      exact hfresh (List.mem_map.2 ⟨e, h, (of_decide_eq_true hname).symm⟩)

theorem lookup?_of_mem {entries : List (String × Document)} {name : String} {d : Document}
    (hnodup : (entries.map (·.1)).Nodup) (h : (name, d) ∈ entries) :
    Document.lookup? name entries = some (some d) := by
  have hfilter : entries.filter (·.1 = name) = [(name, d)] := filter_name_eq hnodup h
  rw [Document.lookup?, hfilter]

theorem lookup?_of_notMem {entries : List (String × Document)} {name : String}
    (h : name ∉ entries.map (·.1)) : Document.lookup? name entries = some none := by
  have hfilter : entries.filter (·.1 = name) = [] := by
    rw [List.filter_eq_nil_iff]
    intro e he hname
    exact h (List.mem_map.2 ⟨e, he, of_decide_eq_true hname⟩)
  rw [Document.lookup?, hfilter]

/-- The fields of a record are found under their names. The names in `missing` belong to fields
that were left out. -/
theorem fields?_obj (r : Reading) {fields : List (String × Json)} {names : List String}
    (missing : List String) (hnames : names = fields.map (·.1) ++ missing)
    (hnodup : names.Nodup) :
    (Json.obj fields).toDocument.fields? r names =
      some (fields.map (fun f => some f.2.toDocument) ++ missing.map fun _ => none) := by
  subst hnames
  obtain ⟨hfields, -, hapart⟩ := List.nodup_append'.1 hnodup
  have hkeys : (fields.map fun f => (f.1, f.2.toDocument)).map (·.1) = fields.map (·.1) := by
    rw [List.map_map]
    rfl
  have hfound : (fields.map (·.1)).mapM
      (Document.lookup? · (fields.map fun f => (f.1, f.2.toDocument))) =
        some (fields.map fun f => some f.2.toDocument) := by
    rw [List.mapM_map]
    refine mapM_eq_some_map fun f hf => lookup?_of_mem (hkeys ▸ hfields) ?_
    exact List.mem_map.2 ⟨f, hf, rfl⟩
  have hmissing : missing.mapM
      (Document.lookup? · (fields.map fun f => (f.1, f.2.toDocument))) =
        some (missing.map fun _ => none) := by
    refine mapM_eq_some_map fun name hname => lookup?_of_notMem ?_
    rw [hkeys]
    exact fun h => hapart h hname
  have hrecord : (Json.obj fields).toDocument.fields? r (fields.map (·.1) ++ missing) =
      (Json.obj fields).toDocument.namedEntries?.bind fun entries =>
        (fields.map (·.1) ++ missing).mapM (Document.lookup? · entries) := rfl
  rw [hrecord, namedEntries?_obj, Option.bind_some, List.mapM_append, hfound, hmissing]
  rfl

theorem text?_str (s : String) : (Json.str s).toDocument.text? = some s := rfl

theorem natural?_nat {n : Nat} (h : n < Digits.word64) :
    (Json.nat n).toDocument.natural? = some n := by
  rw [toDocument_nat h]
  rfl

/-! ## Types that are written as JSON -/

/-- `decode` finds `a` in what `encode` writes of it, to whatever depth documents may be nested. -/
def Recovers {α : Type} (encode : α → Json) (decode : Nat → Document → Option α) (a : α) : Prop :=
  (encode a).Fits → ∀ n, (encode a).toDocument.depth ≤ n → decode n (encode a).toDocument = some a

/-- A field of a record is found again one level below the record. -/
theorem Recovers.field {α : Type} {encode : α → Json} {decode : Nat → Document → Option α} {a : α}
    (h : Recovers encode decode a) {fields : List (String × Json)} {m : Nat}
    (hfits : (Json.obj fields).Fits) (hdepth : ∀ f ∈ fields, f.2.toDocument.depth ≤ m)
    (name : String) (hmem : (name, encode a) ∈ fields) :
    decode m (encode a).toDocument = some a :=
  h (fits_obj.1 hfits _ hmem) m (hdepth _ hmem)

theorem recovers_str (s : String) : Recovers .str (fun _ => Document.text?) s :=
  fun _ _ _ => rfl

/-- A value that may be null is found again if it is not written as null itself. -/
theorem recovers_ofOption {α : Type} {encode : α → Json} {decode : Nat → Document → Option α}
    {a? : Option α} (hnull : ∀ a, (encode a).toDocument.isNull = false)
    (h : ∀ a ∈ a?, Recovers encode decode a) :
    Recovers (ofOption encode) (fun n => Document.optional (decode n)) a? := by
  intro hfits n hn
  cases a? with
  | none => rfl
  | some a =>
    have ha : decode n (encode a).toDocument = some a := h a rfl hfits n hn
    simp only [ofOption, Document.optional, hnull, ha]
    rfl

theorem recovers_ofList {α : Type} {encode : α → Json} {decode : Nat → Document → Option α}
    {as : List α} (h : ∀ a ∈ as, Recovers encode decode a) :
    Recovers (ofList encode) (fun n d => d.listOf? n decode) as := by
  intro hfits n hn
  obtain ⟨m, rfl, hdepth⟩ := exists_depth_arr hn
  simp only [Document.listOf?, ofList, toDocument, documentsOf_eq, Document.items?,
    Option.bind_eq_bind, Option.bind_some, List.mapM_map]
  have hitems : as.mapM (fun a => decode m (toDocument (encode a))) = some (as.map id) := by
    refine mapM_eq_some_map fun a ha => ?_
    have hmem : encode a ∈ as.map encode := List.mem_map.2 ⟨a, ha, rfl⟩
    exact h a ha (fits_arr.1 hfits _ hmem) m (hdepth _ hmem)
  rwa [List.map_id] at hitems

end Json

end StructTags
