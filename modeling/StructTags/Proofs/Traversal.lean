import StructTags.Proofs.CheckerReports

/-!
# The order of a run

A run enters structs, one after the other. Where a struct stands is said by a `Place`: the number
of its file and a path of numbers, the first of which selects one of the file's structs and each
further one a struct nested in the one before (`Package.structAt?`).

`walk` lists structs with their paths. Its properties are proved by `forest_induction`, once each:

* `enteredAll_eq_map`: the structs of the walk are those that are entered, in the same order;
* `mem_walk_iff`: every path that leads to a struct is there;
* `pairwise_walk`: the paths are in lexicographic order, so that none comes twice.

How many structs are entered is what `Package.structCount` counts (`Package.length_entered`).

`Checker.run_visits_all` states what this means for a run.
-/

namespace StructTags

/-! ## Forests of structs -/

/-- The structs nested directly in a struct, in the order of the fields they are nested in. -/
def Struct.children (s : Struct) : List Struct :=
  s.fields.flatMap (·.nested)

theorem enteredAll_append (xs ys : List Struct) :
    enteredAll (xs ++ ys) = enteredAll xs ++ enteredAll ys := by
  induction xs with
  | nil => simp [enteredAll]
  | cons s rest ih => simp [enteredAll, ih]

theorem Struct.entered_eq (s : Struct) : s.entered = s :: enteredAll s.children := by
  have hnested (fields : List Field) :
      enteredNested fields = enteredAll (fields.flatMap (·.nested)) := by
    induction fields with
    | nil => simp [enteredNested, enteredAll]
    | cons field rest ih =>
      cases field
      simp [enteredNested, enteredAll_append, ih]
  cases s
  rw [Struct.entered, hnested, Struct.children]

theorem enteredAll_cons (s : Struct) (rest : List Struct) :
    enteredAll (s :: rest) = s :: enteredAll s.children ++ enteredAll rest := by
  rw [enteredAll, Struct.entered_eq]

theorem visitStructs_nil : visitStructs [] = [] := by
  rw [visitStructs, enteredAll, List.flatMap_nil]

theorem visitStructs_cons (s : Struct) (rest : List Struct) :
    visitStructs (s :: rest) = s.fields ++ visitStructs s.children ++ visitStructs rest := by
  rw [visitStructs, enteredAll_cons, List.flatMap_append, List.flatMap_cons, visitStructs,
    visitStructs]

theorem countStructs_append (xs ys : List Struct) :
    countStructs (xs ++ ys) = countStructs xs + countStructs ys := by
  induction xs with
  | nil => simp [countStructs]
  | cons s rest ih => simp [countStructs, ih, Nat.add_assoc]

theorem Struct.count_eq (s : Struct) : s.count = 1 + countStructs s.children := by
  have hnested (fields : List Field) :
      countNested fields = countStructs (fields.flatMap (·.nested)) := by
    induction fields with
    | nil => simp [countNested, countStructs]
    | cons field rest ih =>
      cases field
      simp [countNested, countStructs_append, ih]
  cases s
  rw [Struct.count, hnested, Struct.children]

theorem length_enteredAll_cons (s : Struct) (rest : List Struct) :
    (enteredAll (s :: rest)).length =
      (enteredAll s.children).length + (enteredAll rest).length + 1 := by
  rw [enteredAll_cons, List.length_append, List.length_cons]
  omega

/-- Induction over structs and the structs nested in them. -/
@[elab_as_elim]
theorem forest_induction {P : List Struct → Prop} (nil : P [])
    (cons : ∀ s rest, P s.children → P rest → P (s :: rest)) (structs : List Struct) :
    P structs := by
  -- both the nested structs and the remaining ones are fewer
  induction hn : (enteredAll structs).length using Nat.strong_induction_on
    generalizing structs with
  | _ n ih =>
    cases structs with
    | nil => exact nil
    | cons s rest =>
      rw [length_enteredAll_cons] at hn
      exact cons s rest (ih _ (by omega) s.children rfl) (ih _ (by omega) rest rfl)

theorem length_enteredAll (structs : List Struct) :
    (enteredAll structs).length = countStructs structs := by
  induction structs using forest_induction with
  | nil => rw [enteredAll, countStructs, List.length_nil]
  | cons s rest ihs ih =>
    rw [length_enteredAll_cons, countStructs, Struct.count_eq, ihs, ih]
    omega

/-! ## Paths -/

/-- The struct that a path leads to from a struct: each number selects a nested struct. -/
def Struct.descend? : Struct → List Nat → Option Struct
  | s, [] => some s
  | s, i :: path => s.children[i]?.bind (·.descend? path)

/-- The struct that a path leads to, where the first number selects one of the structs. -/
def findStruct? (structs : List Struct) : List Nat → Option Struct
  | [] => none
  | i :: path => structs[i]?.bind (·.descend? path)

/-- The structs with their paths in the order they are entered, the first one under number `i`. -/
def walk (i : Nat) (structs : List Struct) : List (List Nat × Struct) :=
  match structs with
  | [] => []
  | s :: rest =>
    ([i], s) :: (walk 0 s.children).map (fun x => (i :: x.1, x.2)) ++ walk (i + 1) rest
termination_by (enteredAll structs).length
decreasing_by
  · rw [length_enteredAll_cons]
    omega
  · rw [length_enteredAll_cons]
    omega

theorem walk_nil (i : Nat) : walk i [] = [] := by
  rw [walk]

theorem walk_cons (i : Nat) (s : Struct) (rest : List Struct) :
    walk i (s :: rest) =
      ([i], s) :: (walk 0 s.children).map (fun x => (i :: x.1, x.2)) ++ walk (i + 1) rest := by
  rw [walk]

theorem enteredAll_eq_map (i : Nat) (structs : List Struct) :
    enteredAll structs = (walk i structs).map (·.2) := by
  induction structs using forest_induction generalizing i with
  | nil => rw [walk_nil, enteredAll, List.map_nil]
  | cons s rest ihs ih =>
    rw [walk_cons, enteredAll_cons, ihs 0, ih (i + 1), List.map_append, List.map_cons,
      List.map_map]
    rfl

theorem descend?_eq_some_iff {s t : Struct} {path : List Nat} :
    s.descend? path = some t ↔ path = [] ∧ s = t ∨ findStruct? s.children path = some t := by
  cases path with
  | nil => simp [Struct.descend?, findStruct?]
  | cons i path => simp [Struct.descend?, findStruct?]

/-- A struct stands in the walk under each path that leads to it, and under no other. -/
theorem mem_walk_iff {i : Nat} {structs : List Struct} {path : List Nat} {t : Struct} :
    (path, t) ∈ walk i structs ↔
      ∃ j rest, path = (i + j) :: rest ∧ findStruct? structs (j :: rest) = some t := by
  induction structs using forest_induction generalizing i path with
  | nil => simp [walk_nil, findStruct?]
  | cons s more ihs ih =>
    have hnested : (∃ x ∈ walk 0 s.children, (i :: x.1, x.2) = (path, t)) ↔
        ∃ rest, path = i :: rest ∧ findStruct? s.children rest = some t := by
      constructor
      · rintro ⟨⟨rest, t'⟩, hmem, heq⟩
        obtain ⟨rfl, rfl⟩ := Prod.mk.inj heq
        obtain ⟨j, rest', rfl, hfind⟩ := ihs.1 hmem
        exact ⟨_, rfl, by rwa [Nat.zero_add]⟩
      · rintro ⟨rest, rfl, hfind⟩
        cases rest with
        | nil => simp [findStruct?] at hfind
        | cons j rest => exact ⟨(j :: rest, t), ihs.2 ⟨j, rest, by simp, hfind⟩, rfl⟩
    rw [walk_cons, List.mem_append, List.mem_cons, List.mem_map, hnested, ih, Prod.mk.injEq]
    constructor
    · rintro ((⟨rfl, rfl⟩ | ⟨rest, rfl, hfind⟩) | ⟨j, rest, rfl, hfind⟩)
      · exact ⟨0, [], rfl, descend?_eq_some_iff.2 (.inl ⟨rfl, rfl⟩)⟩
      · exact ⟨0, rest, rfl, descend?_eq_some_iff.2 (.inr hfind)⟩
      · exact ⟨j + 1, rest, by rw [Nat.add_assoc, Nat.add_comm 1], hfind⟩
    · rintro ⟨j, rest, rfl, hfind⟩
      cases j with
      | zero =>
        rcases descend?_eq_some_iff.1 hfind with ⟨rfl, rfl⟩ | hfind
        · exact .inl (.inl ⟨rfl, rfl⟩)
        · exact .inl (.inr ⟨rest, rfl, hfind⟩)
      | succ j => exact .inr ⟨j, rest, by rw [Nat.add_assoc, Nat.add_comm 1], hfind⟩

/-- The walk goes through the paths in lexicographic order, a path before its continuations. -/
theorem pairwise_walk (i : Nat) (structs : List Struct) :
    (walk i structs).Pairwise fun x y => x.1 < y.1 := by
  induction structs using forest_induction generalizing i with
  | nil => simp [walk_nil]
  | cons s more ihs ih =>
    rw [walk_cons, List.pairwise_append, List.pairwise_cons, List.pairwise_map]
    refine ⟨⟨?_, ?_⟩, ih (i + 1), ?_⟩
    · -- a struct comes before those nested in it
      intro x hx
      obtain ⟨⟨path, t⟩, hmem, rfl⟩ := List.mem_map.1 hx
      obtain ⟨j, rest, rfl, -⟩ := mem_walk_iff.1 hmem
      simp
    · exact (ihs 0).imp fun h => List.cons_lt_cons_iff.2 (.inr ⟨rfl, h⟩)
    · -- what comes behind has a higher number in front
      intro x hx y hy
      obtain ⟨rest, hrest⟩ : ∃ rest, x.1 = i :: rest := by
        rcases List.mem_cons.1 hx with rfl | hx
        · exact ⟨[], rfl⟩
        · obtain ⟨z, -, rfl⟩ := List.mem_map.1 hx
          exact ⟨z.1, rfl⟩
      obtain ⟨j, rest', hpath, -⟩ := mem_walk_iff.1 (show (y.1, y.2) ∈ walk (i + 1) more from hy)
      rw [hrest, hpath]
      exact List.cons_lt_cons_iff.2 (.inl (by omega))

/-! ## Packages -/

/-- Where a struct stands: the number of its file, and the path that leads to it there. -/
structure Place where
  file : Nat
  path : List Nat
deriving DecidableEq, Repr

/-- The order of files, and within a file the lexicographic order of paths: a struct comes before
those nested in it, and these come before the next struct. -/
def Place.Before (a b : Place) : Prop :=
  a.file < b.file ∨ a.file = b.file ∧ a.path < b.path

namespace Package

/-- The struct at a place, with its file. -/
def structAt? (p : Package) (place : Place) : Option (SourceFile × Struct) :=
  p.files[place.file]?.bind fun file => (findStruct? file.structs place.path).map (file, ·)

/-- The structs of a package with their places and files, in the order they are entered. -/
def stops (p : Package) : List (Place × SourceFile × Struct) :=
  p.files.zipIdx.flatMap fun (file, k) =>
    (walk 0 file.structs).map fun (path, s) => (⟨k, path⟩, file, s)

theorem mem_stops_iff {p : Package} {place : Place} {file : SourceFile} {s : Struct} :
    (place, file, s) ∈ p.stops ↔ p.structAt? place = some (file, s) := by
  obtain ⟨k, path⟩ := place
  have hwalk : (path, s) ∈ walk 0 file.structs ↔ findStruct? file.structs path = some s := by
    cases path with
    | nil => simp [mem_walk_iff, findStruct?]
    | cons i path => simp [mem_walk_iff]
  simp only [stops, structAt?, List.mem_flatMap, List.mem_map, Option.bind_eq_some_iff,
    Option.map_eq_some_iff, Prod.mk.injEq, Place.mk.injEq]
  constructor
  · rintro ⟨⟨file', k'⟩, hfile, ⟨path', s'⟩, hmem, ⟨rfl, rfl⟩, rfl, rfl⟩
    exact ⟨file', List.mem_zipIdx_iff_getElem?.1 hfile, s', hwalk.1 hmem, rfl, rfl⟩
  · rintro ⟨file', hfile, s', hfind, rfl, rfl⟩
    exact ⟨(file', k), List.mem_zipIdx_iff_getElem?.2 hfile, (path, s'), hwalk.2 hfind,
      ⟨rfl, rfl⟩, rfl, rfl⟩

theorem pairwise_stops (p : Package) : (p.stops.map (·.1)).Pairwise Place.Before := by
  rw [List.pairwise_map, stops, List.pairwise_flatMap]
  constructor
  · rintro ⟨file, k⟩ -
    rw [List.pairwise_map]
    exact (pairwise_walk 0 file.structs).imp fun h => .inr ⟨rfl, h⟩
  · -- files come in the order of their numbers
    have hnumbers : p.files.zipIdx.Pairwise fun a b => a.2 < b.2 := by
      rw [← List.pairwise_map (f := Prod.snd) (R := (· < ·)), List.zipIdx_map_snd]
      exact List.pairwise_lt_range' 1
    refine hnumbers.imp ?_
    intro a b hab x hx y hy
    obtain ⟨-, -, rfl⟩ := List.mem_map.1 hx
    obtain ⟨-, -, rfl⟩ := List.mem_map.1 hy
    exact .inl hab

theorem entered_eq_stops (p : Package) : p.entered = p.stops.map (·.2) := by
  have hfile (x : SourceFile × Nat) : (enteredAll x.1.structs).map (x.1, ·) =
      ((walk 0 x.1.structs).map fun y => ((⟨x.2, y.1⟩ : Place), x.1, y.2)).map (·.2) := by
    rw [enteredAll_eq_map 0, List.map_map, List.map_map]
    rfl
  rw [entered, stops, List.map_flatMap]
  simp only [← hfile]
  rw [← List.zipIdx_map_fst 0 p.files, List.flatMap_map, List.zipIdx_map_fst]

theorem length_entered (p : Package) : p.entered.length = p.structCount := by
  rw [entered, List.length_flatMap, structCount, ← List.sum_eq_foldr]
  simp only [List.length_map, length_enteredAll]

theorem visit_eq_stops (p : Package) :
    p.visit = p.stops.flatMap fun x => x.2.2.fields.map (x.2.1, ·) := by
  rw [visit, entered_eq_stops, List.flatMap_map]

end Package

/-! ## Runs -/

/-- What a reader of `key` meets at a field. -/
inductive Meets (key : String) (file : SourceFile) (field : Field) : Option Encounter → Prop where
  | untagged (htag : field.tag = none) : Meets key file field none
  | undecodable {tag : TagLiteral} {fault : Literal.Fault} (htag : field.tag = some tag)
      (htext : unquote tag.literal = .error fault) :
      Meets key file field (some (.invalid ⟨file, field, tag⟩))
  | absent {tag : TagLiteral} {text : String} (htag : field.tag = some tag)
      (htext : unquote tag.literal = .ok text) (hvalue : Tag.lookup text key = none) :
      Meets key file field none
  | present {tag : TagLiteral} {text value : String} (htag : field.tag = some tag)
      (htext : unquote tag.literal = .ok text) (hvalue : Tag.lookup text key = some value) :
      Meets key file field (some (.carries ⟨file, field, tag⟩ value))

theorem meets_encounter? (key : String) (file : SourceFile) (field : Field) :
    Meets key file field (encounter? key file field) := by
  unfold encounter?
  cases htag : field.tag with
  | none => exact .untagged htag
  | some tag =>
    cases htext : unquote tag.literal with
    | error fault =>
      simp only [htext]
      exact .undecodable htag htext
    | ok text =>
      cases hvalue : Tag.lookup text key with
      | none =>
        simp only [htext, hvalue]
        exact .absent htag htext hvalue
      | some value =>
        simp only [htext, hvalue]
        exact .present htag htext hvalue

theorem Place.Before.ne {a b : Place} (h : a.Before b) : a ≠ b := by
  rintro rfl
  rcases h with h | ⟨-, h⟩
  · exact Nat.lt_irrefl _ h
  · exact lt_irrefl _ h

/-- A run enters every struct of a package exactly once, whatever its depth: file by file, a struct
before those nested in it, and these in the order of the fields they are nested in. There it takes
the struct's own fields in order. It reports a tag that cannot be decoded, hands each value under
the checker's key to the checker, and passes over all other fields. The reports collected before
stay in front. -/
theorem Checker.run_visits_all (c : Checker) (p : Package) (before : List Diagnostic) :
    ∃ stops : List (Place × SourceFile × Struct),
      (stops.map (·.1)).Pairwise Place.Before ∧
      (stops.map (·.1)).Nodup ∧
      (∀ place file s, (place, file, s) ∈ stops ↔ p.structAt? place = some (file, s)) ∧
      p.entered = stops.map (·.2) ∧
      p.entered.length = p.structCount ∧
      ∃ met, List.Forall₂ (fun x m => Meets c.key x.1 x.2 m)
          (stops.flatMap fun x => x.2.2.fields.map (x.2.1, ·)) met ∧
        p.encounters c.key = met.reduceOption ∧
        c.run p before = before ++ met.reduceOption.flatMap fun
          | .invalid site => [site.tagDiagnostic invalidTag .error "invalid tag"]
          | .carries site value => c.check site value := by
  have hpairwise := p.pairwise_stops
  have hmet : p.encounters c.key =
      (p.visit.map fun x => encounter? c.key x.1 x.2).reduceOption := by
    rw [List.reduceOption, List.filterMap_map]
    rfl
  refine ⟨p.stops, hpairwise, hpairwise.imp Place.Before.ne, fun _ _ _ => Package.mem_stops_iff,
    p.entered_eq_stops, p.length_entered, _, ?_, hmet, ?_⟩
  · rw [← p.visit_eq_stops, List.forall₂_map_right_iff, List.forall₂_same]
    exact fun x _ => meets_encounter? c.key x.1 x.2
  · rw [← hmet, c.run_eq_encounters]
    rfl

end StructTags
