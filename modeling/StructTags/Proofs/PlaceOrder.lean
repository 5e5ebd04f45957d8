import Mathlib
import StructTags.Diagnostic.Collector

/-!
# The order of places

Paths are compared component by component, and places by path and then by offset. Both are total
preorders, and two places are level exactly if they are the same position
(`Location.compare_eq_eq_iff`).

Sorting diagnostics by place is stable. So it keeps what stands at each position, and the sorted
list is determined by that alone (`sortByLocation_eq_iff`). Whatever keeps the places of
diagnostics can therefore be done before or after sorting (`sortByLocation_filterMap`).

`SortedFrom` says what is expected of a sorted list in terms of the lexicographic order of
components and not of the comparison that is run; `sortByLocation_lawful` says that sorting gives
this list.
-/

namespace StructTags

/-! ## Comparing -/

/-- Values compared through something derived from them. -/
theorem transCmp_on {α β : Type} {cmp : β → β → Ordering} [Std.TransCmp cmp] (f : α → β) :
    Std.TransCmp fun a b => cmp (f a) (f b) where
  eq_swap := Std.OrientedCmp.eq_swap
  isLE_trans := Std.TransCmp.isLE_trans

namespace Path

theorem compareNames_eq (as bs : List Char) :
    compareNames as bs = List.compareLex (compareOn Char.toNat) as bs := by
  induction as generalizing bs with
  | nil => cases bs <;> rfl
  | cons a as ih =>
    cases bs with
    | nil => rfl
    | cons b bs => rw [compareNames, List.compareLex_cons_cons, ih, compareOn]

instance : Std.TransCmp compareNames := by
  have heq : compareNames = List.compareLex (compareOn Char.toNat) := by
    funext as bs
    exact compareNames_eq as bs
  rw [heq]
  infer_instance

theorem compareNames_eq_eq_iff {as bs : List Char} : compareNames as bs = .eq ↔ as = bs := by
  induction as generalizing bs with
  | nil => cases bs <;> simp [compareNames]
  | cons a as ih =>
    cases bs with
    | nil => simp [compareNames]
    | cons b bs => simp [compareNames, Ordering.then_eq_eq, ih, Char.toNat_inj]

theorem compareNames_eq_lt_iff {as bs : List Char} : compareNames as bs = .lt ↔ as < bs := by
  induction as generalizing bs with
  | nil => cases bs <;> simp [compareNames]
  | cons a as ih =>
    cases bs with
    | nil => simp [compareNames]
    | cons b bs =>
      rw [compareNames, Ordering.then_eq_lt, Nat.compare_eq_lt, Nat.compare_eq_eq, ih,
        List.cons_lt_cons_iff, Char.toNat_inj]
      rfl

/-- The characters of a component that is a name. -/
def Component.text : Component → List Char
  | .name s => s
  | _ => []

/-- Components are compared by kind, and names by their characters. -/
theorem Component.compare_eq (a b : Component) :
    a.compare b = compareLex (compareOn rank) (fun a b => compareNames a.text b.text) a b := by
  cases a <;> cases b <;> rfl

instance : Std.TransCmp Component.compare := by
  have htext : Std.TransCmp fun a b : Component => compareNames a.text b.text :=
    transCmp_on Component.text
  have heq : Component.compare =
      compareLex (compareOn Component.rank) fun a b => compareNames a.text b.text := by
    funext a b
    exact Component.compare_eq a b
  rw [heq]
  infer_instance

theorem Component.compare_eq_eq_iff {a b : Component} : a.compare b = .eq ↔ a = b := by
  cases a <;> cases b <;> simp [Component.compare, Component.rank, compareNames_eq_eq_iff]

/-- The order of components: by kind, and names by their characters. -/
def Component.Before (a b : Component) : Prop :=
  a.rank < b.rank ∨ a.rank = b.rank ∧ a.text < b.text

theorem Component.compare_eq_lt_iff {a b : Component} : a.compare b = .lt ↔ a.Before b := by
  rw [Component.compare_eq, compareLex, Ordering.then_eq_lt, compareOn, Nat.compare_eq_lt,
    Nat.compare_eq_eq, compareNames_eq_lt_iff, Component.Before]

theorem compareComponents_eq (as bs : List Component) :
    compareComponents as bs = List.compareLex Component.compare as bs := by
  induction as generalizing bs with
  | nil => cases bs <;> rfl
  | cons a as ih =>
    cases bs with
    | nil => rfl
    | cons b bs => rw [compareComponents, List.compareLex_cons_cons, ih]

instance : Std.TransCmp compareComponents := by
  have heq : compareComponents = List.compareLex Component.compare := by
    funext as bs
    exact compareComponents_eq as bs
  rw [heq]
  infer_instance

theorem compareComponents_eq_eq_iff {as bs : List Component} :
    compareComponents as bs = .eq ↔ as = bs := by
  induction as generalizing bs with
  | nil => cases bs <;> simp [compareComponents]
  | cons a as ih =>
    cases bs with
    | nil => simp [compareComponents]
    | cons b bs =>
      simp [compareComponents, Ordering.then_eq_eq, ih, Component.compare_eq_eq_iff]

theorem compareComponents_eq_lt_iff {as bs : List Component} :
    compareComponents as bs = .lt ↔ List.Lex Component.Before as bs := by
  induction as generalizing bs with
  | nil => cases bs <;> simp [compareComponents]
  | cons a as ih =>
    cases bs with
    | nil => simp [compareComponents]
    | cons b bs =>
      rw [compareComponents, Ordering.then_eq_lt, Component.compare_eq_lt_iff,
        Component.compare_eq_eq_iff, ih, List.cons_lex_cons_iff]

instance : Std.TransCmp Path.compare :=
  transCmp_on components

theorem compare_eq_eq_iff {a b : String} : Path.compare a b = .eq ↔ same a b = true := by
  simp [Path.compare, same, compareComponents_eq_eq_iff]

/-- The order of paths: the lexicographic order of their components. -/
def Before (a b : String) : Prop :=
  List.Lex Component.Before (components a) (components b)

theorem compare_eq_lt_iff {a b : String} : Path.compare a b = .lt ↔ Before a b :=
  compareComponents_eq_lt_iff

end Path

namespace Location

instance : Std.TransCmp Location.compare := by
  have hfile : Std.TransCmp fun a b : Location => Path.compare a.file b.file :=
    transCmp_on Location.file
  exact inferInstanceAs (Std.TransCmp
    (compareLex (fun a b : Location => Path.compare a.file b.file) (compareOn Location.offset)))

/-- Places are level if they are the same position. -/
theorem compare_eq_eq_iff {a b : Location} : a.compare b = .eq ↔ a.samePosition b = true := by
  simp [Location.compare, samePosition, Ordering.then_eq_eq, Path.compare_eq_eq_iff]

/-- A place does not come after another one: its path comes first, or the paths are the same and its
offset is not larger. -/
def NotAfter (a b : Location) : Prop :=
  Path.Before a.file b.file ∨ Path.same a.file b.file = true ∧ a.offset ≤ b.offset

theorem isLE_compare_iff {a b : Location} : (a.compare b).isLE = true ↔ a.NotAfter b := by
  rw [Location.compare, NotAfter, Ordering.isLE_then_iff_or, Path.compare_eq_lt_iff,
    Path.compare_eq_eq_iff, Nat.isLE_compare]

theorem samePosition_refl (a : Location) : a.samePosition a = true := by
  simp [samePosition, Path.same]

theorem samePosition_comm (a b : Location) : a.samePosition b = b.samePosition a := by
  simp [samePosition, Path.same, eq_comm]

/-- Equal positions are equal to the same positions. -/
theorem samePosition_congr {a b : Location} (h : a.samePosition b = true) (c : Location) :
    a.samePosition c = b.samePosition c := by
  simp only [samePosition, Path.same, Bool.and_eq_true, decide_eq_true_eq] at h
  simp only [samePosition, Path.same, h.1, h.2]

end Location

/-! ## Sorting -/

namespace Diagnostics

/-- Whether a diagnostic may come before another one. -/
def notAfter (a b : Diagnostic) : Bool :=
  (a.location.compare b.location).isLE

theorem sortByLocation_eq (ds : List Diagnostic) : sortByLocation ds = ds.mergeSort notAfter := by
  have hle (o : Ordering) : decide (o ≠ .gt) = o.isLE := by
    cases o <;> rfl
  simp only [sortByLocation, hle]
  rfl

theorem notAfter_trans (a b c : Diagnostic) (hab : notAfter a b = true)
    (hbc : notAfter b c = true) : notAfter a c = true :=
  Std.TransCmp.isLE_trans hab hbc

theorem notAfter_total (a b : Diagnostic) : (notAfter a b || notAfter b a) = true := by
  rw [notAfter, notAfter, ← Std.OrientedCmp.isGE_eq_isLE (a := a.location)]
  cases a.location.compare b.location <;> rfl

/-- Of two diagnostics at different positions only one may come before the other. -/
theorem samePosition_of_notAfter {a b : Diagnostic} (hab : notAfter a b = true)
    (hba : notAfter b a = true) : a.location.samePosition b.location = true :=
  Location.compare_eq_eq_iff.1 (Std.OrientedCmp.isLE_antisymm hab hba)

/-- The diagnostics that start at the position of a place. -/
def atPosition (place : Location) (ds : List Diagnostic) : List Diagnostic :=
  ds.filter fun d => d.location.samePosition place

theorem atPosition_cons_of_pos {place : Location} {d : Diagnostic}
    (h : d.location.samePosition place = true) (ds : List Diagnostic) :
    atPosition place (d :: ds) = d :: atPosition place ds :=
  List.filter_cons_of_pos h

theorem atPosition_cons_of_neg {place : Location} {d : Diagnostic}
    (h : ¬ d.location.samePosition place = true) (ds : List Diagnostic) :
    atPosition place (d :: ds) = atPosition place ds :=
  List.filter_cons_of_neg h

theorem mem_atPosition_self {d : Diagnostic} {ds : List Diagnostic} :
    d ∈ atPosition d.location ds ↔ d ∈ ds := by
  simp [atPosition, Location.samePosition_refl]

theorem sortByLocation_perm (ds : List Diagnostic) : (sortByLocation ds).Perm ds :=
  List.mergeSort_perm ds _

theorem pairwise_sortByLocation (ds : List Diagnostic) :
    (sortByLocation ds).Pairwise fun a b => notAfter a b = true := by
  rw [sortByLocation_eq]
  exact List.pairwise_mergeSort notAfter_trans notAfter_total ds

/-- Sorting keeps the diagnostics at a position in their order. -/
theorem atPosition_sortByLocation (place : Location) (ds : List Diagnostic) :
    atPosition place (sortByLocation ds) = atPosition place ds := by
  have hlevel : (atPosition place ds).Pairwise fun a b => notAfter a b = true := by
    refine List.pairwise_of_forall_mem_list ?_
    intro a ha b hb
    have hab : a.location.samePosition b.location = true := by
      rw [Location.samePosition_congr (List.mem_filter.1 ha).2, Location.samePosition_comm]
      exact (List.mem_filter.1 hb).2
    rw [notAfter, Location.compare_eq_eq_iff.2 hab]
    rfl
  have hsub : (atPosition place ds).Sublist (sortByLocation ds) := by
    rw [sortByLocation_eq]
    exact List.sublist_mergeSort notAfter_trans notAfter_total hlevel List.filter_sublist
  have hsub' : (atPosition place ds).Sublist (atPosition place (sortByLocation ds)) := by
    simpa [atPosition] using hsub.filter fun d => d.location.samePosition place
  exact (hsub'.eq_of_length ((sortByLocation_perm ds).filter _).length_eq.symm).symm

/-- A sorted list is determined by what it holds at each position. -/
theorem eq_of_atPosition {ds ds' : List Diagnostic}
    (hds : ds.Pairwise fun a b => notAfter a b = true)
    (hds' : ds'.Pairwise fun a b => notAfter a b = true)
    (h : ∀ place, atPosition place ds = atPosition place ds') : ds = ds' := by
  have hmem (d : Diagnostic) : d ∈ ds ↔ d ∈ ds' := by
    rw [← mem_atPosition_self, h, mem_atPosition_self]
  induction ds generalizing ds' with
  | nil => exact (List.eq_nil_iff_forall_not_mem.2 fun d hd => by simpa using (hmem d).2 hd).symm
  | cons d rest ih =>
    cases ds' with
    | nil => exact absurd ((hmem d).1 List.mem_cons_self) List.not_mem_nil
    | cons d' rest' =>
      obtain ⟨hfirst, hrest⟩ := List.pairwise_cons.1 hds
      obtain ⟨hfirst', hrest'⟩ := List.pairwise_cons.1 hds'
      -- both heads come first, so they are at one position, and there they are equal
      have hsame : d.location.samePosition d'.location = true := by
        rcases List.mem_cons.1 ((hmem d).1 List.mem_cons_self) with rfl | hd
        · exact Location.samePosition_refl _
        rcases List.mem_cons.1 ((hmem d').2 List.mem_cons_self) with rfl | hd'
        · exact Location.samePosition_refl _
        exact samePosition_of_notAfter (hfirst d' hd') (hfirst' d hd)
      have hhead := h d'.location
      rw [atPosition_cons_of_pos hsame,
        atPosition_cons_of_pos (Location.samePosition_refl d'.location)] at hhead
      obtain ⟨rfl, -⟩ := List.cons.inj hhead
      have htail (place : Location) : atPosition place rest = atPosition place rest' := by
        have hplace := h place
        by_cases hd : d.location.samePosition place = true
        · rw [atPosition_cons_of_pos hd, atPosition_cons_of_pos hd] at hplace
          exact (List.cons.inj hplace).2
        · rwa [atPosition_cons_of_neg hd, atPosition_cons_of_neg hd] at hplace
      have hmem' (e : Diagnostic) : e ∈ rest ↔ e ∈ rest' := by
        rw [← mem_atPosition_self, htail, mem_atPosition_self]
      rw [ih hrest hrest' htail hmem']

/-- Lists with the same diagnostics at each position, in the same order, are the same when
sorted. -/
theorem sortByLocation_eq_iff {ds ds' : List Diagnostic} :
    sortByLocation ds = sortByLocation ds' ↔
      ∀ place, atPosition place ds = atPosition place ds' := by
  constructor
  · intro h place
    rw [← atPosition_sortByLocation, h, atPosition_sortByLocation]
  · intro h
    refine eq_of_atPosition (pairwise_sortByLocation ds) (pairwise_sortByLocation ds') ?_
    intro place
    rw [atPosition_sortByLocation, atPosition_sortByLocation, h]

/-- What keeps the places of diagnostics. -/
def KeepsPlace (f : Diagnostic → Option Diagnostic) : Prop :=
  ∀ d d', f d = some d' → d'.location = d.location

theorem KeepsPlace.atPosition_filterMap {f : Diagnostic → Option Diagnostic} (hf : KeepsPlace f)
    (place : Location) (ds : List Diagnostic) :
    atPosition place (ds.filterMap f) = (atPosition place ds).filterMap f := by
  rw [atPosition, atPosition, List.filter_filterMap, List.filterMap_filter]
  refine List.filterMap_congr ?_
  intro d _
  cases hd : f d with
  | none => simp
  | some d' => rw [Option.filter_some, hf d d' hd]

/-- What keeps the places can be done before sorting or afterwards. -/
theorem KeepsPlace.sortByLocation_filterMap {f : Diagnostic → Option Diagnostic}
    (hf : KeepsPlace f) (ds : List Diagnostic) :
    sortByLocation (ds.filterMap f) = (sortByLocation ds).filterMap f := by
  have hsorted : ((sortByLocation ds).filterMap f).Pairwise fun a b => notAfter a b = true := by
    refine List.Pairwise.filterMap f ?_ (pairwise_sortByLocation ds)
    intro a a' ha b hb b' hb'
    rw [notAfter, hf a b hb, hf a' b' hb']
    exact ha
  refine eq_of_atPosition (pairwise_sortByLocation _) hsorted ?_
  intro place
  rw [atPosition_sortByLocation, hf.atPosition_filterMap, hf.atPosition_filterMap,
    atPosition_sortByLocation]

theorem sortByLocation_filter (keep : Diagnostic → Bool) (ds : List Diagnostic) :
    sortByLocation (ds.filter keep) = (sortByLocation ds).filter keep := by
  have hkeeps : KeepsPlace (Option.guard keep) := by
    intro d d' h
    rw [(Option.guard_eq_some_iff.1 h).1]
  rw [← List.filterMap_eq_filter, hkeeps.sortByLocation_filterMap, List.filterMap_eq_filter]

/-! ## What sorting promises -/

/-- What sorting a list of diagnostics should give. -/
structure SortedFrom (ds sorted : List Diagnostic) : Prop where
  /-- Nothing is lost and nothing is added. -/
  perm : sorted.Perm ds
  /-- Each diagnostic comes in the order of the places. -/
  ordered : sorted.Pairwise fun a b => a.location.NotAfter b.location
  /-- Diagnostics at one position come in the order they had. -/
  stable : ∀ place, atPosition place sorted = atPosition place ds

theorem pairwise_notAfter_iff {ds : List Diagnostic} :
    ds.Pairwise (fun a b => a.location.NotAfter b.location) ↔
      ds.Pairwise fun a b => notAfter a b = true := by
  refine List.Pairwise.iff ?_
  intro a b
  exact Location.isLE_compare_iff.symm

theorem sortedFrom_sortByLocation (ds : List Diagnostic) : SortedFrom ds (sortByLocation ds) := by
  constructor
  · exact sortByLocation_perm ds
  · exact pairwise_notAfter_iff.2 (pairwise_sortByLocation ds)
  · intro place
    exact atPosition_sortByLocation place ds

/-- There is one way only to sort a list. -/
theorem SortedFrom.eq {ds sorted : List Diagnostic} (h : SortedFrom ds sorted) :
    sorted = sortByLocation ds := by
  apply eq_of_atPosition (pairwise_notAfter_iff.1 h.ordered) (pairwise_sortByLocation ds)
  intro place
  rw [h.stable, atPosition_sortByLocation]

/-- Sorting gives the one list that holds the same diagnostics, in the order of their places, and
at each position in the order they had. So sorting a second time changes nothing, and it makes no
difference whether diagnostics are dropped or get other severities before sorting or afterwards. -/
theorem sortByLocation_lawful (ds : List Diagnostic) :
    (∀ sorted, SortedFrom ds sorted ↔ sorted = sortByLocation ds) ∧
      sortByLocation (sortByLocation ds) = sortByLocation ds ∧
      (∀ keep : Diagnostic → Bool,
        sortByLocation (ds.filter keep) = (sortByLocation ds).filter keep) ∧
      ∀ severity : Diagnostic → Severity,
        sortByLocation (ds.map fun d => { d with severity := severity d }) =
          (sortByLocation ds).map fun d => { d with severity := severity d } := by
  have hsorted := sortedFrom_sortByLocation ds
  refine ⟨?_, ?_, ?_, ?_⟩
  · intro sorted
    constructor
    · exact SortedFrom.eq
    · rintro rfl
      exact hsorted
  · -- a sorted list is a sorted form of itself
    exact (SortedFrom.eq ⟨.refl _, hsorted.ordered, fun _ => rfl⟩).symm
  · intro keep
    exact sortByLocation_filter keep ds
  · intro severity
    have hkeeps : KeepsPlace fun d => some { d with severity := severity d } := by
      intro d d' h
      rw [← Option.some.inj h]
    have hsort := hkeeps.sortByLocation_filterMap ds
    rwa [List.filterMap_eq_map'] at hsort

-- Of two files the one that comes first counts more than the offsets, and `a/` names the file `a`.
example :
    (sortByLocation ([("b", 0), ("a", 7), ("a/", 3)].map fun x =>
      { ruleId := "", severity := .error, message := "", location := ⟨x.1, 1, 1, x.2, 0⟩ })).map
        (fun d => (d.location.file, d.location.offset)) =
      [("a/", 3), ("a", 7), ("b", 0)] := by
  cbv

end Diagnostics

end StructTags
