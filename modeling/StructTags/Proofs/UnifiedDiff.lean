import StructTags.Diff.Hunk
import StructTags.Proofs.MovedChanges

/-!
# What a unified diff says

A diff is complete if each hunk shows the lines that its header names, the hunks come in order and
apart from each other, each stands where the hunks before it have moved the lines to, and putting
the new lines of all hunks in the place of their old ones turns the old text into the new one.

A header takes its starts from the first operation of the hunk. All hunks but the first begin with
unchanged lines, whose place is exact on both sides. The first may begin with a deletion or an
insertion, and the place of that on the other side may be out of date. So every diff is complete
once the starts of its first hunk are made equal, and as printed if and only if they are.
-/

namespace StructTags

/-! ## Lines with their ends -/

namespace Line

theorem flatten_terminatedFrom (line cs : List Char) :
    (terminatedFrom line cs).flatten = line.reverse ++ cs := by
  fun_induction terminatedFrom line cs with
  | case1 line h => simp [List.isEmpty_iff.1 h]
  | case2 => simp
  | case3 _ _ ih => simp [ih]
  | case4 _ _ _ _ _ ih => simp [ih]
  | case5 _ _ _ _ _ ih => simp [ih]

/-- The lines of a text make it up. -/
theorem join_terminated (text : String) : String.join (terminated text) = text := by
  apply String.toList_injective
  rw [String.toList_join, terminated, List.flatMap_map]
  simp only [String.toList_ofList]
  rw [List.flatMap_id', flatten_terminatedFrom]
  rfl

/-- A newline stands at most at the end of a line. -/
theorem newline_terminatedFrom {line cs : List Char} (h : '\n' ∉ line) :
    ∀ l ∈ terminatedFrom line cs,
      ∃ text, '\n' ∉ text ∧ (l = text ∨ l = text ++ ['\n']) := by
  fun_induction terminatedFrom line cs with
  | case1 => simp
  | case2 line _ => simpa using ⟨line.reverse, by simpa using h, .inl rfl⟩
  | case3 line rest ih =>
    intro l hl
    rcases List.mem_cons.1 hl with rfl | hl
    · exact ⟨('\r' :: line).reverse, by simpa using h, .inr (by simp)⟩
    · exact ih (by simp) l hl
  | case4 line c rest _ hc ih =>
    intro l hl
    rcases List.mem_cons.1 hl with rfl | hl
    · by_cases hnewline : c = '\n'
      · exact ⟨line.reverse, by simpa using h, .inr (by simp [hnewline])⟩
      · exact ⟨(c :: line).reverse, by simpa [Ne.symm hnewline] using h, .inl rfl⟩
    · exact ih (by simp) l hl
  | case5 line c rest _ hc ih => exact ih (by grind)

end Line

namespace Diff

/-! ## Complete diffs -/

/-- The lines that the old text has. -/
def oldPart (lines : List (Mark × String)) : List String :=
  (lines.filter fun line => line.1 ≠ .added).map Prod.snd

/-- The lines that the new text has. -/
def newPart (lines : List (Mark × String)) : List String :=
  (lines.filter fun line => line.1 ≠ .removed).map Prod.snd

/-- A hunk shows the lines that its header names, and they are there. -/
structure Hunk.Exact (s : Sides) (h : Hunk) : Prop where
  old_le : h.oldStart + h.oldLength ≤ s.old.size
  old_lines : oldPart h.lines = linesFrom s.old h.oldStart h.oldLength
  new_le : h.newStart + h.newLength ≤ s.new.size
  new_lines : newPart h.lines = linesFrom s.new h.newStart h.newLength

/-- The old lines from line `i` on, with those of every hunk replaced by its new ones. -/
def patchFrom (old : List String) : Nat → List Hunk → List String
  | i, [] => old.drop i
  | i, h :: rest =>
    (old.take h.oldStart).drop i ++
      (newPart h.lines ++ patchFrom old (h.oldStart + h.oldLength) rest)

/-- The hunks say all about how the old lines become the new ones. The headers name the lines that
are shown (`shown`) and, beyond that, the place where these come to stand (`placed`): where lines
repeat, a header may name other lines that read the same. -/
structure Complete (s : Sides) (hunks : List Hunk) : Prop where
  shown : ∀ h ∈ hunks, h.Exact s
  ordered : hunks.Pairwise fun h h' =>
    h.oldStart + h.oldLength ≤ h'.oldStart ∧ h.newStart + h.newLength ≤ h'.newStart
  /-- The hunks before a hunk turn the old lines before it into the new lines before it, so its new
  lines come to stand where its header says. -/
  placed : ∀ front h rest, hunks = front ++ h :: rest →
    patchFrom (s.old.toList.take h.oldStart) 0 front = s.new.toList.take h.newStart
  patched : patchFrom s.old.toList 0 hunks = s.new.toList

-- Here the header names the second of two new lines, which reads as the one shown does, and the
-- first line is the one that the hunk puts there.
example :
    let s : Sides := ⟨#["b", "a", "a"], #["a", "a"]⟩
    let h : Hunk := ⟨0, 2, 1, 1, [(.removed, "b"), (.kept, "a")]⟩
    newPart h.lines = linesFrom s.new h.newStart h.newLength ∧
      patchFrom s.old.toList 0 [h] = s.new.toList ∧
      patchFrom (s.old.toList.take h.oldStart) 0 [] ≠ s.new.toList.take h.newStart := by
  decide

/-- A line takes up one line of the diff: its sign stands before it, and a newline is added only to
one that has none. -/
def OnOneLine (line : Mark × String) : Prop :=
  ∃ text : String, '\n' ∉ text.toList ∧ (line.2 = text ∨ line.2 = text ++ "\n") ∧
    showLine line = String.singleton line.1.sign ++ text ++ "\n"

/-- The hunk with both starts at the smaller one. -/
def Hunk.level (h : Hunk) : Hunk :=
  { h with oldStart := min h.oldStart h.newStart, newStart := min h.oldStart h.newStart }

section

variable {s : Sides} {i j i' j' : Nat}

/-! ## The lines of a stretch that is tiled -/

theorem linesFrom_zero (lines : Array String) (i : Nat) : linesFrom lines i 0 = [] :=
  List.take_zero

theorem linesFrom_add (lines : Array String) (i m n : Nat) :
    linesFrom lines i (m + n) = linesFrom lines i m ++ linesFrom lines (i + m) n := by
  unfold linesFrom
  rw [List.take_add, List.drop_drop]

theorem linesFrom_drop (lines : Array String) (i n : Nat) :
    linesFrom lines i n ++ lines.toList.drop (i + n) = lines.toList.drop i := by
  unfold linesFrom
  rw [← List.drop_drop, List.take_append_drop]

theorem getElem?_of_agree (h : s.agree i j = true) : s.old[i]? = s.new[j]? := by
  unfold Sides.agree at h
  split at h
  · next a b hold hnew => rw [hold, hnew, eq_of_beq h]
  · cases h

theorem Sides.Agree.linesFrom_eq {n : Nat} (h : s.Agree i j n) :
    linesFrom s.old i n = linesFrom s.new j n := by
  apply List.ext_getElem?
  intro t
  unfold linesFrom
  rw [List.getElem?_take, List.getElem?_take]
  split
  · next ht =>
    rw [List.getElem?_drop, List.getElem?_drop, Array.getElem?_toList, Array.getElem?_toList]
    exact getElem?_of_agree (h t ht)
  · rfl

theorem oldPart_append (xs ys : List (Mark × String)) :
    oldPart (xs ++ ys) = oldPart xs ++ oldPart ys := by
  simp [oldPart]

theorem newPart_append (xs ys : List (Mark × String)) :
    newPart (xs ++ ys) = newPart xs ++ newPart ys := by
  simp [newPart]

theorem oldPart_map (mark : Mark) (lines : List String) :
    oldPart (lines.map (mark, ·)) = if mark = .added then [] else lines := by
  cases mark <;> simp [oldPart, List.filter_map, Function.comp_def]

theorem newPart_map (mark : Mark) (lines : List String) :
    newPart (lines.map (mark, ·)) = if mark = .removed then [] else lines := by
  cases mark <;> simp [newPart, List.filter_map, Function.comp_def]

theorem Op.At.oldPart_lines {op : Op} (h : op.At s i j) :
    oldPart (op.lines s) = linesFrom s.old i op.oldLength := by
  cases op with
  | equal =>
    rcases h with ⟨rfl, _, _⟩
    simp [Op.lines, Op.oldLength, oldPart_map]
  | delete =>
    cases h
    simp [Op.lines, Op.oldLength, oldPart_map]
  | insert => simp [Op.lines, Op.oldLength, oldPart_map, linesFrom_zero]
  | replace =>
    rcases h with ⟨rfl, _⟩
    simp [Op.lines, Op.oldLength, oldPart_append, oldPart_map]

theorem Op.At.newPart_lines {op : Op} (h : op.At s i j) :
    newPart (op.lines s) = linesFrom s.new j op.newLength := by
  cases op with
  | equal =>
    rcases h with ⟨rfl, _, hagree⟩
    simp [Op.lines, Op.newLength, newPart_map, hagree.linesFrom_eq]
  | delete => simp [Op.lines, Op.newLength, newPart_map, linesFrom_zero]
  | insert =>
    cases h
    simp [Op.lines, Op.newLength, newPart_map]
  | replace =>
    rcases h with ⟨_, rfl⟩
    simp [Op.lines, Op.newLength, newPart_append, newPart_map]

/-- The hunk with other starts. -/
def Hunk.startingAt (i j : Nat) (h : Hunk) : Hunk :=
  { h with oldStart := i, newStart := j }

theorem Hunk.ofGroup_cons (op : Op) (group : List Op) :
    (Hunk.ofGroup s (op :: group)).oldLength = op.oldLength + (Hunk.ofGroup s group).oldLength ∧
      (Hunk.ofGroup s (op :: group)).newLength = op.newLength + (Hunk.ofGroup s group).newLength ∧
      (Hunk.ofGroup s (op :: group)).lines = op.lines s ++ (Hunk.ofGroup s group).lines :=
  ⟨rfl, rfl, rfl⟩

/-- The operations of a group lead as far as the lengths of its hunk say. -/
theorem Tiles.end_eq {group : List Op} (h : Tiles s i j group i' j') :
    i' = i + (Hunk.ofGroup s group).oldLength ∧ j' = j + (Hunk.ofGroup s group).newLength := by
  induction group generalizing i j with
  | nil => exact ⟨h.1.symm, h.2.symm⟩
  | cons op group ih =>
    rcases ih h.2 with ⟨hold, hnew⟩
    rcases Hunk.ofGroup_cons (s := s) op group with ⟨hold', hnew', _⟩
    exact ⟨by omega, by omega⟩

theorem Tiles.oldPart_eq {group : List Op} (h : Tiles s i j group i' j') :
    oldPart (Hunk.ofGroup s group).lines =
      linesFrom s.old i (Hunk.ofGroup s group).oldLength := by
  induction group generalizing i j with
  | nil => rfl
  | cons op group ih =>
    rcases Hunk.ofGroup_cons (s := s) op group with ⟨hold, _, hlines⟩
    rw [hold, hlines, oldPart_append, linesFrom_add, h.1.oldPart_lines, ih h.2]

theorem Tiles.newPart_eq {group : List Op} (h : Tiles s i j group i' j') :
    newPart (Hunk.ofGroup s group).lines =
      linesFrom s.new j (Hunk.ofGroup s group).newLength := by
  induction group generalizing i j with
  | nil => rfl
  | cons op group ih =>
    rcases Hunk.ofGroup_cons (s := s) op group with ⟨_, hnew, hlines⟩
    rw [hnew, hlines, newPart_append, linesFrom_add, h.1.newPart_lines, ih h.2]

/-- A hunk is exact if its starts are where its operations begin. -/
theorem Tiles.exact_startingAt {group : List Op} (h : Tiles s i j group i' j')
    (hold : i' ≤ s.old.size) (hnew : j' ≤ s.new.size) :
    ((Hunk.ofGroup s group).startingAt i j).Exact s where
  old_le := h.end_eq.1 ▸ hold
  old_lines := h.oldPart_eq
  new_le := h.end_eq.2 ▸ hnew
  new_lines := h.newPart_eq

/-! ## Hunks that describe what follows -/

/-- The lines from old line `i` and new line `j` on are the same. -/
def Sides.SameFrom (s : Sides) (i j : Nat) : Prop :=
  ∃ n, s.Agree i j n ∧ i + n = s.old.size ∧ j + n = s.new.size

/-- The hunks describe all that is changed behind old line `i` and new line `j`. -/
def Describes (s : Sides) : Nat → Nat → List Hunk → Prop
  | i, j, [] => s.SameFrom i j
  | i, j, h :: rest =>
    (∃ gap, s.Agree i j gap ∧ h.oldStart = i + gap ∧ h.newStart = j + gap) ∧ h.Exact s ∧
      Describes s (h.oldStart + h.oldLength) (h.newStart + h.newLength) rest

theorem Sides.SameFrom.drop_eq (h : s.SameFrom i j) :
    s.old.toList.drop i = s.new.toList.drop j := by
  rcases h with ⟨n, hagree, hold, hnew⟩
  rw [← linesFrom_drop s.old i n, ← linesFrom_drop s.new j n, hagree.linesFrom_eq, hold, hnew,
    List.drop_eq_nil_of_le (Nat.le_of_eq Array.length_toList),
    List.drop_eq_nil_of_le (Nat.le_of_eq Array.length_toList)]

theorem Sides.SameFrom.prepend {n : Nat} (hn : s.Agree i j n) (h : s.SameFrom (i + n) (j + n)) :
    s.SameFrom i j := by
  rcases h with ⟨m, hm, hold, hnew⟩
  exact ⟨n + m, hn.append hm, by omega, by omega⟩

namespace Describes

variable {hunks : List Hunk}

theorem shown (h : Describes s i j hunks) : ∀ x ∈ hunks, x.Exact s := by
  induction hunks generalizing i j with
  | nil => simp
  | cons x rest ih =>
    intro y hy
    rcases List.mem_cons.1 hy with rfl | hy
    · exact h.2.1
    · exact ih h.2.2 y hy

/-- The hunks stand behind the lines that they follow. -/
theorem start_le (h : Describes s i j hunks) : ∀ x ∈ hunks, i ≤ x.oldStart ∧ j ≤ x.newStart := by
  induction hunks generalizing i j with
  | nil => simp
  | cons x rest ih =>
    rcases h with ⟨⟨gap, _, hold, hnew⟩, _, hrest⟩
    intro y hy
    rcases List.mem_cons.1 hy with rfl | hy
    · omega
    · have hle := ih hrest y hy
      omega

theorem ordered (h : Describes s i j hunks) : hunks.Pairwise fun x y =>
    x.oldStart + x.oldLength ≤ y.oldStart ∧ x.newStart + x.newLength ≤ y.newStart := by
  induction hunks generalizing i j with
  | nil => exact .nil
  | cons x rest ih => exact .cons h.2.2.start_le (ih h.2.2)

/-- What is left before a hunk is turned into the new lines that are left before it. -/
theorem placed (h : Describes s i j hunks) : ∀ front x rest, hunks = front ++ x :: rest →
    patchFrom (s.old.toList.take x.oldStart) i front = linesFrom s.new j (x.newStart - j) := by
  intro front
  induction front generalizing i j hunks with
  | nil =>
    rintro x rest rfl
    rcases h with ⟨⟨gap, hagree, hold, hnew⟩, _, _⟩
    rw [patchFrom, List.drop_take, hold, hnew, Nat.add_sub_cancel_left, Nat.add_sub_cancel_left]
    exact hagree.linesFrom_eq
  | cons y front ih =>
    rintro x rest rfl
    rcases h with ⟨⟨gap, hagree, hold, hnew⟩, hexact, hrest⟩
    -- the hunk in front ends before the one in question begins
    rcases hrest.start_le x (by simp) with ⟨hle, hle'⟩
    have hgap :
        ((s.old.toList.take x.oldStart).take y.oldStart).drop i = linesFrom s.new j gap := by
      rw [List.take_take, min_eq_left (by omega), List.drop_take, hold, Nat.add_sub_cancel_left]
      exact hagree.linesFrom_eq
    have hlength : x.newStart - j =
        gap + (y.newLength + (x.newStart - (y.newStart + y.newLength))) := by omega
    rw [patchFrom, hgap, hexact.new_lines, ih hrest x rest rfl, hlength, linesFrom_add,
      linesFrom_add, hnew]

/-- The lines that are left are turned into the new lines that are left. -/
theorem patched (h : Describes s i j hunks) :
    patchFrom s.old.toList i hunks = s.new.toList.drop j := by
  induction hunks generalizing i j with
  | nil => exact h.drop_eq
  | cons x rest ih =>
    rcases h with ⟨⟨gap, hagree, hold, hnew⟩, hexact, hrest⟩
    have hgap : (s.old.toList.take x.oldStart).drop i = linesFrom s.new j gap := by
      rw [hold, List.drop_take, Nat.add_sub_cancel_left]
      exact hagree.linesFrom_eq
    rw [patchFrom, hgap, hexact.new_lines, ih hrest, linesFrom_drop, hnew, linesFrom_drop]

theorem le_size (h : Describes s i j hunks) : i ≤ s.old.size ∧ j ≤ s.new.size := by
  cases hunks with
  | nil =>
    rcases h with ⟨n, _, hold, hnew⟩
    omega
  | cons x rest =>
    rcases h with ⟨⟨gap, _, hold, hnew⟩, hexact, _⟩
    have hold' := hexact.old_le
    have hnew' := hexact.new_le
    omega

/-- A group with the equal lines before it goes in front. -/
theorem cons {gap : Nat} {group : List Op} (hgap : s.Agree i j gap)
    (hgroup : Tiles s (i + gap) (j + gap) group i' j') (h : Describes s i' j' hunks) :
    Describes s i j ((Hunk.ofGroup s group).startingAt (i + gap) (j + gap) :: hunks) := by
  refine ⟨⟨gap, hgap, rfl, rfl⟩, hgroup.exact_startingAt h.le_size.1 h.le_size.2, ?_⟩
  rcases hgroup.end_eq with ⟨rfl, rfl⟩
  exact h

theorem complete (h : Describes s 0 0 hunks) : Complete s hunks where
  shown := h.shown
  ordered := h.ordered
  placed := by
    intro front x rest heq
    rw [h.placed front x rest heq]
    rfl
  patched := h.patched

end Describes

/-! ## The hunks of a script -/

/-- The lines where an operation says that it stands. -/
def Op.start (op : Op) : Nat × Nat :=
  (op.oldStart, op.newStart)

theorem Hunk.startingAt_ofGroup {group : List Op}
    (h : group.head?.map Op.start = some (i, j)) :
    (Hunk.ofGroup s group).startingAt i j = Hunk.ofGroup s group := by
  cases group with
  | nil => cases h
  | cons op group =>
    rcases Prod.mk.inj (Option.some.inj h) with ⟨rfl, rfl⟩
    rfl

/-- The first group begins where the script does. -/
theorem start_groupFrom {n : Nat} {group ops g : List Op} {gs : List (List Op)}
    (h : groupFrom n group ops = g :: gs) :
    g.head?.map Op.start = (group.reverse ++ ops).head?.map Op.start := by
  fun_induction groupFrom n group ops with
  | case1 => cases h
  | case2 => cases h
  | case3 group =>
    rw [List.append_nil]
    cases h
    rfl
  | case4 group old new length rest _ _ =>
    cases h
    rw [List.reverse_cons, List.head?_append, List.head?_append]
    cases group.reverse.head? <;> rfl
  | case5 group old new length rest _ ih =>
    rw [ih h, List.reverse_cons, List.append_assoc]
    rfl
  | case6 group op rest _ ih =>
    rw [ih h, List.reverse_cons, List.append_assoc]
    rfl

/-- The starts of the first hunk are right as they are if those of its first operation are. -/
theorem modifyHead_startingAt {n : Nat} {group ops : List Op}
    (h : (group.reverse ++ ops).head?.map Op.start = some (i, j)) :
    ((groupFrom n group ops).map (Hunk.ofGroup s)).modifyHead (Hunk.startingAt i j) =
      (groupFrom n group ops).map (Hunk.ofGroup s) := by
  cases hgroups : groupFrom n group ops with
  | nil => rfl
  | cons g gs =>
    have hstart := Hunk.startingAt_ofGroup (s := s) ((start_groupFrom hgroups).trans h)
    rw [List.map_cons, List.modifyHead_cons, hstart]

/-- The hunks of a script describe its changes, up to the starts of the first one. -/
theorem describes_groupFrom {n gap : Nat} {group ops : List Op} (hgap : s.Agree i j gap)
    (htiles : Tiles s (i + gap) (j + gap) (group.reverse ++ ops) i' j') (hend : s.SameFrom i' j') :
    Describes s i j (((groupFrom n group ops).map (Hunk.ofGroup s)).modifyHead
      (Hunk.startingAt (i + gap) (j + gap))) := by
  fun_induction groupFrom n group ops generalizing i j gap with
  | case1 =>
    rcases htiles with ⟨rfl, rfl⟩
    exact hend.prepend hgap
  | case2 =>
    rcases htiles with ⟨⟨rfl, rfl, hagree⟩, rfl, rfl⟩
    exact (hend.prepend hagree).prepend hgap
  | case3 group =>
    rw [List.append_nil] at htiles
    exact .cons hgap htiles hend
  | case4 group old new length rest hlong ih =>
    rcases tiles_append.1 htiles with ⟨a, b, hgroup, ⟨rfl, rfl, hagree⟩, hrest⟩
    have hbetween : s.Agree (old + n) (new + n) (length - n * 2) := (hagree.take (by omega)).drop
    have hlast : s.Agree (old + (length - n)) (new + (length - n)) n :=
      (hagree.take (by omega)).drop
    -- the next group begins with the last equal lines, behind those that no hunk shows
    have hstart (k : Nat) : k + n + (length - n * 2) = k + (length - n) := by omega
    have hnextTiles : Tiles s (old + n + (length - n * 2)) (new + n + (length - n * 2))
        (.equal (old + (length - n)) (new + (length - n)) n :: rest) i' j' := by
      rw [hstart, hstart]
      refine ⟨⟨rfl, rfl, hlast⟩, ?_⟩
      simp only [Op.oldLength, Op.newLength] at hrest ⊢
      rwa [Nat.add_assoc, Nat.add_assoc, Nat.sub_add_cancel (by omega)]
    have hnext := ih hbetween hnextTiles
    rw [hstart, hstart, modifyHead_startingAt rfl] at hnext
    refine .cons hgap ?_ hnext
    rw [List.reverse_cons]
    exact tiles_append.2 ⟨old, new, hgroup, tiles_singleton ⟨rfl, rfl, hagree.take (by omega)⟩⟩
  | case5 group old new length rest _ ih =>
    rw [List.reverse_cons, List.append_assoc] at ih
    exact ih hgap htiles
  | case6 group op rest _ ih =>
    rw [List.reverse_cons, List.append_assoc] at ih
    exact ih hgap htiles

/-- Without all but `n` of the equal lines at the front, a script tiles the rest. Of the starts of
its first operation, the smaller one is right. -/
theorem tiles_trimFront {ops : List Op} (n : Nat) (h : Tiles s 0 0 ops i' j') :
    ∃ gap, s.Agree 0 0 gap ∧ Tiles s gap gap (trimFront n ops) i' j' ∧
      ∀ op ∈ (trimFront n ops).head?, min op.oldStart op.newStart = gap := by
  have hnone : s.Agree 0 0 0 := fun t ht => absurd ht (Nat.not_lt_zero t)
  cases ops with
  | nil => exact ⟨0, hnone, h, by simp [trimFront]⟩
  | cons op rest =>
    cases op with
    | equal old new length =>
      rcases h with ⟨⟨rfl, rfl, hagree⟩, hrest⟩
      have hsplit : length - n + (length - (length - n)) = length := by omega
      have hkept : s.Agree (0 + (length - n)) (0 + (length - n)) (length - (length - n)) :=
        .drop (by rwa [hsplit])
      simp only [Op.oldLength, Op.newLength, Nat.zero_add] at hkept hrest
      refine ⟨length - n, hagree.take (Nat.sub_le ..), ?_,
        by simp [trimFront, Op.oldStart, Op.newStart]⟩
      simp only [trimFront, Nat.zero_add]
      refine ⟨⟨rfl, rfl, hkept⟩, ?_⟩
      simp only [Op.oldLength, Op.newLength]
      rwa [hsplit]
    | delete old length new =>
      cases h.1
      exact ⟨0, hnone, h, by simp [trimFront, Op.oldStart]⟩
    | insert old new length =>
      cases h.1
      exact ⟨0, hnone, h, by simp [trimFront, Op.newStart]⟩
    | replace old oldLength new newLength =>
      rcases h.1 with ⟨rfl, rfl⟩
      exact ⟨0, hnone, h, by simp [trimFront, Op.oldStart]⟩

theorem tiles_trimBack {ops : List Op} (n : Nat) (h : Tiles s i j ops i' j')
    (hend : s.SameFrom i' j') : ∃ a b, Tiles s i j (trimBack n ops) a b ∧ s.SameFrom a b := by
  fun_induction trimBack n ops generalizing i j with
  | case1 => exact ⟨i', j', h, hend⟩
  | case2 old new length =>
    rcases h with ⟨⟨rfl, rfl, hagree⟩, rfl, rfl⟩
    have hsplit : length - (length - n) + (length - n) = length := by omega
    have hcut : s.Agree (old + (length - (length - n))) (new + (length - (length - n)))
        (length - n) := .drop (by rwa [hsplit])
    refine ⟨_, _, tiles_singleton ⟨rfl, rfl, hagree.take (by omega)⟩, .prepend hcut ?_⟩
    simp only [Op.oldLength, Op.newLength] at hend ⊢
    rwa [Nat.add_assoc, Nat.add_assoc, hsplit]
  | case3 op rest _ ih =>
    rcases ih h.2 with ⟨a, b, hrest, hsame⟩
    exact ⟨a, b, ⟨h.1, hrest⟩, hsame⟩

theorem start_trimBack (n : Nat) (ops : List Op) :
    (trimBack n ops).head?.map Op.start = ops.head?.map Op.start := by
  fun_cases trimBack n ops <;> rfl

theorem Hunk.level_ofGroup {group : List Op} {op : Op}
    (h : group.head?.map Op.start = some op.start) :
    (Hunk.ofGroup s group).level =
      (Hunk.ofGroup s group).startingAt (min op.oldStart op.newStart)
        (min op.oldStart op.newStart) := by
  rw [← Hunk.startingAt_ofGroup h]
  rfl

theorem Hunk.level_eq_self {h : Hunk} (heq : h.oldStart = h.newStart) : h.level = h := by
  rcases h with ⟨start, oldLength, newStart, newLength, lines⟩
  cases heq
  rw [Hunk.level, min_self]

/-- The hunks of a script describe the whole change once the starts of the first one are equal. -/
theorem describes_groups {ops : List Op} (n : Nat) (h : Tiles s 0 0 ops s.old.size s.new.size) :
    Describes s 0 0 (((groups n ops).map (Hunk.ofGroup s)).modifyHead Hunk.level) := by
  have hall : s.SameFrom s.old.size s.new.size :=
    ⟨0, fun t ht => absurd ht (Nat.not_lt_zero t), rfl, rfl⟩
  rcases tiles_trimFront n h with ⟨gap, hgap, hfront, hmin⟩
  rcases tiles_trimBack n hfront hall with ⟨a, b, htiles, hsame⟩
  rw [← Nat.zero_add gap] at htiles
  have hdescribes : Describes s 0 0 (((groups n ops).map (Hunk.ofGroup s)).modifyHead
      (Hunk.startingAt (0 + gap) (0 + gap))) := describes_groupFrom hgap htiles hsame
  rw [Nat.zero_add] at hdescribes
  -- only the first hunk is touched, and it begins with the first operation
  cases hgroups : groups n ops with
  | nil =>
    rw [hgroups] at hdescribes
    exact hdescribes
  | cons g gs =>
    have hstart := (start_groupFrom hgroups).trans (start_trimBack n (trimFront n ops))
    cases hops : trimFront n ops with
    | nil => simp [groups, hops, trimBack, groupFrom] at hgroups
    | cons op rest =>
      rw [hops] at hstart hmin
      rw [hgroups, List.map_cons, List.modifyHead_cons] at hdescribes
      rwa [List.map_cons, List.modifyHead_cons, Hunk.level_ofGroup hstart, hmin op rfl]

theorem Sides.complete_level_hunks (s : Sides) : Complete s (s.hunks.modifyHead Hunk.level) :=
  (describes_groups 3 s.tiles_ops).complete

/-- The hunks are complete as they stand if and only if the first one starts alike on both sides. -/
theorem Sides.complete_hunks_iff (s : Sides) :
    Complete s s.hunks ↔ ∀ h ∈ s.hunks.head?, h.oldStart = h.newStart := by
  constructor
  · intro hcomplete h hh
    rcases List.head?_eq_some_iff.1 hh with ⟨rest, hrest⟩
    have hexact := hcomplete.shown h (by simp [hrest])
    have hold := hexact.old_le
    have hnew := hexact.new_le
    have hlength := congrArg List.length (hcomplete.placed [] h rest hrest)
    simp only [patchFrom, List.drop_zero, List.length_take, Array.length_toList] at hlength
    omega
  · intro hstart
    have hlevel := s.complete_level_hunks
    cases hhunks : s.hunks with
    | nil =>
      rw [hhunks] at hlevel
      exact hlevel
    | cons h rest =>
      rw [hhunks] at hlevel hstart
      rwa [List.modifyHead_cons, Hunk.level_eq_self (hstart h rfl)] at hlevel

/-! ## The printed lines -/

theorem onOneLine_of_mem_terminated {text : String} {line : Mark × String}
    (h : line.2 ∈ Line.terminated text) : OnOneLine line := by
  rcases List.mem_map.1 h with ⟨l, hl, heq⟩
  rcases Line.newline_terminatedFrom List.not_mem_nil l hl with ⟨content, hfree, rfl | rfl⟩
  · refine ⟨line.2, by rwa [← heq, String.toList_ofList], .inl rfl, ?_⟩
    have hlast : line.2.toList.getLast? ≠ some '\n' := by
      rw [← heq, String.toList_ofList]
      exact fun hlast => hfree (List.mem_of_getLast? hlast)
    rw [showLine, if_neg hlast]
  · have hend : line.2 = String.ofList content ++ "\n" := by
      rw [← heq, String.ofList_append]
    refine ⟨String.ofList content, by rwa [String.toList_ofList], .inr hend, ?_⟩
    rw [showLine, if_pos (by simp [hend]), hend, String.append_assoc]

theorem Op.mem_lines {op : Op} {line : Mark × String} (h : line ∈ op.lines s) :
    line.2 ∈ s.old.toList ∨ line.2 ∈ s.new.toList := by
  have hfrom {lines : Array String} {start length : Nat} {text : String}
      (htext : text ∈ linesFrom lines start length) : text ∈ lines.toList :=
    List.mem_of_mem_drop (List.mem_of_mem_take htext)
  cases op with
  | equal =>
    rcases List.mem_map.1 h with ⟨text, htext, rfl⟩
    exact .inl (hfrom htext)
  | delete =>
    rcases List.mem_map.1 h with ⟨text, htext, rfl⟩
    exact .inl (hfrom htext)
  | insert =>
    rcases List.mem_map.1 h with ⟨text, htext, rfl⟩
    exact .inr (hfrom htext)
  | replace =>
    rcases List.mem_append.1 h with h | h
    · rcases List.mem_map.1 h with ⟨text, htext, rfl⟩
      exact .inl (hfrom htext)
    · rcases List.mem_map.1 h with ⟨text, htext, rfl⟩
      exact .inr (hfrom htext)

/-- All lines of a hunk are lines of one of the texts. -/
theorem Sides.mem_hunks_lines {h : Hunk} (hh : h ∈ s.hunks) {line : Mark × String}
    (hline : line ∈ h.lines) : line.2 ∈ s.old.toList ∨ line.2 ∈ s.new.toList := by
  rcases List.mem_map.1 hh with ⟨group, _, rfl⟩
  rcases List.mem_flatMap.1 hline with ⟨op, _, hop⟩
  exact Op.mem_lines hop

end

/-- A diff prints every line of its hunks on one line. The hunks are complete once the two starts of
the first one are made equal, and then make the new text out of the old one. As printed they are
complete if and only if these starts are equal already. -/
theorem unified_complete_iff (before after path : String) :
    unified before after path =
        "--- " ++ path ++ "\n+++ " ++ path ++ " (fixed)\n" ++
          "\n".intercalate ((Sides.ofTexts before after).hunks.map Hunk.show) ∧
      (∀ h ∈ (Sides.ofTexts before after).hunks, ∀ line ∈ h.lines, OnOneLine line) ∧
      Complete (Sides.ofTexts before after)
        ((Sides.ofTexts before after).hunks.modifyHead Hunk.level) ∧
      String.join (patchFrom (Line.terminated before) 0
        ((Sides.ofTexts before after).hunks.modifyHead Hunk.level)) = after ∧
      (Complete (Sides.ofTexts before after) (Sides.ofTexts before after).hunks ↔
        ∀ h ∈ (Sides.ofTexts before after).hunks.head?, h.oldStart = h.newStart) := by
  have hlevel := (Sides.ofTexts before after).complete_level_hunks
  refine ⟨?_, ?_, hlevel, ?_, Sides.complete_hunks_iff _⟩
  · rw [unified]
  · intro h hh line hline
    rcases Sides.mem_hunks_lines hh hline with hmem | hmem
    · exact onOneLine_of_mem_terminated hmem
    · exact onOneLine_of_mem_terminated hmem
  · have hpatched := congrArg String.join hlevel.patched
    rwa [Sides.ofTexts, List.toList_toArray, List.toList_toArray, Line.join_terminated] at hpatched

def numbersBefore : String := "u\n1\n2\n3\n4\n5\n6\n7\nv\n"

def numbersAfter : String := "1\n2\n3\n4\n5\n6\n7\nw\nv"

/-- Two hunks, of which the second is moved by a line, and a last line that lost its newline. -/
theorem unified_complete_numbers :
    (Sides.ofTexts numbersBefore numbersAfter).hunks.map
        (fun h => (h.oldStart, h.oldLength, h.newStart, h.newLength)) =
        [(0, 4, 0, 3), (5, 4, 4, 5)] ∧
      Complete (Sides.ofTexts numbersBefore numbersAfter)
        (Sides.ofTexts numbersBefore numbersAfter).hunks := by
  have hheaders : (Sides.ofTexts numbersBefore numbersAfter).hunks.map
      (fun h => (h.oldStart, h.oldLength, h.newStart, h.newLength)) =
      [(0, 4, 0, 3), (5, 4, 4, 5)] := by cbv
  refine ⟨hheaders, (unified_complete_iff _ _ "x.go").2.2.2.2.2 ?_⟩
  intro h hh
  have hfirst := congrArg List.head? hheaders
  rw [List.head?_map, Option.mem_def.1 hh, Option.map_some, List.head?_cons, Option.some_inj,
    Prod.mk.injEq, Prod.mk.injEq, Prod.mk.injEq] at hfirst
  rw [hfirst.1, hfirst.2.2.1]

/-- A header that names the second and third line of a text with two lines: the change has been
moved, but the place of the deletion among the new lines is still the old one. -/
theorem unified_header_out_of_place :
    unified "b\na\n" "a\na\n" "x.go" =
        "--- x.go\n+++ x.go (fixed)\n@@ -1,2 +2,2 @@\n-b\n a\n+a\n" ∧
      ∃ h ∈ (Sides.ofTexts "b\na\n" "a\na\n").hunks, newPart h.lines = ["a\n", "a\n"] ∧
        linesFrom (Sides.ofTexts "b\na\n" "a\na\n").new h.newStart h.newLength = ["a\n"] := by
  have hhunks : (Sides.ofTexts "b\na\n" "a\na\n").hunks =
      [⟨0, 2, 1, 2, [(.removed, "b\n"), (.kept, "a\n"), (.added, "a\n")]⟩] := by cbv
  rw [hhunks]
  exact ⟨by cbv, _, .head _, by decide, by cbv⟩

end Diff

end StructTags
