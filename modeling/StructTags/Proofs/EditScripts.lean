import StructTags.Proofs.SplitPoint

/-!
# Edit scripts tile both texts

A script is of use if its operations, one behind the other, go through all old lines and all new
lines, and pair only lines that are equal. `Tiles` says so. It does not look at the place of an
empty range: where a deletion stands among the new lines, and an insertion among the old ones, is
not kept up to date when changes are moved later.

The script that is found for a window tiles it (`tiledBy_script`) and replaces nothing
(`plain_script`), whatever number of splits it may make.
-/

namespace StructTags

namespace Diff

/-! ## Tiling -/

/-- The `n` lines from old line `i` on are the `n` lines from new line `j` on. -/
def Sides.Agree (s : Sides) (i j n : Nat) : Prop :=
  ∀ t < n, s.agree (i + t) (j + t) = true

/-- An operation stands at old line `i` and new line `j`. -/
def Op.At (s : Sides) (i j : Nat) : Op → Prop
  | .equal old new length => old = i ∧ new = j ∧ s.Agree i j length
  | .delete old _ _ => old = i
  | .insert _ new _ => new = j
  | .replace old _ new _ => old = i ∧ new = j

/-- The operations lead from the lines `i` and `j` to the lines `i'` and `j'`. -/
def Tiles (s : Sides) : Nat → Nat → List Op → Nat → Nat → Prop
  | i, j, [], i', j' => i = i' ∧ j = j'
  | i, j, op :: ops, i', j' => op.At s i j ∧ Tiles s (i + op.oldLength) (j + op.newLength) ops i' j'

/-- Operations of a script in which no changes have been joined yet. -/
def Op.Plain : Op → Prop
  | .replace .. => False
  | _ => True

section

variable {s : Sides} {i j i' j' : Nat}

theorem Sides.Agree.append {m n : Nat} (hm : s.Agree i j m) (hn : s.Agree (i + m) (j + m) n) :
    s.Agree i j (m + n) := by
  intro t ht
  by_cases hlt : t < m
  · exact hm t hlt
  · have hrest := hn (t - m) (by omega)
    rwa [show i + m + (t - m) = i + t by omega, show j + m + (t - m) = j + t by omega] at hrest

theorem Sides.Agree.take {m n : Nat} (h : s.Agree i j n) (hle : m ≤ n) : s.Agree i j m :=
  fun t ht => h t (by omega)

theorem Sides.Agree.drop {m n : Nat} (h : s.Agree i j (m + n)) : s.Agree (i + m) (j + m) n := by
  intro t ht
  rw [Nat.add_assoc, Nat.add_assoc]
  exact h (m + t) (by omega)

theorem tiles_append {xs ys : List Op} :
    Tiles s i j (xs ++ ys) i' j' ↔ ∃ a b, Tiles s i j xs a b ∧ Tiles s a b ys i' j' := by
  induction xs generalizing i j with
  | nil => simp [Tiles]
  | cons op xs ih =>
    simp only [List.cons_append, Tiles, ih]
    constructor
    · rintro ⟨hat, a, b, hxs, hys⟩
      exact ⟨a, b, ⟨hat, hxs⟩, hys⟩
    · rintro ⟨a, b, ⟨hat, hxs⟩, hys⟩
      exact ⟨hat, a, b, hxs, hys⟩

theorem tiles_singleton {op : Op} (hat : op.At s i j) :
    Tiles s i j [op] (i + op.oldLength) (j + op.newLength) :=
  ⟨hat, rfl, rfl⟩

/-! ## The script that is found -/

theorem agree_agreeAhead (i j n : Nat) : s.Agree i j (s.agreeAhead i j n) := by
  induction n generalizing i j with
  | zero => exact fun t ht => absurd ht (Nat.not_lt_zero t)
  | succ n ih =>
    rw [Sides.agreeAhead]
    split
    · next h =>
      rw [Nat.add_comm]
      exact .append (fun t ht => by simpa [Nat.lt_one_iff.1 ht] using h) (ih _ _)
    · exact fun t ht => absurd ht (Nat.not_lt_zero t)

theorem agree_agreeBehind (i j n : Nat) :
    s.agreeBehind i j n ≤ min n (min i j) ∧
      s.Agree (i - s.agreeBehind i j n) (j - s.agreeBehind i j n) (s.agreeBehind i j n) := by
  induction n generalizing i j with
  | zero => exact ⟨Nat.zero_le _, fun t ht => absurd ht (Nat.not_lt_zero t)⟩
  | succ n ih =>
    rw [Sides.agreeBehind]
    split
    · next h =>
      simp only [Bool.and_eq_true, decide_eq_true_eq] at h
      obtain ⟨hle, hagree⟩ := ih (i - 1) (j - 1)
      refine ⟨by omega, ?_⟩
      rw [show i - (s.agreeBehind (i - 1) (j - 1) n + 1) =
          i - 1 - s.agreeBehind (i - 1) (j - 1) n by omega,
        show j - (s.agreeBehind (i - 1) (j - 1) n + 1) =
          j - 1 - s.agreeBehind (i - 1) (j - 1) n by omega]
      refine hagree.append ?_
      intro t ht
      rw [Nat.lt_one_iff.1 ht, Nat.sub_add_cancel (by omega), Nat.sub_add_cancel (by omega)]
      exact h.2
    · exact ⟨Nat.zero_le _, fun t ht => absurd ht (Nat.not_lt_zero t)⟩

/-- A window whose ranges do not run backward. -/
structure Window.Proper (w : Window) : Prop where
  old_le : w.oldStart ≤ w.oldStop
  new_le : w.newStart ≤ w.newStop

/-- The operations lead through a window. -/
def Window.TiledBy (w : Window) (s : Sides) (ops : List Op) : Prop :=
  Tiles s w.oldStart w.newStart ops w.oldStop w.newStop

/-- The window without the equal lines at its front. -/
def Sides.dropFront (s : Sides) (w : Window) : Window :=
  { w with oldStart := w.oldStart + s.agreeFront w, newStart := w.newStart + s.agreeFront w }

/-- The window without the equal lines at its back. -/
def Sides.dropBack (s : Sides) (w : Window) : Window :=
  { w with oldStop := w.oldStop - s.agreeBack w, newStop := w.newStop - s.agreeBack w }

/-- All old lines of a window removed, and all new ones put in their place. -/
def swapped (w : Window) : List Op :=
  [.delete w.oldStart w.oldLength w.newStart, .insert w.oldStart w.newStart w.newLength]

/-- The operations of a window with old lines and new lines: it is split, or all is replaced. -/
def halves (s : Sides) : Nat → Window → List Op
  | 0, w => swapped w
  | fuel + 1, w =>
    match splitPoint? s w with
    | none => swapped w
    | some (i, j) =>
      script s fuel { w with oldStop := i, newStop := j } ++
        script s fuel { w with oldStart := i, newStart := j }

/-- The operations of a window without equal lines at its ends. -/
def changes (s : Sides) (fuel : Nat) (w : Window) : List Op :=
  if w.oldLength = 0 && w.newLength = 0 then []
  else if w.newLength = 0 then [.delete w.oldStart w.oldLength w.newStart]
  else if w.oldLength = 0 then [.insert w.oldStart w.newStart w.newLength]
  else halves s fuel w

/-- Equal lines as an operation, unless there are none. -/
def equalOp (i j n : Nat) : List Op :=
  if n = 0 then [] else [.equal i j n]

/-- A script takes off the equal lines at the ends of a window, and then treats what is left. -/
theorem script_eq (fuel : Nat) (w : Window) :
    script s fuel w =
      equalOp w.oldStart w.newStart (s.agreeFront w) ++
        changes s fuel (s.dropBack (s.dropFront w)) ++
        equalOp (s.dropBack (s.dropFront w)).oldStop (s.dropBack (s.dropFront w)).newStop
          (s.agreeBack (s.dropFront w)) := by
  have hfront (k : Nat) : k + s.agreeFront w - s.agreeFront w = k := Nat.add_sub_cancel ..
  rw [script]
  simp only [hfront]
  cases fuel with
  | zero => rfl
  | succ fuel => rfl

theorem tiles_equalOp {n : Nat} (h : s.Agree i j n) :
    Tiles s i j (equalOp i j n) (i + n) (j + n) := by
  unfold equalOp
  split
  · next hn => exact ⟨by omega, by omega⟩
  · exact tiles_singleton ⟨rfl, rfl, h⟩

theorem tiledBy_swapped {w : Window} (hw : w.Proper) : w.TiledBy s (swapped w) := by
  have hold := hw.old_le
  have hnew := hw.new_le
  refine ⟨rfl, rfl, ?_, ?_⟩
  · simp only [Op.oldLength, Window.oldLength]
    omega
  · simp only [Op.newLength, Window.newLength]
    omega

/-- What is left of a window is tiled if windows that may be split less often are. -/
theorem tiledBy_changes {fuel : Nat}
    (ih : ∀ less < fuel, ∀ {w : Window}, w.Proper → w.TiledBy s (script s less w)) {w : Window}
    (hw : w.Proper) : w.TiledBy s (changes s fuel w) := by
  have hold := hw.old_le
  have hnew := hw.new_le
  unfold changes
  split
  · next h =>
    simp only [Bool.and_eq_true, Window.oldLength, Window.newLength] at h
    exact ⟨by grind, by grind⟩
  split
  · next h =>
    rw [Window.newLength] at h
    refine ⟨rfl, ?_, ?_⟩
    · simp only [Op.oldLength, Window.oldLength]
      omega
    · simp only [Op.newLength]
      omega
  split
  · next h =>
    rw [Window.oldLength] at h
    refine ⟨rfl, ?_, ?_⟩
    · simp only [Op.oldLength]
      omega
    · simp only [Op.newLength, Window.newLength]
      omega
  unfold halves
  split
  · exact tiledBy_swapped hw
  · split
    · exact tiledBy_swapped hw
    · next fuel _ i j hsplit =>
      rcases splitPoint?_inside hsplit with ⟨a, b, hpoint, ha, hb⟩
      rcases Prod.mk.inj hpoint with ⟨rfl, rfl⟩
      rw [Window.oldLength] at ha
      rw [Window.newLength] at hb
      have hfirst : Window.Proper ⟨w.oldStart, w.oldStart + a, w.newStart, w.newStart + b⟩ :=
        ⟨Nat.le_add_right _ _, Nat.le_add_right _ _⟩
      have hsecond : Window.Proper ⟨w.oldStart + a, w.oldStop, w.newStart + b, w.newStop⟩ :=
        ⟨by simp only; omega, by simp only; omega⟩
      exact tiles_append.2 ⟨_, _, ih fuel (Nat.lt_succ_self _) hfirst,
        ih fuel (Nat.lt_succ_self _) hsecond⟩

theorem proper_dropFront {w : Window} (hw : w.Proper) : (s.dropFront w).Proper := by
  have hle : s.agreeFront w ≤ min w.oldLength w.newLength := agreeAhead_le ..
  rw [Window.oldLength, Window.newLength] at hle
  have hold := hw.old_le
  have hnew := hw.new_le
  constructor <;> simp only [Sides.dropFront] <;> omega

/-- The equal lines at the back of a window fit into it. -/
theorem agreeBack_le {w : Window} (hw : w.Proper) :
    w.oldStart + s.agreeBack w ≤ w.oldStop ∧ w.newStart + s.agreeBack w ≤ w.newStop := by
  rcases agree_agreeBehind (s := s) w.oldStop w.newStop (min w.oldLength w.newLength) with ⟨hle, _⟩
  change s.agreeBack w ≤ _ at hle
  rw [Window.oldLength, Window.newLength] at hle
  have hold := hw.old_le
  have hnew := hw.new_le
  omega

theorem proper_dropBack {w : Window} (hw : w.Proper) : (s.dropBack w).Proper := by
  rcases agreeBack_le (s := s) hw with ⟨hold, hnew⟩
  constructor <;> simp only [Sides.dropBack] <;> omega

theorem tiles_back {w : Window} (hw : w.Proper) :
    Tiles s (s.dropBack w).oldStop (s.dropBack w).newStop
      (equalOp (s.dropBack w).oldStop (s.dropBack w).newStop (s.agreeBack w))
      w.oldStop w.newStop := by
  rcases agreeBack_le (s := s) hw with ⟨hold, hnew⟩
  rcases agree_agreeBehind (s := s) w.oldStop w.newStop (min w.oldLength w.newLength) with ⟨_, h⟩
  have htiles := tiles_equalOp h
  rwa [show s.agreeBehind w.oldStop w.newStop _ = s.agreeBack w from rfl,
    Nat.sub_add_cancel (by omega), Nat.sub_add_cancel (by omega)] at htiles

/-- Every window is tiled by its script, however often it may be split. -/
theorem tiledBy_script (fuel : Nat) {w : Window} (hw : w.Proper) :
    w.TiledBy s (script s fuel w) := by
  induction fuel using Nat.strong_induction_on generalizing w with
  | _ fuel ih =>
    have hfront := proper_dropFront (s := s) hw
    have hinner := proper_dropBack (s := s) hfront
    have hequal : Tiles s w.oldStart w.newStart _ (s.dropFront w).oldStart _ :=
      tiles_equalOp (agree_agreeAhead w.oldStart w.newStart (min w.oldLength w.newLength))
    rw [Window.TiledBy, script_eq]
    exact tiles_append.2 ⟨_, _, tiles_append.2 ⟨_, _, hequal, tiledBy_changes ih hinner⟩,
      tiles_back hfront⟩

theorem plain_equalOp (i j n : Nat) : ∀ op ∈ equalOp i j n, op.Plain := by
  unfold equalOp
  split <;> simp [Op.Plain]

/-- A script holds no replacements. -/
theorem plain_script (fuel : Nat) (w : Window) : ∀ op ∈ script s fuel w, op.Plain := by
  induction fuel using Nat.strong_induction_on generalizing w with
  | _ fuel ih =>
    have hswapped (w : Window) : ∀ op ∈ swapped w, op.Plain := by simp [swapped, Op.Plain]
    have hhalves : ∀ w, ∀ op ∈ halves s fuel w, op.Plain := by
      intro w
      fun_cases halves s fuel w with
      | case1 => exact hswapped w
      | case2 => exact hswapped w
      | case3 fuel =>
        intro op hop
        rcases List.mem_append.1 hop with hop | hop
        · exact ih fuel (Nat.lt_succ_self _) _ op hop
        · exact ih fuel (Nat.lt_succ_self _) _ op hop
    have hchanges : ∀ w, ∀ op ∈ changes s fuel w, op.Plain := by
      intro w
      fun_cases changes s fuel w with
      | case1 => simp
      | case2 => simp [Op.Plain]
      | case3 => simp [Op.Plain]
      | case4 => exact hhalves w
    intro op hop
    rw [script_eq] at hop
    simp only [List.mem_append] at hop
    rcases hop with (hop | hop) | hop
    · exact plain_equalOp _ _ _ op hop
    · exact hchanges _ op hop
    · exact plain_equalOp _ _ _ op hop

end

end Diff

end StructTags
