import Mathlib
import StructTags.Diff.Script

/-!
# Where a window is split

The search for a split point keeps two frontiers, which say for every diagonal how far the paths
with a given number of changes have come. A path may run out of the window: past its last old line
or past its last new line. A point on such a path would be no place to split at.

`Frontiers` is what holds between two rounds, and `Frontiers.next` carries it from one round to the
next. Its fields `right` and `below` say that a path is out of the window only if one on the next
diagonal but one has come to the edge, and `free` that no path that met one from the other end went
unnoticed. Together they put every point that is found inside the window (`splitPoint?_inside`).
-/

namespace StructTags

namespace Diff

/-! ## Frontiers as functions -/

namespace Frontier

/-- A frontier has room for the diagonals from `-n` to `n`. -/
structure Spans (f : Frontier) (n : Nat) : Prop where
  offset_eq : f.offset = n
  size_eq : f.reached.size = 2 * n + 1

theorem spans_empty (n : Nat) : (empty n).Spans n :=
  ⟨rfl, by simp [empty]⟩

theorem get_empty (n : Nat) (k : Int) : (empty n).get k = 0 := by
  simp only [get, empty, Array.getD_eq_getD_getElem?, Array.getElem?_replicate]
  split
  · rfl
  · rfl

variable {f : Frontier} {n : Nat}

theorem Spans.set (h : f.Spans n) (k : Int) (x : Nat) : (f.set k x).Spans n :=
  ⟨h.offset_eq, by simp [Frontier.set, h.size_eq]⟩

theorem Spans.get_set (h : f.Spans n) {k κ : Int} (hk : k.natAbs ≤ n) (hκ : κ.natAbs ≤ n)
    (x : Nat) : (f.set k x).get κ = if κ = k then x else f.get κ := by
  have hindex : (κ + n).toNat = (k + n).toNat ↔ κ = k := by omega
  have hlt : (k + n).toNat < f.reached.size := by
    rw [h.size_eq]
    omega
  simp only [get, Frontier.set, h.offset_eq, Array.getD_eq_getD_getElem?,
    Array.getElem?_setIfInBounds]
  by_cases heq : κ = k
  · simp [heq, hlt]
  · rw [if_neg fun hcontra => heq (hindex.1 hcontra.symm), if_neg heq]

/-- A path enters a diagonal from the one beside it that has come further. -/
theorem enter_cases (f : Frontier) (d k : Int) :
    f.enter d k = f.get (k + 1) ∧ (k = -d ∨ k ≠ d ∧ f.get (k - 1) < f.get (k + 1)) ∨
      f.enter d k = f.get (k - 1) + 1 ∧ k ≠ -d ∧ (k = d ∨ f.get (k + 1) ≤ f.get (k - 1)) := by
  unfold enter
  split
  · next h =>
    simp only [Bool.or_eq_true, Bool.and_eq_true, decide_eq_true_eq] at h
    exact .inl ⟨rfl, h⟩
  · next h =>
    simp only [Bool.or_eq_true, Bool.and_eq_true, decide_eq_true_eq, not_or, not_and, not_lt] at h
    refine .inr ⟨rfl, h.1, ?_⟩
    by_cases hk : k = d
    · exact .inl hk
    · exact .inr (h.2 hk)

theorem le_enter_above (f : Frontier) {d k : Int} (hk : k ≠ d) :
    f.get (k + 1) ≤ f.enter d k := by
  rcases f.enter_cases d k with ⟨heq, -⟩ | ⟨heq, -, hfrom⟩
  · omega
  · have hle := hfrom.resolve_left hk
    omega

theorem le_enter_under (f : Frontier) {d k : Int} (hk : k ≠ -d) :
    f.get (k - 1) + 1 ≤ f.enter d k := by
  rcases f.enter_cases d k with ⟨heq, hfrom⟩ | ⟨heq, -, -⟩
  · have hlt := (hfrom.resolve_left hk).2
    omega
  · omega

end Frontier

/-! ## The diagonals of a round -/

/-- The diagonals that paths with `d` changes can end on. -/
def OnDiagonal (d : Nat) (k : Int) : Prop :=
  -d ≤ k ∧ k ≤ d ∧ (k + d) % 2 = 0

theorem mem_diagonals_iff {d : Nat} {k : Int} : k ∈ diagonals d ↔ OnDiagonal d k := by
  simp only [diagonals, OnDiagonal, List.mem_map, List.mem_range]
  constructor
  · rintro ⟨i, hi, rfl⟩
    omega
  · rintro ⟨hlow, hhigh, hparity⟩
    exact ⟨((d - k) / 2).toNat, by omega, by omega⟩

theorem agreeAhead_le (s : Sides) (i j n : Nat) : s.agreeAhead i j n ≤ n := by
  induction n generalizing i j with
  | zero => exact Nat.le_refl 0
  | succ n ih =>
    rw [Sides.agreeAhead]
    split
    · exact Nat.succ_le_succ (ih _ _)
    · exact Nat.zero_le _

section Search

variable {s : Sides} {w : Window} {d : Nat}

/-- The difference of the lengths, which is the diagonal that a window ends on. -/
abbrev Window.delta (w : Window) : Int := (w.oldLength : Int) - w.newLength

theorem Window.delta_eq (w : Window) : w.delta = (w.oldLength : Int) - w.newLength := by
  rfl

/-- Two paths on a diagonal are looked at in round `d` of the forward search. -/
def Meeting (w : Window) (d : Nat) (k : Int) : Prop :=
  w.delta % 2 ≠ 0 ∧ (k - w.delta).natAbs + 1 ≤ d

/-- How far a path has come on diagonal `k` that entered it at `entered`: behind its last change
there may be equal lines, which do not lead out of the window. If it met a path from the other end,
the search would be over. -/
structure Came (w : Window) (d : Nat) (backward : Frontier) (k : Int) (entered x : Nat) :
    Prop where
  entered_le : entered ≤ x
  inside : x = entered ∨ x ≤ w.oldLength ∧ (x : Int) - k ≤ w.newLength
  unmet : Meeting w d k → x + backward.get (w.delta - k) < w.oldLength

theorem stepForward_cases (s : Sides) (w : Window) (d : Nat) (forward backward : Frontier)
    (k : Int) :
    stepForward s w d forward backward k = .error (w.oldStart + forward.enter d k,
        w.newStart + ((forward.enter d k : Int) - k).toNat) ∧ Meeting w d k ∨
      ∃ x, stepForward s w d forward backward k = .ok (forward.set k x, backward) ∧
        Came w d backward k (forward.enter d k) x := by
  unfold stepForward
  extract_lets n m delta x₀ y₀ x
  have hrun : x = x₀ ∨ x ≤ n ∧ (x : Int) - k ≤ m := by
    by_cases hin : x₀ < n ∧ y₀ < m
    · have hle := agreeAhead_le s (w.oldStart + x₀) (w.newStart + y₀) (min (n - x₀) (m - y₀))
      simp only [x, hin, decide_true, Bool.and_self, if_true]
      omega
    · left
      simp only [x, ← Bool.decide_and, hin, decide_false]
      rfl
  have hle : x₀ ≤ x := Nat.le_add_right _ _
  split
  · next h =>
    simp only [Bool.and_eq_true, decide_eq_true_eq] at h
    exact .inl ⟨rfl, h.1⟩
  · next h =>
    simp only [Bool.and_eq_true, decide_eq_true_eq, ge_iff_le, not_and, not_le] at h
    exact .inr ⟨x, rfl, hle, hrun, fun hmeet => h hmeet⟩

/-- A step of the backward search finds a point of the window, or goes on further than the path it
goes on from. -/
theorem stepBackward_cases (s : Sides) (w : Window) (d : Nat) (forward backward : Frontier)
    (k : Int) :
    (∃ i j, stepBackward s w d forward backward k = .error (w.oldStart + i, w.newStart + j) ∧
        i ≤ w.oldLength ∧ j ≤ w.newLength) ∨
      ∃ x, stepBackward s w d forward backward k = .ok (forward, backward.set k x) ∧
        backward.enter d k ≤ x := by
  unfold stepBackward
  extract_lets n m delta x₀ y₀ run x y
  split
  · exact .inl ⟨n - x, m - y, rfl, Nat.sub_le _ _, Nat.sub_le _ _⟩
  · exact .inr ⟨x, rfl, Nat.le_add_right _ _⟩

/-! ## A round -/

/-- On the diagonals of the other parity, which a round only reads, two frontiers are equal. -/
def SameBeside (room d : Nat) (f f' : Frontier) : Prop :=
  ∀ k : Int, k.natAbs ≤ room → (k + d) % 2 ≠ 0 → f.get k = f'.get k

variable {room : Nat} {forward forward' backward backward' : Frontier}

theorem SameBeside.enter_eq (h : SameBeside room d forward forward') (hroom : d < room) {k : Int}
    (hk : OnDiagonal d k) : forward.enter d k = forward'.enter d k := by
  obtain ⟨hlow, hhigh, hparity⟩ := hk
  unfold Frontier.enter
  rw [h (k + 1) (by omega) (by omega), h (k - 1) (by omega) (by omega)]

theorem Frontier.Spans.get_set_diagonal (h : forward.Spans room) (hroom : d < room) {k κ : Int}
    (hk : OnDiagonal d k) (hκ : OnDiagonal d κ) {x : Nat} :
    (forward.set k x).get κ = if κ = k then x else forward.get κ := by
  obtain ⟨hlow, hhigh, -⟩ := hk
  obtain ⟨hlow', hhigh', -⟩ := hκ
  exact h.get_set (by omega) (by omega) x

/-- One more diagonal has what the treated ones have, if the new entry has it. -/
theorem Frontier.Spans.forall_set {P : Int → Nat → Prop} {done : List Int} {k : Int} {x : Nat}
    (h : forward.Spans room) (hroom : d < room) (hk : OnDiagonal d k) (hx : P k x)
    (hdone : ∀ κ ∈ done, OnDiagonal d κ ∧ P κ (forward.get κ)) :
    ∀ κ ∈ done ++ [k], OnDiagonal d κ ∧ P κ ((forward.set k x).get κ) := by
  intro κ hκ
  by_cases heq : κ = k
  · rw [heq, h.get_set_diagonal hroom hk hk, if_pos rfl]
    exact ⟨hk, hx⟩
  · have hold := hdone κ (by simpa [heq] using hκ)
    rw [h.get_set_diagonal hroom hk hold.1, if_neg heq]
    exact hold

theorem SameBeside.set (h : SameBeside room d forward forward') (hspans : forward.Spans room)
    (hroom : d < room) {k : Int} (hk : OnDiagonal d k) (x : Nat) :
    SameBeside room d (forward.set k x) forward' := by
  obtain ⟨hlow, hhigh, hparity⟩ := hk
  intro κ hκ hother
  rw [hspans.get_set (by omega) hκ, if_neg (by rintro rfl; exact hother hparity), h κ hκ hother]

/-- The forward half of a round: it ends where two paths meet, or all its diagonals have been
treated. `start` is the frontier at the beginning of the round. -/
theorem forward_pass {start : Frontier} (hroom : d < room) {ks done : List Int}
    (hks : ∀ k ∈ ks, OnDiagonal d k) (hspans : forward.Spans room)
    (hsame : SameBeside room d forward start)
    (hdone : ∀ k ∈ done, OnDiagonal d k ∧ Came w d backward k (start.enter d k) (forward.get k)) :
    (∃ k, OnDiagonal d k ∧ Meeting w d k ∧
        ks.foldlM (fun x k => stepForward s w d x.1 x.2 k) (forward, backward) =
          .error (w.oldStart + start.enter d k,
            w.newStart + ((start.enter d k : Int) - k).toNat)) ∨
      ∃ forward', ks.foldlM (fun x k => stepForward s w d x.1 x.2 k) (forward, backward) =
          .ok (forward', backward) ∧ forward'.Spans room ∧
        ∀ k ∈ done ++ ks, Came w d backward k (start.enter d k) (forward'.get k) := by
  induction ks generalizing forward done with
  | nil => exact .inr ⟨forward, rfl, hspans, fun k hk => (hdone k (by simpa using hk)).2⟩
  | cons k ks ih =>
    obtain ⟨hk, hks⟩ := List.forall_mem_cons.1 hks
    have henter := hsame.enter_eq hroom hk
    rw [List.foldlM_cons]
    rcases stepForward_cases s w d forward backward k with ⟨hstep, hmeet⟩ | ⟨x, hstep, hcame⟩
    · rw [hstep, henter]
      exact .inl ⟨k, hk, hmeet, rfl⟩
    · rw [hstep]
      rw [henter] at hcame
      have hrest := ih hks (hspans.set k x) (hsame.set hspans hroom hk x)
        (hspans.forall_set hroom hk hcame hdone)
      rw [List.append_assoc] at hrest
      exact hrest

/-- The backward half of a round finds a point of the window or treats all its diagonals. -/
theorem backward_pass {start : Frontier} (hroom : d < room) {ks done : List Int}
    (hks : ∀ k ∈ ks, OnDiagonal d k) (hspans : backward.Spans room)
    (hsame : SameBeside room d backward start)
    (hdone : ∀ k ∈ done, OnDiagonal d k ∧ start.enter d k ≤ backward.get k) :
    (∃ i j, ks.foldlM (fun x k => stepBackward s w d x.1 x.2 k) (forward, backward) =
          .error (w.oldStart + i, w.newStart + j) ∧ i ≤ w.oldLength ∧ j ≤ w.newLength) ∨
      ∃ backward', ks.foldlM (fun x k => stepBackward s w d x.1 x.2 k) (forward, backward) =
          .ok (forward, backward') ∧ backward'.Spans room ∧
        ∀ k ∈ done ++ ks, start.enter d k ≤ backward'.get k := by
  induction ks generalizing backward done with
  | nil => exact .inr ⟨backward, rfl, hspans, fun k hk => (hdone k (by simpa using hk)).2⟩
  | cons k ks ih =>
    obtain ⟨hk, hks⟩ := List.forall_mem_cons.1 hks
    rw [List.foldlM_cons]
    rcases stepBackward_cases s w d forward backward k with
      ⟨i, j, hstep, hi, hj⟩ | ⟨x, hstep, hle⟩
    · rw [hstep]
      exact .inl ⟨i, j, rfl, hi, hj⟩
    · rw [hstep]
      rw [hsame.enter_eq hroom hk] at hle
      have hrest := ih hks (hspans.set k x) (hsame.set hspans hroom hk x)
        (hspans.forall_set hroom hk hle hdone)
      rw [List.append_assoc] at hrest
      exact hrest

/-! ## From round to round -/

/-- What holds of the frontiers after round `d`. -/
structure Frontiers (w : Window) (d : Nat) (forward backward : Frontier) : Prop where
  /-- Paths do not lead out of the window in front. -/
  ahead : ∀ k, OnDiagonal d k → k ≤ forward.get k
  behind : ∀ k, OnDiagonal d k → k ≤ backward.get k
  /-- A path behind the last old line is beside one that has come to it. -/
  right : ∀ k, OnDiagonal d k → OnDiagonal d (k + 2) → w.oldLength < forward.get (k + 2) →
    w.oldLength ≤ forward.get k
  first : forward.get (-d) ≤ w.oldLength
  /-- A path behind the last new line is beside one that has come to it. -/
  below : ∀ k, OnDiagonal d k → OnDiagonal d (k + 2) →
    (w.newLength : Int) < forward.get k - k →
    (w.newLength : Int) ≤ forward.get (k + 2) - (k + 2)
  last : (forward.get d : Int) - d ≤ w.newLength
  /-- Where paths are looked at, they have not come to the edges of the window. -/
  free : ∀ k, OnDiagonal d k → Meeting w d k →
    forward.get k < w.oldLength ∧ (forward.get k : Int) - k < w.newLength

/-- In the first round there is one path, which no change leads to. -/
theorem Frontiers.zero (hcame : Came w 0 backward 0 0 (forward.get 0)) :
    Frontiers w 0 forward backward' where
  ahead := by
    rintro k ⟨hlow, hhigh, -⟩
    omega
  behind := by
    rintro k ⟨hlow, hhigh, -⟩
    omega
  right := by
    rintro k ⟨hlow, -, -⟩ ⟨-, hhigh, -⟩
    omega
  first := by
    have hin := hcame.inside
    simp only [Nat.cast_zero, neg_zero]
    omega
  below := by
    rintro k ⟨hlow, -, -⟩ ⟨-, hhigh, -⟩
    omega
  last := by
    have hin := hcame.inside
    simp only [Nat.cast_zero]
    omega
  free := by
    rintro k - ⟨-, hle⟩
    omega

/-- The diagonals beside one of a round are of the round before, unless it is at the rim. -/
theorem OnDiagonal.above {k : Int} (h : OnDiagonal (d + 1) k) (hk : k ≠ (d + 1 : Nat)) :
    OnDiagonal d (k + 1) := by
  obtain ⟨hlow, hhigh, hparity⟩ := h
  exact ⟨by omega, by omega, by omega⟩

theorem OnDiagonal.under {k : Int} (h : OnDiagonal (d + 1) k) (hk : k ≠ -(d + 1 : Nat)) :
    OnDiagonal d (k - 1) := by
  obtain ⟨hlow, hhigh, hparity⟩ := h
  exact ⟨by omega, by omega, by omega⟩

/-- A path has not come less far than its diagonal demands. -/
theorem le_enter {f : Frontier} (h : ∀ k, OnDiagonal d k → k ≤ f.get k) {k : Int}
    (hk : OnDiagonal (d + 1) k) : k ≤ f.enter (d + 1 : Nat) k := by
  have hlow := hk.1
  rcases f.enter_cases (d + 1 : Nat) k with ⟨heq, hfrom⟩ | ⟨heq, hne, -⟩
  · have hbeside := h _ (hk.above (by omega))
    omega
  · have hbeside := h _ (hk.under hne)
    omega

/-- From one round to the next. -/
theorem Frontiers.next (h : Frontiers w d forward backward)
    (hforward : ∀ k, OnDiagonal (d + 1) k →
      Came w (d + 1) backward k (forward.enter (d + 1 : Nat) k) (forward'.get k))
    (hbackward : ∀ k, OnDiagonal (d + 1) k → backward.enter (d + 1 : Nat) k ≤ backward'.get k) :
    Frontiers w (d + 1) forward' backward' where
  ahead := by
    intro k hk
    have hle := le_enter h.ahead hk
    have hcame := (hforward k hk).entered_le
    omega
  behind := by
    intro k hk
    have hle := le_enter h.behind hk
    have hcame := hbackward k hk
    omega
  right := by
    intro k hk hk2 hout
    have hhigh := hk2.2.1
    have hone : k + 2 - 1 = k + 1 := by omega
    -- equal lines do not lead out, so the path was out of the window when it came to `k + 2`
    have hfar : w.oldLength ≤ forward.get (k + 1) := by
      have hinside := (hforward _ hk2).inside
      rcases forward.enter_cases (d + 1 : Nat) (k + 2) with ⟨heq, hfrom⟩ | ⟨heq, -, -⟩
      · have hstep := h.right (k + 1) (hk.above (by omega))
          (by simpa [add_right_comm] using hk2.above (by omega))
        rw [show k + 1 + 2 = k + 2 + 1 by omega] at hstep
        exact hstep (by omega)
      · rw [hone] at heq
        omega
    have hle := forward.le_enter_above (show k ≠ (d + 1 : Nat) by omega)
    have hcame := (hforward k hk).entered_le
    omega
  first := by
    have hk : OnDiagonal (d + 1) (-(d + 1 : Nat)) := ⟨by omega, by omega, by omega⟩
    have hinside := (hforward _ hk).inside
    have hfirst := h.first
    rcases forward.enter_cases (d + 1 : Nat) (-(d + 1 : Nat)) with ⟨heq, -⟩ | ⟨-, hne, -⟩
    · rw [show (-(d + 1 : Nat) : Int) + 1 = -d by omega] at heq
      omega
    · exact absurd rfl hne
  below := by
    intro k hk hk2 hout
    have hlow := hk.1
    have hone : k + 2 - 1 = k + 1 := by omega
    have hfar : (w.newLength : Int) ≤ forward.get (k + 1) - (k + 1) := by
      have hinside := (hforward _ hk).inside
      rcases forward.enter_cases (d + 1 : Nat) k with ⟨heq, -⟩ | ⟨heq, hne, -⟩
      · omega
      · have hstep := h.below (k - 1) (hk.under hne)
          (by simpa [hone, sub_add_eq_add_sub] using hk2.under (by omega))
        rw [show k - 1 + 2 = k + 1 by omega] at hstep
        exact hstep (by omega)
    have hle := forward.le_enter_under (show k + 2 ≠ -(d + 1 : Nat) by omega)
    have hcame := (hforward _ hk2).entered_le
    rw [hone] at hle
    omega
  last := by
    have hk : OnDiagonal (d + 1) (d + 1 : Nat) := ⟨by omega, by omega, by omega⟩
    have hinside := (hforward _ hk).inside
    have hlast := h.last
    rcases forward.enter_cases (d + 1 : Nat) (d + 1 : Nat) with ⟨-, hfrom⟩ | ⟨heq, -, -⟩
    · omega
    · rw [show ((d + 1 : Nat) : Int) - 1 = d by omega] at heq
      omega
  free := by
    intro k hk hmeet
    have hunmet := (hforward k hk).unmet hmeet
    obtain ⟨hlow, hhigh, hparity⟩ := hk
    obtain ⟨hodd, hnear⟩ := hmeet
    have hdelta := w.delta_eq
    have hbehind := h.behind (w.delta - k) ⟨by omega, by omega, by omega⟩
    omega

/-- On and above the last diagonal, a path that can be met has not passed the old lines. -/
theorem Frontiers.enter_le_of_le (h : Frontiers w d forward backward) {k : Int}
    (hk : OnDiagonal (d + 1) k) (hmeet : Meeting w (d + 1) k) (hside : w.delta ≤ k) :
    forward.enter (d + 1 : Nat) k ≤ w.oldLength := by
  have hdelta := w.delta_eq
  obtain ⟨hodd, hnear⟩ := hmeet
  by_cases hrim : k = -(d + 1 : Nat)
  · have hfirst := h.first
    rcases forward.enter_cases (d + 1 : Nat) k with ⟨heq, -⟩ | ⟨-, hne, -⟩
    · rw [hrim, show (-(d + 1 : Nat) : Int) + 1 = -d by omega, ← hrim] at heq
      omega
    · exact absurd hrim hne
  have hunder := hk.under hrim
  have hparity := hk.2.2
  by_cases hzero : d = 0
  · -- after a single change the path is on one of the two diagonals beside the first one
    subst hzero
    have hlow := hk.1
    have hhigh := hk.2.1
    have hlast := h.last
    rcases forward.enter_cases (0 + 1 : Nat) k with ⟨-, hfrom⟩ | ⟨heq, -, -⟩
    · omega
    · rw [show k - 1 = (0 : Nat) by omega] at heq
      omega
  have hfree := (h.free (k - 1) hunder ⟨hodd, by omega⟩).1
  rcases forward.enter_cases (d + 1 : Nat) k with ⟨heq, hfrom⟩ | ⟨heq, -, -⟩
  · have hright := h.right (k - 1) hunder
    rw [show k - 1 + 2 = k + 1 by omega] at hright
    have hle := mt (hright (hk.above (by omega))) (by omega)
    omega
  · omega

/-- Below the last diagonal, a path that can be met has not passed the new lines. -/
theorem Frontiers.enter_le_of_lt (h : Frontiers w d forward backward) {k : Int}
    (hk : OnDiagonal (d + 1) k) (hmeet : Meeting w (d + 1) k) (hside : k < w.delta) :
    (forward.enter (d + 1 : Nat) k : Int) - k ≤ w.newLength := by
  obtain ⟨hodd, hnear⟩ := hmeet
  by_cases hrim : k = (d + 1 : Nat)
  · have hlast := h.last
    rcases forward.enter_cases (d + 1 : Nat) k with ⟨-, hfrom⟩ | ⟨heq, -, -⟩
    · omega
    · rw [show k - 1 = (d : Int) by omega] at heq
      omega
  have hfree := (h.free (k + 1) (hk.above hrim) ⟨hodd, by omega⟩).2
  rcases forward.enter_cases (d + 1 : Nat) k with ⟨heq, -⟩ | ⟨heq, hne, -⟩
  · omega
  · have hbelow := h.below (k - 1) (hk.under hne)
    rw [show k - 1 + 2 = k + 1 by omega] at hbelow
    have hle := mt (hbelow (hk.above hrim)) (by omega)
    omega

/-- A point where two paths meet lies in the window. -/
theorem Frontiers.enter_inside (h : Frontiers w d forward backward) {k : Int}
    (hk : OnDiagonal (d + 1) k) (hmeet : Meeting w (d + 1) k) :
    forward.enter (d + 1 : Nat) k ≤ w.oldLength ∧
      ((forward.enter (d + 1 : Nat) k : Int) - k).toNat ≤ w.newLength := by
  have hdelta := w.delta_eq
  by_cases hside : w.delta ≤ k
  · have hle := h.enter_le_of_le hk hmeet hside
    omega
  · have hle := h.enter_le_of_lt hk hmeet (by omega)
    omega

/-! ## The search -/

/-- A point of a window. -/
def Window.Holds (w : Window) (point : Nat × Nat) : Prop :=
  ∃ i j, point = (w.oldStart + i, w.newStart + j) ∧ i ≤ w.oldLength ∧ j ≤ w.newLength

/-- What holds before round `d`: the frontiers are new, or a round was made before. -/
def Ready (w : Window) (d : Nat) (forward backward : Frontier) : Prop :=
  (d = 0 ∧ forward.get 1 = 0) ∨ ∃ r, d = r + 1 ∧ Frontiers w r forward backward

theorem round_cases (hroom : d < room) (hforward : forward.Spans room)
    (hbackward : backward.Spans room) (hready : Ready w d forward backward) :
    (∃ point, round s w (forward, backward) d = .error point ∧ w.Holds point) ∨
      ∃ forward' backward', round s w (forward, backward) d = .ok (forward', backward') ∧
        forward'.Spans room ∧ backward'.Spans room ∧ Ready w (d + 1) forward' backward' := by
  have hdiagonals : ∀ k ∈ diagonals d, OnDiagonal d k := fun k => mem_diagonals_iff.1
  have hround : round s w (forward, backward) d =
      ((diagonals d).foldlM (fun x k => stepForward s w d x.1 x.2 k) (forward, backward)).bind
        fun x => (diagonals d).foldlM (fun x k => stepBackward s w d x.1 x.2 k) x := rfl
  rw [hround]
  rcases @forward_pass s w d room forward backward forward hroom _ [] hdiagonals hforward
      (fun _ _ _ => rfl) (by simp) with ⟨k, hk, hmeet, heq⟩ | ⟨forward', heq, hspans, hcame⟩
  · rw [heq]
    refine .inl ⟨_, rfl, _, _, rfl, ?_⟩
    rcases hready with ⟨rfl, -⟩ | ⟨r, rfl, hfrontiers⟩
    · exact absurd hmeet.2 (by omega)
    · exact hfrontiers.enter_inside hk hmeet
  rw [heq]
  rcases @backward_pass s w d room forward' backward backward hroom _ [] hdiagonals hbackward
      (fun _ _ _ => rfl) (by simp) with ⟨i, j, heq, hi, hj⟩ | ⟨backward', heq, hspans', hle⟩
  · exact .inl ⟨_, heq, i, j, rfl, hi, hj⟩
  refine .inr ⟨forward', backward', heq, hspans, hspans', .inr ⟨d, rfl, ?_⟩⟩
  simp only [List.nil_append, mem_diagonals_iff] at hcame hle
  rcases hready with ⟨rfl, hnew⟩ | ⟨r, rfl, hfrontiers⟩
  · have hzero := hcame 0 ⟨by omega, by omega, by omega⟩
    have henter : forward.enter (0 : Nat) 0 = 0 := by
      simpa [Frontier.enter] using hnew
    rw [henter] at hzero
    exact .zero hzero
  · exact hfrontiers.next hcame hle

theorem rounds_cases {first count : Nat} (hroom : first + count ≤ room)
    (hforward : forward.Spans room) (hbackward : backward.Spans room)
    (hready : Ready w first forward backward) {point : Nat × Nat}
    (h : (List.range' first count).foldlM (round s w) (forward, backward) = .error point) :
    w.Holds point := by
  induction count generalizing first forward backward with
  | zero => cases h
  | succ count ih =>
    rw [List.range'_succ, List.foldlM_cons] at h
    rcases round_cases (s := s) (by omega) hforward hbackward hready with
      ⟨point', heq, hholds⟩ | ⟨forward', backward', heq, hforward', hbackward', hready'⟩
    · rw [heq] at h
      cases h
      exact hholds
    · rw [heq] at h
      exact ih (by omega) hforward' hbackward' hready' h

/-- A window is split inside. -/
theorem splitPoint?_inside {point : Nat × Nat} (h : splitPoint? s w = some point) :
    w.Holds point := by
  simp only [splitPoint?] at h
  split at h
  · next heq =>
    rw [List.range_eq_range'] at heq
    obtain rfl := Option.some.inj h
    exact rounds_cases (by omega) (Frontier.spans_empty _) (Frontier.spans_empty _)
      (.inl ⟨rfl, Frontier.get_empty _ _⟩) heq
  · cases h

end Search

end Diff

end StructTags
