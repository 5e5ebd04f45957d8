import StructTags.Diff.Compact
import StructTags.Proofs.EditScripts

/-!
# Moving and joining changes keeps a tiling

Tidying a script changes a few neighbouring operations at a time. `Rewrites` says that such a change
is harmless: wherever the old operations tile a stretch of the two texts, the new ones do, too. The
small rewritings (merging, swapping, sliding an insertion over lines that it repeats) make up the
moves of a marked change (`Marked.Moves`), and those make up `compact` (`rewrites_compact`).

With the joining of neighbours (`tiles_joinFrom`), the final script goes through all lines of any
two texts (`Sides.tiles_ops`).
-/

namespace StructTags

namespace Diff

section

variable {s : Sides} {i j i' j' : Nat}

/-! ## Moving and merging changes -/

/-- Deletions and insertions. -/
def Op.IsChange (op : Op) : Prop :=
  op.isDelete = true ∨ op.isInsert = true

/-- A deletion and an insertion, in either order. -/
def Op.Opposite : Op → Op → Prop
  | .delete .., .insert .. | .insert .., .delete .. => True
  | _, _ => False

theorem Op.Opposite.symm {op op' : Op} (h : op.Opposite op') : op'.Opposite op := by
  cases op <;> cases op' <;> exact h

/-- What a change can pass is what it neither merges with nor stops at. -/
theorem Op.opposite_of {op op' : Op} (hop : op.Plain) (hop' : op'.IsChange)
    (hie : ∀ a b c d e f, op' = .insert a b c → op ≠ .equal d e f)
    (hde : ∀ a b c d e f, op' = .delete a b c → op ≠ .equal d e f)
    (hdd : ∀ a b c d e f, op' = .delete a b c → op ≠ .delete d e f)
    (hii : ∀ a b c d e f, op' = .insert a b c → op ≠ .insert d e f) : op'.Opposite op := by
  cases op' with
  | equal => simp [Op.IsChange, Op.isDelete, Op.isInsert] at hop'
  | replace => simp [Op.IsChange, Op.isDelete, Op.isInsert] at hop'
  | delete a b c =>
    cases op with
    | equal d e f => exact hde a b c d e f rfl rfl
    | delete d e f => exact hdd a b c d e f rfl rfl
    | insert => trivial
    | replace => exact hop
  | insert a b c =>
    cases op with
    | equal d e f => exact hie a b c d e f rfl rfl
    | delete => trivial
    | insert d e f => exact hii a b c d e f rfl rfl
    | replace => exact hop

/-- Wherever `xs` tile a stretch of the two texts, so do `ys`. -/
structure Rewrites (s : Sides) (xs ys : List Op) : Prop where
  tiles : ∀ {i j i' j'}, Tiles s i j xs i' j' → Tiles s i j ys i' j'
  plain : (∀ op ∈ xs, op.Plain) → ∀ op ∈ ys, op.Plain

theorem Rewrites.refl (xs : List Op) : Rewrites s xs xs :=
  ⟨id, id⟩

theorem Rewrites.trans {xs ys zs : List Op} (h : Rewrites s xs ys) (h' : Rewrites s ys zs) :
    Rewrites s xs zs :=
  ⟨h'.tiles ∘ h.tiles, h'.plain ∘ h.plain⟩

/-- A stretch of a script may be rewritten wherever it stands. -/
theorem Rewrites.within {xs ys : List Op} (h : Rewrites s xs ys) (before behind : List Op) :
    Rewrites s (before ++ (xs ++ behind)) (before ++ (ys ++ behind)) where
  tiles := by
    intro i j i' j' htiles
    rcases tiles_append.1 htiles with ⟨a, b, hbefore, hrest⟩
    rcases tiles_append.1 hrest with ⟨c, d, hxs, hbehind⟩
    exact tiles_append.2 ⟨a, b, hbefore, tiles_append.2 ⟨c, d, h.tiles hxs, hbehind⟩⟩
  plain := by
    intro hplain op hop
    simp only [List.mem_append] at hplain hop
    rcases hop with hop | hop | hop
    · exact hplain op (.inl hop)
    · exact h.plain (fun op hop => hplain op (.inr (.inl hop))) op hop
    · exact hplain op (.inr (.inr hop))

/-- No lines are no operation. -/
theorem rewrites_empty (old new : Nat) : Rewrites s [.equal old new 0] [] where
  tiles := fun h => h.2
  plain := by simp

theorem rewrites_delete_delete (o l n o' l' n' : Nat) :
    Rewrites s [.delete o l n, .delete o' l' n'] [.delete o (l + l') n] where
  tiles := by
    rintro i j i' j' ⟨hat, _, hold, hnew⟩
    exact ⟨hat, by rw [← hold]; exact (Nat.add_assoc ..).symm, hnew⟩
  plain := by simp [Op.Plain]

theorem rewrites_insert_insert (o n l o' n' l' : Nat) :
    Rewrites s [.insert o n l, .insert o' n' l'] [.insert o n (l + l')] where
  tiles := by
    rintro i j i' j' ⟨hat, _, hold, hnew⟩
    exact ⟨hat, hold, by rw [← hnew]; exact (Nat.add_assoc ..).symm⟩
  plain := by simp [Op.Plain]

/-- Deletions and insertions pass each other. -/
theorem rewrites_opposite {op op' : Op} (h : op.Opposite op') : Rewrites s [op, op'] [op', op] where
  tiles := by
    rintro i j i' j' ⟨hat, hat', hend⟩
    -- neither touches the side that the other counts on
    cases op <;> cases op' <;> try exact absurd h not_false
    all_goals exact ⟨hat', hat, hend⟩
  plain := by
    intro hplain x hx
    exact hplain x (by grind)

theorem rewrites_equal_equal (o n l o' n' l' : Nat) :
    Rewrites s [.equal o n l, .equal o' n' l'] [.equal o n (l + l')] where
  tiles := by
    rintro i j i' j' ⟨⟨rfl, rfl, hagree⟩, ⟨_, _, hagree'⟩, hold, hnew⟩
    refine ⟨⟨rfl, rfl, hagree.append hagree'⟩, ?_, ?_⟩
    · rw [← hold]
      exact (Nat.add_assoc ..).symm
    · rw [← hnew]
      exact (Nat.add_assoc ..).symm
  plain := by simp [Op.Plain]

/-- Two runs of equal lines are one. Its place can be read off the second one, too. -/
theorem rewrites_equal_equal_back (o n l o' n' l' : Nat) :
    Rewrites s [.equal o n l, .equal o' n' l'] [.equal (o' - l) (n' - l) (l' + l)] where
  tiles := by
    rintro i j i' j' h
    rcases h.2.1 with ⟨hold, hnew, _⟩
    rcases h.1 with ⟨rfl, rfl, _⟩
    simp only [Op.oldLength, Op.newLength] at hold hnew
    rw [hold, hnew, Nat.add_sub_cancel, Nat.add_sub_cancel, Nat.add_comm]
    exact (rewrites_equal_equal ..).tiles h
  plain := by simp [Op.Plain]

/-- An insertion may be moved back over lines that its own last lines repeat. -/
theorem rewrites_equal_insert (old new length iOld iNew iLength : Nat) {run : Nat}
    (hrun : run = s.agreeBehind (old + length) (iNew + iLength) (min length iLength)) :
    Rewrites s [.equal old new length, .insert iOld iNew iLength]
      [.equal old new (length - run), .insert (iOld - run) (iNew - run) iLength,
        .equal (old + length - run) (iNew + iLength - run) run] where
  tiles := by
    rintro i j i' j' ⟨⟨rfl, rfl, hagree⟩, hat, hold, hnew⟩
    rcases agree_agreeBehind (s := s) (old + length) (iNew + iLength) (min length iLength) with
      ⟨hle, hrepeat⟩
    rw [← hrun] at hle hrepeat
    simp only [Op.At, Op.oldLength, Op.newLength] at hat hold hnew
    -- the old end of the equal lines, seen from the new place of the insertion
    have hend : old + length - run = old + (length - run) := by omega
    have hend' : iNew + iLength - run = new + (length - run) + iLength := by omega
    rw [hend, hend'] at hrepeat ⊢
    refine ⟨⟨rfl, rfl, hagree.take (Nat.sub_le ..)⟩, ?_, ⟨rfl, rfl, hrepeat⟩, ?_, ?_⟩
    all_goals simp only [Op.At, Op.oldLength, Op.newLength]
    all_goals omega
  plain := by simp [Op.Plain]

/-- An insertion may be moved ahead over lines that its own first lines repeat. -/
theorem rewrites_insert_equal (iOld iNew iLength old new length : Nat) {run : Nat}
    (hrun : run = s.agreeAhead old iNew (min length iLength)) :
    Rewrites s [.insert iOld iNew iLength, .equal old new length]
      [.equal old iNew run, .insert (iOld + run) (iNew + run) iLength,
        .equal (old + run) (new + run) (length - run)] where
  tiles := by
    rintro i j i' j' ⟨rfl, ⟨rfl, rfl, hagree⟩, hold, hnew⟩
    have hle : run ≤ min length iLength := hrun ▸ agreeAhead_le ..
    have hrepeat := agree_agreeAhead (s := s) old iNew (min length iLength)
    rw [← hrun] at hrepeat
    simp only [Op.oldLength, Op.newLength] at hagree hold hnew ⊢
    have hrest : s.Agree (old + run) (iNew + iLength + run) (length - run) := by
      refine .drop ?_
      rwa [Nat.add_sub_of_le (by omega)]
    have hshift : iNew + iLength + run = iNew + run + iLength := by omega
    rw [hshift] at hrest ⊢
    refine ⟨⟨rfl, rfl, hrepeat⟩, rfl, ⟨rfl, rfl, hrest⟩, ?_, ?_⟩
    all_goals simp only [Op.oldLength, Op.newLength]
    all_goals omega
  plain := by simp [Op.Plain]

/-- Equal lines in front of a script, as one operation with those that it begins with. -/
def joinFront (old new length : Nat) : List Op → List Op
  | .equal o n l :: rest => .equal (o - length) (n - length) (l + length) :: rest
  | rest => .equal old new length :: rest

/-- Equal lines behind a script in reverse, as one operation with those that it ends with. -/
def joinBack (old new length : Nat) : List Op → List Op
  | .equal o n l :: rest => .equal o n (l + length) :: rest
  | rest => .equal old new length :: rest

theorem rewrites_joinFront (old new length : Nat) (ops : List Op) :
    Rewrites s (.equal old new length :: ops) (joinFront old new length ops) := by
  unfold joinFront
  split
  · exact (rewrites_equal_equal_back ..).within [] _
  · exact .refl _

theorem rewrites_joinBack (old new length : Nat) (before : List Op) :
    Rewrites s (before.reverse ++ [.equal old new length])
      (joinBack old new length before).reverse := by
  unfold joinBack
  split
  · next o n l rest =>
    have h := (rewrites_equal_equal (s := s) o n l old new length).within rest.reverse []
    simpa using h
  · rw [List.reverse_cons]
    exact .refl _

namespace Marked

/-- The script without the mark. -/
def ops (m : Marked) : List Op :=
  m.before.reverse ++ m.here :: m.behind

/-- The script holds no replacement and the mark is on a change. -/
structure Ready (m : Marked) : Prop where
  plain : ∀ op ∈ m.ops, op.Plain
  change : m.here.IsChange

/-- The marked change and what is around it may become those of `m'`. -/
structure Moves (s : Sides) (m m' : Marked) : Prop where
  rewrites : Rewrites s m.ops m'.ops
  change : m.here.IsChange → m'.here.IsChange

theorem Moves.refl (m : Marked) : m.Moves s m :=
  ⟨.refl _, id⟩

theorem Moves.trans {m m' m'' : Marked} (h : m.Moves s m') (h' : m'.Moves s m'') :
    m.Moves s m'' :=
  ⟨h.rewrites.trans h'.rewrites, h'.change ∘ h.change⟩

theorem Moves.ready {m m' : Marked} (h : m.Moves s m') (hm : m.Ready) : m'.Ready :=
  ⟨h.rewrites.plain hm.plain, h.change hm.change⟩

/-- A move, and then what may follow from where it leads to. -/
theorem Moves.next {m m' m'' : Marked} (h : m.Moves s m') (hm : m.Ready)
    (hnext : m'.Ready → m'.Moves s m'') : m.Moves s m'' :=
  h.trans (hnext (h.ready hm))

theorem ops_of_before {m : Marked} {op : Op} {before : List Op} (h : m.before = op :: before) :
    m.ops = before.reverse ++ ([op, m.here] ++ m.behind) := by
  simp [ops, h]

theorem ops_of_behind {m : Marked} {op : Op} {behind : List Op} (h : m.behind = op :: behind) :
    m.ops = m.before.reverse ++ ([m.here, op] ++ behind) := by
  simp [ops, h]

/-- An insertion moves back over equal lines that its last lines repeat. -/
theorem moves_slideBack {m : Marked} {old new length iOld iNew iLength run : Nat}
    {before : List Op} (hbefore : m.before = .equal old new length :: before)
    (hhere : m.here = .insert iOld iNew iLength)
    (hrun : run = s.agreeBehind (old + length) (iNew + iLength) (min length iLength)) :
    m.Moves s ⟨if length = run then before else .equal old new (length - run) :: before,
      .insert (iOld - run) (iNew - run) iLength,
      joinFront (old + length - run) (iNew + iLength - run) run m.behind⟩ where
  rewrites := by
    rw [ops_of_before hbefore, hhere]
    refine ((rewrites_equal_insert _ _ _ _ _ _ hrun).within _ _).trans ?_
    have hjoin := (rewrites_joinFront (s := s) (old + length - run) (iNew + iLength - run) run
      m.behind).within (before.reverse ++ [.equal old new (length - run),
        .insert (iOld - run) (iNew - run) iLength]) []
    simp only [List.append_assoc, List.append_nil, List.cons_append, List.nil_append] at hjoin ⊢
    refine hjoin.trans ?_
    unfold ops
    split
    · next h =>
      rw [h, Nat.sub_self]
      exact (rewrites_empty old new).within before.reverse _
    · rw [List.reverse_cons, List.append_assoc]
      exact .refl _
  change := fun _ => .inr rfl

/-- An insertion moves ahead over equal lines that its first lines repeat. -/
theorem moves_slideAhead {m : Marked} {iOld iNew iLength old new length run : Nat}
    {behind : List Op} (hhere : m.here = .insert iOld iNew iLength)
    (hbehind : m.behind = .equal old new length :: behind)
    (hrun : run = s.agreeAhead old iNew (min length iLength)) :
    m.Moves s ⟨joinBack old iNew run m.before, .insert (iOld + run) (iNew + run) iLength,
      if length = run then behind
      else .equal (old + run) (new + run) (length - run) :: behind⟩ where
  rewrites := by
    rw [ops_of_behind hbehind, hhere]
    refine ((rewrites_insert_equal _ _ _ _ _ _ hrun).within _ _).trans ?_
    have hjoin := (rewrites_joinBack (s := s) old iNew run m.before).within []
      (.insert (iOld + run) (iNew + run) iLength ::
        .equal (old + run) (new + run) (length - run) :: behind)
    simp only [List.append_assoc, List.cons_append, List.nil_append] at hjoin ⊢
    refine hjoin.trans ?_
    unfold ops
    split
    · next h =>
      have hempty := (rewrites_empty (s := s) (old + run) (new + run)).within
        ((joinBack old iNew run m.before).reverse ++ [.insert (iOld + run) (iNew + run) iLength])
        behind
      rw [h, Nat.sub_self]
      simpa using hempty
    · exact .refl _
  change := fun _ => .inr rfl

/-- The marked change and the operation before it are rewritten, and the mark goes to the front. -/
theorem moves_of_before {m : Marked} {op here : Op} {before rest : List Op}
    (hbefore : m.before = op :: before) (hchange : m.here.IsChange → here.IsChange)
    (h : Rewrites s [op, m.here] (here :: rest)) : m.Moves s ⟨before, here, rest ++ m.behind⟩ where
  rewrites := by
    rw [ops_of_before hbefore]
    exact h.within before.reverse m.behind
  change := hchange

/-- The marked change and the operation behind it are rewritten, and the mark goes to the back. -/
theorem moves_of_behind {m : Marked} {op here : Op} {behind : List Op} (rest : List Op)
    (hbehind : m.behind = op :: behind) (hchange : m.here.IsChange → here.IsChange)
    (h : Rewrites s [m.here, op] (rest.reverse ++ [here])) :
    m.Moves s ⟨rest ++ m.before, here, behind⟩ where
  rewrites := by
    have hwithin := h.within m.before.reverse behind
    rw [ops_of_behind hbehind, ops, List.reverse_append, List.append_assoc]
    rwa [List.append_assoc] at hwithin
  change := hchange

/-- Moving a change back only rewrites the script. Every case is one of the rewritings above. -/
theorem moves_moveBack (fuel : Nat) {m : Marked} (hm : m.Ready) :
    m.Moves s (m.moveBack s fuel) := by
  have hempty (old new : Nat) (here : Op) : Rewrites s [.equal old new 0, here] [here] :=
    (rewrites_empty old new).within [] [here]
  fun_induction moveBack s fuel m with
  | case1 => exact .refl _
  | case2 _ m old new length before iOld iNew iLength hhere hbefore run _ _ _ ih =>
    exact (moves_slideBack hbefore hhere rfl).next hm ih
  | case3 _ m _ _ before _ _ _ _ hbefore _ _ ih =>
    exact (moves_of_before hbefore id (hempty ..)).next hm ih
  | case4 => exact .refl _
  | case5 _ m _ _ before _ _ _ _ hbefore ih =>
    exact (moves_of_before hbefore id (hempty ..)).next hm ih
  | case6 => exact .refl _
  | case7 _ m o l n before old length new hhere hbefore ih =>
    have hmerge := rewrites_delete_delete (s := s) o l n old length new
    rw [← hhere] at hmerge
    exact (moves_of_before hbefore (fun _ => .inl rfl) hmerge).next hm ih
  | case8 _ m o n l before old new length hhere hbefore ih =>
    have hmerge := rewrites_insert_insert (s := s) o n l old new length
    rw [← hhere] at hmerge
    exact (moves_of_before hbefore (fun _ => .inr rfl) hmerge).next hm ih
  | case9 _ m op before hbefore hei hed hdd hii ih =>
    have hop : op.Plain := hm.plain op (by simp [ops, hbefore])
    have hopposite : op.Opposite m.here := .symm <| Op.opposite_of hop hm.change
      (fun a b c d e f => hei d e f a b c) (fun a b c d e f => hed d e f a b c)
      (fun a b c d e f => hdd d e f a b c) (fun a b c d e f => hii d e f a b c)
    exact (moves_of_before hbefore id (rewrites_opposite hopposite)).next hm ih
  | case10 => exact .refl _

theorem moves_moveAhead (fuel : Nat) {m : Marked} (hm : m.Ready) :
    m.Moves s (m.moveAhead s fuel) := by
  have hempty (old new : Nat) (here : Op) : Rewrites s [here, .equal old new 0] [here] :=
    (rewrites_empty old new).within [here] []
  fun_induction moveAhead s fuel m with
  | case1 => exact .refl _
  | case2 _ m iOld iNew iLength old new length behind hbehind hhere run _ _ _ ih =>
    exact (moves_slideAhead hhere hbehind rfl).next hm ih
  | case3 _ m _ _ _ _ _ behind _ hbehind _ _ ih =>
    exact (moves_of_behind [] hbehind id (hempty ..)).next hm ih
  | case4 => exact .refl _
  | case5 _ m _ _ _ _ _ behind _ hbehind ih =>
    exact (moves_of_behind [] hbehind id (hempty ..)).next hm ih
  | case6 => exact .refl _
  | case7 _ m o l n old length new behind hbehind hhere ih =>
    have hmerge := rewrites_delete_delete (s := s) o l n old length new
    rw [← hhere] at hmerge
    exact (moves_of_behind [] hbehind (fun _ => .inl rfl) hmerge).next hm ih
  | case8 _ m o n l old new length behind hbehind hhere ih =>
    have hmerge := rewrites_insert_insert (s := s) o n l old new length
    rw [← hhere] at hmerge
    exact (moves_of_behind [] hbehind (fun _ => .inr rfl) hmerge).next hm ih
  | case9 _ m op behind hbehind hie hde hdd hii ih =>
    have hop : op.Plain := hm.plain op (by simp [ops, hbehind])
    have hopposite : m.here.Opposite op := Op.opposite_of hop hm.change hie hde hdd hii
    exact (moves_of_behind [op] hbehind id (rewrites_opposite hopposite)).next hm ih
  | case10 => exact .refl _

end Marked

/-- Treating the changes one after the other rewrites the whole script. -/
theorem rewrites_settle {wanted : Op → Bool} (hwanted : ∀ op, wanted op = true → op.IsChange)
    (moves fuel : Nat) (before ops : List Op)
    (hplain : ∀ op ∈ before.reverse ++ ops, op.Plain) :
    Rewrites s (before.reverse ++ ops) (settle s wanted moves fuel before ops) := by
  fun_induction settle s wanted moves fuel before ops with
  | case1 => exact .refl _
  | case2 =>
    rw [List.append_nil]
    exact .refl _
  | case3 fuel before op ops hop m ih =>
    have hready : Marked.Ready ⟨before, op, ops⟩ := ⟨hplain, hwanted op hop⟩
    have hback := Marked.moves_moveBack (s := s) moves hready
    have hmoves := hback.trans (Marked.moves_moveAhead moves (hback.ready hready))
    have hmarked : (m.here :: m.before).reverse ++ m.behind = m.ops := by
      rw [List.reverse_cons, List.append_assoc]
      rfl
    rw [hmarked] at ih
    exact hmoves.rewrites.trans (ih (hmoves.ready hready).plain)
  | case4 fuel before op ops hop ih =>
    rw [List.reverse_cons, List.append_assoc] at ih
    exact ih hplain

/-- Moving and merging changes keeps a script that tiles the texts one that does. -/
theorem rewrites_compact {ops : List Op} (hplain : ∀ op ∈ ops, op.Plain) :
    Rewrites s ops (compact s ops) := by
  have hdeletes (moves fuel : Nat) : Rewrites s ops (settle s Op.isDelete moves fuel [] ops) :=
    rewrites_settle (fun _ => .inl) moves fuel [] ops hplain
  unfold compact
  exact (hdeletes _ _).trans
    (rewrites_settle (fun _ => .inr) _ _ [] _ ((hdeletes _ _).plain hplain))

/-! ## Joining neighbours -/

namespace Pending

def deleteOps (p : Pending) : List Op :=
  match p.delete? with
  | some (old, length, new) => [.delete old length new]
  | none => []

def insertOps (p : Pending) : List Op :=
  match p.insert? with
  | some (old, new, length) => [.insert old new length]
  | none => []

/-- What has been read and not been written yet. -/
def ops (p : Pending) : List Op :=
  p.equalOps ++ (p.deleteOps ++ p.insertOps)

/-- Equal lines and changes are not held back together. -/
def Single (p : Pending) : Prop :=
  p.equal? = none ∨ p.delete? = none ∧ p.insert? = none

theorem tiles_changeOps {p : Pending} (h : Tiles s i j (p.deleteOps ++ p.insertOps) i' j') :
    Tiles s i j p.changeOps i' j' := by
  rcases p with ⟨_, _ | ⟨o, l, n⟩, _ | ⟨o', n', l'⟩⟩
  · exact h
  · exact h
  · exact h
  · exact ⟨⟨h.1, h.2.1⟩, h.2.2⟩

end Pending

/-- What is held back and what is still to be read tile the texts, so the joined script does. -/
theorem tiles_joinFrom {p : Pending} (hp : p.Single) {ops : List Op}
    (hplain : ∀ op ∈ ops, op.Plain) (h : Tiles s i j (p.ops ++ ops) i' j') :
    Tiles s i j (joinFrom p ops) i' j' := by
  induction ops generalizing p i j with
  | nil =>
    rw [List.append_nil] at h
    rcases tiles_append.1 h with ⟨a, b, hequal, hchanges⟩
    exact tiles_append.2 ⟨a, b, hequal, Pending.tiles_changeOps hchanges⟩
  | cons op rest ih =>
    have hrest : ∀ op ∈ rest, op.Plain := fun op hop => hplain op (.tail _ hop)
    cases op with
    | equal old new length =>
      have hsingle {e} : Pending.Single { equal? := some e } := .inr ⟨rfl, rfl⟩
      rcases p with ⟨_ | ⟨o, n, l⟩, delete?, insert?⟩
      · rcases tiles_append.1 h with ⟨a, b, hchanges, hend⟩
        exact tiles_append.2 ⟨a, b, Pending.tiles_changeOps hchanges, ih hsingle hrest hend⟩
      · rcases hp with hp | ⟨rfl, rfl⟩
        · cases hp
        · exact ih hsingle hrest (((rewrites_equal_equal ..).within [] rest).tiles h)
    | delete old length new =>
      have hopposite (o n l : Nat) : Op.Opposite (.insert o n l) (.delete old length new) := trivial
      rw [Pending.ops, List.append_assoc] at h
      rcases tiles_append.1 h with ⟨a, b, hequal, hend⟩
      refine tiles_append.2 ⟨a, b, hequal, ih (.inl rfl) hrest ?_⟩
      rcases p with ⟨_, _ | ⟨o, l, n⟩, _ | ⟨o', n', l'⟩⟩
      · exact hend
      · exact ((rewrites_opposite (hopposite ..)).within [] rest).tiles hend
      · exact ((rewrites_delete_delete ..).within [] rest).tiles hend
      · have hswap := ((rewrites_opposite (hopposite ..)).within [.delete o l n] rest).tiles hend
        exact ((rewrites_delete_delete ..).within [] (.insert o' n' l' :: rest)).tiles hswap
    | insert old new length =>
      rw [Pending.ops, List.append_assoc] at h
      rcases tiles_append.1 h with ⟨a, b, hequal, hend⟩
      refine tiles_append.2 ⟨a, b, hequal, ih (.inl rfl) hrest ?_⟩
      rcases p with ⟨_, _ | ⟨o, l, n⟩, _ | ⟨o', n', l'⟩⟩
      · exact hend
      · exact ((rewrites_insert_insert ..).within [] rest).tiles hend
      · exact hend
      · exact ((rewrites_insert_insert ..).within [.delete o l n] rest).tiles hend
    | replace => exact (hplain _ (.head _)).elim

/-- The script that turns the old lines into the new ones goes through all of both. -/
theorem Sides.tiles_ops (s : Sides) : Tiles s 0 0 s.ops s.old.size s.new.size := by
  have hproper : Window.Proper ⟨0, s.old.size, 0, s.new.size⟩ := ⟨Nat.zero_le _, Nat.zero_le _⟩
  have hscript := tiledBy_script (s := s) (s.old.size + s.new.size + 1) hproper
  have hplain := plain_script (s := s) (s.old.size + s.new.size + 1) ⟨0, s.old.size, 0, s.new.size⟩
  have hcompact := rewrites_compact (s := s) hplain
  exact tiles_joinFrom (.inl rfl) (hcompact.plain hplain) (hcompact.tiles hscript)

end

end Diff

end StructTags
