import Mathlib
import StructTags.File.Tree

/-!
# File systems that keep files apart

Whoever reads and rewrites several files relies on writing one of them to leave the others alone.
`Separate` says this of any file system, for the paths that matter and the states that it may be in.

The trees in memory are such file systems (`File.Tree.separate`), as long as no two of the paths
lead to one place: `File.Node.contents_modify` describes a tree after a file has changed by what
stands at each place, and following a path only depends on that (`File.Tree.follow_congr`).
-/

namespace StructTags

/-! ## Laws -/

section Access

variable {σ : Type} [FileAccess (StateM σ)]

/-- What reading a file gives in a state of the file system. -/
def bytesIn (s : σ) (path : String) : Except IoFault (List Utf8.Byte) :=
  ((FileAccess.read path : StateM σ _).run s).1

/-- The state after a file has been given a text. -/
def written (s : σ) (path text : String) : σ :=
  ((FileAccess.write path text : StateM σ _).run s).2

/-- Among the paths `names`, in every one of `states`, different paths name different files: a file
that can be read can be given another text, and this is seen under its own path alone. -/
structure Separate (names : Set String) (states : Set σ) : Prop where
  read_state : ∀ s ∈ states, ∀ p ∈ names, ((FileAccess.read p : StateM σ _).run s).2 = s
  write_ok : ∀ s ∈ states, ∀ p ∈ names, ∀ old text, bytesIn s p = .ok old →
    ((FileAccess.write p text : StateM σ _).run s).1 = .ok ()
  written_mem : ∀ s ∈ states, ∀ p ∈ names, ∀ old text, bytesIn s p = .ok old →
    written s p text ∈ states
  bytes_written : ∀ s ∈ states, ∀ p ∈ names, ∀ old text, bytesIn s p = .ok old →
    bytesIn (written s p text) p = .ok (Utf8.encode text.toList)
  bytes_other : ∀ s ∈ states, ∀ p ∈ names, ∀ old text, bytesIn s p = .ok old →
    ∀ q ∈ names, Path.same p q = false → bytesIn (written s p text) q = bytesIn s q

end Access

namespace File

/-! ## Changing a file of a tree -/

namespace Node

/-- The bytes of a file; a directory has none. -/
def contents? : Node → Option (List Utf8.Byte)
  | .file bytes => some bytes
  | .directory _ => none

theorem lookup_modifyEntry (name : String) (f : Node → Node) (entries : List (String × Node))
    (n : String) :
    (modifyEntry name f entries).lookup n =
      if n = name then (entries.lookup n).map f else entries.lookup n := by
  induction entries with
  | nil => simp [modifyEntry]
  | cons entry rest ih =>
    obtain ⟨m, node⟩ := entry
    rw [modifyEntry]
    by_cases hm : m = name
    · subst hm
      by_cases hn : n = m
      · simp [hn]
      · simp [hn, List.lookup_cons, beq_eq_false_iff_ne.2 hn]
    · rw [if_neg hm, List.lookup_cons, List.lookup_cons, ih]
      by_cases hn : n = m
      · subst hn
        simp [hm]
      · simp [beq_eq_false_iff_ne.2 hn]

/-- After a file has changed, every place but its own holds what it held before. -/
theorem contents_modify {root : Node} {place : List String} {old : List Utf8.Byte}
    (h : root.at? place = some (.file old)) (new : List Utf8.Byte) (other : List String) :
    ((root.modify (fun _ => .file new) place).at? other).map contents? =
      if other = place then some (some new) else (root.at? other).map contents? := by
  induction place generalizing root other with
  | nil =>
    obtain rfl : root = .file old := by simpa [at?] using h
    cases other <;> simp [modify, at?, contents?]
  | cons name names ih =>
    cases root with
    | file bytes => simp [at?] at h
    | directory entries =>
      obtain ⟨child, hchild, hfile⟩ : ∃ child, entries.lookup name = some child ∧
          child.at? names = some (.file old) := by
        simpa [at?, Option.bind_eq_some_iff] using h
      cases other with
      | nil => simp [modify, at?, contents?]
      | cons n ns =>
        rw [modify, at?, at?, lookup_modifyEntry]
        by_cases hn : n = name
        · subst hn
          simp [hchild, ih hfile ns]
        · simp [hn]

/-- Changing a file leaves it a file. -/
theorem kind_modify {root : Node} {place : List String} {old : List Utf8.Byte}
    (h : root.at? place = some (.file old)) (new : List Utf8.Byte) (other : List String) :
    ((root.modify (fun _ => .file new) place).at? other).map kind =
      (root.at? other).map kind := by
  have hkind (node? : Option Node) : node?.map kind =
      (node?.map contents?).map fun bytes => if bytes.isSome then .file else .directory := by
    rcases node? with _ | _ | _ <;> rfl
  rw [hkind, hkind, contents_modify h]
  by_cases hother : other = place
  · subst hother
    simp [h, contents?]
  · rw [if_neg hother]

theorem at?_append (front back : List String) (root : Node) :
    root.at? (front ++ back) = (root.at? front).bind (at? back) := by
  induction front generalizing root with
  | nil => simp [at?]
  | cons name names ih =>
    cases root with
    | file bytes => simp [at?]
    | directory entries =>
      rw [List.cons_append, at?, at?, Option.bind_assoc]
      exact Option.bind_congr fun node _ => ih node

/-- A directory has an entry where something stands below it. -/
theorem isSome_lookup {root : Node} {place : List String} {entries : List (String × Node)}
    (h : root.at? place = some (.directory entries)) (piece : String) :
    (entries.lookup piece).isSome = (root.at? (place ++ [piece])).isSome := by
  rw [at?_append, h, Option.bind_some, at?]
  cases entries.lookup piece with
  | none => rfl
  | some node => rfl

end Node

namespace Tree

/-- Following a path depends on where there are files and directories, and on nothing else. -/
theorem follow_congr {a b : Node}
    (h : ∀ place, (a.at? place).map Node.kind = (b.at? place).map Node.kind)
    (place pieces : List String) : follow a place pieces = follow b place pieces := by
  have hsome (place : List String) : (a.at? place).isSome = (b.at? place).isSome := by
    rw [← Option.isSome_map, h, Option.isSome_map]
  induction pieces generalizing place with
  | nil => rw [follow, follow]
  | cons piece pieces ih =>
    have hplace := h place
    rw [follow, follow]
    cases ha : a.at? place with
    | none =>
      rw [ha] at hplace
      rw [Option.map_eq_none_iff.1 hplace.symm]
    | some node =>
      obtain ⟨node', hb, hkind⟩ := Option.map_eq_some_iff.1 (by rw [← hplace, ha]; rfl)
      rw [hb]
      cases node with
      | file bytes =>
        cases node' with
        | file bytes' => rfl
        | directory entries' => cases hkind
      | directory entries =>
        cases node' with
        | file bytes' => cases hkind
        | directory entries' =>
          simp only [Node.isSome_lookup ha, Node.isSome_lookup hb, hsome, ih]

/-- What reading gives at a place where the given contents stand, if anything stands there. -/
def readContents : Option (Option (List Utf8.Byte)) → Except IoFault (List Utf8.Byte)
  | none => .error .notFound
  | some none => .error .isDirectory
  | some (some bytes) => .ok bytes

variable {t : Tree} {path : String} {place : List String} {old : List Utf8.Byte}

theorem read_of_error {fault : IoFault} (h : t.place path = .error fault) :
    t.read path = .error fault := by
  rw [read, node, h]
  rfl

theorem read_of_place (h : t.place path = .ok place) :
    t.read path = readContents ((t.root.at? place).map Node.contents?) := by
  simp only [read, node, h, bind, Except.bind]
  rcases t.root.at? place with _ | bytes | entries
  · rfl
  · rfl
  · rfl

/-- A file that can be read stands at some place. -/
theorem exists_place_of_read (h : t.read path = .ok old) :
    ∃ place, t.place path = .ok place ∧ t.root.at? place = some (.file old) := by
  cases hplace : t.place path with
  | error fault =>
    rw [read_of_error hplace] at h
    cases h
  | ok place =>
    rw [read_of_place hplace] at h
    refine ⟨place, rfl, ?_⟩
    rcases hnode : t.root.at? place with _ | bytes | entries <;> rw [hnode] at h <;> cases h
    rfl

/-- The tree with other bytes in the file at a place. -/
def withBytes (t : Tree) (place : List String) (new : List Utf8.Byte) : Tree :=
  { t with root := t.root.modify (fun _ => .file new) place }

theorem write_eq (hplace : t.place path = .ok place) (hfile : t.root.at? place = some (.file old))
    (text : String) :
    t.write path text = .ok (t.withBytes place (Utf8.encode text.toList)) := by
  have hnode : t.node path = .ok (.file old) := by
    rw [node, hplace]
    simp only [bind, Except.bind, hfile]
  rw [write, hnode, hplace]
  rfl

/-- Paths lead to the same places after a file has changed. -/
theorem place_withBytes (hfile : t.root.at? place = some (.file old)) (new : List Utf8.Byte)
    (path : String) : (t.withBytes place new).place path = t.place path := by
  unfold Tree.place withBytes
  rw [follow_congr (Node.kind_modify hfile new)]

/-- Only the changed file is read differently. -/
theorem read_withBytes (hfile : t.root.at? place = some (.file old)) (new : List Utf8.Byte)
    (path : String) :
    (t.withBytes place new).read path =
      if t.place path = .ok place then .ok new else t.read path := by
  have hplace := place_withBytes hfile new path
  cases hpath : t.place path with
  | error fault =>
    rw [hpath] at hplace
    rw [read_of_error hplace, read_of_error hpath, if_neg (by simp)]
  | ok other =>
    rw [hpath] at hplace
    rw [read_of_place hplace, read_of_place hpath, withBytes, Node.contents_modify hfile]
    by_cases hother : other = place
    · simp [hother, readContents]
    · simp [hother]

end Tree

/-! ## Trees as file systems -/

namespace Tree

/-- Trees in which no two different paths of `names` lead to one place. -/
def distinguishing (names : Set String) : Set Tree :=
  { t | ∀ p ∈ names, ∀ q ∈ names, Path.same p q = false →
    ∀ place, t.place p = .ok place → t.place q ≠ .ok place }

theorem run_write {t t' : Tree} {path text : String} (h : t.write path text = .ok t') :
    (FileAccess.write path text : StateM Tree _).run t = (.ok (), t') := by
  simp only [FileAccess.write, StateT.run_bind, StateT.run_get, pure_bind, h]
  rfl

/-- Trees keep files apart. -/
theorem separate (names : Set String) : Separate names (distinguishing names) := by
  have hrun {t : Tree} {p : String} {old : List Utf8.Byte} (text : String)
      (h : bytesIn t p = .ok old) :
      ∃ place, t.place p = .ok place ∧ t.root.at? place = some (.file old) ∧
        (FileAccess.write p text : StateM Tree _).run t =
          (.ok (), t.withBytes place (Utf8.encode text.toList)) := by
    obtain ⟨place, hplace, hfile⟩ := exists_place_of_read h
    exact ⟨place, hplace, hfile, run_write (write_eq hplace hfile text)⟩
  refine ⟨fun _ _ _ _ => rfl, ?_, ?_, ?_, ?_⟩
  · intro t _ p _ old text hread
    obtain ⟨place, -, -, hwrite⟩ := hrun text hread
    rw [hwrite]
  · intro t ht p _ old text hread
    obtain ⟨place, -, hfile, hwrite⟩ := hrun text hread
    rw [written, hwrite]
    intro q hq q' hq' hdiffer
    rw [place_withBytes hfile, place_withBytes hfile]
    exact ht q hq q' hq' hdiffer
  · intro t _ p _ old text hread
    obtain ⟨place, hplace, hfile, hwrite⟩ := hrun text hread
    rw [written, hwrite]
    exact (read_withBytes hfile _ p).trans (if_pos hplace)
  · intro t ht p hp old text hread q hq hdiffer
    obtain ⟨place, hplace, hfile, hwrite⟩ := hrun text hread
    rw [written, hwrite]
    exact (read_withBytes hfile _ q).trans (if_neg (ht p hp q hq hdiffer place hplace))

end Tree

end File

end StructTags
