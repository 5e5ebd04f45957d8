import StructTags.Document

/-!
# TOML tables

A table is built up entry by entry. Its origin decides what may be added to it later: a table that a
header named cannot be named again or be extended by dotted keys, and one that dotted keys made
cannot be named by a header.
-/

namespace StructTags

namespace Toml

/-- How a table came into being. -/
inductive Origin where
  /-- Named by a header or written between braces. -/
  | named
  /-- On the way to a table that a header names. -/
  | implied
  /-- On the way to a value that a dotted key names. -/
  | dotted
deriving DecidableEq, Repr

mutual

inductive Item where
  /-- A value that is complete. -/
  | value (d : Document)
  | table (t : Table)
  /-- The tables that headers in double brackets named, the last one first. -/
  | tables (last : Table) (before : List Table)

structure Table where
  origin : Origin
  entries : List (String × Item)

end

namespace Table

def empty (origin : Origin) : Table := ⟨origin, []⟩

def get? (t : Table) (key : String) : Option Item :=
  t.entries.lookup key

/-- Adds an entry or replaces the one with the same key. -/
def insert (t : Table) (key : String) (item : Item) : Table :=
  ⟨t.origin, (key, item) :: t.entries.filter (·.1 ≠ key)⟩

/-- Changes the table that a path leads to, and makes those on the way that are missing. Of several
tables under one key the path leads to the last. -/
def modify? (missing : Origin) (f : Table → Option Table) : List String → Table → Option Table
  | [], t => f t
  | key :: path, t => do
    let item ← match t.get? key with
      | none => do pure (Item.table (← modify? missing f path (empty missing)))
      | some (.value _) => none
      | some (.tables last before) => do pure (.tables (← modify? missing f path last) before)
      | some (.table sub) =>
        if missing = .dotted && sub.origin = .named then none
        else do pure (.table (← modify? missing f path sub))
    return t.insert key item

/-- Adds a value under a key whose leading parts are `path`. -/
def define? (path : List String) (key : String) (d : Document) : Table → Option Table :=
  modify? .dotted
    (fun t =>
      if decide (t.origin = .dotted) == path.isEmpty || (t.get? key).isSome then none
      else some (t.insert key (.value d)))
    path

/-- Names a table by a header. -/
def header? (path : List String) (key : String) : Table → Option Table :=
  modify? .implied
    (fun t => match t.get? key with
      | none => some (t.insert key (.table (empty .named)))
      | some (.table sub) =>
        if sub.origin = .implied then some (t.insert key (.table ⟨.named, sub.entries⟩)) else none
      | _ => none)
    path

/-- Names one more table of several under one key. -/
def nextHeader? (path : List String) (key : String) : Table → Option Table :=
  modify? .implied
    (fun t => match t.get? key with
      | none => some (t.insert key (.tables (empty .named) []))
      | some (.tables last before) =>
        some (t.insert key (.tables (empty .named) (last :: before)))
      | _ => none)
    path

mutual

def toDocument : Table → Document
  | ⟨_, entries⟩ => .record (entriesOf entries)

def entriesOf : List (String × Item) → List (Leaf × Document)
  | [] => []
  | (key, .value d) :: rest => (.ofText key, d) :: entriesOf rest
  | (key, .table t) :: rest => (.ofText key, t.toDocument) :: entriesOf rest
  | (key, .tables last before) :: rest =>
    (.ofText key, .list ((last.toDocument :: listOf before).reverse)) :: entriesOf rest

def listOf : List Table → List Document
  | [] => []
  | t :: rest => t.toDocument :: listOf rest

end

end Table

end Toml

end StructTags
