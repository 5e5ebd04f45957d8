import Mathlib
import StructTags.Fix.Basic

/-!
# Splicing fixes into a text

Fixes are applied one after the other, the last place first. `Spliced` describes their effect as
one simultaneous replacement: the text under each span is replaced and everything else is kept.

* `applyTo?_spliced` is the step: a fix in front of all places changed so far fits the changed text
  exactly if it fits the original one, and applying it adds one replacement;
* `applyEach_reverse` is the run over fixes in the order of their places;
* `applyAll_of_fits` says that fixes which fit and do not conflict are all applied.
-/

namespace StructTags

open Utf8 (size)

/-! ## Cutting a text -/

namespace Offset

theorem size_eq_zero {cs : List Char} (h : size cs = 0) : cs = [] := by
  cases cs with
  | nil => rfl
  | cons c rest =>
    have hpos := c.utf8Size_pos
    rw [size] at h
    omega

/-- Of two ways to cut one text, the cut after fewer bytes comes first. -/
theorem exists_between {a b c d : List Char} (h : a ++ b = c ++ d) (hle : size a ≤ size c) :
    ∃ e, c = a ++ e ∧ b = e ++ d := by
  rcases List.append_eq_append_iff.1 h with ⟨e, hc, hb⟩ | ⟨e, ha, hd⟩
  · exact ⟨e, hc, hb⟩
  · rw [ha, Utf8.size_append] at hle
    have he : e = [] := size_eq_zero (by omega)
    exact ⟨[], by simp [ha, he], by simp [hd, he]⟩

theorem cut?_append (front back : List Char) :
    cut? (size front) (front ++ back) = some (front, back) := by
  induction front with
  | nil => simp [size, cut?]
  | cons c rest ih =>
    have hpos := c.utf8Size_pos
    obtain ⟨n, hn⟩ : ∃ n, size (c :: rest) = n + 1 := ⟨size (c :: rest) - 1, by rw [size]; omega⟩
    have hrest : n + 1 - c.utf8Size = size rest := by rw [← hn, size]; omega
    rw [hn, List.cons_append, cut?, hrest, ih, if_pos (by rw [← hn, size]; omega)]
    rfl

theorem cut?_eq_some_iff {n : Nat} {cs front back : List Char} :
    cut? n cs = some (front, back) ↔ cs = front ++ back ∧ size front = n := by
  constructor
  · intro h
    induction cs generalizing n front with
    | nil =>
      cases n with
      | zero => simp_all [cut?, size]
      | succ n => simp [cut?] at h
    | cons c rest ih =>
      cases n with
      | zero => simp_all [cut?, size]
      | succ n =>
        rw [cut?] at h
        split at h
        · obtain ⟨⟨front', back'⟩, hcut, heq⟩ := Option.map_eq_some_iff.1 h
          obtain ⟨rfl, rfl⟩ := Prod.mk.inj heq
          obtain ⟨hrest, hsize⟩ := ih hcut
          refine ⟨by rw [hrest, List.cons_append], ?_⟩
          rw [size]
          omega
        · simp at h
  · rintro ⟨rfl, rfl⟩
    exact cut?_append front back

theorem slice?_eq_some_iff {start stop : Nat} {cs inner : List Char} :
    slice? start stop cs = some inner ↔
      ∃ front back, cs = front ++ inner ++ back ∧ size front = start ∧
        start + size inner = stop := by
  simp only [slice?, Option.bind_eq_bind, Option.bind_eq_some_iff, Prod.exists, cut?_eq_some_iff,
    Option.pure_def, Option.some.injEq]
  constructor
  · rintro ⟨_, back, ⟨rfl, rfl⟩, front, _, ⟨rfl, rfl⟩, rfl⟩
    exact ⟨front, back, rfl, rfl, (Utf8.size_append _ _).symm⟩
  · rintro ⟨front, back, rfl, rfl, rfl⟩
    exact ⟨front ++ inner, back, ⟨rfl, Utf8.size_append _ _⟩, front, inner, ⟨rfl, rfl⟩, rfl⟩

theorem splice?_eq_some_iff {start stop : Nat} {new cs ds : List Char} :
    splice? start stop new cs = some ds ↔
      ∃ front inner back, cs = front ++ inner ++ back ∧ size front = start ∧
        start + size inner = stop ∧ ds = front ++ new ++ back := by
  simp only [splice?, Option.bind_eq_bind, Option.bind_eq_some_iff, Prod.exists, cut?_eq_some_iff,
    Option.pure_def, Option.some.injEq]
  constructor
  · rintro ⟨_, back, ⟨rfl, rfl⟩, front, inner, ⟨rfl, rfl⟩, rfl⟩
    exact ⟨front, inner, back, rfl, rfl, (Utf8.size_append _ _).symm, rfl⟩
  · rintro ⟨front, inner, back, rfl, rfl, rfl, rfl⟩
    exact ⟨front ++ inner, back, ⟨rfl, Utf8.size_append _ _⟩, front, inner, ⟨rfl, rfl⟩, rfl⟩

end Offset

/-! ## Simultaneous replacement -/

/-- `Spliced n swaps cs ds` says that the text `cs`, which begins at byte `n`, becomes `ds` when
the part under each span of `swaps` is replaced by the text beside it. The spans come in the order
of the text and do not overlap, and what lies outside of them is kept. -/
inductive Spliced : Nat → List (Span × List Char) → List Char → List Char → Prop
  | nil {n : Nat} {cs : List Char} : Spliced n [] cs cs
  | cons {n : Nat} {span : Span} {kept old new tail tail' : List Char}
      {rest : List (Span × List Char)} (hstart : span.start = n + size kept)
      (hstop : span.stop = span.start + size old) (hrest : Spliced span.stop rest tail tail') :
      Spliced n ((span, new) :: rest) (kept ++ old ++ tail) (kept ++ new ++ tail')

namespace Spliced

variable {n : Nat} {swaps : List (Span × List Char)} {cs ds front : List Char}

/-- What lies in front of all replacements stays in front. -/
theorem tail {back : List Char} (h : Spliced n swaps (front ++ back) ds)
    (hafter : ∀ x ∈ swaps, n + size front ≤ x.1.start) :
    ∃ back', ds = front ++ back' ∧ Spliced (n + size front) swaps back back' := by
  generalize hcs : front ++ back = cs at h
  cases h with
  | nil => exact ⟨back, hcs.symm, .nil⟩
  | @cons _ span kept old new tail tail' rest hstart hstop hrest =>
    have hle : n + size front ≤ span.start := hafter _ List.mem_cons_self
    rw [List.append_assoc] at hcs
    obtain ⟨between, rfl, rfl⟩ := Offset.exists_between hcs (by omega)
    rw [Utf8.size_append] at hstart
    refine ⟨between ++ new ++ tail', by simp, ?_⟩
    rw [← List.append_assoc]
    exact .cons (by omega) hstop hrest

/-- Nothing comes to lie in front of all replacements that was not there. -/
theorem front_unchanged {back' : List Char} (h : Spliced n swaps cs (front ++ back'))
    (hafter : ∀ x ∈ swaps, n + size front ≤ x.1.start) : ∃ back, cs = front ++ back := by
  generalize hds : front ++ back' = ds at h
  cases h with
  | nil => exact ⟨back', hds.symm⟩
  | @cons _ span kept old new tail tail' rest hstart hstop hrest =>
    have hle : n + size front ≤ span.start := hafter _ List.mem_cons_self
    rw [List.append_assoc] at hds
    obtain ⟨between, rfl, -⟩ := Offset.exists_between hds (by omega)
    exact ⟨between ++ old ++ tail, by simp⟩

end Spliced

theorem Path.same_comm (a b : String) : Path.same a b = Path.same b a := by
  simp [Path.same, eq_comm]

namespace Fix

/-! ## Applying in order -/

/-- Whether the place of a fix lies in a text and cuts no character. -/
def fits (f : Fix) (cs : List Char) : Bool :=
  (Offset.slice? f.span.start f.span.stop cs).isSome

/-- The replacement that a fix makes. -/
def swap (f : Fix) : Span × List Char :=
  (f.span, f.replacement.toList)

theorem fits_iff {f : Fix} {cs : List Char} :
    f.fits cs = true ↔ ∃ front inner back, cs = front ++ inner ++ back ∧
      size front = f.span.start ∧ f.span.start + size inner = f.span.stop := by
  simp only [fits, Option.isSome_iff_exists, Offset.slice?_eq_some_iff]
  constructor
  · rintro ⟨inner, front, back, h⟩
    exact ⟨front, inner, back, h⟩
  · rintro ⟨front, inner, back, h⟩
    exact ⟨inner, front, back, h⟩

/-- Once the places behind a fix have changed, the fix can still be applied exactly if it fits the
original text, and applying it adds its replacement to those made. -/
theorem applyTo?_spliced {f : Fix} {swaps : List (Span × List Char)} {cs ds : List Char}
    (h : Spliced 0 swaps cs ds) (hafter : ∀ x ∈ swaps, f.span.stop ≤ x.1.start) :
    (f.fits cs = true ∧ ∃ text, f.applyTo? ds = some text ∧ Spliced 0 (f.swap :: swaps) cs text) ∨
      (f.fits cs = false ∧ f.applyTo? ds = none) := by
  by_cases hfits : f.fits cs = true
  · -- up to the end of its place the changed text is the original one
    obtain ⟨front, inner, back, rfl, hfront, hinner⟩ := fits_iff.1 hfits
    have hsize : 0 + size (front ++ inner) = f.span.stop := by rw [Utf8.size_append]; omega
    obtain ⟨back', rfl, hback⟩ := h.tail (by rwa [hsize])
    rw [hsize] at hback
    refine .inl ⟨hfits, front ++ f.replacement.toList ++ back', ?_, ?_⟩
    · exact Offset.splice?_eq_some_iff.2 ⟨front, inner, back', rfl, hfront, hinner, rfl⟩
    · exact .cons (by omega) hinner.symm hback
  · refine .inr ⟨by simpa using hfits, Option.eq_none_iff_forall_ne_some.2 fun text htext => ?_⟩
    -- a place in the changed text would lie in its unchanged front
    obtain ⟨front, inner, back', rfl, hfront, hinner, -⟩ := Offset.splice?_eq_some_iff.1 htext
    have hsize : 0 + size (front ++ inner) = f.span.stop := by rw [Utf8.size_append]; omega
    obtain ⟨back, rfl⟩ := h.front_unchanged (by rwa [hsize])
    exact hfits (fits_iff.2 ⟨front, inner, back, rfl, hfront, hinner⟩)

theorem applyEach_append_singleton (cs : List Char) (fixes : List Fix) (f : Fix) :
    applyEach cs (fixes ++ [f]) =
      match f.applyTo? (applyEach cs fixes).text with
      | some text =>
        { applyEach cs fixes with text, applied := f :: (applyEach cs fixes).applied }
      | none => { applyEach cs fixes with failed := (applyEach cs fixes).failed ++ [f] } := by
  rw [applyEach, List.foldl_append]
  rfl

/-- Applied from the back, fixes in the order of their places make one simultaneous replacement:
those that fit the original text are applied, and the others are left out. -/
theorem applyEach_reverse {cs : List Char} {fixes : List Fix}
    (h : fixes.Pairwise fun a b => a.span.stop ≤ b.span.start) :
    (applyEach cs fixes.reverse).applied = fixes.filter (·.fits cs) ∧
      (applyEach cs fixes.reverse).failed = (fixes.filter (!·.fits cs)).reverse ∧
      Spliced 0 ((fixes.filter (·.fits cs)).map swap) cs (applyEach cs fixes.reverse).text := by
  -- the fixes behind `f` are applied first, so the induction hypothesis is about the text `f` meets
  induction fixes with
  | nil => exact ⟨rfl, rfl, .nil⟩
  | cons f rest ih =>
    obtain ⟨hafter, hrest⟩ := List.pairwise_cons.1 h
    obtain ⟨happlied, hfailed, htext⟩ := ih hrest
    have hswaps : ∀ x ∈ (rest.filter (·.fits cs)).map swap, f.span.stop ≤ x.1.start := by
      intro x hx
      obtain ⟨g, hg, rfl⟩ := List.mem_map.1 hx
      exact hafter g (List.mem_of_mem_filter hg)
    rw [List.reverse_cons, applyEach_append_singleton]
    rcases applyTo?_spliced htext hswaps with ⟨hfits, text, heq, hspliced⟩ | ⟨hfits, heq⟩
    · simp [heq, hfits, happlied, hfailed, hspliced]
    · simp [heq, hfits, happlied, hfailed, htext]

/-! ## Fixes that do not conflict -/

theorem start_le_stop (f : Fix) : f.span.start ≤ f.span.stop :=
  Nat.le_add_right _ _

theorem conflictsWith_comm (a b : Fix) : a.conflictsWith b = b.conflictsWith a := by
  rw [conflictsWith, conflictsWith, Path.same_comm, Bool.or_comm]

theorem choose_of_pairwise {taken fixes : List Fix}
    (h : (taken.reverse ++ fixes).Pairwise fun a b => a.conflictsWith b = false) :
    choose taken fixes = (taken.reverse ++ fixes, []) := by
  induction fixes generalizing taken with
  | nil => simp [choose]
  | cons f rest ih =>
    have hfree : taken.any (·.conflictsWith f) = false := by
      rw [List.any_eq_false]
      intro g hg
      simpa using (List.pairwise_append.1 h).2.2 g (List.mem_reverse.2 hg) f List.mem_cons_self
    have hrest : ((f :: taken).reverse ++ rest).Pairwise fun a b => a.conflictsWith b = false := by
      rwa [List.reverse_cons, List.append_assoc]
    rw [choose, hfree, if_neg (by simp), ih hrest]
    simp

theorem inOrder_perm (fixes : List Fix) : (inOrder fixes).Perm fixes :=
  List.mergeSort_perm fixes notAfter

theorem pairwise_inOrder (fixes : List Fix) :
    (inOrder fixes).Pairwise fun a b => a.notAfter b = true := by
  apply List.pairwise_mergeSort
  · intro a b c hab hbc
    simp only [notAfter, Bool.or_eq_true, Bool.and_eq_true, decide_eq_true_eq] at hab hbc ⊢
    omega
  · intro a b
    simp only [notAfter, Bool.or_eq_true, Bool.and_eq_true, decide_eq_true_eq]
    omega

/-- Of two fixes in order that do not conflict, the first ends where the second starts, or
before. -/
theorem stop_le_start {a b : Fix} (hfile : Path.same a.location.file b.location.file = true)
    (horder : a.notAfter b = true) (hfree : a.conflictsWith b = false) :
    a.span.stop ≤ b.span.start := by
  -- of two fixes at one place the first one is empty, by the order of their ends
  have ha := a.start_le_stop
  have hb := b.start_le_stop
  simp only [notAfter, Bool.or_eq_true, Bool.and_eq_true, decide_eq_true_eq] at horder
  simp only [conflictsWith, hfile, Bool.true_and, Bool.not_eq_false', Bool.or_eq_true,
    decide_eq_true_eq] at hfree
  omega

/-- Fixes for one file that fit and do not conflict are all applied. -/
theorem applyAll_of_fits {content : String} {fixes : List Fix}
    (hfile : ∀ a ∈ fixes, ∀ b ∈ fixes, Path.same a.location.file b.location.file = true)
    (hfree : fixes.Pairwise fun a b => a.conflictsWith b = false)
    (hfits : ∀ f ∈ fixes, f.fits content.toList = true) :
    (applyAll content fixes).applied = inOrder fixes ∧
      (applyAll content fixes).skipped = [] ∧ (applyAll content fixes).failed = [] ∧
      Spliced 0 ((inOrder fixes).map swap) content.toList
        (applyAll content fixes).content.toList := by
  have hperm := inOrder_perm fixes
  have hfree' : (inOrder fixes).Pairwise fun a b => a.conflictsWith b = false := by
    refine (hperm.pairwise_iff ?_).2 hfree
    intro a b hab
    rwa [conflictsWith_comm]
  have hchoose : choose [] (inOrder fixes) = (inOrder fixes, []) := choose_of_pairwise hfree'
  have hordered : (inOrder fixes).Pairwise fun a b => a.span.stop ≤ b.span.start := by
    refine ((pairwise_inOrder fixes).and hfree').imp_of_mem ?_
    intro a b ha hb hab
    exact stop_le_start (hfile a (hperm.mem_iff.1 ha) b (hperm.mem_iff.1 hb)) hab.1 hab.2
  have hall : (inOrder fixes).filter (·.fits content.toList) = inOrder fixes := by
    rw [List.filter_eq_self]
    exact fun f hf => hfits f (hperm.mem_iff.1 hf)
  have hnone : (inOrder fixes).filter (!·.fits content.toList) = [] := by
    rw [List.filter_eq_nil_iff]
    intro f hf
    simp [hfits f (hperm.mem_iff.1 hf)]
  obtain ⟨happlied, hfailed, htext⟩ := @applyEach_reverse content.toList _ hordered
  rw [hall] at happlied htext
  rw [hnone] at hfailed
  simp [applyAll, hchoose, happlied, hfailed, htext]

end Fix

end StructTags
