import StructTags.Proofs.Splicing

/-!
# Fixing a text all at once

Fixes for one file are applied from the back, each to the text that the ones behind it have left.
The result is nevertheless a function of the original text alone: `Simultaneous` says which fixes
are accepted, which of those are applied, and what the bytes of the result are.

* `choose_keeps`, `pairwise_choose` and `exists_conflict_of_skipped` say what choosing does in one
  pass over the fixes in order;
* `fits_eq_liesIn` puts the condition for applying a fix in terms of boundaries;
* `Spliced.encode_eq` turns the replacement of characters into one of bytes.

They meet in `applyAll_simultaneous`.
-/

namespace StructTags

open Utf8 (size encode)

/-! ## Bytes and boundaries -/

theorem Utf8.length_encode (cs : List Char) : (encode cs).length = size cs := by
  induction cs with
  | nil => rfl
  | cons c rest ih =>
    rw [size, ← ih, encode, encode, List.flatMap_cons, List.length_append,
      String.length_utf8EncodeChar]

theorem Utf8.encode_append (cs ds : List Char) : encode (cs ++ ds) = encode cs ++ encode ds :=
  List.flatMap_append

theorem Utf8.drop_encode_append (cs ds : List Char) :
    (encode (cs ++ ds)).drop (size cs) = encode ds := by
  rw [encode_append, ← length_encode, List.drop_left]

theorem Offset.isBoundary_iff {n : Nat} {cs : List Char} :
    isBoundary n cs = true ↔ ∃ front back, cs = front ++ back ∧ size front = n := by
  simp [isBoundary, Option.isSome_iff_exists, Offset.cut?_eq_some_iff]

namespace Fix

/-- Whether the place of a fix lies within a text and starts and ends on character boundaries. -/
def liesIn (f : Fix) (cs : List Char) : Bool :=
  f.span.stop ≤ size cs && Offset.isBoundary f.span.start cs && Offset.isBoundary f.span.stop cs

theorem fits_eq_liesIn (f : Fix) (cs : List Char) : f.fits cs = f.liesIn cs := by
  rw [Bool.eq_iff_iff, fits_iff, liesIn, Bool.and_eq_true, Bool.and_eq_true, decide_eq_true_eq,
    Offset.isBoundary_iff, Offset.isBoundary_iff]
  constructor
  · rintro ⟨front, inner, back, rfl, hstart, hstop⟩
    refine ⟨⟨?_, front, inner ++ back, by simp, hstart⟩, front ++ inner, back, rfl, ?_⟩
    · rw [Utf8.size_append, Utf8.size_append]
      omega
    · rw [Utf8.size_append]
      omega
  · rintro ⟨⟨-, front, tail, rfl, hstart⟩, before, back, hcut, hstop⟩
    -- the place ends no earlier than it starts
    obtain ⟨inner, rfl, rfl⟩ := Offset.exists_between hcut (by have := f.start_le_stop; omega)
    rw [Utf8.size_append] at hstop
    exact ⟨front, inner, back, by simp, hstart, by omega⟩

/-- The bytes from number `n` on, with the bytes at the place of each fix replaced. -/
def splicedBytes (bytes : List Utf8.Byte) : Nat → List Fix → List Utf8.Byte
  | n, [] => bytes.drop n
  | n, f :: rest =>
    (bytes.drop n).take (f.span.start - n) ++ encode f.replacement.toList ++
      splicedBytes bytes f.span.stop rest

end Fix

/-- Replacing characters replaces their bytes. -/
theorem Spliced.encode_eq {front cs ds : List Char} {fixes : List Fix}
    (h : Spliced (size front) (fixes.map Fix.swap) cs ds) :
    encode ds = Fix.splicedBytes (encode (front ++ cs)) (size front) fixes := by
  induction fixes generalizing front cs ds with
  | nil =>
    cases h
    rw [Fix.splicedBytes, Utf8.drop_encode_append]
  | cons f rest ih =>
    rw [List.map_cons] at h
    generalize hswap : f.swap = swap at h
    cases h with
    | @cons _ span kept old new tail tail' _ hstart hstop hrest =>
      obtain ⟨rfl, rfl⟩ := Prod.mk.inj hswap
      have hsize : size (front ++ kept ++ old) = f.span.stop := by
        rw [Utf8.size_append, Utf8.size_append]
        omega
      have htake : (encode (kept ++ old ++ tail)).take (f.span.start - size front) =
          encode kept := by
        rw [hstart, Nat.add_sub_cancel_left, List.append_assoc, Utf8.encode_append,
          ← Utf8.length_encode, List.take_left]
      rw [← hsize] at hrest
      rw [Fix.splicedBytes, Utf8.drop_encode_append, htake, Utf8.encode_append, Utf8.encode_append,
        ih hrest, hsize]
      simp [List.append_assoc]

namespace Fix

/-! ## Choosing -/

/-- What was taken before stays, and the other fixes are kept in their order or skipped. -/
theorem choose_keeps (taken fixes : List Fix) :
    ∃ kept, (choose taken fixes).1 = taken.reverse ++ kept ∧ kept.Sublist fixes ∧
      (kept ++ (choose taken fixes).2).Perm fixes := by
  fun_induction choose taken fixes with
  | case1 taken => exact ⟨[], by simp, .slnil, .nil⟩
  | case2 taken f rest _ chosen skipped heq ih =>
    rw [heq] at ih
    obtain ⟨kept, hchosen, hsub, hperm⟩ := ih
    exact ⟨kept, hchosen, hsub.cons f, List.perm_middle.trans (hperm.cons f)⟩
  | case3 taken f rest _ ih =>
    obtain ⟨kept, hchosen, hsub, hperm⟩ := ih
    exact ⟨f :: kept, by rw [hchosen]; simp, hsub.cons_cons f, hperm.cons f⟩

/-- No two fixes that are taken conflict. -/
theorem pairwise_choose {taken : List Fix} (fixes : List Fix)
    (h : taken.reverse.Pairwise fun a b => a.conflictsWith b = false) :
    (choose taken fixes).1.Pairwise fun a b => a.conflictsWith b = false := by
  fun_induction choose taken fixes with
  | case1 taken => exact h
  | case2 taken f rest _ chosen skipped heq ih =>
    rw [heq] at ih
    exact ih h
  | case3 taken f rest hfree ih =>
    refine ih ?_
    rw [List.reverse_cons, List.pairwise_append]
    refine ⟨h, List.pairwise_singleton _ _, ?_⟩
    intro a ha b hb
    obtain rfl := List.mem_singleton.1 hb
    have hnone := hfree
    rw [List.any_eq_true] at hnone
    exact Bool.eq_false_of_not_eq_true fun hab => hnone ⟨a, List.mem_reverse.1 ha, hab⟩

/-- A fix is skipped for one that comes before it and is taken. -/
theorem exists_conflict_of_skipped {taken fixes : List Fix} {f : Fix}
    (h : (taken.reverse ++ fixes).Pairwise fun a b => a.notAfter b = true)
    (hf : f ∈ (choose taken fixes).2) :
    ∃ g ∈ (choose taken fixes).1, g.notAfter f = true ∧ g.conflictsWith f = true := by
  fun_induction choose taken fixes with
  | case1 taken => simp at hf
  | case2 taken g rest hconflict chosen skipped heq ih =>
    rw [heq] at ih
    rcases List.mem_cons.1 hf with rfl | hf
    · obtain ⟨kept, hkept, hab⟩ := List.any_eq_true.1 hconflict
      obtain ⟨_, hchosen, -⟩ := choose_keeps taken rest
      rw [heq] at hchosen
      have hbefore := (List.pairwise_append.1 h).2.2 kept (List.mem_reverse.2 hkept) f
        List.mem_cons_self
      refine ⟨kept, ?_, hbefore, hab⟩
      rw [hchosen]
      exact List.mem_append_left _ (List.mem_reverse.2 hkept)
    · exact ih (h.sublist ((List.sublist_cons_self g rest).append_left _)) hf
  | case3 taken g rest _ ih =>
    refine ih ?_ hf
    rwa [List.reverse_cons, List.append_assoc]

/-- The fixes that are taken, in the order of their places. -/
def accepted (fixes : List Fix) : List Fix :=
  (choose [] (inOrder fixes)).1

/-! ## All at once -/

/-- A result that comes from fixing the original text in one go. -/
structure Simultaneous (content : String) (fixes : List Fix) (result : FixResult) : Prop where
  /-- Every fix is accepted or skipped. -/
  partition : (accepted fixes ++ result.skipped).Perm fixes
  /-- Accepted fixes come in the order of their places, and at one place in the order given. -/
  ordered : (accepted fixes).Sublist (inOrder fixes)
  /-- No accepted fix reaches into the next one. -/
  apart : (accepted fixes).Pairwise fun a b => a.span.stop ≤ b.span.start
  /-- A fix is skipped only if it overlaps an accepted one before it. -/
  overlaps : ∀ f ∈ result.skipped, ∃ g ∈ accepted fixes,
    g.notAfter f = true ∧ g.conflictsWith f = true
  /-- Of the accepted fixes those are applied that have a place in the original text. -/
  applied_eq : result.applied = (accepted fixes).filter (·.liesIn content.toList)
  /-- Each of the others is an error, and they are tried from the back. -/
  failed_eq : result.failed = ((accepted fixes).filter (!·.liesIn content.toList)).reverse
  /-- At the places of the applied fixes the bytes are replaced, and all others are kept. -/
  bytes_eq : encode result.content.toList = splicedBytes (encode content.toList) 0 result.applied
  /-- Every fix is applied, skipped or an error. -/
  count_eq : result.applied.length + result.skipped.length + result.errors.length = fixes.length

/-- Applying fixes for one file replaces the places of those that are applied all at once. -/
theorem applyAll_simultaneous (content : String) {fixes : List Fix}
    (hfile : ∀ a ∈ fixes, ∀ b ∈ fixes, Path.same a.location.file b.location.file = true) :
    Simultaneous content fixes (applyAll content fixes) := by
  obtain ⟨kept, hkept, hsub, hperm⟩ := choose_keeps [] (inOrder fixes)
  obtain rfl : accepted fixes = kept := hkept
  have horder := pairwise_inOrder fixes
  have hfree : (accepted fixes).Pairwise fun a b => a.conflictsWith b = false :=
    pairwise_choose (inOrder fixes) .nil
  have hmem (f : Fix) (hf : f ∈ accepted fixes) : f ∈ fixes :=
    (inOrder_perm fixes).mem_iff.1 (hsub.subset hf)
  have hapart : (accepted fixes).Pairwise fun a b => a.span.stop ≤ b.span.start := by
    refine ((horder.sublist hsub).and hfree).imp_of_mem ?_
    intro a b ha hb hab
    exact stop_le_start (hfile a (hmem a ha) b (hmem b hb)) hab.1 hab.2
  obtain ⟨happlied, hfailed, hspliced⟩ := @applyEach_reverse content.toList _ hapart
  simp only [fits_eq_liesIn] at happlied hfailed hspliced
  have hpartition : (accepted fixes ++ (applyAll content fixes).skipped).Perm fixes :=
    hperm.trans (inOrder_perm fixes)
  refine ⟨hpartition, hsub, hapart, ?_, happlied, hfailed, ?_, ?_⟩
  · intro f hf
    exact @exists_conflict_of_skipped [] _ f horder hf
  · have htext : (applyAll content fixes).content.toList =
        (applyEach content.toList (accepted fixes).reverse).text := String.toList_ofList
    rw [htext, show (applyAll content fixes).applied = _ from happlied]
    exact @Spliced.encode_eq [] _ _ _ hspliced
  · have hsplit := @List.length_eq_length_filter_add _ (accepted fixes) (·.liesIn content.toList)
    have htotal := hpartition.length_eq
    rw [List.length_append] at htotal
    rw [FixResult.errors, List.length_map, show (applyAll content fixes).applied = _ from happlied,
      show (applyAll content fixes).failed = _ from hfailed, List.length_reverse]
    omega

/-- A fix at the given place, named by its offset. -/
def fixAt (offset length : Nat) (replacement : String) : Fix :=
  ⟨toString offset, "", ⟨"a.go", 0, 0, offset, length⟩, replacement, .always, ""⟩

/-- Fixes for a text of one two-byte character and four digits: they insert, touch, overlap, cut the
character and reach behind the end. -/
def mixedFixes : List Fix :=
  [fixAt 4 1 "x", fixAt 1 1 "cut", fixAt 2 2 "", fixAt 3 2 "late", fixAt 2 0 "ß",
    fixAt 5 9 "behind"]

set_option maxRecDepth 100000 in
theorem applyAll_simultaneous_mixed :
    Simultaneous "é0123" mixedFixes (applyAll "é0123" mixedFixes) ∧
      applyAll "é0123" mixedFixes =
        { content := "éßx3"
          applied := [fixAt 2 0 "ß", fixAt 2 2 "", fixAt 4 1 "x"]
          skipped := [fixAt 3 2 "late"]
          failed := [fixAt 5 9 "behind", fixAt 1 1 "cut"] } := by
  have hsort : inOrder mixedFixes = [fixAt 1 1 "cut", fixAt 2 0 "ß", fixAt 2 2 "",
      fixAt 3 2 "late", fixAt 4 1 "x", fixAt 5 9 "behind"] := by
    cbv
  refine ⟨applyAll_simultaneous "é0123" (by decide), ?_⟩
  rw [applyAll, hsort]
  decide

end Fix

end StructTags
