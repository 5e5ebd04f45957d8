import StructTags.Diagnostic.Position
import StructTags.Proofs.LossyDecoding
import StructTags.Proofs.SimultaneousFixes

/-!
# Lines and columns of offsets

A `LineIndex` keeps where the lines of a text start, and an offset is searched among these starts.
They ascend (`pairwise_starts`), so the search answers where the offset stands or where it would
have to be inserted (`search_answers`), and either answer leads to the line that starts no later
than the offset while the next one starts behind it (`lineAt_eq`).

`OnLine` cuts a text around the line that an offset lies on; every offset has such a cut
(`exists_onLine`, which goes through the text as the index is built), and `OnLine.lineAt` says what
the look-up finds there.

From it `position_exact` reads off the position of every offset: the line counts the newlines in
front of the offset, and the column counts what stands between the last of them and the offset, in
characters if the offset is a boundary and in bytes if it is not. On boundaries the position grows
with the offset.
-/

namespace StructTags

open Utf8 (size encode)

/-! ## Newlines as characters and as bytes -/

theorem Utf8.decodeLossy_encode (cs : List Char) : decodeLossy (encode cs) = cs := by
  induction cs with
  | nil => rfl
  | cons c rest ih =>
    rw [encode, List.flatMap_cons, decodeLossy_encodeChar_append]
    exact congrArg (c :: ·) ih

theorem Utf8.count_encode_newline (cs : List Char) : (encode cs).count 0x0A = cs.count '\n' := by
  have hcount := count_decodeLossy_ascii (b := 0x0A) (by decide) (encode cs)
  rw [decodeLossy_encode] at hcount
  exact hcount.symm

theorem Utf8.newline_mem_encode_iff {cs : List Char} : 0x0A ∈ encode cs ↔ '\n' ∈ cs := by
  rw [← List.count_pos_iff, ← List.count_pos_iff, count_encode_newline]

theorem Utf8.utf8ByteSize_eq (s : String) : s.utf8ByteSize = size s.toList := by
  have hlen (cs : List Char) : String.utf8Len cs = size cs := by
    induction cs with
    | nil => rfl
    | cons c rest ih =>
      rw [String.utf8Len, size, ih]
      omega
  rw [← hlen, ← String.utf8ByteSize_ofList, String.ofList_toList]

/-- What follows the last newline goes on to the end if there is no newline in it. -/
theorem rtakeWhile_append_of_notMem {α : Type} [DecidableEq α] {newline : α} {xs : List α}
    (h : newline ∉ xs) (front : List α) :
    (front ++ xs).rtakeWhile (· ≠ newline) = front.rtakeWhile (· ≠ newline) ++ xs := by
  have hall : ∀ x ∈ xs.reverse, decide (x ≠ newline) = true := by
    intro x hx
    have hne : x ≠ newline := by
      rintro rfl
      exact h (List.mem_reverse.1 hx)
    simpa using hne
  unfold List.rtakeWhile
  rw [List.reverse_append, List.takeWhile_append_of_pos hall, List.reverse_append,
    List.reverse_reverse]

namespace LineIndex

/-! ## Where lines start -/

theorem startsFrom_append (n : Nat) (xs ys : List Char) :
    startsFrom n (xs ++ ys) = startsFrom n xs ++ startsFrom (n + size xs) ys := by
  induction xs generalizing n with
  | nil => rfl
  | cons c rest ih =>
    simp only [List.cons_append, startsFrom, size, ih, Nat.add_assoc]
    split
    · rfl
    · rfl

theorem startsFrom_of_notMem {cs : List Char} (h : '\n' ∉ cs) (n : Nat) : startsFrom n cs = [] := by
  induction cs generalizing n with
  | nil => rfl
  | cons c rest ih =>
    simp only [List.mem_cons, not_or] at h
    rw [startsFrom, if_neg (Ne.symm h.1), ih h.2]

theorem length_startsFrom (n : Nat) (cs : List Char) :
    (startsFrom n cs).length = cs.count '\n' := by
  induction cs generalizing n with
  | nil => rfl
  | cons c rest ih =>
    rw [startsFrom, List.count_cons]
    split
    · next hc => simp [ih, hc]
    · next hc => simp [ih, hc]

/-- A line starts behind the newline in front of it, and within the text. -/
theorem mem_startsFrom {n start : Nat} {cs : List Char} (h : start ∈ startsFrom n cs) :
    n < start ∧ start ≤ n + size cs := by
  induction cs generalizing n with
  | nil => simp [startsFrom] at h
  | cons c rest ih =>
    have hpos := c.utf8Size_pos
    rw [startsFrom] at h
    rw [size]
    split at h
    · rcases List.mem_cons.1 h with rfl | h
      · omega
      · have hrest := ih h
        omega
    · have hrest := ih h
      omega

theorem pairwise_startsFrom (n : Nat) (cs : List Char) : (startsFrom n cs).Pairwise (· < ·) := by
  induction cs generalizing n with
  | nil => exact .nil
  | cons c rest ih =>
    rw [startsFrom]
    split
    · exact .cons (fun _ hmem => (mem_startsFrom hmem).1) (ih _)
    · exact ih _

theorem pairwise_starts (source : String) : (ofSource source).starts.Pairwise (· < ·) :=
  .cons (fun _ hmem => (mem_startsFrom hmem).1) (pairwise_startsFrom 0 _)

/-! ## Looking up an offset -/

/-- What a search for `n` among ascending numbers may answer: an index at which `n` stands, or the
one at which it would have to be inserted for the numbers to stay ascending. -/
inductive Search.Answers (numbers : List Nat) (n : Nat) : Search → Prop where
  | found {i : Nat} (hfound : numbers[i]? = some n) : Answers numbers n (.found i)
  | missing {i : Nat} (hle : i ≤ numbers.length)
      (hbefore : ∀ j m, j < i → numbers[j]? = some m → m < n)
      (hafter : ∀ j m, i ≤ j → numbers[j]? = some m → n < m) : Answers numbers n (.missing i)

theorem lt_of_getElem? {numbers : List Nat} (h : numbers.Pairwise (· < ·)) {i j a b : Nat}
    (hi : numbers[i]? = some a) (hj : numbers[j]? = some b) (hij : i < j) : a < b := by
  obtain ⟨hi', rfl⟩ := List.getElem?_eq_some_iff.1 hi
  obtain ⟨hj', rfl⟩ := List.getElem?_eq_some_iff.1 hj
  exact List.pairwise_iff_getElem.1 h i j hi' hj' hij

theorem search_answers {numbers : List Nat} (h : numbers.Pairwise (· < ·)) (n : Nat) :
    Search.Answers numbers n (search numbers n) := by
  simp only [search]
  split
  · next hfound => exact .found hfound
  · next hmissing =>
    refine .missing List.findIdx_le_length ?_ ?_
    · intro j m hj hm
      obtain ⟨hj', rfl⟩ := List.getElem?_eq_some_iff.1 hm
      have hnot := List.not_of_lt_findIdx hj
      simpa using hnot
    · -- the number at the index itself is no less than `n` and is not `n`
      intro j m hj hm
      have hlength : numbers.findIdx (n ≤ ·) < numbers.length := by
        have hlt := (List.getElem?_eq_some_iff.1 hm).1
        omega
      have hat := List.getElem?_eq_getElem hlength
      have hle : n ≤ numbers[numbers.findIdx (n ≤ ·)] := by
        simpa using List.findIdx_getElem (w := hlength)
      have hne : n ≠ numbers[numbers.findIdx (n ≤ ·)] := by
        intro heq
        exact hmissing (by rw [hat, ← heq])
      rcases Nat.eq_or_lt_of_le hj with rfl | hj
      · obtain rfl : _ = m := Option.some.inj (hat.symm.trans hm)
        omega
      · have hlt := lt_of_getElem? h hat hm hj
        omega

/-- The line of an offset is the one that starts no later than it, while the next line, if there is
one, starts behind it. -/
theorem lineAt_eq {index : LineIndex} (h : index.starts.Pairwise (· < ·)) {offset i start : Nat}
    (hstart : index.starts[i]? = some start) (hle : start ≤ offset)
    (hnext : ∀ next, index.starts[i + 1]? = some next → offset < next) :
    index.lineAt offset = (i + 1, start) := by
  -- not only the next line but every later one starts behind the offset
  have hbehind {j m : Nat} (hj : i < j) (hm : index.starts[j]? = some m) : offset < m := by
    rcases Nat.eq_or_lt_of_le (Nat.succ_le_of_lt hj) with rfl | hj
    · exact hnext m hm
    · have hlength := (List.getElem?_eq_some_iff.1 hm).1
      have hat := List.getElem?_eq_getElem (show i + 1 < index.starts.length by omega)
      exact (hnext _ hat).trans (lt_of_getElem? h hat hm hj)
  have hanswers := search_answers h offset
  unfold LineIndex.lineAt
  cases hsearch : search index.starts offset with
  | found j =>
    rw [hsearch] at hanswers
    cases hanswers with
    | found hfound =>
      -- a line that starts at the offset is neither an earlier nor a later one
      have hj : j = i := by
        rcases Nat.lt_trichotomy j i with hj | hj | hj
        · have hlt := lt_of_getElem? h hfound hstart hj
          omega
        · exact hj
        · exact absurd (hbehind hj hfound) (Nat.lt_irrefl _)
      simp only [hj, hstart, Option.getD_some]
  | missing j =>
    rw [hsearch] at hanswers
    cases hanswers with
    | missing hlength hbefore hafter =>
      -- the offset would be inserted between this line's start and the next one
      have hi : i < j := by
        by_contra hj
        have hlt := hafter i start (by omega) hstart
        omega
      have hj : j - 1 = i := by
        by_contra hne
        have hat := List.getElem?_eq_getElem (show i + 1 < index.starts.length by omega)
        exact Nat.lt_asymm (hbefore (i + 1) _ (by omega) hat) (hnext _ hat)
      simp only [hj, hstart, Option.getD_some]

/-! ## The line of an offset -/

/-- A text is cut around the line of an offset: `front` holds the lines before it, `line` is free
of newlines, and the offset lies behind it only if nothing follows. -/
structure OnLine (offset : Nat) (front line tail : List Char) : Prop where
  front_ends : front = [] ∨ ∃ before, front = before ++ ['\n']
  line_free : '\n' ∉ line
  start_le : size front ≤ offset
  le_stop : tail = [] ∨ offset ≤ size front + size line

/-- Going on from a line that starts no later than the offset, the line of the offset is found. -/
theorem exists_onLine_from {offset : Nat} {front line : List Char} (tail : List Char)
    (hends : front = [] ∨ ∃ before, front = before ++ ['\n']) (hfree : '\n' ∉ line)
    (hstart : size front ≤ offset) :
    ∃ front' line' tail', front ++ (line ++ tail) = front' ++ (line' ++ tail') ∧
      OnLine offset front' line' tail' := by
  induction tail generalizing front line with
  | nil => exact ⟨front, line, [], rfl, hends, hfree, hstart, .inl rfl⟩
  | cons c rest ih =>
    by_cases hstop : offset ≤ size front + size line
    · exact ⟨front, line, c :: rest, rfl, hends, hfree, hstart, .inr hstop⟩
    by_cases hc : c = '\n'
    · -- the next line starts behind this newline, which lies in front of the offset
      have hone : Char.utf8Size '\n' = 1 := by decide
      have hsize : size (front ++ line ++ ['\n']) ≤ offset := by
        simp only [Utf8.size_append, size, hone]
        omega
      rcases ih (.inr ⟨_, rfl⟩) List.not_mem_nil hsize with ⟨front', line', tail', heq, hline⟩
      refine ⟨front', line', tail', ?_, hline⟩
      rw [← heq, hc]
      simp
    · have hfree' : '\n' ∉ line ++ [c] := by
        simp [hfree, Ne.symm hc]
      rcases ih hends hfree' hstart with ⟨front', line', tail', heq, hline⟩
      refine ⟨front', line', tail', ?_, hline⟩
      rw [← heq]
      simp

theorem exists_onLine (cs : List Char) (offset : Nat) :
    ∃ front line tail, cs = front ++ (line ++ tail) ∧ OnLine offset front line tail :=
  @exists_onLine_from offset [] [] cs (.inl rfl) (by simp) (Nat.zero_le _)

namespace OnLine

variable {offset : Nat} {front line tail : List Char}

theorem getLast?_starts (h : OnLine offset front line tail) :
    (0 :: startsFrom 0 front).getLast? = some (size front) := by
  rcases h.front_ends with rfl | ⟨before, rfl⟩
  · rfl
  · have hlast : startsFrom 0 (before ++ ['\n']) = startsFrom 0 before ++ [size before + 1] := by
      rw [startsFrom_append, Nat.zero_add]
      rfl
    rw [hlast, ← List.cons_append, List.getLast?_concat, Utf8.size_append]
    rfl

/-- The look-up finds the line: its number counts the newlines in front of it, and it starts
behind the last of them. -/
theorem lineAt (h : OnLine offset front line tail) {source : String}
    (hsource : source.toList = front ++ (line ++ tail)) :
    (ofSource source).lineAt offset = (front.count '\n' + 1, size front) := by
  have hstarts : (ofSource source).starts =
      (0 :: startsFrom 0 front) ++ startsFrom (size front + size line) tail := by
    rw [ofSource, hsource, startsFrom_append, startsFrom_append, startsFrom_of_notMem h.line_free,
      Nat.zero_add, List.nil_append, List.cons_append]
  have hlength : (0 :: startsFrom 0 front).length = front.count '\n' + 1 := by
    rw [List.length_cons, length_startsFrom]
  refine lineAt_eq (pairwise_starts source) ?_ h.start_le ?_
  · rw [hstarts, List.getElem?_append_left (by omega), ← h.getLast?_starts,
      List.getLast?_eq_getElem?, hlength, Nat.add_sub_cancel]
  · -- the lines behind this one start behind its newline
    intro next hnext
    rw [hstarts, List.getElem?_append_right (by omega)] at hnext
    have hmem := List.mem_of_getElem? hnext
    rcases h.le_stop with rfl | hstop
    · simp [startsFrom] at hmem
    · have hlt := (mem_startsFrom hmem).1
      omega

/-- The bytes up to the offset: those of the lines in front, and then no newline any more. -/
theorem take_encode (h : OnLine offset front line tail) :
    ∃ rest, (encode (front ++ (line ++ tail))).take offset = encode front ++ rest ∧
      0x0A ∉ rest ∧ rest.length = min offset (size (front ++ (line ++ tail))) - size front := by
  have hstart := h.start_le
  refine ⟨(encode (line ++ tail)).take (offset - size front), ?_, ?_, ?_⟩
  · rw [Utf8.encode_append, List.take_append, Utf8.length_encode,
      List.take_of_length_le (by rw [Utf8.length_encode]; exact hstart)]
  · intro hmem
    have hline : 0x0A ∈ encode line := by
      rcases h.le_stop with rfl | hstop
      · rw [List.append_nil] at hmem
        exact List.mem_of_mem_take hmem
      · rw [Utf8.encode_append, List.take_append_of_le_length] at hmem
        · exact List.mem_of_mem_take hmem
        · rw [Utf8.length_encode]
          omega
    exact h.line_free (Utf8.newline_mem_encode_iff.1 hline)
  · simp only [List.length_take, Utf8.length_encode, Utf8.size_append]
    omega

/-- Behind the lines in front, the last line has just begun. -/
theorem rtakeWhile_front (h : OnLine offset front line tail) :
    front.rtakeWhile (· ≠ '\n') = [] ∧ (encode front).rtakeWhile (· ≠ 0x0A) = [] := by
  rcases h.front_ends with rfl | ⟨before, rfl⟩
  · exact ⟨rfl, rfl⟩
  · have hbytes : encode (before ++ ['\n']) = encode before ++ [0x0A] := by
      rw [Utf8.encode_append]
      rfl
    rw [hbytes]
    simp

/-- A boundary on the line cuts it in two. -/
theorem exists_cut (h : OnLine offset front line tail) {before after : List Char}
    (hcut : front ++ (line ++ tail) = before ++ after) (hsize : size before = offset) :
    ∃ shown, before = front ++ shown ∧ '\n' ∉ shown := by
  rcases Offset.exists_between hcut (by rw [hsize]; exact h.start_le) with ⟨shown, rfl, hrest⟩
  refine ⟨shown, rfl, ?_⟩
  intro hmem
  rw [Utf8.size_append] at hsize
  have hline : ∃ more, line = shown ++ more := by
    rcases h.le_stop with rfl | hstop
    · rw [List.append_nil] at hrest
      exact ⟨after, hrest⟩
    · rcases Offset.exists_between hrest.symm (by omega) with ⟨more, hline, -⟩
      exact ⟨more, hline⟩
  rcases hline with ⟨more, rfl⟩
  exact h.line_free (by simp [hmem])

end OnLine

/-! ## Positions -/

/-- The position of an offset in a text. -/
def positionIn (source : String) (offset : Nat) : Position :=
  (ofSource source).position source offset

section

variable {source : String} {offset : Nat} {front line tail : List Char}

/-- The position of an offset on a line: the column counts from the start of the line. -/
theorem positionIn_eq (h : OnLine offset front line tail)
    (hsource : source.toList = front ++ (line ++ tail)) :
    positionIn source offset = ⟨front.count '\n' + 1,
      ((Offset.slice? (size front) (min offset source.utf8ByteSize) source.toList).elim
        (min offset source.utf8ByteSize - size front) List.length) + 1⟩ := by
  have hstart : size front ≤ min offset source.utf8ByteSize := by
    have hle := h.start_le
    rw [Utf8.utf8ByteSize_eq, hsource, Utf8.size_append]
    omega
  unfold positionIn position
  simp only [h.lineAt hsource, Nat.max_eq_left hstart]
  cases Offset.slice? (size front) (min offset source.utf8ByteSize) source.toList with
  | none => rfl
  | some text => rfl

theorem line_positionIn (source : String) (offset : Nat) :
    (positionIn source offset).line =
      ((encode source.toList).take (min offset source.utf8ByteSize)).count 0x0A + 1 := by
  rcases exists_onLine source.toList offset with ⟨front, line, tail, hsource, h⟩
  rcases h.take_encode with ⟨rest, htake, hfree, -⟩
  have hmin : (encode source.toList).take (min offset source.utf8ByteSize) =
      (encode source.toList).take offset := by
    rw [Utf8.utf8ByteSize_eq, ← Utf8.length_encode, ← List.take_eq_take_min]
  rw [positionIn_eq h hsource, hmin, hsource, htake, List.count_append, Utf8.count_encode_newline,
    List.count_eq_zero.2 hfree]

/-- The position of a boundary, from the text in front of it. -/
theorem positionIn_boundary {before after : List Char} (hcut : source.toList = before ++ after) :
    positionIn source (size before) =
      ⟨before.count '\n' + 1, (before.rtakeWhile (· ≠ '\n')).length + 1⟩ := by
  rcases exists_onLine source.toList (size before) with ⟨front, line, tail, hsource, h⟩
  rcases h.exists_cut (hsource.symm.trans hcut) rfl with ⟨shown, rfl, hfree⟩
  have hle : size (front ++ shown) ≤ source.utf8ByteSize := by
    rw [Utf8.utf8ByteSize_eq, hcut, Utf8.size_append (front ++ shown)]
    exact Nat.le_add_right _ _
  have hslice : Offset.slice? (size front) (size (front ++ shown)) source.toList = some shown := by
    rw [Offset.slice?_eq_some_iff]
    exact ⟨front, after, hcut, rfl, (Utf8.size_append _ _).symm⟩
  rw [positionIn_eq h hsource, Nat.min_eq_left hle, hslice, rtakeWhile_append_of_notMem hfree,
    h.rtakeWhile_front.1, List.count_append, List.count_eq_zero.2 hfree]
  rfl

/-- An offset behind the end has the position of the end. -/
theorem positionIn_of_le (hle : source.utf8ByteSize ≤ offset) :
    positionIn source offset = positionIn source source.utf8ByteSize := by
  rcases exists_onLine source.toList offset with ⟨front, line, tail, hsource, h⟩
  have hsize : source.utf8ByteSize = size front + (size line + size tail) := by
    rw [Utf8.utf8ByteSize_eq, hsource, Utf8.size_append, Utf8.size_append]
  -- the last line is that of the end as well
  have hend : OnLine source.utf8ByteSize front line tail := by
    refine ⟨h.front_ends, h.line_free, by omega, ?_⟩
    rcases h.le_stop with htail | hstop
    · exact .inl htail
    · exact .inr (by omega)
  rw [positionIn_eq h hsource, positionIn_eq hend hsource, Nat.min_eq_right hle, Nat.min_self]

/-- Inside a character the column counts the bytes of the line. -/
theorem column_positionIn_inside (hle : offset ≤ source.utf8ByteSize)
    (hinside : Offset.isBoundary offset source.toList = false) :
    (positionIn source offset).column =
      (((encode source.toList).take offset).rtakeWhile (· ≠ 0x0A)).length + 1 := by
  rcases exists_onLine source.toList offset with ⟨front, line, tail, hsource, h⟩
  rcases h.take_encode with ⟨rest, htake, hfree, hlength⟩
  have hslice : Offset.slice? (size front) offset source.toList = none := by
    rw [Option.eq_none_iff_forall_ne_some]
    intro shown hshown
    rcases Offset.slice?_eq_some_iff.1 hshown with ⟨xs, ys, hcut, hxs, hstop⟩
    have hboundary : Offset.isBoundary offset source.toList = true := by
      rw [Offset.isBoundary_iff]
      exact ⟨xs ++ shown, ys, hcut, by rw [Utf8.size_append]; omega⟩
    rw [hinside] at hboundary
    cases hboundary
  rw [← hsource, ← Utf8.utf8ByteSize_eq] at hlength
  rw [positionIn_eq h hsource, Nat.min_eq_left hle, hslice, hsource, htake,
    rtakeWhile_append_of_notMem hfree, h.rtakeWhile_front.2, List.nil_append, hlength,
    Nat.min_eq_left hle]
  rfl

/-- Further on in the text the position is further on, in a later line or later in the line. -/
theorem positionIn_lt {before after : List Char} (hcut : source.toList = before ++ after)
    {shown rest : List Char} (hbefore : before = shown ++ rest) (hrest : rest ≠ []) :
    (positionIn source (size shown)).line < (positionIn source (size before)).line ∨
      (positionIn source (size shown)).line = (positionIn source (size before)).line ∧
        (positionIn source (size shown)).column < (positionIn source (size before)).column := by
  have hshown : source.toList = shown ++ (rest ++ after) := by
    rw [hcut, hbefore, List.append_assoc]
  rw [positionIn_boundary hcut, positionIn_boundary hshown, hbefore, List.count_append]
  by_cases hnewline : '\n' ∈ rest
  · have hpos := List.count_pos_iff.2 hnewline
    left
    show shown.count '\n' + 1 < shown.count '\n' + rest.count '\n' + 1
    omega
  · have hpos := List.length_pos_iff.2 hrest
    right
    rw [List.count_eq_zero.2 hnewline, rtakeWhile_append_of_notMem hnewline, List.length_append]
    constructor
    · rfl
    · show (shown.rtakeWhile (· ≠ '\n')).length + 1 <
        (shown.rtakeWhile (· ≠ '\n')).length + rest.length + 1
      omega

end

/-- Positions grow with the offset on the character boundaries of a text. -/
theorem strictMonoOn_positionIn (source : String) :
    StrictMonoOn (fun offset => toLex ((positionIn source offset).line,
        (positionIn source offset).column))
      {offset | Offset.isBoundary offset source.toList = true} := by
  intro first hfirst second hsecond hlt
  rcases Offset.isBoundary_iff.1 hfirst with ⟨shown, more, hshown, rfl⟩
  rcases Offset.isBoundary_iff.1 hsecond with ⟨before, after, hcut, rfl⟩
  rcases Offset.exists_between (hshown.symm.trans hcut) (Nat.le_of_lt hlt) with ⟨rest, hbefore, -⟩
  have hrest : rest ≠ [] := by
    rintro rfl
    rw [hbefore, List.append_nil] at hlt
    exact Nat.lt_irrefl _ hlt
  rw [Prod.Lex.toLex_lt_toLex]
  exact positionIn_lt hcut hbefore hrest

/-- The position of an offset is exact. Its line is one more than the number of newlines among the
bytes in front of it. Its column is one more than the number of characters since the last newline
if the offset is a character boundary, and one more than the number of bytes since then if it lies
inside a character. An offset behind the end has the position of the end. On character boundaries
the position grows with the offset, so no two of them share a position. -/
theorem position_exact (source : String) :
    (∀ offset, (positionIn source offset).line =
      ((encode source.toList).take (min offset source.utf8ByteSize)).count 0x0A + 1) ∧
    (∀ offset before after, source.toList = before ++ after → size before = offset →
      (positionIn source offset).column = (before.rtakeWhile (· ≠ '\n')).length + 1) ∧
    (∀ offset, source.utf8ByteSize ≤ offset →
      positionIn source offset = positionIn source source.utf8ByteSize) ∧
    (∀ offset, offset ≤ source.utf8ByteSize → Offset.isBoundary offset source.toList = false →
      (positionIn source offset).column =
        (((encode source.toList).take offset).rtakeWhile (· ≠ 0x0A)).length + 1) ∧
    StrictMonoOn (fun offset => toLex ((positionIn source offset).line,
        (positionIn source offset).column))
      {offset | Offset.isBoundary offset source.toList = true} ∧
    Set.InjOn (positionIn source) {offset | Offset.isBoundary offset source.toList = true} := by
  refine ⟨line_positionIn source, ?_, fun _ => positionIn_of_le, fun _ => column_positionIn_inside,
    strictMonoOn_positionIn source, ?_⟩
  · intro offset before after hcut hsize
    rw [← hsize, positionIn_boundary hcut]
  · intro first hfirst second hsecond heq
    apply (strictMonoOn_positionIn source).injOn hfirst hsecond
    simp only [heq]

/-- Inside a character of two bytes the column counts both the byte in front of it and its own
first byte; behind it the characters are counted, and behind the newline the count starts anew. -/
theorem position_exact_accented :
    (positionIn "aé\nb" 2).column = 3 ∧ (positionIn "aé\nb" 3).column = 3 ∧
      (positionIn "aé\nb" 4).line = 2 ∧ (positionIn "aé\nb" 4).column = 1 ∧
      positionIn "aé\nb" 9 = positionIn "aé\nb" 5 ∧
      positionIn "aé\nb" 1 ≠ positionIn "aé\nb" 4 := by
  have htext : "aé\nb".toList = ['a', 'é', '\n', 'b'] := by decide
  have hbytes : encode "aé\nb".toList = [0x61, 0xC3, 0xA9, 0x0A, 0x62] := by decide
  have hsize : "aé\nb".utf8ByteSize = 5 := by decide
  rcases position_exact "aé\nb" with ⟨hline, hcolumn, hend, hinside, -, hinj⟩
  rw [hbytes, hsize] at hline
  rw [hbytes, hsize] at hinside
  rw [hsize] at hend
  have hthree := hcolumn 3 ['a', 'é'] ['\n', 'b'] htext (by decide)
  have hfour := hcolumn 4 ['a', 'é', '\n'] ['b'] htext (by decide)
  refine ⟨hinside 2 (by decide) (by decide), hthree, hline 4, hfour, hend 9 (by decide), ?_⟩
  intro heq
  exact absurd (hinj (by decide) (by decide) heq) (by decide)

end LineIndex

end StructTags
