import StructTags.Proofs.SourcePositions
import StructTags.Report.Text

/-!
# Lines in reports

A report shows the line of a place, marks the place in it, and shows what the line becomes. The
place is found by line and column, while the fixes go by byte offsets.

`Line.Shown` cuts a text around a line as it is shown, and `Line.getElem?_displayed_iff` says that
these are the lines that are counted out. `Report.OnShownLine` is a place on such a line, and
`OnShownLine.exists_cut` cuts the line around it. Both statements follow from that cut:

* `suggestion_previews_fix`: the line shown for a suggestion is what applying it makes of the line;
* `frame_underlines_iff`: a place is underlined from its first character on. The number of carets
  is that of its bytes, as far as the line goes, so it is that of its characters only if all of them
  are single bytes or the line ends with the place.
-/

namespace StructTags

open Utf8 (size)

/-! ## Lines as they are shown -/

namespace Line

/-- A text is cut around one of its lines as they are shown. The lines before it are in `front`, and
`back` starts with what ends the line: a newline, which takes a carriage return before it along, or
the end of the text, where an empty line is not shown. -/
structure Shown (text front line back : List Char) : Prop where
  text_eq : text = front ++ (line ++ back)
  front_ends : front = [] ∨ ∃ before, front = before ++ ['\n']
  line_free : '\n' ∉ line
  back_ends : back = [] ∧ line ≠ [] ∨
    (∃ rest, back = '\n' :: rest) ∧ line.getLast? ≠ some '\r' ∨
    ∃ rest, back = '\r' :: '\n' :: rest

theorem displayedFrom_cons {c : Char} (hc : c ≠ '\n') (line rest : List Char) :
    displayedFrom line (c :: rest) = displayedFrom (c :: line) rest := by
  rw [displayedFrom]
  exact hc

theorem displayedFrom_append {cs : List Char} (h : '\n' ∉ cs) (line rest : List Char) :
    displayedFrom line (cs ++ rest) = displayedFrom (cs.reverse ++ line) rest := by
  induction cs generalizing line with
  | nil => rfl
  | cons c cs ih =>
    simp only [List.mem_cons, not_or] at h
    rw [List.cons_append, displayedFrom_cons (Ne.symm h.1), ih h.2, List.reverse_cons,
      List.append_assoc]
    rfl

/-- What is shown of a line that a newline ends; `line` holds it in reverse. -/
def shownOf : List Char → List Char
  | '\r' :: line => line.reverse
  | line => line.reverse

theorem displayedFrom_newline (line rest : List Char) :
    displayedFrom line ('\n' :: rest) = shownOf line :: displayedFrom [] rest := by
  fun_cases shownOf line with
  | case1 line => rfl
  | case2 line hne =>
    rw [displayedFrom]
    exact hne

/-- Up to a newline as many lines are shown as there are newlines. -/
theorem exists_displayedFrom_lines (line before rest : List Char) :
    ∃ shown, displayedFrom line (before ++ '\n' :: rest) = shown ++ displayedFrom [] rest ∧
      shown.length = before.count '\n' + 1 := by
  induction before generalizing line with
  | nil => exact ⟨[shownOf line], displayedFrom_newline line rest, rfl⟩
  | cons c before ih =>
    by_cases hc : c = '\n'
    · obtain ⟨shown, heq, hlength⟩ := ih []
      refine ⟨shownOf line :: shown, ?_, ?_⟩
      · rw [hc, List.cons_append, displayedFrom_newline, heq, List.cons_append]
      · rw [hc, List.count_cons_self, List.length_cons, hlength]
    · obtain ⟨shown, heq, hlength⟩ := ih (c :: line)
      refine ⟨shown, ?_, ?_⟩
      · rw [List.cons_append, displayedFrom_cons hc, heq]
      · rw [List.count_cons_of_ne hc, hlength]

/-- What is shown of a line ended by a newline, with what the newline takes along. -/
theorem exists_shownOf (line : List Char) :
    line.reverse = shownOf line ∧ (shownOf line).getLast? ≠ some '\r' ∨
      line.reverse = shownOf line ++ ['\r'] := by
  fun_cases shownOf line with
  | case1 line => exact .inr (List.reverse_cons ..)
  | case2 line hne =>
    refine .inl ⟨rfl, ?_⟩
    rw [List.getLast?_reverse]
    intro hhead
    obtain ⟨tail, rfl⟩ := List.head?_eq_some_iff.1 hhead
    exact hne tail rfl

namespace Shown

variable {text front line back : List Char}

theorem displayedFrom_front (h : Shown text front line back) :
    ∃ shown, displayedFrom [] text = shown ++ displayedFrom [] (line ++ back) ∧
      shown.length = front.count '\n' := by
  rw [h.text_eq]
  rcases h.front_ends with rfl | ⟨before, rfl⟩
  · exact ⟨[], rfl, rfl⟩
  · obtain ⟨shown, heq, hlength⟩ := exists_displayedFrom_lines [] before (line ++ back)
    exact ⟨shown, by simpa using heq, by simpa using hlength⟩

theorem head?_displayedFrom (h : Shown text front line back) :
    (displayedFrom [] (line ++ back)).head? = some line := by
  rw [displayedFrom_append h.line_free, List.append_nil]
  rcases h.back_ends with ⟨rfl, hne⟩ | ⟨⟨rest, rfl⟩, hlast⟩ | ⟨rest, rfl⟩
  · simp [displayedFrom, hne]
  · rw [displayedFrom_newline, List.head?_cons]
    rcases exists_shownOf line.reverse with ⟨heq, -⟩ | heq
    · rw [← heq, List.reverse_reverse]
    · rw [List.reverse_reverse] at heq
      rw [heq] at hlast
      simp at hlast
  · rw [displayedFrom_cons (by decide), displayedFrom_newline, List.head?_cons, shownOf,
      List.reverse_reverse]

theorem getElem?_displayedFrom (h : Shown text front line back) :
    (displayedFrom [] text)[front.count '\n']? = some line := by
  obtain ⟨shown, heq, hlength⟩ := h.displayedFrom_front
  rw [heq, ← hlength, List.getElem?_append_right (Nat.le_refl _), Nat.sub_self,
    ← List.head?_eq_getElem?, h.head?_displayedFrom]

end Shown

/-- Going on behind the beginning of a line, each line that is shown has its place. -/
theorem exists_shown_of_getElem? {line : List Char} (hfree : '\n' ∉ line) {cs shown : List Char}
    {number : Nat} (h : (displayedFrom line.reverse cs)[number]? = some shown) :
    ∃ front back, Shown (line ++ cs) front shown back ∧ front.count '\n' = number := by
  induction cs generalizing line number with
  | nil =>
    rw [displayedFrom, List.isEmpty_reverse, List.reverse_reverse] at h
    cases line with
    | nil => simp at h
    | cons c line =>
      obtain ⟨rfl, rfl⟩ : number = 0 ∧ c :: line = shown := by
        simpa [List.getElem?_singleton] using h
      exact ⟨[], [], ⟨by simp, .inl rfl, hfree, .inl ⟨rfl, by simp⟩⟩, rfl⟩
  | cons c cs ih =>
    by_cases hc : c = '\n'
    swap
    · rw [displayedFrom_cons hc, ← List.reverse_concat] at h
      have hfree' : '\n' ∉ line ++ [c] := by
        simp [hfree, Ne.symm hc]
      simpa using ih hfree' h
    subst hc
    rw [displayedFrom_newline] at h
    cases number with
    | zero =>
      obtain rfl := Option.some.inj h
      have hline := exists_shownOf line.reverse
      rw [List.reverse_reverse] at hline
      rcases hline with ⟨heq, hlast⟩ | heq
      · refine ⟨[], '\n' :: cs, ⟨?_, .inl rfl, ?_, .inr (.inl ⟨⟨cs, rfl⟩, hlast⟩)⟩, rfl⟩
        · rw [← heq]
          rfl
        · rwa [← heq]
      · refine ⟨[], '\r' :: '\n' :: cs, ⟨?_, .inl rfl, ?_, .inr (.inr ⟨cs, rfl⟩)⟩, rfl⟩
        · conv_lhs => rw [heq]
          simp
        · rw [heq] at hfree
          simp only [List.mem_append, not_or] at hfree
          exact hfree.1
    | succ number =>
      obtain ⟨front, back, hshown, hcount⟩ := @ih [] (by simp) number h
      refine ⟨line ++ '\n' :: front, back,
        ⟨?_, .inr ?_, hshown.line_free, hshown.back_ends⟩, ?_⟩
      · rw [List.append_assoc, List.cons_append, ← hshown.text_eq, List.nil_append]
      · rcases hshown.front_ends with rfl | ⟨before, rfl⟩
        · exact ⟨line, rfl⟩
        · exact ⟨line ++ '\n' :: before, by simp⟩
      · rw [List.count_append, List.count_eq_zero.2 hfree, List.count_cons_self, hcount]
        omega

/-- The lines that are counted out are those around which the text can be cut, each under the number
of newlines in front of it. -/
theorem getElem?_displayed_iff {text : String} {number : Nat} {line : List Char} :
    (displayed text)[number]? = some line ↔
      ∃ front back, Shown text.toList front line back ∧ front.count '\n' = number := by
  constructor
  · exact @exists_shown_of_getElem? [] List.not_mem_nil text.toList line number
  · rintro ⟨front, back, h, rfl⟩
    exact h.getElem?_displayedFrom

end Line

namespace Report

/-! ## Places on a line -/

/-- A span of a source lies on a line as it is shown, and cuts no character. -/
structure OnShownLine (source : String) (span : Span) (front line back : List Char) : Prop
    extends Line.Shown source.toList front line back where
  start_boundary : Offset.isBoundary span.start source.toList = true
  stop_boundary : Offset.isBoundary span.stop source.toList = true
  front_le : size front ≤ span.start
  start_le : span.start ≤ size front + size line
  stop_le : span.stop ≤ size front + size line

namespace OnShownLine

variable {source : String} {span : Span} {front line back : List Char}

/-- A boundary on a line as it is shown cuts the line in two. -/
theorem exists_split (h : OnShownLine source span front line back) {offset : Nat}
    (hboundary : Offset.isBoundary offset source.toList = true) (hfront : size front ≤ offset)
    (hline : offset ≤ size front + size line) :
    ∃ before rest, line = before ++ rest ∧ offset = size front + size before := by
  obtain ⟨xs, ys, hcut, rfl⟩ := Offset.isBoundary_iff.1 hboundary
  obtain ⟨before, rfl, hrest⟩ := Offset.exists_between (h.text_eq.symm.trans hcut) hfront
  rw [Utf8.size_append] at hline
  obtain ⟨rest, hsplit, -⟩ := Offset.exists_between hrest.symm (by omega)
  exact ⟨before, rest, hsplit, Utf8.size_append _ _⟩

/-- The line is cut around the span. -/
theorem exists_cut (h : OnShownLine source span front line back) :
    ∃ before inner after, line = before ++ (inner ++ after) ∧
      span.start = size front + size before ∧ span.length = size inner := by
  have hfront := h.front_le
  obtain ⟨before, rest, hbefore, hstart⟩ := h.exists_split h.start_boundary hfront h.start_le
  by_cases hle : span.start ≤ span.stop
  · obtain ⟨shown, after, hshown, hstop⟩ :=
      h.exists_split h.stop_boundary (Nat.le_trans hfront hle) h.stop_le
    obtain ⟨inner, rfl, rfl⟩ := Offset.exists_between (hbefore.symm.trans hshown) (by omega)
    rw [Utf8.size_append] at hstop
    exact ⟨before, inner, after, hbefore, hstart, by rw [Span.length]; omega⟩
  · refine ⟨before, [], rest, hbefore, hstart, ?_⟩
    rw [Span.length, size]
    omega

theorem onLine (h : OnShownLine source span front line back) :
    LineIndex.OnLine span.start front line back :=
  ⟨h.front_ends, h.line_free, h.front_le, .inr h.start_le⟩

/-- Line and column of the span: the lines in front are counted, and the characters of its line
before it. -/
theorem positionIn_eq (h : OnShownLine source span front line back) {before rest : List Char}
    (hline : line = before ++ rest) (hstart : span.start = size front + size before) :
    LineIndex.positionIn source span.start = ⟨front.count '\n' + 1, before.length + 1⟩ := by
  have hfree : '\n' ∉ before := by
    intro hmem
    exact h.line_free (by simp [hline, hmem])
  have hcut : source.toList = (front ++ before) ++ (rest ++ back) := by
    rw [h.text_eq, hline]
    simp
  rw [hstart, ← Utf8.size_append, LineIndex.positionIn_boundary hcut,
    rtakeWhile_append_of_notMem hfree, h.onLine.rtakeWhile_front.1, List.count_append,
    List.count_eq_zero.2 hfree]
  rfl

end OnShownLine

/-- A place was made from a span that lies on a line as it is shown, and the style knows the text
it was made from. -/
structure Shows (s : Style) (l : Location) (source : String) (front line back : List Char) :
    Prop where
  known : s.sources.text? l.file = some source
  made : ∃ file span, file.source = some source ∧ l = .ofSpan file span ∧
    OnShownLine source span front line back

section

variable {s : Style} {l : Location} {source : String} {front line back : List Char}

/-- The line is shown and cut around the place, by the column of the place and its bytes. -/
theorem Shows.exists_cut (h : Shows s l source front line back) :
    s.line? l.file l.line = some line ∧ ∃ before inner after, line = before ++ (inner ++ after) ∧
      l.column = before.length + 1 ∧ l.offset = size front + size before ∧
      l.length = size inner := by
  obtain ⟨file, span, hsource, rfl, hspan⟩ := h.made
  obtain ⟨before, inner, after, hline, hstart, hlength⟩ := hspan.exists_cut
  have hposition := hspan.positionIn_eq hline hstart
  have hnumber : (Location.ofSpan file span).line = front.count '\n' + 1 := by
    rw [Location.ofSpan, hsource]
    exact congrArg Position.line hposition
  have hcolumn : (Location.ofSpan file span).column = before.length + 1 := by
    rw [Location.ofSpan, hsource]
    exact congrArg Position.column hposition
  refine ⟨?_, before, inner, after, hline, hcolumn, hstart, hlength⟩
  rw [Style.line?, h.known, hnumber]
  exact Line.getElem?_displayed_iff.2 ⟨front, back, hspan.toShown, rfl⟩

/-! ## Suggestions -/

/-- The report of a suggestion that shows a line before and after. -/
def change (s : Style) (x : Suggestion) (before after : List Char) : String :=
  let label := match x.applicability with
    | .always => s.paint.apply .green "Safe fix"
    | .maybeIncorrect => s.paint.apply .yellow "Unsafe fix"
  "  " ++ s.paint.apply .blue "i" ++ " " ++ label ++ ": " ++ x.message ++ "\n"
    ++ ("    " ++ s.paint.apply .red "-" ++ " " ++ s.paint.apply .red (String.ofList before) ++ "\n"
      ++ "    " ++ s.paint.apply .green "+" ++ " " ++ s.paint.apply .green (String.ofList after)
      ++ "\n")

theorem suggestion_eq_change {x : Suggestion}
    (h : s.line? x.location.file x.location.line = some line) :
    suggestion s x = change s x line (replacedLine line x.location x.replacement.toList) := by
  unfold suggestion change
  rw [h]
  cases x.applicability <;> rfl

/-- A place found by its column is replaced by its bytes. -/
theorem replacedLine_eq {before inner after : List Char} (hcolumn : l.column = before.length + 1)
    (hlength : l.length = size inner) (replacement : List Char) :
    replacedLine (before ++ (inner ++ after)) l replacement = before ++ replacement ++ after := by
  have hmin : min l.length (size (inner ++ after)) = size inner := by
    rw [hlength, Utf8.size_append]
    omega
  simp only [replacedLine, hcolumn, Nat.add_sub_cancel, List.splitAt_eq, List.take_left,
    List.drop_left, hmin, Offset.cut?_append]

end

end Report

/-- A single fix that fits replaces the text at its place. -/
theorem Fix.applyAll_singleton {f : Fix} {content : String} {text : List Char}
    (h : f.applyTo? content.toList = some text) :
    applyAll content [f] = ⟨String.ofList text, [f], [], []⟩ := by
  simp [applyAll, inOrder, choose, applyEach, h]

namespace Report

/-- The line that a report shows for a suggestion is what the line becomes when the suggestion is
applied as a fix: the fixed text is the source with this one line replaced by it. -/
theorem suggestion_previews_fix {s : Style} {x : Suggestion} {source : String}
    {front line back : List Char} (h : Shows s x.location source front line back)
    (d : Diagnostic) :
    source.toList = front ++ (line ++ back) ∧
      ∃ after, suggestion s x = change s x line after ∧
        Fix.applyAll source [Fix.ofSuggestion d x] =
          { content := String.ofList (front ++ (after ++ back))
            applied := [Fix.ofSuggestion d x]
            skipped := []
            failed := [] } := by
  obtain ⟨hline, before, inner, after, rfl, hcolumn, hoffset, hlength⟩ := h.exists_cut
  have htext : source.toList = front ++ (before ++ (inner ++ after) ++ back) := by
    obtain ⟨_, _, -, -, hspan⟩ := h.made
    exact hspan.text_eq
  refine ⟨htext, before ++ x.replacement.toList ++ after, ?_, ?_⟩
  · rw [suggestion_eq_change hline, replacedLine_eq hcolumn hlength]
  · apply Fix.applyAll_singleton
    rw [Fix.applyTo?, Offset.splice?_eq_some_iff]
    refine ⟨front ++ before, inner, after ++ back, ?_, ?_, ?_, ?_⟩
    · rw [htext]
      simp
    · rw [Utf8.size_append]
      exact hoffset.symm
    · exact congrArg (x.location.offset + ·) hlength.symm
    · simp [Fix.ofSuggestion]

/-- A file of two lines that end in a carriage return and a newline, with wide characters. -/
def accentedFile : SourceFile :=
  ⟨"a.go", some "é\r\nß→y\r\n", []⟩

/-- The suggestion to replace what is at a place in `accentedFile`. -/
def accentedSwap (span : Span) : Suggestion :=
  ⟨"swap", "xy", .ofSpan accentedFile span, .always⟩

/-- A report about a place in `accentedFile`. -/
def accentedReport (span : Span) : Diagnostic :=
  ⟨"r", .warning, "m", .ofSpan accentedFile span, [accentedSwap span]⟩

def accentedStyle : Style :=
  { paint := ⟨false⟩, sources := [("./a.go", "old"), ("a.go", "é\r\nß→y\r\n")] }

/-- The arrow of the second line, with or without what is behind it, is a place on the line. -/
theorem shows_from_arrow {stop : Nat} (hstop : stop = 9 ∨ stop = 10) :
    Shows accentedStyle (.ofSpan accentedFile ⟨6, stop⟩) "é\r\nß→y\r\n" ['é', '\r', '\n']
      ['ß', '→', 'y'] ['\r', '\n'] where
  known := by
    show accentedStyle.sources.text? "a.go" = _
    decide
  made := by
    refine ⟨accentedFile, ⟨6, stop⟩, rfl, rfl, ⟨?_, ?_, ?_, ?_⟩, ?_, ?_, ?_, ?_, ?_⟩
    · decide
    · exact .inr ⟨['é', '\r'], rfl⟩
    · decide
    · exact .inr (.inr ⟨[], rfl⟩)
    all_goals rcases hstop with rfl | rfl <;> decide

/-- The arrow is replaced in the line shown, and in the text between its two line ends. -/
theorem suggestion_previews_fix_arrow :
    (∃ after, suggestion accentedStyle (accentedSwap ⟨6, 9⟩) =
        change accentedStyle (accentedSwap ⟨6, 9⟩) ['ß', '→', 'y'] after ∧
      (Fix.applyAll "é\r\nß→y\r\n"
          [Fix.ofSuggestion (accentedReport ⟨6, 9⟩) (accentedSwap ⟨6, 9⟩)]).content =
        String.ofList (['é', '\r', '\n'] ++ (after ++ ['\r', '\n']))) ∧
      suggestion accentedStyle (accentedSwap ⟨6, 9⟩) =
        "  i Safe fix: swap\n    - ß→y\n    + ßxyy\n" := by
  refine ⟨?_, by cbv⟩
  obtain ⟨-, after, hshown, hfixed⟩ :=
    @suggestion_previews_fix accentedStyle (accentedSwap ⟨6, 9⟩) _ _ _ _
      (shows_from_arrow (by decide)) (accentedReport ⟨6, 9⟩)
  exact ⟨after, hshown, congrArg FixResult.content hfixed⟩

/-! ## Code frames -/

/-- A code frame: the line behind its number, and under it a mark of `carets` carets that starts
below the line's character number `column`, counted from zero. The margin of the mark is as wide as
that of the line. -/
def marked (s : Style) (d : Diagnostic) (line : List Char) (column carets : Nat) : String :=
  let number := toString d.location.line
  let margin := blanks number.length
  let bar := s.paint.apply .blue "|"
  "  " ++ margin ++ " " ++ bar ++ "\n"
    ++ "  " ++ s.paint.apply .dim number ++ " " ++ bar ++ " " ++ String.ofList line ++ "\n"
    ++ "  " ++ margin ++ " " ++ bar ++ " " ++ blanks column
    ++ s.paint.apply (severityColor d.severity) (String.ofList (List.replicate carets '^')) ++ "\n"

theorem paint_inj {p : Paint} {color : Color} {a b : String} :
    p.apply color a = p.apply color b ↔ a = b := by
  unfold Paint.apply
  split
  · rw [String.append_left_inj, String.append_right_inj]
  · rfl

theorem marked_inj {s : Style} {d : Diagnostic} {line : List Char} {column m n : Nat} :
    marked s d line column m = marked s d line column n ↔ m = n := by
  unfold marked
  rw [String.append_left_inj, String.append_right_inj, paint_inj, String.ofList_inj,
    List.replicate_left_inj]

/-- A frame marks as many characters as the place has bytes, as far as the line goes. -/
theorem frame_eq_marked {s : Style} {d : Diagnostic} {before inner after : List Char}
    (hcolumn : d.location.column = before.length + 1) (hlength : d.location.length = size inner) :
    frame s d (before ++ (inner ++ after)) =
      marked s d (before ++ (inner ++ after)) before.length
        (max (min (size inner) (inner.length + after.length)) 1) := by
  have hwidth : markWidth (before ++ (inner ++ after)) d.location =
      max (min (size inner) (inner.length + after.length)) 1 := by
    rw [markWidth, hcolumn, hlength, Nat.add_sub_cancel, List.drop_left, List.length_take,
      List.length_append]
    omega
  have hframe (line : List Char) :
      frame s d line = marked s d line (d.location.column - 1) (markWidth line d.location) := rfl
  rw [hframe, hwidth, hcolumn, Nat.add_sub_cancel]

theorem single_eq_marked {s : Style} {d : Diagnostic} {before inner after : List Char}
    (hline : s.line? d.location.file d.location.line = some (before ++ (inner ++ after)))
    (hcolumn : d.location.column = before.length + 1) (hlength : d.location.length = size inner) :
    single s d = header s d ++ arrow s d ++
      marked s d (before ++ (inner ++ after)) before.length
        (max (min (size inner) (inner.length + after.length)) 1) ++
      String.join (d.suggestions.map (suggestion s)) := by
  rw [single, hline, ← frame_eq_marked hcolumn hlength]

theorem length_le_size (cs : List Char) : cs.length ≤ size cs := by
  induction cs with
  | nil => exact Nat.le_refl 0
  | cons c rest ih =>
    have hpos := c.utf8Size_pos
    rw [List.length_cons, size]
    omega

/-- There are as many bytes as characters only if each character is a single byte. -/
theorem size_eq_length_iff {cs : List Char} :
    size cs = cs.length ↔ ∀ c ∈ cs, c.utf8Size = 1 := by
  induction cs with
  | nil => simp [size]
  | cons c rest ih =>
    have hpos := c.utf8Size_pos
    have hle := length_le_size rest
    rw [List.forall_mem_cons, ← ih, List.length_cons, size]
    omega

/-- The number of carets is that of the characters if none of them is wide, or if there is nothing
behind them that could be marked too. -/
theorem carets_eq_iff {inner after : List Char} :
    max (min (size inner) (inner.length + after.length)) 1 = max inner.length 1 ↔
      (∀ c ∈ inner, c.utf8Size = 1) ∨ after = [] := by
  have hle := length_le_size inner
  rw [← size_eq_length_iff, ← List.length_eq_zero_iff]
  cases inner with
  | nil => simp [size]
  | cons c rest =>
    rw [List.length_cons] at hle ⊢
    omega

/-- A code frame shows the line of a place and marks it from the first character of the place on.
It marks one character for each byte of the place, as far as the line goes and at least one. So the
mark is as long as the place exactly if all characters of the place are single bytes or the line
ends with it. -/
theorem frame_underlines_iff {s : Style} {d : Diagnostic} {source : String}
    {front line back : List Char} (h : Shows s d.location source front line back) :
    ∃ before inner after, line = before ++ (inner ++ after) ∧
      d.location.offset = size front + size before ∧ d.location.length = size inner ∧
      single s d = header s d ++ arrow s d ++
        marked s d line before.length (max (min (size inner) (inner.length + after.length)) 1) ++
        String.join (d.suggestions.map (suggestion s)) ∧
      (single s d = header s d ++ arrow s d ++
          marked s d line before.length (max inner.length 1) ++
          String.join (d.suggestions.map (suggestion s)) ↔
        (∀ c ∈ inner, c.utf8Size = 1) ∨ after = []) := by
  obtain ⟨hline, before, inner, after, rfl, hcolumn, hoffset, hlength⟩ := h.exists_cut
  have hsingle := single_eq_marked hline hcolumn hlength
  refine ⟨before, inner, after, rfl, hoffset, hlength, hsingle, ?_⟩
  rw [hsingle, String.append_left_inj, String.append_right_inj, marked_inj, carets_eq_iff]

/-- The arrow and the letter behind it take four bytes and end the line, so two carets stand below
them. -/
theorem frame_underlines_iff_line_end :
    ∃ before inner after, ['ß', '→', 'y'] = before ++ (inner ++ after) ∧
      (accentedReport ⟨6, 10⟩).location.offset = size ['é', '\r', '\n'] + size before ∧
      (accentedReport ⟨6, 10⟩).location.length = size inner ∧
      (single accentedStyle (accentedReport ⟨6, 10⟩) =
          header accentedStyle (accentedReport ⟨6, 10⟩) ++
            arrow accentedStyle (accentedReport ⟨6, 10⟩) ++
            marked accentedStyle (accentedReport ⟨6, 10⟩) ['ß', '→', 'y'] before.length
              (max inner.length 1) ++
            String.join ((accentedReport ⟨6, 10⟩).suggestions.map (suggestion accentedStyle)) ↔
        (∀ c ∈ inner, c.utf8Size = 1) ∨ after = []) := by
  obtain ⟨before, inner, after, hline, hoffset, hlength, -, hiff⟩ :=
    @frame_underlines_iff accentedStyle (accentedReport ⟨6, 10⟩) _ _ _ _
      (shows_from_arrow (by decide))
  exact ⟨before, inner, after, hline, hoffset, hlength, hiff⟩

/-- Below the arrow alone there are two carets as well: the second one stands under the letter. -/
theorem frame_underlines_too_much :
    (accentedReport ⟨6, 9⟩).location.length = size ['→'] ∧
      single accentedStyle (accentedReport ⟨6, 9⟩) ≠
        header accentedStyle (accentedReport ⟨6, 9⟩) ++
          arrow accentedStyle (accentedReport ⟨6, 9⟩) ++
          marked accentedStyle (accentedReport ⟨6, 9⟩) ['ß', '→', 'y'] 1 (max ['→'].length 1) ++
          String.join ((accentedReport ⟨6, 9⟩).suggestions.map (suggestion accentedStyle)) := by
  refine ⟨by decide, ?_⟩
  have hshown := @single_eq_marked accentedStyle (accentedReport ⟨6, 9⟩) ['ß'] ['→'] ['y']
    (by decide) (by decide) (by decide)
  rw [hshown, Ne, String.append_left_inj, String.append_right_inj]
  exact fun heq => absurd (marked_inj.1 heq) (by decide)

end Report

end StructTags
