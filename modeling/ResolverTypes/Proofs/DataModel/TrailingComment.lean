import ResolverTypes.Proofs.DataModel.Reading

/-!
# Comments behind a line

A comment may be written behind any line of a schema text, and the text is read as before: the same
blocks with the same documentation and line numbers, or the same error.  Two kinds of lines are left out.
On a documentation line the comment is part of the documentation, and on a line that ends inside a string
it is part of the string.

The reader sees nothing of a line but its shape (`run_congr`), so the result comes down to one line:

* `endsInString`                      the scan for a comment mark ends inside a string;
* `trim_append_trailingComment`       what the trimmed line becomes.  Between its text and the comment
                                      mark stands a blank, so no slash of the line becomes part of the
                                      mark and a blank line does not become documentation;
* `lineShape_append_trailingComment`  the shape of the line is what it was.
-/

namespace ResolverTypes.DataModel
open Text

/-! ## comment marks -/

/-- a scan for a comment mark goes to the end of a text and stands inside a string there -/
def endsInString (cs : List Char) : Bool :=
  isCommentFree .outside cs && Quoting.outside.after cs != .outside

theorem beforeComment_append_of_comment {q : Quoting} {xs : List Char} (h : isCommentFree q xs = false)
    (ys : List Char) : beforeComment q (xs ++ ys) = beforeComment q xs := by
  induction xs generalizing q with
  | nil => cases h
  | cons c xs ih =>
    rw [isCommentFree, Bool.and_eq_false_iff] at h
    rw [List.cons_append, beforeComment, beforeComment]
    by_cases hmark : q = .outside ∧ c = '/' ∧ xs.head? = some '/'
    · have hhead : (xs ++ ys).head? = some '/' := List.mem_head?_append_of_mem_head? hmark.2.2
      rw [if_pos hmark, if_pos ⟨hmark.1, hmark.2.1, hhead⟩]
    · have htail : isCommentFree (q.next c) xs = false := by
        refine h.resolve_left fun hno => hmark ?_
        simpa [and_assoc] using hno
      -- the mark comes later, so the second character is one of the text itself
      have hne : xs ≠ [] := by
        rintro rfl
        cases htail
      rw [List.head?_append_of_ne_nil _ hne, if_neg hmark, if_neg hmark, ih htail]

theorem trim_beforeComment_append {xs ws : List Char} (hxs : endsInString xs = false)
    (hws : ∀ c ∈ ws, isBlank c = true) (hne : xs ≠ [] → ws ≠ []) (ys : List Char) :
    trim (beforeComment .outside (xs ++ (ws ++ '/' :: '/' :: ys))) =
      trim (beforeComment .outside xs) := by
  rw [endsInString, Bool.and_eq_false_iff] at hxs
  by_cases hfree : isCommentFree .outside xs = true
  · have hafter : Quoting.outside.after xs = .outside := by simpa [hfree] using hxs
    have hslash : '/' ∉ ws := notMem_of_test hws (by decide)
    have hquote : '"' ∉ ws := notMem_of_test hws (by decide)
    have hjoint : xs.getLast? = some '/' → (ws ++ '/' :: '/' :: ys).head? ≠ some '/' := by
      intro hlast hhead
      have hgap : ws ≠ [] := hne (by rintro rfl; cases hlast)
      rw [List.head?_append_of_ne_nil _ hgap] at hhead
      exact hslash (List.mem_of_head? hhead)
    have hcut : beforeComment .outside (ws ++ '/' :: '/' :: ys) = ws := by
      rw [beforeComment_append (isCommentFree_of_notMem hslash _)
        (fun hlast => absurd (List.mem_of_getLast? hlast) hslash), Quoting.after_outside hquote,
        beforeComment, if_pos ⟨rfl, rfl, rfl⟩, List.append_nil]
    rw [beforeComment_append hfree hjoint, hafter, hcut, beforeComment_of_isCommentFree hfree,
      trim_append_blanks hws]
  · rw [beforeComment_append_of_comment (by simpa using hfree)]

/-! ## lines -/

/-- a comment as it is written behind a line -/
def trailingComment (text : List Char) : List Char := [' ', '/', '/', ' '] ++ text

theorem trimEnd_append_mark (xs text : List Char) :
    trimEnd (xs ++ '/' :: '/' :: text) = xs ++ '/' :: '/' :: trimEnd text := by
  have hlast : NoBlankLast (xs ++ ['/', '/']) :=
    NoBlankLast.append_left (NoBlankLast.concat (by decide) ['/']) (by simp) xs
  have htrim := trimEnd_append_of_noBlankLast hlast text
  simpa using htrim

theorem head_trimEnd_space (text : List Char) :
    ∀ c ∈ (trimEnd (' ' :: text)).head?, isBlank c = true := by
  intro c hc
  obtain ⟨more, hmore⟩ := trimEnd_isPrefix (' ' :: text)
  have hspace : (' ' :: text).head? = some c := by
    rw [← hmore]
    exact List.mem_head?_append_of_mem_head? hc
  cases hspace
  decide

theorem trim_append_trailingComment (cs text : List Char) :
    ∃ ws rest, (∀ c ∈ ws, isBlank c = true) ∧ (trim cs = [] ↔ ws = []) ∧
      (∀ c ∈ rest.head?, isBlank c = true) ∧
      trim (cs ++ trailingComment text) = trim cs ++ (ws ++ '/' :: '/' :: rest) := by
  obtain ⟨left, right, hleft, hright, hcs⟩ := exists_eq_trim cs
  have hgap : ∀ c ∈ right ++ [' '], isBlank c = true := by
    intro c hc
    rcases List.mem_append.mp hc with hc | hc
    · exact hright c hc
    · cases List.mem_singleton.mp hc
      decide
  have htext : cs ++ trailingComment text =
      left ++ (trim cs ++ (right ++ [' '] ++ '/' :: '/' :: ' ' :: text)) := by
    conv => lhs; rw [hcs]
    simp [trailingComment]
  rw [htext, trim_blanks_append hleft]
  by_cases hempty : trim cs = []
  · refine ⟨[], _, nofun, iff_of_true hempty rfl, head_trimEnd_space text, ?_⟩
    rw [hempty, List.nil_append, trim_blanks_append hgap]
    exact trimEnd_append_mark [] _
  · refine ⟨right ++ [' '], _, hgap, iff_of_false hempty (by simp), head_trimEnd_space text, ?_⟩
    have hfirst : NoBlankFirst (trim cs ++ (right ++ [' '] ++ '/' :: '/' :: ' ' :: text)) := by
      intro c hc
      rw [List.head?_append_of_ne_nil _ hempty] at hc
      exact (isTrimmed_trim cs).1 c hc
    rw [trim, trimStart_of_noBlankFirst hfirst, ← List.append_assoc, trimEnd_append_mark,
      List.append_assoc]

/-- a line that is no documentation and does not end inside a string -/
structure IsCodeLine (cs : List Char) : Prop where
  noDoc : ¬"///".toList <+: trim cs
  closed : endsInString (trim cs) = false

instance (cs : List Char) : Decidable (IsCodeLine cs) :=
  decidable_of_iff (¬"///".toList <+: trim cs ∧ endsInString (trim cs) = false)
    ⟨fun h => ⟨h.1, h.2⟩, fun h => ⟨h.noDoc, h.closed⟩⟩

theorem dropHead?_eq_none {p cs : List Char} (h : ¬p <+: cs) : dropHead? p cs = none := by
  rw [← Option.not_isSome_iff_eq_none, dropHead?_isSome_iff]
  exact h

theorem lineShape_append_trailingComment {cs : List Char} (h : IsCodeLine cs) (text : List Char) :
    lineShape (cs ++ trailingComment text) = lineShape cs := by
  obtain ⟨ws, rest, hws, hempty, hrest, htrim⟩ := trim_append_trailingComment cs text
  have hmark : ∀ c ∈ "///".toList, isBlank c = false := by
    have hall : ("///".toList.all fun c => !isBlank c) = true := by decide
    simpa using hall
  have hdoc : ¬"///".toList <+: trim cs ++ (ws ++ '/' :: '/' :: rest) := by
    intro hmarked
    by_cases hcs : trim cs = []
    · rw [hcs, hempty.mp hcs] at hmarked
      have hslashes : "///".toList <+: ['/', '/'] := prefix_of_prefix_append hmark hrest hmarked
      exact absurd hslashes (by decide)
    · refine h.noDoc (prefix_of_prefix_append hmark ?_ hmarked)
      intro c hc
      rw [List.head?_append_of_ne_nil _ (mt hempty.mpr hcs)] at hc
      exact hws c (List.mem_of_head? hc)
  unfold lineShape
  dsimp only
  rw [htrim, dropHead?_eq_none hdoc, dropHead?_eq_none h.noDoc, stripComment_eq, stripComment_eq]
  dsimp only
  rw [trim_beforeComment_append h.closed hws (mt hempty.mpr)]

theorem lineShape_dropReturn (cs : List Char) : lineShape (dropReturn cs) = lineShape cs := by
  unfold lineShape
  rw [trim_dropReturn]

/-! ## texts -/

theorem ReaderState.run_congr {xs ys : List (List Char)} (h : xs.map lineShape = ys.map lineShape)
    (s : ReaderState) (line : Nat) : s.run line xs = s.run line ys := by
  induction xs generalizing ys s line with
  | nil =>
    cases List.map_eq_nil_iff.mp h.symm
    rfl
  | cons x xs ih =>
    obtain ⟨y, ys, rfl, hy, hys⟩ := List.map_eq_cons_iff.mp h.symm
    have hstep : s.step line y = s.step line x := by
      unfold step
      rw [hy]
    rw [run, run, hstep]
    cases s.step line x with
    | error e => rfl
    | ok t => exact ih hys.symm t (line + 1)

/-- the shapes of all lines when another text stands in the place of a line -/
theorem exists_shapes {text : List Char} (l : LineOf text) :
    ∃ below, ∀ cs, '\n' ∉ cs → cs ++ l.below ≠ [] →
      (lines (l.above ++ (cs ++ l.below))).map lineShape =
        (lines l.above).map lineShape ++ lineShape cs :: below := by
  obtain ⟨above, chars, below, -, hstarts, -, hends, -⟩ := l
  dsimp only
  rcases hends with rfl | ⟨rest, rfl⟩ | ⟨rest, rfl⟩
  · refine ⟨[], fun cs hcs hne => ?_⟩
    rw [List.append_nil] at hne ⊢
    rw [lines_append hstarts, lines_of_notMem hcs hne, List.map_append]
    rfl
  · refine ⟨(lines rest).map lineShape, fun cs hcs _ => ?_⟩
    rw [List.singleton_append, lines_append hstarts, lines_cons hcs, List.map_append, List.map_cons,
      lineShape_dropReturn]
  · refine ⟨(lines rest).map lineShape, fun cs hcs _ => ?_⟩
    rw [lines_append hstarts, List.cons_append, List.singleton_append, lines_cons_return hcs,
      List.map_append, List.map_cons]

/-- **trailing comments are invisible**: every line of a text has its place, and a comment behind a line
at any place changes nothing -/
theorem parse_trailingComment (source : String) :
    (∀ n raw, (lines source.toList)[n]? = some raw →
      ∃ l : LineOf source.toList, l.chars = raw ∧ (lines l.above).length = n) ∧
    ∀ (l : LineOf source.toList) (comment : List Char), IsCodeLine l.chars → '\n' ∉ comment →
      parse (String.ofList (l.append (trailingComment comment))) = parse source := by
  refine ⟨fun n raw hraw => exists_lineOf hraw, fun l comment hl hcomment => ?_⟩
  obtain ⟨below, hbelow⟩ := exists_shapes l
  have hwhole : '\n' ∉ l.chars ++ trailingComment comment := by
    simp [trailingComment, l.whole, hcomment]
  have hshapes : (lines (l.append (trailingComment comment))).map lineShape =
      (lines source.toList).map lineShape := by
    conv => rhs; rw [l.text_eq]
    rw [LineOf.append, hbelow _ hwhole (by simp [trailingComment]), hbelow _ l.whole l.nonempty,
      lineShape_append_trailingComment hl]
  rw [parse_eq, parse_eq, String.toList_ofList, ReaderState.run_congr hshapes]

/-- a comment mark and an escaped quote inside a string, and lines that end with a carriage return -/
def quotedText : String := "model A \x7b\r\n  x String @default(\"a//b\\\"\")\r\n\x7d"

def quotedLine : LineOf quotedText.toList where
  above := "model A \x7b\r\n".toList
  chars := "  x String @default(\"a//b\\\"\")".toList
  below := "\r\n\x7d".toList
  text_eq := by decide +kernel
  starts := by
    have hlast : "model A \x7b\r\n".toList.getLast? = some '\n' := by decide +kernel
    rw [hlast]
    rintro c ⟨⟩
    rfl
  whole := by decide +kernel
  ends := by decide +kernel
  nonempty := by decide +kernel

/-- the comment has quotes, a backslash and slashes of its own -/
theorem parse_trailingComment_quoted :
    (lines quotedText.toList)[1]? = some quotedLine.chars ∧ IsCodeLine quotedLine.chars ∧
    '\n' ∉ "/ \"\\ // c\r".toList ∧
    parse (String.ofList (quotedLine.append (trailingComment "/ \"\\ // c\r".toList))) =
      .ok [⟨.model, some "A", 1, none,
        [.field ⟨"x", "String", false, false, [⟨"default", some "\"a//b\\\"\""⟩], none, 2⟩]⟩] := by
  have hline : IsCodeLine quotedLine.chars := by decide +kernel
  have hbreak : '\n' ∉ "/ \"\\ // c\r".toList := by decide +kernel
  refine ⟨by decide +kernel, hline, hbreak, ?_⟩
  rw [(parse_trailingComment quotedText).2 quotedLine _ hline hbreak]
  decide +kernel

end ResolverTypes.DataModel
