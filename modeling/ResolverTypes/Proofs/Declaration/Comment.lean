import ResolverTypes.Declaration.Comment
import ResolverTypes.Proofs.Text.Lines
import Mathlib.Data.List.Chain

/-!
# Documentation stays inside its comment

The comment of a documentation text ends where it is meant to end (`comment_closes_once`).

* `IsOpen`        a text in which no star stands right before a slash.  Parts of such a text are open,
                  and two of them may be joined if this makes no closer where they meet;
* `commentBody`   what stands between `/**` and the last `*/`.

Why no closer comes back: after `breakCloser` a text is open, and so are its lines without the blanks
at their ends.  In the comment a line always stands between blanks, so a star of the frame never meets
a slash of the text.
-/

namespace ResolverTypes.Declaration
open Text

/-! ## texts without a closer -/

/-- no star stands right before a slash -/
def IsOpen (cs : List Char) : Prop := cs.IsChain fun c d => ¬(c = '*' ∧ d = '/')

instance (cs : List Char) : Decidable (IsOpen cs) :=
  inferInstanceAs (Decidable (cs.IsChain fun c d => ¬(c = '*' ∧ d = '/')))

theorem IsOpen.append {xs ys : List Char} (hx : IsOpen xs) (hy : IsOpen ys)
    (hjoint : xs.getLast? = some '*' → ys.head? ≠ some '/') : IsOpen (xs ++ ys) := by
  refine List.isChain_append.mpr ⟨hx, hy, ?_⟩
  rintro c hc d hd ⟨rfl, rfl⟩
  exact hjoint hc hd

theorem isOpen_replicate (n : Nat) : IsOpen (List.replicate n ' ') :=
  List.isChain_replicate_of_rel n (by decide)

theorem IsOpen.part {xs ys : List Char} (h : IsOpen ys) (hxs : xs <:+: ys) : IsOpen xs :=
  List.IsChain.infix h hxs

theorem head?_breakCloser (cs : List Char) : (breakCloser cs).head? = cs.head? := by
  fun_cases breakCloser cs <;> rfl

theorem isOpen_breakCloser (cs : List Char) : IsOpen (breakCloser cs) := by
  fun_induction breakCloser cs with
  | case1 => exact .nil
  | case2 cs ih =>
    have hbroken : IsOpen ['*', '\\', '/'] := by decide
    exact hbroken.append ih (by simp)
  | case3 c cs hcloser ih =>
    refine List.isChain_cons.mpr ⟨?_, ih⟩
    rintro d hd ⟨rfl, rfl⟩
    rw [head?_breakCloser] at hd
    obtain ⟨rest, rfl⟩ := List.head?_eq_some_iff.mp hd
    exact hcloser rest rfl rfl

/-- the lines of a documentation text close nothing -/
theorem isOpen_of_mem_commentLines (doc : List Char) : ∀ line ∈ commentLines doc, IsOpen line := by
  intro line h
  obtain ⟨raw, hraw, rfl⟩ := List.mem_map.mp h
  exact (isOpen_breakCloser doc).part ((trimEnd_isPrefix raw).isInfix.trans (infix_of_mem_lines hraw))

/-- a text that is open up to its last star has one closer only -/
theorem closer_at_end {xs before after : List Char} (h : IsOpen (xs ++ ['*']))
    (heq : xs ++ ['*', '/', '\n'] = before ++ ['*', '/'] ++ after) : after = ['\n'] := by
  rcases List.eq_nil_or_concat after with rfl | ⟨after, c, rfl⟩
  · have hlast := congrArg List.getLast? heq
    simp at hlast
  · have hcut : xs ++ ['*', '/'] ++ ['\n'] = (before ++ ['*', '/'] ++ after) ++ [c] := by
      simpa using heq
    obtain ⟨heq, hc⟩ := List.append_inj' hcut rfl
    rcases List.eq_nil_or_concat after with rfl | ⟨after, d, rfl⟩
    · simpa using hc.symm
    · -- a closer before the last one would stand in the open part
      have hcut : xs ++ ['*'] ++ ['/'] = (before ++ ['*', '/'] ++ after) ++ [d] := by
        simpa using heq
      obtain ⟨hopen, -⟩ := List.append_inj' hcut rfl
      have hcloser : IsOpen ['*', '/'] := h.part ⟨before, after, hopen.symm⟩
      exact absurd hcloser (by decide)

/-! ## comments -/

/-- what stands between the start and the end of a comment with the given lines -/
def commentBody (indent : List Char) : List (List Char) → List Char
  | [line] => ' ' :: (line ++ [' '])
  | ls => '\n' :: (ls.flatMap (commentLine indent) ++ indent ++ [' '])

theorem comment_of_blank {doc : String} (h : trim doc.toList = []) (indent : List Char) :
    comment (some doc) indent = [] := by
  unfold comment
  dsimp only
  rw [h]
  rfl

theorem comment_of_text {doc : String} (h : trim doc.toList ≠ []) (indent : List Char) :
    comment (some doc) indent = indent ++ ['/', '*', '*'] ++
      commentBody indent (commentLines (trim doc.toList)) ++ ['*', '/', '\n'] := by
  have hopener : "/** ".toList = ['/', '*', '*', ' '] := by decide
  have hopenerLine : "/**\n".toList = ['/', '*', '*', '\n'] := by decide
  have hcloser : " */\n".toList = [' ', '*', '/', '\n'] := by decide
  unfold comment
  dsimp only
  rw [if_neg (by simpa using h), hopener, hopenerLine, hcloser]
  generalize commentLines (trim doc.toList) = ls
  unfold commentBody
  split <;> simp

theorem commentLine_eq (indent line : List Char) :
    commentLine indent line =
      if line = [] then indent ++ [' ', '*', '\n'] else indent ++ [' ', '*', ' '] ++ line ++ ['\n'] := by
  have hempty : " *\n".toList = [' ', '*', '\n'] := by decide
  have hstar : " * ".toList = [' ', '*', ' '] := by decide
  unfold commentLine
  rw [hempty, hstar]
  simp only [List.isEmpty_iff]

theorem getLast?_commentLine (indent line : List Char) : (commentLine indent line).getLast? = some '\n' := by
  rw [commentLine_eq]
  split
  · simp
  · exact List.getLast?_concat

theorem infix_commentLine (indent line : List Char) : line <:+: commentLine indent line := by
  rw [commentLine_eq]
  split
  · next h =>
    rw [h]
    exact List.nil_infix
  · exact ⟨_, _, rfl⟩

theorem infix_commentBody (indent : List Char) {line : List Char} {ls : List (List Char)} (h : line ∈ ls) :
    line <:+: commentBody indent ls := by
  unfold commentBody
  split
  · rw [List.mem_singleton.mp h]
    exact ⟨[' '], [' '], rfl⟩
  · have hline : line <:+: ls.flatMap (commentLine indent) :=
      (infix_commentLine indent line).trans (List.infix_of_mem_flatten (List.mem_map_of_mem h))
    refine hline.trans ⟨['\n'], indent ++ [' '], ?_⟩
    simp

theorem isOpen_commentLine (n : Nat) {line : List Char} (h : IsOpen line) :
    IsOpen (commentLine (List.replicate n ' ') line) := by
  have hindent := isOpen_replicate n
  rw [commentLine_eq]
  split
  · exact hindent.append (by decide) (by simp)
  · have hstar : IsOpen (List.replicate n ' ' ++ [' ', '*', ' ']) := hindent.append (by decide) (by simp)
    exact (hstar.append h (by simp)).append (by decide) (by simp)

theorem isOpen_flatMap_commentLine (n : Nat) {ls : List (List Char)} (h : ∀ l ∈ ls, IsOpen l) :
    IsOpen (ls.flatMap (commentLine (List.replicate n ' '))) := by
  induction ls with
  | nil => exact .nil
  | cons line ls ih =>
    obtain ⟨hline, hls⟩ := List.forall_mem_cons.mp h
    rw [List.flatMap_cons]
    refine (isOpen_commentLine n hline).append (ih hls) ?_
    rw [getLast?_commentLine]
    simp

theorem isOpen_commentBody (n : Nat) {ls : List (List Char)} (h : ∀ l ∈ ls, IsOpen l) :
    IsOpen ('*' :: commentBody (List.replicate n ' ') ls) := by
  unfold commentBody
  split
  · next line =>
    have hline : IsOpen line := h line (List.mem_singleton.mpr rfl)
    have hstart : IsOpen (['*', ' '] ++ line) := IsOpen.append (by decide) hline (by simp)
    exact hstart.append (by decide) (by simp)
  · have hstart : IsOpen (['*', '\n'] ++ ls.flatMap (commentLine (List.replicate n ' '))) :=
      IsOpen.append (by decide) (isOpen_flatMap_commentLine n h) (by simp)
    have hindent : IsOpen (List.replicate n ' ' ++ [' ']) :=
      (isOpen_replicate n).append (by decide) (by simp)
    have hbody := hstart.append hindent (by cases n <;> simp [List.replicate_succ])
    simpa using hbody

/-- a comment is open up to the star of its closer -/
theorem isOpen_comment (n : Nat) {ls : List (List Char)} (h : ∀ l ∈ ls, IsOpen l) :
    IsOpen (List.replicate n ' ' ++ ['/', '*', '*'] ++ commentBody (List.replicate n ' ') ls ++ ['*']) := by
  have hopener : IsOpen (List.replicate n ' ' ++ ['/', '*']) :=
    (isOpen_replicate n).append (by decide) (by simp [List.getLast?_replicate])
  have hbody : IsOpen (List.replicate n ' ' ++ ['/', '*'] ++ '*' :: commentBody (List.replicate n ' ') ls) :=
    hopener.append (isOpen_commentBody n h) (by simp)
  have hcomment := hbody.append (show IsOpen ['*'] by decide) (by simp)
  simpa using hcomment

/-- **documentation stays inside its comment**: a blank text gives nothing, and any other text a comment
that starts with the indent and its opener, holds every line of the documentation, and has its only
closer at its end -/
theorem comment_closes_once (doc : String) (n : Nat) :
    let indent := List.replicate n ' '
    let text := comment (some doc) indent
    ((∀ c ∈ doc.toList, isBlank c = true) ∧ text = []) ∨
    ((∃ c ∈ doc.toList, isBlank c = false) ∧
      ∃ body, text = indent ++ "/**".toList ++ body ++ "*/\n".toList ∧
        (∀ line ∈ commentLines (trim doc.toList), line <:+: body) ∧
        ∀ before after, text = before ++ "*/".toList ++ after → after = "\n".toList) := by
  intro indent text
  by_cases hblank : trim doc.toList = []
  · exact .inl ⟨trim_eq_nil_iff.mp hblank, comment_of_blank hblank indent⟩
  · refine .inr ⟨?_, ?_⟩
    · have hsome := mt trim_eq_nil_iff.mpr hblank
      simpa using hsome
    · have htext : text = _ := comment_of_text hblank indent
      rw [htext]
      refine ⟨commentBody indent (commentLines (trim doc.toList)), rfl,
        fun line hline => infix_commentBody indent hline, ?_⟩
      intro before after hoccurs
      exact closer_at_end (isOpen_comment n (isOpen_of_mem_commentLines (trim doc.toList))) hoccurs

/-- a text that tries to close its comment three times -/
example : comment (some "*/ a **/\n/*/") [' '] = " /**\n  * *\\/ a **\\/\n  * /*\\/\n  */\n".toList := by
  decide

end ResolverTypes.Declaration
