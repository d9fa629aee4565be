import ResolverTypes.Proofs.DataModel.AttributeGrammar

/-!
# The scan for comment marks against the scan of arguments

Two scans keep track of string literals.  The one for comment marks walks over bytes and skips a byte
behind a backslash, the one over the arguments of an attribute walks over characters and skips a
character.  They see the same strings.

* `IsOutsideAfter`       where the scan of arguments stands behind a text, read off what it makes of every
                         continuation.  It is what `Quoting.after` says (`isOutsideAfter_iff`);
* `IsBeforeComment`      the text before the first comment mark that stands outside strings in this sense,
                         or all of the line.  There is one such text (`IsBeforeComment.unique`);
* `stripComment_agrees`  the scan of bytes finds this text, cuts between two characters, and finds nothing
                         more to cut in what it leaves.
-/

namespace ResolverTypes.DataModel

/-! ## strings, as the scan of arguments sees them -/

/-- puts a text before what was scanned -/
def withStart (start : List Char) (r : Option (List Char × List Char)) :
    Option (List Char × List Char) :=
  r.map fun p => (start ++ p.1, p.2)

theorem withFirst_withStart (c : Char) (start : List Char) (r : Option (List Char × List Char)) :
    withFirst c (withStart start r) = withStart (c :: start) r := by
  cases r <;> rfl

/-- behind a text the scan over the arguments of an attribute goes on outside strings, with some number of
parentheses open before the text and behind it -/
def IsOutsideAfter (start : List Char) : Prop :=
  ∃ depth depth', ∀ rest,
    scanParens depth false (start ++ rest) = withStart start (scanParens depth' false rest)

/-- a scan goes over a whole text if there are enough parentheses left to close -/
theorem Quoting.exists_scan_append (q : Quoting) {depth : Nat} {start : List Char}
    (h : start.length ≤ depth) :
    ∃ depth', ∀ rest,
      q.scan depth (start ++ rest) = withStart start ((q.after start).scan depth' rest) := by
  induction start generalizing q depth with
  | nil =>
    refine ⟨depth, fun rest => ?_⟩
    rw [List.nil_append, after_nil]
    cases q.scan depth rest <;> rfl
  | cons c start ih =>
    rw [List.length_cons] at h
    by_cases hclose : q = .outside ∧ c = ')'
    · obtain ⟨rfl, rfl⟩ := hclose
      obtain ⟨d, rfl⟩ := Nat.exists_eq_add_of_le' (Nat.le_of_add_left_le h)
      obtain ⟨depth', hdepth⟩ := ih .outside (Nat.le_of_succ_le_succ h)
      refine ⟨depth', fun rest => ?_⟩
      show withFirst ')' (Quoting.outside.scan d (start ++ rest)) = _
      rw [hdepth, withFirst_withStart]
      rfl
    · have hle : start.length ≤ if q = .outside ∧ c = '(' then depth + 1 else depth := by
        split <;> omega
      obtain ⟨depth', hdepth⟩ := ih (q.next c) hle
      refine ⟨depth', fun rest => ?_⟩
      rw [List.cons_append, scan_cons hclose, hdepth, withFirst_withStart, after_cons]

theorem isBalanced_replicate (n : Nat) : isBalanced .outside n (List.replicate n ')') = true := by
  induction n with
  | zero => rfl
  | succ n ih =>
    rw [List.replicate_succ, isBalanced, if_neg (by decide), if_pos ⟨rfl, rfl⟩, Nat.add_sub_cancel, ih]
    rfl

/-- closing parentheses do not end a string -/
theorem Quoting.eq_outside_of_after {q : Quoting} {n : Nat}
    (h : q.after (List.replicate n ')') = .outside) : q = .outside := by
  induction n generalizing q with
  | zero => exact h
  | succ n ih =>
    have hnext : q.next ')' = .outside := ih h
    cases q with
    | outside => rfl
    | inside | escaped => cases hnext

theorem isOutsideAfter_iff {start : List Char} :
    IsOutsideAfter start ↔ Quoting.outside.after start = .outside := by
  constructor
  · rintro ⟨depth, depth', hscan⟩
    -- as many parentheses as are open behind the text are closed, and then one more
    have hrest : scanParens depth' false (List.replicate depth' ')' ++ [')']) =
        some (List.replicate depth' ')', []) :=
      Quoting.scan_of_isBalanced (isBalanced_replicate depth') []
    have hwhole := hscan (List.replicate depth' ')' ++ [')'])
    rw [hrest] at hwhole
    have hbalanced : isBalanced .outside depth (start ++ List.replicate depth' ')') = true :=
      Quoting.isBalanced_of_scan hwhole
    have hafter := Quoting.after_of_isBalanced hbalanced
    rw [Quoting.after_append] at hafter
    exact Quoting.eq_outside_of_after hafter
  · intro hafter
    obtain ⟨depth', hscan⟩ := Quoting.outside.exists_scan_append (Nat.le_refl start.length)
    rw [hafter] at hscan
    exact ⟨start.length, depth', hscan⟩

/-! ## the first comment mark -/

/-- a comment mark stands behind `start`, outside strings -/
structure HasMarkAfter (line start : List Char) : Prop where
  mark : start ++ ['/', '/'] <+: line
  outside : IsOutsideAfter start

theorem HasMarkAfter.length_le {line start : List Char} (h : HasMarkAfter line start) :
    start.length + 2 ≤ line.length := by
  have hle := h.mark.length_le
  rwa [List.length_append] at hle

theorem HasMarkAfter.isPrefix {line start : List Char} (h : HasMarkAfter line start) : start <+: line :=
  (List.prefix_append start ['/', '/']).trans h.mark

/-- a text is what stands before the first comment mark of a line, or the line has none and it is all of
the line -/
inductive IsBeforeComment (line : List Char) : List Char → Prop where
  | marked {start : List Char} (hmark : HasMarkAfter line start)
      (hfirst : ∀ other, HasMarkAfter line other → start.length ≤ other.length) :
      IsBeforeComment line start
  | unmarked (hnone : ∀ start, ¬HasMarkAfter line start) : IsBeforeComment line line

theorem IsBeforeComment.unique {line text text' : List Char} (h : IsBeforeComment line text)
    (h' : IsBeforeComment line text') : text = text' := by
  cases h with
  | marked hmark hfirst =>
    cases h' with
    | marked hmark' hfirst' =>
      have hle := hfirst _ hmark'
      have hstart := List.prefix_of_prefix_length_le hmark.isPrefix hmark'.isPrefix hle
      exact hstart.eq_of_length_le (hfirst' _ hmark)
    | unmarked hnone => exact absurd hmark (hnone _)
  | unmarked hnone =>
    cases h' with
    | marked hmark' => exact absurd hmark' (hnone _)
    | unmarked => rfl

/-- no mark is left in the text before the first one -/
theorem IsBeforeComment.again {line text : List Char} (h : IsBeforeComment line text) :
    IsBeforeComment text text := by
  cases h with
  | marked hmark hfirst =>
    refine .unmarked fun other hother => ?_
    have hearlier : HasMarkAfter line other := ⟨hother.mark.trans hmark.isPrefix, hother.outside⟩
    have hle := hfirst other hearlier
    have hlt := hother.length_le
    omega
  | unmarked hnone => exact .unmarked hnone

theorem beforeComment_isPrefix {q : Quoting} {cs start : List Char} (hmark : start ++ ['/', '/'] <+: cs)
    (hq : q.after start = .outside) : beforeComment q cs <+: start := by
  obtain ⟨rest, rfl⟩ := hmark
  induction start generalizing q with
  | nil =>
    cases hq
    exact List.prefix_rfl
  | cons c start ih =>
    rw [List.cons_append, List.cons_append, beforeComment]
    split
    · exact List.nil_prefix
    · exact List.cons_prefix_cons.mpr ⟨rfl, ih hq⟩

theorem beforeComment_eq_or_mark (q : Quoting) (cs : List Char) :
    beforeComment q cs = cs ∨
      beforeComment q cs ++ ['/', '/'] <+: cs ∧ q.after (beforeComment q cs) = .outside := by
  induction cs generalizing q with
  | nil => exact .inl rfl
  | cons c cs ih =>
    rw [beforeComment]
    by_cases hmark : q = .outside ∧ c = '/' ∧ cs.head? = some '/'
    · rw [if_pos hmark]
      obtain ⟨rfl, rfl, hhead⟩ := hmark
      obtain ⟨rest, rfl⟩ := List.head?_eq_some_iff.mp hhead
      exact .inr ⟨⟨rest, rfl⟩, rfl⟩
    · rw [if_neg hmark]
      rcases ih (q.next c) with hall | ⟨hrest, hq⟩
      · exact .inl (congrArg (c :: ·) hall)
      · exact .inr ⟨List.cons_prefix_cons.mpr ⟨rfl, hrest⟩, hq⟩

theorem isBeforeComment_stripComment (line : List Char) : IsBeforeComment line (stripComment line) := by
  have hshortest : ∀ other, HasMarkAfter line other →
      (beforeComment .outside line).length ≤ other.length := fun other hother =>
    (beforeComment_isPrefix hother.mark (isOutsideAfter_iff.mp hother.outside)).length_le
  rw [stripComment_eq]
  rcases beforeComment_eq_or_mark .outside line with hall | ⟨hmark, houtside⟩
  · rw [hall] at hshortest ⊢
    refine .unmarked fun start hstart => ?_
    have hle := hshortest start hstart
    have hlt := hstart.length_le
    omega
  · exact .marked ⟨hmark, isOutsideAfter_iff.mpr houtside⟩ hshortest

/-! ## bytes -/

theorem utf8_append (xs ys : List Char) : utf8 (xs ++ ys) = utf8 xs ++ utf8 ys := List.flatMap_append

theorem utf8ByteSize_ofList (cs : List Char) : (String.ofList cs).utf8ByteSize = (utf8 cs).length := by
  rw [← String.size_toByteArray, String.toByteArray_ofList]
  exact List.size_toByteArray

theorem commentOffset_utf8 (line : List Char) :
    commentOffset false (utf8 line) = (utf8 (stripComment line)).length := by
  rw [stripComment_eq]
  exact Quoting.offset_utf8 .outside line

theorem stripComment_isPrefix (line : List Char) : stripComment line <+: line := by
  rw [stripComment_eq]
  exact beforeComment_prefix .outside line

/-- **the scans of bytes and of characters agree**: without its comment, a line is the text before the first
comment mark that the scan of arguments sees outside strings.  The scan of bytes cuts it between two
characters, and a second cut changes nothing -/
theorem stripComment_agrees (line : List Char) :
    (∀ text, stripComment line = text ↔ IsBeforeComment line text) ∧
    String.Pos.Raw.IsValid (String.ofList line) ⟨commentOffset false (utf8 line)⟩ ∧
    utf8 (stripComment line) = (utf8 line).take (commentOffset false (utf8 line)) ∧
    stripComment (stripComment line) = stripComment line := by
  have hcut := isBeforeComment_stripComment line
  obtain ⟨comment, hline⟩ := stripComment_isPrefix line
  refine ⟨fun text => ⟨fun h => h ▸ hcut, hcut.unique⟩, ?_, ?_, ?_⟩
  · rw [String.Pos.Raw.isValid_iff_exists_append]
    refine ⟨String.ofList (stripComment line), String.ofList comment, ?_, ?_⟩
    · rw [← String.ofList_append, hline]
    · rw [commentOffset_utf8, ← utf8ByteSize_ofList]
      rfl
  · rw [commentOffset_utf8]
    conv => rhs; arg 2; rw [← hline, utf8_append]
    exact List.take_left.symm
  · exact (isBeforeComment_stripComment (stripComment line)).unique hcut.again

/-- behind the backslash stands a character of two bytes, and the slashes before the last quote count for
nothing -/
example : stripComment "a \"\\é//\" // \"é".toList = "a \"\\é//\" ".toList := by decide +kernel

end ResolverTypes.DataModel
