import ResolverTypes.Proofs.DataModel.Argument

/-!
# Argument texts cut at commas

Splitting an argument text at its commas undoes a join, and what it gives is split into the same parts
again.  The second half is about every text, with brackets that are never closed or were never opened and
strings that are left open.

A `Place` is all that the scan knows: whether it stands in a string and at which depth of brackets.

* `Place.split_append`       a text without a comma at the top (`isUncut`) becomes part of one argument;
* `IsRow`                    texts with commas between them are cut at these commas and nowhere else.  All
                             but the last one have to come back to the top;
* `exists_isRow`             every text is such a row, so nothing is asked of a text;
* `IsRow.flatMap_nonBlank`   the trimmed parts are a row again.  Only blanks are taken away, and a blank
                             does not lead to the top or away from it (`Place.next_of_isBlank`).  It may
                             end an escape, but only inside a string.
-/

namespace ResolverTypes.DataModel
open Text

/-! ## where the scan stands -/

/-- where a scan for commas stands: in string literals and in brackets -/
structure Place where
  quoting : Quoting
  depth : Int
deriving DecidableEq, Repr

namespace Place

/-- outside strings and brackets -/
def top : Place := ⟨.outside, 0⟩

def next (p : Place) (c : Char) : Place :=
  ⟨p.quoting.next c, p.depth + if p.quoting = .outside then bracketStep c else 0⟩

/-- where the scan stands after a text -/
def after (p : Place) (cs : List Char) : Place := cs.foldl next p

/-- no comma of a text stands outside strings and brackets -/
def isUncut (p : Place) : List Char → Bool
  | [] => true
  | c :: cs => !(p == top && c == ',') && (p.next c).isUncut cs

theorem after_append (p : Place) (xs ys : List Char) : p.after (xs ++ ys) = (p.after xs).after ys :=
  List.foldl_append

theorem isUncut_append (p : Place) (xs ys : List Char) :
    p.isUncut (xs ++ ys) = (p.isUncut xs && (p.after xs).isUncut ys) := by
  induction xs generalizing p with
  | nil => rfl
  | cons c xs ih => rw [List.cons_append, isUncut, isUncut, ih, Bool.and_assoc]; rfl

theorem isUncut_of_notMem {cs : List Char} (h : ',' ∉ cs) (p : Place) : p.isUncut cs = true := by
  induction cs generalizing p with
  | nil => rfl
  | cons c cs ih =>
    obtain ⟨hc, hcs⟩ := List.ne_and_not_mem_of_not_mem_cons h
    have hcomma : (c == ',') = false := by simpa using Ne.symm hc
    rw [isUncut, hcomma, Bool.and_false, ih hcs]
    rfl

/-! ## blanks -/

theorem next_of_isBlank {c : Char} (h : isBlank c = true) (p : Place) : p.next c = top ↔ p = top := by
  have hstep : bracketStep c = 0 := by
    simp [bracketStep, ne_of_test h (d := '(') (by decide), ne_of_test h (d := '[') (by decide),
      ne_of_test h (d := '\x7b') (by decide), ne_of_test h (d := ')') (by decide),
      ne_of_test h (d := ']') (by decide), ne_of_test h (d := '\x7d') (by decide)]
  have hquote : c ≠ '"' := ne_of_test h (by decide)
  have hescape : c ≠ '\\' := ne_of_test h (by decide)
  obtain ⟨q, depth⟩ := p
  cases q <;> simp [next, top, Quoting.next, hstep, hquote, hescape]

theorem after_of_isBlank {ws : List Char} (h : ∀ c ∈ ws, isBlank c = true) (p : Place) :
    p.after ws = top ↔ p = top := by
  induction ws generalizing p with
  | nil => rfl
  | cons w ws ih =>
    obtain ⟨hw, hws⟩ := List.forall_mem_cons.mp h
    exact (ih hws (p.next w)).trans (next_of_isBlank hw p)

theorem isUncut_of_isBlank {ws : List Char} (h : ∀ c ∈ ws, isBlank c = true) (p : Place) :
    p.isUncut ws = true :=
  isUncut_of_notMem (notMem_of_test h (by decide)) p

/-- blanks around a text change nothing -/
theorem after_blanks (left right : Gap) (cs : List Char) :
    (top.after (left.chars ++ (cs ++ right.chars)) = top ↔ top.after cs = top) ∧
      top.isUncut (left.chars ++ (cs ++ right.chars)) = top.isUncut cs := by
  have htop : top.after left.chars = top := (after_of_isBlank left.blank top).mpr rfl
  rw [after_append, htop, after_append, after_of_isBlank right.blank, isUncut_append, htop,
    isUncut_append, isUncut_of_isBlank left.blank, isUncut_of_isBlank right.blank, Bool.and_true,
    Bool.true_and]
  exact ⟨Iff.rfl, rfl⟩

theorem after_trim (cs : List Char) :
    (top.after (trim cs) = top ↔ top.after cs = top) ∧ top.isUncut (trim cs) = top.isUncut cs := by
  obtain ⟨ws, ws', hws, hws', hcs⟩ := exists_eq_trim cs
  obtain ⟨hafter, huncut⟩ := after_blanks ⟨ws, hws⟩ ⟨ws', hws'⟩ (trim cs)
  rw [← hcs] at hafter huncut
  exact ⟨hafter.symm, huncut.symm⟩

/-! ## cuts -/

def split (p : Place) (current cs : List Char) : List (List Char) := p.quoting.split p.depth current cs

theorem split_append {p : Place} {xs : List Char} (h : p.isUncut xs = true)
    (current ys : List Char) :
    p.split current (xs ++ ys) = (p.after xs).split (xs.reverse ++ current) ys := by
  induction xs generalizing p current with
  | nil => rfl
  | cons c xs ih =>
    rw [isUncut, Bool.and_eq_true, Bool.not_eq_true'] at h
    have hcut : ¬(p.quoting = .outside ∧ c = ',' ∧ p.depth = 0) := by
      rintro ⟨hq, rfl, hd⟩
      have htop : p = top := by
        obtain ⟨q, depth⟩ := p
        exact congr (congrArg Place.mk hq) hd
      rw [htop] at h
      exact absurd h.1 (by decide)
    rw [List.cons_append, split, Quoting.split_cons hcut]
    have hrest := ih h.2 (c :: current)
    rw [split] at hrest
    rw [List.reverse_cons, List.append_assoc]
    exact hrest

/-- a text is uncut, or it is cut behind a closed start -/
theorem exists_cut (p : Place) (cs : List Char) : p.isUncut cs = true ∨
    ∃ before rest, cs = before ++ ',' :: rest ∧ p.isUncut before = true ∧ p.after before = top := by
  induction cs generalizing p with
  | nil => exact .inl rfl
  | cons c cs ih =>
    by_cases hcut : p = top ∧ c = ','
    · obtain ⟨rfl, rfl⟩ := hcut
      exact .inr ⟨[], cs, rfl, rfl, rfl⟩
    · have hc : (!(p == top && c == ',')) = true := by
        rw [Bool.not_eq_true', Bool.and_eq_false_iff, beq_eq_false_iff_ne, beq_eq_false_iff_ne]
        exact not_and_or.mp hcut
      rcases ih (p.next c) with huncut | ⟨before, rest, rfl, huncut, hafter⟩
      · exact .inl (by rw [isUncut, hc, huncut]; rfl)
      · exact .inr ⟨c :: before, rest, rfl, by rw [isUncut, hc, huncut]; rfl, hafter⟩

end Place

theorem splitArguments_of_isUncut {cs : List Char} (h : Place.top.isUncut cs = true) :
    splitArguments cs = nonBlank cs := by
  have hsplit := Place.split_append h [] []
  rw [List.append_nil, List.append_nil] at hsplit
  have hend : ∀ p : Place, p.split cs.reverse [] = nonBlank cs := by
    intro p
    obtain ⟨q, depth⟩ := p
    cases q <;> simp [Place.split, Quoting.split, splitArgumentsFrom]
  rw [hend] at hsplit
  exact hsplit

/-- a text that ends outside strings and brackets, without a comma there -/
structure IsClosed (cs : List Char) : Prop where
  uncut : Place.top.isUncut cs = true
  ends : Place.top.after cs = .top

theorem splitArguments_cut {xs : List Char} (h : IsClosed xs) (ys : List Char) :
    splitArguments (xs ++ ',' :: ys) = nonBlank xs ++ splitArguments ys := by
  have hsplit := Place.split_append h.uncut [] (',' :: ys)
  rw [h.ends, List.append_nil] at hsplit
  have hcut : Place.top.split xs.reverse (',' :: ys) = nonBlank xs ++ splitArguments ys := by
    simp [Place.split, Quoting.split, Place.top, splitArgumentsFrom, splitArguments]
  exact hsplit.trans hcut

/-! ## rows of parts -/

/-- parts that no scan cuts, all but the last one closed -/
inductive IsRow : List (List Char) → Prop where
  | nil : IsRow []
  | cons {x : List Char} {xs : List (List Char)} (huncut : Place.top.isUncut x = true)
      (hends : xs = [] ∨ Place.top.after x = .top) (hrest : IsRow xs) : IsRow (x :: xs)

theorem splitArguments_of_isRow {parts : List (List Char)} (h : IsRow parts) :
    splitArguments (join [','] parts) = parts.flatMap nonBlank := by
  induction h with
  | nil => rfl
  | @cons x xs huncut hends hrest ih =>
    cases xs with
    | nil => rw [join, splitArguments_of_isUncut huncut, List.flatMap_singleton]
    | cons y xs =>
      rw [join, List.append_assoc, List.singleton_append,
        splitArguments_cut ⟨huncut, hends.resolve_left (List.cons_ne_nil y xs)⟩, ih]
      exact List.flatMap_cons.symm

/-- every text is a row of parts with commas between them -/
theorem exists_isRow (cs : List Char) : ∃ parts, parts ≠ [] ∧ IsRow parts ∧ join [','] parts = cs := by
  rcases Place.top.exists_cut cs with huncut | ⟨before, rest, hcs, huncut, hends⟩
  · exact ⟨[cs], by simp, .cons huncut (.inl rfl) .nil, rfl⟩
  · have hshorter : rest.length < cs.length := by
      rw [hcs, List.length_append, List.length_cons]
      omega
    obtain ⟨parts, hne, hrow, hjoin⟩ := exists_isRow rest
    obtain ⟨y, ys, rfl⟩ := List.exists_cons_of_ne_nil hne
    refine ⟨before :: y :: ys, by simp, .cons huncut (.inr hends) hrow, ?_⟩
    rw [join, hjoin, hcs, List.append_assoc]
    rfl
termination_by cs.length

/-! ## trimmed parts -/

theorem nonBlank_of_isTrimmed {part : List Char} (hne : part ≠ []) (htrim : IsTrimmed part) :
    nonBlank part = [part] := by
  unfold nonBlank
  rw [trim_of_isTrimmed htrim]
  exact if_neg (by simpa using hne)

theorem mem_nonBlank {cs part : List Char} (h : part ∈ nonBlank cs) : part ≠ [] ∧ part = trim cs := by
  unfold nonBlank at h
  dsimp only at h
  split at h
  · cases h
  · next hne =>
    rw [List.mem_singleton] at h
    rw [h]
    exact ⟨by simpa using hne, rfl⟩

/-- every part is trimmed and holds something -/
theorem of_mem_splitArguments {cs part : List Char} (h : part ∈ splitArguments cs) :
    part ≠ [] ∧ IsTrimmed part := by
  obtain ⟨parts, -, hrow, rfl⟩ := exists_isRow cs
  rw [splitArguments_of_isRow hrow] at h
  obtain ⟨x, -, hx⟩ := List.mem_flatMap.mp h
  obtain ⟨hne, rfl⟩ := mem_nonBlank hx
  exact ⟨hne, isTrimmed_trim x⟩

theorem IsRow.flatMap_nonBlank {parts : List (List Char)} (h : IsRow parts) :
    IsRow (parts.flatMap nonBlank) := by
  induction h with
  | nil => exact .nil
  | @cons x xs huncut hends hrest ih =>
    obtain ⟨hafter, huncut'⟩ := Place.after_trim x
    rw [List.flatMap_cons, nonBlank]
    split
    · exact ih
    · refine .cons (huncut'.trans huncut) (hends.imp ?_ hafter.mpr) ih
      rintro rfl
      rfl

/-- a row with a blank before every part but the first -/
def spaced : List (List Char) → List (List Char)
  | [] => []
  | x :: xs => x :: xs.map (' ' :: ·)

theorem join_cons_cons (sep : List Char) (c : Char) (x : List Char) (xs : List (List Char)) :
    join sep ((c :: x) :: xs) = c :: join sep (x :: xs) := by
  cases xs <;> rfl

theorem join_spaced (parts : List (List Char)) : join [','] (spaced parts) = join [',', ' '] parts := by
  cases parts with
  | nil => rfl
  | cons x xs =>
    rw [spaced]
    induction xs generalizing x with
    | nil => rfl
    | cons y ys ih =>
      rw [List.map_cons, join, join_cons_cons, ih, join, List.append_assoc, List.append_assoc]
      rfl

theorem isBlank_of_mem_space : ∀ c ∈ [' '], isBlank c = true := List.forall_mem_singleton.mpr (by decide)

def Gap.space : Gap := ⟨[' '], isBlank_of_mem_space⟩

theorem IsRow.map_space {parts : List (List Char)} (h : IsRow parts) : IsRow (parts.map (' ' :: ·)) := by
  induction h with
  | nil => exact .nil
  | @cons x xs huncut hends hrest ih =>
    obtain ⟨hafter, huncut'⟩ := Place.after_blanks .space ⟨[], List.forall_mem_nil _⟩ x
    rw [List.append_nil] at hafter huncut'
    refine .cons (huncut'.trans huncut) (hends.imp ?_ hafter.mpr) ih
    rintro rfl
    rfl

theorem IsRow.spaced {parts : List (List Char)} (h : IsRow parts) : IsRow (spaced parts) := by
  cases h with
  | nil => exact .nil
  | @cons x xs huncut hends hrest =>
    refine .cons huncut (hends.imp_left ?_) hrest.map_space
    rintro rfl
    rfl

theorem flatMap_nonBlank_of_isTrimmed {parts : List (List Char)}
    (h : ∀ part ∈ parts, part ≠ [] ∧ IsTrimmed part) : parts.flatMap nonBlank = parts := by
  induction parts with
  | nil => rfl
  | cons x xs ih =>
    obtain ⟨hx, hxs⟩ := List.forall_mem_cons.mp h
    rw [List.flatMap_cons, nonBlank_of_isTrimmed hx.1 hx.2, ih hxs]
    rfl

theorem flatMap_nonBlank_spaced (parts : List (List Char)) :
    (spaced parts).flatMap nonBlank = parts.flatMap nonBlank := by
  cases parts with
  | nil => rfl
  | cons x xs =>
    have hspace : ∀ y, nonBlank (' ' :: y) = nonBlank y := fun y => (nonBlank_append Gap.space.blank y).1
    rw [spaced, List.flatMap_cons, List.flatMap_map, List.flatMap_cons]
    simp only [hspace]

/-! ## written rows -/

/-- an argument with blanks around it -/
structure SpacedArgument where
  left : Gap
  chars : List Char
  right : Gap
  nonempty : chars ≠ []
  trimmed : IsTrimmed chars
  closed : IsClosed chars

def SpacedArgument.text (a : SpacedArgument) : List Char := a.left.chars ++ (a.chars ++ a.right.chars)

theorem isRow_text (as : List SpacedArgument) : IsRow (as.map SpacedArgument.text) := by
  induction as with
  | nil => exact .nil
  | cons a as ih =>
    obtain ⟨hafter, huncut⟩ := Place.after_blanks a.left a.right a.chars
    exact .cons (huncut.trans a.closed.uncut) (.inr (hafter.mpr a.closed.ends)) ih

theorem nonBlank_text (a : SpacedArgument) : nonBlank a.text = [a.chars] := by
  rw [SpacedArgument.text, (nonBlank_append a.left.blank _).1, (nonBlank_append a.right.blank _).2,
    nonBlank_of_isTrimmed a.nonempty a.trimmed]

/-- **splitting is the inverse of joining**: arguments that are closed in themselves are found again
whatever blanks stand around the commas, and the parts of any text, joined, are split into the same
parts -/
theorem splitArguments_join_inverse :
    (∀ as : List SpacedArgument,
      splitArguments (join [','] (as.map SpacedArgument.text)) = as.map SpacedArgument.chars) ∧
    ∀ cs, (∀ part ∈ splitArguments cs, part ≠ [] ∧ IsTrimmed part) ∧
      splitArguments (join [',', ' '] (splitArguments cs)) = splitArguments cs := by
  refine ⟨fun as => ?_, fun cs => ⟨fun part => of_mem_splitArguments, ?_⟩⟩
  · rw [splitArguments_of_isRow (isRow_text as), List.flatMap_map]
    simp only [nonBlank_text]
    exact (List.map_eq_flatMap).symm
  · obtain ⟨parts, -, hrow, hcs⟩ := exists_isRow cs
    have hparts : ∀ part ∈ splitArguments cs, part ≠ [] ∧ IsTrimmed part :=
      fun part => of_mem_splitArguments
    have hagain : IsRow (splitArguments cs) := by
      rw [← hcs, splitArguments_of_isRow hrow]
      exact hrow.flatMap_nonBlank
    rw [← join_spaced, splitArguments_of_isRow hagain.spaced, flatMap_nonBlank_spaced,
      flatMap_nonBlank_of_isTrimmed hparts]

/-- a comma and an escaped quote in a string, and a comma between brackets in the wrong order -/
def nestedArguments : List SpacedArgument :=
  [{ left := .space, chars := "a: \"x,\\\"\"".toList, right := .space,
     nonempty := by decide, trimmed := by decide, closed := ⟨by decide +kernel, by decide +kernel⟩ },
   { left := .space, chars := "),(".toList, right := .space,
     nonempty := by decide, trimmed := by decide, closed := ⟨by decide +kernel, by decide +kernel⟩ }]

/-- an empty part, a bracket that is not closed, and a string left open whose last blank is escaped -/
def openArguments : List Char := " a ,, (b , \"c\\ ".toList

theorem splitArguments_join_inverse_nested :
    splitArguments " a: \"x,\\\"\" , ),( ".toList = ["a: \"x,\\\"\"".toList, "),(".toList] ∧
    "(b , \"c\\".toList ∈ splitArguments openArguments ∧
    IsTrimmed "(b , \"c\\".toList ∧
    splitArguments (join [',', ' '] (splitArguments openArguments)) =
      ["a".toList, "(b , \"c\\".toList] := by
  have hopen : splitArguments openArguments = ["a".toList, "(b , \"c\\".toList] := by decide +kernel
  have hmem : "(b , \"c\\".toList ∈ splitArguments openArguments := by
    rw [hopen]
    exact .tail _ (.head _)
  obtain ⟨hinverse, hagain⟩ := splitArguments_join_inverse
  refine ⟨hinverse nestedArguments, hmem, ((hagain openArguments).1 _ hmem).2, ?_⟩
  rw [(hagain openArguments).2, hopen]

end ResolverTypes.DataModel
