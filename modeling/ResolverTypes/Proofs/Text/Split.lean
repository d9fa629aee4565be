import ResolverTypes.File.Path
import Mathlib.Data.List.Basic

/-!
# Cutting a text at a character

`splitOn` and `join` are the splitting and the intercalation of lists, so that the library's lemmas
apply to them.  `splitOnce` and `splitLast?` cut at the first and at the last occurrence.
-/

namespace ResolverTypes.Text

theorem splitFrom_eq (sep : Char) (acc cs : List Char) :
    splitFrom sep acc cs = cs.splitOnPPrepend (· == sep) acc := by
  induction cs generalizing acc with
  | nil => rfl
  | cons c cs ih =>
    rw [List.splitOnPPrepend_cons_eq_if, ← List.splitOnPPrepend_nil_right]
    unfold splitFrom
    rw [ih, ih]
    simp only [beq_iff_eq]

theorem splitOn_eq (sep : Char) (cs : List Char) : splitOn sep cs = cs.splitOn sep :=
  splitFrom_eq sep [] cs

theorem join_eq (sep : List Char) (parts : List (List Char)) :
    join sep parts = sep.intercalate parts := by
  fun_induction join sep parts with
  | case1 => rfl
  | case2 x => rw [List.intercalate_singleton]
  | case3 x y xs ih => rw [List.intercalate_cons_cons, ih]

theorem splitOn_ne_nil (sep : Char) (cs : List Char) : splitOn sep cs ≠ [] := by
  rw [splitOn_eq]
  exact List.splitOn_ne_nil sep cs

theorem splitOn_of_notMem {sep : Char} {cs : List Char} (h : sep ∉ cs) : splitOn sep cs = [cs] := by
  rw [splitOn_eq, List.splitOn_eq_singleton h]

theorem splitOn_append_cons (sep : Char) (xs ys : List Char) :
    splitOn sep (xs ++ sep :: ys) = splitOn sep xs ++ splitOn sep ys := by
  rw [splitOn_eq, splitOn_eq, splitOn_eq, List.splitOn_append_cons_self]

theorem eq_nil_of_splitOn {sep : Char} {cs : List Char} (h : splitOn sep cs = [[]]) : cs = [] := by
  have hjoin : [sep].intercalate (cs.splitOn sep) = cs := List.intercalate_splitOn sep
  rw [splitOn_eq] at h
  rw [h, List.intercalate_singleton] at hjoin
  exact hjoin.symm

theorem notMem_of_mem_splitOn {sep : Char} {cs part : List Char} (h : part ∈ splitOn sep cs) :
    sep ∉ part := by
  rw [splitOn_eq] at h
  induction cs generalizing part with
  | nil =>
    rw [List.splitOn_nil, List.mem_singleton] at h
    simp [h]
  | cons c cs ih =>
    rw [List.splitOn_cons_eq_if_modifyHead] at h
    split at h
    · rcases List.mem_cons.mp h with rfl | h
      · simp
      · exact ih h
    · next hc =>
      cases hparts : cs.splitOn sep with
      | nil => exact absurd hparts (List.splitOn_ne_nil sep cs)
      | cons head rest =>
        rw [hparts, List.modifyHead_cons] at h
        rcases List.mem_cons.mp h with rfl | h
        · have hhead := ih (hparts ▸ List.mem_cons_self)
          simp only [List.mem_cons, not_or]
          exact ⟨fun heq => hc (by simp [heq]), hhead⟩
        · exact ih (hparts ▸ List.mem_cons_of_mem _ h)

theorem splitOn_join {sep : Char} {parts : List (List Char)} (hne : parts ≠ [])
    (h : ∀ part ∈ parts, sep ∉ part) : splitOn sep (join [sep] parts) = parts := by
  rw [splitOn_eq, join_eq, List.splitOn_intercalate sep h hne]

/-! ## one cut -/

theorem exists_last_cut {sep : Char} {cs : List Char} (h : sep ∈ cs) :
    ∃ before after, cs = before ++ sep :: after ∧ sep ∉ after := by
  obtain ⟨after, before, hcs, hno⟩ := List.eq_append_cons_of_mem (List.mem_reverse.mpr h)
  refine ⟨before.reverse, after.reverse, ?_, by simpa using hno⟩
  simpa using congrArg List.reverse hcs

/-- what is added to a text without the separator goes to the last part -/
theorem splitOn_append_of_notMem {sep : Char} (xs : List Char) {ys : List Char} (h : sep ∉ ys) :
    ∃ parts last, splitOn sep xs = parts ++ [last] ∧ splitOn sep (xs ++ ys) = parts ++ [last ++ ys] := by
  by_cases hx : sep ∈ xs
  · obtain ⟨before, after, rfl, hno⟩ := exists_last_cut hx
    refine ⟨splitOn sep before, after, ?_, ?_⟩
    · rw [splitOn_append_cons, splitOn_of_notMem hno]
    · have hrest : sep ∉ after ++ ys := by simp [hno, h]
      rw [List.append_assoc, List.cons_append, splitOn_append_cons, splitOn_of_notMem hrest]
  · refine ⟨[], xs, splitOn_of_notMem hx, splitOn_of_notMem ?_⟩
    simp [hx, h]

theorem splitOnce_eq_some_iff {sep : Char} {cs before after : List Char} :
    splitOnce sep cs = some (before, after) ↔ cs = before ++ sep :: after ∧ sep ∉ before := by
  induction cs generalizing before with
  | nil => simp [splitOnce]
  | cons c cs ih =>
    unfold splitOnce
    split
    · next hc =>
      subst hc
      cases before with
      | nil => simp
      | cons b before =>
        simp only [Option.some.injEq, Prod.mk.injEq, List.cons_append, List.cons.injEq,
          List.mem_cons, not_or]
        constructor
        · rintro ⟨⟨⟩, -⟩
        · rintro ⟨⟨rfl, -⟩, hne, -⟩
          exact absurd rfl hne
    · next hc =>
      rw [Option.map_eq_some_iff]
      cases before with
      | nil => simpa using fun h => absurd h hc
      | cons b before =>
        simp only [Prod.exists, Prod.mk.injEq, List.cons.injEq, List.cons_append, List.mem_cons,
          not_or]
        constructor
        · rintro ⟨a, b', hsplit, ⟨rfl, rfl⟩, rfl⟩
          obtain ⟨rfl, hno⟩ := ih.mp hsplit
          exact ⟨⟨rfl, rfl⟩, Ne.symm hc, hno⟩
        · rintro ⟨⟨rfl, hcs⟩, -, hno⟩
          exact ⟨before, after, ih.mpr ⟨hcs, hno⟩, ⟨rfl, rfl⟩, rfl⟩

theorem splitOnce_eq_none_iff {sep : Char} {cs : List Char} : splitOnce sep cs = none ↔ sep ∉ cs := by
  induction cs with
  | nil => simp [splitOnce]
  | cons c cs ih =>
    unfold splitOnce
    split
    · next hc => simp [hc]
    · next hc => simp [ih, Ne.symm hc]

theorem splitOnce_append {sep : Char} {xs : List Char} (h : sep ∉ xs) (ys : List Char) :
    splitOnce sep (xs ++ ys) = (splitOnce sep ys).map (Prod.map (xs ++ ·) id) := by
  cases hsplit : splitOnce sep ys with
  | none =>
    rw [Option.map_none, splitOnce_eq_none_iff, List.mem_append, not_or]
    exact ⟨h, splitOnce_eq_none_iff.mp hsplit⟩
  | some p =>
    obtain ⟨hys, hno⟩ := splitOnce_eq_some_iff.mp hsplit
    rw [Option.map_some, Prod.map_apply, splitOnce_eq_some_iff, hys, List.append_assoc]
    exact ⟨rfl, by simp [h, hno]⟩

end ResolverTypes.Text

namespace ResolverTypes.Path

theorem splitLast?_eq_some_iff {sep : Char} {cs before after : List Char} :
    splitLast? sep cs = some (before, after) ↔ cs = before ++ sep :: after ∧ sep ∉ after := by
  unfold splitLast?
  rw [Option.map_eq_some_iff]
  constructor
  · rintro ⟨⟨a, b⟩, hsplit, heq⟩
    obtain ⟨hcs, hno⟩ := Text.splitOnce_eq_some_iff.mp hsplit
    cases heq
    have hrev := congrArg List.reverse hcs
    simp only [List.reverse_reverse, List.reverse_append, List.reverse_cons, List.append_assoc,
      List.cons_append, List.nil_append] at hrev
    exact ⟨hrev, by simpa using hno⟩
  · rintro ⟨rfl, hno⟩
    refine ⟨(after.reverse, before.reverse), Text.splitOnce_eq_some_iff.mpr ⟨by simp, by simpa⟩, ?_⟩
    simp

end ResolverTypes.Path
