import ResolverTypes.Text.Blank
import ResolverTypes.Text.Lines
import Mathlib.Data.List.Basic
import Mathlib.Data.List.TakeWhile

/-!
# Starts, ends and lines of texts

* `dropHead?_eq_some_iff`  what is left when a start is dropped;
* `IsTrimmed`              texts without blanks at their ends, which `trim` gives and leaves alone;
* `exists_eq_trim`         a text is its trimmed text with blanks around it, and such blanks do not
                           matter for `trim` (`trim_blanks_append`, `trim_append_blanks`);
* `lines_flatMap`          lines that are put one below the other are found again;
* `lines_append`           the lines of a text that goes on after a line feed;
* `LineOf`                 a line with its place in the text, which every line has (`exists_lineOf`).
-/

namespace ResolverTypes.Text

/-! ## characters that a test tells apart -/

theorem ne_of_test {p : Char → Bool} {c d : Char} (hc : p c = true) (hd : p d = false) : c ≠ d := by
  rintro rfl
  rw [hc] at hd
  cases hd

theorem notMem_of_test {p : Char → Bool} {cs : List Char} (h : ∀ d ∈ cs, p d = true) {c : Char}
    (hc : p c = false) : c ∉ cs :=
  fun hmem => ne_of_test (h c hmem) hc rfl

/-! ## starts -/

theorem dropHead?_eq_some_iff {α : Type} [DecidableEq α] {p cs rest : List α} :
    dropHead? p cs = some rest ↔ cs = p ++ rest := by
  fun_induction dropHead? p cs with
  | case1 cs => simp
  | case2 p ps => simp
  | case3 p ps cs ih => simp [ih]
  | case4 p ps c cs hne => simp [Ne.symm hne]

theorem dropHead?_append (p rest : List Char) : dropHead? p (p ++ rest) = some rest :=
  dropHead?_eq_some_iff.mpr rfl

theorem dropHead?_cons_of_ne {p c : Char} (h : p ≠ c) (ps cs : List Char) :
    dropHead? (p :: ps) (c :: cs) = none := by
  rw [dropHead?, if_neg h]

theorem dropHead?_isSome_iff {p cs : List Char} : (dropHead? p cs).isSome = true ↔ p <+: cs := by
  rw [Option.isSome_iff_exists]
  constructor
  · rintro ⟨rest, h⟩
    exact ⟨rest, (dropHead?_eq_some_iff.mp h).symm⟩
  · rintro ⟨rest, rfl⟩
    exact ⟨rest, dropHead?_append p rest⟩

/-- what is taken while a test holds ends where the test fails -/
theorem takeWhile_append_of_head {p : Char → Bool} {xs rest : List Char} (hxs : ∀ c ∈ xs, p c = true)
    (hrest : ∀ c ∈ rest.head?, p c = false) :
    (xs ++ rest).takeWhile p = xs ∧ (xs ++ rest).dropWhile p = rest := by
  rw [List.takeWhile_append_of_pos hxs, List.dropWhile_append_of_pos hxs]
  cases rest with
  | nil => simp
  | cons c rest =>
    have hc : p c = false := hrest c rfl
    simp [hc]

theorem head_dropWhile (p : Char → Bool) (cs : List Char) : ∀ c ∈ (cs.dropWhile p).head?, p c = false := by
  intro c hc
  have hhead := List.head?_dropWhile_not p cs
  rw [show (cs.dropWhile p).head? = some c from hc] at hhead
  simpa using hhead

/-! ## blanks at the ends -/

def NoBlankFirst (cs : List Char) : Prop := ∀ c ∈ cs.head?, isBlank c = false

def NoBlankLast (cs : List Char) : Prop := ∀ c ∈ cs.getLast?, isBlank c = false

/-- a text without blanks at its ends -/
def IsTrimmed (cs : List Char) : Prop := NoBlankFirst cs ∧ NoBlankLast cs

theorem isTrimmed_iff (cs : List Char) : IsTrimmed cs ↔
    cs.head?.all (!isBlank ·) = true ∧ cs.getLast?.all (!isBlank ·) = true := by
  simp only [IsTrimmed, NoBlankFirst, NoBlankLast, Option.all_eq_true, Option.mem_def,
    Bool.not_eq_true']

instance (cs : List Char) : Decidable (IsTrimmed cs) := decidable_of_iff _ (isTrimmed_iff cs).symm

theorem NoBlankFirst.cons {c : Char} (h : isBlank c = false) (cs : List Char) :
    NoBlankFirst (c :: cs) := by
  rintro d ⟨⟩
  exact h

theorem NoBlankLast.append {xs ys : List Char} (hx : NoBlankLast xs) (hy : NoBlankLast ys) :
    NoBlankLast (xs ++ ys) := by
  intro c hc
  rw [List.getLast?_append] at hc
  cases hlast : ys.getLast? with
  | none =>
    rw [hlast] at hc
    exact hx c hc
  | some d =>
    rw [hlast] at hc
    exact hy c (hlast.trans hc)

theorem NoBlankLast.append_left {ys : List Char} (hy : NoBlankLast ys) (hne : ys ≠ []) (xs : List Char) :
    NoBlankLast (xs ++ ys) := by
  intro c hc
  rw [List.getLast?_append_of_ne_nil _ hne] at hc
  exact hy c hc

theorem NoBlankLast.of_forall {cs : List Char} (h : ∀ c ∈ cs, isBlank c = false) : NoBlankLast cs :=
  fun c hc => h c (List.mem_of_getLast? hc)

theorem NoBlankLast.concat {c : Char} (h : isBlank c = false) (cs : List Char) :
    NoBlankLast (cs ++ [c]) := by
  intro d hd
  rw [List.getLast?_concat] at hd
  cases hd
  exact h

theorem trimStart_of_noBlankFirst {cs : List Char} (h : NoBlankFirst cs) : trimStart cs = cs := by
  cases cs with
  | nil => rfl
  | cons c cs => rw [trimStart_cons, h c rfl, if_neg Bool.false_ne_true]

theorem trimEnd_of_noBlankLast {cs : List Char} (h : NoBlankLast cs) : trimEnd cs = cs := by
  rcases List.eq_nil_or_concat cs with rfl | ⟨cs, c, rfl⟩
  · rfl
  · rw [List.concat_eq_append] at h ⊢
    have hc : isBlank c = false := h c List.getLast?_concat
    rw [trimEnd_concat, hc, if_neg Bool.false_ne_true]

theorem trim_of_isTrimmed {cs : List Char} (h : IsTrimmed cs) : trim cs = cs := by
  rw [trim, trimStart_of_noBlankFirst h.1, trimEnd_of_noBlankLast h.2]

theorem trimStart_append {ws : List Char} (h : ∀ c ∈ ws, isBlank c = true) (cs : List Char) :
    trimStart (ws ++ cs) = trimStart cs :=
  List.dropWhile_append_of_pos h

theorem trimStart_space (cs : List Char) : trimStart (' ' :: cs) = trimStart cs := by
  have hspace : isBlank ' ' = true := by decide
  rw [trimStart_cons, if_pos hspace]

theorem trim_space {cs : List Char} (h : IsTrimmed cs) : trim (' ' :: cs) = cs := by
  rw [trim, trimStart_space]
  exact trim_of_isTrimmed h

theorem trim_blanks_append {ws : List Char} (h : ∀ c ∈ ws, isBlank c = true) (cs : List Char) :
    trim (ws ++ cs) = trim cs := by
  rw [trim, trimStart_append h, trim]

theorem trimEnd_append {ws : List Char} (h : ∀ c ∈ ws, isBlank c = true) (cs : List Char) :
    trimEnd (cs ++ ws) = trimEnd cs := by
  have hrev : ∀ c ∈ ws.reverse, isBlank c = true := fun c hc => h c (List.mem_reverse.mp hc)
  rw [trimEnd, List.reverse_append, List.dropWhile_append_of_pos hrev, trimEnd]

theorem trimEnd_append_of_noBlankLast {xs : List Char} (h : NoBlankLast xs) (ys : List Char) :
    trimEnd (xs ++ ys) = xs ++ trimEnd ys := by
  unfold trimEnd
  rw [List.reverse_append, List.dropWhile_append]
  split
  · next hempty =>
    have hxs : trimEnd xs = xs := trimEnd_of_noBlankLast h
    rw [List.isEmpty_iff.mp hempty, List.reverse_nil, List.append_nil]
    exact hxs
  · rw [List.reverse_append, List.reverse_reverse]

theorem trim_append_blanks {ws : List Char} (h : ∀ c ∈ ws, isBlank c = true) (cs : List Char) :
    trim (cs ++ ws) = trim cs := by
  rw [trim, trimStart, List.dropWhile_append]
  split
  · next hempty =>
    have hstart : trimStart cs = [] := List.isEmpty_iff.mp hempty
    have hblanks : ws.dropWhile isBlank = [] := List.dropWhile_eq_nil_iff.mpr h
    rw [hblanks, trim, hstart]
  · exact trimEnd_append h _

theorem exists_eq_trim (cs : List Char) :
    ∃ ws ws', (∀ c ∈ ws, isBlank c = true) ∧ (∀ c ∈ ws', isBlank c = true) ∧ cs = ws ++ (trim cs ++ ws') := by
  refine ⟨cs.takeWhile isBlank, ((trimStart cs).reverse.takeWhile isBlank).reverse, ?_, ?_, ?_⟩
  · exact fun c hc => List.mem_takeWhile_imp hc
  · exact fun c hc => List.mem_takeWhile_imp (List.mem_reverse.mp hc)
  · have hend : trim cs ++ ((trimStart cs).reverse.takeWhile isBlank).reverse = trimStart cs := by
      rw [trim, trimEnd, ← List.reverse_append, List.takeWhile_append_dropWhile, List.reverse_reverse]
    rw [hend]
    exact List.takeWhile_append_dropWhile.symm

theorem exists_eq_trimStart (cs : List Char) :
    ∃ ws, (∀ c ∈ ws, isBlank c = true) ∧ cs = ws ++ trimStart cs :=
  ⟨cs.takeWhile isBlank, fun _ hc => List.mem_takeWhile_imp hc, List.takeWhile_append_dropWhile.symm⟩

theorem noBlankFirst_trimStart (cs : List Char) : NoBlankFirst (trimStart cs) :=
  head_dropWhile isBlank cs

theorem noBlankLast_trimEnd (cs : List Char) : NoBlankLast (trimEnd cs) := by
  intro c hc
  rw [trimEnd, List.getLast?_reverse] at hc
  exact noBlankFirst_trimStart cs.reverse c hc

theorem trimEnd_isPrefix (cs : List Char) : trimEnd cs <+: cs := by
  rw [← List.reverse_suffix, trimEnd, List.reverse_reverse]
  exact List.dropWhile_suffix isBlank

theorem NoBlankFirst.of_isPrefix {xs ys : List Char} (h : NoBlankFirst ys) (hxs : xs <+: ys) :
    NoBlankFirst xs := by
  obtain ⟨rest, rfl⟩ := hxs
  exact fun c hc => h c (List.mem_head?_append_of_mem_head? hc)

theorem isTrimmed_trim (cs : List Char) : IsTrimmed (trim cs) :=
  ⟨(noBlankFirst_trimStart cs).of_isPrefix (trimEnd_isPrefix _), noBlankLast_trimEnd _⟩

/-- a start without blanks ends before the first blank -/
theorem prefix_of_prefix_append {p xs ys : List Char} (hp : ∀ c ∈ p, isBlank c = false)
    (hys : ∀ c ∈ ys.head?, isBlank c = true) (h : p <+: xs ++ ys) : p <+: xs := by
  rcases List.prefix_or_prefix_of_prefix h (List.prefix_append xs ys) with hxs | ⟨rest, rfl⟩
  · exact hxs
  · cases rest with
    | nil => simp
    | cons c rest =>
      obtain ⟨more, rfl⟩ := (List.prefix_append_right_inj xs).mp h
      have hno := hp c (List.mem_append_right xs List.mem_cons_self)
      rw [hys c rfl] at hno
      cases hno

theorem mem_trim {c : Char} {cs : List Char} (hc : c ∈ cs) (hblank : isBlank c = false) : c ∈ trim cs := by
  obtain ⟨ws, ws', hws, hws', hcs⟩ := exists_eq_trim cs
  rw [hcs, List.mem_append, List.mem_append] at hc
  rcases hc with hc | hc | hc
  · exact absurd hc (notMem_of_test hws hblank)
  · exact hc
  · exact absurd hc (notMem_of_test hws' hblank)

theorem trim_eq_nil_iff {cs : List Char} : trim cs = [] ↔ ∀ c ∈ cs, isBlank c = true := by
  constructor
  · intro h c hc
    by_contra hblank
    have hmem := mem_trim hc (Bool.eq_false_iff.mpr hblank)
    rw [h] at hmem
    cases hmem
  · intro h
    have htrim := trim_append_blanks h []
    rwa [List.nil_append, trim_nil] at htrim

/-! ## lines -/

theorem linesFrom_append {xs : List Char} (h : '\n' ∉ xs) (acc rest : List Char) :
    linesFrom acc (xs ++ '\n' :: rest) = dropReturn (acc.reverse ++ xs) :: linesFrom [] rest := by
  induction xs generalizing acc with
  | nil => simp [linesFrom]
  | cons x xs ih =>
    obtain ⟨hx, hxs⟩ := List.ne_and_not_mem_of_not_mem_cons h
    rw [List.cons_append, linesFrom, ih hxs, List.reverse_cons, List.append_assoc]
    · rfl
    · exact fun heq => hx heq.symm

theorem dropReturn_of_ne {line : List Char} (h : line.getLast? ≠ some '\r') : dropReturn line = line := by
  unfold dropReturn
  split
  · next hlast => exact absurd hlast h
  · rfl

theorem dropReturn_concat (line : List Char) : dropReturn (line ++ ['\r']) = line := by
  unfold dropReturn
  rw [List.getLast?_concat]
  exact List.dropLast_concat

theorem trim_dropReturn (line : List Char) : trim (dropReturn line) = trim line := by
  by_cases hlast : line.getLast? = some '\r'
  · obtain ⟨xs, rfl⟩ := List.getLast?_eq_some_iff.mp hlast
    rw [dropReturn_concat, trim_append_blanks (List.forall_mem_singleton.mpr (by decide))]
  · rw [dropReturn_of_ne hlast]

/-- lines that are put one below the other are found again -/
theorem lines_flatMap {ls : List (List Char)}
    (h : ∀ l ∈ ls, '\n' ∉ l ∧ l.getLast? ≠ some '\r') :
    lines (ls.flatMap (· ++ ['\n'])) = ls := by
  unfold lines
  induction ls with
  | nil => rfl
  | cons l ls ih =>
    obtain ⟨hbreak, hreturn⟩ := h l List.mem_cons_self
    have hrest := ih fun l' hl' => h l' (List.mem_cons_of_mem _ hl')
    rw [List.flatMap_cons, List.append_assoc, List.singleton_append, linesFrom_append hbreak, hrest,
      List.reverse_nil, List.nil_append, dropReturn_of_ne hreturn]

theorem linesFrom_append_break (acc xs ys : List Char) :
    linesFrom acc (xs ++ '\n' :: ys) = linesFrom acc (xs ++ ['\n']) ++ linesFrom [] ys := by
  induction xs generalizing acc with
  | nil => rfl
  | cons x xs ih =>
    rw [List.cons_append, List.cons_append]
    by_cases hx : x = '\n'
    · subst hx
      rw [linesFrom, linesFrom, ih, List.cons_append]
    · rw [linesFrom, linesFrom, ih]
      · exact hx
      · exact hx

theorem lines_append {xs : List Char} (h : ∀ c ∈ xs.getLast?, c = '\n') (ys : List Char) :
    lines (xs ++ ys) = lines xs ++ lines ys := by
  rcases List.eq_nil_or_concat xs with rfl | ⟨xs, c, rfl⟩
  · rfl
  · rw [List.concat_eq_append] at h ⊢
    have hc : c = '\n' := h c List.getLast?_concat
    rw [hc, List.append_assoc]
    exact linesFrom_append_break [] xs ys

theorem linesFrom_of_notMem {xs : List Char} (h : '\n' ∉ xs) (acc : List Char) :
    linesFrom acc xs = if (acc.reverse ++ xs).isEmpty then [] else [acc.reverse ++ xs] := by
  induction xs generalizing acc with
  | nil => simp [linesFrom]
  | cons x xs ih =>
    obtain ⟨hx, hxs⟩ := List.ne_and_not_mem_of_not_mem_cons h
    rw [linesFrom, ih hxs, List.reverse_cons, List.append_assoc]
    · rfl
    · exact fun heq => hx heq.symm

theorem lines_of_notMem {xs : List Char} (h : '\n' ∉ xs) (hne : xs ≠ []) : lines xs = [xs] := by
  rw [lines, linesFrom_of_notMem h, if_neg (by simpa using hne)]
  rfl

theorem lines_cons {xs : List Char} (h : '\n' ∉ xs) (rest : List Char) :
    lines (xs ++ '\n' :: rest) = dropReturn xs :: lines rest :=
  linesFrom_append h [] rest

theorem lines_cons_return {xs : List Char} (h : '\n' ∉ xs) (rest : List Char) :
    lines (xs ++ '\r' :: '\n' :: rest) = xs :: lines rest := by
  have hreturn : '\n' ∉ xs ++ ['\r'] := by simpa using h
  rw [List.append_cons, lines_cons hreturn, dropReturn_concat]

/-! ## lines in their text -/

/-- a line of a text between what is above and what is below it; its end belongs to what is below -/
structure LineOf (text : List Char) where
  above : List Char
  chars : List Char
  below : List Char
  text_eq : text = above ++ (chars ++ below)
  starts : ∀ c ∈ above.getLast?, c = '\n'
  whole : '\n' ∉ chars
  ends : below = [] ∨ ['\n'] <+: below ∨ ['\r', '\n'] <+: below
  nonempty : chars ++ below ≠ []

/-- the text with something more at the end of a line -/
def LineOf.append {text : List Char} (l : LineOf text) (extra : List Char) : List Char :=
  l.above ++ (l.chars ++ extra ++ l.below)

/-- a line of what is below a first line -/
def LineOf.under {rest : List Char} (l : LineOf rest) (first : List Char) :
    LineOf (first ++ '\n' :: rest) where
  above := first ++ '\n' :: l.above
  chars := l.chars
  below := l.below
  text_eq := by rw [List.append_assoc, List.cons_append, ← l.text_eq]
  starts := by
    intro c hc
    rw [List.getLast?_append_of_ne_nil _ (List.cons_ne_nil _ _), List.getLast?_cons] at hc
    cases hlast : l.above.getLast? with
    | none =>
      rw [hlast] at hc
      exact (Option.some.inj hc).symm
    | some d =>
      rw [hlast] at hc
      exact l.starts c (hlast.trans hc)
  whole := l.whole
  ends := l.ends
  nonempty := l.nonempty

/-- every line has its place -/
theorem exists_lineOf {text raw : List Char} {n : Nat} (h : (lines text)[n]? = some raw) :
    ∃ l : LineOf text, l.chars = raw ∧ (lines l.above).length = n := by
  by_cases hbreak : '\n' ∈ text
  · obtain ⟨xs, rest, rfl, hxs⟩ := List.eq_append_cons_of_mem hbreak
    rw [lines_cons hxs] at h
    cases n with
    | zero =>
      cases h
      by_cases hreturn : xs.getLast? = some '\r'
      · -- the carriage return belongs to the end of the line
        obtain ⟨ys, rfl⟩ := List.getLast?_eq_some_iff.mp hreturn
        have hys : '\n' ∉ ys := fun hmem => hxs (List.mem_append_left _ hmem)
        exact ⟨⟨[], ys, '\r' :: '\n' :: rest, by simp, nofun, hys, .inr (.inr ⟨rest, rfl⟩), by simp⟩,
          (dropReturn_concat ys).symm, rfl⟩
      · exact ⟨⟨[], xs, '\n' :: rest, rfl, nofun, hxs, .inr (.inl ⟨rest, rfl⟩), by simp⟩,
          (dropReturn_of_ne hreturn).symm, rfl⟩
    | succ n =>
      have hshorter : rest.length < (xs ++ '\n' :: rest).length := by
        rw [List.length_append, List.length_cons]
        omega
      rw [List.getElem?_cons_succ] at h
      obtain ⟨l, hl, hn⟩ := exists_lineOf h
      refine ⟨l.under xs, hl, ?_⟩
      rw [LineOf.under, lines_cons hxs, List.length_cons, hn]
  · by_cases hne : text = []
    · rw [hne] at h
      cases h
    · rw [lines_of_notMem hbreak hne] at h
      cases n with
      | zero =>
        cases h
        exact ⟨⟨[], text, [], by simp, nofun, hbreak, .inl rfl, by simpa using hne⟩, rfl, rfl⟩
      | succ n => cases h
termination_by text.length

theorem infix_of_mem_lines {line cs : List Char} (h : line ∈ lines cs) : line <:+: cs := by
  obtain ⟨n, hn⟩ := List.mem_iff_getElem?.mp h
  obtain ⟨l, rfl, -⟩ := exists_lineOf hn
  exact ⟨l.above, l.below, by rw [List.append_assoc, ← l.text_eq]⟩

end ResolverTypes.Text
