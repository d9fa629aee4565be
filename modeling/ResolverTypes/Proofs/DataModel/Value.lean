import ResolverTypes.Proofs.DataModel.Printing

/-!
# Values in argument texts

The text between the parentheses of an attribute is scanned three times: for a comment mark, for the
parenthesis that closes it and for the commas between its arguments.  Each scan keeps its own account
of strings and brackets.

`isValue` is one account for all of them: strings are closed, each bracket is closed by its own kind, and
commas stand inside brackets or strings.  Every scan passes such a text as a whole (`IsWhole.of_isValue`),
so whole texts with commas between them are found again (`splitArguments_join`), and blanks around them
do not matter (`splitArguments_trim`).
-/

namespace ResolverTypes.DataModel
open Text

/-! ## values -/

/-- the bracket that closes another one -/
def closer? (c : Char) : Option Char :=
  if c = '(' then some ')'
  else if c = '[' then some ']'
  else if c = '\x7b' then some '\x7d'
  else none

def isCloser (c : Char) : Bool := c == ')' || c == ']' || c == '\x7d'

/-- a text closes its strings and brackets and the brackets before it that wait for `pending`, and has
no comma where no bracket is open -/
def isValueFrom (q : Quoting) (pending : List Char) : List Char → Bool
  | [] => q == .outside && pending.isEmpty
  | c :: cs =>
    if q = .outside then
      match closer? c with
      | some d => isValueFrom .outside (d :: pending) cs
      | none =>
        if isCloser c then pending.head? == some c && isValueFrom .outside pending.tail cs
        else if c = ',' then !pending.isEmpty && isValueFrom .outside pending cs
        else isValueFrom (q.next c) pending cs
    else isValueFrom (q.next c) pending cs

/-- a text that closes its own strings and brackets and has no comma outside them -/
def isValue (cs : List Char) : Bool := isValueFrom .outside [] cs

section
variable {q : Quoting} {pending cs : List Char}

theorem of_closer?_eq_some {c d : Char} (h : closer? c = some d) :
    bracketStep c = 1 ∧ c ≠ '"' ∧ c ≠ ')' ∧ c ≠ ',' ∧ (d = ')' ↔ c = '(') := by
  unfold closer? at h
  split at h
  · next hc =>
    cases h
    rw [hc]
    decide
  · split at h
    · next hc =>
      cases h
      rw [hc]
      decide
    · split at h
      · next hc =>
        cases h
        rw [hc]
        decide
      · cases h

theorem of_isCloser {c : Char} (h : isCloser c = true) :
    bracketStep c = -1 ∧ c ≠ '"' ∧ c ≠ '(' ∧ c ≠ ',' := by
  unfold isCloser at h
  rw [Bool.or_eq_true, Bool.or_eq_true, beq_iff_eq, beq_iff_eq, beq_iff_eq] at h
  rcases h with (rfl | rfl) | rfl <;> decide

theorem of_closer?_eq_none {c : Char} (hopen : closer? c = none) (hclose : ¬isCloser c = true) :
    bracketStep c = 0 ∧ c ≠ '(' ∧ c ≠ ')' := by
  unfold closer? at hopen
  unfold isCloser at hclose
  unfold bracketStep
  grind

/-- what one character does to the open brackets: to all of them, to the parentheses, and at a comma -/
theorem isValueFrom_cons {c : Char} (h : isValueFrom q pending (c :: cs) = true) :
    ∃ pending', isValueFrom (q.next c) pending' cs = true ∧
      (pending'.length : Int) = pending.length + (if q = .outside then bracketStep c else 0) ∧
      (pending'.count ')' + (if q = .outside ∧ c = ')' then 1 else 0) =
        pending.count ')' + if q = .outside ∧ c = '(' then 1 else 0) ∧
      ¬(q = .outside ∧ c = ',' ∧ pending = []) := by
  rw [isValueFrom] at h
  by_cases hq : q = .outside
  · subst hq
    simp only [if_true, true_and] at h ⊢
    have hnext : c ≠ '"' → Quoting.outside.next c = .outside := fun hquote => if_neg hquote
    split at h
    · next d hopen =>
      obtain ⟨hstep, hquote, hclose, hcomma, hparen⟩ := of_closer?_eq_some hopen
      refine ⟨d :: pending, by rwa [hnext hquote], by simp [hstep], ?_, fun hc => hcomma hc.1⟩
      rw [if_neg hclose, List.count_cons]
      simp [hparen]
    · next hopen =>
      split at h
      · next hclose =>
        obtain ⟨hstep, hquote, hparen, hcomma⟩ := of_isCloser hclose
        rw [Bool.and_eq_true, beq_iff_eq] at h
        obtain ⟨hhead, h⟩ := h
        -- the bracket closes the innermost open one
        obtain ⟨pending, rfl⟩ := List.head?_eq_some_iff.mp hhead
        refine ⟨pending, by rwa [hnext hquote], by rw [hstep, List.length_cons]; omega, ?_,
          fun hc => hcomma hc.1⟩
        rw [if_neg hparen, List.count_cons]
        simp
      · next hclose =>
        obtain ⟨hstep, hparen, hparen'⟩ := of_closer?_eq_none hopen hclose
        rw [hstep, if_neg hparen, if_neg hparen']
        split at h
        · next hcomma =>
          rw [Bool.and_eq_true] at h
          refine ⟨pending, by rw [hnext (by simp [hcomma])]; exact h.2, by simp, rfl, ?_⟩
          rintro ⟨-, rfl⟩
          exact absurd h.1 (by decide)
        · next hcomma => exact ⟨pending, h, by simp, rfl, fun hc => hcomma hc.1⟩
  · rw [if_neg hq] at h
    exact ⟨pending, h, by simp [hq], by simp [hq], fun hc => hq hc.1⟩

theorem isValueFrom_nil (h : isValueFrom q pending [] = true) : q = .outside ∧ pending = [] := by
  rwa [isValueFrom, Bool.and_eq_true, beq_iff_eq, List.isEmpty_iff] at h

/-! ## the scans over a value -/

theorem Quoting.after_of_isValueFrom (h : isValueFrom q pending cs = true) : q.after cs = .outside := by
  induction cs generalizing q pending with
  | nil => exact (isValueFrom_nil h).1
  | cons c cs ih =>
    obtain ⟨pending', h', -⟩ := isValueFrom_cons h
    exact ih h'

theorem isBalanced_of_isValueFrom (h : isValueFrom q pending cs = true) (depth : Nat)
    (rest : List Char) :
    isBalanced q (depth + pending.count ')') (cs ++ rest) = isBalanced .outside depth rest := by
  induction cs generalizing q pending with
  | nil =>
    obtain ⟨rfl, rfl⟩ := isValueFrom_nil h
    rfl
  | cons c cs ih =>
    obtain ⟨pending', h', -, hcount, -⟩ := isValueFrom_cons h
    rw [List.cons_append, isBalanced, ← ih h']
    by_cases hopen : q = .outside ∧ c = '('
    · have hclose : ¬(q = .outside ∧ c = ')') := by
        rw [hopen.2]
        simp
      rw [if_pos hopen, if_neg hclose, Nat.add_zero] at hcount
      obtain ⟨rfl, rfl⟩ := hopen
      rw [if_pos ⟨rfl, rfl⟩, hcount]
      rfl
    · rw [if_neg hopen, Nat.add_zero] at hcount
      rw [if_neg hopen]
      by_cases hclose : q = .outside ∧ c = ')'
      · rw [if_pos hclose] at hcount
        obtain ⟨rfl, rfl⟩ := hclose
        rw [if_pos ⟨rfl, rfl⟩, ← hcount]
        simp [Quoting.next]
      · rw [if_neg hclose, Nat.add_zero] at hcount
        rw [if_neg hclose, hcount]

/-- the scan for commas from any place -/
def Quoting.split : Quoting → Int → List Char → List Char → List (List Char)
  | .outside, depth, current, cs => splitArgumentsFrom depth false false current cs
  | .inside, depth, current, cs => splitArgumentsFrom depth true false current cs
  | .escaped, depth, current, cs => splitArgumentsFrom depth true true current cs

/-- one step of the scan, unless it cuts there -/
theorem Quoting.split_cons {depth : Int} {c : Char} (h : ¬(q = .outside ∧ c = ',' ∧ depth = 0))
    (current cs : List Char) :
    q.split depth current (c :: cs) =
      (q.next c).split (depth + if q = .outside then bracketStep c else 0) (c :: current) cs := by
  cases q with
  | outside =>
    rw [split, splitArgumentsFrom]
    by_cases hquote : c = '"'
    · subst hquote
      simp [next, split, bracketStep]
    · have hcomma : (c == ',' && depth == 0) = false := by simpa using h
      simp [next, split, hquote, hcomma]
  | inside =>
    rw [split, splitArgumentsFrom]
    by_cases hescape : c = '\\'
    · subst hescape
      simp [next, split]
    · by_cases hquote : c = '"'
      · subst hquote
        simp [next, split]
      · simp [next, split, hescape, hquote]
  | escaped => simp [next, split, splitArgumentsFrom]

theorem Quoting.split_of_isValueFrom (h : isValueFrom q pending cs = true) (current rest : List Char) :
    q.split pending.length current (cs ++ rest) =
      splitArgumentsFrom 0 false false (cs.reverse ++ current) rest := by
  induction cs generalizing q pending current with
  | nil =>
    obtain ⟨rfl, rfl⟩ := isValueFrom_nil h
    rfl
  | cons c cs ih =>
    obtain ⟨pending', h', hlength, -, hcomma⟩ := isValueFrom_cons h
    have hcut : ¬(q = .outside ∧ c = ',' ∧ (pending.length : Int) = 0) := by simpa using hcomma
    rw [List.cons_append, Quoting.split_cons hcut, ← hlength, ih h', List.reverse_cons,
      List.append_assoc]
    rfl

end

/-- a text that every scan passes as a whole when it starts outside strings -/
structure IsWhole (cs : List Char) : Prop where
  quotes : Quoting.outside.after cs = .outside
  parens : ∀ depth rest, isBalanced .outside depth (cs ++ rest) = isBalanced .outside depth rest
  commas : ∀ current rest, splitArgumentsFrom 0 false false current (cs ++ rest) =
    splitArgumentsFrom 0 false false (cs.reverse ++ current) rest
  commentFree : isCommentFree .outside cs = true

/-- brackets, quotes, commas and slashes, which the scans look for -/
def scanMarks : List Char := ['(', ')', '[', ']', '\x7b', '\x7d', '"', ',', '/']

def isPlain (c : Char) : Bool := !scanMarks.contains c

theorem isPlain_of {c : Char} {p : Char → Bool} (hp : scanMarks.any p = false) (hc : p c = true) :
    isPlain c = true := by
  rw [List.any_eq_false] at hp
  rw [isPlain, Bool.not_eq_true', List.contains_eq_mem, decide_eq_false_iff_not]
  exact fun hmem => hp c hmem hc

theorem isPlain_of_isBlank {c : Char} (h : isBlank c = true) : isPlain c = true :=
  isPlain_of (by decide) h

theorem isPlain_of_isNameChar {c : Char} (h : isNameChar c = true) : isPlain c = true :=
  isPlain_of (by decide) h

theorem isValueFrom_plain {c : Char} (hc : isPlain c = true) (pending cs : List Char) :
    isValueFrom .outside pending (c :: cs) = isValueFrom .outside pending cs := by
  have hne : ∀ d, isPlain d = false → c ≠ d := fun d hd => ne_of_test hc hd
  have hopen : closer? c = none := by
    rw [closer?, if_neg (hne _ (by decide)), if_neg (hne _ (by decide)), if_neg (hne _ (by decide))]
  have hclose : isCloser c = false := by
    simp [isCloser, hne ')' (by decide), hne ']' (by decide), hne '\x7d' (by decide)]
  have hnext : Quoting.outside.next c = .outside := if_neg (hne '"' (by decide))
  rw [isValueFrom, if_pos rfl, hopen]
  dsimp only
  rw [hclose, if_neg Bool.false_ne_true, if_neg (hne ',' (by decide)), hnext]

theorem isValue_of_isPlain {cs : List Char} (h : ∀ c ∈ cs, isPlain c = true) : isValue cs = true := by
  unfold isValue
  induction cs with
  | nil => rfl
  | cons c cs ih =>
    obtain ⟨hc, hcs⟩ := List.forall_mem_cons.mp h
    rw [isValueFrom_plain hc]
    exact ih hcs

namespace IsWhole

theorem of_isValue {cs : List Char} (h : isValue cs = true) (hfree : isCommentFree .outside cs = true) :
    IsWhole cs where
  quotes := Quoting.after_of_isValueFrom h
  parens := isBalanced_of_isValueFrom h
  commas := Quoting.split_of_isValueFrom h
  commentFree := hfree

theorem of_isPlain {cs : List Char} (h : ∀ c ∈ cs, isPlain c = true) : IsWhole cs :=
  of_isValue (isValue_of_isPlain h) (isCommentFree_of_notMem (notMem_of_test h (by decide)) _)

theorem append {xs ys : List Char} (hx : IsWhole xs) (hy : IsWhole ys)
    (h : xs.getLast? = some '/' → ys.head? ≠ some '/') : IsWhole (xs ++ ys) where
  quotes := by rw [Quoting.after_append, hx.quotes, hy.quotes]
  parens depth rest := by rw [List.append_assoc, hx.parens, hy.parens]
  commas current rest := by
    rw [List.append_assoc, hx.commas, hy.commas, List.reverse_append, List.append_assoc]
  commentFree := by
    rw [isCommentFree_append_of_joint h, hx.quotes, hx.commentFree, hy.commentFree]
    rfl

theorem plain_append {xs ys : List Char} (hx : ∀ c ∈ xs, isPlain c = true) (hy : IsWhole ys) :
    IsWhole (xs ++ ys) :=
  (of_isPlain hx).append hy fun hlast =>
    absurd (List.mem_of_getLast? hlast) (notMem_of_test hx (by decide))

theorem append_plain {xs ys : List Char} (hx : IsWhole xs) (hy : ∀ c ∈ ys, isPlain c = true) :
    IsWhole (xs ++ ys) :=
  hx.append (of_isPlain hy) fun _ hhead =>
    absurd (List.mem_of_head? hhead) (notMem_of_test hy (by decide))

end IsWhole

/-! ## argument lists -/

section
variable {parts : List (List Char)}

theorem isBalanced_join (h : ∀ part ∈ parts, IsWhole part) :
    isBalanced .outside 0 (join [','] parts) = true := by
  fun_induction join [','] parts with
  | case1 => rfl
  | case2 x =>
    have hx := (h x List.mem_cons_self).parens 0 []
    rw [List.append_nil] at hx
    exact hx
  | case3 x y xs ih =>
    rw [List.append_assoc, (h x List.mem_cons_self).parens]
    exact ih fun part hpart => h part (List.mem_cons_of_mem x hpart)

theorem isCommentFree_join (h : ∀ part ∈ parts, IsWhole part) :
    isCommentFree .outside (join [','] parts) = true := by
  fun_induction join [','] parts with
  | case1 => rfl
  | case2 x => exact (h x List.mem_cons_self).commentFree
  | case3 x y xs ih =>
    obtain ⟨hquotes, -, -, hfree⟩ := h x List.mem_cons_self
    rw [List.append_assoc, isCommentFree_append (by simp), hquotes, hfree]
    exact ih fun part hpart => h part (List.mem_cons_of_mem x hpart)

theorem splitArguments_join (h : ∀ part ∈ parts, IsWhole part) :
    splitArguments (join [','] parts) = parts.flatMap nonBlank := by
  unfold splitArguments
  fun_induction join [','] parts with
  | case1 => rfl
  | case2 x =>
    have hx := (h x List.mem_cons_self).commas [] []
    rw [List.append_nil, List.append_nil] at hx
    rw [hx, splitArgumentsFrom, List.reverse_reverse, List.flatMap_singleton]
  | case3 x y xs ih =>
    have hrest := ih fun part hpart => h part (List.mem_cons_of_mem x hpart)
    rw [List.append_assoc, (h x List.mem_cons_self).commas, List.flatMap_cons, ← hrest]
    simp [splitArgumentsFrom]

end

/-! ## blanks around arguments -/

theorem nonBlank_append {ws : List Char} (h : ∀ c ∈ ws, isBlank c = true) (cs : List Char) :
    nonBlank (ws ++ cs) = nonBlank cs ∧ nonBlank (cs ++ ws) = nonBlank cs := by
  unfold nonBlank
  rw [trim_blanks_append h, trim_append_blanks h]
  exact ⟨rfl, rfl⟩

/-- blanks at the start of the running part -/
theorem splitArgumentsFrom_start {ws : List Char} (h : ∀ c ∈ ws, isBlank c = true) (depth : Int)
    (quoted escaped : Bool) (current cs : List Char) :
    splitArgumentsFrom depth quoted escaped (current ++ ws) cs =
      splitArgumentsFrom depth quoted escaped current cs := by
  have hrev : ∀ c ∈ ws.reverse, isBlank c = true := fun c hc => h c (List.mem_reverse.mp hc)
  have hcut : ∀ current : List Char, nonBlank (current ++ ws).reverse = nonBlank current.reverse := by
    intro current
    rw [List.reverse_append]
    exact (nonBlank_append hrev _).1
  induction cs generalizing depth quoted escaped current with
  | nil => exact hcut current
  | cons c cs ih =>
    have hcons := fun depth quoted escaped => ih depth quoted escaped (c :: current)
    simp only [List.cons_append] at hcons
    simp only [splitArgumentsFrom, hcons, hcut]

theorem splitArgumentsFrom_blanks {ws : List Char} (h : ∀ c ∈ ws, isBlank c = true) (depth : Int)
    (quoted escaped : Bool) (current : List Char) :
    splitArgumentsFrom depth quoted escaped current ws = nonBlank current.reverse := by
  induction ws generalizing depth quoted escaped current with
  | nil => rfl
  | cons w ws ih =>
    have hw := h w List.mem_cons_self
    have hne : ∀ d, isBlank d = false → (w == d) = false := fun d hd =>
      beq_eq_false_iff_ne.mpr (ne_of_test hw hd)
    have hcut : nonBlank (w :: current).reverse = nonBlank current.reverse := by
      rw [List.reverse_cons]
      exact (nonBlank_append (by simpa using hw) _).2
    rw [splitArgumentsFrom, hne '\\' (by decide), hne '"' (by decide), hne ',' (by decide)]
    simp only [ih fun c hc => h c (List.mem_cons_of_mem w hc), hcut, Bool.and_false, Bool.false_and,
      Bool.false_eq_true, if_false, ite_self]

/-- blanks at the end of the text -/
theorem splitArgumentsFrom_end {ws : List Char} (h : ∀ c ∈ ws, isBlank c = true) (depth : Int)
    (quoted escaped : Bool) (current cs : List Char) :
    splitArgumentsFrom depth quoted escaped current (cs ++ ws) =
      splitArgumentsFrom depth quoted escaped current cs := by
  induction cs generalizing depth quoted escaped current with
  | nil => exact splitArgumentsFrom_blanks h depth quoted escaped current
  | cons c cs ih => simp only [List.cons_append, splitArgumentsFrom, ih]

theorem splitArguments_trim (cs : List Char) : splitArguments (trim cs) = splitArguments cs := by
  obtain ⟨ws, ws', hws, hws', hcs⟩ := exists_eq_trim cs
  have hwhole : IsWhole ws := .of_isPlain fun c hc => isPlain_of_isBlank (hws c hc)
  have hrev : ∀ c ∈ ws.reverse, isBlank c = true := fun c hc => hws c (List.mem_reverse.mp hc)
  unfold splitArguments
  conv => rhs; rw [hcs, hwhole.commas, List.append_nil]
  rw [splitArgumentsFrom_end hws', ← List.nil_append ws.reverse, splitArgumentsFrom_start hrev]

end ResolverTypes.DataModel
