import ResolverTypes.DataModel.Attribute
import ResolverTypes.Proofs.DataModel.Comment
import ResolverTypes.Proofs.Text.Name

/-!
# Scanning attributes

`scanParens` looks two characters ahead behind a backslash.  `Quoting.scan` is the same scan one
character at a time, with the place in string literals as its state, and `isBalanced` says in the same
way that a text closes what it opens: its strings, and its parentheses outside strings.

Such a text between two parentheses is found again as the arguments of an attribute
(`scanAttributes_arguments`); a name without arguments ends where its characters end
(`scanAttributes_name`).  So attributes are read one after the other (`scanAttributes_cons`).
-/

namespace ResolverTypes.DataModel
open Text

/-! ## parentheses -/

/-- the strings of a text are closed, and so are its parentheses outside strings, with `depth` more of
them than the text opens itself -/
def isBalanced (q : Quoting) (depth : Nat) : List Char → Bool
  | [] => q == .outside && depth == 0
  | c :: cs =>
    if q = .outside ∧ c = '(' then isBalanced .outside (depth + 1) cs
    else if q = .outside ∧ c = ')' then depth != 0 && isBalanced .outside (depth - 1) cs
    else isBalanced (q.next c) depth cs

/-- puts a character before what was scanned -/
def withFirst (c : Char) (r : Option (List Char × List Char)) : Option (List Char × List Char) :=
  r.map fun (a, rest) => (c :: a, rest)

/-- the scan for a closing parenthesis from any place -/
def Quoting.scan : Quoting → Nat → List Char → Option (List Char × List Char)
  | .outside, depth, cs => scanParens depth false cs
  | .inside, depth, cs => scanParens depth true cs
  | .escaped, _, [] => none
  | .escaped, depth, c :: cs => withFirst c (scanParens depth true cs)

theorem scanParens_plain {c : Char} (hescape : c ≠ '\\') (hquote : c ≠ '"') (hopen : c ≠ '(')
    (hclose : c ≠ ')') (depth : Nat) (quoted : Bool) (cs : List Char) :
    scanParens depth quoted (c :: cs) = withFirst c (scanParens depth quoted cs) := by
  rw [scanParens]
  · rfl
  · exact fun _ _ h _ => hescape h
  · exact fun h => hquote h
  · exact fun h => hopen h
  · exact fun h => hclose h

theorem scanParens_escape (depth : Nat) (cs : List Char) :
    scanParens depth true ('\\' :: cs) = withFirst '\\' (Quoting.escaped.scan depth cs) := by
  cases cs with
  | nil => rfl
  | cons c cs =>
    rw [scanParens, if_pos rfl, Quoting.scan]
    cases scanParens depth true cs <;> rfl

theorem scanParens_backslash (depth : Nat) (cs : List Char) :
    scanParens depth false ('\\' :: cs) = withFirst '\\' (scanParens depth false cs) := by
  cases cs with
  | nil => rfl
  | cons c cs =>
    rw [scanParens, if_neg Bool.false_ne_true]
    rfl

/-- one step of the scan, unless it ends there -/
theorem Quoting.scan_cons {q : Quoting} {c : Char} (h : ¬(q = .outside ∧ c = ')')) (depth : Nat)
    (cs : List Char) :
    q.scan depth (c :: cs) =
      withFirst c ((q.next c).scan (if q = .outside ∧ c = '(' then depth + 1 else depth) cs) := by
  cases q with
  | outside =>
    have hclose : c ≠ ')' := fun hc => h ⟨rfl, hc⟩
    by_cases hquote : c = '"'
    · rw [hquote, if_neg fun h => absurd h.2 (by decide)]
      rfl
    · have hnext : Quoting.outside.next c = .outside := if_neg hquote
      rw [hnext]
      by_cases hopen : c = '('
      · rw [hopen, if_pos ⟨rfl, rfl⟩]
        rfl
      · rw [if_neg fun h => hopen h.2]
        by_cases hescape : c = '\\'
        · rw [hescape]
          exact scanParens_backslash depth cs
        · exact scanParens_plain hescape hquote hopen hclose depth false cs
  | inside =>
    rw [if_neg fun h => absurd h.1 (by decide)]
    by_cases hquote : c = '"'
    · rw [hquote]
      rfl
    · by_cases hescape : c = '\\'
      · rw [hescape]
        exact scanParens_escape depth cs
      · have hnext : Quoting.inside.next c = .inside := by rw [next, if_neg hquote, if_neg hescape]
        rw [hnext]
        by_cases hopen : c = '('
        · rw [hopen]
          rfl
        · by_cases hclose : c = ')'
          · rw [hclose]
            rfl
          · exact scanParens_plain hescape hquote hopen hclose depth true cs
  | escaped =>
    rw [if_neg fun h => absurd h.1 (by decide)]
    rfl

/-- a text that closes what it opens is scanned up to the parenthesis behind it -/
theorem Quoting.scan_of_isBalanced {q : Quoting} {depth : Nat} {cs : List Char}
    (h : isBalanced q depth cs = true) (rest : List Char) :
    q.scan depth (cs ++ ')' :: rest) = some (cs, rest) := by
  induction cs generalizing q depth with
  | nil =>
    rw [isBalanced, Bool.and_eq_true, beq_iff_eq, beq_iff_eq] at h
    rw [h.1, h.2]
    rfl
  | cons c cs ih =>
    rw [isBalanced] at h
    rw [List.cons_append]
    by_cases hopen : q = .outside ∧ c = '('
    · rw [if_pos hopen] at h
      obtain ⟨rfl, rfl⟩ := hopen
      rw [scan_cons (by decide), if_pos ⟨rfl, rfl⟩]
      show withFirst '(' (Quoting.outside.scan (depth + 1) (cs ++ ')' :: rest)) = _
      rw [ih h]
      rfl
    · rw [if_neg hopen] at h
      by_cases hclose : q = .outside ∧ c = ')'
      · rw [if_pos hclose] at h
        obtain ⟨rfl, rfl⟩ := hclose
        cases depth with
        | zero => cases h
        | succ d =>
          rw [Bool.and_eq_true, Nat.add_sub_cancel] at h
          show withFirst ')' (Quoting.outside.scan d (cs ++ ')' :: rest)) = _
          rw [ih h.2]
          rfl
      · rw [if_neg hclose] at h
        rw [scan_cons hclose, if_neg hopen, ih h]
        rfl

theorem Quoting.after_of_isBalanced {q : Quoting} {depth : Nat} {cs : List Char}
    (h : isBalanced q depth cs = true) : q.after cs = .outside := by
  induction cs generalizing q depth with
  | nil =>
    rw [isBalanced, Bool.and_eq_true, beq_iff_eq] at h
    exact h.1
  | cons c cs ih =>
    rw [isBalanced] at h
    rw [after_cons]
    by_cases hopen : q = .outside ∧ c = '('
    · rw [if_pos hopen] at h
      obtain ⟨rfl, rfl⟩ := hopen
      exact ih h
    · rw [if_neg hopen] at h
      by_cases hclose : q = .outside ∧ c = ')'
      · rw [if_pos hclose] at h
        obtain ⟨rfl, rfl⟩ := hclose
        rw [Bool.and_eq_true] at h
        exact ih h.2
      · rw [if_neg hclose] at h
        exact ih h

/-! ## characters of names -/

/-- the blanks beyond ASCII -/
def blankRanges : List (Nat × Nat) :=
  [(0x85, 0x85), (0xA0, 0xA0), (0x1680, 0x1680), (0x2000, 0x200A), (0x2028, 0x2029),
    (0x202F, 0x202F), (0x205F, 0x205F), (0x3000, 0x3000)]

theorem blankRanges_apart : (alphanumericRanges.toList.all fun r =>
    blankRanges.all fun b => Nat.blt r.2 b.1 || Nat.blt b.2 r.1) = true := by
  decide +kernel

theorem mem_blankRanges {c : Char} (h : isBlank c = true) (hascii : ¬c.toNat < 0x80) :
    ∃ b ∈ blankRanges, b.1 ≤ c.toNat ∧ c.toNat ≤ b.2 := by
  unfold isBlank at h
  simp only [Bool.or_eq_true, Bool.and_eq_true, decide_eq_true_eq, beq_iff_eq] at h
  simp only [blankRanges, List.mem_cons, List.not_mem_nil, or_false, exists_eq_or_imp, exists_eq_left]
  omega

theorem isBlank_of_isAttributeChar {c : Char} (h : isAttributeChar c = true) : isBlank c = false := by
  unfold isAttributeChar at h
  rw [Bool.or_eq_true, Bool.or_eq_true, beq_iff_eq, beq_iff_eq] at h
  rcases h with (h | rfl) | rfl
  · by_cases hascii : c.toNat < 0x80
    · rw [isAlphanumeric_of_ascii hascii] at h
      exact isBlank_of_isAlphanum h
    · rw [isAlphanumeric, if_neg hascii, inRanges, ← Array.any_toList, List.any_eq_true] at h
      obtain ⟨r, hr, hin⟩ := h
      refine Bool.eq_false_iff.mpr fun hblank => ?_
      obtain ⟨b, hb, hbetween⟩ := mem_blankRanges hblank hascii
      have hapart := List.all_eq_true.mp (List.all_eq_true.mp blankRanges_apart r hr) b hb
      simp only [Bool.or_eq_true, Bool.and_eq_true, decide_eq_true_eq, Nat.blt_eq] at hin hapart
      omega
  · decide
  · decide

/-! ## attributes -/

theorem scanAttributes_blank {cs : List Char} (hcs : trimStart cs = []) : scanAttributes cs = .ok [] := by
  rw [scanAttributes]
  split
  · rfl
  · next h => cases hcs.symm.trans h
  · next h _ => exact (h hcs).elim

section
variable {cs name rest : List Char} (hne : name ≠ [])
  (hname : ∀ c ∈ name, isAttributeChar c = true)

include hne hname

/-- a name that no arguments follow -/
theorem scanAttributes_name (hcs : trimStart cs = '@' :: (name ++ rest))
    (hrest : ∀ c ∈ rest.head?, isAttributeChar c = false ∧ c ≠ '(') :
    scanAttributes cs = (scanAttributes rest).map (⟨String.ofList name, none⟩ :: ·) := by
  obtain ⟨htake, hdrop⟩ := takeWhile_append_of_head hname fun c hc => (hrest c hc).1
  rw [scanAttributes]
  split
  · next h => cases hcs.symm.trans h
  · next r h =>
    cases hcs.symm.trans h
    simp only [htake]
    rw [if_neg (by simpa using hne)]
    split
    · next body h =>
      rw [hdrop] at h
      exact absurd rfl (hrest '(' (by rw [h]; rfl)).2
    · next h => rw [hdrop]
  · next hat => exact (hat _ hcs).elim

/-- a name with arguments -/
theorem scanAttributes_arguments {args : List Char}
    (hcs : trimStart cs = '@' :: (name ++ '(' :: (args ++ ')' :: rest)))
    (hargs : isBalanced .outside 0 args = true) :
    scanAttributes cs = (scanAttributes rest).map
      (⟨String.ofList name, some (String.ofList (trim args))⟩ :: ·) := by
  have hopen : ∀ c ∈ ('(' :: (args ++ ')' :: rest)).head?, isAttributeChar c = false := by
    rintro c ⟨⟩
    decide
  obtain ⟨htake, hdrop⟩ := takeWhile_append_of_head hname hopen
  have hscan : scanParens 0 false (args ++ ')' :: rest) = some (args, rest) :=
    Quoting.scan_of_isBalanced hargs rest
  rw [scanAttributes]
  split
  · next h => cases hcs.symm.trans h
  · next r h =>
    cases hcs.symm.trans h
    simp only [htake]
    rw [if_neg (by simpa using hne)]
    split
    · next body h =>
      cases hdrop.symm.trans h
      split
      · next h => cases hscan.symm.trans h
      · next h =>
        cases hscan.symm.trans h
        rfl
    · next h => exact (h _ hdrop).elim
  · next hat => exact (hat _ hcs).elim

end

/-- arguments between parentheses, if there are any -/
def parenthesized : Option (List Char) → List Char
  | none => []
  | some args => '(' :: (args ++ [')'])

/-- an attribute behind blanks, and others after it -/
theorem scanAttributes_cons {cs left name rest : List Char} {args : Option (List Char)}
    {as : List Attribute} (hcs : trimStart cs = trimStart (left ++ '@' :: (name ++ (parenthesized args ++ rest))))
    (hleft : ∀ c ∈ left, isBlank c = true) (hne : name ≠ []) (hname : ∀ c ∈ name, isAttributeChar c = true)
    (hargs : ∀ t ∈ args, isBalanced .outside 0 t = true)
    (hhead : ∀ c ∈ rest.head?, isAttributeChar c = false ∧ c ≠ '(') (hrest : scanAttributes rest = .ok as) :
    scanAttributes cs = .ok (⟨String.ofList name, args.map fun t => String.ofList (trim t)⟩ :: as) := by
  have hstart : NoBlankFirst ('@' :: (name ++ (parenthesized args ++ rest))) := .cons (by decide) _
  rw [trimStart_append hleft, trimStart_of_noBlankFirst hstart] at hcs
  cases args with
  | none =>
    have hcs : trimStart cs = '@' :: (name ++ rest) := hcs
    rw [scanAttributes_name hne hname hcs hhead, hrest]
    rfl
  | some t =>
    have hcs : trimStart cs = '@' :: (name ++ '(' :: (t ++ ')' :: rest)) := by
      simpa [parenthesized] using hcs
    rw [scanAttributes_arguments hne hname hcs (hargs t rfl), hrest]
    rfl

end ResolverTypes.DataModel
