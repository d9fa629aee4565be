import ResolverTypes.Proofs.DataModel.Attribute
import ResolverTypes.Proofs.Outcome

/-!
# The texts that are rows of attributes

`AttributesIn` says which attributes a text is a row of: `@name` or `@name(args)` with any blanks around
them, where the arguments close their strings and their parentheses (`IsEnclosed`).  The scan accepts
exactly these texts and gives exactly these attributes (`scanAttributes_eq_ok_iff`).

`ScansFirst` lists the ways in which the scan deals with the first attribute of a text, refusals included.
One direction is an induction over the row, the other one goes along these ways.
-/

namespace ResolverTypes.DataModel
open Text

/-! ## parentheses -/

/-- how a character moves the depth of parentheses outside strings -/
def parenStep (q : Quoting) (c : Char) : Int :=
  if q = .outside ∧ c = '(' then 1 else if q = .outside ∧ c = ')' then -1 else 0

/-- the parentheses that a text opens less those that it closes, outside strings -/
def parenDepth (q : Quoting) : List Char → Int
  | [] => 0
  | c :: cs => parenStep q c + parenDepth (q.next c) cs

/-- a text whose strings are closed and whose parentheses outside strings balance -/
structure IsEnclosed (cs : List Char) : Prop where
  strings : Quoting.outside.after cs = .outside
  closed : parenDepth .outside cs = 0
  /-- no start of the text closes more than it opens -/
  ordered : ∀ start, start <+: cs → 0 ≤ parenDepth .outside start

theorem forall_start_cons (q : Quoting) (depth : Nat) (c : Char) (cs : List Char) :
    (∀ start, start <+: c :: cs → 0 ≤ depth + parenDepth q start) ↔
      ∀ start, start <+: cs → 0 ≤ depth + parenStep q c + parenDepth (q.next c) start := by
  constructor
  · intro h start hstart
    have hcons := h (c :: start) (List.cons_prefix_cons.mpr ⟨rfl, hstart⟩)
    rwa [parenDepth, ← Int.add_assoc] at hcons
  · intro h start hstart
    cases start with
    | nil =>
      rw [parenDepth]
      omega
    | cons d start =>
      obtain ⟨rfl, hrest⟩ := List.cons_prefix_cons.mp hstart
      rw [parenDepth, ← Int.add_assoc]
      exact h start hrest

theorem isBalanced_iff (q : Quoting) (depth : Nat) (cs : List Char) :
    isBalanced q depth cs = true ↔ q.after cs = .outside ∧ depth + parenDepth q cs = 0 ∧
      ∀ start, start <+: cs → 0 ≤ depth + parenDepth q start := by
  induction cs generalizing q depth with
  | nil =>
    rw [isBalanced, Bool.and_eq_true, beq_iff_eq, beq_iff_eq]
    constructor
    · rintro ⟨rfl, rfl⟩
      refine ⟨rfl, rfl, fun start hstart => ?_⟩
      rw [List.prefix_nil.mp hstart]
      decide
    · rintro ⟨hq, hdepth, -⟩
      rw [parenDepth] at hdepth
      exact ⟨hq, by omega⟩
  | cons c cs ih =>
    rw [isBalanced, Quoting.after_cons, parenDepth, forall_start_cons, ← Int.add_assoc, parenStep]
    by_cases hopen : q = .outside ∧ c = '('
    · rw [if_pos hopen, if_pos hopen, ih]
      obtain ⟨rfl, rfl⟩ := hopen
      rfl
    · rw [if_neg hopen, if_neg hopen]
      by_cases hclose : q = .outside ∧ c = ')'
      · rw [if_pos hclose, if_pos hclose, Bool.and_eq_true, bne_iff_ne, ih]
        obtain ⟨rfl, rfl⟩ := hclose
        have hnext : Quoting.outside.next ')' = .outside := rfl
        rw [hnext]
        cases depth with
        | zero =>
          -- nothing is open that the parenthesis could close
          refine iff_of_false (fun h => h.1 rfl) ?_
          rintro ⟨-, -, h⟩
          exact absurd (h [] List.nil_prefix) (by decide)
        | succ depth =>
          have hdepth : ((depth + 1 : Nat) : Int) + -1 = depth := by omega
          rw [hdepth, Nat.add_sub_cancel]
          exact and_iff_right (Nat.succ_ne_zero depth)
      · rw [if_neg hclose, if_neg hclose, ih, Int.add_zero]

theorem isEnclosed_iff {cs : List Char} : IsEnclosed cs ↔ isBalanced .outside 0 cs = true := by
  rw [isBalanced_iff]
  simp only [Int.cast_ofNat_Int, Int.zero_add]
  exact ⟨fun h => ⟨h.strings, h.closed, h.ordered⟩, fun h => ⟨h.1, h.2.1, h.2.2⟩⟩

/-- what is scanned for the closing parenthesis closes what it opens -/
theorem Quoting.isBalanced_of_scan {q : Quoting} {depth : Nat} {cs a r : List Char}
    (h : q.scan depth cs = some (a, r)) : isBalanced q depth a = true := by
  induction cs generalizing q depth a with
  | nil => cases q <;> cases h
  | cons c cs ih =>
    by_cases hclose : q = .outside ∧ c = ')'
    · obtain ⟨rfl, rfl⟩ := hclose
      cases depth with
      | zero =>
        cases h
        rfl
      | succ d =>
        have hstep : withFirst ')' (Quoting.outside.scan d cs) = some (a, r) := h
        obtain ⟨⟨b, r'⟩, hscan, heq⟩ := Option.map_eq_some_iff.mp hstep
        cases heq
        rw [isBalanced, if_neg (by decide), if_pos ⟨rfl, rfl⟩, Nat.add_sub_cancel, ih hscan]
        simp
    · rw [scan_cons hclose] at h
      obtain ⟨⟨b, r'⟩, hscan, heq⟩ := Option.map_eq_some_iff.mp h
      cases heq
      have hrest := ih hscan
      rw [isBalanced]
      by_cases hopen : q = .outside ∧ c = '('
      · rw [if_pos hopen] at hrest ⊢
        obtain ⟨rfl, rfl⟩ := hopen
        exact hrest
      · rw [if_neg hopen] at hrest ⊢
        rw [if_neg hclose]
        exact hrest

/-! ## attributes -/

/-- a text is a row of attributes, each `@name` or `@name(args)`, with blanks around them; a name goes on
as far as its characters do -/
inductive AttributesIn : List Char → List Attribute → Prop where
  | blank {ws : List Char} (hws : ∀ c ∈ ws, isBlank c = true) : AttributesIn ws []
  | name {ws name rest : List Char} {attrs : List Attribute} (hws : ∀ c ∈ ws, isBlank c = true)
      (hne : name ≠ []) (hname : ∀ c ∈ name, isAttributeChar c = true)
      (hend : ∀ c ∈ rest.head?, isAttributeChar c = false) (hrest : AttributesIn rest attrs) :
      AttributesIn (ws ++ '@' :: (name ++ rest)) (⟨String.ofList name, none⟩ :: attrs)
  | arguments {ws name args rest : List Char} {attrs : List Attribute}
      (hws : ∀ c ∈ ws, isBlank c = true) (hne : name ≠ [])
      (hname : ∀ c ∈ name, isAttributeChar c = true) (hargs : IsEnclosed args)
      (hrest : AttributesIn rest attrs) :
      AttributesIn (ws ++ '@' :: (name ++ '(' :: (args ++ ')' :: rest)))
        (⟨String.ofList name, some (String.ofList (trim args))⟩ :: attrs)

/-- a row of attributes starts with a blank or with `@` -/
theorem AttributesIn.head {cs : List Char} {attrs : List Attribute} (h : AttributesIn cs attrs) :
    ∀ c ∈ cs.head?, isBlank c = true ∨ c = '@' := by
  have hfirst : ∀ ws rest : List Char, (∀ c ∈ ws, isBlank c = true) →
      ∀ c ∈ (ws ++ '@' :: rest).head?, isBlank c = true ∨ c = '@' := by
    intro ws rest hws c hc
    cases ws with
    | nil =>
      cases hc
      exact .inr rfl
    | cons w ws =>
      cases hc
      exact .inl (hws c List.mem_cons_self)
  cases h with
  | blank hws => exact fun c hc => .inl (hws c (List.mem_of_head? hc))
  | name hws | arguments hws => exact hfirst _ _ hws

theorem AttributesIn.head_ne_open {cs : List Char} {attrs : List Attribute} (h : AttributesIn cs attrs) :
    ∀ c ∈ cs.head?, c ≠ '(' := by
  intro c hc
  rcases h.head c hc with hblank | rfl
  · exact ne_of_test hblank (by decide)
  · decide

theorem trimStart_append_at {ws : List Char} (h : ∀ c ∈ ws, isBlank c = true) (rest : List Char) :
    trimStart (ws ++ '@' :: rest) = '@' :: rest := by
  rw [trimStart_append h]
  exact trimStart_of_noBlankFirst (.cons (by decide) rest)

theorem scanAttributes_of_attributesIn {cs : List Char} {attrs : List Attribute}
    (h : AttributesIn cs attrs) : scanAttributes cs = .ok attrs := by
  induction h with
  | blank hws => exact scanAttributes_blank (List.dropWhile_eq_nil_iff.mpr hws)
  | name hws hne hname hend hrest ih =>
    rw [scanAttributes_name hne hname (trimStart_append_at hws _)
      fun c hc => ⟨hend c hc, hrest.head_ne_open c hc⟩, ih]
    rfl
  | arguments hws hne hname hargs hrest ih =>
    rw [scanAttributes_arguments hne hname (trimStart_append_at hws _) (isEnclosed_iff.mp hargs), ih]
    rfl

/-- how a scan goes on with the first attribute of a text -/
inductive ScansFirst (cs : List Char) : Except Fault (List Attribute) → Prop where
  | nothing (hcs : trimStart cs = []) : ScansFirst cs (.ok [])
  | other {c : Char} {rest : List Char} (hcs : trimStart cs = c :: rest) (hc : c ≠ '@') :
      ScansFirst cs (.error (.expectedAttribute (String.ofList (c :: rest))))
  | nameless {rest : List Char} (hcs : trimStart cs = '@' :: rest)
      (hrest : ∀ c ∈ rest.head?, isAttributeChar c = false) :
      ScansFirst cs (.error .missingAttributeName)
  | name {name rest : List Char} (hcs : trimStart cs = '@' :: (name ++ rest)) (hne : name ≠ [])
      (hname : ∀ c ∈ name, isAttributeChar c = true)
      (hrest : ∀ c ∈ rest.head?, isAttributeChar c = false ∧ c ≠ '(') :
      ScansFirst cs ((scanAttributes rest).map (⟨String.ofList name, none⟩ :: ·))
  | unclosed {name body : List Char} (hcs : trimStart cs = '@' :: (name ++ '(' :: body)) (hne : name ≠ [])
      (hname : ∀ c ∈ name, isAttributeChar c = true) (hbody : scanParens 0 false body = none) :
      ScansFirst cs (.error (.unbalancedParentheses (String.ofList name)))
  | arguments {name args rest : List Char}
      (hcs : trimStart cs = '@' :: (name ++ '(' :: (args ++ ')' :: rest))) (hne : name ≠ [])
      (hname : ∀ c ∈ name, isAttributeChar c = true)
      (hargs : scanParens 0 false (args ++ ')' :: rest) = some (args, rest)) :
      ScansFirst cs ((scanAttributes rest).map
        (⟨String.ofList name, some (String.ofList (trim args))⟩ :: ·))

theorem scansFirst (cs : List Char) : ScansFirst cs (scanAttributes cs) := by
  rw [scanAttributes]
  split
  · next hcs => exact .nothing hcs
  · next rest hcs =>
    have hname : ∀ c ∈ rest.takeWhile isAttributeChar, isAttributeChar c = true :=
      fun c hc => List.mem_takeWhile_imp hc
    have hend : ∀ c ∈ (rest.dropWhile isAttributeChar).head?, isAttributeChar c = false :=
      head_dropWhile isAttributeChar rest
    have hrest : rest.takeWhile isAttributeChar ++ rest.dropWhile isAttributeChar = rest :=
      List.takeWhile_append_dropWhile
    dsimp only
    split
    · next hempty =>
      rw [List.isEmpty_iff] at hempty
      rw [hempty, List.nil_append] at hrest
      rw [hrest] at hend
      exact .nameless hcs hend
    · next hne =>
      have hne : rest.takeWhile isAttributeChar ≠ [] := by simpa using hne
      split
      · next body hbody =>
        rw [hbody] at hrest
        split
        · next hnone => exact .unclosed (hcs.trans (by rw [hrest])) hne hname hnone
        · next args after hargs =>
          have hclose := scanParens_eq hargs
          rw [hclose] at hrest hargs
          exact .arguments (hcs.trans (by rw [hrest])) hne hname hargs
      · next hopen =>
        refine .name (hcs.trans (by rw [hrest])) hne hname fun c hc => ⟨hend c hc, ?_⟩
        rintro rfl
        obtain ⟨body, hbody⟩ := List.head?_eq_some_iff.mp hc
        exact hopen body hbody
  · next hempty hat =>
    cases hcs : cs.dropWhile isBlank with
    | nil => exact absurd hcs hempty
    | cons c rest =>
      refine .other hcs ?_
      rintro rfl
      exact hat rest hcs

theorem length_lt_of_trimStart {cs left rest : List Char} {c : Char}
    (h : trimStart cs = c :: (left ++ rest)) : rest.length < cs.length := by
  have hle : (trimStart cs).length ≤ cs.length := (List.dropWhile_sublist isBlank).length_le
  rw [h, List.length_cons, List.length_append] at hle
  omega

theorem length_lt_of_arguments {cs name args rest : List Char}
    (h : trimStart cs = '@' :: (name ++ '(' :: (args ++ ')' :: rest))) : rest.length < cs.length := by
  have hbody := length_lt_of_trimStart h
  rw [List.length_cons, List.length_append, List.length_cons] at hbody
  omega

theorem attributesIn_of_scanAttributes {cs : List Char} {attrs : List Attribute}
    (h : scanAttributes cs = .ok attrs) : AttributesIn cs attrs := by
  obtain ⟨ws, hws, htext⟩ := exists_eq_trimStart cs
  have hfirst := scansFirst cs
  rw [h] at hfirst
  generalize hresult : Except.ok attrs = result at hfirst
  cases hfirst with
  | nothing hcs =>
    cases hresult
    exact .blank (List.dropWhile_eq_nil_iff.mp hcs)
  | other | nameless | unclosed => cases hresult
  | @name name rest hcs hne hname hrest =>
    obtain ⟨more, hmore, rfl⟩ := ok_of_map hresult.symm
    have hshorter := length_lt_of_trimStart hcs
    rw [htext, hcs]
    exact .name hws hne hname (fun c hc => (hrest c hc).1) (attributesIn_of_scanAttributes hmore)
  | @arguments name args rest hcs hne hname hargs =>
    obtain ⟨more, hmore, rfl⟩ := ok_of_map hresult.symm
    have hshorter := length_lt_of_arguments hcs
    rw [htext, hcs]
    exact .arguments hws hne hname (isEnclosed_iff.mpr (Quoting.isBalanced_of_scan hargs))
      (attributesIn_of_scanAttributes hmore)
termination_by cs.length

/-- the attributes of a text are those that it is a row of -/
theorem scanAttributes_eq_ok_iff {cs : List Char} {attrs : List Attribute} :
    scanAttributes cs = .ok attrs ↔ AttributesIn cs attrs :=
  ⟨attributesIn_of_scanAttributes, scanAttributes_of_attributesIn⟩

end ResolverTypes.DataModel
