import ResolverTypes.TypeExpr
import ResolverTypes.Proofs.Text.Lines
import Mathlib.Logic.Function.Iterate

/-!
# Printed type expressions tell the expressions apart

Two expressions with the same text are equal (`render_inj_iff`).  Nothing is put in parentheses, and
literals and property names may hold any text, so three things have to be kept apart.

* `quoted_append_inj`     where a quoted text ends: every quote inside it is escaped;
* `IsEnd`                 what may stand behind an expression.  None of it is part of a word, a further
                          literal or a further null;
* `nulls`                 the nulls behind an expression.  The text `"a" | null` starts with the text of
                          a shorter expression, so an expression is compared without its nulls and they
                          are counted (`IsUnambiguous`).

Expressions without nulls have the same form if their texts start alike (`alike_of_chars`); from there on
each form has its own lemma, and `isUnambiguous` is the induction over nested expressions and members.
-/

namespace ResolverTypes.TypeExpr
open Text

mutual

/-- no text is taken as it is, and all names of artifacts are ASCII identifiers -/
def isRegular : TypeExpr → Bool
  | .named _ name => isPlainKey name.toList
  | .array item => item.isRegular
  | .nullable inner => inner.isRegular
  | .object members => membersRegular members
  | .verbatim _ => false
  | .string | .number | .bigInt | .boolean | .date | .bytes | .unknown | .literals _ => true

def membersRegular : Members → Bool
  | .nil => true
  | .cons _ _ type rest => type.isRegular && membersRegular rest

end

/-! ## words -/

/-- two texts that a test ends -/
theorem append_inj_of_test {p : Char → Bool} {xs ys r s : List Char} (hxs : ∀ c ∈ xs, p c = true)
    (hys : ∀ c ∈ ys, p c = true) (hr : ∀ c ∈ r.head?, p c = false) (hs : ∀ c ∈ s.head?, p c = false)
    (h : xs ++ r = ys ++ s) : xs = ys ∧ r = s := by
  obtain ⟨hx, hr⟩ := takeWhile_append_of_head hxs hr
  obtain ⟨hy, hs⟩ := takeWhile_append_of_head hys hs
  rw [h] at hx hr
  exact ⟨hx.symm.trans hy, hr.symm.trans hs⟩

def isKeyChar (c : Char) : Bool := c.isAlphanum || c == '_' || c == '$'

theorem isKeyChar_of_isPlainKey {cs : List Char} (h : isPlainKey cs = true) :
    cs ≠ [] ∧ ∀ c ∈ cs, isKeyChar c = true := by
  cases cs with
  | nil => cases h
  | cons c cs =>
    rw [isPlainKey, Bool.and_eq_true, List.all_eq_true] at h
    refine ⟨by simp, List.forall_mem_cons.mpr ⟨?_, h.2⟩⟩
    have hc := h.1
    simp only [Bool.or_eq_true] at hc
    simp only [isKeyChar, Char.isAlphanum, Bool.or_eq_true]
    tauto

/-! ## quoted texts -/

/-- a character between quotes -/
def escape (c : Char) : List Char :=
  if c = '\\' then ['\\', '\\'] else if c = '"' then ['\\', '"'] else [c]

theorem quoted_eq (cs : List Char) : quoted cs = '"' :: (cs.flatMap escape ++ ['"']) := by
  have hescape : ∀ c : Char, escapeQuotes (if c = '\\' then ['\\', '\\'] else [c]) = escape c := by
    intro c
    by_cases hc : c = '\\'
    · rw [hc]
      decide
    · rw [if_neg hc, escape, if_neg hc, escapeQuotes, List.flatMap_singleton]
  have hall : escapeQuotes (escapeBackslashes cs) = cs.flatMap escape := by
    unfold escapeQuotes escapeBackslashes at *
    rw [List.flatMap_assoc]
    simp only [hescape]
  rw [quoted, hall]

theorem escape_head (c : Char) (rest : List Char) : (escape c ++ rest).head? ≠ some '"' := by
  unfold escape
  split
  · simp
  · split
    · simp
    · next hquote => simpa using hquote

theorem escape_append_inj {c d : Char} {r s : List Char} (h : escape c ++ r = escape d ++ s) :
    c = d ∧ r = s := by
  unfold escape at h
  grind

theorem escaped_append_inj {a b r s : List Char}
    (h : a.flatMap escape ++ '"' :: r = b.flatMap escape ++ '"' :: s) : a = b ∧ r = s := by
  induction a generalizing b with
  | nil =>
    cases b with
    | nil => exact ⟨rfl, List.tail_eq_of_cons_eq h⟩
    | cons d b =>
      rw [List.flatMap_cons, List.append_assoc] at h
      exact absurd (by rw [← h]; rfl) (escape_head d _)
  | cons c a ih =>
    cases b with
    | nil =>
      rw [List.flatMap_cons, List.append_assoc] at h
      exact absurd (by rw [h]; rfl) (escape_head c _)
    | cons d b =>
      rw [List.flatMap_cons, List.flatMap_cons, List.append_assoc, List.append_assoc] at h
      obtain ⟨rfl, hmore⟩ := escape_append_inj h
      obtain ⟨rfl, hrest⟩ := ih hmore
      exact ⟨rfl, hrest⟩

theorem quoted_append_inj {a b r s : List Char} (h : quoted a ++ r = quoted b ++ s) : a = b ∧ r = s := by
  rw [quoted_eq, quoted_eq] at h
  refine escaped_append_inj ?_
  simpa using h

/-! ## keys -/

/-- the mark of an optional member -/
def optionalMark (optional : Bool) : List Char := if optional then ['?'] else []

theorem optionalMark_append_inj {o p : Bool} {r s : List Char}
    (h : optionalMark o ++ ':' :: r = optionalMark p ++ ':' :: s) : o = p ∧ r = s := by
  cases o <;> cases p <;> simp [optionalMark] at h
  · exact ⟨rfl, h⟩
  · exact ⟨rfl, h⟩

theorem optionalMark_head (o : Bool) (r : List Char) :
    ∀ c ∈ (optionalMark o ++ ':' :: r).head?, isKeyChar c = false := by
  cases o <;> rintro c ⟨⟩ <;> decide

theorem plainKey_append_ne_quoted {a : List Char} (ha : isPlainKey a = true) (b r s : List Char) :
    a ++ r ≠ quoted b ++ s := by
  intro h
  obtain ⟨hne, hall⟩ := isKeyChar_of_isPlainKey ha
  cases a with
  | nil => exact hne rfl
  | cons c a =>
    have hc : c = '"' := (List.cons.inj h).1
    rw [hc] at hall
    exact absurd (hall '"' List.mem_cons_self) (by decide)

theorem key_append_inj {a b r s : List Char} {o p : Bool}
    (h : keyChars a ++ (optionalMark o ++ ':' :: r) = keyChars b ++ (optionalMark p ++ ':' :: s)) :
    a = b ∧ o = p ∧ r = s := by
  unfold keyChars at h
  split at h
  · next ha =>
    split at h
    · next hb =>
      obtain ⟨rfl, hrest⟩ := append_inj_of_test (isKeyChar_of_isPlainKey ha).2
        (isKeyChar_of_isPlainKey hb).2 (optionalMark_head o r) (optionalMark_head p s) h
      exact ⟨rfl, optionalMark_append_inj hrest⟩
    · exact (plainKey_append_ne_quoted ha _ _ _ h).elim
  · split at h
    · next hb => exact (plainKey_append_ne_quoted hb _ _ _ h.symm).elim
    · obtain ⟨rfl, hrest⟩ := quoted_append_inj h
      exact ⟨rfl, optionalMark_append_inj hrest⟩

/-! ## what stands behind an expression -/

/-- what stands behind an expression in a text: nothing, or how an array, a member or an object goes on -/
inductive IsEnd : List Char → Prop where
  | text : IsEnd []
  | array (rest : List Char) : IsEnd ('>' :: rest)
  | member (rest : List Char) : IsEnd (';' :: rest)
  | object (rest : List Char) : IsEnd (' ' :: '\x7d' :: rest)

/-- the text of nulls around an expression -/
def nulls : Nat → List Char
  | 0 => []
  | n + 1 => ' ' :: '|' :: ' ' :: 'n' :: 'u' :: 'l' :: 'l' :: nulls n

theorem nulls_succ (n : Nat) : nulls (n + 1) = " | null".toList ++ nulls n := by
  have hnull : " | null".toList = [' ', '|', ' ', 'n', 'u', 'l', 'l'] := by decide
  rw [hnull]
  rfl

theorem chars_nullable (t : TypeExpr) : (nullable t).chars none = t.chars none ++ " | null".toList := rfl

section
variable {r s : List Char}

theorem nulls_append_inj (hr : IsEnd r) (hs : IsEnd s) {n m : Nat} (h : nulls n ++ r = nulls m ++ s) :
    n = m ∧ r = s := by
  induction n generalizing m with
  | zero =>
    cases m with
    | zero => exact ⟨rfl, h⟩
    | succ m =>
      rw [show r = _ from h] at hr
      cases hr
  | succ n ih =>
    cases m with
    | zero =>
      rw [show s = _ from h.symm] at hs
      cases hs
    | succ m =>
      simp only [nulls, List.cons_append, List.cons.injEq, true_and] at h
      obtain ⟨rfl, hrest⟩ := ih h
      exact ⟨rfl, hrest⟩

theorem nulls_head (hr : IsEnd r) (n : Nat) : ∀ c ∈ (nulls n ++ r).head?, isKeyChar c = false := by
  cases n with
  | zero => cases hr <;> rintro c ⟨⟩ <;> decide
  | succ n =>
    rintro c ⟨⟩
    decide

/-- nulls and ends are no further literals -/
theorem nulls_ne_literal (hr : IsEnd r) (n : Nat) (rest : List Char) :
    nulls n ++ r ≠ ' ' :: '|' :: ' ' :: '"' :: rest := by
  intro h
  cases n with
  | zero =>
    rw [show r = _ from h] at hr
    cases hr
  | succ n => simp [nulls] at h

end

theorem chars_nullable_iterate (n : Nat) (t : TypeExpr) :
    (nullable^[n] t).chars none = t.chars none ++ nulls n := by
  induction n generalizing t with
  | zero => simp [nulls]
  | succ n ih =>
    rw [Function.iterate_succ_apply, ih, chars_nullable, List.append_assoc, nulls_succ]

theorem isRegular_nullable_iterate (n : Nat) (t : TypeExpr) :
    (nullable^[n] t).isRegular = t.isRegular := by
  induction n generalizing t with
  | zero => rfl
  | succ n ih => rw [Function.iterate_succ_apply, ih, isRegular]

/-- every expression is one that is not nullable with nulls around it -/
theorem exists_base : (t : TypeExpr) → ∃ n base, t = nullable^[n] base ∧ ∀ i, base ≠ nullable i
  | .nullable inner => by
    obtain ⟨n, base, hinner, hbase⟩ := exists_base inner
    exact ⟨n + 1, base, by rw [Function.iterate_succ_apply', ← hinner], hbase⟩
  | .string | .number | .bigInt | .boolean | .date | .bytes | .unknown | .literals _ | .named .. | .array _
  | .object _ | .verbatim _ => ⟨0, _, rfl, nofun⟩

/-- an expression is told apart from every other one by its text, whatever stands behind it -/
def IsUnambiguous (t : TypeExpr) : Prop :=
  ∀ ⦃u : TypeExpr⦄ ⦃n m : Nat⦄ ⦃r s : List Char⦄, u.isRegular = true → (∀ i, u ≠ nullable i) → IsEnd r →
    IsEnd s → t.chars none ++ (nulls n ++ r) = u.chars none ++ (nulls m ++ s) →
      nullable^[n] t = nullable^[m] u ∧ r = s

theorem IsUnambiguous.of_append {t u : TypeExpr} (ht : t.IsUnambiguous) (hu : u.isRegular = true)
    {r s : List Char} (hr : IsEnd r) (hs : IsEnd s) (h : t.chars none ++ r = u.chars none ++ s) :
    t = u ∧ r = s := by
  obtain ⟨m, base, rfl, hbase⟩ := exists_base u
  rw [isRegular_nullable_iterate] at hu
  rw [chars_nullable_iterate, List.append_assoc] at h
  exact ht (n := 0) hu hbase hr hs h

theorem isUnambiguous_nullable {t : TypeExpr} (ht : t.IsUnambiguous) : (nullable t).IsUnambiguous := by
  intro u n m r s hu hbase hr hs h
  rw [chars_nullable, List.append_assoc, ← List.append_assoc " | null".toList, ← nulls_succ] at h
  exact ht (n := n + 1) hu hbase hr hs h

/-! ## the first characters of an expression -/

/-- what the first characters of an expression tell -/
inductive Lead where
  | string
  | number
  | bigInt
  | boolean
  | date
  | bytes
  | unknown
  | never
  | literal
  | named (artifact : Artifact)
  | array
  | object

def leadAt? : List Char → Option Lead
  | 's' :: _ => some .string
  | 'n' :: 'u' :: _ => some .number
  | 'n' :: 'e' :: _ => some .never
  | 'b' :: 'i' :: _ => some .bigInt
  | 'b' :: 'o' :: _ => some .boolean
  | 'D' :: 'a' :: _ => some .date
  | 'D' :: 'B' :: _ => some (.named .schemaTypes)
  | 'R' :: _ => some (.named .returnTypes)
  | 'U' :: _ => some .bytes
  | 'u' :: _ => some .unknown
  | '"' :: _ => some .literal
  | 'A' :: _ => some .array
  | '\x7b' :: _ => some .object
  | _ => none

def lead? : TypeExpr → Option Lead
  | .string => some .string
  | .number => some .number
  | .bigInt => some .bigInt
  | .boolean => some .boolean
  | .date => some .date
  | .bytes => some .bytes
  | .unknown => some .unknown
  | .literals [] => some .never
  | .literals (_ :: _) => some .literal
  | .named artifact _ => some (.named artifact)
  | .array _ => some .array
  | .object _ => some .object
  | .nullable _ | .verbatim _ => none

theorem chars_literals (v : String) (vs : List String) : (literals (v :: vs)).chars none =
    quoted v.toList ++ vs.flatMap fun w => ' ' :: '|' :: ' ' :: quoted w.toList := by
  have hbar : " | ".toList = [' ', '|', ' '] := by decide
  show join " | ".toList ((v :: vs).map fun w => quoted w.toList) = _
  rw [hbar, List.map_cons]
  induction vs generalizing v with
  | nil => simp [join]
  | cons w ws ih => rw [List.map_cons, join, ih, List.flatMap_cons]; simp

theorem chars_named (a : Artifact) (name : String) :
    (named a name).chars none = a.importName.toList ++ '.' :: name.toList := rfl

theorem chars_array (item : TypeExpr) :
    (array item).chars none = ['A', 'r', 'r', 'a', 'y', '<'] ++ (item.chars none ++ ['>']) := by
  have hopen : "Array<".toList = ['A', 'r', 'r', 'a', 'y', '<'] := by decide
  show "Array<".toList ++ item.chars none ++ ['>'] = _
  rw [hopen, List.append_assoc]

theorem leadAt?_chars {t : TypeExpr} (ht : t.isRegular = true) (hbase : ∀ i, t ≠ nullable i)
    (rest : List Char) : leadAt? (t.chars none ++ rest) = t.lead? := by
  have hword : ∀ {t : TypeExpr} (cs : List Char), t.chars none = cs →
      (∀ rest, leadAt? (cs ++ rest) = t.lead?) → leadAt? (t.chars none ++ rest) = t.lead? := by
    intro t cs hcs hlead
    rw [hcs, hlead]
  cases t with
  | string => exact hword ['s', 't', 'r', 'i', 'n', 'g'] (by decide) fun _ => rfl
  | number => exact hword ['n', 'u', 'm', 'b', 'e', 'r'] (by decide) fun _ => rfl
  | bigInt => exact hword ['b', 'i', 'g', 'i', 'n', 't'] (by decide) fun _ => rfl
  | boolean => exact hword ['b', 'o', 'o', 'l', 'e', 'a', 'n'] (by decide) fun _ => rfl
  | date => exact hword ['D', 'a', 't', 'e'] (by decide) fun _ => rfl
  | bytes => exact hword ['U', 'i', 'n', 't', '8', 'A', 'r', 'r', 'a', 'y'] (by decide) fun _ => rfl
  | unknown => exact hword ['u', 'n', 'k', 'n', 'o', 'w', 'n'] (by decide) fun _ => rfl
  | literals values =>
    cases values with
    | nil => exact hword ['n', 'e', 'v', 'e', 'r'] (by decide) fun _ => rfl
    | cons v vs =>
      rw [chars_literals]
      rfl
  | named a name =>
    rw [chars_named]
    cases a with
    | schemaTypes =>
      have hname : Artifact.schemaTypes.importName.toList = ['D', 'B'] := by decide
      rw [hname]
      rfl
    | returnTypes =>
      have hname : Artifact.returnTypes.importName.toList = ['R', 'T'] := by decide
      rw [hname]
      rfl
  | array item =>
    rw [chars_array]
    rfl
  | nullable inner => exact absurd rfl (hbase inner)
  | object members => cases members <;> rfl
  | verbatim text => cases ht

/-- an expression that is printed as one word -/
def isWord : TypeExpr → Bool
  | .string | .number | .bigInt | .boolean | .date | .bytes | .unknown | .literals [] => true
  | .literals (_ :: _) | .named .. | .array _ | .nullable _ | .object _ | .verbatim _ => false

/-- two expressions of one form -/
inductive Alike : TypeExpr → TypeExpr → Prop where
  | word {t : TypeExpr} (h : t.isWord = true) : Alike t t
  | literals (v w : String) (vs ws : List String) : Alike (literals (v :: vs)) (literals (w :: ws))
  | named (a : Artifact) (n m : String) : Alike (named a n) (named a m)
  | array (i j : TypeExpr) : Alike (array i) (array j)
  | object (ms ns : Members) : Alike (object ms) (object ns)

theorem alike_of_lead? {t u : TypeExpr} {lead : Lead} (ht : t.lead? = some lead) (hu : u.lead? = some lead) :
    Alike t u := by
  -- the leads of two forms differ, so one form of `u` is left for each form of `t`
  unfold lead? at ht
  split at ht <;> cases ht <;> unfold lead? at hu <;> split at hu <;> cases hu <;> constructor <;> rfl

theorem exists_lead {t : TypeExpr} (ht : t.isRegular = true) (hbase : ∀ i, t ≠ nullable i) :
    ∃ lead, t.lead? = some lead := by
  cases t with
  | nullable inner => exact absurd rfl (hbase inner)
  | verbatim text => cases ht
  | literals values => cases values <;> exact ⟨_, rfl⟩
  | _ => exact ⟨_, rfl⟩

theorem alike_of_chars {t u : TypeExpr} (ht : t.isRegular = true) (htbase : ∀ i, t ≠ nullable i)
    (hu : u.isRegular = true) (hubase : ∀ i, u ≠ nullable i) {x y : List Char}
    (h : t.chars none ++ x = u.chars none ++ y) : Alike t u := by
  obtain ⟨lead, hlead⟩ := exists_lead ht htbase
  refine alike_of_lead? hlead ?_
  rw [← leadAt?_chars hu hubase y, ← h, leadAt?_chars ht htbase, hlead]

/-! ## expressions -/

theorem isUnambiguous_of_isWord {t : TypeExpr} (ht : t.isRegular = true) (hword : t.isWord = true) :
    t.IsUnambiguous := by
  intro u n m r s hu hbase hr hs h
  have htbase : ∀ i, t ≠ nullable i := by
    rintro i rfl
    cases hword
  cases alike_of_chars ht htbase hu hbase h with
  | word =>
    obtain ⟨rfl, hrest⟩ := nulls_append_inj hr hs (List.append_cancel_left h)
    exact ⟨rfl, hrest⟩
  | literals | named | array | object => cases hword

theorem literals_append_inj {vs ws : List String} {x y : List Char}
    (hx : ∀ rest, x ≠ ' ' :: '|' :: ' ' :: '"' :: rest) (hy : ∀ rest, y ≠ ' ' :: '|' :: ' ' :: '"' :: rest)
    (h : (vs.flatMap fun v => ' ' :: '|' :: ' ' :: quoted v.toList) ++ x =
      (ws.flatMap fun w => ' ' :: '|' :: ' ' :: quoted w.toList) ++ y) : vs = ws ∧ x = y := by
  induction vs generalizing ws with
  | nil =>
    cases ws with
    | nil => exact ⟨rfl, h⟩
    | cons w ws => exact absurd h (hx _)
  | cons v vs ih =>
    cases ws with
    | nil => exact absurd h.symm (hy _)
    | cons w ws =>
      simp only [List.flatMap_cons, List.cons_append, List.append_assoc, List.cons.injEq, true_and] at h
      obtain ⟨hv, hmore⟩ := quoted_append_inj h
      obtain ⟨rfl, hrest⟩ := ih hmore
      rw [String.toList_injective hv]
      exact ⟨rfl, hrest⟩

theorem isUnambiguous_literals (v : String) (vs : List String) : (literals (v :: vs)).IsUnambiguous := by
  intro u n m r s hu hbase hr hs h
  cases alike_of_chars (t := literals (v :: vs)) rfl nofun hu hbase h with
  | word hword => cases hword
  | literals _ w _ ws =>
    rw [chars_literals, chars_literals, List.append_assoc, List.append_assoc] at h
    obtain ⟨hv, hmore⟩ := quoted_append_inj h
    obtain ⟨rfl, hrest⟩ := literals_append_inj (nulls_ne_literal hr n) (nulls_ne_literal hs m) hmore
    obtain ⟨rfl, hend⟩ := nulls_append_inj hr hs hrest
    rw [String.toList_injective hv]
    exact ⟨rfl, hend⟩

theorem isUnambiguous_named (a : Artifact) {name : String} (hname : isPlainKey name.toList = true) :
    (named a name).IsUnambiguous := by
  intro u n m r s hu hbase hr hs h
  cases alike_of_chars (t := named a name) hname nofun hu hbase h with
  | word hword => cases hword
  | named _ _ name' =>
    rw [chars_named, chars_named, List.append_assoc, List.append_assoc] at h
    obtain ⟨hname, hrest⟩ := append_inj_of_test (isKeyChar_of_isPlainKey hname).2
      (isKeyChar_of_isPlainKey hu).2 (nulls_head hr n) (nulls_head hs m)
      (List.cons.inj (List.append_cancel_left h)).2
    obtain ⟨rfl, hend⟩ := nulls_append_inj hr hs hrest
    rw [String.toList_injective hname]
    exact ⟨rfl, hend⟩

theorem isUnambiguous_array {item : TypeExpr} (hitem : item.isRegular = true) (h : item.IsUnambiguous) :
    (array item).IsUnambiguous := by
  intro u n m r s hu hbase hr hs htext
  cases alike_of_chars (t := .array item) hitem nofun hu hbase htext with
  | word hword => cases hword
  | array _ item' =>
    rw [chars_array, chars_array, List.append_assoc, List.append_assoc, List.append_assoc,
      List.append_assoc] at htext
    have hitem' : item'.isRegular = true := hu
    obtain ⟨rfl, hrest⟩ := h.of_append hitem' (.array _) (.array _) (List.append_cancel_left htext)
    obtain ⟨rfl, hend⟩ := nulls_append_inj hr hs (List.cons.inj hrest).2
    exact ⟨rfl, hend⟩

/-! ## objects -/

def MembersUnambiguous (ms : Members) : Prop :=
  ∀ ⦃ns : Members⦄ ⦃r s : List Char⦄, membersRegular ns = true →
    membersChars none ms ++ ' ' :: '\x7d' :: r = membersChars none ns ++ ' ' :: '\x7d' :: s →
      ms = ns ∧ r = s

theorem membersChars_cons (name : String) (optional : Bool) (type : TypeExpr) (rest : Members) (x : List Char) :
    membersChars none (.cons name optional type rest) ++ x = ';' :: ' ' ::
      (keyChars name.toList ++ (optionalMark optional ++ ':' :: ' ' ::
        (type.chars none ++ (membersChars none rest ++ x)))) := by
  have hmembers : membersChars none (.cons name optional type rest) =
    [';', ' '] ++ keyChars name.toList ++ (if optional then ['?'] else []) ++ [':', ' '] ++
      type.chars none ++ membersChars none rest := rfl
  rw [hmembers, optionalMark]
  simp only [List.append_assoc, List.cons_append, List.nil_append]

theorem chars_object_cons (name : String) (optional : Bool) (type : TypeExpr) (rest : Members) (x : List Char) :
    (object (.cons name optional type rest)).chars none ++ x =
      '\x7b' :: (membersChars none (.cons name optional type rest) ++ ' ' :: '\x7d' :: x).tail := by
  have hobject : (object (.cons name optional type rest)).chars none =
    ['\x7b', ' '] ++ keyChars name.toList ++ (if optional then ['?'] else []) ++ [':', ' '] ++
      type.chars none ++ membersChars none rest ++ [' ', '\x7d'] := rfl
  rw [hobject, membersChars_cons, optionalMark, List.tail_cons]
  simp only [List.append_assoc, List.cons_append, List.nil_append]

/-- objects with one text have members with one text -/
theorem membersChars_of_object {ms ns : Members} {x y : List Char}
    (h : (object ms).chars none ++ x = (object ns).chars none ++ y) :
    membersChars none ms ++ ' ' :: '\x7d' :: x = membersChars none ns ++ ' ' :: '\x7d' :: y := by
  have hnil : ∀ x, (object .nil).chars none ++ x = '\x7b' :: '\x7d' :: x := fun _ => rfl
  cases ms with
  | nil =>
    cases ns with
    | nil =>
      rw [hnil, hnil] at h
      rw [(List.cons.inj (List.cons.inj h).2).2]
    | cons name optional type rest =>
      rw [hnil, chars_object_cons, membersChars_cons, List.tail_cons] at h
      exact absurd (List.cons.inj (List.cons.inj h).2).1 (by decide)
  | cons name optional type rest =>
    cases ns with
    | nil =>
      rw [hnil, chars_object_cons, membersChars_cons, List.tail_cons] at h
      exact absurd (List.cons.inj (List.cons.inj h).2).1 (by decide)
    | cons name' optional' type' rest' =>
      rw [chars_object_cons, chars_object_cons] at h
      have htail := (List.cons.inj h).2
      rw [membersChars_cons, membersChars_cons] at htail ⊢
      rw [List.tail_cons, List.tail_cons] at htail
      rw [htail]

theorem isEnd_members (ms : Members) (r : List Char) : IsEnd (membersChars none ms ++ ' ' :: '\x7d' :: r) := by
  cases ms with
  | nil => exact .object r
  | cons name optional type rest =>
    rw [membersChars_cons]
    exact .member _

theorem membersUnambiguous_nil : MembersUnambiguous .nil := by
  intro ns r s hns h
  cases ns with
  | nil => exact ⟨rfl, (List.cons.inj (List.cons.inj h).2).2⟩
  | cons name optional type rest =>
    rw [membersChars_cons] at h
    exact absurd (List.cons.inj h).1 (by decide)

theorem membersUnambiguous_cons {name : String} {optional : Bool} {type : TypeExpr} {rest : Members}
    (htype : type.IsUnambiguous) (hrest : MembersUnambiguous rest) :
    MembersUnambiguous (.cons name optional type rest) := by
  intro ns r s hns h
  cases ns with
  | nil =>
    rw [membersChars_cons] at h
    exact absurd (List.cons.inj h).1 (by decide)
  | cons name' optional' type' rest' =>
    rw [membersRegular, Bool.and_eq_true] at hns
    rw [membersChars_cons, membersChars_cons] at h
    obtain ⟨hname, rfl, hmore⟩ := key_append_inj (List.cons.inj (List.cons.inj h).2).2
    obtain ⟨rfl, hmembers⟩ := htype.of_append hns.1 (isEnd_members rest r) (isEnd_members rest' s)
      (List.cons.inj hmore).2
    obtain ⟨rfl, hend⟩ := hrest hns.2 hmembers
    rw [String.toList_injective hname]
    exact ⟨rfl, hend⟩

theorem isUnambiguous_object {ms : Members} (hms : membersRegular ms = true) (h : MembersUnambiguous ms) :
    (object ms).IsUnambiguous := by
  intro u n m r s hu hbase hr hs htext
  cases alike_of_chars (t := .object ms) hms nofun hu hbase htext with
  | word hword => cases hword
  | object _ ns =>
    obtain ⟨rfl, hrest⟩ := h hu (membersChars_of_object htext)
    obtain ⟨rfl, hend⟩ := nulls_append_inj hr hs hrest
    exact ⟨rfl, hend⟩

mutual

theorem isUnambiguous : (t : TypeExpr) → t.isRegular = true → t.IsUnambiguous
  | .literals (v :: vs), _ => isUnambiguous_literals v vs
  | .named a _, h => isUnambiguous_named a h
  | .array item, h => isUnambiguous_array h (isUnambiguous item h)
  | .nullable inner, h => isUnambiguous_nullable (isUnambiguous inner h)
  | .object members, h => isUnambiguous_object h (membersUnambiguous members h)
  | .string, h | .number, h | .bigInt, h | .boolean, h | .date, h | .bytes, h | .unknown, h
  | .literals [], h => isUnambiguous_of_isWord h rfl

theorem membersUnambiguous : (ms : Members) → membersRegular ms = true → MembersUnambiguous ms
  | .nil, _ => membersUnambiguous_nil
  | .cons _ _ type rest, h =>
    have hparts := (Bool.and_eq_true _ _).mp h
    membersUnambiguous_cons (isUnambiguous type hparts.1) (membersUnambiguous rest hparts.2)

end

/-- **rendering is injective**: expressions without verbatim texts, with ASCII identifiers as names, are
equal when their texts are -/
theorem render_inj_iff {t u : TypeExpr} (ht : t.isRegular = true) (hu : u.isRegular = true) :
    t.render none = u.render none ↔ t = u := by
  constructor
  · intro h
    have hchars : t.chars none ++ [] = u.chars none ++ [] := by
      rw [List.append_nil, List.append_nil]
      exact String.ofList_injective h
    exact ((isUnambiguous t ht).of_append hu .text .text hchars).1
  · rintro rfl
    rfl

/-- two literals, in a member with a name that is no identifier -/
def twoLiterals : TypeExpr :=
  .object (.cons "a?: b" true (.nullable (.literals ["x", "y"])) .nil)

/-- one literal that looks like two -/
def oneLiteral : TypeExpr :=
  .object (.cons "a?: b" true (.nullable (.literals ["x\" | \"y"])) .nil)

theorem render_inj_iff_literals : twoLiterals.isRegular = true ∧ oneLiteral.isRegular = true ∧
    twoLiterals.render none ≠ oneLiteral.render none :=
  ⟨rfl, rfl, mt (render_inj_iff (t := twoLiterals) (u := oneLiteral) rfl rfl).mp (by decide)⟩

end ResolverTypes.TypeExpr
