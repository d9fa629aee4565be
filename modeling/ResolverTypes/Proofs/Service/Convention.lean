import ResolverTypes.Proofs.Reference
import ResolverTypes.Proofs.Text.Lines

/-!
# Names made of a verb and a model

A function name such as `createPost` or `listPosts` starts with one of eight verbs and goes on with a
model or, after some verbs, with the plural of one.  Verbs overlap (`findMany`, `find`), and so do the
ways to make a plural, so both are tried in a fixed order.

* `PluralRule.Makes`    how a plural is made;  `Catalog.FirstSingular` the word it is taken for;
* `Catalog.Accepts`     a verb may be followed by a text;
* `Catalog.Says`        what the name then says;
* `crudMatch?_follows`  the first verb that accepts the rest of a name decides what the name says.
-/

namespace ResolverTypes
open Text DataModel

/-! ## plurals -/

/-- the ways in which a plural is made of a word -/
inductive PluralRule where
  | ies
  | es
  | s
deriving DecidableEq, Repr

namespace PluralRule

/-- a rule makes `plural` of `word` -/
def Makes : PluralRule → String → String → Prop
  | .ies, word, plural => ∃ stem, word = stem ++ "y" ∧ plural = stem ++ "ies"
  | .es, word, plural => plural = word ++ "es"
  | .s, word, plural => plural = word ++ "s"

/-- the rules, in the order in which they are undone -/
def all : List PluralRule := [.ies, .es, .s]

/-- the word a rule makes a plural of -/
def undo? : PluralRule → List Char → Option (List Char)
  | .ies, plural => (dropEnd? "ies".toList plural).map (· ++ ['y'])
  | .es, plural => dropEnd? "es".toList plural
  | .s, plural => dropEnd? "s".toList plural

theorem mem_all (rule : PluralRule) : rule ∈ all := by
  cases rule <;> decide

end PluralRule

theorem singularForms_eq (plural : List Char) :
    singularForms plural = PluralRule.all.filterMap fun rule => rule.undo? plural := rfl

theorem dropEnd?_eq_some_iff {ending cs stem : List Char} :
    dropEnd? ending cs = some stem ↔ cs = stem ++ ending := by
  unfold dropEnd?
  rw [Option.map_eq_some_iff]
  constructor
  · rintro ⟨rest, hrest, rfl⟩
    rw [dropHead?_eq_some_iff] at hrest
    rw [← List.reverse_reverse cs, hrest, List.reverse_append, List.reverse_reverse]
  · rintro rfl
    refine ⟨stem.reverse, ?_, List.reverse_reverse stem⟩
    rw [List.reverse_append]
    exact dropHead?_append _ _

theorem eq_append_iff {s t u : String} : s = t ++ u ↔ s.toList = t.toList ++ u.toList := by
  rw [← String.toList_inj, String.toList_append]

theorem eq_ofList_append_iff {s u : String} {cs : List Char} :
    s = String.ofList cs ++ u ↔ s.toList = cs ++ u.toList := by
  rw [eq_append_iff, String.toList_ofList]

theorem PluralRule.undo?_eq_some_iff {rule : PluralRule} {plural : String} {word : List Char} :
    rule.undo? plural.toList = some word ↔ rule.Makes (String.ofList word) plural := by
  cases rule with
  | ies =>
    show (dropEnd? _ _).map _ = _ ↔ ∃ stem, _ ∧ _
    rw [Option.map_eq_some_iff]
    constructor
    · rintro ⟨stem, hstem, rfl⟩
      rw [dropEnd?_eq_some_iff] at hstem
      exact ⟨String.ofList stem, String.ofList_append, eq_ofList_append_iff.mpr hstem⟩
    · rintro ⟨stem, hword, hplural⟩
      rw [eq_append_iff] at hword hplural
      rw [String.toList_ofList] at hword
      exact ⟨stem.toList, dropEnd?_eq_some_iff.mpr hplural, hword.symm⟩
  | es => exact dropEnd?_eq_some_iff.trans eq_ofList_append_iff.symm
  | s => exact dropEnd?_eq_some_iff.trans eq_ofList_append_iff.symm

/-! ## models -/

/-- a model or a view has the name; a composite type is not meant -/
def DataModel.Catalog.Stores (c : Catalog) (name : String) : Prop :=
  ∃ m, c.model? name = some m ∧ (m.kind = .model ∨ m.kind = .view)

theorem isStored_eq_true_iff {c : Catalog} {name : String} : isStored c name = true ↔ c.Stores name := by
  have hkind : ∀ k : ModelKind, k ≠ .composite ↔ k = .model ∨ k = .view := by
    intro k
    cases k <;> decide
  rw [isStored_iff]
  unfold Catalog.Stores
  simp only [hkind]

/-- the word that a text is the plural of: by the first rule that leads to a model -/
def DataModel.Catalog.FirstSingular (c : Catalog) (plural word : String) : Prop :=
  ∃ before rule after, PluralRule.all = before ++ rule :: after ∧
    rule.Makes word plural ∧ c.Stores word ∧
    ∀ earlier ∈ before, ∀ other, earlier.Makes other plural → ¬c.Stores other

theorem find?_map_filterMap {α β γ : Type} (f : α → Option β) (g : β → γ) (p : γ → Bool) (xs : List α) :
    ((xs.filterMap f).map g).find? p = xs.findSome? fun x => ((f x).map g).filter p := by
  induction xs with
  | nil => rfl
  | cons x xs ih =>
    rw [List.findSome?_cons]
    cases hx : f x with
    | none =>
      rw [List.filterMap_cons_none hx, ih]
      rfl
    | some b =>
      rw [List.filterMap_cons_some hx, List.map_cons, List.find?_cons, ih]
      simp only [Option.map_some, Option.filter_some]
      cases p (g b) <;> rfl

section
variable {c : Catalog}

/-- the word that a rule leads to, if it is a model -/
def DataModel.Catalog.singularBy? (c : Catalog) (plural : String) (rule : PluralRule) : Option String :=
  ((rule.undo? plural.toList).map String.ofList).filter (isStored c)

theorem singularBy?_eq_some_iff {plural word : String} {rule : PluralRule} :
    c.singularBy? plural rule = some word ↔ rule.Makes word plural ∧ c.Stores word := by
  unfold Catalog.singularBy?
  rw [Option.filter_eq_some_iff, isStored_eq_true_iff, Option.map_eq_some_iff]
  refine and_congr_left fun _ => ?_
  constructor
  · rintro ⟨cs, hcs, rfl⟩
    exact PluralRule.undo?_eq_some_iff.mp hcs
  · intro hmakes
    refine ⟨word.toList, PluralRule.undo?_eq_some_iff.mpr ?_, String.ofList_toList⟩
    rw [String.ofList_toList]
    exact hmakes

theorem singularBy?_eq_none_iff {plural : String} {rule : PluralRule} :
    c.singularBy? plural rule = none ↔ ∀ word, rule.Makes word plural → ¬c.Stores word := by
  rw [Option.eq_none_iff_forall_ne_some]
  simp only [ne_eq, singularBy?_eq_some_iff, not_and]

theorem find?_singularForms_eq (plural : String) :
    ((singularForms plural.toList).map String.ofList).find? (isStored c) =
      PluralRule.all.findSome? (c.singularBy? plural) := by
  rw [singularForms_eq, find?_map_filterMap]
  rfl

theorem find?_singularForms {plural word : String} :
    ((singularForms plural.toList).map String.ofList).find? (isStored c) = some word ↔
      c.FirstSingular plural word := by
  rw [find?_singularForms_eq, List.findSome?_eq_some_iff]
  unfold Catalog.FirstSingular
  simp only [singularBy?_eq_some_iff, singularBy?_eq_none_iff, and_assoc]

theorem exists_firstSingular_iff {plural : String} :
    (∃ word, c.FirstSingular plural word) ↔
      ∃ (rule : PluralRule) (word : String), rule.Makes word plural ∧ c.Stores word := by
  simp only [← find?_singularForms, find?_singularForms_eq, ← Option.isSome_iff_exists,
    List.findSome?_isSome_iff, PluralRule.mem_all, true_and]
  simp only [Option.isSome_iff_exists, singularBy?_eq_some_iff]

/-! ## verbs -/

/-- a text starts with an upper-case letter of the ASCII alphabet -/
def StartsUpper (s : String) : Prop := ∃ first rest, s.toList = first :: rest ∧ 'A' ≤ first ∧ first ≤ 'Z'

theorem startsUpper_iff {s : String} : s.toList.head?.any Char.isUpper = true ↔ StartsUpper s := by
  unfold StartsUpper
  cases s.toList with
  | nil => simp
  | cons first rest =>
    rw [List.head?_cons, Option.any_some]
    show decide (first.val ≥ 'A'.val ∧ first.val ≤ 'Z'.val) = true ↔ _
    rw [decide_eq_true_iff]
    constructor
    · rintro ⟨hlow, hhigh⟩
      exact ⟨first, rest, rfl, hlow, hhigh⟩
    · rintro ⟨first', rest', heq, hlow, hhigh⟩
      cases heq
      exact ⟨hlow, hhigh⟩

/-- the verbs that may be followed by a plural -/
def TakesPlural (word : String) : Prop := word = "findMany" ∨ word = "find" ∨ word = "list"

instance (word : String) : Decidable (TakesPlural word) := inferInstanceAs (Decidable (_ ∨ _))

theorem takesPlural_iff {p : String × CrudVerb} (hp : p ∈ crudPrefixes) :
    takesPlural p.1 p.2 = true ↔ TakesPlural p.1 := by
  have hall : ∀ p ∈ crudPrefixes, takesPlural p.1 p.2 = decide (TakesPlural p.1) := by decide
  rw [hall p hp, decide_eq_true_iff]

/-- a verb may be followed by a text: a model, or the plural of one -/
def DataModel.Catalog.Accepts (c : Catalog) (word rest : String) : Prop :=
  StartsUpper rest ∧
    (c.Stores rest ∨
      TakesPlural word ∧ ∃ (rule : PluralRule) (model : String), rule.Makes model rest ∧ c.Stores model)

/-- what a name says that is made of a verb and of a text that the verb accepts -/
inductive DataModel.Catalog.Says (c : Catalog) (word : String) (verb : CrudVerb) (rest : String) :
    CrudVerb × String → Prop where
  | model (hstart : StartsUpper rest) (hrest : c.Stores rest) : Says c word verb rest (verb, rest)
  | plural {model : String} (hstart : StartsUpper rest) (hrest : ¬c.Stores rest)
      (hword : TakesPlural word) (hmodel : c.FirstSingular rest model) :
      Says c word verb rest (.list, model)

theorem exists_says_iff {word rest : String} (verb : CrudVerb) :
    (∃ r, c.Says word verb rest r) ↔ c.Accepts word rest := by
  constructor
  · rintro ⟨r, ⟨hstart, hrest⟩ | ⟨hstart, -, hword, hmodel⟩⟩
    · exact ⟨hstart, .inl hrest⟩
    · exact ⟨hstart, .inr ⟨hword, exists_firstSingular_iff.mp ⟨_, hmodel⟩⟩⟩
  · rintro ⟨hstart, hrest⟩
    by_cases hstored : c.Stores rest
    · exact ⟨_, .model hstart hstored⟩
    · obtain ⟨hword, hplural⟩ := hrest.resolve_left hstored
      obtain ⟨model, hmodel⟩ := exists_firstSingular_iff.mpr hplural
      exact ⟨_, .plural hstart hstored hword hmodel⟩

/-! ## names -/

theorem crudMatchAt?_append {word : String} {verb : CrudVerb} (hp : (word, verb) ∈ crudPrefixes)
    (rest : String) (r : CrudVerb × String) :
    crudMatchAt? c (word ++ rest) word verb = some r ↔ c.Says word verb rest r := by
  unfold crudMatchAt?
  rw [String.toList_append, dropHead?_append]
  dsimp only
  rw [String.ofList_toList]
  -- the first letter decides, then whether the rest is a model, then whether it may be a plural
  by_cases hstart : StartsUpper rest
  · rw [startsUpper_iff.mpr hstart, if_neg (by decide)]
    by_cases hstored : c.Stores rest
    · rw [if_pos (isStored_eq_true_iff.mpr hstored)]
      constructor
      · rintro ⟨⟩
        exact .model hstart hstored
      · rintro (_ | ⟨-, hrest, -, -⟩)
        · rfl
        · exact absurd hstored hrest
    · rw [if_neg (fun h => hstored (isStored_eq_true_iff.mp h))]
      by_cases hword : TakesPlural word
      · rw [if_pos ((takesPlural_iff hp).mpr hword), Option.map_eq_some_iff]
        constructor
        · rintro ⟨model, hmodel, rfl⟩
          exact .plural hstart hstored hword (find?_singularForms.mp hmodel)
        · rintro (⟨-, hrest⟩ | ⟨-, -, -, hmodel⟩)
          · exact absurd hrest hstored
          · exact ⟨_, find?_singularForms.mpr hmodel, rfl⟩
      · rw [if_neg (fun h => hword ((takesPlural_iff hp).mp h))]
        refine ⟨nofun, ?_⟩
        rintro (⟨-, hrest⟩ | ⟨-, -, htakes, -⟩)
        · exact absurd hrest hstored
        · exact absurd htakes hword
  · have hno : rest.toList.head?.any Char.isUpper = false :=
      Bool.eq_false_iff.mpr fun h => hstart (startsUpper_iff.mp h)
    rw [hno, if_pos (by decide)]
    refine ⟨nofun, ?_⟩
    rintro (⟨h, -⟩ | ⟨h, -, -, -⟩) <;> exact absurd h hstart

theorem crudMatchAt?_eq_some_iff {name word : String} {verb : CrudVerb}
    (hp : (word, verb) ∈ crudPrefixes) {r : CrudVerb × String} :
    crudMatchAt? c name word verb = some r ↔
      ∃ rest, name = word ++ rest ∧ c.Says word verb rest r := by
  constructor
  · intro h
    cases hdrop : dropHead? word.toList name.toList with
    | none =>
      unfold crudMatchAt? at h
      rw [hdrop] at h
      cases h
    | some rest =>
      have hname : name = word ++ String.ofList rest := by
        rw [eq_append_iff, String.toList_ofList]
        exact dropHead?_eq_some_iff.mp hdrop
      rw [hname, crudMatchAt?_append hp] at h
      exact ⟨_, hname, h⟩
  · rintro ⟨rest, rfl, h⟩
    exact (crudMatchAt?_append hp rest r).mpr h

theorem crudMatchAt?_eq_none_iff {name word : String} {verb : CrudVerb}
    (hp : (word, verb) ∈ crudPrefixes) :
    crudMatchAt? c name word verb = none ↔ ∀ rest, name = word ++ rest → ¬c.Accepts word rest := by
  rw [Option.eq_none_iff_forall_ne_some]
  simp only [ne_eq, crudMatchAt?_eq_some_iff hp, ← exists_says_iff verb]
  constructor
  · rintro h rest hname ⟨r, hr⟩
    exact h r ⟨rest, hname, hr⟩
  · rintro h r ⟨rest, hname, hr⟩
    exact h rest hname ⟨r, hr⟩

theorem crudMatchAt?_of_head {name : String} {p : String × CrudVerb} (hp : p ∈ crudPrefixes)
    (hne : p.1.toList.head? ≠ name.toList.head?) : crudMatchAt? c name p.1 p.2 = none := by
  have hwords : ∀ p ∈ crudPrefixes, p.1.toList ≠ [] := by decide
  refine (crudMatchAt?_eq_none_iff hp).mpr fun rest hname => absurd ?_ hne
  rw [eq_append_iff.mp hname, List.head?_append_of_ne_nil _ (hwords p hp)]

/-- a verb decides if no other one finds anything -/
theorem crudMatch?_eq_crudMatchAt? {name word : String} {verb : CrudVerb}
    (hp : (word, verb) ∈ crudPrefixes)
    (hothers : ∀ p ∈ crudPrefixes, p ≠ (word, verb) → crudMatchAt? c name p.1 p.2 = none) :
    crudMatch? c name = crudMatchAt? c name word verb := by
  cases hat : crudMatchAt? c name word verb with
  | none =>
    refine List.findSome?_eq_none_iff.mpr fun p hmem => ?_
    by_cases heq : p = (word, verb)
    · rw [heq]
      exact hat
    · exact hothers p hmem heq
  | some r =>
    obtain ⟨before, after, hsplit, hnotMem⟩ := List.eq_append_cons_of_mem hp
    refine List.findSome?_eq_some_iff.mpr ⟨before, (word, verb), after, hsplit, hat, fun p hmem => ?_⟩
    refine hothers p ?_ fun heq => hnotMem (heq ▸ hmem)
    rw [hsplit]
    exact List.mem_append_left _ hmem

theorem crudMatch?_findMany {rest : String} (h : ¬c.Accepts "findMany" rest) :
    crudMatch? c ("findMany" ++ rest) = crudMatchAt? c ("findMany" ++ rest) "find" .find := by
  -- the other verbs start with another letter
  have hletters : ∀ p ∈ crudPrefixes, p ≠ ("find", .find) → p ≠ ("findMany", .list) →
      p.1.toList.head? ≠ "findMany".toList.head? := by decide
  refine crudMatch?_eq_crudMatchAt? (by decide) fun p hp hne => ?_
  by_cases hmany : p = ("findMany", .list)
  · rw [hmany]
    refine (crudMatchAt?_eq_none_iff (by decide)).mpr fun rest' heq => ?_
    rw [eq_append_iff, String.toList_append] at heq
    rw [← String.toList_inj.mp (List.append_cancel_left heq)]
    exact h
  · refine crudMatchAt?_of_head hp ?_
    rw [String.toList_append, List.head?_append_of_ne_nil _ (by decide)]
    exact hletters p hp hne hmany

theorem crudMatch?_get (rest : String) :
    crudMatch? c ("get" ++ rest) = crudMatchAt? c ("get" ++ rest) "get" .find := by
  have hletters : ∀ p ∈ crudPrefixes, p ≠ ("get", .find) →
      p.1.toList.head? ≠ "get".toList.head? := by decide
  refine crudMatch?_eq_crudMatchAt? (by decide) fun p hp hne => crudMatchAt?_of_head hp ?_
  rw [String.toList_append, List.head?_append_of_ne_nil _ (by decide)]
  exact hletters p hp hne

theorem crudMatch?_eq_some_iff {name : String} {r : CrudVerb × String} :
    crudMatch? c name = some r ↔
      ∃ before word verb after rest, crudPrefixes = before ++ (word, verb) :: after ∧
        name = word ++ rest ∧ c.Says word verb rest r ∧
        ∀ p ∈ before, ∀ rest', name = p.1 ++ rest' → ¬c.Accepts p.1 rest' := by
  have hbefore : ∀ {before after : List (String × CrudVerb)} {p : String × CrudVerb},
      crudPrefixes = before ++ p :: after → p ∈ crudPrefixes ∧ ∀ q ∈ before, q ∈ crudPrefixes := by
    intro before after p hsplit
    rw [hsplit]
    exact ⟨by simp, fun q hq => List.mem_append_left _ hq⟩
  unfold crudMatch?
  rw [List.findSome?_eq_some_iff]
  constructor
  · rintro ⟨before, ⟨word, verb⟩, after, hsplit, hat, hnone⟩
    obtain ⟨hp, hmem⟩ := hbefore hsplit
    obtain ⟨rest, hname, hsays⟩ := (crudMatchAt?_eq_some_iff hp).mp hat
    refine ⟨before, word, verb, after, rest, hsplit, hname, hsays, fun q hq => ?_⟩
    exact (crudMatchAt?_eq_none_iff (hmem q hq)).mp (hnone q hq)
  · rintro ⟨before, word, verb, after, rest, hsplit, hname, hsays, hnone⟩
    obtain ⟨hp, hmem⟩ := hbefore hsplit
    refine ⟨before, (word, verb), after, hsplit, ?_, fun q hq => ?_⟩
    · exact (crudMatchAt?_eq_some_iff hp).mpr ⟨rest, hname, hsays⟩
    · exact (crudMatchAt?_eq_none_iff (hmem q hq)).mpr (hnone q hq)

theorem crudMatch?_isSome_iff {name : String} :
    (crudMatch? c name).isSome = true ↔
      ∃ p ∈ crudPrefixes, ∃ rest, name = p.1 ++ rest ∧ c.Accepts p.1 rest := by
  unfold crudMatch?
  rw [List.findSome?_isSome_iff]
  refine exists_congr fun p => and_congr_right fun hp => ?_
  rw [Option.isSome_iff_ne_none, Ne, crudMatchAt?_eq_none_iff hp]
  simp only [not_forall, not_not, exists_prop]

end

/-! ## the convention -/

/-- what a function name says about the verbs of a table and models -/
structure FollowsConvention (table : List (String × CrudVerb)) (c : Catalog) (name : String) : Prop where
  /-- a name says something if it is a verb before a text that the verb accepts -/
  isSome_iff : (crudMatch? c name).isSome = true ↔
    ∃ p ∈ table, ∃ rest, name = p.1 ++ rest ∧ c.Accepts p.1 rest
  /-- the first such verb decides what it says -/
  eq_some_iff : ∀ r, crudMatch? c name = some r ↔
    ∃ before word verb after rest, table = before ++ (word, verb) :: after ∧
      name = word ++ rest ∧ c.Says word verb rest r ∧
      ∀ p ∈ before, ∀ rest', name = p.1 ++ rest' → ¬c.Accepts p.1 rest'
  /-- a composite type is never meant -/
  stored : ∀ verb model, crudMatch? c name = some (verb, model) →
    ∃ m, c.model? model = some m ∧ m.kind ≠ .composite
  /-- `findMany` is read as `find` where it does not fit -/
  findMany : ∀ rest, name = "findMany" ++ rest → ¬c.Accepts "findMany" rest →
    ∀ r, crudMatch? c name = some r ↔ c.Says "find" .find ("Many" ++ rest) r
  /-- `get` takes no plural -/
  get : ∀ rest, name = "get" ++ rest → ∀ r, crudMatch? c name = some r ↔
    StartsUpper rest ∧ c.Stores rest ∧ r = (.find, rest)

/-- **what a function name says**: for every catalog and every name, the first of the eight verbs that
accepts the rest of the name decides, and without such a verb the name says nothing -/
theorem crudMatch?_follows (c : Catalog) (name : String) :
    FollowsConvention [("findMany", .list), ("find", .find), ("get", .find), ("list", .list),
      ("create", .create), ("update", .update), ("upsert", .upsert), ("delete", .delete)] c name where
  isSome_iff := crudMatch?_isSome_iff
  eq_some_iff _ := crudMatch?_eq_some_iff
  stored _ _ h := isStored_iff.mp (crudMatch?_isStored h)
  findMany rest hname hno r := by
    have hfind : "findMany" ++ rest = "find" ++ ("Many" ++ rest) := by
      rw [← String.append_assoc]
      rfl
    rw [hname, crudMatch?_findMany hno, hfind]
    exact crudMatchAt?_append (by decide) ("Many" ++ rest) r
  get rest hname r := by
    rw [hname, crudMatch?_get, crudMatchAt?_append (by decide)]
    constructor
    · rintro (⟨hstart, hrest⟩ | ⟨-, -, hword, -⟩)
      · exact ⟨hstart, hrest, rfl⟩
      · exact absurd hword (by decide)
    · rintro ⟨hstart, hrest, rfl⟩
      exact .model hstart hrest

-- plurals are taken for the first model they may be the plural of, and not after every verb
example : ["listCategories", "findManyCases", "findCases", "getCases", "createBox"].map (crudMatch?
    ⟨[⟨"Category", .model, none, []⟩, ⟨"Cas", .view, none, []⟩, ⟨"Case", .model, none, []⟩,
      ⟨"Box", .composite, none, []⟩], []⟩) =
    [some (.list, "Category"), some (.list, "Cas"), some (.list, "Cas"), none, none] := by decide +kernel

end ResolverTypes
