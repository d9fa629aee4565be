import ResolverTypes.Proofs.Fact.History
import ResolverTypes.Proofs.Fact.Reconciliation
import ResolverTypes.Proofs.Service.Inference

/-!
# Which match a function gets

A function that does not tell its own types is matched in three ways, one after the other: with the
first root type that has a fact of its name, with the only other object type that declares a field of
its name, and with a verb and a model.  A name that two object types declare is no match, and the verbs
are tried as if it were no field at all.

* `Schema.Declares`            the object types that count, besides the roots, for a name;
* `Project.FirstRoot`          the first root that has a fact of a name: query, mutation, subscription;
* `Project.LooksUp`            what matching a name needs of the facts, and the facts of two schemas have
                               (`Project.looksUp_of`);
* `analyzeFunction_isRanked`   the three ways in their order, and what is left after them.
-/

namespace ResolverTypes
open Text DataModel

/-! ## object types that declare a field -/

namespace Schema
variable {s : Schema} {t : TypeDef} {name : String}

variable (s t name) in
/-- an object type of the schema that is no root and declares a field of that name -/
def Declares : Prop :=
  t ∈ s.types ∧ t.kind = .object ∧ t.name ∉ s.rootNames ∧ ∃ f ∈ t.fields, f.name = name

theorem mem_objectsWithField : t ∈ s.objectsWithField name ↔ s.Declares t name := by
  have hroot : (!s.isRoot t.name) = true ↔ t.name ∉ s.rootNames := by
    rw [Bool.not_eq_true', Bool.eq_false_iff, Ne, isRoot, List.contains_iff_mem]
  have hfield : (t.field? name).isSome = true ↔ ∃ f ∈ t.fields, f.name = name := by
    simp [TypeDef.field?, List.find?_isSome]
  unfold objectsWithField Declares
  rw [List.mem_filter, Bool.and_eq_true, Bool.and_eq_true, beq_iff_eq, hroot, hfield, and_assoc]

theorem objectsWithField_eq_singleton_iff (h : (s.types.map (·.name)).Nodup) :
    s.objectsWithField name = [t] ↔ s.Declares t name ∧ ∀ u, s.Declares u name → u = t := by
  have hnodup : (s.objectsWithField name).Nodup := (h.of_map _).filter _
  -- neither list repeats an entry, so it is enough to compare their members
  rw [← List.perm_singleton, List.perm_ext_iff_of_nodup hnodup (List.nodup_singleton t)]
  simp only [mem_objectsWithField, List.mem_singleton]
  constructor
  · intro hall
    exact ⟨(hall t).mpr rfl, fun u hu => (hall u).mp hu⟩
  · rintro ⟨hone, honly⟩ u
    refine ⟨honly u, fun heq => ?_⟩
    rw [heq]
    exact hone

theorem Declares.declarationsOf_ne_nil (h : (s.types.map (·.name)).Nodup) (ht : s.Declares t name) :
    s.declarationsOf t.name name ≠ [] := by
  obtain ⟨hmem, hkind, -, f, hf, hname⟩ := ht
  unfold declarationsOf TypeDef.factFields
  rw [type?_of_mem h hmem, Option.elim_some, hkind]
  exact List.ne_nil_of_mem (List.mem_filter.mpr ⟨hf, decide_eq_true hname⟩)

theorem mem_rootNames {root : String} : root ∈ s.rootNames ↔
    s.roots.query = some root ∨ s.roots.mutation = some root ∨ s.roots.subscription = some root := by
  simp [rootNames, eq_comm]

/-- the roots are searched in the order query, mutation, subscription -/
theorem findSome?_rootNames {α : Type} (f : String → Option α) :
    s.rootNames.findSome? f =
      (s.roots.query.bind f).or ((s.roots.mutation.bind f).or (s.roots.subscription.bind f)) := by
  have hcons : ∀ (o : Option String) (os : List (Option String)),
      ((o :: os).filterMap id).findSome? f = (o.bind f).or ((os.filterMap id).findSome? f) := by
    intro o os
    cases o with
    | none => rfl
    | some name =>
      show (name :: os.filterMap id).findSome? f = _
      rw [List.findSome?_cons]
      cases hf : f name <;> simp [hf]
  unfold rootNames
  rw [hcons, hcons, hcons, List.filterMap_nil, List.findSome?_nil, Option.or_none]

theorem isWord_of_mem_rootNames {source : String} (h : parse source = .ok s) {root : String}
    (hroot : root ∈ s.rootNames) : IsWord root := by
  obtain ⟨ds, -, hds, rfl⟩ := definitions_of_parse h
  -- the root types are among the types
  have hname := rootNames_assemble hds root hroot
  rw [← names_assemble] at hname
  obtain ⟨t, ht, rfl⟩ := List.mem_map.mp hname
  exact (parse_hasWords h t ht).1

end Schema

/-! ## facts and the names they are found under -/

/-- a dot in that name cannot be taken for the dot of a key: there is none, or no name of a model has
one -/
def DataModel.Catalog.KeepsApart (catalog : Catalog) (name : String) : Prop :=
  '.' ∉ name.toList ∨ ∀ m ∈ catalog.models, '.' ∉ m.name.toList

theorem DataModel.Catalog.keepsApart_of_text {text : String} {catalog : Catalog}
    (h : Run.catalogOf text = .ok catalog) (name : String) : catalog.KeepsApart name := by
  obtain ⟨bs, hparse, hc⟩ := ok_of_bind h
  exact .inr fun m hm => (models_hasWords hparse hc m hm).1.no_dot

section
variable {source : String} {schema : Schema} {catalog : Catalog} {scalars : ScalarMap}

/-- what an object type declares has a fact, whatever the data model declares -/
theorem find?_isSome_of_declares (hs : Schema.parse source = .ok schema) (catalog : Catalog)
    (scalars : ScalarMap) {t : Schema.TypeDef} {name : String} (h : schema.Declares t name) :
    ((sharedFacts catalog schema scalars).find? t.name name).isSome := by
  unfold sharedFacts FieldFacts.find?
  rw [FieldFacts.get?_recordAll, Schema.facts_under hs, isSome_foldl_reconcile]
  right
  simpa using h.declarationsOf_ne_nil (Schema.parse_types_nodup hs)

theorem no_dot_of_mem_sharedFacts (hs : Schema.parse source = .ok schema)
    (hmodels : ∀ m ∈ catalog.models, '.' ∉ m.name.toList) :
    ∀ fact ∈ (sharedFacts catalog schema scalars).values, '.' ∉ fact.typeName.toList := by
  refine FieldFacts.forall_recordAll (fun _ _ h => h)
    (FieldFacts.forall_recordAll (fun _ _ h => h) nofun ?_) ?_
  · intro fact hfact
    obtain ⟨m, hm, hfact⟩ := List.mem_flatMap.mp hfact
    obtain ⟨d, -, rfl⟩ := List.mem_map.mp hfact
    exact hmodels m hm
  · intro fact hfact
    rw [Schema.facts_eq] at hfact
    obtain ⟨t, ht, hfact⟩ := List.mem_flatMap.mp hfact
    obtain ⟨f, -, rfl⟩ := List.mem_map.mp hfact
    exact (Schema.parse_hasWords hs t ht).1.no_dot

/-- a fact is about the type and the field it was looked up for -/
theorem find?_names (hs : Schema.parse source = .ok schema) {type name : String} (htype : IsWord type)
    (hname : catalog.KeepsApart name) {fact : FieldFact}
    (h : (sharedFacts catalog schema scalars).find? type name = some fact) :
    fact.typeName = type ∧ fact.fieldName = name := by
  have hkeyed : (sharedFacts catalog schema scalars).IsKeyed :=
    (FieldFacts.isKeyed_empty.recordAll _).recordAll _
  have hkey : fieldKey fact.typeName fact.fieldName = fieldKey type name := hkeyed _ _ h
  rcases hname with hname | hmodels
  · -- the key has a single dot, so it can be cut there only
    have hchars := congrArg String.toList hkey.symm
    rw [toList_fieldKey, toList_fieldKey, List.append_cons_inj_of_notMem htype.no_dot hname] at hchars
    exact ⟨(String.toList_inj.mp hchars.1).symm, (String.toList_inj.mp hchars.2.2).symm⟩
  · -- the first dot of the key ends the name of the type, whatever dots follow
    have hdot : '.' ∉ fact.typeName.toList :=
      no_dot_of_mem_sharedFacts hs hmodels fact (Table.mem_values_of_get? h)
    exact (fieldKey_inj hdot htype.no_dot).mp hkey

end

/-! ## fields -/

namespace Project
variable {project : Project} {name root : String} {fact : FieldFact}

/-- the first root type that has a fact of a name, and its fact: the query type, else the mutation type,
else the subscription type -/
inductive FirstRoot (project : Project) (name root : String) (fact : FieldFact) : Prop where
  | query (hroot : project.schema.roots.query = some root)
      (hfact : project.facts.find? root name = some fact)
  | mutation (hquery : ∀ q, project.schema.roots.query = some q → project.facts.find? q name = none)
      (hroot : project.schema.roots.mutation = some root)
      (hfact : project.facts.find? root name = some fact)
  | subscription (hquery : ∀ q, project.schema.roots.query = some q → project.facts.find? q name = none)
      (hmutation : ∀ m, project.schema.roots.mutation = some m → project.facts.find? m name = none)
      (hroot : project.schema.roots.subscription = some root)
      (hfact : project.facts.find? root name = some fact)

variable (project name) in
/-- no root type has a fact of that name -/
def NoRoot : Prop := ∀ root ∈ project.schema.rootNames, project.facts.find? root name = none

theorem findSome?_rootNames_iff :
    project.schema.rootNames.findSome? (fun root => project.facts.find? root name) = some fact ↔
      ∃ root, project.FirstRoot name root fact := by
  rw [Schema.findSome?_rootNames, Option.or_eq_some_iff, Option.or_eq_some_iff]
  simp only [Option.bind_eq_some_iff, Option.bind_eq_none_iff]
  constructor
  · rintro (⟨q, hq, hfact⟩ | ⟨hquery, ⟨m, hm, hfact⟩ | ⟨hmutation, u, hu, hfact⟩⟩)
    · exact ⟨q, .query hq hfact⟩
    · exact ⟨m, .mutation hquery hm hfact⟩
    · exact ⟨u, .subscription hquery hmutation hu hfact⟩
  · rintro ⟨root, ⟨hroot, hfact⟩ | ⟨hquery, hroot, hfact⟩ | ⟨hquery, hmutation, hroot, hfact⟩⟩
    · exact .inl ⟨root, hroot, hfact⟩
    · exact .inr ⟨hquery, .inl ⟨root, hroot, hfact⟩⟩
    · exact .inr ⟨hquery, .inr ⟨hmutation, root, hroot, hfact⟩⟩

theorem firstRoot_or_noRoot (project : Project) (name : String) :
    (∃ root fact, project.FirstRoot name root fact) ∨ project.NoRoot name := by
  cases h : project.schema.rootNames.findSome? fun root => project.facts.find? root name with
  | none => exact .inr (List.findSome?_eq_none_iff.mp h)
  | some fact =>
    obtain ⟨root, hroot⟩ := findSome?_rootNames_iff.mp h
    exact .inl ⟨root, fact, hroot⟩

/-- looking up a name gives facts about it only, and one for every object type that declares it -/
structure LooksUp (project : Project) (name : String) : Prop where
  distinct : (project.schema.types.map (·.name)).Nodup
  root : ∀ root ∈ project.schema.rootNames, ∀ fact, project.facts.find? root name = some fact →
    fact.typeName = root ∧ fact.fieldName = name
  object : ∀ t, project.schema.Declares t name →
    ∃ fact, project.facts.find? t.name name = some fact ∧ fact.typeName = t.name ∧ fact.fieldName = name

theorem looksUp_of {source : String} {schema : Schema} (hs : Schema.parse source = .ok schema)
    (catalog : Catalog) (scalars : ScalarMap) (hname : catalog.KeepsApart name) :
    (Project.of catalog schema scalars).LooksUp name where
  distinct := Schema.parse_types_nodup hs
  root root hroot fact hfact := find?_names hs (Schema.isWord_of_mem_rootNames hs hroot) hname hfact
  object t ht := by
    obtain ⟨fact, hfact⟩ := Option.isSome_iff_exists.mp (find?_isSome_of_declares hs catalog scalars ht)
    exact ⟨fact, hfact, find?_names hs (Schema.parse_hasWords hs t ht.1).1 hname hfact⟩

theorem FirstRoot.exactField? (h : project.FirstRoot name root fact) :
    exactField? project name = some fact := by
  unfold ResolverTypes.exactField?
  rw [findSome?_rootNames_iff.mpr ⟨root, h⟩]

theorem FirstRoot.mem (h : project.FirstRoot name root fact) : root ∈ project.schema.rootNames := by
  rw [Schema.mem_rootNames]
  rcases h with ⟨hroot, -⟩ | ⟨-, hroot, -⟩ | ⟨-, -, hroot, -⟩
  · exact .inl hroot
  · exact .inr (.inl hroot)
  · exact .inr (.inr hroot)

theorem FirstRoot.find? (h : project.FirstRoot name root fact) :
    project.facts.find? root name = some fact := by
  rcases h with ⟨-, hfact⟩ | ⟨-, -, hfact⟩ | ⟨-, -, -, hfact⟩ <;> exact hfact

theorem LooksUp.firstRoot_of_split (hp : project.LooksUp name) {before after : List String}
    (hroots : project.schema.rootNames = before ++ root :: after)
    (hbefore : ∀ r ∈ before, project.facts.find? r name = none)
    (hfact : project.facts.find? root name = some fact) : project.FirstRoot name root fact := by
  have hfind : project.schema.rootNames.findSome? (fun r => project.facts.find? r name) = some fact :=
    List.findSome?_eq_some_iff.mpr ⟨before, root, after, hroots, hfact, hbefore⟩
  obtain ⟨found, hfound⟩ := findSome?_rootNames_iff.mp hfind
  have hmem : root ∈ project.schema.rootNames := by
    rw [hroots]
    exact List.mem_append_right _ List.mem_cons_self
  -- the fact names the root it is found under
  have hsame : found = root :=
    (hp.root found hfound.mem fact hfound.find?).1.symm.trans (hp.root root hmem fact hfact).1
  exact hsame ▸ hfound

theorem LooksUp.exactField?_of_only (hp : project.LooksUp name) (h : project.NoRoot name)
    {t : Schema.TypeDef} (hone : project.schema.Declares t name)
    (honly : ∀ u, project.schema.Declares u name → u = t) :
    ResolverTypes.exactField? project name = project.facts.find? t.name name := by
  have hsingleton : project.schema.objectsWithField name = [t] :=
    (Schema.objectsWithField_eq_singleton_iff hp.distinct).mpr ⟨hone, honly⟩
  unfold ResolverTypes.exactField?
  rw [List.findSome?_eq_none_iff.mpr h, hsingleton]

theorem LooksUp.exactField?_of_not_unique (hp : project.LooksUp name) (h : project.NoRoot name)
    (hnot : ¬∃! t, project.schema.Declares t name) :
    ResolverTypes.exactField? project name = none := by
  unfold ResolverTypes.exactField?
  rw [List.findSome?_eq_none_iff.mpr h]
  dsimp only
  split
  · next owner howner =>
    -- a single entry is the only type that declares the field
    exact absurd ⟨owner, (Schema.objectsWithField_eq_singleton_iff hp.distinct).mp howner⟩ hnot
  · rfl

end Project

/-! ## functions -/

section
variable {project : Project} {f : Script.Function} (h : f.isAnnotated = false)
include h

theorem analyzeFunction_of_exactField {fact : FieldFact}
    (hfact : exactField? project f.name = some fact) :
    analyzeFunction project f = inferred f f.name none "context"
      (.exactField fact.typeName fact.fieldName) (.ofField fact) := by
  unfold analyzeFunction resolve?
  rw [h, hfact]
  rfl

theorem analyzeFunction_of_crudMatch {verb : CrudVerb} {model : String}
    (hfield : exactField? project f.name = none)
    (hcrud : crudMatch? project.catalog f.name = some (verb, model)) :
    analyzeFunction project f = inferred f f.name none "context" (.crudConvention verb model)
      ⟨.unknown, true, verb.returnType model⟩ := by
  unfold analyzeFunction resolve?
  rw [h, hfield, hcrud]
  rfl

theorem analyzeFunction_of_none (hfield : exactField? project f.name = none)
    (hcrud : crudMatch? project.catalog f.name = none) :
    analyzeFunction project f = unmatched f f.name none := by
  unfold analyzeFunction resolve?
  rw [h, hfield, hcrud]
  rfl

variable (hp : project.LooksUp f.name)
include hp

theorem analyzeFunction_of_firstRoot {root : String} {fact : FieldFact}
    (hroot : project.FirstRoot f.name root fact) :
    analyzeFunction project f =
      inferred f f.name none "context" (.exactField root f.name) (.ofField fact) := by
  obtain ⟨htype, hfield⟩ := hp.root root hroot.mem fact hroot.find?
  rw [analyzeFunction_of_exactField h hroot.exactField?, htype, hfield]

theorem analyzeFunction_of_only (hnone : project.NoRoot f.name) {t : Schema.TypeDef}
    (hone : project.schema.Declares t f.name)
    (honly : ∀ u, project.schema.Declares u f.name → u = t) :
    ∃ fact, project.facts.find? t.name f.name = some fact ∧ analyzeFunction project f =
      inferred f f.name none "context" (.exactField t.name f.name) (.ofField fact) := by
  obtain ⟨fact, hfact, htype, hfield⟩ := hp.object t hone
  have hexact : exactField? project f.name = some fact :=
    (hp.exactField?_of_only hnone hone honly).trans hfact
  refine ⟨fact, hfact, ?_⟩
  rw [analyzeFunction_of_exactField h hexact, htype, hfield]

theorem noMatch_of_unresolved (hun : (analyzeFunction project f).fact.resolution = .unresolved) :
    project.NoRoot f.name ∧ (¬∃! t, project.schema.Declares t f.name) ∧
      crudMatch? project.catalog f.name = none := by
  -- each of the three ways, if it is open, gives another resolution
  rcases project.firstRoot_or_noRoot f.name with ⟨root, fact, hroot⟩ | hnone
  · rw [analyzeFunction_of_firstRoot h hp hroot] at hun
    cases hun
  have hnot : ¬∃! t, project.schema.Declares t f.name := by
    rintro ⟨t, hone, honly⟩
    obtain ⟨fact, -, hfact⟩ := analyzeFunction_of_only h hp hnone hone honly
    rw [hfact] at hun
    cases hun
  refine ⟨hnone, hnot, ?_⟩
  cases hcrud : crudMatch? project.catalog f.name with
  | none => rfl
  | some found =>
    rw [analyzeFunction_of_crudMatch h (hp.exactField?_of_not_unique hnone hnot) hcrud] at hun
    cases hun

end

/-- what is known about a function that does not tell its own types -/
structure Analyzed.IsRanked (project : Project) (f : Script.Function) (a : Analyzed) : Prop where
  /-- the first root type that has a fact of the name -/
  root {root : String} {fact : FieldFact} : project.FirstRoot f.name root fact →
    a.fact.resolution = .exactField root f.name ∧ a.signature = some (.ofField fact)
  /-- else the only other object type that declares a field of the name -/
  object {t : Schema.TypeDef} : project.NoRoot f.name → project.schema.Declares t f.name →
    (∀ u, project.schema.Declares u f.name → u = t) →
      ∃ fact, project.facts.find? t.name f.name = some fact ∧
        a.fact.resolution = .exactField t.name f.name ∧ a.signature = some (.ofField fact)
  /-- else the verb and the model of the name, also if several object types declare it -/
  convention {verb : CrudVerb} {model : String} : project.NoRoot f.name →
    (¬∃! t, project.schema.Declares t f.name) →
      crudMatch? project.catalog f.name = some (verb, model) →
        a.fact.resolution = .crudConvention verb model ∧
          a.signature = some ⟨.unknown, true, verb.returnType model⟩
  /-- nothing is left exactly when none of these applies -/
  unresolved_iff : a.fact.resolution = .unresolved ↔
    project.NoRoot f.name ∧ (¬∃! t, project.schema.Declares t f.name) ∧
      crudMatch? project.catalog f.name = none
  /-- and then nothing is said about arguments and result -/
  permissive : a.fact.resolution = .unresolved →
    a.signature = some ⟨.unknown, true, .unknown⟩ ∧ a.fact.returnType = .unknown ∧
      a.fact.resolved = false

/-- **matches are ranked**: with the facts of any data model and any accepted schema, for every function
that does not tell its own types -/
theorem analyzeFunction_isRanked {source : String} {schema : Schema}
    (hs : Schema.parse source = .ok schema) (catalog : Catalog) (scalars : ScalarMap)
    (f : Script.Function) (hname : catalog.KeepsApart f.name) (h : f.isAnnotated = false) :
    (analyzeFunction (Project.of catalog schema scalars) f).IsRanked
      (Project.of catalog schema scalars) f := by
  have hp := Project.looksUp_of hs catalog scalars hname
  generalize Project.of catalog schema scalars = project at hp ⊢
  constructor
  case root =>
    intro root fact hroot
    rw [analyzeFunction_of_firstRoot h hp hroot]
    exact ⟨rfl, rfl⟩
  case object =>
    intro t hnone hone honly
    obtain ⟨fact, hfind, hfact⟩ := analyzeFunction_of_only h hp hnone hone honly
    rw [hfact]
    exact ⟨fact, hfind, rfl, rfl⟩
  case convention =>
    intro verb model hnone hnot hcrud
    rw [analyzeFunction_of_crudMatch h (hp.exactField?_of_not_unique hnone hnot) hcrud]
    exact ⟨rfl, rfl⟩
  case unresolved_iff =>
    refine ⟨noMatch_of_unresolved h hp, ?_⟩
    rintro ⟨hnone, hnot, hcrud⟩
    rw [analyzeFunction_of_none h (hp.exactField?_of_not_unique hnone hnot) hcrud]
    rfl
  case permissive =>
    intro hun
    obtain ⟨hnone, hnot, hcrud⟩ := noMatch_of_unresolved h hp hun
    rw [analyzeFunction_of_none h (hp.exactField?_of_not_unique hnone hnot) hcrud]
    exact ⟨rfl, rfl, rfl⟩

/-! ## a schema with two roots that share a field -/

def twoRootsSource : String :=
  "type P \x7b a: Int g: Int \x7d type Q \x7b a: Int \x7d schema \x7b mutation: P query: Q \x7d " ++
    "type B \x7b d: Int createM: Int \x7d type C \x7b d: Int createM: Int e: Int \x7d"

def twoRootsSchema : Schema :=
  let field (name : String) : Schema.Field := ⟨name, .named "Int" true, [], none⟩
  let object (name : String) (fields : List String) : Schema.TypeDef :=
    ⟨name, .object, none, fields.map field, [], [], []⟩
  ⟨[object "P" ["a", "g"], object "Q" ["a"], object "B" ["d", "createM"],
    object "C" ["d", "createM", "e"]], ⟨some "Q", some "P", none⟩⟩

def oneModelCatalog : Catalog := ⟨[⟨"M", .model, none, []⟩], []⟩

/-- a function without parameters and annotations -/
def plainFunction (name : String) : Script.Function := ⟨name, [], none, none, false, 1⟩

/-- both roots have `a`, and the query type comes first; both object types declare `d` and `createM`,
and only the latter is matched, with a verb and a model -/
theorem analyzeFunction_isRanked_ambiguous :
    Schema.parse twoRootsSource = .ok twoRootsSchema ∧
      (∀ name ∈ ["a", "g", "e", "createM", "d"],
        (analyzeFunction (Project.of oneModelCatalog twoRootsSchema .empty) (plainFunction name)).IsRanked
          (Project.of oneModelCatalog twoRootsSchema .empty) (plainFunction name)) ∧
      ["a", "g", "e", "createM", "d"].map (fun name =>
        (analyzeFunction (Project.of oneModelCatalog twoRootsSchema .empty)
          (plainFunction name)).fact.resolution) =
        [.exactField "Q" "a", .exactField "P" "g", .exactField "C" "e", .crudConvention .create "M",
          .unresolved] := by
  have hs : Schema.parse twoRootsSource = .ok twoRootsSchema := by decide +kernel
  have hdots : ∀ name ∈ ["a", "g", "e", "createM", "d"], '.' ∉ name.toList := by decide +kernel
  refine ⟨hs, fun name hname => ?_, by decide +kernel⟩
  exact analyzeFunction_isRanked hs oneModelCatalog .empty (plainFunction name)
    (.inl (hdots name hname)) rfl

end ResolverTypes
