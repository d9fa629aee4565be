import ResolverTypes.Proofs.Reference
import Mathlib.Data.List.Nodup

/-!
# What is known about a function

A service file has one fact for each function that it exports and for each function of an exported
object that stands for an object type (`facts_analyze_eq`).  Such a fact is built in one of four ways:
the function tells its own types, it is named after a field, after a verb and a model, or after nothing
that is known.  `FunctionFact.IsSound` says what the parts of a fact have to do with each other and with
the function, and holds whichever way the fact was built (`analyzeFunction_isSound`,
`analyzeMember_isSound`).
-/

namespace ResolverTypes

/-! ## the functions of a service -/

namespace Schema

/-- an object type of that name is defined, and it is no root -/
def IsOwner (s : Schema) (name : String) : Prop :=
  (∃ t ∈ s.types, t.name = name ∧ t.kind = .object) ∧ name ∉ s.rootNames

instance (s : Schema) (name : String) : Decidable (s.IsOwner name) :=
  inferInstanceAs (Decidable (_ ∧ _))

/-- the functions that matter in a script, each with the type it belongs to: the exported ones, then
those of the exported objects that are named after an object type -/
def functionsOf (s : Schema) (es : Script.Exports) : List (Option String × String) :=
  es.functions.map (fun f => (none, f.name)) ++
    (es.objects.filter fun o => s.IsOwner o.name).flatMap fun o =>
      o.members.map fun f => (some o.name, o.name ++ "." ++ f.name)

theorem isResolverObject_eq {s : Schema} (h : (s.types.map (·.name)).Nodup)
    (o : Script.ResolverObject) : isResolverObject s o = decide (s.IsOwner o.name) := by
  rw [Bool.eq_iff_iff, decide_eq_true_iff]
  unfold isResolverObject IsOwner
  cases ht : s.type? o.name with
  | none =>
    have hnone : ∀ t ∈ s.types, t.name ≠ o.name := by
      intro t hmem hname
      exact List.find?_eq_none.mp ht t hmem (beq_iff_eq.mpr hname)
    refine ⟨nofun, ?_⟩
    rintro ⟨⟨t, hmem, hname, -⟩, -⟩
    exact absurd hname (hnone t hmem)
  | some t =>
    obtain ⟨hmem, hname⟩ := mem_of_type? ht
    have hroot : (!s.isRoot t.name) = true ↔ o.name ∉ s.rootNames := by
      rw [hname, Bool.not_eq_true', Bool.eq_false_iff, Ne, isRoot, List.contains_iff_mem]
    dsimp only
    rw [Bool.and_eq_true, beq_iff_eq, hroot]
    refine and_congr_left fun _ => ⟨fun hkind => ⟨t, hmem, hname, hkind⟩, ?_⟩
    -- the type that is found is the only one of that name
    rintro ⟨t', hmem', hname', hkind⟩
    rw [List.inj_on_of_nodup_map h hmem hmem' (hname.trans hname'.symm)]
    exact hkind

end Schema

namespace Schema

/-- the functions that matter in a script, each with the type it belongs to -/
def sourcesOf (s : Schema) (es : Script.Exports) : List (Option String × Script.Function) :=
  es.functions.map (fun f => (none, f)) ++
    (es.objects.filter fun o => s.IsOwner o.name).flatMap fun o => o.members.map fun f => (some o.name, f)

end Schema

/-- a function name, behind the type it belongs to -/
def qualifiedName (owner : Option String) (name : String) : String :=
  match owner with
  | none => name
  | some o => o ++ "." ++ name

theorem Schema.functionsOf_eq (s : Schema) (es : Script.Exports) :
    s.functionsOf es = (s.sourcesOf es).map fun e => (e.1, qualifiedName e.1 e.2.name) := by
  unfold functionsOf sourcesOf
  rw [List.map_append, List.map_map, List.map_flatMap]
  congr 1
  refine List.flatMap_congr fun o _ => ?_
  rw [List.map_map]
  rfl

/-- the fact of a function -/
def factOf (project : Project) (owner : Option String) (f : Script.Function) : FunctionFact :=
  match owner with
  | none => (analyzeFunction project f).fact
  | some o => (analyzeMember project o f).fact

theorem facts_analyze_eq {project : Project} (h : (project.schema.types.map (·.name)).Nodup)
    (es : Script.Exports) :
    (analyze project es).facts = (project.schema.sourcesOf es).map fun e => factOf project e.1 e.2 := by
  have hobjects : es.objects.filter (isResolverObject project.schema) =
      es.objects.filter fun o => project.schema.IsOwner o.name :=
    List.filter_congr fun o _ => Schema.isResolverObject_eq h o
  unfold Analysis.facts analyze Schema.sourcesOf
  dsimp only
  rw [hobjects, List.map_append, List.map_map, List.map_map, List.flatMap_map, List.map_flatMap]
  congr 1
  refine List.flatMap_congr fun o _ => ?_
  rw [List.map_map, List.map_map]
  rfl

theorem factOf_named (project : Project) (owner : Option String) (f : Script.Function) :
    (factOf project owner f).owner = owner ∧ (factOf project owner f).name = qualifiedName owner f.name := by
  cases owner with
  | none =>
    unfold factOf analyzeFunction
    dsimp only
    split
    · exact ⟨rfl, rfl⟩
    · split <;> exact ⟨rfl, rfl⟩
  | some o =>
    unfold factOf analyzeMember
    dsimp only
    split
    · exact ⟨rfl, rfl⟩
    · split <;> exact ⟨rfl, rfl⟩

/-- one fact for each function that matters, in their order -/
theorem facts_analyze {project : Project} (h : (project.schema.types.map (·.name)).Nodup)
    (es : Script.Exports) :
    (analyze project es).facts.map (fun f => (f.owner, f.name)) = project.schema.functionsOf es := by
  rw [facts_analyze_eq h, Schema.functionsOf_eq, List.map_map]
  refine List.map_congr_left fun e _ => ?_
  obtain ⟨howner, hname⟩ := factOf_named project e.1 e.2
  exact Prod.ext howner hname

/-! ## parameters -/

/-- the parameter of a script, under its name and with the type that is written there -/
def ParamFact.Carries (q : ParamFact) (p : Script.Parameter) : Prop :=
  q.name = p.name ∧ ∀ a ∈ p.annotation, q.type = .verbatim a

theorem paramFact_carries (type : TypeExpr) (p : Script.Parameter) : (paramFact type p).Carries p := by
  refine ⟨rfl, fun a ha => ?_⟩
  unfold paramFact
  rw [ha]
  rfl

theorem paramFact_type {p : Script.Parameter} (h : p.annotation = none) (type : TypeExpr) :
    (paramFact type p).type = type := by
  unfold paramFact
  rw [h]
  rfl

theorem map_paramFact_carries (type : TypeExpr) (ps : List Script.Parameter) :
    List.Forall₂ (fun p (q : ParamFact) => q.Carries p) ps (ps.map (paramFact type)) := by
  rw [List.forall₂_map_right_iff, List.forall₂_same]
  exact fun p _ => paramFact_carries type p

section
variable (f : Script.Function) (signature : Signature) (second : String)

theorem length_resolverParams :
    (resolverParams f signature second).length = max 2 f.params.length := by
  unfold resolverParams
  split <;> simp [*]

/-- the parameters of the script come first -/
theorem resolverParams_carry :
    List.Forall₂ (fun p (q : ParamFact) => q.Carries p) f.params
      ((resolverParams f signature second).take f.params.length) := by
  unfold resolverParams
  split
  · next h => rw [h]; exact .nil
  · next p h =>
    rw [h]
    exact .cons (paramFact_carries _ p) .nil
  · next p q rest h =>
    rw [h]
    simp only [List.length_cons, List.take_succ_cons]
    rw [List.take_of_length_le (by simp)]
    exact .cons (paramFact_carries _ p) (.cons (paramFact_carries _ q) (map_paramFact_carries _ rest))

end

/-! ## facts -/

/-- the fact of a function of a script, which belongs to the type `owner` or to none -/
structure FunctionFact.IsSound (fields : FieldFacts) (blocks : List DataModel.Block)
    (owner : Option String) (f : Script.Function) (fact : FunctionFact) : Prop where
  named : fact.owner = owner ∧ fact.name = qualifiedName owner f.name
  resolved_iff : fact.resolved = false ↔ fact.resolution ≠ .annotated ∧ fact.returnType = .unknown
  unresolved : fact.resolution = .unresolved → fact.returnType = .unknown ∧
    List.Forall₂ (fun p (q : ParamFact) => q.Carries p ∧ (p.annotation = none → q.type = .unknown))
      f.params fact.params
  exactField : ∀ type field, fact.resolution = .exactField type field →
    (∃ known, fields.find? type field = some known ∧ fact.returnType = known.type) ∧
    ∀ o, owner = some o → type = o
  crudConvention : ∀ verb model, fact.resolution = .crudConvention verb model →
    (∃ b ∈ blocks, b.name = some model ∧ (b.kind = .model ∨ b.kind = .view)) ∧
    fact.returnType = match verb with
      | .find => .nullable (.named .schemaTypes model)
      | .list => .array (.named .schemaTypes model)
      | .create | .update | .upsert | .delete => .named .schemaTypes model
  inferred : fact.resolution.isInferred = true →
    fact.params.length = max 2 f.params.length ∧
    List.Forall₂ (fun p (q : ParamFact) => q.Carries p) f.params (fact.params.take f.params.length)

theorem TypeExpr.isUnknown_iff {t : TypeExpr} : t.isUnknown = true ↔ t = .unknown := by
  cases t <;> simp [isUnknown]

section
variable {fields : FieldFacts} {blocks : List DataModel.Block} {owner : Option String}

theorem annotated_isSound (f : Script.Function) :
    (annotated f (qualifiedName owner f.name) owner).fact.IsSound fields blocks owner f where
  named := ⟨rfl, rfl⟩
  resolved_iff := ⟨nofun, fun h => absurd rfl h.1⟩
  unresolved := nofun
  exactField := nofun
  crudConvention := nofun
  inferred := nofun

theorem unmatched_isSound (f : Script.Function) :
    (unmatched f (qualifiedName owner f.name) owner).fact.IsSound fields blocks owner f where
  named := ⟨rfl, rfl⟩
  resolved_iff := ⟨fun _ => ⟨nofun, rfl⟩, fun _ => rfl⟩
  unresolved _ := by
    refine ⟨rfl, ?_⟩
    unfold unmatched sourceParams
    rw [List.forall₂_map_right_iff, List.forall₂_same]
    exact fun p _ => ⟨paramFact_carries _ p, fun h => paramFact_type h _⟩
  exactField := nofun
  crudConvention := nofun
  inferred := nofun

variable {f : Script.Function} {second : String} {signature : Signature}

theorem inferred_resolved_iff {resolution : Resolution} (h : resolution ≠ .annotated) (name : String) :
    (inferred f name owner second resolution signature).fact.resolved = false ↔
      resolution ≠ .annotated ∧ signature.returnType = .unknown := by
  show (!signature.returnType.isUnknown) = false ↔ _
  rw [Bool.not_eq_false', TypeExpr.isUnknown_iff]
  exact (and_iff_right h).symm

theorem inferred_exactField_isSound {type field : String} {known : FieldFact}
    (hknown : fields.find? type field = some known) (howner : ∀ o, owner = some o → type = o) :
    (inferred f (qualifiedName owner f.name) owner second (.exactField type field)
      (.ofField known)).fact.IsSound fields blocks owner f where
  named := ⟨rfl, rfl⟩
  resolved_iff := inferred_resolved_iff (by exact nofun) _
  unresolved := nofun
  exactField _ _ h := by
    cases h
    exact ⟨⟨known, hknown, rfl⟩, howner⟩
  crudConvention := nofun
  inferred _ := ⟨length_resolverParams f _ second, resolverParams_carry f _ second⟩

theorem inferred_crudConvention_isSound {verb : CrudVerb} {model : String}
    (hmodel : ∃ b ∈ blocks, b.name = some model ∧ (b.kind = .model ∨ b.kind = .view))
    (hreturn : signature.returnType = verb.returnType model) :
    (inferred f (qualifiedName owner f.name) owner second (.crudConvention verb model)
      signature).fact.IsSound fields blocks owner f where
  named := ⟨rfl, rfl⟩
  resolved_iff := inferred_resolved_iff (by exact nofun) _
  unresolved := nofun
  exactField := nofun
  crudConvention _ _ h := by
    cases h
    refine ⟨hmodel, hreturn.trans ?_⟩
    cases verb <;> rfl
  inferred _ := ⟨length_resolverParams f _ second, resolverParams_carry f _ second⟩

end

/-! ## functions -/

/-- a stored model is declared by a block for a model or a view -/
theorem declared_of_isStored {blocks : List DataModel.Block} {catalog : DataModel.Catalog}
    (h : DataModel.Catalog.ofBlocks blocks = .ok catalog) {name : String}
    (hstored : isStored catalog name = true) :
    ∃ b ∈ blocks, b.name = some name ∧ (b.kind = .model ∨ b.kind = .view) := by
  obtain ⟨m, hm, hkind⟩ := isStored_iff.mp hstored
  obtain ⟨hmem, hname⟩ := DataModel.Catalog.mem_of_model? hm
  rw [DataModel.Catalog.ofBlocks_models h] at hmem
  obtain ⟨b, hb, hblock⟩ := List.mem_filterMap.mp hmem
  obtain ⟨hkind', hname', -⟩ := DataModel.Block.model?_eq_some_iff.mp hblock
  refine ⟨b, hb, hname'.trans (congrArg some hname), ?_⟩
  cases hb : b.kind with
  | model => exact .inl rfl
  | view => exact .inr rfl
  | composite =>
    rw [hb] at hkind'
    exact absurd (Option.some.inj hkind').symm hkind
  | enumeration | datasource | generator =>
    rw [hb] at hkind'
    cases hkind'

section
variable {project : Project} {blocks : List DataModel.Block}

theorem analyzeFunction_isSound (hkeyed : project.facts.IsKeyed)
    (hcatalog : DataModel.Catalog.ofBlocks blocks = .ok project.catalog) (f : Script.Function) :
    (analyzeFunction project f).fact.IsSound project.facts blocks none f := by
  unfold analyzeFunction
  split
  · exact annotated_isSound f
  · split
    · next resolution signature hresolve =>
      unfold resolve? at hresolve
      split at hresolve
      · next known hknown =>
        cases hresolve
        -- the fact was found under the name of the function, and its own names lead to it as well
        obtain ⟨type, hfind⟩ := exactField?_find? hknown
        exact inferred_exactField_isSound (hkeyed.find?_eq hfind) nofun
      · obtain ⟨⟨verb, model⟩, hcrud, hpair⟩ := Option.map_eq_some_iff.mp hresolve
        cases hpair
        exact inferred_crudConvention_isSound
          (declared_of_isStored hcatalog (crudMatch?_isStored hcrud)) rfl
    · exact unmatched_isSound f

theorem analyzeMember_isSound (owner : String) (f : Script.Function) :
    (analyzeMember project owner f).fact.IsSound project.facts blocks (some owner) f := by
  unfold analyzeMember
  dsimp only
  split
  · exact annotated_isSound f
  · split
    · next known hknown =>
      refine inferred_exactField_isSound hknown fun o ho => ?_
      cases ho
      rfl
    · exact unmatched_isSound f

/-- the facts of a service file are sound, each for its function -/
theorem facts_isSound (hkeyed : project.facts.IsKeyed)
    (hcatalog : DataModel.Catalog.ofBlocks blocks = .ok project.catalog)
    (htypes : (project.schema.types.map (·.name)).Nodup) (es : Script.Exports) :
    List.Forall₂ (fun e (fact : FunctionFact) => fact.IsSound project.facts blocks e.1 e.2)
      (project.schema.sourcesOf es) (analyze project es).facts := by
  rw [facts_analyze_eq htypes, List.forall₂_map_right_iff, List.forall₂_same]
  rintro ⟨owner, f⟩ -
  cases owner with
  | none => exact analyzeFunction_isSound hkeyed hcatalog f
  | some o => exact analyzeMember_isSound o f

end

end ResolverTypes
