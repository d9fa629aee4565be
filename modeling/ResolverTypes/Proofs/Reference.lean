import ResolverTypes.Proofs.DataModel.Catalog
import ResolverTypes.Proofs.Declaration.Layout
import ResolverTypes.Proofs.Fact.Recording
import ResolverTypes.Service.Declaration

/-!
# References between the artifacts

A type expression may name a type that one of the two shared artifacts declares.  Here every such
name is followed back to its declaration:

* `TypeExpr.Mentions`     a name of an artifact stands somewhere in an expression, and so among its
                          pieces (`name_mem_pieces`);
* `Declares`              an artifact exports a declaration of a name, and its text has the line;
* `sharedFacts_closed`    names in facts are declared;
* `analyze_closed`        names in the signatures of a service file are declared;
* `declarations_closed`   names in the declarations of an artifact are declared, by the same artifact.

Why nothing dangles: a name of the schema types is a model of the catalog (a relation was checked,
or the name was looked up), and a name of the return types is a type that the schema defines and
that is no root.  These are exactly the types that get a declaration.
-/

namespace ResolverTypes

/-! ## names in an expression -/

/-- a name of an artifact stands somewhere in an expression -/
inductive TypeExpr.Mentions (artifact : Artifact) (name : String) : TypeExpr → Prop where
  | named : Mentions artifact name (.named artifact name)
  | array {item : TypeExpr} (h : Mentions artifact name item) : Mentions artifact name (.array item)
  | nullable {inner : TypeExpr} (h : Mentions artifact name inner) :
      Mentions artifact name (.nullable inner)
  | object {members : Members} {m : Member} (hm : m ∈ members.toList)
      (h : Mentions artifact name m.type) : Mentions artifact name (.object members)

namespace TypeExpr
variable {a : Artifact} {n : String}

theorem mentions_named {b : Artifact} {k : String} :
    (TypeExpr.named b k).Mentions a n ↔ b = a ∧ k = n := by
  constructor
  · rintro ⟨⟩
    exact ⟨rfl, rfl⟩
  · rintro ⟨rfl, rfl⟩
    exact .named

theorem mentions_array {t : TypeExpr} : (TypeExpr.array t).Mentions a n ↔ t.Mentions a n := by
  constructor
  · rintro (_ | h)
    exact h
  · exact .array

theorem mentions_nullable {t : TypeExpr} : (TypeExpr.nullable t).Mentions a n ↔ t.Mentions a n := by
  constructor
  · rintro (_ | _ | h)
    exact h
  · exact .nullable

theorem mentions_object {ms : Members} :
    (TypeExpr.object ms).Mentions a n ↔ ∃ m ∈ ms.toList, m.type.Mentions a n := by
  constructor
  · rintro (_ | _ | _ | ⟨hm, h⟩)
    exact ⟨_, hm, h⟩
  · rintro ⟨m, hm, h⟩
    exact .object hm h

theorem mentions_ofMembers {ms : List Member} :
    (ofMembers ms).Mentions a n ↔ ∃ m ∈ ms, m.type.Mentions a n := by
  rw [ofMembers, mentions_object, Members.toList_ofList]

theorem mentions_orNull {t : TypeExpr} : t.orNull.Mentions a n ↔ t.Mentions a n := by
  unfold orNull
  split
  · exact Iff.rfl
  · exact Iff.rfl
  · exact mentions_nullable

mutual

/-- the search for an artifact finds exactly the names of it -/
theorem refersTo_iff (a : Artifact) :
    (t : TypeExpr) → (t.refersTo a = true ↔ ∃ n, t.Mentions a n)
  | .named b k => by
    simp only [refersTo, decide_eq_true_eq, mentions_named]
    exact ⟨fun h => ⟨k, h, rfl⟩, fun ⟨_, h, _⟩ => h⟩
  | .array item => by
    simp only [refersTo, refersTo_iff a item, mentions_array]
  | .nullable inner => by
    simp only [refersTo, refersTo_iff a inner, mentions_nullable]
  | .object ms => by
    simp only [refersTo, membersReferTo_iff a ms, mentions_object]
  | .string | .number | .bigInt | .boolean | .date | .bytes | .unknown | .literals _
  | .verbatim _ => by
    simp only [refersTo, Bool.false_eq_true, false_iff]
    rintro ⟨_, ⟨⟩⟩

theorem membersReferTo_iff (a : Artifact) :
    (ms : Members) → (membersReferTo a ms = true ↔ ∃ n, ∃ m ∈ ms.toList, m.type.Mentions a n)
  | .nil => by simp [membersReferTo, Members.toList]
  | .cons name optional type rest => by
    simp only [membersReferTo, Bool.or_eq_true, refersTo_iff a type, membersReferTo_iff a rest,
      Members.toList, List.mem_cons, exists_eq_or_imp, exists_or]

end

mutual

/-- the names among the pieces of an expression are those it mentions -/
theorem name_mem_pieces {a : Artifact} {n : String} :
    (t : TypeExpr) → (Piece.name a n ∈ t.pieces ↔ t.Mentions a n)
  | .named b k => by
    show Piece.name a n ∈ [Piece.name b k] ↔ _
    rw [List.mem_singleton, Piece.name.injEq, mentions_named, eq_comm, @eq_comm _ n]
  | .array item => by
    show Piece.name a n ∈ Piece.text _ :: (item.pieces ++ [Piece.text _]) ↔ _
    rw [mentions_array, ← name_mem_pieces item]
    simp
  | .nullable inner => by
    show Piece.name a n ∈ inner.pieces ++ [Piece.text _] ↔ _
    rw [mentions_nullable, ← name_mem_pieces inner]
    simp
  | .object .nil => by
    show Piece.name a n ∈ [Piece.text _] ↔ _
    simp [mentions_object, Members.toList]
  | .object (.cons name optional type rest) => by
    show Piece.name a n ∈ Piece.text _ :: (type.pieces ++ (membersPieces rest ++ [Piece.text _])) ↔ _
    simp [mentions_object, Members.toList, name_mem_pieces type, name_mem_membersPieces rest]
  | .string | .number | .bigInt | .boolean | .date | .bytes | .unknown | .literals _
  | .verbatim _ => by
    constructor
    · intro h
      cases List.mem_singleton.mp h
    · rintro ⟨⟩

theorem name_mem_membersPieces {a : Artifact} {n : String} :
    (ms : Members) → (Piece.name a n ∈ membersPieces ms ↔ ∃ m ∈ ms.toList, m.type.Mentions a n)
  | .nil => by
    show Piece.name a n ∈ [] ↔ _
    simp [Members.toList]
  | .cons name optional type rest => by
    show Piece.name a n ∈ Piece.text _ :: (type.pieces ++ membersPieces rest) ↔ _
    simp [Members.toList, name_mem_pieces type, name_mem_membersPieces rest]

end

/-- every name in an expression is one that is declared -/
def Closed (declared : Artifact → String → Prop) (t : TypeExpr) : Prop :=
  ∀ a n, t.Mentions a n → declared a n

end TypeExpr

theorem Segment.name_mem_pieces {ss : List Segment} {a : Artifact} {n : String} :
    Piece.name a n ∈ ss.flatMap Segment.pieces ↔ ∃ t, Segment.type t ∈ ss ∧ t.Mentions a n := by
  rw [List.mem_flatMap]
  constructor
  · rintro ⟨written | t, hs, hn⟩
    · cases List.mem_singleton.mp hn
    · exact ⟨t, hs, (TypeExpr.name_mem_pieces t).mp hn⟩
  · rintro ⟨t, hs, hn⟩
    exact ⟨.type t, hs, (TypeExpr.name_mem_pieces t).mpr hn⟩

/-! ## declarations -/

/-- the types that the text of a declaration prints; the members of a union are plain names -/
def Declaration.types : Declaration → List TypeExpr
  | .alias _ _ (.type t) => [t]
  | .alias _ _ (.union _) => []
  | .interface _ _ properties => properties.map (·.type)

theorem Declaration.Property.type_mem_segments {t : TypeExpr} {p : Property} :
    Segment.type t ∈ p.segments ↔ t = p.type := by
  delta segments
  simp only [List.mem_cons, List.not_mem_nil, Segment.type.injEq, reduceCtorEq, or_false, false_or]

theorem Declaration.type_mem_segments {t : TypeExpr} {d : Declaration} :
    Segment.type t ∈ d.segments ↔ t ∈ d.types := by
  rcases d with ⟨doc, name, body | members⟩ | ⟨doc, name, properties⟩
  · simp [segments, Body.segments, types]
  · simp [segments, Body.segments, types]
  · simp [segments, types, Property.type_mem_segments, eq_comm]

/-- an artifact exports a declaration of a name, and a line of its text starts it; for the schema
types it is an interface -/
def Declares (catalog : DataModel.Catalog) (schema : Schema) (scalars : ScalarMap) :
    Artifact → String → Prop
  | .schemaTypes, n =>
    (∃ doc properties, Declaration.interface doc n properties ∈ catalog.declarations) ∧
      ∀ source, StartsLine (Declaration.interfaceHead n) (catalog.schemaTypes source).toList
  | .returnTypes, n =>
    (∃ d ∈ schema.declarations scalars, d.name = n) ∧
      ∀ source, Declaration.Exports (schema.returnTypes scalars source).toList n

theorem DataModel.Catalog.declares_model {catalog : DataModel.Catalog} {n : String}
    (h : (catalog.model? n).isSome) (schema : Schema) (scalars : ScalarMap) :
    Declares catalog schema scalars .schemaTypes n := by
  obtain ⟨m, hm⟩ := Option.isSome_iff_exists.mp h
  obtain ⟨hmem, hname⟩ := mem_of_model? hm
  have hdecl : m.declaration catalog ∈ catalog.declarations :=
    List.mem_append_right _ (List.mem_map_of_mem hmem)
  rw [← hname]
  exact ⟨⟨m.documentation, _, hdecl⟩, fun source => Declaration.startsLine_artifactText hdecl _ source⟩

theorem Schema.mem_of_type? {schema : Schema} {n : String} {t : Schema.TypeDef}
    (h : schema.type? n = some t) : t ∈ schema.types ∧ t.name = n :=
  ⟨List.mem_of_find?_eq_some h, by simpa using List.find?_some h⟩

theorem Schema.type?_of_mem {schema : Schema} (h : (schema.types.map (·.name)).Nodup)
    {t : Schema.TypeDef} (ht : t ∈ schema.types) : schema.type? t.name = some t :=
  DataModel.find?_name_of_mem h ht

/-- a defined type that a name stands for is declared, unless it is a root -/
theorem Schema.declares_type {schema : Schema} {n : String} {t : Schema.TypeDef}
    (h : schema.type? n = some t) (hk : t.kind.hasFields = true ∨ t.kind = .union)
    (hr : schema.isRoot n = false) (catalog : DataModel.Catalog) (scalars : ScalarMap) :
    Declares catalog schema scalars .returnTypes n := by
  obtain ⟨hmem, rfl⟩ := Schema.mem_of_type? h
  have hd : ∃ d, schema.declaration? scalars t = some d ∧ d.name = t.name := by
    unfold Schema.declaration?
    cases hkind : t.kind <;> simp [hkind, hr, Declaration.name, TypeKind.hasFields] at hk ⊢
  obtain ⟨d, hd, hname⟩ := hd
  have hdecl : d ∈ schema.declarations scalars := List.mem_filterMap.mpr ⟨t, hmem, hd⟩
  rw [← hname]
  exact ⟨⟨d, hdecl, rfl⟩,
    fun source => Declaration.exports_of_head (Declaration.startsLine_artifactText hdecl _ source)⟩

/-! ## the types of the two schemas -/

section
variable {declared : Artifact → String → Prop}

theorem TypeExpr.Closed.orNull {t : TypeExpr} (h : t.Closed declared) : t.orNull.Closed declared :=
  fun a n hm => h a n (mentions_orNull.mp hm)

theorem TypeExpr.Closed.array {t : TypeExpr} (h : t.Closed declared) :
    (TypeExpr.array t).Closed declared :=
  fun a n hm => h a n (mentions_array.mp hm)

theorem DataModel.scalarTypeExpr_closed (type : String) :
    (DataModel.scalarTypeExpr type).Closed declared := by
  intro a n hm
  unfold DataModel.scalarTypeExpr at hm
  split at hm <;> cases hm

/-- the type of a field names nothing but the model a relation points at -/
theorem DataModel.Field.typeExpr_closed (catalog : DataModel.Catalog) {f : DataModel.Field}
    (h : f.isRelation = true → declared .schemaTypes f.type) :
    (f.baseType catalog).Closed declared ∧ (f.typeExpr catalog).Closed declared := by
  have hbase : (f.baseType catalog).Closed declared := by
    intro a n hm
    unfold DataModel.Field.baseType at hm
    split at hm
    · next hrel =>
      obtain ⟨rfl, rfl⟩ := TypeExpr.mentions_named.mp hm
      exact h hrel
    · split at hm
      · cases hm
      · exact DataModel.scalarTypeExpr_closed _ a n hm
  have hlisted :
      (if f.isList then (f.baseType catalog).array else f.baseType catalog).Closed declared := by
    split
    · exact hbase.array
    · exact hbase
  refine ⟨hbase, ?_⟩
  unfold DataModel.Field.typeExpr
  simp only
  split
  · exact hlisted
  · exact hlisted.orNull

/-- the type of a name names nothing but a defined type that has fields or is a union, and is no
root -/
theorem Schema.namedType_closed {schema : Schema} {scalars : ScalarMap}
    (h : ∀ n t, schema.type? n = some t → (t.kind.hasFields = true ∨ t.kind = .union) →
      schema.isRoot n = false → declared .returnTypes n) (name : String) :
    (schema.namedType scalars name).Closed declared := by
  intro a n hm
  unfold Schema.namedType at hm
  split at hm
  · next t hb =>
    unfold Schema.builtinTypeExpr? at hb
    split at hb <;> cases hb <;> cases hm
  · split at hm
    · cases hm
    · next t ht =>
      have hnamed (hk : t.kind.hasFields = true ∨ t.kind = .union)
          (hm : (if schema.isRoot name then TypeExpr.unknown
            else .named .returnTypes name).Mentions a n) : declared a n := by
        split at hm
        · cases hm
        · next hr =>
          obtain ⟨rfl, rfl⟩ := TypeExpr.mentions_named.mp hm
          exact h _ t ht hk (by simpa using hr)
      split at hm
      · cases hm
      · split at hm <;> cases hm
      · next hk => exact hnamed (.inl (by rw [hk]; rfl)) hm
      · next hk => exact hnamed (.inl (by rw [hk]; rfl)) hm
      · next hk => exact hnamed (.inr hk) hm
      · next hk => exact hnamed (.inl (by rw [hk]; rfl)) hm

theorem Schema.typeOf_closed {schema : Schema} {scalars : ScalarMap}
    (h : ∀ name, (schema.namedType scalars name).Closed declared) (r : Schema.TypeRef) :
    (schema.typeOf scalars r).Closed declared := by
  induction r with
  | named name nullable =>
    unfold Schema.typeOf
    simp only
    split
    · exact (h name).orNull
    · exact h name
  | list item nullable ih =>
    unfold Schema.typeOf
    simp only
    split
    · exact ih.array.orNull
    · exact ih.array

end

/-! ## facts and signatures -/

/-- the types a fact holds -/
def FieldFact.types (f : FieldFact) : List TypeExpr := f.type :: f.base :: f.arguments.map (·.type)

/-- the types a signature holds -/
def Signature.types (s : Signature) : List TypeExpr := [s.args, s.returnType]

section
variable {declared : Artifact → String → Prop} {catalog : DataModel.Catalog} {schema : Schema}
  {scalars : ScalarMap}

/-- the facts of both schemas name declared types only -/
theorem sharedFacts_closed
    (hrel : ∀ m ∈ catalog.models, ∀ f ∈ m.fields, f.isRelation = true → declared .schemaTypes f.type)
    (hnamed : ∀ name, (schema.namedType scalars name).Closed declared) :
    ∀ fact ∈ (sharedFacts catalog schema scalars).values, ∀ t ∈ fact.types, t.Closed declared := by
  have hprov : ∀ (f : FieldFact) (p : Provenance), (∀ t ∈ f.types, t.Closed declared) →
      ∀ t ∈ { f with provenance := p }.types, t.Closed declared := fun _ _ h => h
  refine FieldFacts.forall_recordAll hprov ?_ ?_
  · refine FieldFacts.forall_recordAll hprov (fun f hf => nomatch hf) ?_
    intro fact hfact t ht
    obtain ⟨m, hm, hfact⟩ := List.mem_flatMap.mp hfact
    obtain ⟨f, hf, rfl⟩ := List.mem_map.mp hfact
    obtain ⟨hbase, htype⟩ := DataModel.Field.typeExpr_closed catalog (hrel m hm f hf)
    rcases List.mem_cons.mp ht with rfl | ht
    · exact htype
    · rw [List.mem_singleton.mp ht]
      exact hbase
  · intro fact hfact t ht
    obtain ⟨td, -, hfact⟩ := List.mem_flatMap.mp hfact
    split at hfact
    · obtain ⟨f, -, rfl⟩ := List.mem_map.mp hfact
      rcases List.mem_cons.mp ht with rfl | ht
      · exact Schema.typeOf_closed hnamed f.type
      rcases List.mem_cons.mp ht with rfl | ht
      · exact hnamed _
      · simp only [Schema.fieldFact, List.map_map, List.mem_map] at ht
        obtain ⟨arg, -, rfl⟩ := ht
        exact Schema.typeOf_closed hnamed arg.type
    · cases hfact

/-- the signature of a field names what its fact names -/
theorem Signature.ofField_closed {fact : FieldFact} (h : ∀ t ∈ fact.types, t.Closed declared) :
    ∀ t ∈ (Signature.ofField fact).types, t.Closed declared := by
  intro t ht
  rcases List.mem_cons.mp ht with rfl | ht
  · intro a n hm
    unfold Signature.ofField at hm
    simp only at hm
    split at hm
    · cases hm
    · obtain ⟨m, hm, hmen⟩ := TypeExpr.mentions_ofMembers.mp hm
      obtain ⟨arg, harg, rfl⟩ := List.mem_map.mp hm
      have harg' : arg.type ∈ fact.types :=
        List.mem_cons_of_mem _ (List.mem_cons_of_mem _ (List.mem_map_of_mem harg))
      exact h _ harg' a n hmen
  · rw [List.mem_singleton.mp ht]
    exact h _ List.mem_cons_self

/-- the model of a verb is one that is stored -/
theorem crudMatch?_isStored {name : String} {verb : CrudVerb} {model : String}
    (h : crudMatch? catalog name = some (verb, model)) : isStored catalog model = true := by
  obtain ⟨⟨word, verb'⟩, -, h⟩ := List.exists_of_findSome?_eq_some h
  simp only [crudMatchAt?] at h
  split at h
  · cases h
  · next rest _ =>
    split at h
    · cases h
    · split at h
      · next hs =>
        cases h
        exact hs
      · split at h
        · obtain ⟨m, hm, h⟩ := Option.map_eq_some_iff.mp h
          cases h
          exact List.find?_some hm
        · cases h

theorem isStored_iff {name : String} :
    isStored catalog name = true ↔ ∃ m, catalog.model? name = some m ∧ m.kind ≠ .composite := by
  unfold isStored
  cases catalog.model? name <;> simp

theorem crudMatch?_model {name : String} {verb : CrudVerb} {model : String}
    (h : crudMatch? catalog name = some (verb, model)) : (catalog.model? model).isSome := by
  obtain ⟨m, hm, -⟩ := isStored_iff.mp (crudMatch?_isStored h)
  rw [hm]
  rfl

theorem CrudVerb.returnType_closed {model : String} (h : declared .schemaTypes model)
    (verb : CrudVerb) : (verb.returnType model).Closed declared := by
  have hrecord : (TypeExpr.named .schemaTypes model).Closed declared := by
    intro a n hm
    obtain ⟨rfl, rfl⟩ := TypeExpr.mentions_named.mp hm
    exact h
  cases verb with
  | find => exact hrecord.orNull
  | list => exact hrecord.array
  | create | update | upsert | delete => exact hrecord

end

/-! ## service files -/

/-- all functions of a service file: its own and those of its objects -/
def Analysis.analyzed (a : Analysis) : List Analyzed :=
  a.functions ++ a.objects.flatMap fun o => o.members.map Prod.snd

section
variable {declared : Artifact → String → Prop} {project : Project}

/-- the field a function is named after has its name -/
theorem exactField?_find? {name : String} {fact : FieldFact} (h : exactField? project name = some fact) :
    ∃ type, project.facts.find? type name = some fact := by
  unfold exactField? at h
  split at h
  · next hroot =>
    cases h
    obtain ⟨root, -, hroot⟩ := List.exists_of_findSome?_eq_some hroot
    exact ⟨root, hroot⟩
  · split at h
    · exact ⟨_, h⟩
    · cases h

/-- what the name of a function tells about it names declared types only -/
theorem resolve?_closed (hfacts : ∀ fact ∈ project.facts.values, ∀ t ∈ fact.types, t.Closed declared)
    (hmodel : ∀ n, (project.catalog.model? n).isSome → declared .schemaTypes n)
    {name : String} {r : Resolution} {s : Signature} (h : resolve? project name = some (r, s)) :
    ∀ t ∈ s.types, t.Closed declared := by
  unfold resolve? at h
  split at h
  · next fact hfact =>
    cases h
    obtain ⟨type, hfind⟩ := exactField?_find? hfact
    exact Signature.ofField_closed (hfacts fact (Table.mem_values_of_get? hfind))
  · obtain ⟨⟨verb, model⟩, hcrud, h⟩ := Option.map_eq_some_iff.mp h
    cases h
    intro t ht
    rcases List.mem_cons.mp ht with rfl | ht
    · intro a n hm
      cases hm
    · rw [List.mem_singleton.mp ht]
      exact verb.returnType_closed (hmodel model (crudMatch?_model hcrud))

theorem Signature.permissive_closed : ∀ t ∈ Signature.permissive.types, t.Closed declared := by
  intro t ht a n hm
  simp only [Signature.permissive, Signature.types, List.mem_cons, List.not_mem_nil, or_false,
    or_self] at ht
  subst ht
  cases hm

theorem analyzeFunction_closed
    (hfacts : ∀ fact ∈ project.facts.values, ∀ t ∈ fact.types, t.Closed declared)
    (hmodel : ∀ n, (project.catalog.model? n).isSome → declared .schemaTypes n)
    (f : Script.Function) {s : Signature} (hs : (analyzeFunction project f).signature = some s) :
    ∀ t ∈ s.types, t.Closed declared := by
  unfold analyzeFunction at hs
  split at hs
  · cases hs
  · split at hs
    · next hres =>
      cases hs
      exact resolve?_closed hfacts hmodel hres
    · cases hs
      exact Signature.permissive_closed

theorem analyzeMember_closed
    (hfacts : ∀ fact ∈ project.facts.values, ∀ t ∈ fact.types, t.Closed declared)
    (owner : String) (f : Script.Function) {s : Signature}
    (hs : (analyzeMember project owner f).signature = some s) : ∀ t ∈ s.types, t.Closed declared := by
  unfold analyzeMember at hs
  simp only at hs
  split at hs
  · cases hs
  · split at hs
    · next fact hfact =>
      cases hs
      exact Signature.ofField_closed (hfacts fact (Table.mem_values_of_get? hfact))
    · cases hs
      exact Signature.permissive_closed

/-- every signature of a service file names declared types only -/
theorem analyze_closed
    (hfacts : ∀ fact ∈ project.facts.values, ∀ t ∈ fact.types, t.Closed declared)
    (hmodel : ∀ n, (project.catalog.model? n).isSome → declared .schemaTypes n)
    (es : Script.Exports) {f : Analyzed} (hf : f ∈ (analyze project es).analyzed) {s : Signature}
    (hs : f.signature = some s) : ∀ t ∈ s.types, t.Closed declared := by
  rcases List.mem_append.mp hf with hf | hf
  · obtain ⟨g, -, rfl⟩ := List.mem_map.mp hf
    exact analyzeFunction_closed hfacts hmodel g hs
  · obtain ⟨o, ho, hf⟩ := List.mem_flatMap.mp hf
    obtain ⟨src, -, rfl⟩ := List.mem_map.mp ho
    simp only [List.map_map, List.mem_map] at hf
    obtain ⟨g, -, rfl⟩ := hf
    exact analyzeMember_closed hfacts src.name g hs

/-- an object resolves the fields of an object type that is no root -/
theorem analyze_owner {es : Script.Exports} {o : AnalyzedObject}
    (ho : o ∈ (analyze project es).objects) :
    ∃ t, project.schema.type? o.owner = some t ∧ t.kind.hasFields = true ∧
      project.schema.isRoot o.owner = false := by
  obtain ⟨src, hsrc, rfl⟩ := List.mem_map.mp ho
  have hres := (List.mem_filter.mp hsrc).2
  unfold isResolverObject at hres
  split at hres
  · next t ht =>
    obtain ⟨-, hname⟩ := Schema.mem_of_type? ht
    simp only [Bool.and_eq_true, beq_iff_eq, Bool.not_eq_true'] at hres
    exact ⟨t, ht, by rw [hres.1]; rfl, by rw [← hname]; exact hres.2⟩
  · cases hres

end

/-! ## the declarations of the artifacts -/

section
variable {declared : Artifact → String → Prop}

theorem DataModel.Catalog.declarations_closed {catalog : DataModel.Catalog}
    (hrel : ∀ m ∈ catalog.models, ∀ f ∈ m.fields, f.isRelation = true → declared .schemaTypes f.type)
    {d : Declaration} (hd : d ∈ catalog.declarations) {t : TypeExpr} (ht : t ∈ d.types) :
    t.Closed declared := by
  rcases List.mem_append.mp hd with hd | hd
  · obtain ⟨e, -, rfl⟩ := List.mem_map.mp hd
    intro a n hm
    rw [List.mem_singleton.mp ht] at hm
    cases hm
  · obtain ⟨m, hm, rfl⟩ := List.mem_map.mp hd
    simp only [DataModel.Model.declaration, Declaration.types, List.map_map, List.mem_map] at ht
    obtain ⟨f, hf, rfl⟩ := ht
    exact (DataModel.Field.typeExpr_closed catalog (hrel m hm f hf)).2

theorem Schema.declarations_closed {schema : Schema} {scalars : ScalarMap}
    (hnamed : ∀ name, (schema.namedType scalars name).Closed declared) {d : Declaration}
    (hd : d ∈ schema.declarations scalars) {t : TypeExpr} (ht : t ∈ d.types) : t.Closed declared := by
  have hinterface : ∀ td : Schema.TypeDef,
      (if schema.isRoot td.name then none
        else some (Declaration.interface td.description td.name
          (td.fields.map fun f => ⟨f.description, f.name, f.type.nullable,
            schema.typeOf scalars f.type⟩))) = some d → t.Closed declared := by
    intro td hd
    split at hd
    · cases hd
    · cases hd
      simp only [Declaration.types, List.map_map, List.mem_map] at ht
      obtain ⟨f, -, rfl⟩ := ht
      exact Schema.typeOf_closed hnamed f.type
  obtain ⟨td, -, hd⟩ := List.mem_filterMap.mp hd
  unfold Schema.declaration? at hd
  split at hd
  · exact hinterface td hd
  · exact hinterface td hd
  · exact hinterface td hd
  · cases hd
    intro a n hm
    rw [List.mem_singleton.mp ht] at hm
    cases hm
  · cases hd
    cases ht
  · split at hd
    · cases hd
    · cases hd
      intro a n hm
      rw [List.mem_singleton.mp ht] at hm
      split at hm <;> cases hm

end

end ResolverTypes
