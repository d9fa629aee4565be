import ResolverTypes.Proofs.Reference

/-!
# Lists and nulls around a type

A fact tells twice whether a field is a list and whether it may be null: by two flags, and by what its
type is wrapped in.  The wrappers come from two functions, one for references of the GraphQL schema and
one for columns of the data model, and both put nulls with `orNull`, which leaves some of them out.

* `TypeExpr.wrappers`, `TypeExpr.core`   what is around a type, and what is inside;
* `TypeRef.wrappers`                     what a reference asks for: `wrappers_typeOf` says that the type
                                         of a reference has exactly these wrappers;
* `FieldFact.IsShaped`                   the flags of a fact tell its wrappers;
* `FieldFact.IsOf`                       a declaration gives a fact its type and its flags;
* `wrappers_kept`                        all of it, for every schema, data model and scalar map.

Why `orNull` leaves out nothing but a null around an unknown type: it is put around the type of a name
or around a list, and neither is nullable by itself.
-/

namespace ResolverTypes

/-- what a type may be wrapped in -/
inductive Wrapper where
  | array
  | nullable
deriving DecidableEq, Repr

namespace TypeExpr

/-! ## around a type and inside of it -/

/-- the wrappers around a type, outermost first -/
def wrappers : TypeExpr → List Wrapper
  | .array item => .array :: item.wrappers
  | .nullable inner => .nullable :: inner.wrappers
  | _ => []

/-- a type without its wrappers -/
def core : TypeExpr → TypeExpr
  | .array item => item.core
  | .nullable inner => inner.core
  | t => t

/-- a type without a null around it -/
def nonNull : TypeExpr → TypeExpr
  | .nullable inner => inner
  | t => t

/-- a type that holds no other type -/
def IsAtom : TypeExpr → Prop
  | .array _ | .nullable _ | .object _ => False
  | _ => True

theorem IsAtom.wrappers {t : TypeExpr} (h : t.IsAtom) : t.wrappers = [] := by
  cases t with
  | array _ | nullable _ => exact h.elim
  | _ => rfl

theorem IsAtom.core {t : TypeExpr} (h : t.IsAtom) : t.core = t := by
  cases t with
  | array _ | nullable _ => exact h.elim
  | _ => rfl

theorem IsAtom.ne_nullable {t : TypeExpr} (h : t.IsAtom) (inner : TypeExpr) : t ≠ .nullable inner := by
  rintro rfl
  exact h

theorem IsAtom.ne_array {t : TypeExpr} (h : t.IsAtom) (item : TypeExpr) : t ≠ .array item := by
  rintro rfl
  exact h

theorem core_orNull (t : TypeExpr) : t.orNull.core = t.core := by
  cases t <;> rfl

theorem IsAtom.orNull {t : TypeExpr} (h : t.IsAtom) (hknown : t ≠ .unknown) : t.orNull = .nullable t := by
  cases t with
  | unknown => exact absurd rfl hknown
  | nullable inner => exact h.elim
  | _ => rfl

/-! ## nulls around nulls -/

/-- a type stands somewhere in another one, or is all of it -/
inductive Part (u : TypeExpr) : TypeExpr → Prop where
  | whole : Part u u
  | array {item : TypeExpr} (h : Part u item) : Part u (.array item)
  | nullable {inner : TypeExpr} (h : Part u inner) : Part u (.nullable inner)
  | object {members : Members} {m : Member} (hm : m ∈ members.toList) (h : Part u m.type) :
      Part u (.object members)

/-- nowhere in a type is a null right around a null or around an unknown type -/
def IsNormal (t : TypeExpr) : Prop :=
  ∀ inner, (TypeExpr.nullable inner).Part t → inner ≠ .unknown ∧ ∀ i, inner ≠ .nullable i

theorem IsAtom.isNormal {t : TypeExpr} (h : t.IsAtom) : t.IsNormal := by
  intro inner hpart
  cases hpart with
  | whole => exact h.elim
  | array _ => exact h.elim
  | nullable _ => exact h.elim
  | object _ _ => exact h.elim

theorem IsNormal.array {t : TypeExpr} (h : t.IsNormal) : (TypeExpr.array t).IsNormal := by
  intro inner hpart
  cases hpart with
  | array hpart => exact h inner hpart

theorem IsNormal.nullable {t : TypeExpr} (h : t.IsNormal) (hknown : t ≠ .unknown)
    (hne : ∀ i, t ≠ .nullable i) : (TypeExpr.nullable t).IsNormal := by
  intro inner hpart
  cases hpart with
  | whole => exact ⟨hknown, hne⟩
  | nullable hpart => exact h inner hpart

theorem IsNormal.orNull {t : TypeExpr} (h : t.IsNormal) : t.orNull.IsNormal := by
  unfold TypeExpr.orNull
  split
  · exact h
  · exact h
  · next hne hknown => exact h.nullable hknown hne

end TypeExpr

/-! ## references of a schema -/

namespace Schema

/-- a null if a level has one -/
def nullWrapper (nullable : Bool) : List Wrapper := if nullable then [.nullable] else []

namespace TypeRef

/-- the number of list levels -/
def depth : TypeRef → Nat
  | .named _ _ => 0
  | .list item _ => item.depth + 1

/-- the wrappers a reference asks for: a list for each list level and a null for each level that may be
null, but none around a type that is not known -/
def wrappers (known : Bool) : TypeRef → List Wrapper
  | .named _ nullable => nullWrapper (nullable && known)
  | .list item nullable => nullWrapper nullable ++ .array :: item.wrappers known

theorem count_nullWrapper (nullable : Bool) : (nullWrapper nullable).count .array = 0 := by
  cases nullable <;> rfl

theorem count_wrappers (known : Bool) (r : TypeRef) : (r.wrappers known).count .array = r.depth := by
  induction r with
  | named name nullable => exact count_nullWrapper _
  | list item nullable ih =>
    show (nullWrapper nullable ++ .array :: item.wrappers known).count .array = item.depth + 1
    rw [List.count_append, count_nullWrapper, List.count_cons_self, ih, Nat.zero_add]

end TypeRef

section
variable (s : Schema) (scalars : ScalarMap)

theorem namedType_isAtom (name : String) : (s.namedType scalars name).IsAtom := by
  unfold namedType
  split
  · next t hb =>
    unfold builtinTypeExpr? at hb
    split at hb <;> cases hb <;> trivial
  · split
    · trivial
    · split
      · trivial
      all_goals split <;> trivial

theorem typeOf_named (name : String) (nullable : Bool) :
    s.typeOf scalars (.named name nullable) =
      if nullable then (s.namedType scalars name).orNull else s.namedType scalars name := rfl

theorem typeOf_list (item : TypeRef) (nullable : Bool) :
    s.typeOf scalars (.list item nullable) =
      if nullable then .nullable (.array (s.typeOf scalars item))
      else .array (s.typeOf scalars item) := rfl

theorem wrappers_typeOf_named (name : String) (nullable : Bool) :
    (s.typeOf scalars (.named name nullable)).wrappers =
      nullWrapper (nullable && decide (s.namedType scalars name ≠ .unknown)) := by
  have hatom := namedType_isAtom s scalars name
  rw [typeOf_named]
  generalize s.namedType scalars name = t at hatom
  cases nullable with
  | false => exact hatom.wrappers
  | true =>
    by_cases hknown : t = .unknown
    · rw [hknown]
      rfl
    · show t.orNull.wrappers = _
      rw [hatom.orNull hknown, decide_eq_true hknown]
      show Wrapper.nullable :: t.wrappers = [.nullable]
      rw [hatom.wrappers]

/-- the type of a reference has the wrappers that the reference asks for -/
theorem wrappers_typeOf (r : TypeRef) :
    (s.typeOf scalars r).wrappers =
      r.wrappers (decide (s.namedType scalars r.baseName ≠ .unknown)) := by
  induction r with
  | named name nullable => exact wrappers_typeOf_named s scalars name nullable
  | list item nullable ih =>
    rw [typeOf_list]
    show _ = nullWrapper nullable ++
      .array :: item.wrappers (decide (s.namedType scalars item.baseName ≠ .unknown))
    rw [← ih]
    cases nullable <;> rfl

theorem core_typeOf (r : TypeRef) :
    (s.typeOf scalars r).core = s.namedType scalars r.baseName := by
  induction r with
  | named name nullable =>
    have hcore : (s.namedType scalars name).core = s.namedType scalars name :=
      (namedType_isAtom s scalars name).core
    rw [typeOf_named]
    cases nullable with
    | false => exact hcore
    | true => exact (TypeExpr.core_orNull _).trans hcore
  | list item nullable ih =>
    rw [typeOf_list]
    cases nullable <;> exact ih

theorem typeOf_isNormal (r : TypeRef) : (s.typeOf scalars r).IsNormal := by
  induction r with
  | named name nullable =>
    have hnormal : (s.namedType scalars name).IsNormal := (namedType_isAtom s scalars name).isNormal
    rw [typeOf_named]
    cases nullable with
    | false => exact hnormal
    | true => exact hnormal.orNull
  | list item nullable ih =>
    rw [typeOf_list]
    cases nullable with
    | false => exact ih.array
    | true => exact ih.array.nullable nofun nofun

end

end Schema

/-! ## facts -/

/-- the flags of a fact tell the wrappers of its type, and its base is what they are around -/
structure FieldFact.IsShaped (f : FieldFact) : Prop where
  core : f.type.core = f.base
  nullable_iff : (∃ inner, f.type = .nullable inner) ↔
    f.nullable = true ∧ (f.list = true ∨ f.base ≠ .unknown)
  list_iff : (∃ item, f.type.nonNull = .array item) ↔ f.list = true
  normal : ∀ t ∈ f.types, t.IsNormal

namespace FieldFact
variable {f : FieldFact}

/-- a fact whose type is a list, perhaps with a null around it -/
theorem isShaped_of_list (item : TypeExpr) (hlist : f.list = true)
    (htype : f.type = if f.nullable then .nullable (.array item) else .array item)
    (hcore : item.core = f.base) (hnormal : ∀ t ∈ f.types, t.IsNormal) : f.IsShaped := by
  refine ⟨?_, ?_, ?_, hnormal⟩
  · rw [htype]
    cases f.nullable <;> exact hcore
  · rw [htype, hlist]
    cases f.nullable <;> simp
  · rw [htype, hlist]
    cases f.nullable <;> simp [TypeExpr.nonNull]

/-- a fact whose type is its base, perhaps with a null around it -/
theorem isShaped_of_base (hlist : f.list = false)
    (htype : f.type = if f.nullable then f.base.orNull else f.base) (hatom : f.base.IsAtom)
    (hnormal : ∀ t ∈ f.types, t.IsNormal) : f.IsShaped := by
  have hbase : ∀ item, f.base.nonNull ≠ .array item := by
    intro item
    cases hb : f.base with
    | nullable inner => exact absurd hb (hatom.ne_nullable inner)
    | array item' => exact absurd hb (hatom.ne_array item')
    | _ => nofun
  cases hnull : f.nullable with
  | false =>
    have hplain : f.type = f.base := by
      rw [htype, hnull]
      rfl
    refine ⟨?_, ?_, ?_, hnormal⟩
    · rw [hplain, hatom.core]
    · simp [hplain, hnull, hatom.ne_nullable]
    · simp [hplain, hlist, hbase]
  | true =>
    have hput : f.type = f.base.orNull := by
      rw [htype, hnull]
      rfl
    -- the only null that is left out
    by_cases hknown : f.base = .unknown
    · have hunknown : f.type = .unknown := by
        rw [hput, hknown]
        rfl
      refine ⟨?_, ?_, ?_, hnormal⟩
      · rw [hunknown, hknown]
        rfl
      · simp [hunknown, hknown, hlist]
      · simp [hunknown, hlist, TypeExpr.nonNull]
    · have hwrapped : f.type = .nullable f.base := by
        rw [hput, hatom.orNull hknown]
      refine ⟨?_, ?_, ?_, hnormal⟩
      · rw [hwrapped]
        exact hatom.core
      · simp [hwrapped, hknown, hnull]
      · simp [hwrapped, hlist, TypeExpr.nonNull, hatom.ne_array]

end FieldFact

theorem Schema.fieldFact_isShaped (s : Schema) (scalars : ScalarMap) (typeName : String) (f : Field) :
    (s.fieldFact scalars typeName f).IsShaped := by
  have hatom := namedType_isAtom s scalars f.type.baseName
  have hnormal : ∀ t ∈ (s.fieldFact scalars typeName f).types, t.IsNormal := by
    intro t ht
    rcases List.mem_cons.mp ht with rfl | ht
    · exact typeOf_isNormal s scalars f.type
    rcases List.mem_cons.mp ht with rfl | ht
    · exact hatom.isNormal
    · obtain ⟨a, ha, rfl⟩ := List.mem_map.mp ht
      obtain ⟨arg, -, rfl⟩ := List.mem_map.mp ha
      exact typeOf_isNormal s scalars arg.type
  cases htype : f.type with
  | named name nullable =>
    refine FieldFact.isShaped_of_base ?_ ?_ hatom hnormal
    · show f.type.isList = false
      rw [htype]
      rfl
    · show s.typeOf scalars f.type = if f.type.nullable then (s.namedType scalars f.type.baseName).orNull
        else s.namedType scalars f.type.baseName
      rw [htype]
      rfl
  | list item nullable =>
    refine FieldFact.isShaped_of_list (s.typeOf scalars item) ?_ ?_ ?_ hnormal
    · show f.type.isList = true
      rw [htype]
      rfl
    · show s.typeOf scalars f.type = if f.type.nullable then .nullable (.array (s.typeOf scalars item))
        else .array (s.typeOf scalars item)
      rw [htype]
      rfl
    · show _ = s.namedType scalars f.type.baseName
      rw [htype]
      exact core_typeOf s scalars item

namespace DataModel

theorem Field.baseType_isAtom (catalog : Catalog) (f : Field) : (f.baseType catalog).IsAtom := by
  unfold Field.baseType
  split
  · trivial
  · split
    · trivial
    · unfold scalarTypeExpr
      split <;> trivial

theorem Field.fact_isShaped (catalog : Catalog) (m : Model) (f : Field) :
    (f.fact catalog m).IsShaped := by
  have hatom := f.baseType_isAtom catalog
  have hnormal : ∀ t ∈ (f.fact catalog m).types, t.IsNormal := by
    intro t ht
    rcases List.mem_cons.mp ht with rfl | ht
    · have hlisted : (if f.isList then (f.baseType catalog).array else f.baseType catalog).IsNormal := by
        split
        · exact hatom.isNormal.array
        · exact hatom.isNormal
      show (f.typeExpr catalog).IsNormal
      unfold Field.typeExpr
      dsimp only
      split
      · exact hlisted
      · exact hlisted.orNull
    · rw [List.mem_singleton.mp ht]
      exact hatom.isNormal
  have htype : (f.fact catalog m).type =
      if !f.isRequired then (if f.isList then (f.baseType catalog).array else f.baseType catalog).orNull
      else if f.isList then (f.baseType catalog).array else f.baseType catalog := by
    show f.typeExpr catalog = _
    unfold Field.typeExpr
    cases f.isRequired <;> rfl
  cases hlist : f.isList with
  | false =>
    refine FieldFact.isShaped_of_base hlist ?_ hatom hnormal
    rw [htype, hlist]
    rfl
  | true =>
    refine FieldFact.isShaped_of_list (f.baseType catalog) hlist ?_ hatom.core hnormal
    rw [htype, hlist]
    rfl

end DataModel

/-- a declaration of its field gives a fact its type and its flags -/
inductive FieldFact.IsOf (catalog : DataModel.Catalog) (schema : Schema) (scalars : ScalarMap)
    (fact : FieldFact) : Prop where
  | field {t : Schema.TypeDef} {f : Schema.Field} (ht : t ∈ schema.types) (hf : f ∈ t.fields)
      (hname : fact.typeName = t.name ∧ fact.fieldName = f.name)
      (htype : fact.type = schema.typeOf scalars f.type)
      (hbase : fact.base = schema.namedType scalars f.type.baseName)
      (hflags : fact.nullable = f.type.nullable ∧ fact.list = f.type.isList)
  | column {m : DataModel.Model} {d : DataModel.Field} (hm : m ∈ catalog.models) (hd : d ∈ m.fields)
      (hname : fact.typeName = m.name ∧ fact.fieldName = d.name)
      (htype : fact.type = d.typeExpr catalog) (hbase : fact.base = d.baseType catalog)
      (hflags : fact.nullable = !d.isRequired ∧ fact.list = d.isList)

/-! ## all types -/

/-- references keep their structure in types, and facts tell the structure of theirs -/
structure KeepsWrappers (catalog : DataModel.Catalog) (schema : Schema) (scalars : ScalarMap) : Prop where
  /-- the wrappers of the type of a reference are those it asks for, in their order -/
  wrappers : ∀ r : Schema.TypeRef, (schema.typeOf scalars r).wrappers =
    r.wrappers (decide (schema.namedType scalars r.baseName ≠ .unknown))
  /-- there are as many lists as the reference has list levels -/
  nesting : ∀ r : Schema.TypeRef, (schema.typeOf scalars r).wrappers.count .array = r.depth
  /-- inside of them is the type of the name -/
  core : ∀ r : Schema.TypeRef, (schema.typeOf scalars r).core = schema.namedType scalars r.baseName
  graphql : ∀ typeName f, (schema.fieldFact scalars typeName f).IsShaped
  database : ∀ m f, (DataModel.Field.fact catalog m f).IsShaped
  /-- the type of a stored fact is that of the reference of its field, or that of its column -/
  stored : ∀ fact ∈ (sharedFacts catalog schema scalars).values,
    fact.IsShaped ∧ fact.IsOf catalog schema scalars

theorem sharedFacts_isShaped (catalog : DataModel.Catalog) (schema : Schema) (scalars : ScalarMap) :
    ∀ fact ∈ (sharedFacts catalog schema scalars).values,
      fact.IsShaped ∧ fact.IsOf catalog schema scalars := by
  have hprov : ∀ (f : FieldFact) (p : Provenance), f.IsShaped ∧ f.IsOf catalog schema scalars →
      { f with provenance := p }.IsShaped ∧ { f with provenance := p }.IsOf catalog schema scalars := by
    rintro f p ⟨hshape, hof⟩
    refine ⟨⟨hshape.core, hshape.nullable_iff, hshape.list_iff, hshape.normal⟩, ?_⟩
    cases hof with
    | field ht hf hname htype hbase hflags => exact .field ht hf hname htype hbase hflags
    | column hm hd hname htype hbase hflags => exact .column hm hd hname htype hbase hflags
  refine FieldFacts.forall_recordAll hprov ?_ ?_
  · refine FieldFacts.forall_recordAll hprov (fun f hf => nomatch hf) ?_
    intro fact hfact
    obtain ⟨m, hm, hfact⟩ := List.mem_flatMap.mp hfact
    obtain ⟨f, hf, rfl⟩ := List.mem_map.mp hfact
    exact ⟨f.fact_isShaped catalog m, .column hm hf ⟨rfl, rfl⟩ rfl rfl ⟨rfl, rfl⟩⟩
  · intro fact hfact
    obtain ⟨t, ht, hfact⟩ := List.mem_flatMap.mp hfact
    split at hfact
    · obtain ⟨f, hf, rfl⟩ := List.mem_map.mp hfact
      exact ⟨schema.fieldFact_isShaped scalars t.name f, .field ht hf ⟨rfl, rfl⟩ rfl rfl ⟨rfl, rfl⟩⟩
    · cases hfact

/-- **wrappers are kept**: for every data model, every schema and all scalar types, the type of a
reference of any depth has the wrappers of the reference, and every fact has the type of a declaration
of its field and agrees with its own flags -/
theorem wrappers_kept (catalog : DataModel.Catalog) (schema : Schema) (scalars : ScalarMap) :
    KeepsWrappers catalog schema scalars where
  wrappers := schema.wrappers_typeOf scalars
  nesting r := by
    rw [schema.wrappers_typeOf scalars r]
    exact Schema.TypeRef.count_wrappers _ r
  core := schema.core_typeOf scalars
  graphql := schema.fieldFact_isShaped scalars
  database m f := f.fact_isShaped catalog m
  stored := sharedFacts_isShaped catalog schema scalars

-- a scalar that nothing is known of has no null of its own, the lists around it have theirs
example : (Schema.typeOf ⟨[⟨"J", .scalar, none, [], [], [], []⟩], .none⟩ .empty
    (.list (.list (.named "J" true) false) true)).wrappers = [.nullable, .array, .array] := by decide

end ResolverTypes
