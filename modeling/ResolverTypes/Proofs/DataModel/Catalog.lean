import ResolverTypes.DataModel.Catalog
import ResolverTypes.Proofs.Outcome
import ResolverTypes.Proofs.Text.Lines
import Mathlib.Data.List.Nodup

/-!
# Which blocks give a catalog, and which one

Building a catalog can fail in four ways: a block without a name, a type name declared twice, a field
declared twice and a field of a type that nobody declares.  `Acceptable` rules these out, one condition
for each of them, and `Catalog.ofBlocks_eq_ok_iff` says that nothing else can go wrong and what the
catalog is then.  Every pass of the building has such a lemma:

* `checkNames_eq_ok_iff`     names of blocks;
* `resolveFields_eq_ok_iff`  fields of a block, each as `FieldDecl.resolved` has it;
* `buildModels_eq_ok_iff`    models, each as `Block.model?` has it;
* `checkRelations_eq_ok_iff` the last look at the relations, which finds nothing.
-/

namespace ResolverTypes.DataModel

/-- where names are different, an element is found by its name -/
theorem find?_name_of_mem {α : Type} {name : α → String} {xs : List α} (h : (xs.map name).Nodup) {x : α}
    (hx : x ∈ xs) : xs.find? (fun y => name y == name x) = some x := by
  cases hfind : xs.find? (fun y => name y == name x) with
  | none => exact absurd (beq_self_eq_true (name x)) (List.find?_eq_none.mp hfind x hx)
  | some y =>
    have hname : name y = name x := by simpa using List.find?_some hfind
    rw [List.inj_on_of_nodup_map h (List.mem_of_find?_eq_some hfind) hx hname]

/-! ## declared names -/

/-- the type names that blocks declare -/
def declaredNames (bs : List Block) : List String :=
  bs.filterMap fun b => if b.kind.declares then b.name else none

theorem checkNames_eq_ok_iff {seen : List String} {bs : List Block} :
    checkNames seen bs = .ok () ↔
      (∀ b ∈ bs, b.name ≠ none) ∧ (declaredNames bs).Nodup ∧ ∀ n ∈ declaredNames bs, n ∉ seen := by
  induction bs generalizing seen with
  | nil => simp [checkNames, declaredNames]
  | cons b bs ih =>
    rw [List.forall_mem_cons]
    unfold checkNames
    cases hname : b.name with
    | none => simp
    | some name =>
      dsimp only
      by_cases hd : b.kind.declares = true
      · have hcons : declaredNames (b :: bs) = name :: declaredNames bs := by
          simp [declaredNames, hd, hname]
        rw [if_pos hd, hcons, List.nodup_cons, List.forall_mem_cons]
        by_cases hseen : name ∈ seen
        · simp [hseen]
        · have hnew : seen.contains name = false := by simpa using hseen
          rw [hnew, if_neg Bool.false_ne_true, ih]
          -- a name is new to the others if it is neither `name` nor one of those before
          have hfresh : (∀ n ∈ declaredNames bs, n ∉ name :: seen) ↔
              name ∉ declaredNames bs ∧ ∀ n ∈ declaredNames bs, n ∉ seen := by
            constructor
            · intro h
              exact ⟨fun hmem => h name hmem List.mem_cons_self,
                fun n hn hmem => h n hn (List.mem_cons_of_mem _ hmem)⟩
            · rintro ⟨hfirst, hrest⟩ n hn hmem
              rcases List.mem_cons.mp hmem with rfl | hmem
              · exact hfirst hn
              · exact hrest n hn hmem
          rw [hfresh]
          simp only [ne_eq, reduceCtorEq, not_false_eq_true, true_and, hseen]
          tauto
      · have hcons : declaredNames (b :: bs) = declaredNames bs := by simp [declaredNames, hd]
        rw [if_neg hd, hcons, ih]
        simp

/-- of blocks that declare different names, those of some kinds do so as well -/
theorem names_nodup {bs : List Block} (h : (declaredNames bs).Nodup) (p : Block → Prop)
    [DecidablePred p] (hp : ∀ b, p b → b.kind.declares = true) :
    (bs.filterMap fun b => if p b then b.name else none).Nodup := by
  unfold declaredNames List.Nodup at *
  rw [List.pairwise_filterMap] at *
  refine h.imp fun {b b'} hdifferent n hn n' hn' => ?_
  split at hn
  · next hb =>
    split at hn'
    · next hb' => exact hdifferent n (by rw [if_pos (hp b hb), hn]) n' (by rw [if_pos (hp b' hb'), hn'])
    · cases hn'
  · cases hn

theorem modelNames_nodup {bs : List Block} (h : (declaredNames bs).Nodup) : (modelNames bs).Nodup := by
  refine names_nodup h (fun b => b.kind.model?.isSome = true) fun b => ?_
  cases b.kind <;> decide

theorem enumNames_nodup {bs : List Block} (h : (declaredNames bs).Nodup) : (enumNames bs).Nodup := by
  refine names_nodup h (fun b => b.kind = .enumeration) fun b => ?_
  cases b.kind <;> decide

/-! ## fields -/

/-- a type that nobody has to declare -/
def FieldDecl.HasScalarType (d : FieldDecl) : Prop :=
  d.type ∈ scalarTypes ∨ "Unsupported(".toList <+: d.type.toList

theorem isScalarType_iff (d : FieldDecl) : isScalarType d.type = true ↔ d.HasScalarType := by
  unfold isScalarType FieldDecl.HasScalarType
  rw [Bool.or_eq_true, List.contains_iff_mem, Text.dropHead?_isSome_iff]

section
variable {models enums : List String}

def FieldDecl.IsKnown (models enums : List String) (d : FieldDecl) : Prop :=
  d.HasScalarType ∨ d.type ∈ enums ∨ d.type ∈ models

/-- the field of a declaration whose type is known -/
def FieldDecl.resolved (models enums : List String) (d : FieldDecl) : Field where
  name := d.name
  type := d.type
  isList := d.array
  isRequired := !d.optional
  isRelation := models.contains d.type
  isEnum := enums.contains d.type
  relation := if models.contains d.type then some d.relation else none
  isId := d.hasAttribute "id"
  hasDefault := d.hasAttribute "default"
  isUpdatedAt := d.hasAttribute "updatedAt"
  documentation := d.documentation

theorem resolveField_eq_ok_iff {model : String} {d : FieldDecl} {f : Field} :
    resolveField models enums model d = .ok f ↔
      d.IsKnown models enums ∧ f = d.resolved models enums := by
  have hknown : d.IsKnown models enums ↔
      (!isScalarType d.type && !enums.contains d.type && !models.contains d.type) = false := by
    unfold FieldDecl.IsKnown
    rw [← isScalarType_iff, ← List.contains_iff_mem, ← List.contains_iff_mem]
    cases isScalarType d.type <;> cases enums.contains d.type <;> cases models.contains d.type <;> simp
  rw [hknown]
  unfold resolveField
  dsimp only
  cases (!isScalarType d.type && !enums.contains d.type && !models.contains d.type) with
  | true => simp
  | false =>
    rw [if_neg Bool.false_ne_true, Except.ok.injEq, eq_comm]
    exact (and_iff_right rfl).symm

theorem resolveFields_eq_ok_iff {model : String} {seen : List String} {ds : List FieldDecl}
    {fs : List Field} :
    resolveFields models enums model seen ds = .ok fs ↔
      (ds.map (·.name)).Nodup ∧ (∀ d ∈ ds, d.name ∉ seen) ∧ (∀ d ∈ ds, d.IsKnown models enums) ∧
        fs = ds.map (FieldDecl.resolved models enums) := by
  induction ds generalizing seen fs with
  | nil => simp [resolveFields, eq_comm]
  | cons d ds ih =>
    rw [List.map_cons, List.nodup_cons, List.forall_mem_cons, List.forall_mem_cons, List.map_cons]
    unfold resolveFields
    constructor
    · intro h
      split at h
      · cases h
      · next hseen =>
        obtain ⟨f, hf, h⟩ := ok_of_bind h
        obtain ⟨rest, hrest, h⟩ := ok_of_bind h
        cases h
        obtain ⟨hknown, rfl⟩ := resolveField_eq_ok_iff.mp hf
        obtain ⟨hnodup, hfresh, hknowns, rfl⟩ := ih.mp hrest
        refine ⟨⟨?_, hnodup⟩, ⟨by simpa using hseen, ?_⟩, ⟨hknown, hknowns⟩, rfl⟩
        · intro hmem
          obtain ⟨d', hd', hname⟩ := List.mem_map.mp hmem
          exact hfresh d' hd' (by rw [hname]; exact List.mem_cons_self)
        · exact fun d' hd' hmem => hfresh d' hd' (List.mem_cons_of_mem _ hmem)
    · rintro ⟨⟨hfirst, hnodup⟩, ⟨hnew, hseen⟩, ⟨hknown, hknowns⟩, rfl⟩
      have hf : resolveField models enums model d = .ok (d.resolved models enums) :=
        resolveField_eq_ok_iff.mpr ⟨hknown, rfl⟩
      have hrest : resolveFields models enums model (d.name :: seen) ds =
          .ok (ds.map (FieldDecl.resolved models enums)) := by
        refine ih.mpr ⟨hnodup, fun d' hd' hmem => ?_, hknowns, rfl⟩
        rcases List.mem_cons.mp hmem with heq | hmem
        · exact hfirst (heq ▸ List.mem_map_of_mem hd')
        · exact hseen d' hd' hmem
      have hnew : seen.contains d.name = false := by simpa using hnew
      rw [hnew, if_neg Bool.false_ne_true, hf, hrest]
      rfl

/-! ## models -/

def Block.isModel (b : Block) : Bool := b.kind.model?.isSome

/-- the model of a block, its fields resolved against the declared names -/
def Block.model? (models enums : List String) (b : Block) : Option Model :=
  match b.kind.model?, b.name with
  | some kind, some name =>
    some ⟨name, kind, b.documentation, b.fields.map (FieldDecl.resolved models enums)⟩
  | _, _ => none

theorem Block.model?_eq_some_iff {b : Block} {m : Model} :
    b.model? models enums = some m ↔ b.kind.model? = some m.kind ∧ b.name = some m.name ∧
      m.documentation = b.documentation ∧
      m.fields = b.fields.map (FieldDecl.resolved models enums) := by
  unfold Block.model?
  obtain ⟨name, kind, documentation, fields⟩ := m
  cases b.kind.model? with
  | none => simp
  | some k =>
    cases b.name with
    | none => simp
    | some n =>
      simp only [Option.some.injEq, Model.mk.injEq]
      constructor
      · rintro ⟨rfl, rfl, rfl, rfl⟩
        exact ⟨rfl, rfl, rfl, rfl⟩
      · rintro ⟨rfl, rfl, rfl, rfl⟩
        exact ⟨rfl, rfl, rfl, rfl⟩

theorem Block.exists_model? {b : Block} (hmodel : b.isModel = true) (hname : b.name ≠ none) :
    ∃ m, b.model? models enums = some m := by
  obtain ⟨kind, hkind⟩ := Option.isSome_iff_exists.mp hmodel
  obtain ⟨name, hname⟩ := Option.ne_none_iff_exists'.mp hname
  unfold Block.model?
  rw [hkind, hname]
  exact ⟨_, rfl⟩

def Block.HasKnownFields (models enums : List String) (b : Block) : Prop :=
  (b.fields.map (·.name)).Nodup ∧ ∀ d ∈ b.fields, d.IsKnown models enums

theorem buildModels_eq_ok_iff {bs : List Block} {ms : List Model} :
    buildModels models enums bs = .ok ms ↔
      (∀ b ∈ bs, b.isModel = true → b.name ≠ none → b.HasKnownFields models enums) ∧
        ms = bs.filterMap (Block.model? models enums) := by
  induction bs generalizing ms with
  | nil =>
    constructor
    · rintro ⟨⟩
      exact ⟨nofun, rfl⟩
    · rintro ⟨-, rfl⟩
      rfl
  | cons b bs ih =>
    rw [List.forall_mem_cons, List.filterMap_cons]
    unfold buildModels
    cases hkind : b.kind.model? with
    | none =>
      have hb : b.isModel = false := by rw [Block.isModel, hkind, Option.isSome_none]
      have hm : b.model? models enums = none := by rw [Block.model?, hkind]
      simpa [hb, hm] using ih
    | some kind =>
      have hb : b.isModel = true := by rw [Block.isModel, hkind, Option.isSome_some]
      cases hname : b.name with
      | none =>
        have hm : b.model? models enums = none := by rw [Block.model?, hkind, hname]
        simpa [hm] using ih
      | some name =>
        rw [Block.model?, hkind, hname, hb]
        dsimp only
        constructor
        · intro h
          obtain ⟨fields, hfields, h⟩ := ok_of_bind h
          obtain ⟨rest, hrest, h⟩ := ok_of_bind h
          cases h
          obtain ⟨hnodup, -, hknown, rfl⟩ := resolveFields_eq_ok_iff.mp hfields
          obtain ⟨hblocks, rfl⟩ := ih.mp hrest
          exact ⟨⟨fun _ _ => ⟨hnodup, hknown⟩, hblocks⟩, rfl⟩
        · rintro ⟨⟨hb, hblocks⟩, rfl⟩
          obtain ⟨hnodup, hknown⟩ := hb rfl nofun
          have hfields : resolveFields models enums name [] b.fields = _ :=
            resolveFields_eq_ok_iff.mpr ⟨hnodup, fun _ _ => List.not_mem_nil, hknown, rfl⟩
          rw [hfields, ih.mpr ⟨hblocks, rfl⟩]
          rfl

theorem filterMap_model?_names (models enums : List String) (bs : List Block) :
    (bs.filterMap (Block.model? models enums)).map (·.name) = modelNames bs := by
  rw [List.map_filterMap]
  unfold modelNames
  congr 1
  funext b
  unfold Block.model?
  cases b.kind.model? <;> cases b.name <;> rfl

end

/-! ## the whole catalog -/

/-- some block declares the type of a field -/
def FieldDecl.IsDeclaredIn (d : FieldDecl) (bs : List Block) : Prop :=
  ∃ b ∈ bs, b.kind.declares = true ∧ b.name = some d.type

/-- blocks that fit together -/
structure Acceptable (bs : List Block) : Prop where
  named : ∀ b ∈ bs, b.name ≠ none
  names : (declaredNames bs).Nodup
  fields : ∀ b ∈ bs, b.isModel = true → (b.fields.map (·.name)).Nodup
  types : ∀ b ∈ bs, b.isModel = true → ∀ d ∈ b.fields, d.HasScalarType ∨ d.IsDeclaredIn bs

theorem mem_modelNames {bs : List Block} {n : String} :
    n ∈ modelNames bs ↔ ∃ b ∈ bs, b.isModel = true ∧ b.name = some n := by
  simp [modelNames, Block.isModel, List.mem_filterMap]

theorem mem_enumNames {bs : List Block} {n : String} :
    n ∈ enumNames bs ↔ ∃ b ∈ bs, b.kind = .enumeration ∧ b.name = some n := by
  simp [enumNames, List.mem_filterMap]

theorem Block.declares_iff (b : Block) :
    b.kind.declares = true ↔ b.kind = .enumeration ∨ b.isModel = true := by
  unfold isModel
  cases b.kind <;> decide

theorem FieldDecl.isKnown_iff {d : FieldDecl} {bs : List Block} :
    d.IsKnown (modelNames bs) (enumNames bs) ↔ d.HasScalarType ∨ d.IsDeclaredIn bs := by
  unfold IsKnown IsDeclaredIn
  rw [mem_enumNames, mem_modelNames]
  simp only [Block.declares_iff, or_and_right, and_or_left, exists_or]

namespace Catalog
variable {bs : List Block} {c : Catalog}

theorem model?_isSome_iff {n : String} : (c.model? n).isSome = true ↔ n ∈ c.models.map (·.name) := by
  simp [model?, List.find?_isSome]

theorem mem_of_model? {n : String} {m : Model} (h : c.model? n = some m) : m ∈ c.models ∧ m.name = n :=
  ⟨List.mem_of_find?_eq_some h, by simpa using List.find?_some h⟩

theorem enum?_isSome_iff {n : String} : (c.enum? n).isSome = true ↔ n ∈ c.enums.map (·.name) := by
  simp [enum?, List.find?_isSome]

theorem checkRelations_eq_ok_iff :
    c.checkRelations = .ok () ↔
      ∀ m ∈ c.models, ∀ f ∈ m.fields, f.isRelation = true → (c.model? f.type).isSome = true := by
  have hnone : c.dangling? = none ↔
      ∀ m ∈ c.models, ∀ f ∈ m.fields, f.isRelation = true → (c.model? f.type).isSome = true := by
    simp [dangling?, List.findSome?_eq_none_iff, Option.isSome_iff_ne_none]
  rw [← hnone]
  unfold checkRelations
  cases c.dangling? with
  | none => simp
  | some p => simp

/-- the catalog of blocks that fit together -/
def resolved (bs : List Block) : Catalog :=
  ⟨bs.filterMap (Block.model? (modelNames bs) (enumNames bs)), buildEnums bs⟩

theorem resolved_checkRelations (bs : List Block) : (resolved bs).checkRelations = .ok () := by
  rw [checkRelations_eq_ok_iff]
  intro m hm f hf hrelation
  rw [model?_isSome_iff]
  show f.type ∈ (bs.filterMap (Block.model? (modelNames bs) (enumNames bs))).map (·.name)
  rw [filterMap_model?_names]
  obtain ⟨b, -, hb⟩ := List.mem_filterMap.mp hm
  obtain ⟨-, -, -, hfields⟩ := Block.model?_eq_some_iff.mp hb
  rw [hfields] at hf
  obtain ⟨d, -, rfl⟩ := List.mem_map.mp hf
  exact List.contains_iff_mem.mp hrelation

/-- **what building a catalog does**: it succeeds on blocks that fit together, and on no others -/
theorem ofBlocks_eq_ok_iff : ofBlocks bs = .ok c ↔ Acceptable bs ∧ c = resolved bs := by
  constructor
  · intro h
    obtain ⟨⟨⟩, hnames, h⟩ := ok_of_bind h
    obtain ⟨models, hmodels, h⟩ := ok_of_bind h
    obtain ⟨⟨⟩, -, h⟩ := ok_of_bind h
    cases h
    obtain ⟨hnamed, hnodup, -⟩ := checkNames_eq_ok_iff.mp hnames
    obtain ⟨hfields, rfl⟩ := buildModels_eq_ok_iff.mp hmodels
    refine ⟨⟨hnamed, hnodup, fun b hb hmodel => (hfields b hb hmodel (hnamed b hb)).1, ?_⟩, rfl⟩
    intro b hb hmodel d hd
    exact FieldDecl.isKnown_iff.mp ((hfields b hb hmodel (hnamed b hb)).2 d hd)
  · rintro ⟨h, rfl⟩
    have hnames : checkNames [] bs = .ok () :=
      checkNames_eq_ok_iff.mpr ⟨h.named, h.names, fun _ _ => List.not_mem_nil⟩
    have hmodels : buildModels (modelNames bs) (enumNames bs) bs = .ok (resolved bs).models :=
      buildModels_eq_ok_iff.mpr ⟨fun b hb hmodel _ => ⟨h.fields b hb hmodel,
        fun d hd => FieldDecl.isKnown_iff.mpr (h.types b hb hmodel d hd)⟩, rfl⟩
    have hrelations : checkRelations ⟨(resolved bs).models, buildEnums bs⟩ = .ok () :=
      resolved_checkRelations bs
    unfold ofBlocks
    rw [hnames]
    show (buildModels _ _ bs >>= _) = _
    rw [hmodels]
    show (checkRelations ⟨(resolved bs).models, buildEnums bs⟩ >>= _) = _
    rw [hrelations]
    rfl

theorem exists_ofBlocks_iff (bs : List Block) : (∃ c, ofBlocks bs = .ok c) ↔ Acceptable bs := by
  constructor
  · rintro ⟨c, hc⟩
    exact (ofBlocks_eq_ok_iff.mp hc).1
  · intro h
    exact ⟨resolved bs, ofBlocks_eq_ok_iff.mpr ⟨h, rfl⟩⟩

theorem ofBlocks_models (h : ofBlocks bs = .ok c) :
    c.models = bs.filterMap (Block.model? (modelNames bs) (enumNames bs)) := by
  rw [(ofBlocks_eq_ok_iff.mp h).2]
  rfl

theorem ofBlocks_models_nodup (h : ofBlocks bs = .ok c) : (c.models.map (·.name)).Nodup := by
  rw [ofBlocks_models h, filterMap_model?_names]
  exact modelNames_nodup (ofBlocks_eq_ok_iff.mp h).1.names

theorem ofBlocks_fields_nodup (h : ofBlocks bs = .ok c) {m : Model} (hm : m ∈ c.models) :
    (m.fields.map (·.name)).Nodup := by
  rw [ofBlocks_models h] at hm
  obtain ⟨b, hb, hm⟩ := List.mem_filterMap.mp hm
  obtain ⟨hkind, -, -, hfields⟩ := Block.model?_eq_some_iff.mp hm
  have hmodel : b.isModel = true := by rw [Block.isModel, hkind, Option.isSome_some]
  rw [hfields, List.map_map]
  exact (ofBlocks_eq_ok_iff.mp h).1.fields b hb hmodel

theorem ofBlocks_relation (h : ofBlocks bs = .ok c) {m : Model} (hm : m ∈ c.models) {f : Field}
    (hf : f ∈ m.fields) (hrel : f.isRelation = true) : (c.model? f.type).isSome := by
  have hcheck := resolved_checkRelations bs
  rw [← (ofBlocks_eq_ok_iff.mp h).2] at hcheck
  exact checkRelations_eq_ok_iff.mp hcheck m hm f hf hrel

end Catalog

end ResolverTypes.DataModel
