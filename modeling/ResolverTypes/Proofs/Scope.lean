import ResolverTypes.Proofs.Service.Interface

/-!
# Every printed name is declared and in scope

`ClosedReferences` puts together what is true of the names of types, for one pair of schemas and all
service files.  Names in facts, signatures and root types are declared (`facts`, `signatures`, `roots`).
The three kinds of texts are laid out in pieces, so that one can see which names stand in them: those in
a shared artifact are its own (`schemaTypes`, `returnTypes`), and a service declaration imports the
artifacts of those that it prints (`services`), among them all that was inferred (`printed`).
-/

namespace ResolverTypes

/-- no reference dangles, and every printed name is in scope where it is printed -/
structure ClosedReferences (catalog : DataModel.Catalog) (schema : Schema) (scalars : ScalarMap) :
    Prop where
  /-- names in facts are declared -/
  facts : ∀ fact ∈ (sharedFacts catalog schema scalars).values, ∀ t ∈ fact.types,
    t.Closed (Declares catalog schema scalars)
  /-- names in the signatures of a service file are declared -/
  signatures : ∀ es, ∀ f ∈ (analyze (Project.of catalog schema scalars) es).analyzed,
    ∀ s ∈ f.signature, ∀ t ∈ s.types, t.Closed (Declares catalog schema scalars)
  /-- the root types of the objects of a service file are declared -/
  roots : ∀ es, ∀ o ∈ (analyze (Project.of catalog schema scalars) es).objects,
    (Analysis.rootType catalog o.owner).Closed (Declares catalog schema scalars)
  /-- the schema types consist of declarations whose names are schema types that they declare -/
  schemaTypes :
    (∀ source, (catalog.schemaTypes source).toList =
      Declaration.artifactChars .schemaTypes source catalog.declarations) ∧
    ∀ d ∈ catalog.declarations, ∀ a n, Piece.name a n ∈ d.pieces →
      a = .schemaTypes ∧ Declares catalog schema scalars a n
  /-- the return types consist of declarations whose names are return types that they declare -/
  returnTypes :
    (∀ source, (schema.returnTypes scalars source).toList =
      Declaration.artifactChars .returnTypes source (schema.declarations scalars)) ∧
    ∀ d ∈ schema.declarations scalars, ∀ a n, Piece.name a n ∈ d.pieces →
      a = .returnTypes ∧ Declares catalog schema scalars a n
  /-- the declaration of a service file has an import line for every name that it prints -/
  services : ∀ es settings display,
    let is := (analyze (Project.of catalog schema scalars) es).interfaces catalog
    let text := (serviceDeclaration settings display is).toList
    text = declarationChars settings display (usedArtifacts is) is ∧
      ∀ i ∈ is, ∀ a n, Piece.name a n ∈ i.pieces →
        StartsLine (importLine settings a) text ∧ Declares catalog schema scalars a n
  /-- the names in inferred signatures are printed: those of functions, and for members of objects
  those of the root type as well -/
  printed : ∀ es,
    let analysis := analyze (Project.of catalog schema scalars) es
    (∀ f ∈ analysis.functions, ∀ s ∈ f.signature, ∃ i ∈ analysis.interfaces catalog,
      ∀ t ∈ s.types, ∀ a n, t.Mentions a n → Piece.name a n ∈ i.pieces) ∧
    ∀ o ∈ analysis.objects, ∀ m ∈ o.members, m.2.fact.resolution.isInferred = true →
      ∀ s ∈ m.2.signature, ∃ i ∈ analysis.interfaces catalog,
        ∀ t ∈ Analysis.rootType catalog o.owner :: s.types, ∀ a n, t.Mentions a n →
          Piece.name a n ∈ i.pieces

/-! ## names in texts -/

section
variable {declared : Artifact → String → Prop}

theorem Declaration.declared_of_mem_pieces {d : Declaration} (h : ∀ t ∈ d.types, t.Closed declared)
    {a : Artifact} {n : String} (hn : Piece.name a n ∈ d.pieces) : declared a n := by
  obtain ⟨t, ht, hm⟩ := Segment.name_mem_pieces.mp hn
  exact h t (type_mem_segments.mp ht) a n hm

theorem ResolverInterface.name_mem_pieces {i : ResolverInterface} {a : Artifact} {n : String} :
    Piece.name a n ∈ i.pieces ↔ ∃ t ∈ i.types, t.Mentions a n := by
  unfold pieces
  rw [Segment.name_mem_pieces]
  simp only [type_mem_segments]

/-- the interface of an object prints types of its members' signatures and the root type -/
theorem ResolverInterface.of_mem_types_object {owner : String} {root : TypeExpr} {o : AnalyzedObject}
    {t : TypeExpr} (ht : t ∈ (object owner root (Analysis.objectMembers o)).types) :
    ∃ m ∈ o.members, ∃ s ∈ m.2.signature, t ∈ root :: s.types := by
  obtain ⟨member, hmember, ht⟩ := List.mem_flatMap.mp ht
  obtain ⟨m, hm, hsome⟩ := List.mem_filterMap.mp hmember
  obtain ⟨s, hs, rfl⟩ := Option.map_eq_some_iff.mp hsome
  dsimp only at ht
  split at ht
  · next s' hs' =>
    obtain rfl : s = s' := by
      split at hs'
      · exact Option.some.inj hs'
      · cases hs'
    exact ⟨m, hm, s, hs, ht⟩
  · cases ht

/-- all names that the interfaces of a service file print are declared -/
theorem Analysis.declared_of_mem_interfaces {catalog : DataModel.Catalog} {analysis : Analysis}
    (hsignatures : ∀ f ∈ analysis.analyzed, ∀ s ∈ f.signature, ∀ t ∈ s.types, t.Closed declared)
    (hroots : ∀ o ∈ analysis.objects, (rootType catalog o.owner).Closed declared)
    {i : ResolverInterface} (hi : i ∈ analysis.interfaces catalog) {a : Artifact} {n : String}
    (hn : Piece.name a n ∈ i.pieces) : declared a n := by
  obtain ⟨t, ht, hm⟩ := ResolverInterface.name_mem_pieces.mp hn
  rcases List.mem_append.mp hi with hi | hi
  · obtain ⟨f, hf, hsome⟩ := List.mem_filterMap.mp hi
    obtain ⟨s, hs, rfl⟩ := Option.map_eq_some_iff.mp hsome
    exact hsignatures f (List.mem_append_left _ hf) s hs t ht a n hm
  · obtain ⟨o, ho, rfl⟩ := List.mem_map.mp hi
    obtain ⟨m, hmem, s, hs, ht⟩ := ResolverInterface.of_mem_types_object ht
    rcases List.mem_cons.mp ht with rfl | ht
    · exact hroots o ho a n hm
    · have hanalyzed : m.2 ∈ analysis.analyzed :=
        List.mem_append_right _ (List.mem_flatMap.mpr ⟨o, ho, List.mem_map_of_mem hmem⟩)
      exact hsignatures m.2 hanalyzed s hs t ht a n hm

end

/-- a name that an interface prints is behind a namespace that is imported -/
theorem ResolverInterface.startsLine_of_name {is : List ResolverInterface} {i : ResolverInterface}
    (hi : i ∈ is) {a : Artifact} {n : String} (hn : Piece.name a n ∈ i.pieces) (settings : PathSettings)
    (display : String) :
    StartsLine (importLine settings a) (serviceDeclaration settings display is).toList := by
  obtain ⟨t, ht, hm⟩ := Segment.name_mem_pieces.mp hn
  have hused : a ∈ usedArtifacts is :=
    mem_usedArtifacts.mpr ⟨i, hi, refersTo_iff.mpr (.inl ⟨t, n, ht, hm⟩)⟩
  rw [toList_serviceDeclaration]
  exact startsLine_importLine hused

namespace Analysis
variable {catalog : DataModel.Catalog} {analysis : Analysis}

/-- the interface of a function prints the names of its signature -/
theorem exists_interface_of_function {f : Analyzed} (hf : f ∈ analysis.functions) {s : Signature}
    (hs : f.signature = some s) : ∃ i ∈ analysis.interfaces catalog,
      ∀ t ∈ s.types, ∀ a n, t.Mentions a n → Piece.name a n ∈ i.pieces := by
  have hi : .function f.fact.name s ∈ analysis.interfaces catalog := by
    refine List.mem_append_left _ (List.mem_filterMap.mpr ⟨f, hf, ?_⟩)
    rw [hs]
    rfl
  exact ⟨_, hi, fun t ht a n hm => ResolverInterface.name_mem_pieces.mpr ⟨t, ht, hm⟩⟩

/-- the interface of an object prints the names of its root and of its matched members -/
theorem exists_interface_of_member {o : AnalyzedObject} (ho : o ∈ analysis.objects)
    {m : String × Analyzed} (hm : m ∈ o.members) (hinferred : m.2.fact.resolution.isInferred = true)
    {s : Signature} (hs : m.2.signature = some s) : ∃ i ∈ analysis.interfaces catalog,
      ∀ t ∈ rootType catalog o.owner :: s.types, ∀ a n, t.Mentions a n → Piece.name a n ∈ i.pieces := by
  have hmember : ⟨m.1, some s⟩ ∈ objectMembers o := by
    refine List.mem_filterMap.mpr ⟨m, hm, ?_⟩
    dsimp only
    rw [hs, Option.map_some, if_pos hinferred]
  refine ⟨_, List.mem_append_right _ (List.mem_map_of_mem ho), fun t ht a n hmentions => ?_⟩
  exact ResolverInterface.name_mem_pieces.mpr
    ⟨t, List.mem_flatMap.mpr ⟨_, hmember, ht⟩, hmentions⟩

end Analysis

/-! ## the result -/

section
variable {bs : List DataModel.Block} {catalog : DataModel.Catalog}

theorem declares_relation (hc : DataModel.Catalog.ofBlocks bs = .ok catalog) (schema : Schema)
    (scalars : ScalarMap) : ∀ m ∈ catalog.models, ∀ f ∈ m.fields, f.isRelation = true →
      Declares catalog schema scalars .schemaTypes f.type := by
  intro m hm f hf hrelation
  exact DataModel.Catalog.declares_model (DataModel.Catalog.ofBlocks_relation hc hm hf hrelation) schema scalars

/-- the root type of an object is a model, or a type that the schema defines -/
theorem rootType_closed (schema : Schema) (scalars : ScalarMap) (es : Script.Exports)
    {o : AnalyzedObject} (ho : o ∈ (analyze (Project.of catalog schema scalars) es).objects) :
    (Analysis.rootType catalog o.owner).Closed (Declares catalog schema scalars) := by
  intro a n hm
  unfold Analysis.rootType at hm
  split at hm
  · next hn =>
    obtain ⟨rfl, rfl⟩ := TypeExpr.mentions_named.mp hm
    exact DataModel.Catalog.declares_model hn schema scalars
  · obtain ⟨rfl, rfl⟩ := TypeExpr.mentions_named.mp hm
    obtain ⟨t, ht, hk, hr⟩ := analyze_owner ho
    exact Schema.declares_type ht (.inl hk) hr catalog scalars

theorem schemaTypes_own (hc : DataModel.Catalog.ofBlocks bs = .ok catalog) (schema : Schema)
    (scalars : ScalarMap) {d : Declaration} (hd : d ∈ catalog.declarations) {a : Artifact} {n : String}
    (hn : Piece.name a n ∈ d.pieces) : a = .schemaTypes ∧ Declares catalog schema scalars a n := by
  have hclosed : ∀ t ∈ d.types,
      t.Closed fun a n => a = .schemaTypes ∧ Declares catalog schema scalars a n :=
    fun t ht => DataModel.Catalog.declarations_closed
      (fun m hm f hf hrel => ⟨rfl, declares_relation hc schema scalars m hm f hf hrel⟩) hd ht
  exact Declaration.declared_of_mem_pieces hclosed hn

theorem returnTypes_own (catalog : DataModel.Catalog) {schema : Schema} {scalars : ScalarMap}
    {d : Declaration} (hd : d ∈ schema.declarations scalars) {a : Artifact} {n : String}
    (hn : Piece.name a n ∈ d.pieces) : a = .returnTypes ∧ Declares catalog schema scalars a n := by
  have hclosed : ∀ t ∈ d.types,
      t.Closed fun a n => a = .returnTypes ∧ Declares catalog schema scalars a n :=
    fun t ht => Schema.declarations_closed (Schema.namedType_closed fun n t ht hk hr =>
      ⟨rfl, Schema.declares_type ht hk hr catalog scalars⟩) hd ht
  exact Declaration.declared_of_mem_pieces hclosed hn

/-- **every reference is declared and in scope**, for every catalog that is built from blocks, every
schema, all scalar types and all service files -/
theorem closedReferences (hc : DataModel.Catalog.ofBlocks bs = .ok catalog) (schema : Schema)
    (scalars : ScalarMap) : ClosedReferences catalog schema scalars := by
  have hmodel : ∀ n, (catalog.model? n).isSome → Declares catalog schema scalars .schemaTypes n :=
    fun n hn => DataModel.Catalog.declares_model hn schema scalars
  have hfacts : ∀ fact ∈ (sharedFacts catalog schema scalars).values, ∀ t ∈ fact.types,
      t.Closed (Declares catalog schema scalars) :=
    sharedFacts_closed (declares_relation hc schema scalars) (Schema.namedType_closed
      fun n t ht hk hr => Schema.declares_type ht hk hr catalog scalars)
  have hsignatures : ∀ es, ∀ f ∈ (analyze (Project.of catalog schema scalars) es).analyzed,
      ∀ s ∈ f.signature, ∀ t ∈ s.types, t.Closed (Declares catalog schema scalars) :=
    fun es f hf s hs => analyze_closed hfacts hmodel es hf hs
  have hroots : ∀ es, ∀ o ∈ (analyze (Project.of catalog schema scalars) es).objects,
      (Analysis.rootType catalog o.owner).Closed (Declares catalog schema scalars) :=
    fun es o ho => rootType_closed schema scalars es ho
  exact
    { facts := hfacts
      signatures := hsignatures
      roots := hroots
      schemaTypes := ⟨fun source => Declaration.toList_artifactText _ source _,
        fun d hd a n hn => schemaTypes_own hc schema scalars hd hn⟩
      returnTypes := ⟨fun source => Declaration.toList_artifactText _ source _,
        fun d hd a n hn => returnTypes_own catalog hd hn⟩
      services := fun es settings display => ⟨toList_serviceDeclaration settings display _,
        fun i hi a n hn => ⟨ResolverInterface.startsLine_of_name hi hn settings display,
          Analysis.declared_of_mem_interfaces (hsignatures es) (hroots es) hi hn⟩⟩
      printed := fun es => ⟨fun f hf s hs => Analysis.exists_interface_of_function hf hs,
        fun o ho m hm hinferred s hs => Analysis.exists_interface_of_member ho hm hinferred hs⟩ }

end

/-- two models that refer to each other -/
def authorBlocks : List DataModel.Block :=
  [⟨.model, some "Post", 1, none, [.field ⟨"author", "User", false, false, [], none, 2⟩]⟩,
    ⟨.model, some "User", 4, none, [.field ⟨"posts", "Post", true, false, [], none, 5⟩]⟩]

def authorCatalog : DataModel.Catalog :=
  ⟨[⟨"Post", .model, none, [⟨"author", "User", false, true, true, false,
        some ⟨"User", .oneToOne, none, [], []⟩, false, false, false, none⟩]⟩,
    ⟨"User", .model, none, [⟨"posts", "Post", true, true, true, false,
        some ⟨"Post", .oneToMany, none, [], []⟩, false, false, false, none⟩]⟩], []⟩

def authorSchema : Schema :=
  ⟨[⟨"Post", .object, none, [⟨"author", .named "User" false, [], none⟩], [], [], []⟩,
    ⟨"User", .object, none, [⟨"posts", .list (.named "Post" false) true, [], none⟩], [], [], []⟩,
    ⟨"Query", .object, none, [⟨"posts", .list (.named "Post" false) false, [], none⟩], [], [], []⟩],
    ⟨some "Query", none, none⟩⟩

/-- a service file with a resolver of the posts of a user -/
def authorExports : Script.Exports :=
  ⟨[⟨"findPost", [], none, none, false, 1⟩], [⟨"User", none, [⟨"posts", [], none, none, false, 3⟩], 2⟩]⟩

def authorInterfaces : List ResolverInterface :=
  [.function "findPost" ⟨.unknown, true, .nullable (.named .schemaTypes "Post")⟩,
    .object "User" (.named .schemaTypes "User") [⟨"posts", some
      ⟨.verbatim "Record<string, never>", true, .nullable (.array (.named .returnTypes "Post"))⟩⟩]]

/-- the users of the resolver are those of the data model and its posts are those of GraphQL, so its
declaration imports both artifacts -/
theorem closedReferences_author :
    DataModel.Catalog.ofBlocks authorBlocks = .ok authorCatalog ∧
    ClosedReferences authorCatalog authorSchema .empty ∧
    (analyze (Project.of authorCatalog authorSchema .empty) authorExports).interfaces authorCatalog =
      authorInterfaces ∧
    ∀ settings display a n, (a, n) ∈ [(Artifact.schemaTypes, "User"), (.returnTypes, "Post")] →
      StartsLine (importLine settings a) (serviceDeclaration settings display authorInterfaces).toList ∧
        Declares authorCatalog authorSchema .empty a n := by
  have hc : DataModel.Catalog.ofBlocks authorBlocks = .ok authorCatalog := by decide +kernel
  have hinterfaces : (analyze (Project.of authorCatalog authorSchema .empty) authorExports).interfaces
      authorCatalog = authorInterfaces := by decide +kernel
  have hclosed := closedReferences hc authorSchema .empty
  refine ⟨hc, hclosed, hinterfaces, fun settings display a n hname => ?_⟩
  have hservice := (hclosed.services authorExports settings display).2
  rw [hinterfaces] at hservice
  refine hservice _ (List.mem_cons_of_mem _ List.mem_cons_self) a n ?_
  rw [ResolverInterface.name_mem_pieces]
  -- the root of the object, or the result of its only member
  rcases List.mem_cons.mp hname with hroot | hreturn
  · cases hroot
    exact ⟨_, List.mem_cons_self, .named⟩
  · cases List.mem_singleton.mp hreturn
    exact ⟨_, List.mem_cons_of_mem _ (List.mem_cons_of_mem _ List.mem_cons_self),
      .nullable (.array .named)⟩

end ResolverTypes
