import ResolverTypes.Proofs.Service.Inference

/-!
# What the interfaces of a declaration print

The artifacts that a declaration imports are collected apart from its text.  To compare the two, the text
of an interface is cut into segments (`chars_eq_segments`), so that one can see which types it prints, and
further into pieces (`chars_eq_pieces`).

* `Prints`          an interface prints a type that names a type of an artifact;
* `unprintedRoot?`  the root type of an object that has no matched function.  It is counted among the
                    types an interface refers to, although no line of the interface prints it.

So an interface refers to the artifacts that it prints and to that of its unprinted root, if it has one
(`refersTo_iff`), and for the interfaces of a service file both are read off its exports
(`mem_usedArtifacts_analyze`).  The text of a declaration is laid out with a line for each import
(`toList_serviceDeclaration`, `startsLine_importLine`).

The names of the interfaces are read off the exports as well (`nameChars_interfaces`).  Names of functions
and of objects have different endings, so only functions among themselves and objects among themselves can
have interfaces of one name (`nodup_nameChars_iff`).
-/

namespace ResolverTypes

theorem Signature.refersTo_iff {s : Signature} {a : Artifact} :
    s.refersTo a = true ↔ ∃ t ∈ s.types, t.refersTo a = true := by
  simp [Signature.refersTo, Signature.types]

/-! ## segments -/

namespace ResolverInterface

/-- what a resolver gives back -/
def returnSegments (type : TypeExpr) : List Segment :=
  if type.isUnknown then [.type type]
  else [.type type, .text " | Promise<".toList, .type type, .text ['>']]

/-- a member of the interface of an object -/
def memberSegments (root : TypeExpr) (m : ResolverMember) : List Segment :=
  let key := "  ".toList ++ TypeExpr.keyChars m.name.toList
  match m.signature with
  | some s =>
    .text (key ++ "?: (args: ".toList) :: .type s.args :: .text ", obj: \x7b root: ".toList ::
      .type root :: .text "; context?: unknown \x7d) => ".toList ::
      (returnSegments s.returnType ++ [.text ";\n".toList])
  | none => [.text (key ++ "?: (args?: unknown, obj?: unknown) => unknown;\n".toList)]

def bodySegments : ResolverInterface → List Segment
  | .function _ s =>
    .text ("  (args".toList ++ (if s.argsOptional then ['?'] else []) ++ ": ".toList) ::
      .type s.args :: .text ", context?: unknown): ".toList ::
      (returnSegments s.returnType ++ [.text ";\n".toList])
  | .object _ root members => members.flatMap (memberSegments root)

/-- an interface, part by part -/
def segments (i : ResolverInterface) : List Segment :=
  .text ("export interface ".toList ++ i.nameChars ++ " \x7b\n".toList) ::
    (i.bodySegments ++ [.text "\x7d\n".toList])

theorem returnChars_eq (type : TypeExpr) :
    returnChars type = (returnSegments type).flatMap (Segment.chars none) := by
  unfold returnChars returnSegments
  split
  · next h =>
    cases type <;> first | rfl | cases h
  · simp only [List.flatMap_cons, List.flatMap_nil, Segment.chars, List.append_assoc, List.append_nil]

theorem memberChars_eq (root : TypeExpr) (m : ResolverMember) :
    memberChars root m = (memberSegments root m).flatMap (Segment.chars none) := by
  unfold memberChars memberSegments
  cases m.signature with
  | none => simp only [List.flatMap_singleton, Segment.chars]
  | some s =>
    simp only [List.flatMap_cons, List.flatMap_append, List.flatMap_nil, Segment.chars,
      List.append_assoc, List.append_nil, returnChars_eq]

theorem bodyChars_eq (i : ResolverInterface) :
    i.bodyChars = i.bodySegments.flatMap (Segment.chars none) := by
  cases i with
  | function name s =>
    delta bodyChars bodySegments
    simp only [List.flatMap_cons, List.flatMap_append, List.flatMap_nil, Segment.chars,
      List.append_assoc, List.append_nil, returnChars_eq]
  | object owner root members =>
    show members.flatMap (memberChars root) = (members.flatMap (memberSegments root)).flatMap (Segment.chars none)
    rw [List.flatMap_assoc, funext (memberChars_eq root)]

/-- the text of an interface is that of its segments -/
theorem chars_eq_segments (i : ResolverInterface) : i.chars = i.segments.flatMap (Segment.chars none) := by
  delta chars segments
  simp only [List.flatMap_cons, List.flatMap_append, List.flatMap_nil, Segment.chars, List.append_assoc,
    List.append_nil, bodyChars_eq]

def pieces (i : ResolverInterface) : List Piece := i.segments.flatMap Segment.pieces

theorem chars_eq_pieces (i : ResolverInterface) : i.chars = i.pieces.flatMap (Piece.chars none) := by
  rw [chars_eq_segments, Segment.flatMap_chars]
  rfl

/-! ## printed types -/

/-- the types that the text of an interface prints -/
def types : ResolverInterface → List TypeExpr
  | .function _ s => s.types
  | .object _ root members => members.flatMap fun m =>
    match m.signature with
    | some s => root :: s.types
    | none => []

theorem type_mem_returnSegments {t type : TypeExpr} :
    Segment.type t ∈ returnSegments type ↔ t = type := by
  unfold returnSegments
  split
  · rw [List.mem_singleton, Segment.type.injEq]
  · simp only [List.mem_cons, List.not_mem_nil, Segment.type.injEq, reduceCtorEq, or_false, false_or, or_self]

theorem type_mem_memberSegments {t root : TypeExpr} {m : ResolverMember} :
    Segment.type t ∈ memberSegments root m ↔ ∃ s, m.signature = some s ∧ t ∈ root :: s.types := by
  unfold memberSegments
  cases m.signature with
  | none => simp only [List.mem_singleton, reduceCtorEq, false_and, exists_false]
  | some s =>
    simp only [List.mem_cons, List.mem_append, List.not_mem_nil, Segment.type.injEq, reduceCtorEq, or_false,
      false_or, type_mem_returnSegments, Option.some.injEq, exists_eq_left', Signature.types]
    exact or_left_comm

/-- the types among the segments of an interface are those it prints -/
theorem type_mem_segments {t : TypeExpr} {i : ResolverInterface} :
    Segment.type t ∈ i.segments ↔ t ∈ i.types := by
  have hbody : Segment.type t ∈ i.segments ↔ Segment.type t ∈ i.bodySegments := by
    delta segments
    simp only [List.mem_cons, List.mem_append, List.not_mem_nil, reduceCtorEq, or_false, false_or]
  rw [hbody]
  cases i with
  | function name s =>
    delta bodySegments
    simp only [List.mem_cons, List.mem_append, List.not_mem_nil, Segment.type.injEq, reduceCtorEq, or_false,
      false_or, type_mem_returnSegments, types, Signature.types]
  | object owner root members =>
    show Segment.type t ∈ members.flatMap (memberSegments root) ↔ _
    simp only [List.mem_flatMap, type_mem_memberSegments, types]
    refine exists_congr fun m => and_congr_right fun _ => ?_
    cases m.signature with
    | none => simp only [reduceCtorEq, false_and, exists_false, List.not_mem_nil]
    | some s => simp only [Option.some.injEq, exists_eq_left']

/-- an interface prints a type that names a type of an artifact -/
def Prints (i : ResolverInterface) (a : Artifact) : Prop :=
  ∃ t n, Segment.type t ∈ i.segments ∧ t.Mentions a n

theorem prints_iff {i : ResolverInterface} {a : Artifact} :
    i.Prints a ↔ ∃ t ∈ i.types, t.refersTo a = true := by
  simp only [Prints, type_mem_segments, TypeExpr.refersTo_iff, exists_and_left]

/-! ## types that are counted -/

/-- the root type of an object, if no member prints it -/
def unprintedRoot? : ResolverInterface → Option TypeExpr
  | .function _ _ => none
  | .object _ root members => if members.any fun m => m.signature.isSome then none else some root

theorem prints_object_iff {owner : String} {root : TypeExpr} {members : List ResolverMember} {a : Artifact} :
    (object owner root members).Prints a ↔
      ∃ m ∈ members, ∃ s, m.signature = some s ∧ (root.refersTo a = true ∨ s.refersTo a = true) := by
  rw [prints_iff]
  constructor
  · rintro ⟨t, ht, href⟩
    obtain ⟨m, hm, ht⟩ := List.mem_flatMap.mp ht
    cases hs : m.signature with
    | none =>
      rw [hs] at ht
      cases ht
    | some s =>
      rw [hs] at ht
      rcases List.mem_cons.mp ht with rfl | ht
      · exact ⟨m, hm, s, hs, .inl href⟩
      · exact ⟨m, hm, s, hs, .inr (Signature.refersTo_iff.mpr ⟨t, ht, href⟩)⟩
  · rintro ⟨m, hm, s, hs, href⟩
    have hmem : ∀ t ∈ root :: s.types, t ∈ (object owner root members).types := by
      intro t ht
      refine List.mem_flatMap.mpr ⟨m, hm, ?_⟩
      rw [hs]
      exact ht
    rcases href with href | href
    · exact ⟨root, hmem root List.mem_cons_self, href⟩
    · obtain ⟨t, ht, href⟩ := Signature.refersTo_iff.mp href
      exact ⟨t, hmem t (List.mem_cons_of_mem _ ht), href⟩

theorem refersTo_object_iff {owner : String} {root : TypeExpr} {members : List ResolverMember}
    {a : Artifact} : (object owner root members).refersTo a = true ↔
      root.refersTo a = true ∨ ∃ m ∈ members, ∃ s, m.signature = some s ∧ s.refersTo a = true := by
  simp only [refersTo, Bool.or_eq_true, List.any_eq_true, Option.any_eq_true]

/-- an interface refers to what it prints, and to a root that it does not print -/
theorem refersTo_iff {i : ResolverInterface} {a : Artifact} :
    i.refersTo a = true ↔ i.Prints a ∨ ∃ root ∈ i.unprintedRoot?, root.refersTo a = true := by
  cases i with
  | function name s =>
    rw [prints_iff]
    show s.refersTo a = true ↔ (∃ t ∈ s.types, t.refersTo a = true) ∨ _
    simp [Signature.refersTo_iff, unprintedRoot?]
  | object owner root members =>
    rw [refersTo_object_iff, prints_object_iff, unprintedRoot?]
    by_cases hsome : (members.any fun m => m.signature.isSome) = true
    · -- a member with a signature prints the root too
      obtain ⟨m, hm, hs⟩ := List.any_eq_true.mp hsome
      obtain ⟨s, hs⟩ := Option.isSome_iff_exists.mp hs
      rw [if_pos hsome]
      constructor
      · rintro (hroot | ⟨m, hm, s, hs, href⟩)
        · exact .inl ⟨m, hm, s, hs, .inl hroot⟩
        · exact .inl ⟨m, hm, s, hs, .inr href⟩
      · rintro (⟨m, hm, s, hs, hroot | href⟩ | ⟨_, hnone, _⟩)
        · exact .inl hroot
        · exact .inr ⟨m, hm, s, hs, href⟩
        · cases hnone
    · have hnone : ∀ m ∈ members, ∀ s, m.signature ≠ some s := by
        intro m hm s hs
        refine hsome (List.any_eq_true.mpr ⟨m, hm, ?_⟩)
        rw [hs]
        rfl
      rw [if_neg hsome]
      constructor
      · rintro (hroot | ⟨m, hm, s, hs, -⟩)
        · exact .inr ⟨root, rfl, hroot⟩
        · exact absurd hs (hnone m hm s)
      · rintro (⟨m, hm, s, hs, -⟩ | ⟨_, ⟨⟩, hroot⟩)
        · exact absurd hs (hnone m hm s)
        · exact .inl hroot

end ResolverInterface

theorem mem_usedArtifacts {is : List ResolverInterface} {a : Artifact} :
    a ∈ usedArtifacts is ↔ ∃ i ∈ is, i.refersTo a = true := by
  unfold usedArtifacts
  rw [List.mem_filter, List.any_eq_true]
  cases a <;> simp

/-! ## the interfaces of a service file -/

namespace Script.Exports

/-- the functions that get an interface: those that do not tell their own types -/
def untyped (es : Script.Exports) : List Script.Function := es.functions.filter fun f => !f.isAnnotated

/-- the objects that get an interface: those that resolve the fields of an object type -/
def resolvers (es : Script.Exports) (schema : Schema) : List Script.ResolverObject :=
  es.objects.filter (isResolverObject schema)

end Script.Exports

namespace Project
variable (project : Project)

/-- a function of an object is matched with a field of the object's type -/
def isMatched (owner : String) (f : Script.Function) : Bool :=
  !f.isAnnotated && (project.facts.find? owner f.name).isSome

/-- an object without a matched function resolves the fields of a type that the artifact declares -/
def HasIdleResolver (es : Script.Exports) (a : Artifact) : Prop :=
  ∃ o ∈ es.resolvers project.schema, (∀ f ∈ o.members, project.isMatched o.name f = false) ∧
    (Analysis.rootType project.catalog o.name).Mentions a o.name

/-- the interface of an object -/
def resolverInterface (o : Script.ResolverObject) : ResolverInterface :=
  .object o.name (Analysis.rootType project.catalog o.name)
    (Analysis.objectMembers ⟨o.name, o.members.map fun f => (f.name, analyzeMember project o.name f)⟩)

theorem interfaces_analyze (es : Script.Exports) :
    (analyze project es).interfaces project.catalog =
      (es.functions.filterMap fun f => (analyzeFunction project f).signature.map (.function f.name)) ++
        (es.resolvers project.schema).map project.resolverInterface := by
  unfold Analysis.interfaces analyze
  dsimp only
  rw [List.filterMap_map, List.map_map]
  congr 1
  refine List.filterMap_congr fun f _ => ?_
  have hname : (analyzeFunction project f).fact.name = f.name := (factOf_named project none f).2
  dsimp only [Function.comp]
  rw [hname]

/-- a member of an interface has a signature if its function is matched -/
theorem isMatched_iff (owner : String) (f : Script.Function) :
    project.isMatched owner f = true ↔ ∃ s, (analyzeMember project owner f).signature = some s ∧
      (analyzeMember project owner f).fact.resolution.isInferred = true := by
  unfold isMatched analyzeMember
  cases f.isAnnotated with
  | true => simp [annotated]
  | false =>
    cases project.facts.find? owner f.name with
    | none => simp [unmatched, Resolution.isInferred]
    | some fact => simp [inferred, Resolution.isInferred]

theorem any_objectMembers (o : Script.ResolverObject) :
    (Analysis.objectMembers ⟨o.name, o.members.map fun f => (f.name, analyzeMember project o.name f)⟩).any
      (fun m => m.signature.isSome) = o.members.any (project.isMatched o.name) := by
  unfold Analysis.objectMembers
  dsimp only
  rw [List.filterMap_map, Bool.eq_iff_iff, List.any_eq_true, List.any_eq_true]
  simp only [List.mem_filterMap, isMatched_iff, Function.comp]
  constructor
  · rintro ⟨m, ⟨f, hf, hm⟩, hsome⟩
    obtain ⟨s, hs, rfl⟩ := Option.map_eq_some_iff.mp hm
    refine ⟨f, hf, s, hs, ?_⟩
    by_contra hinferred
    simp [hinferred] at hsome
  · rintro ⟨f, hf, s, hs, hinferred⟩
    refine ⟨⟨f.name, some s⟩, ⟨f, hf, ?_⟩, rfl⟩
    rw [hs, Option.map_some, if_pos hinferred]

theorem unprintedRoot?_resolverInterface (o : Script.ResolverObject) :
    (project.resolverInterface o).unprintedRoot? =
      if o.members.any (project.isMatched o.name) then none
      else some (Analysis.rootType project.catalog o.name) := by
  rw [← any_objectMembers]
  rfl

theorem rootType_refersTo_iff {catalog : DataModel.Catalog} {owner : String} {a : Artifact} :
    (Analysis.rootType catalog owner).refersTo a = true ↔
      (Analysis.rootType catalog owner).Mentions a owner := by
  unfold Analysis.rootType
  split <;> simp [TypeExpr.refersTo, TypeExpr.mentions_named]

theorem hasIdleResolver_iff {es : Script.Exports} {a : Artifact} :
    project.HasIdleResolver es a ↔ ∃ i ∈ (analyze project es).interfaces project.catalog,
      ∃ root ∈ i.unprintedRoot?, root.refersTo a = true := by
  rw [interfaces_analyze]
  constructor
  · rintro ⟨o, ho, hmembers, hroot⟩
    refine ⟨_, List.mem_append_right _ (List.mem_map_of_mem ho), _, ?_, rootType_refersTo_iff.mpr hroot⟩
    have hnone : ¬(o.members.any (project.isMatched o.name)) = true := by
      simpa using hmembers
    rw [unprintedRoot?_resolverInterface, if_neg hnone]
    rfl
  · rintro ⟨i, hi, root, hroot, href⟩
    rcases List.mem_append.mp hi with hi | hi
    · -- the interface of a function has no root
      obtain ⟨f, -, hf⟩ := List.mem_filterMap.mp hi
      obtain ⟨s, -, rfl⟩ := Option.map_eq_some_iff.mp hf
      cases hroot
    · obtain ⟨o, ho, rfl⟩ := List.mem_map.mp hi
      rw [unprintedRoot?_resolverInterface] at hroot
      split at hroot
      · cases hroot
      · next hnone =>
        cases hroot
        exact ⟨o, ho, by simpa using hnone, rootType_refersTo_iff.mp href⟩

/-- the artifacts that a declaration imports, seen from its text and from the exports of the service -/
theorem mem_usedArtifacts_analyze {es : Script.Exports} {a : Artifact} :
    a ∈ usedArtifacts ((analyze project es).interfaces project.catalog) ↔
      (∃ i ∈ (analyze project es).interfaces project.catalog, i.Prints a) ∨
        project.HasIdleResolver es a := by
  rw [hasIdleResolver_iff, mem_usedArtifacts]
  simp only [ResolverInterface.refersTo_iff, and_or_left, exists_or]

end Project

/-! ## the text of a declaration -/

/-- the line that imports an artifact -/
def importLine (settings : PathSettings) (a : Artifact) : List Char :=
  "import type * as ".toList ++ a.space ++ " from \"./".toList ++
    (importSpecifier (settings.artifactFile a)).toList ++ "\";\n".toList

/-- the text of a declaration with given imports, with its interfaces in pieces -/
def declarationChars (settings : PathSettings) (display : String) (imports : List Artifact)
    (interfaces : List ResolverInterface) : List Char :=
  (Declaration.generatedHeader ++ "\n// Service: " ++ display ++ "\n").toList ++
    ((if imports.isEmpty then [] else '\n' :: imports.flatMap (importLine settings)) ++
      interfaces.flatMap fun i => '\n' :: i.pieces.flatMap (Piece.chars none))

theorem importChars_eq (settings : PathSettings) (a : Artifact) :
    importChars settings a = importLine settings a := by
  unfold importChars importLine
  rw [TypeExpr.toList_importName]

theorem exists_eq_importLine (settings : PathSettings) (a : Artifact) :
    ∃ before, importLine settings a = before ++ ['\n'] := by
  have hend : "\";\n".toList = "\";".toList ++ ['\n'] := by decide
  refine ⟨"import type * as ".toList ++ a.space ++ " from \"./".toList ++
    (importSpecifier (settings.artifactFile a)).toList ++ "\";".toList, ?_⟩
  unfold importLine
  rw [hend, ← List.append_assoc]

theorem toList_serviceDeclaration (settings : PathSettings) (display : String)
    (is : List ResolverInterface) : (serviceDeclaration settings display is).toList =
      declarationChars settings display (usedArtifacts is) is := by
  have hempty : ((usedArtifacts is).flatMap (importLine settings)).isEmpty = (usedArtifacts is).isEmpty := by
    rw [Bool.eq_iff_iff, List.isEmpty_iff, List.isEmpty_iff, List.flatMap_eq_nil_iff]
    constructor
    · intro h
      by_contra hne
      obtain ⟨a, ha⟩ := List.exists_mem_of_ne_nil _ hne
      obtain ⟨before, hline⟩ := exists_eq_importLine settings a
      rw [h a ha] at hline
      cases before <;> cases hline
    · intro h a ha
      rw [h] at ha
      cases ha
  unfold serviceDeclaration declarationChars
  dsimp only
  rw [String.toList_append, String.toList_ofList, funext (importChars_eq settings), hempty]
  simp only [ResolverInterface.chars_eq_pieces]

/-- the import of an artifact that is used has a line of its own -/
theorem startsLine_importLine {settings : PathSettings} {display : String} {imports : List Artifact}
    {is : List ResolverInterface} {a : Artifact} (h : a ∈ imports) :
    StartsLine (importLine settings a) (declarationChars settings display imports is) := by
  obtain ⟨pre, post, rfl⟩ := List.append_of_mem h
  -- each import before it ends a line
  obtain ⟨before, hbefore⟩ : ∃ before, '\n' :: pre.flatMap (importLine settings) = before ++ ['\n'] := by
    rcases List.eq_nil_or_concat' pre with rfl | ⟨pre, b, rfl⟩
    · exact ⟨[], rfl⟩
    · obtain ⟨line, hline⟩ := exists_eq_importLine settings b
      refine ⟨'\n' :: (pre.flatMap (importLine settings) ++ line), ?_⟩
      rw [List.flatMap_append, List.flatMap_singleton, hline, List.cons_append, List.append_assoc]
  have hsome : (pre ++ a :: post).isEmpty = false := by cases pre <;> rfl
  unfold declarationChars
  rw [hsome, if_neg Bool.false_ne_true, List.flatMap_append, List.flatMap_cons, ← List.cons_append, hbefore]
  refine ⟨(Declaration.generatedHeader ++ "\n// Service: " ++ display ++ "\n").toList ++ before,
    post.flatMap (importLine settings) ++ is.flatMap fun i => '\n' :: i.pieces.flatMap (Piece.chars none), ?_⟩
  simp only [List.append_assoc, List.cons_append, List.nil_append]

/-! ## the names of the interfaces -/

namespace Project
variable (project : Project)

theorem signature_analyzeFunction (f : Script.Function) :
    (analyzeFunction project f).signature.isSome = !f.isAnnotated := by
  unfold analyzeFunction
  cases f.isAnnotated with
  | true => rfl
  | false =>
    cases resolve? project f.name with
    | none => rfl
    | some r => rfl

/-- the interfaces are named after the functions that do not tell their own types and after the objects -/
theorem nameChars_interfaces (es : Script.Exports) :
    ((analyze project es).interfaces project.catalog).map ResolverInterface.nameChars =
      es.untyped.map (fun f => ResolverInterface.pascalCase f.name.toList ++ "Resolver".toList) ++
        (es.resolvers project.schema).map fun o => o.name.toList ++ "TypeResolvers".toList := by
  rw [interfaces_analyze, List.map_append, List.map_filterMap, List.map_map]
  congr 1
  unfold Script.Exports.untyped
  rw [← List.filterMap_eq_map, List.filterMap_filter]
  refine List.filterMap_congr fun f _ => ?_
  have hsome := project.signature_analyzeFunction f
  rw [Option.map_map]
  cases hs : (analyzeFunction project f).signature with
  | none =>
    rw [hs] at hsome
    rw [← hsome]
    rfl
  | some s =>
    rw [hs] at hsome
    rw [← hsome]
    rfl

theorem functionName_ne_objectName (function object : List Char) :
    function ++ "Resolver".toList ≠ object ++ "TypeResolvers".toList := by
  have hfunction : "Resolver".toList = "Resolve".toList ++ ['r'] := by decide
  have hobject : "TypeResolvers".toList = "TypeResolver".toList ++ ['s'] := by decide
  intro h
  rw [hfunction, hobject, ← List.append_assoc, ← List.append_assoc] at h
  have hlast := (List.append_inj' h rfl).2
  exact absurd hlast (by decide)

theorem nodup_objectNames {objects : List Script.ResolverObject} (h : (objects.map (·.name)).Nodup) :
    (objects.map fun o => o.name.toList ++ "TypeResolvers".toList).Nodup := by
  rw [List.nodup_map_iff_inj_on h.of_map]
  intro o ho p hp hname
  have hsame : o.name = p.name := String.toList_inj.mp (List.append_cancel_right hname)
  exact List.inj_on_of_nodup_map h ho hp hsame

theorem nodup_functionNames_iff {functions : List Script.Function} (h : (functions.map (·.name)).Nodup) :
    (functions.map fun f => ResolverInterface.pascalCase f.name.toList ++ "Resolver".toList).Nodup ↔
      ∀ f ∈ functions, ∀ g ∈ functions, ResolverInterface.pascalCase f.name.toList =
        ResolverInterface.pascalCase g.name.toList → f.name = g.name := by
  rw [List.nodup_map_iff_inj_on h.of_map]
  constructor
  · intro hinj f hf g hg hpascal
    have hsame : f = g := hinj f hf g hg (by rw [hpascal])
    rw [hsame]
  · intro hinj f hf g hg hname
    have hsame : f.name = g.name := hinj f hf g hg (List.append_cancel_right hname)
    exact List.inj_on_of_nodup_map h hf hg hsame

/-- only functions that become one name in upper case have interfaces of one name -/
theorem nodup_nameChars_iff {es : Script.Exports} (hfunctions : (es.functions.map (·.name)).Nodup)
    (hobjects : (es.objects.map (·.name)).Nodup) :
    (((analyze project es).interfaces project.catalog).map ResolverInterface.nameChars).Nodup ↔
      ∀ f ∈ es.untyped, ∀ g ∈ es.untyped, ResolverInterface.pascalCase f.name.toList =
        ResolverInterface.pascalCase g.name.toList → f.name = g.name := by
  have huntyped : (es.untyped.map (·.name)).Nodup := hfunctions.sublist (List.filter_sublist.map _)
  have hresolvers : ((es.resolvers project.schema).map (·.name)).Nodup :=
    hobjects.sublist (List.filter_sublist.map _)
  have hapart : ∀ x ∈ es.untyped.map (fun f => ResolverInterface.pascalCase f.name.toList ++ "Resolver".toList),
      ∀ y ∈ (es.resolvers project.schema).map (fun o => o.name.toList ++ "TypeResolvers".toList), x ≠ y := by
    intro x hx y hy
    obtain ⟨f, -, rfl⟩ := List.mem_map.mp hx
    obtain ⟨o, -, rfl⟩ := List.mem_map.mp hy
    exact functionName_ne_objectName _ _
  rw [nameChars_interfaces, List.nodup_append, nodup_functionNames_iff huntyped]
  constructor
  · intro h
    exact h.1
  · intro h
    exact ⟨h, nodup_objectNames hresolvers, hapart⟩

end Project

end ResolverTypes
