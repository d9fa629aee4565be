import ResolverTypes.Proofs.Reference
import ResolverTypes.Proofs.Schema.Basic

/-!
# What the references of a schema lead to

Fields, arguments, unions and lists of interfaces refer to types by name, in definitions and in
extensions.  A document gives a schema only if all these names are built in or defined
(`type?_of_refersTo`), so a name never stands for the unknown type because nobody defines it:

* `namedType_of_reference`     a reference stands for the unknown type exactly if it leads to a scalar
                               without a type text or to a root type;
* `unionMember_declared_iff`   a member of a printed union is declared next to it exactly if it is not
                               skipped there, as root types with fields and built-in scalars are.

Fields are printed with the type that a name stands for, and that type is never a skipped one.  The
members of a union are printed by their names, so a union can name types that nobody declares
(`unionMember_undeclared`).
-/

namespace ResolverTypes.Schema

/-! ## references -/

/-- a name by which a type refers to another one -/
inductive TypeDef.RefersTo (t : TypeDef) : String → Prop where
  | field {f : Field} (hf : f ∈ t.fields) : RefersTo t f.type.baseName
  | argument {f : Field} (hf : f ∈ t.fields) {a : Argument} (ha : a ∈ f.arguments) :
      RefersTo t a.type.baseName
  | member {name : String} (h : name ∈ t.members) : RefersTo t name
  | interface {name : String} (h : name ∈ t.interfaces) : RefersTo t name

theorem TypeDef.RefersOnlyTo.of_refersTo {P : String → Prop} {t : TypeDef} (h : t.RefersOnlyTo P)
    {name : String} (hname : t.RefersTo name) : P name := by
  cases hname with
  | field hf => exact h.fields _ hf
  | argument hf ha => exact h.arguments _ hf _ ha
  | member hm => exact h.members _ hm
  | interface hi => exact h.interfaces _ hi

theorem isBuiltin_eq_false_iff {name : String} : isBuiltin name = false ↔ name ∉ builtinScalars := by
  rw [Bool.eq_false_iff, Ne, isBuiltin, List.contains_iff_mem]

theorem isRoot_iff {s : Schema} {name : String} : s.isRoot name = true ↔ name ∈ s.rootNames := by
  rw [isRoot, List.contains_iff_mem]

theorem type?_isSome_iff {s : Schema} {name : String} :
    (s.type? name).isSome = true ↔ name ∈ s.types.map (·.name) := by
  simp [type?, findType?, List.find?_isSome]

/-- of types with distinct names, those of a name are the one that a look-up finds -/
theorem exists_type_iff {s : Schema} (h : (s.types.map (·.name)).Nodup) {name : String} {t : TypeDef}
    (ht : s.type? name = some t) {P : TypeDef → Prop} :
    (∃ u ∈ s.types, u.name = name ∧ P u) ↔ P t := by
  constructor
  · rintro ⟨u, hu, rfl, hP⟩
    rw [type?_of_mem h hu] at ht
    cases ht
    exact hP
  · intro hP
    obtain ⟨hmem, hname⟩ := mem_of_type? ht
    exact ⟨t, hmem, hname, hP⟩

section
variable {source : String} {ds : List Definition} {s : Schema}

/-- a reference that is not built in leads to a type -/
theorem type?_of_refersTo (hds : Sdl.parse? source = some ds) (hs : parse source = .ok s)
    {d : TypeDef} (hd : d ∈ definedTypes ds ++ extensions ds) {name : String} (hname : d.RefersTo name)
    (hbuiltin : isBuiltin name = false) : ∃ t, s.type? name = some t := by
  obtain ⟨hconsistent, rfl⟩ := (parse_eq_ok_iff hds).mp hs
  rcases (hconsistent.known d hd).of_refersTo hname with h | h
  · rw [h] at hbuiltin
    cases hbuiltin
  · rw [← names_assemble, ← type?_isSome_iff] at h
    exact Option.isSome_iff_exists.mp h

end

/-! ## the type of a name -/

theorem builtinTypeExpr?_eq_none_iff (name : String) :
    builtinTypeExpr? name = none ↔ isBuiltin name = false := by
  unfold builtinTypeExpr? isBuiltin builtinScalars
  split <;> simp_all

theorem builtinTypeExpr?_ne_unknown (name : String) : builtinTypeExpr? name ≠ some .unknown := by
  unfold builtinTypeExpr?
  split <;> simp

theorem namedType_eq_unknown_iff {s : Schema} {name : String} {t : TypeDef} (scalars : ScalarMap)
    (ht : s.type? name = some t) :
    s.namedType scalars name = .unknown ↔
      isBuiltin name = false ∧ ((t.kind = .scalar ∧ scalars.get? name = none) ∨
        (s.isRoot name = true ∧ t.kind ≠ .enumeration ∧ t.kind ≠ .scalar)) := by
  unfold namedType
  cases hb : builtinTypeExpr? name with
  | some b =>
    have hne : b ≠ .unknown := by
      rintro rfl
      exact builtinTypeExpr?_ne_unknown name hb
    have hbuiltin : isBuiltin name ≠ false := by
      rw [Ne, ← builtinTypeExpr?_eq_none_iff, hb]
      nofun
    simp [hne, hbuiltin]
  | none =>
    rw [(builtinTypeExpr?_eq_none_iff name).mp hb, ht]
    dsimp only
    cases t.kind with
    | enumeration => simp
    | scalar => cases scalars.get? name <;> simp
    | object | interface | union | inputObject => cases s.isRoot name <;> simp

/-- **what is unknown is so on purpose**: no reference of a document, extensions included, is left
without a type, and it stands for the unknown type only if it leads to a scalar without a type text or
to a root type -/
theorem namedType_of_reference {source : String} {ds : List Definition} {s : Schema}
    (hds : Sdl.parse? source = some ds) (hs : parse source = .ok s) (scalars : ScalarMap)
    {d : TypeDef} (hd : d ∈ definedTypes ds ++ extensions ds) {name : String} (hname : d.RefersTo name) :
    ¬(builtinTypeExpr? name = none ∧ s.type? name = none) ∧
    (s.namedType scalars name = .unknown ↔
      name ∉ builtinScalars ∧
        ((∃ t ∈ s.types, t.name = name ∧ t.kind = .scalar ∧ scalars.get? name = none) ∨
          (name ∈ s.rootNames ∧
            ∃ t ∈ s.types, t.name = name ∧ t.kind ≠ .enumeration ∧ t.kind ≠ .scalar))) := by
  have hnodup := parse_types_nodup hs
  rw [builtinTypeExpr?_eq_none_iff, ← isBuiltin_eq_false_iff, ← isRoot_iff]
  cases hbuiltin : isBuiltin name with
  | true =>
    have hknown : s.namedType scalars name ≠ .unknown := by
      unfold namedType
      cases hb : builtinTypeExpr? name with
      | none =>
        rw [builtinTypeExpr?_eq_none_iff, hbuiltin] at hb
        cases hb
      | some b =>
        rintro rfl
        exact builtinTypeExpr?_ne_unknown name hb
    simp [hknown]
  | false =>
    obtain ⟨t, ht⟩ := type?_of_refersTo hds hs hd hname hbuiltin
    rw [namedType_eq_unknown_iff scalars ht, exists_type_iff hnodup ht, exists_type_iff hnodup ht,
      hbuiltin, ht]
    exact ⟨nofun, Iff.rfl⟩

/-- an extension that refers to two scalars, an enum and the query type -/
def ledgerSource : String :=
  "scalar D scalar E enum Q\x7bA\x7d type A extend type A\x7bf(x:D):E q:Q r:R\x7d type R " ++
    "schema\x7bquery:R\x7d"

def ledgerArgument : Argument := ⟨"x", .named "D" true, false⟩

def ledgerField : Field := ⟨"f", .named "E" true, [ledgerArgument], none⟩

def ledgerRoot : Field := ⟨"r", .named "R" true, [], none⟩

def ledgerFields : List Field := [ledgerField, ⟨"q", .named "Q" true, [], none⟩, ledgerRoot]

def ledgerObject (fields : List Field) : TypeDef := ⟨"A", .object, none, fields, [], [], []⟩

def ledgerDefinitions : List Definition :=
  [.type ⟨"D", .scalar, none, [], [], [], []⟩, .type ⟨"E", .scalar, none, [], [], [], []⟩,
    .type ⟨"Q", .enumeration, none, [], ["A"], [], []⟩, .type (ledgerObject []),
    .extension (ledgerObject ledgerFields), .type ⟨"R", .object, none, [], [], [], []⟩,
    .schema ⟨some "R", none, none⟩]

def ledgerSchema : Schema :=
  ⟨[⟨"D", .scalar, none, [], [], [], []⟩, ⟨"E", .scalar, none, [], [], [], []⟩,
    ⟨"Q", .enumeration, none, [], ["A"], [], []⟩, ledgerObject ledgerFields,
    ⟨"R", .object, none, [], [], [], []⟩], ⟨some "R", none, none⟩⟩

/-- of the two scalars only one has a type text -/
def ledgerScalars : ScalarMap := Table.empty.insert "E" "Date"

theorem namedType_of_reference_ledger :
    Sdl.parse? ledgerSource = some ledgerDefinitions ∧ parse ledgerSource = .ok ledgerSchema ∧
    ledgerSchema.namedType ledgerScalars "D" = .unknown ∧
    ledgerSchema.namedType ledgerScalars "E" ≠ .unknown ∧
    ledgerSchema.namedType ledgerScalars "R" = .unknown := by
  have hds : Sdl.parse? ledgerSource = some ledgerDefinitions := by decide +kernel
  have hs : parse ledgerSource = .ok ledgerSchema := by decide +kernel
  have hd : ledgerObject ledgerFields ∈ definedTypes ledgerDefinitions ++ extensions ledgerDefinitions := by
    decide +kernel
  have hfield : ledgerField ∈ ledgerFields := by decide
  have hroot : ledgerRoot ∈ ledgerFields := by decide
  have hargument : ledgerArgument ∈ ledgerField.arguments := by decide
  obtain ⟨-, hscalar⟩ := namedType_of_reference hds hs ledgerScalars hd (.argument hfield hargument)
  obtain ⟨-, hmapped⟩ := namedType_of_reference hds hs ledgerScalars hd (.field hfield)
  obtain ⟨-, hquery⟩ := namedType_of_reference hds hs ledgerScalars hd (.field hroot)
  refine ⟨hds, hs, hscalar.mpr ?_, fun h => absurd (hmapped.mp h) ?_, hquery.mpr ?_⟩
  · decide +kernel
  · decide +kernel
  · decide +kernel

/-! ## members of unions -/

section
variable {s : Schema} {scalars : ScalarMap}

theorem declaration?_eq_none_iff {t : TypeDef} :
    s.declaration? scalars t = none ↔
      (t.kind.hasFields = true ∧ s.isRoot t.name = true) ∨
        (t.kind = .scalar ∧ isBuiltin t.name = true) := by
  unfold declaration?
  cases t.kind with
  | object | interface | inputObject => cases s.isRoot t.name <;> simp [TypeKind.hasFields]
  | enumeration | union => simp [TypeKind.hasFields]
  | scalar => cases isBuiltin t.name <;> simp [TypeKind.hasFields]

/-- a declaration has the name of its type, and only a union prints plain names: its members -/
theorem of_declaration?_eq_some {t : TypeDef} {d : Declaration}
    (h : s.declaration? scalars t = some d) :
    d.name = t.name ∧
      ∀ doc name members, d = .alias doc name (.union members) → t.members = members := by
  unfold declaration? at h
  split at h
  · split at h <;> cases h
    exact ⟨rfl, by simp⟩
  · split at h <;> cases h
    exact ⟨rfl, by simp⟩
  · split at h <;> cases h
    exact ⟨rfl, by simp⟩
  · cases h
    exact ⟨rfl, by simp⟩
  · cases h
    refine ⟨rfl, ?_⟩
    rintro doc name members ⟨⟩
    rfl
  · split at h <;> cases h
    exact ⟨rfl, by simp⟩

variable (s) in
/-- a type without a declaration: a root type with fields, or a built-in scalar that no type of another
kind takes the name of -/
def IsSkipped (name : String) : Prop :=
  (name ∈ s.rootNames ∧ ∃ t ∈ s.types, t.name = name ∧ t.kind.hasFields = true) ∨
    (name ∈ builtinScalars ∧ ∀ t ∈ s.types, t.name = name → t.kind = .scalar)

theorem exists_declaration_iff (h : (s.types.map (·.name)).Nodup) {name : String} :
    (∃ d ∈ s.declarations scalars, d.name = name) ↔
      ∃ t, s.type? name = some t ∧ s.declaration? scalars t ≠ none := by
  constructor
  · rintro ⟨d, hd, rfl⟩
    obtain ⟨t, ht, hdecl⟩ := List.mem_filterMap.mp hd
    rw [(of_declaration?_eq_some hdecl).1]
    exact ⟨t, type?_of_mem h ht, by rw [hdecl]; nofun⟩
  · rintro ⟨t, ht, hne⟩
    obtain ⟨d, hdecl⟩ := Option.ne_none_iff_exists'.mp hne
    obtain ⟨hmem, hname⟩ := mem_of_type? ht
    exact ⟨d, List.mem_filterMap.mpr ⟨t, hmem, hdecl⟩, (of_declaration?_eq_some hdecl).1.trans hname⟩

/-- a name that is built in or defined is declared unless it is skipped -/
theorem declared_iff_not_isSkipped (h : (s.types.map (·.name)).Nodup) {name : String}
    (hknown : isBuiltin name = true ∨ name ∈ s.types.map (·.name)) :
    (∃ d ∈ s.declarations scalars, d.name = name) ↔ ¬s.IsSkipped name := by
  rw [exists_declaration_iff h]
  unfold IsSkipped
  cases ht : s.type? name with
  | none =>
    have hno : name ∉ s.types.map (·.name) := by
      rw [← type?_isSome_iff, ht]
      nofun
    have hbuiltin : name ∈ builtinScalars := List.contains_iff_mem.mp (hknown.resolve_right hno)
    have hall : ∀ t ∈ s.types, t.name = name → t.kind = .scalar := fun t htype hname =>
      absurd (List.mem_map.mpr ⟨t, htype, hname⟩) hno
    exact ⟨nofun, fun hnot => absurd (.inr ⟨hbuiltin, hall⟩) hnot⟩
  | some t =>
    obtain ⟨hmem, rfl⟩ := mem_of_type? ht
    have hall : (∀ u ∈ s.types, u.name = t.name → u.kind = .scalar) ↔ t.kind = .scalar := by
      refine ⟨fun hall => hall t hmem rfl, fun hkind u hu hname => ?_⟩
      rwa [List.inj_on_of_nodup_map h hu hmem hname]
    rw [exists_type_iff h ht, hall]
    simp only [Option.some.injEq, exists_eq_left', Ne, declaration?_eq_none_iff, isRoot_iff, isBuiltin,
      List.contains_iff_mem, and_comm]

end

/-- **which members of a union are declared**: each of them that is not skipped, by an exported line of
the artifact that prints the union -/
theorem unionMember_declared_iff {source : String} {s : Schema} (hs : parse source = .ok s)
    (scalars : ScalarMap) {doc : Option String} {union : String} {members : List String}
    (hunion : .alias doc union (.union members) ∈ s.declarations scalars) {name : String}
    (hname : name ∈ members) :
    (∃ d ∈ s.declarations scalars, d.name = name ∧ ∀ label,
      d.chars .returnTypes <:+: (s.returnTypes scalars label).toList ∧
        Declaration.Exports (s.returnTypes scalars label).toList name) ↔ ¬s.IsSkipped name := by
  have hprinted : ∀ d ∈ s.declarations scalars, ∀ label,
      d.chars .returnTypes <:+: (s.returnTypes scalars label).toList ∧
        Declaration.Exports (s.returnTypes scalars label).toList d.name :=
    fun d hd label => ⟨Declaration.chars_infix_artifactText hd _ label,
      Declaration.exports_of_head (Declaration.startsLine_artifactText hd _ label)⟩
  obtain ⟨t, ht, hdecl⟩ := List.mem_filterMap.mp hunion
  have hmember : t.RefersTo name := .member (by rwa [(of_declaration?_eq_some hdecl).2 _ _ _ rfl])
  -- the members are among the checked references
  obtain ⟨ds, -, hds, rfl⟩ := definitions_of_parse hs
  have hknown := (refersOnlyTo_assemble hds.extended).mpr hds.known t ht
  rw [← names_assemble] at hknown
  rw [← declared_iff_not_isSkipped (parse_types_nodup hs) (hknown.of_refersTo hmember)]
  constructor
  · rintro ⟨d, hd, hname, -⟩
    exact ⟨d, hd, hname⟩
  · rintro ⟨d, hd, rfl⟩
    exact ⟨d, hd, rfl, hprinted d hd⟩

/-- a union of a type that is declared and two that are not -/
def mixedSource : String := "type Query\x7ba:U\x7d union U=A|Query|ID type A"

def mixedSchema : Schema :=
  ⟨[⟨"Query", .object, none, [⟨"a", .named "U" true, [], none⟩], [], [], []⟩,
    ⟨"U", .union, none, [], [], ["A", "Query", "ID"], []⟩, ⟨"A", .object, none, [], [], [], []⟩],
    ⟨some "Query", none, none⟩⟩

def mixedUnion : Declaration := .alias none "U" (.union ["A", "Query", "ID"])

theorem unionMember_declared_iff_mixed :
    parse mixedSource = .ok mixedSchema ∧ mixedUnion ∈ mixedSchema.declarations .empty ∧
    ∃ d ∈ mixedSchema.declarations .empty, d.name = "A" ∧ ∀ label,
      d.chars .returnTypes <:+: (mixedSchema.returnTypes .empty label).toList ∧
        Declaration.Exports (mixedSchema.returnTypes .empty label).toList "A" := by
  have hs : parse mixedSource = .ok mixedSchema := by decide +kernel
  have hunion : mixedUnion ∈ mixedSchema.declarations .empty := by decide +kernel
  have hmember : "A" ∈ ["A", "Query", "ID"] := by decide
  refine ⟨hs, hunion, (unionMember_declared_iff hs .empty hunion hmember).mpr ?_⟩
  unfold IsSkipped
  decide +kernel

/-- the query type and a built-in scalar are printed as members and declared nowhere -/
theorem unionMember_undeclared :
    parse mixedSource = .ok mixedSchema ∧ mixedUnion ∈ mixedSchema.declarations .empty ∧
    (¬∃ d ∈ mixedSchema.declarations .empty, d.name = "Query") ∧
    (¬∃ d ∈ mixedSchema.declarations .empty, d.name = "ID") ∧
    mixedSchema.returnTypes .empty "s" = Declaration.generatedHeader ++
      "\n// Source: s\n\nexport type U = A | Query | ID;\n\nexport interface A \x7b\n\x7d\n" := by
  decide +kernel

end ResolverTypes.Schema
