import ResolverTypes.Proofs.Schema.Basic

/-!
# Kinds of types and what they hold

Every definition and every extension in a document keeps to its own kind (`Sdl.parse?_isWritten`).
An extension goes to the type of its name, though, whatever that type's kind is, so a type of a
schema keeps to its kind just when its extensions hold nothing foreign to it
(`TypeDef.fits_extendBy_iff`).
-/

namespace ResolverTypes.Schema
open Text

/-! ## extensions -/

/-- a list of its own or one of the extensions that is not empty asks for `Q` -/
theorem ne_nil_imp_iff {α : Type} {own : List α} {exts : List TypeDef} {part : TypeDef → List α}
    {Q : Prop} :
    (own ++ exts.flatMap part ≠ [] → Q) ↔ (own ≠ [] → Q) ∧ ∀ e ∈ exts, part e ≠ [] → Q := by
  simp only [Ne, List.append_eq_nil_iff, List.flatMap_eq_nil_iff]
  grind

/-- an extended type holds what the type and its extensions hold -/
theorem TypeDef.fits_extendBy_iff {t : TypeDef} {exts : List TypeDef} {kind : TypeKind} :
    (t.extendBy exts).Fits kind ↔ t.Fits kind ∧ ∀ e ∈ exts, e.Fits kind := by
  constructor
  · intro h
    have hfields := ne_nil_imp_iff.mp h.fields
    have hinterfaces := ne_nil_imp_iff.mp h.interfaces
    have hvalues := ne_nil_imp_iff.mp h.enumValues
    have hmembers := ne_nil_imp_iff.mp h.members
    exact ⟨⟨hfields.1, hinterfaces.1, hvalues.1, hmembers.1⟩, fun e he =>
      ⟨hfields.2 e he, hinterfaces.2 e he, hvalues.2 e he, hmembers.2 e he⟩⟩
  · rintro ⟨ht, hexts⟩
    exact ⟨ne_nil_imp_iff.mpr ⟨ht.fields, fun e he => (hexts e he).fields⟩,
      ne_nil_imp_iff.mpr ⟨ht.interfaces, fun e he => (hexts e he).interfaces⟩,
      ne_nil_imp_iff.mpr ⟨ht.enumValues, fun e he => (hexts e he).enumValues⟩,
      ne_nil_imp_iff.mpr ⟨ht.members, fun e he => (hexts e he).members⟩⟩

/-! ## schemas -/

/-- what the types of a schema hold, given the definitions of its document -/
structure KeepsKinds (ds : List Definition) (s : Schema) : Prop where
  /-- definitions and extensions keep to the kind they are written with -/
  written : ∀ t ∈ definedTypes ds ++ extensions ds, t.Fits t.kind
  /-- a type keeps to its kind just if its extensions do -/
  fits_iff : ∀ t ∈ s.types, t.Fits t.kind ↔ ∀ e ∈ extensionsOf ds t.name, e.Fits t.kind
  /-- extensions of the same kind are no danger -/
  matching : ∀ t ∈ s.types, (∀ e ∈ extensionsOf ds t.name, e.kind = t.kind) → t.Fits t.kind

/-- **types keep to their kinds unless extensions interfere**: for every text that is accepted as a
schema, all that is written in it fits the kind it is written with, and a type fits its own kind
exactly if all its extensions do -/
theorem parse_keepsKinds {source : String} {ds : List Definition} {s : Schema}
    (hds : Sdl.parse? source = some ds) (h : parse source = .ok s) : KeepsKinds ds s := by
  obtain ⟨-, rfl⟩ := (parse_eq_ok_iff hds).mp h
  have hwritten : ∀ t ∈ definedTypes ds ++ extensions ds, t.Fits t.kind :=
    fun t ht => (isWritten_of_mem hds ht).fits
  have hfits : ∀ t ∈ (assemble ds).types,
      t.Fits t.kind ↔ ∀ e ∈ extensionsOf ds t.name, e.Fits t.kind := by
    intro t ht
    obtain ⟨base, hbase, rfl⟩ := List.mem_map.mp ht
    have hown : base.Fits base.kind := hwritten base (List.mem_append_left _ hbase)
    exact TypeDef.fits_extendBy_iff.trans (and_iff_right hown)
  refine ⟨hwritten, hfits, fun t ht hkind => (hfits t ht).mpr fun e he => ?_⟩
  rw [← hkind e he]
  exact hwritten e (List.mem_append_right _ (mem_extensionsOf.mp he).1)

/-- an object with the fields of an interface, and an enum with those of an input -/
def borrowedText : String :=
  "type A \x7b a: Int \x7d extend interface A \x7b b: Int \x7d enum E extend input E \x7b c: Int \x7d"

def intField (name : String) : Field := ⟨name, .named "Int" true, [], none⟩

def borrowedDefinitions : List Definition :=
  [.type ⟨"A", .object, none, [intField "a"], [], [], []⟩,
    .extension ⟨"A", .interface, none, [intField "b"], [], [], []⟩,
    .type ⟨"E", .enumeration, none, [], [], [], []⟩,
    .extension ⟨"E", .inputObject, none, [intField "c"], [], [], []⟩]

def borrowedObject : TypeDef := ⟨"A", .object, none, [intField "a", intField "b"], [], [], []⟩

def borrowedEnum : TypeDef := ⟨"E", .enumeration, none, [intField "c"], [], [], []⟩

/-- the fields fit the object and not the enum -/
theorem parse_keepsKinds_borrowed :
    Sdl.parse? borrowedText = some borrowedDefinitions ∧
    parse borrowedText = .ok ⟨[borrowedObject, borrowedEnum], .none⟩ ∧
    borrowedObject.Fits .object ∧ ¬borrowedEnum.Fits .enumeration := by
  have hds : Sdl.parse? borrowedText = some borrowedDefinitions := by decide +kernel
  have hparse : parse borrowedText = .ok ⟨[borrowedObject, borrowedEnum], .none⟩ := by
    unfold parse
    rw [hds]
    decide +kernel
  have hkinds := parse_keepsKinds hds hparse
  have hobject : extensionsOf borrowedDefinitions "A" =
      [⟨"A", .interface, none, [intField "b"], [], [], []⟩] := by decide +kernel
  have henum : extensionsOf borrowedDefinitions "E" =
      [⟨"E", .inputObject, none, [intField "c"], [], [], []⟩] := by decide +kernel
  refine ⟨hds, hparse, ?_, fun hfits => ?_⟩
  · refine (hkinds.fits_iff borrowedObject List.mem_cons_self).mpr fun e he => ?_
    rw [show borrowedObject.name = "A" from rfl, hobject, List.mem_singleton] at he
    subst he
    exact ⟨fun _ => .inl rfl, fun h => absurd rfl h, fun h => absurd rfl h, fun h => absurd rfl h⟩
  · have hmem : borrowedEnum ∈ [borrowedObject, borrowedEnum] := List.mem_cons_of_mem _ List.mem_cons_self
    have hexts := (hkinds.fits_iff borrowedEnum hmem).mp hfits
    rw [show borrowedEnum.name = "E" from rfl, henum] at hexts
    have hforeign := (hexts _ List.mem_cons_self).fields (List.cons_ne_nil _ _)
    revert hforeign
    decide

/-- extensions that go to types of other kinds -/
def strayText : String :=
  "type A \x7b a: Int \x7d enum E \x7b X \x7d extend type E implements A \x7b b: Int \x7d " ++
    "extend enum A \x7b Y \x7d extend union A = E"

def strayTypes : List TypeDef :=
  [⟨"A", .object, none, [intField "a"], ["Y"], ["E"], []⟩,
    ⟨"E", .enumeration, none, [intField "b"], ["X"], [], ["A"]⟩]

/-- an object with enum values and members, and an enum with fields and interfaces -/
theorem strayExtensions_accepted :
    parse strayText = .ok ⟨strayTypes, .none⟩ ∧ ∀ t ∈ strayTypes, ¬t.Fits t.kind := by
  refine ⟨by decide +kernel, fun t ht hfits => ?_⟩
  have hvalues := hfits.enumValues
  have hfields := hfits.fields
  rcases List.mem_cons.mp ht with rfl | ht
  · exact absurd (hvalues (List.cons_ne_nil _ _)) (by decide)
  · cases List.mem_singleton.mp ht
    exact absurd (hfields (List.cons_ne_nil _ _)) (by decide)

end ResolverTypes.Schema
