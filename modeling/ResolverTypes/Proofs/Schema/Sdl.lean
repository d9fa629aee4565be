import ResolverTypes.Proofs.Text.Name
import ResolverTypes.Proofs.Text.Reader
import ResolverTypes.Schema.Sdl.Document

/-!
# What the definitions of a document are like

* `TypeDef.HasWords`    the names of types and fields are words: letters, digits and underscores;
* `TypeDef.Fits`        fields belong to objects, interfaces and inputs, interfaces to objects and
                        interfaces, values to enums, and members to unions;
* `parse?_isWritten`    every definition and every extension in a document has words for names and
                        keeps to its own kind: the grammar has no other way to write it.

The grammar is walked once, one lemma for each of its readers.
-/

namespace ResolverTypes.Schema
open Text

/-- the name of a type and the names of its fields are words -/
def TypeDef.HasWords (t : TypeDef) : Prop := IsWord t.name ∧ ∀ f ∈ t.fields, IsWord f.name

/-- all that a type holds may stand in a type of the given kind -/
structure TypeDef.Fits (t : TypeDef) (kind : TypeKind) : Prop where
  fields : t.fields ≠ [] → kind = .object ∨ kind = .interface ∨ kind = .inputObject
  interfaces : t.interfaces ≠ [] → kind = .object ∨ kind = .interface
  enumValues : t.enumValues ≠ [] → kind = .enumeration
  members : t.members ≠ [] → kind = .union

/-- a type as the grammar writes it -/
structure TypeDef.IsWritten (t : TypeDef) : Prop where
  words : t.HasWords
  fits : t.Fits t.kind

/-- definitions and extensions of types as the grammar writes them -/
def Definition.IsWritten : Definition → Prop
  | .type t | .extension t => t.IsWritten
  | .schema _ | .directive => True

namespace Sdl
open Reader

theorem gives_name : name.Gives IsWord := by
  intro cs n rest h
  change readName _ = _ at h
  obtain ⟨⟨name, rest'⟩, hname, h⟩ := Option.map_eq_some_iff.mp h
  cases h
  exact isWord_of_takeName? hname

/-! ## fields -/

theorem gives_inputValue : inputValue.Gives fun v => IsWord v.1.name := by
  refine Gives.after fun _ => Gives.bind gives_name fun n hn => ?_
  refine Gives.after fun _ => Gives.after fun _ => Gives.after fun _ => Gives.after fun _ => ?_
  exact Gives.pure hn

theorem gives_fieldDefinition : fieldDefinition.Gives fun f => IsWord f.name := by
  refine Gives.after fun _ => Gives.bind gives_name fun n hn => ?_
  refine Gives.after fun _ => Gives.after fun _ => Gives.after fun _ => Gives.after fun _ => ?_
  exact Gives.pure hn

theorem gives_fieldList : fieldList.Gives fun fs => ∀ f ∈ fs, IsWord f.name := by
  refine Gives.after fun _ => Gives.bind (Gives.many1 gives_fieldDefinition) fun fs hfs => ?_
  exact Gives.after fun _ => Gives.pure hfs

theorem gives_inputFieldList : inputFieldList.Gives fun fs => ∀ f ∈ fs, IsWord f.name := by
  refine Gives.after fun _ => Gives.bind (Gives.many1 gives_inputValue) fun vs hvs => ?_
  refine Gives.after fun _ => Gives.pure ?_
  intro f hf
  obtain ⟨v, hv, rfl⟩ := List.mem_map.mp hf
  exact hvs v hv

/-! ## types of each kind -/

section
variable {description : Option String} {n : String} {fields : List Field} {names : List String}
variable (hn : IsWord n)
include hn

theorem isWritten_scalar : (blankType .scalar description n).IsWritten where
  words := ⟨hn, List.forall_mem_nil _⟩
  fits := ⟨fun h => absurd rfl h, fun h => absurd rfl h, fun h => absurd rfl h, fun h => absurd rfl h⟩

theorem isWritten_union : { blankType .union description n with members := names }.IsWritten where
  words := ⟨hn, List.forall_mem_nil _⟩
  fits := ⟨fun h => absurd rfl h, fun h => absurd rfl h, fun h => absurd rfl h, fun _ => rfl⟩

theorem isWritten_enum :
    { blankType .enumeration description n with enumValues := names }.IsWritten where
  words := ⟨hn, List.forall_mem_nil _⟩
  fits := ⟨fun h => absurd rfl h, fun h => absurd rfl h, fun _ => rfl, fun h => absurd rfl h⟩

variable (hfields : ∀ f ∈ fields, IsWord f.name)
include hfields

theorem isWritten_object :
    { blankType .object description n with fields, interfaces := names }.IsWritten where
  words := ⟨hn, hfields⟩
  fits := ⟨fun _ => .inl rfl, fun _ => .inl rfl, fun h => absurd rfl h, fun h => absurd rfl h⟩

theorem isWritten_interface :
    { blankType .interface description n with fields, interfaces := names }.IsWritten where
  words := ⟨hn, hfields⟩
  fits := ⟨fun _ => .inr (.inl rfl), fun _ => .inr rfl, fun h => absurd rfl h, fun h => absurd rfl h⟩

theorem isWritten_input : { blankType .inputObject description n with fields }.IsWritten where
  words := ⟨hn, hfields⟩
  fits := ⟨fun _ => .inr (.inr rfl), fun h => absurd rfl h, fun h => absurd rfl h, fun h => absurd rfl h⟩

end

/-! ## definitions -/

section
variable {α : Type} {P : α → Prop} {content : Reader (List α)}

theorem gives_getD {p : Reader (List α)} (h : p.Gives fun as => ∀ a ∈ as, P a) :
    (Reader.optional p).Gives fun o => ∀ a ∈ o.getD [], P a := by
  refine (Gives.optional h).mono fun o ho a ha => ?_
  cases o with
  | none => cases ha
  | some as => exact ho as rfl a ha

theorem gives_definitionBody (h : content.Gives fun as => ∀ a ∈ as, P a) :
    (definitionBody content).Gives fun as => ∀ a ∈ as, P a :=
  Gives.after fun _ => Gives.bind (gives_getD h) fun _ ho => Gives.pure ho

theorem gives_extensionBody (h : content.Gives fun as => ∀ a ∈ as, P a) :
    (extensionBody content).Gives fun as => ∀ a ∈ as, P a := by
  refine Gives.orElse (Gives.after fun _ => h) ?_
  exact Gives.after fun _ => Gives.pure (List.forall_mem_nil P)

end

theorem gives_definitionHead (keyword : String) :
    (definitionHead keyword).Gives fun head => IsWord head.2 :=
  Gives.after fun _ => Gives.after fun _ => Gives.bind gives_name fun _ hn => Gives.pure hn

theorem gives_extensionHead (keyword : String) : (extensionHead keyword).Gives IsWord :=
  Gives.after fun _ => Gives.after fun _ => gives_name

theorem gives_scalarType : scalarType.Gives Definition.IsWritten := by
  refine Gives.orElse ?_ ?_
  · refine Gives.bind (gives_definitionHead _) fun head hn => ?_
    exact Gives.after fun _ => Gives.pure (isWritten_scalar hn)
  · refine Gives.bind (gives_extensionHead _) fun n hn => ?_
    exact Gives.after fun _ => Gives.pure (isWritten_scalar hn)

theorem gives_objectType : objectType.Gives Definition.IsWritten := by
  refine Gives.orElse ?_ ?_
  · refine Gives.bind (gives_definitionHead _) fun head hn => Gives.after fun _ => ?_
    refine Gives.bind (gives_definitionBody gives_fieldList) fun fs hfs => ?_
    exact Gives.pure (isWritten_object hn hfs)
  · refine Gives.bind (gives_extensionHead _) fun n hn => Gives.orElse ?_ ?_
    · refine Gives.after fun _ => Gives.bind (gives_extensionBody gives_fieldList) fun fs hfs => ?_
      exact Gives.pure (isWritten_object hn hfs)
    · exact Gives.after fun _ => Gives.pure (isWritten_object hn (List.forall_mem_nil _))

theorem gives_interfaceType : interfaceType.Gives Definition.IsWritten := by
  refine Gives.orElse ?_ ?_
  · refine Gives.bind (gives_definitionHead _) fun head hn => Gives.after fun _ => ?_
    refine Gives.bind (gives_definitionBody gives_fieldList) fun fs hfs => ?_
    exact Gives.pure (isWritten_interface hn hfs)
  · refine Gives.bind (gives_extensionHead _) fun n hn => Gives.after fun _ => ?_
    refine Gives.bind (gives_extensionBody gives_fieldList) fun fs hfs => ?_
    exact Gives.pure (isWritten_interface hn hfs)

theorem gives_unionType : unionType.Gives Definition.IsWritten := by
  refine Gives.orElse ?_ ?_
  · refine Gives.bind (gives_definitionHead _) fun head hn => ?_
    exact Gives.after fun _ => Gives.pure (isWritten_union hn)
  · refine Gives.bind (gives_extensionHead _) fun n hn => ?_
    exact Gives.after fun _ => Gives.pure (isWritten_union hn)

theorem gives_enumType : enumType.Gives Definition.IsWritten := by
  refine Gives.orElse ?_ ?_
  · refine Gives.bind (gives_definitionHead _) fun head hn => ?_
    exact Gives.after fun _ => Gives.pure (isWritten_enum hn)
  · refine Gives.bind (gives_extensionHead _) fun n hn => ?_
    exact Gives.after fun _ => Gives.pure (isWritten_enum hn)

theorem gives_inputType : inputType.Gives Definition.IsWritten := by
  refine Gives.orElse ?_ ?_
  · refine Gives.bind (gives_definitionHead _) fun head hn => ?_
    refine Gives.bind (gives_definitionBody gives_inputFieldList) fun fs hfs => ?_
    exact Gives.pure (isWritten_input hn hfs)
  · refine Gives.bind (gives_extensionHead _) fun n hn => ?_
    refine Gives.bind (gives_extensionBody gives_inputFieldList) fun fs hfs => ?_
    exact Gives.pure (isWritten_input hn hfs)

theorem gives_schemaBlock : schemaBlock.Gives Definition.IsWritten := by
  refine Gives.orElse ?_ (Gives.after fun _ => Gives.after fun _ => Gives.orElse ?_ ?_)
  · refine Gives.after fun _ => Gives.after fun _ => Gives.after fun roots => ?_
    split
    · exact Gives.fail
    · exact Gives.pure trivial
  · exact Gives.after fun _ => Gives.after fun _ => Gives.pure trivial
  · exact Gives.after fun _ => Gives.pure trivial

theorem gives_directiveDefinition : directiveDefinition.Gives Definition.IsWritten := by
  refine Gives.after fun _ => Gives.after fun _ => Gives.after fun _ => Gives.after fun _ => ?_
  refine Gives.after fun _ => Gives.after fun _ => Gives.after fun _ => Gives.after fun _ => ?_
  exact Gives.after fun _ => Gives.after fun _ => Gives.pure trivial

theorem gives_definition : definition.Gives Definition.IsWritten :=
  gives_schemaBlock.orElse <| gives_scalarType.orElse <| gives_objectType.orElse <|
    gives_interfaceType.orElse <| gives_unionType.orElse <| gives_enumType.orElse <|
    gives_inputType.orElse gives_directiveDefinition

theorem parse?_isWritten {source : String} {definitions : List Definition}
    (h : parse? source = some definitions) : ∀ d ∈ definitions, d.IsWritten := by
  have hdoc : document.Gives fun ds => ∀ d ∈ ds, d.IsWritten :=
    Gives.bind (Gives.many1 gives_definition) fun ds hds => Gives.after fun _ => Gives.pure hds
  obtain ⟨⟨ds, rest⟩, hds, rfl⟩ := Option.map_eq_some_iff.mp h
  exact hdoc _ _ _ hds

end Sdl

end ResolverTypes.Schema
