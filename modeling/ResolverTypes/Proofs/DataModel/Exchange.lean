import ResolverTypes.Proofs.DataModel.FieldText
import ResolverTypes.Proofs.DataModel.Reading

/-!
# Exchanging the attributes of a field

Two schema texts that differ only in the attributes of one field line are read alike: the states of the
reader differ in the attributes of the field on that line (`ReaderState.withAttributes`), which a step on
any other line keeps so (`step_withAttributes`).  So either both texts give a catalog or none does
(`exists_catalog_exchange`).
-/

namespace ResolverTypes.DataModel
open Text

def FieldDecl.withAttributes (n : Nat) (attrs : List Attribute) (d : FieldDecl) : FieldDecl :=
  if d.line = n then { d with attributes := attrs } else d

def Property.withAttributes (n : Nat) (attrs : List Attribute) : Property → Property
  | .field d => .field (d.withAttributes n attrs)
  | .value d => .value d
  | .blockAttribute a => .blockAttribute a
  | .assignment key text => .assignment key text

def Block.withAttributes (n : Nat) (attrs : List Attribute) (b : Block) : Block :=
  { b with properties := b.properties.map (Property.withAttributes n attrs) }

def ReaderState.withAttributes (n : Nat) (attrs : List Attribute) (s : ReaderState) : ReaderState :=
  ⟨s.done.map (Block.withAttributes n attrs), s.current.map (Block.withAttributes n attrs), s.docs⟩

section
variable {n : Nat} {attrs : List Attribute}

theorem Property.withAttributes_of_ne {p : Property} (h : ∀ m ∈ p.line?, m ≠ n) :
    p.withAttributes n attrs = p := by
  cases p with
  | field d =>
    have hd : d.withAttributes n attrs = d := if_neg (h d.line rfl)
    rw [Property.withAttributes, hd]
  | value d => rfl
  | blockAttribute a => rfl
  | assignment key text => rfl

theorem FieldText.withAttributes_decl (f : FieldText) (as bs : AttributeList) (docs : Option String) :
    (f.decl as docs n).withAttributes n bs.attributes = f.decl bs docs n :=
  if_pos rfl

/-! ## reading -/

namespace ReaderState

theorem step_withAttributes {line : Nat} (h : line ≠ n) (s : ReaderState) (raw : List Char) :
    (s.withAttributes n attrs).step line raw = (s.step line raw).map (withAttributes n attrs) := by
  obtain ⟨done, current, docs⟩ := s
  unfold step
  cases lineShape raw with
  | doc text => rfl
  | blank => rfl
  | close =>
    cases current with
    | none => rfl
    | some b => simp [withAttributes, Except.map]
  | content cs =>
    cases current with
    | some b =>
      dsimp only [withAttributes, Option.map_some]
      rw [show (b.withAttributes n attrs).kind = b.kind from rfl]
      cases hp : readProperty b.kind cs line (joinDocs docs) with
      | error fault => rfl
      | ok p =>
        have hline : ∀ m ∈ p.line?, m ≠ n := by
          intro m hm
          rw [(of_readProperty hp m hm).1]
          exact h
        simp [Block.withAttributes, Property.withAttributes_of_ne hline, Except.map, withAttributes]
    | none =>
      dsimp only [withAttributes, Option.map_none]
      cases readHeader? cs with
      | none => rfl
      | some header =>
        dsimp only
        split <;> simp [Block.withAttributes, Except.map, withAttributes]

theorem run_withAttributes {line : Nat} {raws : List (List Char)}
    (h : n < line ∨ line + raws.length ≤ n) (s : ReaderState) :
    (s.withAttributes n attrs).run line raws = (s.run line raws).map (withAttributes n attrs) := by
  induction raws generalizing s line with
  | nil => rfl
  | cons raw raws ih =>
    rw [List.length_cons] at h
    have hline : line ≠ n := by omega
    have hrest : n < line + 1 ∨ line + 1 + raws.length ≤ n := by omega
    unfold run
    rw [step_withAttributes hline]
    cases s.step line raw with
    | error e => rfl
    | ok t => exact ih hrest t

theorem finish_withAttributes (s : ReaderState) :
    (s.withAttributes n attrs).finish.toOption =
      s.finish.toOption.map (List.map (Block.withAttributes n attrs)) := by
  obtain ⟨done, current, docs⟩ := s
  cases current <;> rfl

theorem run_append_error {s : ReaderState} {line : Nat} {xs : List (List Char)} {e : Error}
    (h : s.run line xs = .error e) (ys : List (List Char)) : s.run line (xs ++ ys) = .error e := by
  induction xs generalizing s line with
  | nil => cases h
  | cons x xs ih =>
    unfold run at h
    rw [List.cons_append, run]
    cases hstep : s.step line x with
    | error e' =>
      rw [hstep] at h
      exact h
    | ok t =>
      rw [hstep] at h
      exact ih h

theorem run_cons_toOption (s : ReaderState) (line : Nat) (raw : List Char) (raws : List (List Char)) :
    (s.run line (raw :: raws)).toOption =
      (s.step line raw).toOption.bind fun t => (t.run (line + 1) raws).toOption := by
  rw [run]
  cases s.step line raw <;> rfl

end ReaderState

end

section
variable (f : FieldText) (as bs : AttributeList) (above below : List (List Char))

theorem run_exchange :
    (ReaderState.start.run 1 (above ++ f.chars bs :: below)).toOption =
      (ReaderState.start.run 1 (above ++ f.chars as :: below)).toOption.map
        (ReaderState.withAttributes (1 + above.length) bs.attributes) := by
  cases habove : ReaderState.start.run 1 above with
  | error e => rw [ReaderState.run_append_error habove, ReaderState.run_append_error habove]; rfl
  | ok s =>
    -- above the line nothing is exchanged
    have hs : s.withAttributes (1 + above.length) bs.attributes = s := by
      have hrun : (ReaderState.start.withAttributes (1 + above.length) bs.attributes).run 1 above =
          (ReaderState.start.run 1 above).map (.withAttributes (1 + above.length) bs.attributes) :=
        ReaderState.run_withAttributes (.inr (Nat.le_refl _)) _
      have hstart : ReaderState.start.withAttributes (1 + above.length) bs.attributes =
          ReaderState.start := rfl
      rw [hstart, habove] at hrun
      exact (Except.ok.inj hrun).symm
    rw [ReaderState.run_append habove, ReaderState.run_append habove, ReaderState.run_cons_toOption,
      ReaderState.run_cons_toOption, f.step_chars as, f.step_chars bs]
    cases hmodel : s.current.filter Block.isModel with
    | none => rfl
    | some b =>
      have hcurrent : s.current = some b := (Option.filter_eq_some_iff.mp hmodel).1
      obtain ⟨done, current, docs⟩ := s
      obtain ⟨hdone, hb, -⟩ := ReaderState.mk.inj hs
      subst hcurrent
      have hprops : b.properties.map (Property.withAttributes (1 + above.length) bs.attributes) =
          b.properties := congrArg Block.properties (Option.some.inj hb)
      have hexchange : ReaderState.withAttributes (1 + above.length) bs.attributes
          ⟨done, some { b with properties :=
            b.properties ++ [.field (f.decl as (joinDocs docs) (1 + above.length))] }, []⟩ =
          ⟨done, some { b with properties :=
            b.properties ++ [.field (f.decl bs (joinDocs docs) (1 + above.length))] }, []⟩ := by
        simp only [ReaderState.withAttributes, Block.withAttributes, Option.map_some, List.map_append,
          List.map_cons, List.map_nil, Property.withAttributes, hprops, hdone, f.withAttributes_decl]
      rw [Option.map_some, Option.map_some, Option.bind_some, Option.bind_some, ← hexchange,
        ReaderState.run_withAttributes (.inl (Nat.lt_succ_self _))]
      exact toOption_map _ _

end

theorem parse_toOption (source : String) :
    (parse source).toOption = (ReaderState.start.run 1 (lines source.toList)).toOption.bind fun s =>
      s.finish.toOption := by
  rw [parse_eq]
  cases ReaderState.start.run 1 (lines source.toList) <;> rfl

section
variable {source text : String} {f : FieldText} {as bs : AttributeList} {above below : List (List Char)}

theorem parse_exchange (hsource : lines source.toList = above ++ f.chars as :: below)
    (htext : lines text.toList = above ++ f.chars bs :: below) : (parse text).toOption =
    (parse source).toOption.map (List.map (Block.withAttributes (1 + above.length) bs.attributes)) := by
  rw [parse_toOption, parse_toOption, htext, hsource, run_exchange f as bs]
  cases (ReaderState.start.run 1 (above ++ f.chars as :: below)).toOption with
  | none => rfl
  | some s => exact s.finish_withAttributes

end

/-! ## catalogs -/

section
variable (n : Nat) (attrs : List Attribute)

theorem FieldDecl.name_withAttributes (d : FieldDecl) : (d.withAttributes n attrs).name = d.name := by
  unfold withAttributes
  split <;> rfl

theorem FieldDecl.type_withAttributes (d : FieldDecl) : (d.withAttributes n attrs).type = d.type := by
  unfold withAttributes
  split <;> rfl

theorem Block.fields_withAttributes (b : Block) :
    (b.withAttributes n attrs).fields = b.fields.map (FieldDecl.withAttributes n attrs) := by
  have hfield : ∀ p : Property, (p.withAttributes n attrs).field? =
      p.field?.map (FieldDecl.withAttributes n attrs) := by
    intro p
    cases p <;> rfl
  unfold fields withAttributes
  rw [List.filterMap_map, List.map_filterMap]
  exact List.filterMap_congr fun p _ => hfield p

theorem acceptable_withAttributes (bs : List Block) :
    Acceptable (bs.map (Block.withAttributes n attrs)) ↔ Acceptable bs := by
  have hparts : ∀ bs, Acceptable bs ↔ (∀ b ∈ bs, b.name ≠ none) ∧ (declaredNames bs).Nodup ∧
      (∀ b ∈ bs, b.isModel = true → (b.fields.map (·.name)).Nodup) ∧
      ∀ b ∈ bs, b.isModel = true → ∀ d ∈ b.fields, d.HasScalarType ∨ d.IsDeclaredIn bs :=
    fun bs => ⟨fun h => ⟨h.named, h.names, h.fields, h.types⟩, fun ⟨h₁, h₂, h₃, h₄⟩ => ⟨h₁, h₂, h₃, h₄⟩⟩
  have hkind : ∀ b : Block, (b.withAttributes n attrs).kind = b.kind := fun _ => rfl
  have hname : ∀ b : Block, (b.withAttributes n attrs).name = b.name := fun _ => rfl
  have hmodel : ∀ b : Block, (b.withAttributes n attrs).isModel = b.isModel := fun _ => rfl
  have hnames : declaredNames (bs.map (Block.withAttributes n attrs)) = declaredNames bs := by
    unfold declaredNames
    rw [List.filterMap_map]
    rfl
  have hdeclared : ∀ d : FieldDecl, (d.withAttributes n attrs).IsDeclaredIn
      (bs.map (Block.withAttributes n attrs)) ↔ d.IsDeclaredIn bs := by
    intro d
    simp [FieldDecl.IsDeclaredIn, hkind, hname, FieldDecl.type_withAttributes]
  have hscalar : ∀ d : FieldDecl, (d.withAttributes n attrs).HasScalarType ↔ d.HasScalarType := by
    intro d
    rw [FieldDecl.HasScalarType, FieldDecl.type_withAttributes]
    rfl
  rw [hparts, hparts, hnames]
  simp only [List.forall_mem_map, hname, hmodel, Block.fields_withAttributes, List.map_map,
    Function.comp_def, FieldDecl.name_withAttributes, hdeclared, hscalar]

end

theorem exists_catalog_iff (source : String) :
    (∃ c, (parse source >>= Catalog.ofBlocks) = .ok c) ↔ ∃ bs ∈ (parse source).toOption, Acceptable bs := by
  cases parse source with
  | error e =>
    constructor
    · rintro ⟨c, ⟨⟩⟩
    · rintro ⟨bs, ⟨⟩, -⟩
  | ok bs =>
    show (∃ c, Catalog.ofBlocks bs = .ok c) ↔ ∃ bs' ∈ some bs, Acceptable bs'
    rw [Catalog.exists_ofBlocks_iff]
    simp

theorem exists_catalog_exchange {source text : String} {f : FieldText} {as bs : AttributeList}
    {above below : List (List Char)} (hsource : lines source.toList = above ++ f.chars as :: below)
    (htext : lines text.toList = above ++ f.chars bs :: below) :
    (∃ c, (parse source >>= Catalog.ofBlocks) = .ok c) ↔
      ∃ c, (parse text >>= Catalog.ofBlocks) = .ok c := by
  rw [exists_catalog_iff, exists_catalog_iff, parse_exchange hsource htext]
  cases (parse source).toOption with
  | none => simp
  | some blocks => simp [acceptable_withAttributes]

/-! ## the field of the line -/

/-- a property stands in the block of a model -/
def ReaderState.Holds (p : Property) (s : ReaderState) : Prop :=
  ∃ b, (b ∈ s.done ∨ s.current = some b) ∧ b.isModel = true ∧ p ∈ b.properties

theorem ReaderState.Reads.holds {p : Property} {line : Nat} {raw : List Char} {s s' : ReaderState}
    (h : Reads line raw s s') (hs : s.Holds p) : s'.Holds p := by
  obtain ⟨b, hb, hmodel, hp⟩ := hs
  cases h with
  | doc hshape => exact ⟨b, hb, hmodel, hp⟩
  | blank hshape => exact ⟨b, hb, hmodel, hp⟩
  | close hshape =>
    refine ⟨b, .inl (List.mem_append.mpr ?_), hmodel, hp⟩
    rcases hb with hb | hb
    · exact .inl hb
    · cases hb
      exact .inr List.mem_cons_self
  | property hshape hread =>
    rcases hb with hb | hb
    · exact ⟨b, .inl hb, hmodel, hp⟩
    · cases hb
      exact ⟨_, .inr rfl, hmodel, List.mem_append_left _ hp⟩
  | header hshape hheader =>
    rcases hb with hb | hb
    · exact ⟨b, .inl hb, hmodel, hp⟩
    · cases hb
  | block hshape hheader =>
    rcases hb with hb | hb
    · exact ⟨b, .inl (List.mem_append_left _ hb), hmodel, hp⟩
    · cases hb

/-- in an accepted text a field line is a field of a model -/
theorem field_of_parse {source : String} {blocks : List Block} {f : FieldText} {as : AttributeList}
    {above below : List (List Char)} (hsource : lines source.toList = above ++ f.chars as :: below)
    (h : parse source = .ok blocks) :
    ∃ b ∈ blocks, b.isModel = true ∧ ∃ docs, f.decl as docs (1 + above.length) ∈ b.fields := by
  rw [parse_eq, hsource] at h
  obtain ⟨s, hrun, hfinish⟩ := ok_of_bind h
  cases habove : ReaderState.start.run 1 above with
  | error e =>
    rw [ReaderState.run_append_error habove] at hrun
    cases hrun
  | ok t =>
    rw [ReaderState.run_append habove] at hrun
    obtain ⟨u, hstep, hrun⟩ := ReaderState.step_of_run hrun
    rw [← toOption_eq_some_iff, f.step_chars as, Option.map_eq_some_iff] at hstep
    obtain ⟨b, hb, rfl⟩ := hstep
    have hmodel : b.isModel = true := (Option.filter_eq_some_iff.mp hb).2
    have hfield := ReaderState.run_preserves (fun _ _ _ _ hreads => hreads.holds) hrun
      ⟨_, .inr rfl, hmodel, List.mem_append_right _ List.mem_cons_self⟩
    obtain ⟨b', hb', hmodel', hp⟩ := hfield
    unfold ReaderState.finish at hfinish
    split at hfinish
    · cases hfinish
    · next hcurrent =>
      cases hfinish
      rw [hcurrent] at hb'
      refine ⟨b', hb'.resolve_right nofun, hmodel', joinDocs t.docs, ?_⟩
      exact List.mem_filterMap.mpr ⟨_, hp, rfl⟩

end ResolverTypes.DataModel
