import ResolverTypes.Proofs.DataModel.Catalog
import Mathlib.Data.List.Pairwise
import Mathlib.Data.List.Perm.Basic

/-!
# Catalogs and the order of blocks

`catalogs_sound` says which blocks are accepted and what their catalog tells about them, so that a
relation is never found dangling.  What is asked of blocks, and what a block gives, depends on which
names are declared but not on where: `block_order_irrelevant`.
-/

namespace ResolverTypes.DataModel

/-! ## what a catalog tells -/

/-- a field says of its type what the catalog says of it -/
structure Field.FitsIn (c : Catalog) (f : Field) : Prop where
  isRelation : f.isRelation = true ↔ (c.model? f.type).isSome = true
  isEnum : f.isEnum = true ↔ (c.enum? f.type).isSome = true
  relation : f.relation.isSome = true ↔ f.isRelation = true
  target : ∀ r ∈ f.relation, r.model = f.type ∧ (r.kind = .oneToMany ↔ f.isList = true)

/-- a catalog has the declarations of the blocks, in their order -/
structure Catalog.Describes (c : Catalog) (bs : List Block) : Prop where
  models : c.models.map (fun m => (some m.kind, some m.name, m.documentation)) =
    (bs.filter Block.isModel).map fun b => (b.kind.model?, b.name, b.documentation)
  fields : c.models.map (fun m => m.fields.map fun f =>
      (f.name, f.type, f.isList, f.isRequired, f.documentation)) =
    (bs.filter Block.isModel).map fun b => b.fields.map fun d =>
      (d.name, d.type, d.array, !d.optional, d.documentation)
  enums : c.enums.map (fun e => (some e.name, e.values, e.documentation)) =
    (bs.filter (·.kind = .enumeration)).map fun b =>
      (b.name, b.values.map (·.name), b.documentation)
  apart : ∀ n, ¬((c.model? n).isSome = true ∧ (c.enum? n).isSome = true)
  fits : ∀ m ∈ c.models, ∀ f ∈ m.fields, f.FitsIn c
  relations : c.checkRelations = .ok ()

namespace Catalog
variable {bs bs' : List Block}

theorem resolved_model?_isSome {n : String} :
    ((resolved bs).model? n).isSome = true ↔ n ∈ modelNames bs := by
  rw [model?_isSome_iff, resolved, filterMap_model?_names]

theorem buildEnums_names (bs : List Block) : (buildEnums bs).map (·.name) = enumNames bs := by
  unfold buildEnums enumNames
  rw [List.map_filterMap]
  congr 1
  funext b
  cases b.kind <;> cases b.name <;> rfl

theorem resolved_enum?_isSome {n : String} :
    ((resolved bs).enum? n).isSome = true ↔ n ∈ enumNames bs := by
  rw [enum?_isSome_iff, resolved, buildEnums_names]

theorem resolved_fitsIn (bs : List Block) (d : FieldDecl) :
    (d.resolved (modelNames bs) (enumNames bs)).FitsIn (resolved bs) where
  isRelation := by
    rw [resolved_model?_isSome, ← List.contains_iff_mem]
    rfl
  isEnum := by
    rw [resolved_enum?_isSome, ← List.contains_iff_mem]
    rfl
  relation := by
    unfold FieldDecl.resolved
    dsimp only
    cases (modelNames bs).contains d.type <;> simp
  target := by
    unfold FieldDecl.resolved
    dsimp only
    split
    · rintro r ⟨⟩
      refine ⟨rfl, ?_⟩
      unfold FieldDecl.relation
      cases d.array <;> simp
    · nofun

/-- what is kept of some blocks, in their order -/
theorem map_filterMap_eq {α β : Type} {kept : Block → Option α} {p : Block → Bool} {f : α → β}
    {g : Block → β} (h : ∀ b ∈ bs, (kept b).map f = if p b then some (g b) else none) :
    (bs.filterMap kept).map f = (bs.filter p).map g := by
  induction bs with
  | nil => rfl
  | cons b bs ih =>
    have hb := h b List.mem_cons_self
    have ih := ih fun b' hb' => h b' (List.mem_cons_of_mem _ hb')
    rw [List.filterMap_cons, List.filter_cons]
    cases hp : p b with
    | false =>
      rw [hp, if_neg Bool.false_ne_true, Option.map_eq_none_iff] at hb
      rw [hb]
      exact ih
    | true =>
      rw [hp, if_pos rfl, Option.map_eq_some_iff] at hb
      obtain ⟨a, ha, hfa⟩ := hb
      rw [ha, if_pos rfl, List.map_cons, List.map_cons, ih, hfa]

/-- with names for all blocks, the model-like ones and no others give a model -/
theorem map_model? {α : Type} {b : Block} (hb : b.name ≠ none) {models enums : List String}
    {f : Model → α} {a : α} (h : ∀ m, b.model? models enums = some m → f m = a) :
    (b.model? models enums).map f = if b.isModel then some a else none := by
  obtain ⟨name, hname⟩ := Option.ne_none_iff_exists'.mp hb
  cases hm : b.model? models enums with
  | some m =>
    obtain ⟨hkind, -, -, -⟩ := Block.model?_eq_some_iff.mp hm
    rw [Block.isModel, hkind, Option.isSome_some, if_pos rfl, Option.map_some, h m hm]
  | none =>
    have hkind : b.kind.model? = none := by
      cases hk : b.kind.model? with
      | none => rfl
      | some kind =>
        rw [Block.model?, hk, hname] at hm
        cases hm
    rw [Block.isModel, hkind]
    rfl

/-- no name stands for a model and for an enum -/
theorem notMem_enumNames_of_mem_modelNames (h : (declaredNames bs).Nodup) {n : String}
    (hm : n ∈ modelNames bs) : n ∉ enumNames bs := by
  intro he
  obtain ⟨b, hb, hkind, hname⟩ := mem_modelNames.mp hm
  obtain ⟨b', hb', hkind', hname'⟩ := mem_enumNames.mp he
  have hne : b ≠ b' := by
    rintro rfl
    rw [Block.isModel, hkind'] at hkind
    cases hkind
  unfold declaredNames List.Nodup at h
  rw [List.pairwise_filterMap] at h
  have hsymm : Std.Symm fun b b' : Block =>
      ∀ n, (if b.kind.declares then b.name else none) = some n →
        ∀ n', (if b'.kind.declares then b'.name else none) = some n' → n ≠ n' :=
    ⟨fun _ _ hapart n hn n' hn' heq => hapart n' hn' n hn heq.symm⟩
  refine h.forall hb hb' hne n ?_ n ?_ rfl
  · rw [if_pos (b.declares_iff.mpr (.inr hkind)), hname]
  · rw [if_pos (b'.declares_iff.mpr (.inl hkind')), hname']

theorem resolved_describes (h : Acceptable bs) : (resolved bs).Describes bs where
  models := by
    refine map_filterMap_eq fun b hb => map_model? (h.named b hb) fun m hm => ?_
    obtain ⟨hkind, hname, hdoc, -⟩ := Block.model?_eq_some_iff.mp hm
    rw [hkind, hname, hdoc]
  fields := by
    refine map_filterMap_eq fun b hb => map_model? (h.named b hb) fun m hm => ?_
    obtain ⟨-, -, -, hfields⟩ := Block.model?_eq_some_iff.mp hm
    rw [hfields, List.map_map]
    rfl
  enums := by
    refine map_filterMap_eq fun b hb => ?_
    obtain ⟨name, hname⟩ := Option.ne_none_iff_exists'.mp (h.named b hb)
    rw [hname]
    cases b.kind <;> rfl
  apart n := by
    rw [resolved_model?_isSome, resolved_enum?_isSome]
    exact fun hboth => notMem_enumNames_of_mem_modelNames h.names hboth.1 hboth.2
  fits m hm f hf := by
    obtain ⟨b, -, hm⟩ := List.mem_filterMap.mp hm
    obtain ⟨-, -, -, hfields⟩ := Block.model?_eq_some_iff.mp hm
    rw [hfields] at hf
    obtain ⟨d, -, rfl⟩ := List.mem_map.mp hf
    exact resolved_fitsIn bs d
  relations := resolved_checkRelations bs

/-! ## errors -/

theorem checkNames_error {seen : List String} {e : Error} (h : checkNames seen bs = .error e) :
    (∃ kind line, e = .missingBlockName kind line) ∨ ∃ name, e = .duplicateDeclaration name := by
  induction bs generalizing seen with
  | nil => cases h
  | cons b bs ih =>
    unfold checkNames at h
    split at h
    · cases h
      exact .inl ⟨_, _, rfl⟩
    · split at h
      · split at h
        · cases h
          exact .inr ⟨_, rfl⟩
        · exact ih h
      · exact ih h

theorem resolveFields_error {models enums : List String} {model : String} {seen : List String}
    {ds : List FieldDecl} {e : Error} (h : resolveFields models enums model seen ds = .error e) :
    (∃ field, e = .duplicateField model field) ∨ ∃ field type, e = .unknownFieldType model field type := by
  induction ds generalizing seen with
  | nil => cases h
  | cons d ds ih =>
    unfold resolveFields at h
    split at h
    · cases h
      exact .inl ⟨_, rfl⟩
    · rcases error_of_bind h with hfield | ⟨f, -, h⟩
      · unfold resolveField at hfield
        dsimp only at hfield
        split at hfield
        · cases hfield
          exact .inr ⟨_, _, rfl⟩
        · cases hfield
      · rcases error_of_bind h with hrest | ⟨rest, -, h⟩
        · exact ih hrest
        · cases h

theorem buildModels_error {models enums : List String} {e : Error}
    (h : buildModels models enums bs = .error e) :
    (∃ model field, e = .duplicateField model field) ∨
      ∃ model field type, e = .unknownFieldType model field type := by
  induction bs with
  | nil => cases h
  | cons b bs ih =>
    unfold buildModels at h
    split at h
    · next kind name _ _ =>
      rcases error_of_bind h with hfields | ⟨fields, -, h⟩
      · exact (resolveFields_error hfields).imp (fun ⟨f, he⟩ => ⟨name, f, he⟩)
          fun ⟨f, t, he⟩ => ⟨name, f, t, he⟩
      · rcases error_of_bind h with hrest | ⟨rest, -, h⟩
        · exact ih hrest
        · cases h
    · exact ih h

theorem ofBlocks_ne_dangling (bs : List Block) (model field target : String) :
    ofBlocks bs ≠ .error (.danglingRelation model field target) := by
  intro h
  rcases error_of_bind h with hnames | ⟨⟨⟩, -, h⟩
  · rcases checkNames_error hnames with ⟨_, _, ⟨⟩⟩ | ⟨_, ⟨⟩⟩
  · rcases error_of_bind h with hmodels | ⟨models, hmodels, h⟩
    · rcases buildModels_error hmodels with ⟨_, _, ⟨⟩⟩ | ⟨_, _, _, ⟨⟩⟩
    · -- the relations were resolved against the names of the models that are there
      obtain ⟨-, rfl⟩ := buildModels_eq_ok_iff.mp hmodels
      rcases error_of_bind h with hrelations | ⟨⟨⟩, -, h⟩
      · have hok := resolved_checkRelations bs
        rw [resolved, hrelations] at hok
        cases hok
      · cases h

end Catalog

/-- **catalogs are sound**: blocks are accepted exactly if they fit together, the catalog then has their
declarations in their order, with each relation pointing at one of its models, and whatever the blocks
are, no relation is ever found dangling -/
theorem catalogs_sound (bs : List Block) :
    ((∃ c, Catalog.ofBlocks bs = .ok c) ↔ Acceptable bs) ∧
      (∀ c, Catalog.ofBlocks bs = .ok c → c.Describes bs) ∧
      ∀ model field target, Catalog.ofBlocks bs ≠ .error (.danglingRelation model field target) := by
  refine ⟨Catalog.exists_ofBlocks_iff bs, ?_, Catalog.ofBlocks_ne_dangling bs⟩
  intro c hc
  obtain ⟨h, rfl⟩ := Catalog.ofBlocks_eq_ok_iff.mp hc
  exact Catalog.resolved_describes h

/-- fields of types that are declared below them, and one of the type that it belongs to -/
def forwardBlocks : List Block :=
  [⟨.model, some "Post", 1, none, [.field ⟨"author", "User", false, false, [], none, 2⟩,
      .field ⟨"state", "State", false, true, [], none, 3⟩]⟩,
    ⟨.enumeration, some "State", 5, none, [.value ⟨"OPEN", [], none, 6⟩]⟩,
    ⟨.model, some "User", 8, none, [.field ⟨"friends", "User", true, false, [], none, 9⟩]⟩]

theorem catalogs_sound_forward :
    ∃ c, Catalog.ofBlocks forwardBlocks = .ok c ∧ Acceptable forwardBlocks ∧
      c.Describes forwardBlocks := by
  obtain ⟨c, hc⟩ := ok_of_isOk (x := Catalog.ofBlocks forwardBlocks) (by decide +kernel)
  obtain ⟨haccepted, hdescribes, -⟩ := catalogs_sound forwardBlocks
  exact ⟨c, hc, haccepted.mp ⟨c, hc⟩, hdescribes c hc⟩

/-! ## the order of blocks -/

section
variable {bs bs' : List Block}

theorem Acceptable.perm (hperm : bs.Perm bs') (h : Acceptable bs) : Acceptable bs' where
  named b hb := h.named b (hperm.mem_iff.mpr hb)
  names := (hperm.filterMap _).nodup_iff.mp h.names
  fields b hb := h.fields b (hperm.mem_iff.mpr hb)
  types b hb hmodel d hd := by
    refine (h.types b (hperm.mem_iff.mpr hb) hmodel d hd).imp id ?_
    rintro ⟨b', hb', hdeclares⟩
    exact ⟨b', hperm.mem_iff.mp hb', hdeclares⟩

/-- which names are declared matters to a field, their order does not -/
theorem FieldDecl.resolved_congr {models models' enums enums' : List String}
    (hmodels : ∀ n, n ∈ models ↔ n ∈ models') (henums : ∀ n, n ∈ enums ↔ n ∈ enums') (d : FieldDecl) :
    d.resolved models enums = d.resolved models' enums' := by
  have hm : models.contains d.type = models'.contains d.type := by
    rw [Bool.eq_iff_iff, List.contains_iff_mem, List.contains_iff_mem, hmodels]
  have he : enums.contains d.type = enums'.contains d.type := by
    rw [Bool.eq_iff_iff, List.contains_iff_mem, List.contains_iff_mem, henums]
  unfold resolved
  rw [hm, he]

theorem Catalog.resolved_models_perm (hperm : bs.Perm bs') :
    (resolved bs).models.Perm (resolved bs').models := by
  have hmodels : ∀ n, n ∈ modelNames bs ↔ n ∈ modelNames bs' := fun n => (hperm.filterMap _).mem_iff
  have henums : ∀ n, n ∈ enumNames bs ↔ n ∈ enumNames bs' := fun n => (hperm.filterMap _).mem_iff
  have hmodel : Block.model? (modelNames bs) (enumNames bs) =
      Block.model? (modelNames bs') (enumNames bs') := by
    funext b
    unfold Block.model?
    rw [funext (FieldDecl.resolved_congr hmodels henums)]
  unfold resolved
  rw [hmodel]
  exact hperm.filterMap _

/-- among entries of different names, each is found wherever it stands -/
theorem find?_eq_of_perm {α : Type} {name : α → String} {xs ys : List α} (hperm : xs.Perm ys)
    (h : (xs.map name).Nodup) (n : String) :
    xs.find? (fun x => name x == n) = ys.find? (fun x => name x == n) := by
  have hfound : ∀ zs : List α, (zs.map name).Nodup → ∀ x,
      zs.find? (fun x => name x == n) = some x ↔ x ∈ zs ∧ name x = n := by
    intro zs hzs x
    constructor
    · intro hx
      exact ⟨List.mem_of_find?_eq_some hx, by simpa using List.find?_some hx⟩
    · rintro ⟨hx, hname⟩
      cases hz : zs.find? (fun x => name x == n) with
      | none => exact absurd (beq_iff_eq.mpr hname) (List.find?_eq_none.mp hz x hx)
      | some z =>
        have hzname : name z = n := by simpa using List.find?_some hz
        rw [List.inj_on_of_nodup_map hzs (List.mem_of_find?_eq_some hz) hx (hzname.trans hname.symm)]
  refine Option.ext fun x => ?_
  rw [hfound xs h, hfound ys ((hperm.map name).nodup_iff.mp h), hperm.mem_iff]

end

/-- **the order of blocks does not matter**: blocks in another order are accepted just the same, and
under every name there is the same model and the same enum; only the listings differ, each in the
order of its blocks -/
theorem block_order_irrelevant {bs bs' : List Block} (h : bs.Perm bs') :
    ((∃ c, Catalog.ofBlocks bs = .ok c) ↔ ∃ c, Catalog.ofBlocks bs' = .ok c) ∧
      ∀ c c', Catalog.ofBlocks bs = .ok c → Catalog.ofBlocks bs' = .ok c' →
        (∀ n, c.model? n = c'.model? n ∧ c.enum? n = c'.enum? n) ∧
        (c.models.Perm c'.models ∧ c.enums.Perm c'.enums) ∧
        (c.models.map (·.name) = modelNames bs ∧ c'.models.map (·.name) = modelNames bs') ∧
        (c.enums.map (·.name) = enumNames bs ∧ c'.enums.map (·.name) = enumNames bs') := by
  constructor
  · rw [Catalog.exists_ofBlocks_iff, Catalog.exists_ofBlocks_iff]
    exact ⟨Acceptable.perm h, Acceptable.perm h.symm⟩
  · intro c c' hc hc'
    obtain ⟨hok, rfl⟩ := Catalog.ofBlocks_eq_ok_iff.mp hc
    obtain ⟨-, rfl⟩ := Catalog.ofBlocks_eq_ok_iff.mp hc'
    have hmodels := Catalog.resolved_models_perm h
    have henums : (Catalog.resolved bs).enums.Perm (Catalog.resolved bs').enums := h.filterMap _
    have hnames : (Catalog.resolved bs).models.map (·.name) = modelNames bs :=
      filterMap_model?_names ..
    have hvalues : (Catalog.resolved bs).enums.map (·.name) = enumNames bs :=
      Catalog.buildEnums_names bs
    refine ⟨fun n => ⟨?_, ?_⟩, ⟨hmodels, henums⟩, ⟨hnames, filterMap_model?_names ..⟩, hvalues,
      Catalog.buildEnums_names bs'⟩
    · exact find?_eq_of_perm hmodels (hnames ▸ modelNames_nodup hok.names) n
    · exact find?_eq_of_perm henums (hvalues ▸ enumNames_nodup hok.names) n

theorem block_order_irrelevant_forward :
    forwardBlocks.Perm forwardBlocks.reverse ∧
      ∃ c c', Catalog.ofBlocks forwardBlocks = .ok c ∧
        Catalog.ofBlocks forwardBlocks.reverse = .ok c' ∧ c.model? "Post" = c'.model? "Post" ∧
        c.models.map (·.name) = ["Post", "User"] ∧ c'.models.map (·.name) = ["User", "Post"] := by
  have hperm : forwardBlocks.Perm forwardBlocks.reverse := forwardBlocks.reverse_perm.symm
  obtain ⟨hok, hsame⟩ := block_order_irrelevant hperm
  obtain ⟨c, hc⟩ := ok_of_isOk (x := Catalog.ofBlocks forwardBlocks) (by decide +kernel)
  obtain ⟨c', hc'⟩ := hok.mp ⟨c, hc⟩
  obtain ⟨hfound, -, ⟨hnames, hnames'⟩, -⟩ := hsame c c' hc hc'
  exact ⟨hperm, c, c', hc, hc', (hfound "Post").1, hnames.trans (by decide), hnames'.trans (by decide)⟩

end ResolverTypes.DataModel
