import ResolverTypes.Proofs.DataModel.Document
import ResolverTypes.Proofs.Fact.Recording
import ResolverTypes.Proofs.Schema.Basic
import ResolverTypes.Run.Basic

/-!
# The facts of two schemas

The facts of a data model and of a GraphQL schema meet in one store.  As long as names have no dots, a
key belongs to one type and one field, and what is stored there is decided by the declarations of that
field alone: at most one in the data model, and any number in the GraphQL schema, since an extension
may repeat a field.

* `find?_sharedFacts`: the stored fact is the fold of `reconcile` over these declarations;
* `keys_sharedFacts`: the order of the keys;
* `Reconciles`: what this comes to, case by case;
* `sharedFacts_reconciles`: it holds of a catalog just in case none of its fields has a key with a
  second reading.  Names that are read from a text have no dots (`reconciles_of_text`), but blocks may
  have them.
-/

namespace ResolverTypes
open Text DataModel

/-! ## keys -/

/-- a key made of names without dots has no other reading -/
theorem fieldKey_eq_iff {typeName fieldName t f : String} (ht : '.' ∉ t.toList) (hf : '.' ∉ f.toList) :
    fieldKey t f = fieldKey typeName fieldName ↔ t = typeName ∧ f = fieldName := by
  rw [← String.toList_inj, toList_fieldKey, toList_fieldKey, List.append_cons_inj_of_notMem ht hf,
    String.toList_inj, String.toList_inj]
  simp

/-- a key with a further dot in it has another reading, which has a further dot as well -/
theorem exists_second_reading {t f : String} (h : '.' ∈ t.toList ∨ '.' ∈ f.toList) :
    ∃ t' f', fieldKey t' f' = fieldKey t f ∧ t' ≠ t ∧ ('.' ∈ t'.toList ∨ '.' ∈ f'.toList) := by
  rcases h with h | h
  · obtain ⟨before, after, hsplit⟩ := List.append_of_mem h
    refine ⟨.ofList before, .ofList (after ++ '.' :: f.toList), ?_, ?_, .inr (by simp)⟩
    · rw [← String.toList_inj, toList_fieldKey, toList_fieldKey, hsplit]
      simp
    · intro heq
      have hlength := congrArg List.length (String.toList_inj.mpr heq)
      rw [String.toList_ofList, hsplit] at hlength
      simp at hlength
  · obtain ⟨before, after, hsplit⟩ := List.append_of_mem h
    refine ⟨.ofList (t.toList ++ '.' :: before), .ofList after, ?_, ?_, .inl (by simp)⟩
    · rw [← String.toList_inj, toList_fieldKey, toList_fieldKey, hsplit]
      simp
    · intro heq
      have hlength := congrArg List.length (String.toList_inj.mpr heq)
      rw [String.toList_ofList] at hlength
      simp at hlength

/-! ## facts under a key -/

section Named
variable {α β : Type} {name : α → String}

/-- of a list without repeated names, a search finds all entries of a name -/
theorem filter_of_nodup {xs : List α} (hn : (xs.map name).Nodup) (key : String) :
    (xs.filter fun x => name x = key) = (xs.find? fun x => name x == key).toList := by
  induction xs with
  | nil => rfl
  | cons x xs ih =>
    rw [List.map_cons, List.nodup_cons] at hn
    by_cases h : name x = key
    · have hrest : (xs.filter fun y => name y = key) = [] := by
        refine List.filter_eq_nil_iff.mpr fun y hy hkey => hn.1 ?_
        rw [h, ← of_decide_eq_true hkey]
        exact List.mem_map_of_mem hy
      simp [h, hrest]
    · simp [h, ih hn.2]

/-- the facts of the parts of named things: those under a key are of one name and one part -/
theorem filter_facts {part : β → String} {parts : α → List β} {fact : α → β → FieldFact}
    (hkey : ∀ x d, (fact x d).key = fieldKey (name x) (part d)) {xs : List α}
    (hdots : ∀ x ∈ xs, ∀ d ∈ parts x, '.' ∉ (name x).toList ∧ '.' ∉ (part d).toList)
    (typeName fieldName : String) :
    ((xs.flatMap fun x => (parts x).map (fact x)).filter
        fun f => f.key = fieldKey typeName fieldName) =
      (xs.filter fun x => name x = typeName).flatMap fun x =>
        ((parts x).filter fun d => part d = fieldName).map (fact x) := by
  induction xs with
  | nil => rfl
  | cons x xs ih =>
    have hhere : ((parts x).map (fact x)).filter (fun f => f.key = fieldKey typeName fieldName) =
        ((parts x).filter fun d => name x = typeName ∧ part d = fieldName).map (fact x) := by
      rw [List.filter_map]
      congr 1
      refine List.filter_congr fun d hd => ?_
      obtain ⟨hx, hpart⟩ := hdots x List.mem_cons_self d hd
      simp only [Function.comp_apply, hkey, fieldKey_eq_iff hx hpart]
    rw [List.flatMap_cons, List.filter_append, hhere,
      ih fun y hy => hdots y (List.mem_cons_of_mem _ hy), List.filter_cons]
    by_cases h : name x = typeName <;> simp [h]

end Named

/-- the fact of the field of that name in the model of that name -/
def DataModel.Catalog.fact? (c : Catalog) (typeName fieldName : String) : Option FieldFact :=
  (c.model? typeName).bind fun m => (m.field? fieldName).map (Field.fact c m)

/-- no field has a dot in its name or in that of its model -/
def DataModel.Catalog.HasNoDots (c : Catalog) : Prop :=
  ∀ m ∈ c.models, ∀ d ∈ m.fields, '.' ∉ m.name.toList ∧ '.' ∉ d.name.toList

theorem DataModel.Catalog.hasNoDots_of_parse {text : String} {bs : List Block} {c : Catalog}
    (hparse : DataModel.parse text = .ok bs) (hc : ofBlocks bs = .ok c) : c.HasNoDots := by
  intro m hm d hd
  obtain ⟨hname, hfields⟩ := models_hasWords hparse hc m hm
  exact ⟨hname.no_dot, (hfields d hd).no_dot⟩

theorem DataModel.Catalog.facts_under {bs : List Block} {c : Catalog} (hc : ofBlocks bs = .ok c)
    (hdots : c.HasNoDots) (typeName fieldName : String) :
    (c.facts.filter fun f => f.key = fieldKey typeName fieldName) =
      (c.fact? typeName fieldName).toList := by
  have hfields : ∀ m ∈ c.models, (m.fields.filter fun d => d.name = fieldName) =
      (m.field? fieldName).toList := fun m hm => filter_of_nodup (ofBlocks_fields_nodup hc hm) _
  have hkey : ∀ (m : Model) (d : Field), (d.fact c m).key = fieldKey m.name d.name :=
    fun _ _ => rfl
  unfold facts
  rw [filter_facts hkey hdots, filter_of_nodup (ofBlocks_models_nodup hc)]
  unfold fact? model?
  cases hm : c.models.find? fun m => m.name == typeName with
  | none => rfl
  | some m =>
    simp only [Option.toList_some, List.flatMap_cons, List.flatMap_nil, List.append_nil,
      hfields m (List.mem_of_find?_eq_some hm), Option.bind_some]
    cases m.field? fieldName <;> rfl

namespace Schema

/-- the fields of a type that give facts -/
def TypeDef.factFields (t : TypeDef) : List Field := if t.kind.hasFields then t.fields else []

/-- the declarations of a field of an object, interface or input type, in order: those of the type
itself, then those of its extensions -/
def declarationsOf (s : Schema) (typeName fieldName : String) : List Field :=
  (s.type? typeName).elim [] fun t => t.factFields.filter fun f => f.name = fieldName

theorem facts_eq (s : Schema) (scalars : ScalarMap) :
    s.facts scalars = s.types.flatMap fun t => t.factFields.map (s.fieldFact scalars t.name) := by
  unfold facts TypeDef.factFields
  congr 1
  funext t
  split <;> rfl

theorem factFields_no_dot {source : String} {s : Schema} (h : parse source = .ok s) :
    ∀ t ∈ s.types, ∀ f ∈ t.factFields, '.' ∉ t.name.toList ∧ '.' ∉ f.name.toList := by
  intro t ht f hf
  obtain ⟨hname, hfields⟩ := parse_hasWords h t ht
  unfold TypeDef.factFields at hf
  split at hf
  · exact ⟨hname.no_dot, (hfields f hf).no_dot⟩
  · cases hf

/-- GraphQL declares no field with a dot in its name or in that of its type -/
theorem declarationsOf_of_dot {source : String} {s : Schema} (h : parse source = .ok s)
    {typeName fieldName : String} (hdot : '.' ∈ typeName.toList ∨ '.' ∈ fieldName.toList) :
    s.declarationsOf typeName fieldName = [] := by
  unfold declarationsOf type? findType?
  cases ht : s.types.find? fun t => t.name == typeName with
  | none => rfl
  | some t =>
    have hname : t.name = typeName := by simpa using List.find?_some ht
    refine List.filter_eq_nil_iff.mpr fun f hf hfield => ?_
    obtain ⟨htype, hpart⟩ := factFields_no_dot h t (List.mem_of_find?_eq_some ht) f hf
    rw [← hname, ← of_decide_eq_true hfield] at hdot
    exact hdot.elim htype hpart

theorem facts_under {source : String} {s : Schema} (h : parse source = .ok s) (scalars : ScalarMap)
    (typeName fieldName : String) :
    ((s.facts scalars).filter fun f => f.key = fieldKey typeName fieldName) =
      (s.declarationsOf typeName fieldName).map (s.fieldFact scalars typeName) := by
  have hkey : ∀ (t : TypeDef) (f : Field),
      (s.fieldFact scalars t.name f).key = fieldKey t.name f.name := fun _ _ => rfl
  rw [facts_eq, filter_facts hkey (factFields_no_dot h), filter_of_nodup (parse_types_nodup h)]
  unfold declarationsOf type? findType?
  cases ht : s.types.find? fun t => t.name == typeName with
  | none => rfl
  | some t =>
    have hname : t.name = typeName := by simpa using List.find?_some ht
    simp [hname]

end Schema

/-! ## the stored fact -/

namespace FieldFacts

theorem provenance_reconcile_ne {f : FieldFact} (h : f.provenance = .graphql)
    (old : Option FieldFact) : (reconcile old f).provenance ≠ .dbSchema := by
  rw [Ne, provenance_reconcile_iff, h]
  nofun

theorem reconcile_of_ne {old : FieldFact} (h : old.provenance ≠ .dbSchema) (f : FieldFact) :
    reconcile (some old) f = f :=
  if_neg fun hboth => h hboth.1

/-- a GraphQL fact after other GraphQL facts is stored as it is, whatever was there before them -/
theorem foldl_reconcile_graphql {gs : List FieldFact} (hgs : gs ≠ [])
    (hall : ∀ f ∈ gs, f.provenance = .graphql) (old : Option FieldFact) (g : FieldFact) :
    (gs ++ [g]).foldl (fun old f => some (reconcile old f)) old = some g := by
  obtain ⟨before, last, rfl⟩ := (List.eq_nil_or_concat gs).resolve_left hgs
  have hlast : last.provenance = .graphql := hall last (by simp)
  simp only [List.concat_eq_append, List.foldl_append, List.foldl_cons, List.foldl_nil]
  rw [reconcile_of_ne (provenance_reconcile_ne hlast _)]

end FieldFacts

variable {source : String} {bs : List Block} {catalog : Catalog} {schema : Schema}

theorem find?_sharedFacts (hc : Catalog.ofBlocks bs = .ok catalog) (hdots : catalog.HasNoDots)
    (hs : Schema.parse source = .ok schema) (scalars : ScalarMap) (typeName fieldName : String) :
    (sharedFacts catalog schema scalars).find? typeName fieldName =
      ((schema.declarationsOf typeName fieldName).map (schema.fieldFact scalars typeName)).foldl
        (fun old f => some (FieldFacts.reconcile old f)) (catalog.fact? typeName fieldName) := by
  unfold sharedFacts FieldFacts.find?
  rw [FieldFacts.get?_recordAll, FieldFacts.get?_recordAll, Schema.facts_under hs,
    Catalog.facts_under hc hdots]
  cases catalog.fact? typeName fieldName <;> rfl

/-! ## the order of the keys -/

/-- the keys of the fields of all models, in declaration order -/
def DataModel.Catalog.fieldKeys (c : Catalog) : List String :=
  c.models.flatMap fun m => m.fields.map fun d => fieldKey m.name d.name

/-- the keys of the fields of all objects, interfaces and inputs, in declaration order -/
def Schema.fieldKeys (s : Schema) : List String :=
  s.types.flatMap fun t => t.factFields.map fun f => fieldKey t.name f.name

theorem DataModel.Catalog.map_key_facts (c : Catalog) :
    c.facts.map FieldFact.key = c.fieldKeys := by
  simp only [facts, fieldKeys, List.map_flatMap, List.map_map]
  rfl

theorem Schema.map_key_facts (s : Schema) (scalars : ScalarMap) :
    (s.facts scalars).map FieldFact.key = s.fieldKeys := by
  simp only [facts_eq, fieldKeys, List.map_flatMap, List.map_map]
  rfl

/-- no two fields of a catalog have the same key: under a key of a field stands one fact -/
theorem DataModel.Catalog.fieldKeys_nodup (hc : ofBlocks bs = .ok catalog)
    (hdots : catalog.HasNoDots) : catalog.fieldKeys.Nodup := by
  rw [← map_key_facts, List.nodup_iff_count]
  intro k
  rw [List.count_eq_countP, List.countP_map, List.countP_eq_length_filter]
  by_cases hk : k ∈ catalog.fieldKeys
  · obtain ⟨m, -, hk⟩ := List.mem_flatMap.mp hk
    obtain ⟨d, -, rfl⟩ := List.mem_map.mp hk
    have hunder := facts_under hc hdots m.name d.name
    have hlen : (catalog.fact? m.name d.name).toList.length ≤ 1 := by
      cases catalog.fact? m.name d.name <;> simp
    rw [← hunder] at hlen
    simpa [Function.comp_def, beq_eq_decide] using hlen
  · rw [← map_key_facts] at hk
    have hnone : catalog.facts.filter ((· == k) ∘ FieldFact.key) = [] := by
      refine List.filter_eq_nil_iff.mpr fun f hf hkey => hk ?_
      exact List.mem_map.mpr ⟨f, hf, by simpa using hkey⟩
    rw [hnone]
    exact Nat.zero_le 1

theorem eraseDups_of_nodup {l : List String} (h : l.Nodup) : l.eraseDups = l := by
  induction l with
  | nil => rfl
  | cons a l ih =>
    obtain ⟨ha, hl⟩ := List.nodup_cons.mp h
    have hrest : (l.filter fun b => !b == a) = l := by
      refine List.filter_eq_self.mpr fun b hb => ?_
      have hne : b ≠ a := fun heq => ha (heq ▸ hb)
      simpa using hne
    rw [List.eraseDups_cons, hrest, ih hl]

theorem keys_sharedFacts (hc : Catalog.ofBlocks bs = .ok catalog) (hdots : catalog.HasNoDots)
    (schema : Schema) (scalars : ScalarMap) :
    (sharedFacts catalog schema scalars).keys =
      catalog.fieldKeys ++ (schema.fieldKeys.removeAll catalog.fieldKeys).eraseDups := by
  have hdb : (FieldFacts.recordAll .empty catalog.facts).keys = catalog.fieldKeys := by
    rw [FieldFacts.keys_recordAll, Catalog.map_key_facts]
    show [] ++ (catalog.fieldKeys.removeAll []).eraseDups = _
    rw [List.nil_append, List.removeAll_nil, eraseDups_of_nodup (Catalog.fieldKeys_nodup hc hdots)]
  unfold sharedFacts
  rw [FieldFacts.keys_recordAll, hdb, Schema.map_key_facts]

/-! ## what is stored for every field -/

/-- what a store holds of the fields of a data model and of a GraphQL schema -/
structure Reconciles (catalog : Catalog) (schema : Schema) (scalars : ScalarMap)
    (facts : FieldFacts) : Prop where
  /-- a field has a fact if one of the two declares it -/
  known (typeName fieldName : String) :
    (facts.find? typeName fieldName).isSome ↔
      (∃ m, catalog.model? typeName = some m ∧ (m.field? fieldName).isSome) ∨
        schema.declarationsOf typeName fieldName ≠ []
  /-- a look-up in the schema gives the first declaration -/
  first {typeName fieldName : String} {g : Schema.Field} {more : List Schema.Field} :
    schema.declarationsOf typeName fieldName = g :: more →
      schema.field? typeName fieldName = some g
  /-- a field of the data model alone -/
  database {typeName fieldName : String} {m : Model} {d : Field} :
    catalog.model? typeName = some m → m.field? fieldName = some d →
      schema.declarationsOf typeName fieldName = [] →
        facts.find? typeName fieldName = some (d.fact catalog m)
  /-- a field of the GraphQL schema alone: the last declaration -/
  graphql {typeName fieldName : String} {before : List Schema.Field} {g : Schema.Field} :
    (∀ m, catalog.model? typeName = some m → m.field? fieldName = none) →
      schema.declarationsOf typeName fieldName = before ++ [g] →
        facts.find? typeName fieldName = some (schema.fieldFact scalars typeName g)
  /-- a field of both, declared once in GraphQL -/
  reconciled {typeName fieldName : String} {m : Model} {d : Field} {g : Schema.Field} :
    catalog.model? typeName = some m → m.field? fieldName = some d →
      schema.declarationsOf typeName fieldName = [g] →
        facts.find? typeName fieldName =
          some { schema.fieldFact scalars typeName g with
            provenance := .reconciled ((!d.isRequired) == g.type.nullable)
              (d.isList == g.type.isList) }
  /-- a field that GraphQL declares repeatedly: the last declaration, as it is -/
  repeated {typeName fieldName : String} {before : List Schema.Field} {g : Schema.Field} :
    before ≠ [] → schema.declarationsOf typeName fieldName = before ++ [g] →
      facts.find? typeName fieldName = some (schema.fieldFact scalars typeName g)
  /-- the fields of the data model come first, then the fields that only GraphQL declares -/
  order : facts.keys =
    catalog.fieldKeys ++ (schema.fieldKeys.removeAll catalog.fieldKeys).eraseDups

theorem DataModel.Catalog.fact?_isSome (c : Catalog) (typeName fieldName : String) :
    (c.fact? typeName fieldName).isSome ↔
      ∃ m, c.model? typeName = some m ∧ (m.field? fieldName).isSome := by
  unfold fact?
  cases c.model? typeName <;> simp

theorem Schema.field?_of_declarationsOf {s : Schema} {typeName fieldName : String} {g : Field}
    {more : List Field} (h : s.declarationsOf typeName fieldName = g :: more) :
    s.field? typeName fieldName = some g := by
  unfold declarationsOf TypeDef.factFields at h
  unfold field?
  cases ht : s.type? typeName with
  | none =>
    rw [ht] at h
    cases h
  | some t =>
    rw [ht, Option.elim_some] at h
    split at h
    · have hhead := congrArg List.head? h
      rw [List.head?_filter] at hhead
      simpa [TypeDef.field?, beq_eq_decide] using hhead
    · cases h

theorem isSome_foldl_reconcile (old : Option FieldFact) (gs : List FieldFact) :
    (gs.foldl (fun old f => some (FieldFacts.reconcile old f)) old).isSome ↔
      old.isSome ∨ gs ≠ [] := by
  induction gs generalizing old with
  | nil => simp
  | cons g gs ih => simp [ih]

theorem reconciles_of_hasNoDots (hc : Catalog.ofBlocks bs = .ok catalog) (hdots : catalog.HasNoDots)
    (hs : Schema.parse source = .ok schema) (scalars : ScalarMap) :
    Reconciles catalog schema scalars (sharedFacts catalog schema scalars) where
  known typeName fieldName := by
    rw [find?_sharedFacts hc hdots hs, isSome_foldl_reconcile, Catalog.fact?_isSome]
    simp
  first := Schema.field?_of_declarationsOf
  database hm hd hnone := by
    rw [find?_sharedFacts hc hdots hs, hnone]
    simp [Catalog.fact?, hm, hd]
  graphql {typeName fieldName before g} hnone hlast := by
    have hdb : catalog.fact? typeName fieldName = none := by
      unfold Catalog.fact?
      cases hm : catalog.model? typeName with
      | none => rfl
      | some m => simp [hnone m hm]
    rw [find?_sharedFacts hc hdots hs, hlast, hdb]
    cases before with
    | nil => rfl
    | cons b before =>
      rw [List.map_append]
      exact FieldFacts.foldl_reconcile_graphql (by simp) (by simp [Schema.fieldFact]) _ _
  reconciled hm hd hone := by
    rw [find?_sharedFacts hc hdots hs, hone]
    simp [Catalog.fact?, hm, hd, FieldFacts.reconcile, Field.fact, Schema.fieldFact]
  repeated hbefore hlast := by
    rw [find?_sharedFacts hc hdots hs, hlast, List.map_append]
    exact FieldFacts.foldl_reconcile_graphql (by simpa using hbefore) (by simp [Schema.fieldFact]) _ _
  order := keys_sharedFacts hc hdots schema scalars

/-- a field whose key has a second reading is found under names that nobody declares -/
theorem hasNoDots_of_reconciles (hc : Catalog.ofBlocks bs = .ok catalog)
    (hs : Schema.parse source = .ok schema) {scalars : ScalarMap}
    (h : Reconciles catalog schema scalars (sharedFacts catalog schema scalars)) :
    catalog.HasNoDots := by
  intro m hm d hd
  have hmodel : catalog.model? m.name = some m := find?_name_of_mem (Catalog.ofBlocks_models_nodup hc) hm
  have hfield : m.field? d.name = some d := find?_name_of_mem (Catalog.ofBlocks_fields_nodup hc hm) hd
  by_contra hdots
  have hdot : '.' ∈ m.name.toList ∨ '.' ∈ d.name.toList := by
    by_contra hnone
    exact hdots ⟨fun hname => hnone (.inl hname), fun hname => hnone (.inr hname)⟩
  have hfact := h.database hmodel hfield (Schema.declarationsOf_of_dot hs hdot)
  obtain ⟨t, f, hkey, hne, hsecond⟩ := exists_second_reading hdot
  have hfound : (sharedFacts catalog schema scalars).find? t f = some (d.fact catalog m) := by
    rw [← hfact, FieldFacts.find?, hkey]
    rfl
  have hnone : schema.declarationsOf t f = [] := Schema.declarationsOf_of_dot hs hsecond
  rcases (h.known t f).mp (by rw [hfound]; rfl) with ⟨m', hmodel', hsome⟩ | hdeclared
  · -- even if the second reading is a field of another model, one of the two facts is lost
    obtain ⟨d', hfield'⟩ := Option.isSome_iff_exists.mp hsome
    have hfact' := h.database hmodel' hfield' hnone
    rw [hfound] at hfact'
    have hname : m.name = m'.name := congrArg FieldFact.typeName (Option.some.inj hfact')
    exact hne ((Catalog.mem_of_model? hmodel').2.symm.trans hname.symm)
  · exact hdeclared hnone

/-- **the facts of the two schemas**: for every catalog of blocks and every accepted schema, the store
holds of every name of a type and every name of a field what the two declare, just in case no field of a
model has a dot in its name or in that of its model -/
theorem sharedFacts_reconciles (hc : Catalog.ofBlocks bs = .ok catalog)
    (hs : Schema.parse source = .ok schema) (scalars : ScalarMap) :
    Reconciles catalog schema scalars (sharedFacts catalog schema scalars) ↔ catalog.HasNoDots := by
  constructor
  · intro h
    exact hasNoDots_of_reconciles hc hs h
  · intro hdots
    exact reconciles_of_hasNoDots hc hdots hs scalars

/-! ## a field that an extension repeats, and a name with a dot -/

def repeatedText : String := "model A \x7b\n  x Int\n\x7d\n"

def repeatedSource : String := "type A \x7b x: Int \x7d\nextend type A \x7b x: String! \x7d\n"

def repeatedBlocks : List Block :=
  [⟨.model, some "A", 1, none, [.field ⟨"x", "Int", false, false, [], none, 2⟩]⟩]

def repeatedCatalog : Catalog :=
  ⟨[⟨"A", .model, none, [⟨"x", "Int", false, true, false, false, none, false, false, false, none⟩]⟩], []⟩

def repeatedSchema : Schema :=
  ⟨[⟨"A", .object, none,
      [⟨"x", .named "Int" true, [], none⟩, ⟨"x", .named "String" false, [], none⟩], [], [], []⟩],
    .none⟩

theorem sharedFacts_reconciles_repeated :
    DataModel.parse repeatedText = .ok repeatedBlocks ∧
      Catalog.ofBlocks repeatedBlocks = .ok repeatedCatalog ∧
      Schema.parse repeatedSource = .ok repeatedSchema ∧ repeatedCatalog.HasNoDots ∧
      Reconciles repeatedCatalog repeatedSchema .empty
        (sharedFacts repeatedCatalog repeatedSchema .empty) := by
  have hparse : DataModel.parse repeatedText = .ok repeatedBlocks := by decide +kernel
  have hc : Catalog.ofBlocks repeatedBlocks = .ok repeatedCatalog := by decide +kernel
  have hs : Schema.parse repeatedSource = .ok repeatedSchema := by decide +kernel
  have hdots : repeatedCatalog.HasNoDots := Catalog.hasNoDots_of_parse hparse hc
  exact ⟨hparse, hc, hs, hdots, (sharedFacts_reconciles hc hs .empty).mpr hdots⟩

/-- a model with a dot in its name -/
def dottedBlocks : List Block :=
  [⟨.model, some "A.b", 1, none, [.field ⟨"c", "Int", false, false, [], none, 2⟩]⟩]

def dottedCatalog : Catalog :=
  ⟨[⟨"A.b", .model, none, [⟨"c", "Int", false, true, false, false, none, false, false, false, none⟩]⟩], []⟩

/-- a repeated field: both declare it, the schema finds its first declaration, and the store has the
second one and no trace of the model.  A name with a dot: a field is found that neither declares -/
theorem sharedFacts_not_as_declared :
    (Run.catalogOf repeatedText = .ok repeatedCatalog ∧
      Schema.parse repeatedSource = .ok repeatedSchema ∧
      ((repeatedCatalog.model? "A").bind fun m => m.field? "x").isSome ∧
      ((repeatedSchema.field? "A" "x").map fun g =>
        (repeatedSchema.typeOf .empty g.type, g.type.nullable)) = some (.nullable .number, true) ∧
      ((sharedFacts repeatedCatalog repeatedSchema .empty).find? "A" "x").map (fun fact =>
        (fact.type, fact.nullable, fact.provenance)) = some (.string, false, .graphql)) ∧
    Catalog.ofBlocks dottedBlocks = .ok dottedCatalog ∧
      dottedCatalog.model? "A" = none ∧ repeatedSchema.declarationsOf "A" "b.c" = [] ∧
      ((sharedFacts dottedCatalog repeatedSchema .empty).find? "A" "b.c").isSome := by
  decide +kernel

/-- what is read from a text has no dots in its names -/
theorem reconciles_of_text {text : String} (hc : Run.catalogOf text = .ok catalog)
    (hs : Schema.parse source = .ok schema) (scalars : ScalarMap) :
    Reconciles catalog schema scalars (sharedFacts catalog schema scalars) := by
  obtain ⟨bs, hparse, hc⟩ := ok_of_bind hc
  exact reconciles_of_hasNoDots hc (Catalog.hasNoDots_of_parse hparse hc) hs scalars

end ResolverTypes
