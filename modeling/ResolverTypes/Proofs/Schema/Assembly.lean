import ResolverTypes.Proofs.Outcome
import ResolverTypes.Schema.Basic
import Mathlib.Data.List.Nodup

/-!
# How a schema is put together

A document is taken apart into the types it defines, the extensions of each of them and the names it
gives to the root operations.  These parts decide everything: whether there is a schema
(`IsConsistent`) and what it is (`assemble`).  Where extensions stand among the other definitions, and
among the extensions of other types, does not show in the parts (`SameParts`).

Each stage of `ofDefinitions` has a lemma that says when it succeeds and with what; together they are
`ofDefinitions_eq_ok_iff`.
-/

namespace ResolverTypes.Schema

/-! ## the parts of a document -/

/-- the types that are defined, extensions apart -/
def definedTypes (ds : List Definition) : List TypeDef :=
  ds.filterMap fun
    | .type t => some t
    | _ => none

def definedNames (ds : List Definition) : List String := (definedTypes ds).map (·.name)

/-- the extensions of a type, in document order -/
def extensionsOf (ds : List Definition) (name : String) : List TypeDef :=
  (extensions ds).filter fun e => e.name = name

/-- the names that schema blocks give to an operation, in document order -/
def rootsGiven (ds : List Definition) (op : Operation) : List String :=
  ds.filterMap fun
    | .schema roots => roots.get op
    | _ => none

/-- all that a type refers to satisfies `P` -/
structure TypeDef.RefersOnlyTo (P : String → Prop) (t : TypeDef) : Prop where
  fields : ∀ f ∈ t.fields, P f.type.baseName
  arguments : ∀ f ∈ t.fields, ∀ a ∈ f.arguments, P a.type.baseName
  members : ∀ name ∈ t.members, P name
  interfaces : ∀ name ∈ t.interfaces, P name

/-- the definitions of a document fit together -/
structure IsConsistent (ds : List Definition) : Prop where
  distinct : (definedNames ds).Nodup
  extended : ∀ e ∈ extensions ds, e.name ∈ definedNames ds
  known : ∀ t ∈ definedTypes ds ++ extensions ds,
    t.RefersOnlyTo fun name => isBuiltin name = true ∨ name ∈ definedNames ds
  rooted : ∀ op name, (rootsGiven ds op).getLast? = some name → name ∈ definedNames ds

/-- a type with what its extensions add -/
def TypeDef.extendBy (t : TypeDef) (exts : List TypeDef) : TypeDef :=
  { t with
    fields := t.fields ++ exts.flatMap (·.fields)
    enumValues := t.enumValues ++ exts.flatMap (·.enumValues)
    members := t.members ++ exts.flatMap (·.members)
    interfaces := t.interfaces ++ exts.flatMap (·.interfaces) }

/-- the last name given to an operation, or else the usual one if there is such a type -/
def rootOf (ds : List Definition) (op : Operation) : Option String :=
  (rootsGiven ds op).getLast?.or
    (if op.defaultType ∈ definedNames ds then some op.defaultType else none)

/-- the schema of a document, if its definitions fit together -/
def assemble (ds : List Definition) : Schema :=
  ⟨(definedTypes ds).map fun t => t.extendBy (extensionsOf ds t.name),
    ⟨rootOf ds .query, rootOf ds .mutation, rootOf ds .subscription⟩⟩

/-! ## types -/

theorem defines_iff {types : List TypeDef} {name : String} :
    defines types name = true ↔ name ∈ types.map (·.name) := by
  simp [defines]

theorem baseTypes_eq_ok_iff {seen : List String} {ds : List Definition} {ts : List TypeDef} :
    baseTypes seen ds = .ok ts ↔
      ts = definedTypes ds ∧ (definedNames ds).Nodup ∧ ∀ name ∈ definedNames ds, name ∉ seen := by
  induction ds generalizing seen ts with
  | nil =>
    show Except.ok [] = Except.ok ts ↔ ts = [] ∧ List.Nodup [] ∧ _
    simp [definedNames, definedTypes, eq_comm]
  | cons d ds ih =>
    cases d with
    | type t =>
      have hnames : definedNames (.type t :: ds) = t.name :: definedNames ds := rfl
      have htypes : definedTypes (.type t :: ds) = t :: definedTypes ds := rfl
      rw [hnames, htypes, List.nodup_cons]
      unfold baseTypes
      by_cases hseen : t.name ∈ seen
      · simp [hseen]
      · rw [if_neg (by simpa using hseen)]
        constructor
        · intro h
          obtain ⟨rest, hrest, h⟩ := ok_of_bind h
          cases h
          obtain ⟨rfl, hnodup, hnew⟩ := ih.mp hrest
          refine ⟨rfl, ⟨fun hmem => hnew _ hmem List.mem_cons_self, hnodup⟩, fun name hname => ?_⟩
          rcases List.mem_cons.mp hname with rfl | hname
          · exact hseen
          · exact fun h => hnew name hname (List.mem_cons_of_mem _ h)
        · rintro ⟨rfl, ⟨hfirst, hnodup⟩, hnew⟩
          have hrest : baseTypes (t.name :: seen) ds = .ok (definedTypes ds) := by
            refine ih.mpr ⟨rfl, hnodup, fun name hname hmem => ?_⟩
            rcases List.mem_cons.mp hmem with rfl | hmem
            · exact hfirst hname
            · exact hnew name (List.mem_cons_of_mem _ hname) hmem
          rw [hrest]
          rfl
    | schema _ => exact ih
    | extension _ => exact ih
    | directive => exact ih

/-! ## extensions -/

theorem TypeDef.extendBy_nil (t : TypeDef) : t.extendBy [] = t := by
  simp [extendBy]

theorem TypeDef.extendBy_cons (t e : TypeDef) (exts : List TypeDef) :
    t.extendBy (e :: exts) = (t.extend e).extendBy exts := by
  simp [extendBy, extend]

theorem extendTypes_eq_ok_iff {types ts : List TypeDef} {e : TypeDef} :
    extendTypes types e = .ok ts ↔
      e.name ∈ types.map (·.name) ∧
        ts = types.map fun t => if t.name = e.name then t.extend e else t := by
  unfold extendTypes
  rw [← defines_iff]
  split
  · next h => simp [h, eq_comm]
  · next h => simp [h]

theorem extendAll_eq_ok_iff {types ts exts : List TypeDef} :
    extendAll types exts = .ok ts ↔
      (∀ e ∈ exts, e.name ∈ types.map (·.name)) ∧
        ts = types.map fun t => t.extendBy (exts.filter fun e => e.name = t.name) := by
  induction exts generalizing types with
  | nil =>
    show Except.ok types = Except.ok ts ↔ _
    simp [TypeDef.extendBy_nil, eq_comm]
  | cons e exts ih =>
    -- one extension changes neither the names nor their order
    have hnames : ∀ t : TypeDef, (if t.name = e.name then t.extend e else t).name = t.name := by
      intro t
      split <;> rfl
    have hstep : ∀ t : TypeDef,
        (if t.name = e.name then t.extend e else t).extendBy
            (exts.filter fun e' => e'.name = t.name) =
          t.extendBy ((e :: exts).filter fun e' => e'.name = t.name) := by
      intro t
      by_cases h : t.name = e.name
      · rw [List.filter_cons, if_pos h, if_pos (by simp [h]), TypeDef.extendBy_cons]
      · rw [List.filter_cons, if_neg h, if_neg (by simp [Ne.symm h])]
    rw [List.forall_mem_cons]
    constructor
    · intro h
      obtain ⟨mid, hmid, hrest⟩ := ok_of_bind h
      obtain ⟨hfirst, rfl⟩ := extendTypes_eq_ok_iff.mp hmid
      obtain ⟨hexts, rfl⟩ := ih.mp hrest
      simp only [List.map_map, Function.comp_def, hnames] at hexts
      refine ⟨⟨hfirst, hexts⟩, ?_⟩
      simp only [List.map_map, Function.comp_def, hnames, hstep]
    · rintro ⟨⟨hfirst, hexts⟩, rfl⟩
      have hmid : extendTypes types e =
          .ok (types.map fun t => if t.name = e.name then t.extend e else t) :=
        extendTypes_eq_ok_iff.mpr ⟨hfirst, rfl⟩
      show (extendTypes types e >>= fun mid => extendAll mid exts) = _
      rw [hmid]
      refine ih.mpr ⟨?_, ?_⟩
      · simpa only [List.map_map, Function.comp_def, hnames] using hexts
      · simp only [List.map_map, Function.comp_def, hnames, hstep]

/-! ## references -/

theorem refersOnlyTo_iff {P : String → Prop} {t : TypeDef} :
    t.RefersOnlyTo P ↔ ∀ r ∈ references t, P r.1 := by
  constructor
  · intro h r hr
    rcases List.mem_append.mp hr with hr | hr
    · obtain ⟨f, hf, hr⟩ := List.mem_flatMap.mp hr
      rcases List.mem_cons.mp hr with rfl | hr
      · exact h.fields f hf
      · obtain ⟨a, ha, rfl⟩ := List.mem_map.mp hr
        exact h.arguments f hf a ha
    · obtain ⟨name, hname, rfl⟩ := List.mem_map.mp hr
      exact (List.mem_append.mp hname).elim (h.members name) (h.interfaces name)
  · intro h
    have hfield : ∀ f ∈ t.fields, ∀ r ∈ fieldReferences t.name f, P r.1 := fun f hf r hr =>
      h r (List.mem_append_left _ (List.mem_flatMap.mpr ⟨f, hf, hr⟩))
    have hname : ∀ name ∈ t.members ++ t.interfaces, P name := fun name hname =>
      h (name, t.name) (List.mem_append_right _ (List.mem_map_of_mem hname))
    refine ⟨fun f hf => ?_, fun f hf a ha => ?_, fun name hm => ?_, fun name hi => ?_⟩
    · exact hfield f hf _ List.mem_cons_self
    · exact hfield f hf _ (List.mem_cons_of_mem _ (List.mem_map_of_mem ha))
    · exact hname name (List.mem_append_left _ hm)
    · exact hname name (List.mem_append_right _ hi)

theorem checkReferences_eq_ok_iff {types : List TypeDef} :
    checkReferences types = .ok () ↔
      ∀ t ∈ types, t.RefersOnlyTo fun name => isBuiltin name = true ∨ name ∈ types.map (·.name) := by
  have hall : checkReferences types = .ok () ↔
      ∀ r ∈ types.flatMap references, isKnown types r.1 = true := by
    unfold checkReferences
    split
    · next name place hfind =>
      have hmem := List.mem_of_find?_eq_some hfind
      have hunknown : isKnown types name = false := by simpa using List.find?_some hfind
      constructor
      · nofun
      · intro h
        rw [h _ hmem] at hunknown
        cases hunknown
    · next hfind =>
      rw [List.find?_eq_none] at hfind
      simpa using hfind
  have hknown : ∀ name, isKnown types name = true ↔
      isBuiltin name = true ∨ name ∈ types.map (·.name) := by
    intro name
    unfold isKnown
    rw [Bool.or_eq_true, defines_iff]
  rw [hall]
  simp only [hknown, List.mem_flatMap, refersOnlyTo_iff]
  exact ⟨fun h t ht r hr => h r ⟨t, ht, hr⟩, fun h r ⟨t, ht, hr⟩ => h t ht r hr⟩

theorem TypeDef.refersOnlyTo_extendBy {P : String → Prop} {t : TypeDef} {exts : List TypeDef} :
    (t.extendBy exts).RefersOnlyTo P ↔ ∀ u ∈ t :: exts, u.RefersOnlyTo P := by
  constructor
  · intro h u hu
    rcases List.mem_cons.mp hu with rfl | hu
    · exact ⟨fun f hf => h.fields f (List.mem_append_left _ hf),
        fun f hf => h.arguments f (List.mem_append_left _ hf),
        fun name hm => h.members name (List.mem_append_left _ hm),
        fun name hi => h.interfaces name (List.mem_append_left _ hi)⟩
    · have hin {α : Type} {part : TypeDef → List α} (own : List α) {x : α} (hx : x ∈ part u) :
          x ∈ own ++ exts.flatMap part := List.mem_append_right _ (List.mem_flatMap.mpr ⟨u, hu, hx⟩)
      exact ⟨fun f hf => h.fields f (hin _ hf), fun f hf => h.arguments f (hin _ hf),
        fun name hm => h.members name (hin _ hm), fun name hi => h.interfaces name (hin _ hi)⟩
  · intro h
    have hout {α : Type} {part : TypeDef → List α} {x : α} (hx : x ∈ part t ++ exts.flatMap part) :
        ∃ u ∈ t :: exts, x ∈ part u := by
      rcases List.mem_append.mp hx with hx | hx
      · exact ⟨t, List.mem_cons_self, hx⟩
      · obtain ⟨u, hu, hx⟩ := List.mem_flatMap.mp hx
        exact ⟨u, List.mem_cons_of_mem _ hu, hx⟩
    refine ⟨fun f hf => ?_, fun f hf => ?_, fun name hm => ?_, fun name hi => ?_⟩
    · obtain ⟨u, hu, hf⟩ := hout hf
      exact (h u hu).fields f hf
    · obtain ⟨u, hu, hf⟩ := hout hf
      exact (h u hu).arguments f hf
    · obtain ⟨u, hu, hm⟩ := hout hm
      exact (h u hu).members name hm
    · obtain ⟨u, hu, hi⟩ := hout hi
      exact (h u hu).interfaces name hi

theorem mem_extensionsOf {ds : List Definition} {name : String} {e : TypeDef} :
    e ∈ extensionsOf ds name ↔ e ∈ extensions ds ∧ e.name = name := by
  simp [extensionsOf]

theorem names_assemble (ds : List Definition) :
    (assemble ds).types.map (·.name) = definedNames ds := by
  unfold assemble definedNames
  rw [List.map_map]
  rfl

/-- what is checked of the types with their extensions holds of the parts they are made of -/
theorem refersOnlyTo_assemble {P : String → Prop} {ds : List Definition}
    (h : ∀ e ∈ extensions ds, e.name ∈ definedNames ds) :
    (∀ t ∈ (assemble ds).types, t.RefersOnlyTo P) ↔
      ∀ t ∈ definedTypes ds ++ extensions ds, t.RefersOnlyTo P := by
  have hparts : (∀ t ∈ (assemble ds).types, t.RefersOnlyTo P) ↔
      ∀ t ∈ definedTypes ds, ∀ u ∈ t :: extensionsOf ds t.name, u.RefersOnlyTo P := by
    show (∀ t ∈ (definedTypes ds).map fun t => t.extendBy (extensionsOf ds t.name), _) ↔ _
    rw [List.forall_mem_map]
    exact forall₂_congr fun t _ => TypeDef.refersOnlyTo_extendBy
  rw [hparts]
  constructor
  · intro hall u hu
    rcases List.mem_append.mp hu with hu | hu
    · exact hall u hu u List.mem_cons_self
    · obtain ⟨t, ht, hname⟩ := List.mem_map.mp (h u hu)
      exact hall t ht u (List.mem_cons_of_mem _ (mem_extensionsOf.mpr ⟨hu, hname.symm⟩))
  · intro hall t ht u hu
    rcases List.mem_cons.mp hu with rfl | hu
    · exact hall u (List.mem_append_left _ ht)
    · exact hall u (List.mem_append_right _ (mem_extensionsOf.mp hu).1)

/-! ## roots -/

theorem Roots.get_override (earlier later : Roots) (op : Operation) :
    (earlier.override later).get op = (later.get op).or (earlier.get op) := by
  cases op <;> simp [override, get, Option.orElse_eq_or]

/-- the last block that names an operation decides -/
theorem declaredRoots_get (ds : List Definition) (op : Operation) :
    (declaredRoots ds).get op = (rootsGiven ds op).getLast? := by
  have hnone : Roots.none.get op = none := by cases op <;> rfl
  rw [← Option.or_none (o := (rootsGiven ds op).getLast?), ← hnone]
  unfold declaredRoots
  -- from any roots, those that were there before stay where no block names the operation
  generalize Roots.none = r
  induction ds generalizing r with
  | nil => rfl
  | cons d ds ih =>
    cases d with
    | schema roots =>
      rw [List.foldl_cons, ih, Roots.get_override]
      cases hop : roots.get op with
      | none =>
        have hgiven : rootsGiven (.schema roots :: ds) op = rootsGiven ds op :=
          List.filterMap_cons_none hop
        rw [hgiven, Option.none_or]
      | some name =>
        have hgiven : rootsGiven (.schema roots :: ds) op = name :: rootsGiven ds op :=
          List.filterMap_cons_some hop
        rw [hgiven, List.getLast?_cons]
        cases (rootsGiven ds op).getLast? <;> rfl
    | type _ => exact ih r
    | extension _ => exact ih r
    | directive => exact ih r

theorem resolveRoot_eq_ok_iff {ds : List Definition} {types : List TypeDef}
    (hnames : types.map (·.name) = definedNames ds) {op : Operation} {root : Option String} :
    resolveRoot types (declaredRoots ds) op = .ok root ↔
      (∀ name, (rootsGiven ds op).getLast? = some name → name ∈ definedNames ds) ∧
        root = rootOf ds op := by
  unfold resolveRoot rootOf
  rw [declaredRoots_get]
  have hdefines : ∀ name, defines types name = true ↔ name ∈ definedNames ds := by
    intro name
    rw [defines_iff, hnames]
  cases (rootsGiven ds op).getLast? with
  | none => simp [hdefines, eq_comm]
  | some name =>
    by_cases h : name ∈ definedNames ds
    · simp [hdefines, h, eq_comm]
    · simp [hdefines, h]

/-! ## schemas -/

theorem isConsistent_of_ofDefinitions {ds : List Definition} {s : Schema}
    (h : ofDefinitions ds = .ok s) : IsConsistent ds ∧ s = assemble ds := by
  have hnames := names_assemble ds
  obtain ⟨base, hbase, h⟩ := ok_of_bind h
  obtain ⟨rfl, hdistinct, -⟩ := baseTypes_eq_ok_iff.mp hbase
  obtain ⟨types, htypes, h⟩ := ok_of_bind h
  obtain ⟨hextended, rfl⟩ := extendAll_eq_ok_iff.mp htypes
  obtain ⟨_, hrefs, h⟩ := ok_of_bind h
  have hknown := checkReferences_eq_ok_iff.mp hrefs
  obtain ⟨query, hquery, h⟩ := ok_of_bind h
  obtain ⟨hq, rfl⟩ := (resolveRoot_eq_ok_iff hnames).mp hquery
  obtain ⟨mutation, hmutation, h⟩ := ok_of_bind h
  obtain ⟨hm, rfl⟩ := (resolveRoot_eq_ok_iff hnames).mp hmutation
  obtain ⟨subscription, hsubscription, h⟩ := ok_of_bind h
  obtain ⟨hs, rfl⟩ := (resolveRoot_eq_ok_iff hnames).mp hsubscription
  cases h
  refine ⟨⟨hdistinct, hextended, ?_, fun op => ?_⟩, rfl⟩
  · rw [← hnames]
    exact (refersOnlyTo_assemble hextended).mp hknown
  · cases op with
    | query => exact hq
    | mutation => exact hm
    | subscription => exact hs

theorem IsConsistent.ofDefinitions_eq {ds : List Definition} (h : IsConsistent ds) :
    ofDefinitions ds = .ok (assemble ds) := by
  have hbase : baseTypes [] ds = .ok (definedTypes ds) :=
    baseTypes_eq_ok_iff.mpr ⟨rfl, h.distinct, fun _ _ => List.not_mem_nil⟩
  have htypes : extendAll (definedTypes ds) (extensions ds) = .ok (assemble ds).types :=
    extendAll_eq_ok_iff.mpr ⟨h.extended, rfl⟩
  have hrefs : checkReferences (assemble ds).types = .ok () := by
    rw [checkReferences_eq_ok_iff, names_assemble, refersOnlyTo_assemble h.extended]
    exact h.known
  have hroots (op : Operation) :
      resolveRoot (assemble ds).types (declaredRoots ds) op = .ok (rootOf ds op) :=
    (resolveRoot_eq_ok_iff (names_assemble ds)).mpr ⟨h.rooted op, rfl⟩
  unfold ofDefinitions
  rw [hbase]
  dsimp only [bind, Except.bind]
  rw [htypes]
  dsimp only
  rw [hrefs]
  dsimp only
  rw [hroots .query]
  dsimp only
  rw [hroots .mutation]
  dsimp only
  rw [hroots .subscription]
  rfl

theorem ofDefinitions_eq_ok_iff {ds : List Definition} {s : Schema} :
    ofDefinitions ds = .ok s ↔ IsConsistent ds ∧ s = assemble ds := by
  constructor
  · exact isConsistent_of_ofDefinitions
  · rintro ⟨h, rfl⟩
    exact h.ofDefinitions_eq

theorem parse_eq_ok_iff {source : String} {ds : List Definition} (h : Sdl.parse? source = some ds)
    {s : Schema} : parse source = .ok s ↔ IsConsistent ds ∧ s = assemble ds := by
  unfold parse
  rw [h]
  exact ofDefinitions_eq_ok_iff

/-- the root types of a schema are among its types -/
theorem rootNames_assemble {ds : List Definition} (h : IsConsistent ds) :
    ∀ name ∈ (assemble ds).rootNames, name ∈ definedNames ds := by
  have hroot : ∀ op name, rootOf ds op = some name → name ∈ definedNames ds := by
    intro op name hname
    unfold rootOf at hname
    rcases Option.or_eq_some_iff.mp hname with hlast | ⟨-, hdefault⟩
    · exact h.rooted op name hlast
    · split at hdefault
      · next hmem =>
        cases hdefault
        exact hmem
      · cases hdefault
  intro name hname
  obtain ⟨root, hmem, hroot'⟩ := List.mem_filterMap.mp hname
  simp only [List.mem_cons, List.not_mem_nil, or_false] at hmem
  rcases hmem with rfl | rfl | rfl
  · exact hroot .query name hroot'
  · exact hroot .mutation name hroot'
  · exact hroot .subscription name hroot'

/-! ## the order of definitions -/

/-- two documents have the same parts -/
structure SameParts (ds ds' : List Definition) : Prop where
  types : definedTypes ds = definedTypes ds'
  added : ∀ name, extensionsOf ds name = extensionsOf ds' name
  roots : ∀ op, rootsGiven ds op = rootsGiven ds' op

theorem SameParts.symm {ds ds' : List Definition} (h : SameParts ds ds') : SameParts ds' ds :=
  ⟨h.types.symm, fun name => (h.added name).symm, fun op => (h.roots op).symm⟩

theorem SameParts.names {ds ds' : List Definition} (h : SameParts ds ds') :
    definedNames ds = definedNames ds' := by
  unfold definedNames
  rw [h.types]

theorem SameParts.isConsistent {ds ds' : List Definition} (h : SameParts ds ds')
    (hds : IsConsistent ds) : IsConsistent ds' := by
  have hnames := h.names
  have hmem : ∀ e ∈ extensions ds', e ∈ extensions ds := by
    intro e he
    have hof : e ∈ extensionsOf ds' e.name := mem_extensionsOf.mpr ⟨he, rfl⟩
    rw [← h.added] at hof
    exact (mem_extensionsOf.mp hof).1
  constructor
  · rw [← hnames]
    exact hds.distinct
  · intro e he
    rw [← hnames]
    exact hds.extended e (hmem e he)
  · intro t ht
    rw [← hnames]
    refine hds.known t ?_
    rw [← h.types] at ht
    exact (List.mem_append.mp ht).elim (List.mem_append_left _)
      fun he => List.mem_append_right _ (hmem t he)
  · intro op name hname
    rw [← h.roots] at hname
    rw [← hnames]
    exact hds.rooted op name hname

theorem SameParts.assemble_eq {ds ds' : List Definition} (h : SameParts ds ds') :
    assemble ds = assemble ds' := by
  have hroot : ∀ op, rootOf ds op = rootOf ds' op := by
    intro op
    unfold rootOf
    rw [h.roots, h.names]
  unfold assemble
  simp only [h.types, h.added, hroot]

theorem extensionsOf_append (ds ds' : List Definition) (name : String) :
    extensionsOf (ds ++ ds') name = extensionsOf ds name ++ extensionsOf ds' name := by
  unfold extensionsOf extensions
  rw [List.filterMap_append, List.filter_append]

/-- an extension may stand before or after definitions that do not extend the same type -/
theorem sameParts_of_move (before passed after : List Definition) {e : TypeDef}
    (h : ∀ x ∈ extensions passed, x.name ≠ e.name) :
    SameParts (before ++ ([.extension e] ++ (passed ++ after)))
      (before ++ (passed ++ ([.extension e] ++ after))) := by
  constructor
  · simp only [definedTypes, List.filterMap_append]
    rfl
  · intro name
    have hswap : extensionsOf [.extension e] name ++ extensionsOf passed name =
        extensionsOf passed name ++ extensionsOf [.extension e] name := by
      by_cases hname : e.name = name
      · have hnone : extensionsOf passed name = [] := by
          refine List.filter_eq_nil_iff.mpr fun x hx => ?_
          simpa [← hname] using h x hx
        rw [hnone, List.append_nil, List.nil_append]
      · have hnone : extensionsOf [.extension e] name = [] :=
          List.filter_eq_nil_iff.mpr fun x hx => by
            rw [List.mem_singleton.mp hx]
            simpa using hname
        rw [hnone, List.append_nil, List.nil_append]
    simp only [extensionsOf_append]
    rw [← List.append_assoc (extensionsOf [.extension e] name), hswap, List.append_assoc]
  · intro op
    simp only [rootsGiven, List.filterMap_append]
    rfl

/-! ## documents -/

/-- what a schema is made of -/
structure Assembles (ds : List Definition) (s : Schema) : Prop where
  /-- the types in order of their definitions, each with the parts of its extensions at the end -/
  types : s.types = (definedTypes ds).map fun t =>
    { t with
      fields := t.fields ++ (extensionsOf ds t.name).flatMap (·.fields)
      enumValues := t.enumValues ++ (extensionsOf ds t.name).flatMap (·.enumValues)
      members := t.members ++ (extensionsOf ds t.name).flatMap (·.members)
      interfaces := t.interfaces ++ (extensionsOf ds t.name).flatMap (·.interfaces) }
  /-- the last name given to an operation, or else the usual one if there is such a type -/
  roots : ∀ op, s.roots.get op = (rootsGiven ds op).getLast?.or
    (if op.defaultType ∈ definedNames ds then some op.defaultType else none)
  /-- the root types are defined -/
  rooted : ∀ name ∈ s.rootNames, (s.type? name).isSome = true

theorem assembles_assemble {ds : List Definition} (h : IsConsistent ds) :
    Assembles ds (assemble ds) := by
  refine ⟨rfl, fun op => by cases op <;> rfl, fun name hname => ?_⟩
  have hmem := rootNames_assemble h name hname
  rw [← names_assemble] at hmem
  obtain ⟨t, ht, hname⟩ := List.mem_map.mp hmem
  unfold type? findType?
  rw [List.find?_isSome]
  exact ⟨t, ht, by simpa using hname⟩

/-- **how schemas are put together**: a document is accepted exactly if its definitions are consistent,
the schema is assembled from them, and an extension may be moved past all that does not extend the same
type -/
theorem parse_assembles {source : String} {ds : List Definition} (h : Sdl.parse? source = some ds) :
    ((∃ s, parse source = .ok s) ↔ IsConsistent ds) ∧
    (∀ s, parse source = .ok s → Assembles ds s) ∧
    (∀ (before passed after : List Definition) (e : TypeDef) (moved : String),
      ds = before ++ .extension e :: (passed ++ after) →
      (∀ x ∈ extensions passed, x.name ≠ e.name) →
      Sdl.parse? moved = some (before ++ (passed ++ .extension e :: after)) →
        ∀ s, parse source = .ok s ↔ parse moved = .ok s) := by
  refine ⟨?_, fun s hs => ?_, ?_⟩
  · simp only [parse_eq_ok_iff h, exists_and_left, exists_eq, and_true]
  · obtain ⟨hds, rfl⟩ := (parse_eq_ok_iff h).mp hs
    exact assembles_assemble hds
  · intro before passed after e moved hsplit hpassed hmoved s
    have hparts := sameParts_of_move before passed after hpassed
    subst hsplit
    rw [parse_eq_ok_iff h, parse_eq_ok_iff hmoved]
    exact and_congr ⟨hparts.isConsistent, hparts.symm.isConsistent⟩
      (Eq.congr_right hparts.assemble_eq)

/-- two extensions before their types, and a second block that gives the query another type -/
def earlySource : String :=
  "extend type B\x7bc:A\x7d schema\x7bquery:A\x7d type A\x7bb(x:Int):[B!]\x7d extend union U=B " ++
    "union U=A extend schema\x7bquery:B\x7d type B"

/-- the first extension at the end -/
def lateSource : String :=
  "schema\x7bquery:A\x7d type A\x7bb(x:Int):[B!]\x7d extend union U=B " ++
    "union U=A extend schema\x7bquery:B\x7d type B extend type B\x7bc:A\x7d"

def objectB (fields : List Field) : TypeDef := ⟨"B", .object, none, fields, [], [], []⟩

def fieldC : Field := ⟨"c", .named "A" true, [], none⟩

def objectA : TypeDef :=
  ⟨"A", .object, none,
    [⟨"b", .list (.named "B" false) true, [⟨"x", .named "Int" true, false⟩], none⟩], [], [], []⟩

def unionU (members : List String) : TypeDef := ⟨"U", .union, none, [], [], members, []⟩

def passedDefinitions : List Definition :=
  [.schema ⟨some "A", none, none⟩, .type objectA, .extension (unionU ["B"]), .type (unionU ["A"]),
    .schema ⟨some "B", none, none⟩, .type (objectB [])]

def earlySchema : Schema :=
  ⟨[objectA, unionU ["A", "B"], objectB [fieldC]], ⟨some "B", none, none⟩⟩

theorem parse_assembles_early :
    Sdl.parse? earlySource = some (.extension (objectB [fieldC]) :: passedDefinitions) ∧
    IsConsistent (.extension (objectB [fieldC]) :: passedDefinitions) ∧
    Assembles (.extension (objectB [fieldC]) :: passedDefinitions) earlySchema ∧
    parse earlySource = .ok earlySchema ∧ parse lateSource = .ok earlySchema := by
  have hsource : Sdl.parse? earlySource =
      some (.extension (objectB [fieldC]) :: passedDefinitions) := by decide +kernel
  have hlate : Sdl.parse? lateSource =
      some (passedDefinitions ++ [.extension (objectB [fieldC])]) := by decide +kernel
  have hschema : parse earlySource = .ok earlySchema := by decide +kernel
  obtain ⟨hiff, hassembles, hmove⟩ := parse_assembles hsource
  have hpassed : ∀ x ∈ extensions passedDefinitions, x.name ≠ (objectB [fieldC]).name := by
    decide +kernel
  have hsplit : Definition.extension (objectB [fieldC]) :: passedDefinitions =
      [] ++ .extension (objectB [fieldC]) :: (passedDefinitions ++ []) := by
    rw [List.append_nil, List.nil_append]
  have hsame := hmove [] passedDefinitions [] (objectB [fieldC]) lateSource hsplit hpassed hlate
  exact ⟨hsource, hiff.mp ⟨_, hschema⟩, hassembles _ hschema, hschema, (hsame _).mp hschema⟩

end ResolverTypes.Schema
