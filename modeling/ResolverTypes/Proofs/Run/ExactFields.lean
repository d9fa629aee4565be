import ResolverTypes.Proofs.Run.FunctionFacts
import ResolverTypes.Proofs.Service.Ranking

/-!
# The fields that functions are matched with

The facts of the two schemas are kept under one kind of key, so a look-up for a type and a field finds
what GraphQL declares or else a column of the model of that name (`type_find?_sharedFacts`).  The only
object type that declares a field is a match by its declaration.  But the roots and the type that an
exported object stands for are looked up without asking whether they declare the field, so a column that
GraphQL does not show is a match there.

* `IsHidden`                     a column of which GraphQL declares no field;
* `FunctionFact.FollowsFields`   what a match with a field says about the field;
* `exactFields_of_run`           it holds of every function of a run.
-/

namespace ResolverTypes
open Text DataModel

/-! ## the type of a field -/

/-- the type of the column of that name in the model of that name -/
def DataModel.Catalog.columnType? (c : Catalog) (typeName fieldName : String) : Option TypeExpr :=
  (c.model? typeName).bind fun m => (m.field? fieldName).map fun d => d.typeExpr c

theorem DataModel.Catalog.map_type_fact? (c : Catalog) (typeName fieldName : String) :
    (c.fact? typeName fieldName).map (·.type) = c.columnType? typeName fieldName := by
  unfold fact? columnType?
  cases c.model? typeName with
  | none => rfl
  | some m =>
    rw [Option.bind_some, Option.bind_some, Option.map_map]
    rfl

section
variable {text source : String} {catalog : Catalog} {schema : Schema}

/-- the last declaration gives a field its type, and a column does if there is no declaration -/
theorem type_find?_sharedFacts (hc : Run.catalogOf text = .ok catalog)
    (hs : Schema.parse source = .ok schema) (scalars : ScalarMap) (typeName fieldName : String) :
    ((sharedFacts catalog schema scalars).find? typeName fieldName).map (·.type) =
      ((schema.declarationsOf typeName fieldName).getLast?.map fun g => schema.typeOf scalars g.type).or
        (catalog.columnType? typeName fieldName) := by
  obtain ⟨bs, hparse, hc⟩ := ok_of_bind hc
  rw [find?_sharedFacts hc (Catalog.hasNoDots_of_parse hparse hc) hs]
  rcases List.eq_nil_or_concat (schema.declarationsOf typeName fieldName) with hnil | ⟨before, g, hlast⟩
  · rw [hnil]
    exact catalog.map_type_fact? typeName fieldName
  · rw [hlast, List.concat_eq_append, List.map_append, List.foldl_append, List.getLast?_concat]
    -- whatever was stored before, the last declaration loses at most its provenance
    generalize (before.map _).foldl _ _ = stored
    show some (FieldFacts.reconcile stored (schema.fieldFact scalars typeName g)).type = _
    rw [FieldFacts.reconcile_eq]
    rfl

/-- GraphQL declares no field for a column of the model of that name -/
def IsHidden (catalog : Catalog) (schema : Schema) (typeName fieldName : String) : Prop :=
  schema.declarationsOf typeName fieldName = [] ∧ (catalog.columnType? typeName fieldName).isSome

variable {scalars : ScalarMap} {typeName fieldName : String}

/-- a known field is declared or a hidden column, and has its type from there -/
theorem type_of_find? (hc : Run.catalogOf text = .ok catalog) (hs : Schema.parse source = .ok schema)
    {fact : FieldFact}
    (h : (sharedFacts catalog schema scalars).find? typeName fieldName = some fact) :
    (∃ g ∈ schema.declarationsOf typeName fieldName, fact.type = schema.typeOf scalars g.type) ∨
      IsHidden catalog schema typeName fieldName ∧
        catalog.columnType? typeName fieldName = some fact.type := by
  have htype := type_find?_sharedFacts hc hs scalars typeName fieldName
  rw [h, Option.map_some] at htype
  rcases Option.or_eq_some_iff.mp htype.symm with hdeclared | ⟨hnone, hcolumn⟩
  · obtain ⟨g, hlast, hg⟩ := Option.map_eq_some_iff.mp hdeclared
    exact .inl ⟨g, List.mem_of_getLast? hlast, hg.symm⟩
  · rw [Option.map_eq_none_iff, List.getLast?_eq_none_iff] at hnone
    refine .inr ⟨⟨hnone, ?_⟩, hcolumn⟩
    rw [hcolumn]
    rfl

theorem find?_eq_none_iff (hc : Run.catalogOf text = .ok catalog) (hs : Schema.parse source = .ok schema) :
    (sharedFacts catalog schema scalars).find? typeName fieldName = none ↔
      schema.declarationsOf typeName fieldName = [] ∧ catalog.columnType? typeName fieldName = none := by
  have htype := type_find?_sharedFacts hc hs scalars typeName fieldName
  rw [← Option.map_eq_none_iff (f := FieldFact.type), htype, Option.or_eq_none_iff,
    Option.map_eq_none_iff, List.getLast?_eq_none_iff]

theorem IsHidden.find? (hc : Run.catalogOf text = .ok catalog) (hs : Schema.parse source = .ok schema)
    (h : IsHidden catalog schema typeName fieldName) (scalars : ScalarMap) :
    ∃ fact, (sharedFacts catalog schema scalars).find? typeName fieldName = some fact := by
  rw [← Option.ne_none_iff_exists', Ne, find?_eq_none_iff hc hs]
  rintro ⟨-, hnone⟩
  have hcolumn := h.2
  rw [hnone] at hcolumn
  cases hcolumn

end

/-! ## the fields of matches -/

/-- how a function of a script, which belongs to the type `owner` or to none, may be matched with a
field -/
structure FunctionFact.FollowsFields (catalog : Catalog) (schema : Schema) (scalars : ScalarMap)
    (owner : Option String) (f : Script.Function) (fact : FunctionFact) : Prop where
  /-- a field that is no hidden column is declared, and a declaration gives the result its type -/
  declared {t n : String} : fact.resolution = .exactField t n → ¬IsHidden catalog schema t n →
    ∃ g ∈ schema.declarationsOf t n, fact.returnType = schema.typeOf scalars g.type
  /-- a hidden column gives the result its type; it is one of the type the function belongs to, or of a
  root -/
  hidden {t n : String} : fact.resolution = .exactField t n → IsHidden catalog schema t n →
    catalog.columnType? t n = some fact.returnType ∧
      (owner = some t ∨ owner = none ∧ t ∈ schema.rootNames)
  /-- a function that belongs to a type and is named like a hidden column is matched with it -/
  member {t : String} : owner = some t → f.isAnnotated = false → IsHidden catalog schema t f.name →
    fact.resolution = .exactField t f.name
  /-- so is a function that belongs to none and is named like a hidden column of a root, if the roots
  before it have neither a field nor a column of that name -/
  function {before after : List String} {t : String} : owner = none → f.isAnnotated = false →
    schema.rootNames = before ++ t :: after →
      (∀ r ∈ before, schema.declarationsOf r f.name = [] ∧ catalog.columnType? r f.name = none) →
        IsHidden catalog schema t f.name → fact.resolution = .exactField t f.name

section
variable {project : Project} {f : Script.Function}

theorem analyzeMember_of_find? (h : f.isAnnotated = false) {owner : String} {fact : FieldFact}
    (hfact : project.facts.find? owner f.name = some fact) :
    analyzeMember project owner f = inferred f (owner ++ "." ++ f.name) (some owner) "obj"
      (.exactField owner f.name) (.ofField fact) := by
  unfold analyzeMember
  rw [h, hfact]
  rfl

/-- a function that belongs to no type is matched with a root or with a type that declares the field -/
theorem root_or_declares (hp : project.LooksUp f.name) {t n : String}
    (h : (analyzeFunction project f).fact.resolution = .exactField t n) :
    t ∈ project.schema.rootNames ∨ project.schema.declarationsOf t n ≠ [] := by
  cases hannotated : f.isAnnotated with
  | true =>
    unfold analyzeFunction at h
    rw [hannotated] at h
    cases h
  | false =>
    rcases project.firstRoot_or_noRoot f.name with ⟨root, fact, hroot⟩ | hnone
    · rw [analyzeFunction_of_firstRoot hannotated hp hroot] at h
      cases h
      exact .inl hroot.mem
    by_cases hunique : ∃! u, project.schema.Declares u f.name
    · obtain ⟨u, hone, honly⟩ := hunique
      obtain ⟨fact, -, hfact⟩ := analyzeFunction_of_only hannotated hp hnone hone honly
      rw [hfact] at h
      cases h
      exact .inr (hone.declarationsOf_ne_nil hp.distinct)
    · -- no field is left, so the match would be one with a verb and a model
      have hfield := hp.exactField?_of_not_unique hnone hunique
      cases hcrud : crudMatch? project.catalog f.name with
      | none =>
        rw [analyzeFunction_of_none hannotated hfield hcrud] at h
        cases h
      | some found =>
        rw [analyzeFunction_of_crudMatch hannotated hfield hcrud] at h
        cases h

end

section
variable {text source : String} {catalog : Catalog} {schema : Schema}
variable (hc : Run.catalogOf text = .ok catalog) (hs : Schema.parse source = .ok schema)
include hc hs

/-- the known field behind a match, and whose field it is -/
theorem known_of_exactField {scalars : ScalarMap} {owner : Option String} {f : Script.Function}
    {t n : String}
    (h : (factOf (Project.of catalog schema scalars) owner f).resolution = .exactField t n) :
    (∃ known, (sharedFacts catalog schema scalars).find? t n = some known ∧
      (factOf (Project.of catalog schema scalars) owner f).returnType = known.type) ∧
    (owner = some t ∨ owner = none ∧ (t ∈ schema.rootNames ∨ schema.declarationsOf t n ≠ [])) := by
  obtain ⟨blocks, -, hblocks⟩ := ok_of_bind hc
  cases owner with
  | none =>
    have hkeyed : (Project.of catalog schema scalars).facts.IsKeyed :=
      sharedFacts_isKeyed catalog schema scalars
    have hsound := analyzeFunction_isSound hkeyed hblocks f
    have hp := Project.looksUp_of hs catalog scalars (Catalog.keepsApart_of_text hc f.name)
    exact ⟨(hsound.exactField t n h).1, .inr ⟨rfl, root_or_declares hp h⟩⟩
  | some o =>
    have hsound : (analyzeMember (Project.of catalog schema scalars) o f).fact.IsSound
        (Project.of catalog schema scalars).facts blocks (some o) f := analyzeMember_isSound o f
    obtain ⟨hknown, howner⟩ := hsound.exactField t n h
    exact ⟨hknown, .inl (congrArg some (howner o rfl).symm)⟩

theorem factOf_followsFields (scalars : ScalarMap) (owner : Option String) (f : Script.Function) :
    (factOf (Project.of catalog schema scalars) owner f).FollowsFields catalog schema scalars owner f := by
  constructor
  case declared =>
    intro t n h hshown
    obtain ⟨⟨known, hfind, hreturn⟩, -⟩ := known_of_exactField hc hs h
    rw [hreturn]
    exact (type_of_find? hc hs hfind).resolve_right fun hcolumn => hshown hcolumn.1
  case hidden =>
    intro t n h hhidden
    obtain ⟨⟨known, hfind, hreturn⟩, howner⟩ := known_of_exactField hc hs h
    refine ⟨?_, howner.imp_right fun hnone => ⟨hnone.1, hnone.2.resolve_right fun hne => hne hhidden.1⟩⟩
    rw [hreturn]
    -- a hidden column has no declaration to take the type from
    rcases type_of_find? hc hs hfind with ⟨g, hg, -⟩ | ⟨-, hcolumn⟩
    · rw [hhidden.1] at hg
      cases hg
    · exact hcolumn
  case member =>
    intro t howner hannotated hhidden
    obtain ⟨fact, hfact⟩ := hhidden.find? hc hs scalars
    subst howner
    show (analyzeMember (Project.of catalog schema scalars) t f).fact.resolution = _
    rw [analyzeMember_of_find? hannotated hfact]
    rfl
  case function =>
    intro before after t howner hannotated hroots hbefore hhidden
    obtain ⟨fact, hfact⟩ := hhidden.find? hc hs scalars
    subst howner
    have hp := Project.looksUp_of hs catalog scalars (Catalog.keepsApart_of_text hc f.name)
    have hfirst : (Project.of catalog schema scalars).FirstRoot f.name t fact :=
      hp.firstRoot_of_split hroots (fun r hr => (find?_eq_none_iff hc hs).mpr (hbefore r hr)) hfact
    show (analyzeFunction (Project.of catalog schema scalars) f).fact.resolution = _
    rw [analyzeFunction_of_firstRoot hannotated hp hfirst]
    rfl

end

/-! ## runs -/

/-- **what exact matches are**: on any file system, if a run succeeds, every function that is matched
with a field is matched with one that GraphQL declares, or else with a hidden column of a root or of the
type it belongs to, and all functions that are named like such columns are -/
theorem exactFields_of_run {m : Type → Type} [Monad m] {σ : Type} (fs : FileSystem m σ)
    {settings : PathSettings} {scalars : ScalarMap} {s s' : σ} {report : Report}
    (h : fs.attempt (run fs.files settings scalars) s = (.ok report, s')) :
    ∃ sdl schema text catalog,
      fs.read s settings.graphqlSchema = some sdl ∧ Schema.parse sdl = .ok schema ∧
      fs.read s settings.dataModel = some text ∧ Run.catalogOf text = .ok catalog ∧
      ∀ entry ∈ report.codeFacts.entries, ∃ path script es,
        isServiceFile path.baseName = true ∧ entry.1 = (settings.display path).text ∧
        fs.HoldsAmid s report.paths path script ∧ Script.Exports.ofFile path script = .ok es ∧
        List.Forall₂ (fun e (fact : FunctionFact) =>
          fact.FollowsFields catalog schema scalars e.1 e.2) (schema.sourcesOf es) entry.2 := by
  obtain ⟨schema, catalog, hschema, hcatalog, -, services, hservices, hentries⟩ := FileSystem.facts_of_run h
  obtain ⟨sdl, hsdl, hschema⟩ := Run.schemaAt_ok hschema
  obtain ⟨text, blocks, htext, hblocks, hcatalog⟩ := Run.catalogAt_ok hcatalog
  have hc : Run.catalogOf text = .ok catalog := by
    unfold Run.catalogOf
    rw [hblocks]
    exact hcatalog
  refine ⟨sdl, schema, text, catalog, hsdl, hschema, htext, hc, fun entry hentry => ?_⟩
  obtain ⟨path, hpath, script, es, hholds, hes, rfl⟩ := hentries entry hentry
  refine ⟨path, script, es, hservices path hpath, rfl, hholds, hes, ?_⟩
  have hfacts : (analyze (Project.of catalog schema scalars) es).facts =
      (schema.sourcesOf es).map fun e => factOf (Project.of catalog schema scalars) e.1 e.2 :=
    facts_analyze_eq (Schema.parse_types_nodup hschema) es
  dsimp only
  rw [hfacts, List.forall₂_map_right_iff, List.forall₂_same]
  exact fun e _ => factOf_followsFields hc hschema scalars e.1 e.2

def columnSource : String := "type Query \x7b a: Int \x7d type B \x7b c: String \x7d"

def columnText : String := "model Query \x7b\nk Int\n\x7d\nmodel B \x7b\nc Int\nh Int\n\x7d"

def columnScript : String :=
  "export function a() \x7b\x7d export function k() \x7b\x7d " ++
  "export const B = \x7b c() \x7b\x7d, h() \x7b\x7d \x7d"

/-- a root and an object type, each with a field of its own and a column of a model of its name -/
def columnFiles : List (Path × String) :=
  [(⟨"/a/g"⟩, columnSource), (⟨"/a/d"⟩, columnText), (⟨"/a/s/x.ts"⟩, columnScript)]

def columnSchema : Schema :=
  ⟨[⟨"Query", .object, none, [⟨"a", .named "Int" true, [], none⟩], [], [], []⟩,
    ⟨"B", .object, none, [⟨"c", .named "String" true, [], none⟩], [], [], []⟩], ⟨some "Query", none, none⟩⟩

def intColumn (name : String) : Field :=
  ⟨name, "Int", false, true, false, false, none, false, false, false, none⟩

def columnCatalog : Catalog :=
  ⟨[⟨"Query", .model, none, [intColumn "k"]⟩, ⟨"B", .model, none, [intColumn "c", intColumn "h"]⟩], []⟩

def columnFunctions : List (Option String × Script.Function) :=
  [(none, ⟨"a", [], none, none, false, 1⟩), (none, ⟨"k", [], none, none, false, 1⟩),
    (some "B", ⟨"c", [], none, none, false, 1⟩), (some "B", ⟨"h", [], none, none, false, 1⟩)]

theorem exactFields_of_run_columns :
    Schema.parse columnSource = .ok columnSchema ∧ Run.catalogOf columnText = .ok columnCatalog ∧
    ∃ report after,
      Store.system.attempt (run Store.system.files smallConfig.paths.settings smallConfig.scalars)
        (Store.ofList columnFiles) = (.ok report, after) ∧
      report.codeFacts.entries.map (fun e => (e.1, e.2.map fun f => (f.resolution, f.returnType))) =
        [("s/x.ts", [(.exactField "Query" "a", .nullable .number), (.exactField "Query" "k", .number),
          (.exactField "B" "c", .nullable .string), (.exactField "B" "h", .number)])] ∧
      ∀ entry ∈ report.codeFacts.entries,
        List.Forall₂ (fun e (fact : FunctionFact) =>
          fact.FollowsFields columnCatalog columnSchema smallConfig.scalars e.1 e.2)
          columnFunctions entry.2 := by
  have hcolumns : (Store.system.attempt
      (run Store.system.files smallConfig.paths.settings smallConfig.scalars)
      (Store.ofList columnFiles)).1.toOption.map
        (fun report => (report.paths.all fun p => ".d.ts".toList.isSuffixOf p.text.toList,
          report.codeFacts.entries.map fun e => (e.1, e.2.map fun f => (f.resolution, f.returnType)))) =
      some (true, [("s/x.ts", [(.exactField "Query" "a", .nullable .number),
        (.exactField "Query" "k", .number), (.exactField "B" "c", .nullable .string),
        (.exactField "B" "h", .number)])]) := by decide +kernel
  have hs : Schema.parse columnSource = .ok columnSchema := by decide +kernel
  have hc : Run.catalogOf columnText = .ok columnCatalog := by decide +kernel
  have hsources : (Script.Exports.ofFile ⟨"/a/s/x.ts"⟩ columnScript).toOption.map columnSchema.sourcesOf =
      some columnFunctions := by decide +kernel
  have hgraphql : Store.system.read (Store.ofList columnFiles) smallConfig.paths.settings.graphqlSchema =
      some columnSource := by decide +kernel
  have hmodel : Store.system.read (Store.ofList columnFiles) smallConfig.paths.settings.dataModel =
      some columnText := by decide +kernel
  have honly : ((Store.ofList columnFiles).files.filter fun f => isServiceFile f.1.baseName) =
      [(⟨"/a/s/x.ts"⟩, columnScript)] := by decide +kernel
  rcases hrun : Store.system.attempt
      (run Store.system.files smallConfig.paths.settings smallConfig.scalars)
      (Store.ofList columnFiles) with ⟨e | report, after⟩
  · rw [hrun] at hcolumns
    cases hcolumns
  · rw [hrun] at hcolumns
    obtain ⟨hpaths, hentries⟩ := Prod.mk.inj (Option.some.inj hcolumns)
    obtain ⟨sdl, schema, text, catalog, hsdl, hschema, htext, hcatalog, hfollows⟩ :=
      exactFields_of_run Store.system hrun
    obtain rfl : columnSource = sdl := Option.some.inj (hgraphql.symm.trans hsdl)
    obtain rfl : columnText = text := Option.some.inj (hmodel.symm.trans htext)
    obtain rfl : columnSchema = schema := Except.ok.inj (hs.symm.trans hschema)
    obtain rfl : columnCatalog = catalog := Except.ok.inj (hc.symm.trans hcatalog)
    refine ⟨hs, hc, report, after, rfl, hentries, fun entry hentry => ?_⟩
    obtain ⟨path, script, es, hservice, -, hamid, hes, hfacts⟩ := hfollows entry hentry
    have hexports := Store.exports_of_holdsAmid hamid hpaths hservice hes honly
    rw [hexports] at hsources
    rw [← Option.some.inj hsources]
    exact hfacts

def hiddenColumnFiles : List (Path × String) :=
  [(⟨"/a/g"⟩, "type Query \x7b a: Int \x7d type B \x7b c: Int \x7d"),
    (⟨"/a/d"⟩, "model B \x7b\n  c Int\n  h Int\n\x7d"),
    (⟨"/a/s/x.ts"⟩, "export const B = \x7b h() \x7b\x7d \x7d")]

/-- GraphQL declares no field `h` of `B`, and `B.h` is matched with it all the same -/
theorem exactField_undeclared :
    ((Store.ofList hiddenColumnFiles).get? ⟨"/a/g"⟩).map (fun sdl =>
      (Schema.parse sdl).toOption.map fun schema => (schema.declarationsOf "B" "h").isEmpty) =
        some (some true) ∧
    (Store.system.attempt (run Store.system.files smallConfig.paths.settings smallConfig.scalars)
      (Store.ofList hiddenColumnFiles)).1.toOption.map
        (fun report => report.codeFacts.entries.map fun e =>
          (e.1, e.2.map fun f => (f.resolution, f.returnType))) =
      some [("s/x.ts", [(.exactField "B" "h", .number)])] := by
  decide +kernel

end ResolverTypes
