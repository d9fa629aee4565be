import ResolverTypes.Proofs.Run.Outputs
import ResolverTypes.Proofs.Schema.Basic
import ResolverTypes.Proofs.Service.Display
import ResolverTypes.Proofs.Service.Inference
import Mathlib.Data.List.Nodup

/-!
# No service is lost

A run records one entry for each service it finds, in the order of their paths.  Entries are kept by
the text under which a service is shown, and no two services are shown alike, so none of them takes
the place of another (`Run.planServices_entries`).  An entry has a fact for each function that the
service exports and for each function of an exported object that stands for an object type, and the
services with an inferred function are those that get a declaration (`services_covered`).
-/

namespace ResolverTypes

/-! ## entries -/

namespace Run

theorem schemaAt_ok {path : Path} {text? : Option String} {schema : Schema}
    (h : schemaAt path text? = .ok schema) :
    ∃ text, text? = some text ∧ Schema.parse text = .ok schema := by
  cases text? with
  | none => cases h
  | some text => exact ⟨text, rfl, ok_of_mapError h⟩

theorem catalogAt_ok {path : Path} {text? : Option String} {catalog : DataModel.Catalog}
    (h : catalogAt path text? = .ok catalog) :
    ∃ text blocks, text? = some text ∧ DataModel.parse text = .ok blocks ∧
      DataModel.Catalog.ofBlocks blocks = .ok catalog := by
  cases text? with
  | none => cases h
  | some text =>
    obtain ⟨blocks, hblocks, hcatalog⟩ := ok_of_bind (ok_of_mapError h)
    exact ⟨text, blocks, rfl, hblocks, hcatalog⟩

theorem schema_of_projectAt {settings : PathSettings} {scalars : ScalarMap}
    {read : Path → Option String} {project : Project}
    (h : projectAt settings scalars read = .ok project) :
    ∃ text, read settings.graphqlSchema = some text ∧ Schema.parse text = .ok project.schema := by
  obtain ⟨schema, hschema, h⟩ := ok_of_bind h
  obtain ⟨catalog, -, h⟩ := ok_of_bind h
  cases h
  exact schemaAt_ok hschema

/-- the facts of a service -/
def factsAt (read : Path → Option String) (project : Project) (path : Path) : List FunctionFact :=
  match analysisAt read project path with
  | .ok a => a.facts
  | .error _ => []

theorem isDeclared_eq (read : Path → Option String) (project : Project) (path : Path) :
    isDeclared read project path =
      (factsAt read project path).any fun f => f.resolution.isInferred := by
  unfold isDeclared factsAt
  cases analysisAt read project path with
  | error e => rfl
  | ok a => rfl

theorem factsAt_eq {read : Path → Option String} {project : Project} {path : Path} {a : Analysis}
    (h : analysisAt read project path = .ok a) : factsAt read project path = a.facts := by
  unfold factsAt
  rw [h]

theorem analysisAt_ok {read : Path → Option String} {project : Project} {path : Path} {a : Analysis}
    (h : analysisAt read project path = .ok a) :
    ∃ text es, read path = some text ∧ Script.Exports.ofFile path text = .ok es ∧
      a = analyze project es := by
  unfold analysisAt at h
  split at h
  · cases h
  · next text htext =>
    obtain ⟨es, hes, ha⟩ := ok_of_map h
    exact ⟨text, es, htext, ok_of_mapError hes, ha.symm⟩

theorem factsAt_named {read : Path → Option String} {project : Project} {path : Path} {a : Analysis}
    (h : analysisAt read project path = .ok a)
    (htypes : (project.schema.types.map (·.name)).Nodup) :
    ∃ text es, read path = some text ∧ Script.Exports.ofFile path text = .ok es ∧
      (factsAt read project path).map (fun f => (f.owner, f.name)) =
        project.schema.functionsOf es := by
  rw [factsAt_eq h]
  obtain ⟨text, es, htext, hes, rfl⟩ := analysisAt_ok h
  exact ⟨text, es, htext, hes, facts_analyze htypes es⟩

section
variable {settings : PathSettings} {read : Path → Option String} {services paths : List Path}
  {project : Project} {facts : CodeFacts} {r : List Path × CodeFacts}

theorem planServices_analyzed
    (h : (planServices settings read services project facts paths).outcome = .ok r) :
    ∀ p ∈ paths, ∃ a, analysisAt read project p = .ok a := by
  induction paths generalizing facts r with
  | nil => nofun
  | cons path rest ih =>
    obtain ⟨a, more, ha, hmore, -⟩ := planServices_cons_ok h
    intro p hp
    rcases List.mem_cons.mp hp with rfl | hp
    · exact ⟨a, ha⟩
    · exact ih hmore p hp

/-- services that are shown differently get an entry each, in their order -/
theorem planServices_entries
    (h : (planServices settings read services project facts paths).outcome = .ok r)
    (hkeys : (facts.keys ++ paths.map fun p => (settings.display p).text).Nodup) :
    r.2.entries = facts.entries ++
      paths.map fun p => ((settings.display p).text, factsAt read project p) := by
  induction paths generalizing facts r with
  | nil =>
    cases h
    exact (List.append_nil _).symm
  | cons path rest ih =>
    obtain ⟨a, more, ha, hmore, rfl⟩ := planServices_cons_ok h
    have hfresh : (settings.display path).text ∉ facts.keys := by
      intro hmem
      exact (List.nodup_append.mp hkeys).2.2 _ hmem _ List.mem_cons_self rfl
    have hnext : ((facts.insert (settings.display path).text a.facts).keys ++
        rest.map fun p => (settings.display p).text).Nodup := by
      rw [Table.keys_insert, if_neg hfresh, List.append_assoc]
      exact hkeys
    rw [ih hmore hnext, Table.entries_insert_of_notMem hfresh, List.append_assoc, List.map_cons,
      factsAt_eq ha]
    rfl

end

end Run

/-! ## whole runs -/

/-- services have keys of their own -/
theorem Store.keys_nodup {s : Store} (h : s.Ordered) (c : PathsConfig) :
    ((servicesAmong (s.below c.settings.services)).map
      fun p => (c.settings.display p).text).Nodup := by
  refine List.pairwise_map.mpr ((services_pairwise h c.settings.services).imp_of_mem ?_)
  intro p q hp hq hdifferent hshown
  have hsame := PathsConfig.same_of_display (isServiceBelow_of_mem hp).below
    (isServiceBelow_of_mem hq).below hshown
  rw [hsame] at hdifferent
  cases hdifferent

/-- whether an entry has a function whose types were inferred -/
def CodeFacts.isInferredAt (facts : CodeFacts) (key : String) : Bool :=
  (facts.get? key).any fun fs => fs.any fun f => f.resolution.isInferred

theorem Run.isDeclared_eq_isInferredAt {facts : CodeFacts} {read : Path → Option String}
    {project : Project} {path : Path} {key : String} (hkeys : facts.keys.Nodup)
    (h : (key, factsAt read project path) ∈ facts.entries) :
    isDeclared read project path = facts.isInferredAt key := by
  unfold CodeFacts.isInferredAt
  rw [Table.get?_of_mem_entries hkeys h, isDeclared_eq]
  rfl

/-- **no service is lost**: if a run over any files in memory succeeds, the function facts have one
entry for each service, in the order of the paths and under the text it is shown as; the entry lists
the exported functions, then the functions of the exported objects that are named after an object type
other than a root; and the report names, after the shared artifacts, the declarations of the services
whose entry has an inferred function -/
theorem services_covered {config : Config} {files : List (Path × String)} {report : Report}
    {after : Store}
    (h : (run Store.ops config.paths.settings config.scalars).run.run (Store.ofList files) =
      (.ok report, after)) :
    let settings := config.paths.settings
    let store := Store.ofList files
    let services := servicesAmong (store.below settings.services)
    services.Pairwise (fun p q => p.lt q = true) ∧
    report.codeFacts.keys = services.map (fun p => (settings.display p).text) ∧
    report.codeFacts.keys.Nodup ∧
    (∃ sdl schema, store.get? settings.graphqlSchema = some sdl ∧ Schema.parse sdl = .ok schema ∧
      List.Forall₂ (fun p facts => ∃ text es, store.get? p = some text ∧
          Script.Exports.ofFile p text = .ok es ∧
          facts.map (fun f => (f.owner, f.name)) = schema.functionsOf es)
        services report.codeFacts.values) ∧
    report.paths = settings.schemaTypesPath :: settings.returnTypesPath ::
      (services.filter fun p => report.codeFacts.isInferredAt (settings.display p).text).map
        (settings.declarationPath services) := by
  intro settings store services
  have hordered : store.Ordered := Store.ofList_ordered files
  have hnodup : (services.map fun p => (settings.display p).text).Nodup :=
    Store.keys_nodup hordered config.paths
  obtain ⟨project, r, hproject, hr, rfl⟩ := Store.report_eq h
  dsimp only
  obtain ⟨sdl, hsdl, hschema⟩ := Run.schema_of_projectAt hproject
  have hentries : r.2.entries =
      services.map fun p => ((settings.display p).text, Run.factsAt store.get? project p) :=
    Run.planServices_entries hr hnodup
  have hkeys : r.2.keys = services.map fun p => (settings.display p).text := by
    unfold Table.keys
    rw [hentries, List.map_map]
    rfl
  rw [← hkeys] at hnodup
  refine ⟨Store.services_sorted hordered settings.services, hkeys, hnodup,
    ⟨sdl, project.schema, hsdl, hschema, ?_⟩, ?_⟩
  · unfold Table.values
    rw [hentries, List.map_map, List.forall₂_map_right_iff, List.forall₂_same]
    intro p hp
    obtain ⟨a, ha⟩ := Run.planServices_analyzed hr p hp
    exact Run.factsAt_named ha (Schema.parse_types_nodup hschema)
  · rw [Run.planServices_paths hr]
    have hdeclared : ∀ p ∈ services, Run.isDeclared store.get? project p =
        r.2.isInferredAt (settings.display p).text := by
      intro p hp
      refine Run.isDeclared_eq_isInferredAt hnodup ?_
      rw [hentries]
      exact List.mem_map_of_mem hp
    rw [List.filter_congr hdeclared]

/-- a service with an object for the fields of a type, and one that nothing is known about -/
def ownerFiles : List (Path × String) :=
  [(⟨"/a/g"⟩, "type Query \x7b a: Int \x7d type B \x7b c: Int \x7d"), (⟨"/a/d"⟩, ""),
    (⟨"/a/s/y.ts"⟩, "export function z() \x7b\x7d"),
    (⟨"/a/s/x.ts"⟩, "export const B = \x7b c() \x7b\x7d \x7d")]

theorem services_covered_owner :
    ∃ report after,
      (run Store.ops smallConfig.paths.settings smallConfig.scalars).run.run
        (Store.ofList ownerFiles) = (.ok report, after) ∧
      report.codeFacts.keys = ["s/x.ts", "s/y.ts"] ∧
      report.codeFacts.values.map (fun facts => facts.map fun f => (f.owner, f.name)) =
        [[(some "B", "B.c")], [(none, "z")]] := by
  have hok : ((run Store.ops smallConfig.paths.settings smallConfig.scalars).run.run
      (Store.ofList ownerFiles)).1.isOk = true := by decide +kernel
  have hservices : servicesAmong ((Store.ofList ownerFiles).below smallConfig.paths.settings.services) =
      [⟨"/a/s/x.ts"⟩, ⟨"/a/s/y.ts"⟩] := by decide +kernel
  -- what the two scripts export, as the schema sorts it
  have hfunctions : ((Store.ofList ownerFiles).get? smallConfig.paths.settings.graphqlSchema).bind (fun sdl =>
      (Schema.parse sdl).toOption.map fun schema => [⟨"/a/s/x.ts"⟩, ⟨"/a/s/y.ts"⟩].map fun p =>
        ((Store.ofList ownerFiles).get? p).bind fun text =>
          (Script.Exports.ofFile p text).toOption.map schema.functionsOf) =
      some [some [(some "B", "B.c")], some [(none, "z")]] := by decide +kernel
  obtain ⟨report, after, hrun⟩ := exists_of_isOk hok
  obtain ⟨-, hkeys, -, ⟨sdl, schema, hsdl, hschema, hentries⟩, -⟩ := services_covered hrun
  rw [hservices] at hkeys hentries
  obtain ⟨first, rest, ⟨text, es, htext, hes, hfirst⟩, hrest, hvalues⟩ :=
    List.forall₂_cons_left_iff.mp hentries
  obtain ⟨second, none, ⟨text', es', htext', hes', hsecond⟩, hnone, rfl⟩ :=
    List.forall₂_cons_left_iff.mp hrest
  obtain rfl := List.forall₂_nil_left_iff.mp hnone
  rw [hsdl, Option.bind_some, hschema] at hfunctions
  simp only [Except.toOption, Option.map_some, List.map_cons, List.map_nil, htext, htext', hes, hes',
    Option.bind_some, Option.some.injEq, List.cons.injEq, and_true] at hfunctions
  refine ⟨report, after, hrun, hkeys.trans (by decide +kernel), ?_⟩
  rw [hvalues, List.map_cons, List.map_cons, List.map_nil, hfirst, hsecond, hfunctions.1, hfunctions.2]

end ResolverTypes
