import ResolverTypes.Command.Execution
import ResolverTypes.Proofs.Outcome
import ResolverTypes.Proofs.Service.Naming
import ResolverTypes.Proofs.Table

/-!
# Plans of a run

What a run does can be told in advance from the texts of the files and the list of the services:
what is written, in order, and how it ends (`Run.plan`).

* `Run.plan_congr`: a plan depends on the texts of the services only;
* `Run.mem_plan_writes`: it writes the shared artifacts and declarations of services;
* `Run.plan_written`: if it succeeds, the report names what is written;
* `Run.isPrecondition_of_projectAt`, `Run.isPrecondition_of_planServices`: errors of the schemas are
  known before anything is written, errors of services are not;
* `Run.planServices_keys`: the facts of a plan name its services.
-/

namespace ResolverTypes

/-! ## plans -/

/-- what is to be written, in order, and how it ends if all of it can be written -/
structure Plan (α : Type) where
  writes : List (Path × String)
  outcome : Except RunError α

namespace Run

/-- the schema in the text of a file -/
def schemaAt (path : Path) : Option String → Except RunError Schema
  | none => .error (.missingGraphqlSchema path)
  | some text => (Schema.parse text).mapError (.invalidGraphqlSchema path)

/-- the catalog in the text of a file -/
def catalogAt (path : Path) : Option String → Except RunError DataModel.Catalog
  | none => .error (.missingDataModel path)
  | some text => (catalogOf text).mapError (.invalidDataModel path)

section
variable (settings : PathSettings) (scalars : ScalarMap) (read : Path → Option String)
  (services : List Path) (project : Project)

/-- the project in the texts of some files -/
def projectAt : Except RunError Project := do
  let schema ← schemaAt settings.graphqlSchema (read settings.graphqlSchema)
  let catalog ← catalogAt settings.dataModel (read settings.dataModel)
  return Project.of catalog schema scalars

/-- the two shared artifacts -/
def sharedWrites : List (Path × String) :=
  [(settings.schemaTypesPath,
      project.catalog.schemaTypes (settings.display settings.dataModel).text),
    (settings.returnTypesPath,
      project.schema.returnTypes scalars (settings.display settings.graphqlSchema).text)]

/-- what is known about the functions of a service -/
def analysisAt (path : Path) : Except RunError Analysis :=
  match read path with
  | none => .error (.unreadableService path)
  | some text => ((Script.Exports.ofFile path text).mapError (.sourceAnalysis path)).map
      (analyze project)

/-- the declaration of a service, if it is worth one -/
def declarationOf (path : Path) (analysis : Analysis) : Option (Path × String) :=
  if analysis.isWorthDeclaring then
    some (settings.declarationPath services path,
      serviceDeclaration settings (settings.display path).text (analysis.interfaces project.catalog))
  else none

/-- what is done about some services: the declarations to write and the facts -/
def planServices : CodeFacts → List Path → Plan (List Path × CodeFacts)
  | facts, [] => ⟨[], .ok ([], facts)⟩
  | facts, path :: rest =>
    match analysisAt read project path with
    | .error e => ⟨[], .error e⟩
    | .ok analysis =>
      let declared := (declarationOf settings services project path analysis).toList
      let more := planServices (facts.insert (settings.display path).text analysis.facts) rest
      ⟨declared ++ more.writes,
        more.outcome.map fun r => (declared.map Prod.fst ++ r.1, r.2)⟩

/-- what a run does with a project and these services -/
def plan (project : Except RunError Project) : Plan Report :=
  match project with
  | .error e => ⟨[], .error e⟩
  | .ok project =>
    let p := planServices settings read services project .empty services
    ⟨sharedWrites settings scalars project ++ p.writes,
      p.outcome.map fun r =>
        ⟨settings.schemaTypesPath :: settings.returnTypesPath :: r.1, project.facts, r.2⟩⟩

end

/-! ## services one after the other -/

section
variable {settings : PathSettings} {read read' : Path → Option String} {services paths : List Path}
  {project : Project} {facts : CodeFacts}

theorem analysisAt_congr {path : Path} (h : read path = read' path) (project : Project) :
    analysisAt read project path = analysisAt read' project path := by
  unfold analysisAt
  rw [h]

theorem planServices_error {path : Path} {e : RunError}
    (h : analysisAt read project path = .error e) (facts : CodeFacts) (rest : List Path) :
    planServices settings read services project facts (path :: rest) = ⟨[], .error e⟩ := by
  rw [planServices, h]

theorem planServices_ok {path : Path} {a : Analysis}
    (h : analysisAt read project path = .ok a) (facts : CodeFacts) (rest : List Path) :
    planServices settings read services project facts (path :: rest) =
      let declared := (declarationOf settings services project path a).toList
      let more := planServices settings read services project
        (facts.insert (settings.display path).text a.facts) rest
      ⟨declared ++ more.writes, more.outcome.map fun r => (declared.map Prod.fst ++ r.1, r.2)⟩ := by
  rw [planServices, h]

/-- the first of some services whose plan succeeds, and the plan for the others -/
theorem planServices_cons_ok {path : Path} {rest : List Path} {r : List Path × CodeFacts}
    (h : (planServices settings read services project facts (path :: rest)).outcome = .ok r) :
    ∃ a more, analysisAt read project path = .ok a ∧
      (planServices settings read services project
        (facts.insert (settings.display path).text a.facts) rest).outcome = .ok more ∧
      r = ((declarationOf settings services project path a).toList.map Prod.fst ++ more.1, more.2) := by
  cases ha : analysisAt read project path with
  | error e =>
    rw [planServices_error ha] at h
    cases h
  | ok a =>
    rw [planServices_ok ha] at h
    obtain ⟨more, hmore, hr⟩ := ok_of_map h
    exact ⟨a, more, rfl, hmore, hr.symm⟩

theorem planServices_congr (h : ∀ p ∈ paths, read p = read' p) :
    planServices settings read services project facts paths =
      planServices settings read' services project facts paths := by
  induction paths generalizing facts with
  | nil => rfl
  | cons path rest ih =>
    have hpath := analysisAt_congr (h path List.mem_cons_self) project
    cases ha : analysisAt read' project path with
    | error e => rw [planServices_error ha, planServices_error (hpath.trans ha)]
    | ok a =>
      rw [planServices_ok ha, planServices_ok (hpath.trans ha),
        ih fun p hp => h p (List.mem_cons_of_mem _ hp)]

theorem plan_congr (h : ∀ p ∈ services, read p = read' p) (scalars : ScalarMap)
    (project : Except RunError Project) :
    plan settings scalars read services project = plan settings scalars read' services project := by
  cases project with
  | error e => rfl
  | ok project =>
    unfold plan
    dsimp only
    rw [planServices_congr h]

/-- the declarations that are planned for services -/
theorem mem_planServices_writes {w : Path × String}
    (h : w ∈ (planServices settings read services project facts paths).writes) :
    ∃ p ∈ paths, w.1 = settings.declarationPath services p := by
  induction paths generalizing facts with
  | nil => cases h
  | cons path rest ih =>
    cases ha : analysisAt read project path with
    | error e =>
      rw [planServices_error ha] at h
      cases h
    | ok a =>
      rw [planServices_ok ha] at h
      rcases List.mem_append.mp h with h | h
      · unfold declarationOf at h
        split at h
        · rw [Option.toList_some, List.mem_singleton] at h
          exact ⟨path, List.mem_cons_self, by rw [h]⟩
        · cases h
      · obtain ⟨p, hp, hw⟩ := ih h
        exact ⟨p, List.mem_cons_of_mem _ hp, hw⟩

theorem isDeclaration_of_mem_planServices {w : Path × String}
    (h : w ∈ (planServices settings read services project facts paths).writes) :
    IsDeclaration w.1.text := by
  obtain ⟨p, -, hw⟩ := mem_planServices_writes h
  rw [hw]
  exact isDeclaration_declarationPath settings services p

theorem planServices_written {r : List Path × CodeFacts}
    (h : (planServices settings read services project facts paths).outcome = .ok r) :
    (planServices settings read services project facts paths).writes.map Prod.fst = r.1 := by
  induction paths generalizing facts r with
  | nil =>
    cases h
    rfl
  | cons path rest ih =>
    obtain ⟨a, more, ha, hmore, rfl⟩ := planServices_cons_ok h
    rw [planServices_ok ha]
    dsimp only
    rw [List.map_append, ih hmore]

/-! ## errors -/

theorem isPrecondition_of_schemaAt {path : Path} {text : Option String} {e : RunError}
    (h : schemaAt path text = .error e) : e.isPrecondition = true := by
  cases text with
  | none =>
    cases h
    rfl
  | some text =>
    obtain ⟨cause, rfl⟩ := error_of_mapError h
    rfl

theorem isPrecondition_of_catalogAt {path : Path} {text : Option String} {e : RunError}
    (h : catalogAt path text = .error e) : e.isPrecondition = true := by
  cases text with
  | none =>
    cases h
    rfl
  | some text =>
    obtain ⟨cause, rfl⟩ := error_of_mapError h
    rfl

theorem isPrecondition_of_projectAt {scalars : ScalarMap} {e : RunError}
    (h : projectAt settings scalars read = .error e) : e.isPrecondition = true := by
  rcases error_of_bind h with hschema | ⟨schema, -, h⟩
  · exact isPrecondition_of_schemaAt hschema
  · rcases error_of_bind h with hcatalog | ⟨catalog, -, h⟩
    · exact isPrecondition_of_catalogAt hcatalog
    · cases h

theorem isPrecondition_of_analysisAt {path : Path} {e : RunError}
    (h : analysisAt read project path = .error e) : e.isPrecondition = false := by
  unfold analysisAt at h
  split at h
  · cases h
    rfl
  · obtain ⟨cause, rfl⟩ := error_of_mapError (error_of_map h)
    rfl

theorem isPrecondition_of_planServices {e : RunError}
    (h : (planServices settings read services project facts paths).outcome = .error e) :
    e.isPrecondition = false := by
  induction paths generalizing facts with
  | nil => cases h
  | cons path rest ih =>
    cases ha : analysisAt read project path with
    | error e' =>
      rw [planServices_error ha] at h
      cases h
      exact isPrecondition_of_analysisAt ha
    | ok a =>
      rw [planServices_ok ha] at h
      exact ih (error_of_map h)

/-! ## facts -/

/-- the facts of a plan are those of its services, after the ones that were there -/
theorem planServices_keys {r : List Path × CodeFacts}
    (h : (planServices settings read services project facts paths).outcome = .ok r) :
    facts.keys ⊆ r.2.keys ∧ ∀ p ∈ paths, (settings.display p).text ∈ r.2.keys := by
  induction paths generalizing facts r with
  | nil =>
    cases h
    exact ⟨List.Subset.refl _, nofun⟩
  | cons path rest ih =>
    obtain ⟨a, more, ha, hmore, rfl⟩ := planServices_cons_ok h
    obtain ⟨hkeys, hrest⟩ := ih hmore
    rw [List.forall_mem_cons]
    generalize (settings.display path).text = key at hkeys ⊢
    have hinsert := Table.keys_insert facts key a.facts
    have hpath : key ∈ (facts.insert key a.facts).keys := by
      rw [hinsert]
      split
      · assumption
      · simp
    have hfacts : facts.keys ⊆ (facts.insert key a.facts).keys := by
      rw [hinsert]
      split
      · exact List.Subset.refl _
      · exact List.subset_append_left _ _
    exact ⟨fun k hk => hkeys (hfacts hk), hkeys hpath, hrest⟩

theorem projectAt_congr (hschema : read settings.graphqlSchema = read' settings.graphqlSchema)
    (hcatalog : read settings.dataModel = read' settings.dataModel) (scalars : ScalarMap) :
    projectAt settings scalars read = projectAt settings scalars read' := by
  unfold projectAt
  rw [hschema, hcatalog]

/-! ## whole plans -/

theorem mem_plan_writes {scalars : ScalarMap} {project : Except RunError Project}
    {w : Path × String} (h : w ∈ (plan settings scalars read services project).writes) :
    w.1 = settings.schemaTypesPath ∨ w.1 = settings.returnTypesPath ∨
      ∃ p ∈ services, w.1 = settings.declarationPath services p := by
  cases project with
  | error e => cases h
  | ok project =>
    rcases List.mem_append.mp h with h | h
    · simp only [sharedWrites, List.mem_cons, List.not_mem_nil, or_false] at h
      rcases h with rfl | rfl
      · exact .inl rfl
      · exact .inr (.inl rfl)
    · exact .inr (.inr (mem_planServices_writes h))

/-- with a project, both shared artifacts are written -/
theorem shared_mem_plan_writes (scalars : ScalarMap) (project : Project) :
    (∃ text, (settings.schemaTypesPath, text) ∈
        (plan settings scalars read services (.ok project)).writes) ∧
      ∃ text, (settings.returnTypesPath, text) ∈
        (plan settings scalars read services (.ok project)).writes := by
  have hwrites : (plan settings scalars read services (.ok project)).writes =
      sharedWrites settings scalars project ++
        (planServices settings read services project .empty services).writes := rfl
  rw [hwrites]
  unfold sharedWrites
  exact ⟨⟨_, List.mem_cons_self⟩, _, List.mem_cons_of_mem _ List.mem_cons_self⟩

theorem plan_written {scalars : ScalarMap} {project : Except RunError Project} {report : Report}
    (h : (plan settings scalars read services project).outcome = .ok report) :
    (plan settings scalars read services project).writes.map Prod.fst = report.paths := by
  cases project with
  | error e => cases h
  | ok project =>
    obtain ⟨r, hr, rfl⟩ := ok_of_map h
    unfold plan
    dsimp only
    rw [List.map_append, planServices_written hr]
    rfl

end

end Run

/-! ## the shared artifacts -/

theorem Layout.isDeclaration_of_mem_sharedWrites {l : Layout} {scalars : ScalarMap}
    {project : Project} {w : Path × String}
    (h : w ∈ Run.sharedWrites l.settings scalars project) : IsDeclaration w.1.text := by
  have hschema : l.settings.schemaTypesPath = l.types.join ⟨"shared-schema-types" ++ ".d.ts"⟩ := rfl
  have hreturn : l.settings.returnTypesPath = l.types.join ⟨"shared-return-types" ++ ".d.ts"⟩ := rfl
  unfold Run.sharedWrites at h
  rw [hschema, hreturn] at h
  simp only [List.mem_cons, List.not_mem_nil, or_false] at h
  rcases h with rfl | rfl
  · exact (isDeclaration_append _).join _
  · exact (isDeclaration_append _).join _

theorem Layout.isDeclaration_of_mem_plan {l : Layout} {scalars : ScalarMap}
    {read : Path → Option String} {services : List Path} {project : Except RunError Project}
    {w : Path × String} (h : w ∈ (Run.plan l.settings scalars read services project).writes) :
    IsDeclaration w.1.text := by
  cases project with
  | error e => cases h
  | ok project =>
    rcases List.mem_append.mp h with h | h
    · exact isDeclaration_of_mem_sharedWrites h
    · exact Run.isDeclaration_of_mem_planServices h

namespace PathsConfig

theorem schemaTypesPath_eq (c : PathsConfig) :
    c.settings.schemaTypesPath = c.settings.types.join ⟨"shared-schema-types" ++ ".d.ts"⟩ :=
  rfl

theorem returnTypesPath_eq (c : PathsConfig) :
    c.settings.returnTypesPath = c.settings.types.join ⟨"shared-return-types" ++ ".d.ts"⟩ :=
  rfl

end PathsConfig

end ResolverTypes
