import ResolverTypes.Proofs.Run.Execution

/-!
# The files of a run in memory

A run in memory follows its plan, since it writes declarations only and no declaration is a service
(`Store.run_eq`).  Its report lists the shared artifacts and the declarations of the services that
are worth one, and these are different files up to two kinds of clashes (`report_paths_distinct_iff`).
-/

namespace ResolverTypes

/-! ## runs in memory -/

namespace Store

/-- the services below a directory and the texts of all services are those of `s` -/
structure KeepsServices (dir : Path) (s t : Store) : Prop where
  list : servicesAmong (t.below dir) = servicesAmong (s.below dir)
  read : ∀ p, isServiceFile p.baseName = true → t.get? p = s.get? p

theorem KeepsServices.insert {dir : Path} {s t : Store} (h : KeepsServices dir s t) {path : Path}
    (hpath : IsDeclaration path.text) (text : String) : KeepsServices dir s (t.insert path text) := by
  refine ⟨?_, fun p hp => ?_⟩
  · rw [← h.list]
    unfold servicesAmong below
    rw [List.filter_filter, List.filter_filter]
    exact filter_paths_insert t (by rw [hpath.baseName.not_isServiceFile, Bool.false_and]) text
  · rw [get?_insert, hpath.not_same hp, ← h.read p hp]
    rfl

theorem KeepsServices.insertAll {dir : Path} {s t : Store} (h : KeepsServices dir s t)
    {writes : List (Path × String)} (hw : ∀ w ∈ writes, IsDeclaration w.1.text) :
    KeepsServices dir s (t.insertAll writes) := by
  induction writes generalizing t with
  | nil => exact h
  | cons w writes ih =>
    exact ih (h.insert (hw w List.mem_cons_self) w.2) fun v hv => hw v (List.mem_cons_of_mem _ hv)

theorem steady (settings : PathSettings) (s : Store) :
    system.Steady settings s.get? (servicesAmong (s.below settings.services))
      (fun p => IsDeclaration p.text)
      (KeepsServices settings.services s) where
  list _ h := h.list
  read _ h p hp := h.read p (List.mem_filter.mp hp).2
  write _ _ h _ text hpath := h.insert hpath text

/-- a run in memory: the outcome of the plan, after everything is written -/
theorem run_layout_eq (l : Layout) (scalars : ScalarMap) (s : Store) :
    (run Store.ops l.settings scalars).run.run s =
      let plan := Run.plan l.settings scalars s.get? (servicesAmong (s.below l.settings.services))
        (Run.projectAt l.settings scalars s.get?)
      (plan.outcome, s.insertAll plan.writes) := by
  have hrun : system.attempt (run system.files l.settings scalars) s = _ :=
    FileSystem.attempt_run (steady l.settings s) ?_
      fun project w hw => Run.isDeclaration_of_mem_planServices hw
  · rw [FileSystem.follow, carryOut_eq] at hrun
    exact hrun
  · intro project s' _ hshared
    rw [carryOut_eq] at hshared
    cases hshared
    exact KeepsServices.insertAll ⟨rfl, fun _ _ => rfl⟩ fun w hw =>
      Layout.isDeclaration_of_mem_sharedWrites hw

theorem run_eq (c : PathsConfig) (scalars : ScalarMap) (s : Store) :
    (run Store.ops c.settings scalars).run.run s =
      let plan := Run.plan c.settings scalars s.get? (servicesAmong (s.below c.settings.services))
        (Run.projectAt c.settings scalars s.get?)
      (plan.outcome, s.insertAll plan.writes) :=
  run_layout_eq c.layout scalars s

end Store

/-! ## the paths of a report -/

/-- whether a service has a function with inferred types -/
def Run.isDeclared (read : Path → Option String) (project : Project) (path : Path) : Bool :=
  match analysisAt read project path with
  | .ok a => a.isWorthDeclaring
  | .error _ => false

theorem Run.planServices_paths {settings : PathSettings} {read : Path → Option String}
    {services paths : List Path} {project : Project} {facts : CodeFacts}
    {r : List Path × CodeFacts}
    (h : (planServices settings read services project facts paths).outcome = .ok r) :
    r.1 = (paths.filter (isDeclared read project)).map (settings.declarationPath services) := by
  induction paths generalizing facts r with
  | nil =>
    cases h
    rfl
  | cons path rest ih =>
    obtain ⟨a, more, ha, hmore, rfl⟩ := planServices_cons_ok h
    have hpath : isDeclared read project path = a.isWorthDeclaring := by
      rw [isDeclared, ha]
    rw [List.filter_cons, hpath]
    unfold declarationOf
    split
    · simp [ih hmore]
    · simp [ih hmore]

/-- the report of a run in memory -/
theorem Store.report_eq {config : Config} {s after : Store} {report : Report}
    (h : (run Store.ops config.paths.settings config.scalars).run.run s = (.ok report, after)) :
    ∃ project r, Run.projectAt config.paths.settings config.scalars s.get? = .ok project ∧
      (Run.planServices config.paths.settings s.get?
        (servicesAmong (s.below config.paths.settings.services)) project .empty
        (servicesAmong (s.below config.paths.settings.services))).outcome = .ok r ∧
      report = ⟨config.paths.settings.schemaTypesPath :: config.paths.settings.returnTypesPath :: r.1,
        project.facts, r.2⟩ := by
  rw [Store.run_eq] at h
  have houtcome := congrArg Prod.fst h
  dsimp only at houtcome
  cases hp : Run.projectAt config.paths.settings config.scalars s.get? with
  | error e =>
    rw [hp] at houtcome
    cases houtcome
  | ok project =>
    rw [hp] at houtcome
    obtain ⟨r, hr, hreport⟩ := ok_of_map houtcome
    exact ⟨project, r, rfl, hr, hreport.symm⟩

/-- the paths in the report of a run in memory -/
theorem Store.report_paths {config : Config} {s after : Store} {report : Report}
    (h : (run Store.ops config.paths.settings config.scalars).run.run s = (.ok report, after)) :
    ∃ project, Run.projectAt config.paths.settings config.scalars s.get? = .ok project ∧
      report.paths = config.paths.settings.schemaTypesPath ::
        config.paths.settings.returnTypesPath ::
        ((servicesAmong (s.below config.paths.settings.services)).filter
          (Run.isDeclared s.get? project)).map
          (config.paths.settings.declarationPath
            (servicesAmong (s.below config.paths.settings.services))) := by
  obtain ⟨project, r, hproject, hr, rfl⟩ := Store.report_eq h
  exact ⟨project, hproject, by rw [Run.planServices_paths hr]⟩

/-! ## clashes -/

/-- no service that is alone with its stem is named like a shared artifact -/
def NoSharedStem (services declared : List Path) : Prop :=
  ∀ p ∈ declared, hasTwin services p = false →
    p.stem ≠ "shared-schema-types" ∧ p.stem ≠ "shared-return-types"

/-- no service with a twin is declared where another one is -/
def NoTwinClash (settings : PathSettings) (services declared : List Path) : Prop :=
  declared.Pairwise fun p q => (hasTwin services p || hasTwin services q) = true →
    (settings.declarationPath services p).same (settings.declarationPath services q) = false

theorem Store.isServiceBelow_of_mem {settings : PathSettings} {s : Store} {p : Path}
    (h : p ∈ servicesAmong (s.below settings.services)) : IsServiceBelow settings p := by
  obtain ⟨hbelow, hnamed⟩ := List.mem_filter.mp h
  have hdir := (List.mem_filter.mp hbelow).2
  rw [Bool.and_eq_true, Bool.not_eq_true'] at hdir
  exact ⟨hnamed, hdir.1, hdir.2⟩

theorem Store.services_sorted {s : Store} (h : s.Ordered) (dir : Path) :
    (servicesAmong (s.below dir)).Pairwise fun p q => p.lt q = true :=
  ((paths_sorted h).sublist List.filter_sublist).sublist List.filter_sublist

theorem Store.services_pairwise {s : Store} (h : s.Ordered) (dir : Path) :
    (servicesAmong (s.below dir)).Pairwise fun p q => p.same q = false :=
  (services_sorted h dir).imp Path.not_same_of_lt

/-- declarations of different services are different files, unless one of them has a twin -/
theorem pairwise_declarationPath_iff {settings : PathSettings} {services declared : List Path}
    (hdistinct : services.Pairwise fun p q => p.same q = false)
    (hsub : declared.Sublist services) :
    (declared.map (settings.declarationPath services)).Pairwise (fun p q => p.same q = false) ↔
      NoTwinClash settings services declared := by
  unfold NoTwinClash
  rw [List.pairwise_map]
  constructor
  · intro h
    refine h.imp fun hpq => ?_
    exact fun _ => hpq
  · intro h
    refine (h.and (hdistinct.sublist hsub)).imp_of_mem fun {p q} hp _ hpq => ?_
    by_cases htwin : (hasTwin services p || hasTwin services q) = true
    · exact hpq.1 htwin
    · rw [Bool.not_eq_true, Bool.or_eq_false_iff] at htwin
      exact not_same_of_alone (hsub.subset hp) hpq.2 htwin.1 htwin.2 settings

/-- the two shared artifacts are different files -/
theorem PathsConfig.shared_ne (c : PathsConfig) :
    c.settings.schemaTypesPath.same c.settings.returnTypesPath = false := by
  rw [c.schemaTypesPath_eq, c.returnTypesPath_eq, Bool.eq_false_iff, Ne,
    same_join_iff _ (by decide) (by decide)]
  decide

theorem pairwise_paths_iff {c : PathsConfig} {services declared : List Path}
    (hservices : ∀ p ∈ services, IsServiceBelow c.settings p)
    (hdistinct : services.Pairwise fun p q => p.same q = false)
    (hsub : declared.Sublist services) :
    (c.settings.schemaTypesPath :: c.settings.returnTypesPath ::
        declared.map (c.settings.declarationPath services)).Pairwise (fun p q => p.same q = false) ↔
      NoSharedStem services declared ∧ NoTwinClash c.settings services declared := by
  have hschema : ∀ p ∈ declared, c.settings.schemaTypesPath.same
      (c.settings.declarationPath services p) = false ↔
        (hasTwin services p = false → p.stem ≠ "shared-schema-types") := by
    intro p hp
    rw [c.schemaTypesPath_eq, Bool.eq_false_iff, Ne, same_declarationPath_iff
      (hservices p (hsub.subset hp)) (by decide) (by decide), not_and]
  have hreturn : ∀ p ∈ declared, c.settings.returnTypesPath.same
      (c.settings.declarationPath services p) = false ↔
        (hasTwin services p = false → p.stem ≠ "shared-return-types") := by
    intro p hp
    rw [c.returnTypesPath_eq, Bool.eq_false_iff, Ne, same_declarationPath_iff
      (hservices p (hsub.subset hp)) (by decide) (by decide), not_and]
  rw [List.pairwise_cons, List.pairwise_cons, pairwise_declarationPath_iff hdistinct hsub,
    List.forall_mem_cons, List.forall_mem_map, List.forall_mem_map]
  unfold NoSharedStem
  constructor
  · rintro ⟨⟨-, hs⟩, hr, hclash⟩
    exact ⟨fun p hp htwin => ⟨(hschema p hp).mp (hs p hp) htwin, (hreturn p hp).mp (hr p hp) htwin⟩,
      hclash⟩
  · rintro ⟨hstem, hclash⟩
    exact ⟨⟨c.shared_ne, fun p hp => (hschema p hp).mpr fun htwin => (hstem p hp htwin).1⟩,
      fun p hp => (hreturn p hp).mpr fun htwin => (hstem p hp htwin).2, hclash⟩

theorem noTwinClash_of_plain {settings : PathSettings} {services declared : List Path}
    (hservices : ∀ p ∈ services, IsServiceBelow settings p)
    (hdistinct : services.Pairwise fun p q => p.same q = false) (hsub : declared.Sublist services)
    (hplain : declared.all (isPlainBelow settings) = true) :
    NoTwinClash settings services declared := by
  refine (hdistinct.sublist hsub).imp_of_mem fun {p q} hp hq hne htwin => ?_
  have hp' := hservices p (hsub.subset hp)
  have hq' := hservices q (hsub.subset hq)
  have hpp := List.all_eq_true.mp hplain p hp
  have hpq := List.all_eq_true.mp hplain q hq
  rcases Bool.or_eq_true_iff.mp htwin with htwin | htwin
  · exact not_same_of_plain hp' hq' hne hpp hpq htwin
  · rw [Path.same_comm] at hne ⊢
    exact not_same_of_plain hq' hp' hne hpq hpp htwin

/-- **when the files of a report are different**: for every configuration and all files in memory,
the report of a run lists the two shared artifacts, which are different files, and the declarations of
the services with inferred types, and all of these are different files unless a service is named like a shared artifact or the name made
of a whole path is also that of another service, for which it takes a dot in the name of a folder or
in a stem -/
theorem report_paths_distinct_iff {config : Config} {files : List (Path × String)}
    {report : Report} {after : Store}
    (h : (run Store.ops config.paths.settings config.scalars).run.run (Store.ofList files) =
      (.ok report, after)) :
    let settings := config.paths.settings
    let store := Store.ofList files
    let services := servicesAmong (store.below settings.services)
    ∃ project declared,
      Run.projectAt settings config.scalars store.get? = .ok project ∧
      declared = services.filter (Run.isDeclared store.get? project) ∧
      report.paths = settings.schemaTypesPath :: settings.returnTypesPath ::
        declared.map (settings.declarationPath services) ∧
      settings.schemaTypesPath.same settings.returnTypesPath = false ∧
      (report.paths.Pairwise (fun p q => p.same q = false) ↔
        NoSharedStem services declared ∧ NoTwinClash settings services declared) ∧
      (declared.all (isPlainBelow settings) = true → NoTwinClash settings services declared) := by
  intro settings store services
  obtain ⟨project, hproject, hpaths⟩ := Store.report_paths h
  have hservices : ∀ p ∈ services, IsServiceBelow settings p := fun p hp =>
    Store.isServiceBelow_of_mem hp
  have hdistinct := Store.services_pairwise (Store.ofList_ordered files) settings.services
  have hsub : (services.filter (Run.isDeclared store.get? project)).Sublist services :=
    List.filter_sublist
  refine ⟨project, _, hproject, rfl, hpaths, config.paths.shared_ne, ?_,
    noTwinClash_of_plain hservices hdistinct hsub⟩
  rw [hpaths]
  exact pairwise_paths_iff hservices hdistinct hsub

/-! ## two projects -/

/-- a small layout -/
def smallConfig : Config := { paths := ⟨⟨"/a"⟩, ⟨"s"⟩, ⟨"d"⟩, ⟨"g"⟩, ⟨"t"⟩⟩ }

/-- two services with one stem, and one more -/
def twinFiles : List (Path × String) :=
  [(⟨"/a/g"⟩, "type Query \x7b a: Int b: Int c: Int \x7d"), (⟨"/a/d"⟩, ""),
    (⟨"/a/s/x/i.ts"⟩, "export function a() \x7b\x7d"),
    (⟨"/a/s/y/i.ts"⟩, "export function b() \x7b\x7d"),
    (⟨"/a/s/z.ts"⟩, "export function c() \x7b\x7d")]

theorem report_paths_distinct_twins :
    ∃ report after,
      (run Store.ops smallConfig.paths.settings smallConfig.scalars).run.run
        (Store.ofList twinFiles) = (.ok report, after) ∧
      smallConfig.paths.settings.schemaTypesPath.same smallConfig.paths.settings.returnTypesPath = false ∧
      report.paths.Pairwise fun p q => p.same q = false := by
  have hok : ((run Store.ops smallConfig.paths.settings smallConfig.scalars).run.run
      (Store.ofList twinFiles)).1.isOk = true := by decide +kernel
  have hstems : ∀ p ∈ servicesAmong
      ((Store.ofList twinFiles).below smallConfig.paths.settings.services),
      (p.stem ≠ "shared-schema-types" ∧ p.stem ≠ "shared-return-types") ∧
        isPlainBelow smallConfig.paths.settings p = true := by decide +kernel
  obtain ⟨report, after, hrun⟩ := exists_of_isOk hok
  obtain ⟨project, declared, -, hdeclared, -, hshared, hiff, hplain⟩ := report_paths_distinct_iff hrun
  have hmem : ∀ p ∈ declared, p ∈ servicesAmong
      ((Store.ofList twinFiles).below smallConfig.paths.settings.services) := by
    intro p hp
    rw [hdeclared] at hp
    exact List.mem_of_mem_filter hp
  refine ⟨report, after, hrun, hshared, hiff.mpr ⟨fun p hp _ => (hstems p (hmem p hp)).1, hplain ?_⟩⟩
  exact List.all_eq_true.mpr fun p hp => (hstems p (hmem p hp)).2

/-- a service named like the schema types -/
def sharedStemFiles : List (Path × String) :=
  [(⟨"/a/g"⟩, "type Query \x7b a: Int \x7d"), (⟨"/a/d"⟩, ""),
    (⟨"/a/s/shared-schema-types.ts"⟩, "export function a() \x7b\x7d")]

/-- its declaration goes where the schema types are -/
theorem report_paths_shared_stem :
    ((run Store.ops smallConfig.paths.settings smallConfig.scalars).run.run
        (Store.ofList sharedStemFiles)).1.toOption.map (fun report => report.paths.map Path.text) =
      some ["/a/t/shared-schema-types.d.ts", "/a/t/shared-return-types.d.ts",
        "/a/t/shared-schema-types.d.ts"] := by
  decide +kernel

end ResolverTypes
