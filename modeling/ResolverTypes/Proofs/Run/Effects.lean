import ResolverTypes.Proofs.Run.Outputs

/-!
# What a run leaves behind

A run in memory puts the shared artifacts and the declarations of services among the files, and
touches no other file, however it ends (`runs_contained`).  A second run finds the same services and
the same schemas, so it follows the same plan and writes what is already there (`run_again`).
-/

namespace ResolverTypes

/-! ## what may change -/

/-- how the files after a run, given with its outcome, may differ from those before it -/
structure Run.Contained {α : Type} (settings : PathSettings) (before : Store)
    (r : Except RunError α × Store) : Prop where
  /-- an error that was raised before anything could be written leaves all files as they were -/
  untouched : ∀ e, r.1 = .error e → e.isPrecondition = true → r.2 = before
  /-- after any other error the shared artifacts are there -/
  shared : ∀ e, r.1 = .error e → e.isPrecondition = false →
    (r.2.get? settings.schemaTypesPath).isSome = true ∧
      (r.2.get? settings.returnTypesPath).isSome = true
  /-- whatever is neither a shared artifact nor the declaration of a service keeps its text -/
  frame : ∀ q, settings.schemaTypesPath.same q = false → settings.returnTypesPath.same q = false →
    (∀ p ∈ servicesAmong (before.below settings.services), (settings.declarationPath
      (servicesAmong (before.below settings.services)) p).same q = false) →
    r.2.get? q = before.get? q
  /-- no service is ever changed -/
  services : ∀ p, isServiceFile p.baseName = true → r.2.get? p = before.get? p

namespace Run.Contained
variable {settings : PathSettings} {s : Store}

theorem refl {α : Type} (e : RunError) (h : e.isPrecondition = true) :
    Contained settings s ((.error e, s) : Except RunError α × Store) where
  untouched _ _ _ := rfl
  shared e' he' hlate := by
    cases he'
    rw [h] at hlate
    cases hlate
  frame _ _ _ _ := rfl
  services _ _ := rfl

theorem map {α β : Type} {r : Except RunError α × Store} (h : Contained settings s r) (f : α → β) :
    Contained settings s (r.1.map f, r.2) where
  untouched e he := h.untouched e (error_of_map he)
  shared e he := h.shared e (error_of_map he)
  frame := h.frame
  services := h.services

end Run.Contained

namespace Store

theorem run_contained (l : Layout) (scalars : ScalarMap) (s : Store) :
    Run.Contained l.settings s ((run Store.ops l.settings scalars).run.run s) := by
  rw [run_layout_eq]
  dsimp only
  generalize hservices : servicesAmong (s.below l.settings.services) = services
  cases hproject : Run.projectAt l.settings scalars s.get? with
  | error e => exact .refl e (Run.isPrecondition_of_projectAt hproject)
  | ok project =>
    generalize hplan : Run.plan l.settings scalars s.get? services (.ok project) = plan
    -- the shared artifacts are written, and only a service can be wrong after that
    have hshared : (∃ text, (l.settings.schemaTypesPath, text) ∈ plan.writes) ∧
        ∃ text, (l.settings.returnTypesPath, text) ∈ plan.writes := by
      rw [← hplan]
      exact Run.shared_mem_plan_writes scalars project
    have hlate : ∀ e, plan.outcome = .error e → e.isPrecondition = false := by
      intro e he
      rw [← hplan] at he
      exact Run.isPrecondition_of_planServices (error_of_map he)
    have hdeclaration : ∀ w ∈ plan.writes, IsDeclaration w.1.text := by
      intro w hw
      rw [← hplan] at hw
      exact Layout.isDeclaration_of_mem_plan hw
    refine ⟨fun e he hearly => ?_, fun e _ _ => ⟨?_, ?_⟩, fun q hschema hreturn hdeclared => ?_,
      fun p hp => get?_insertAll_of_declarations hdeclaration s hp⟩
    · rw [hlate e he] at hearly
      cases hearly
    · obtain ⟨text, htext⟩ := hshared.1
      exact isSome_get?_insertAll htext s
    · obtain ⟨text, htext⟩ := hshared.2
      exact isSome_get?_insertAll htext s
    · refine get?_insertAll_of_not_same (fun w hw => ?_) s
      rw [hservices] at hdeclared
      rw [← hplan] at hw
      rcases Run.mem_plan_writes hw with hw | hw | ⟨p, hp, hw⟩
      · rw [hw]
        exact hschema
      · rw [hw]
        exact hreturn
      · rw [hw]
        exact hdeclared p hp

theorem runLayout_of_unsupported {preset : String} (h : preset ≠ "redwood") (l : Layout) (s : Store) :
    (runLayout Store.ops preset l).run.run s = (.error (.unsupportedPreset preset), s) := by
  unfold runLayout Preset.ofName
  rw [if_neg h]
  rfl

theorem runLayout_redwood (l : Layout) (s : Store) :
    (runLayout Store.ops "redwood" l).run.run s =
      (((run Store.ops l.settings .empty).run.run s).1.map Report.paths,
        ((run Store.ops l.settings .empty).run.run s).2) := by
  have hrun : system.attempt (runLayout system.files "redwood" l) s =
      system.attempt (run system.files l.settings .empty >>= fun report => pure report.paths) s := rfl
  refine Eq.trans hrun ?_
  rcases hr : system.attempt (run system.files l.settings .empty) s with ⟨e | report, after⟩
  · rw [system.attempt_bind_error hr]
    have hr : (run Store.ops l.settings .empty).run.run s = _ := hr
    rw [hr]
    rfl
  · rw [system.attempt_bind_ok hr]
    have hr : (run Store.ops l.settings .empty).run.run s = _ := hr
    rw [hr]
    rfl

end Store

/-- **runs are contained**: with every configuration, and with every preset and every layout, a run
over any files in memory leaves them as they were if it fails on its preset or its schemas; if it
fails later, both shared artifacts are there; and all it ever changes are the shared artifacts and the
declarations of the services it finds -/
theorem runs_contained (config : Config) (preset : String) (layout : Layout) (s : Store) :
    Run.Contained config.paths.settings s
        ((run Store.ops config.paths.settings config.scalars).run.run s) ∧
      Run.Contained layout.settings s ((runLayout Store.ops preset layout).run.run s) := by
  refine ⟨Store.run_contained config.paths.layout config.scalars s, ?_⟩
  by_cases h : preset = "redwood"
  · rw [h, Store.runLayout_redwood]
    exact (Store.run_contained layout .empty s).map Report.paths
  · rw [Store.runLayout_of_unsupported h]
    exact .refl _ rfl

/-! ## a second run -/

/-- **a second run changes nothing**: if a run over any files in memory succeeds and does not write
over its own schemas, then a run over the files it leaves has the same report and leaves them as
they are -/
theorem run_again {config : Config} {files : List (Path × String)} {report : Report} {after : Store}
    (h : (run Store.ops config.paths.settings config.scalars).run.run (Store.ofList files) =
      (.ok report, after))
    (hschema : ∀ p ∈ report.paths, p.same config.paths.settings.graphqlSchema = false)
    (hmodel : ∀ p ∈ report.paths, p.same config.paths.settings.dataModel = false) :
    (run Store.ops config.paths.settings config.scalars).run.run after = (.ok report, after) := by
  have hordered := Store.ofList_ordered files
  generalize Store.ofList files = s at h hordered
  rw [Store.run_eq] at h
  obtain ⟨houtcome, rfl⟩ := Prod.mk.inj h
  generalize hplan : Run.plan config.paths.settings config.scalars s.get?
    (servicesAmong (s.below config.paths.settings.services))
    (Run.projectAt config.paths.settings config.scalars s.get?) = plan at houtcome ⊢
  -- what the first run writes is neither a service nor a schema
  have hdeclaration : ∀ w ∈ plan.writes, IsDeclaration w.1.text := by
    intro w hw
    rw [← hplan] at hw
    exact Layout.isDeclaration_of_mem_plan hw
  have hwritten : ∀ w ∈ plan.writes, w.1 ∈ report.paths := by
    intro w hw
    rw [← hplan] at houtcome hw
    rw [← Run.plan_written houtcome]
    exact List.mem_map_of_mem hw
  have hkeeps : Store.KeepsServices config.paths.settings.services s (s.insertAll plan.writes) :=
    Store.KeepsServices.insertAll ⟨rfl, fun _ _ => rfl⟩ hdeclaration
  have hproject : Run.projectAt config.paths.settings config.scalars (s.insertAll plan.writes).get? =
      Run.projectAt config.paths.settings config.scalars s.get? := by
    refine Run.projectAt_congr ?_ ?_ config.scalars
    · exact Store.get?_insertAll_of_not_same (fun w hw => hschema w.1 (hwritten w hw)) s
    · exact Store.get?_insertAll_of_not_same (fun w hw => hmodel w.1 (hwritten w hw)) s
  have hsecond : Run.plan config.paths.settings config.scalars (s.insertAll plan.writes).get?
      (servicesAmong ((s.insertAll plan.writes).below config.paths.settings.services))
      (Run.projectAt config.paths.settings config.scalars (s.insertAll plan.writes).get?) = plan := by
    rw [hkeeps.list, hproject]
    refine Eq.trans ?_ hplan
    exact Run.plan_congr (fun p hp => hkeeps.read p (List.mem_filter.mp hp).2) _ _
  rw [Store.run_eq]
  dsimp only
  rw [hsecond, houtcome, Store.insertAll_insertAll hordered]

theorem run_again_twins :
    ∃ report after,
      (run Store.ops smallConfig.paths.settings smallConfig.scalars).run.run
        (Store.ofList twinFiles) = (.ok report, after) ∧
      (run Store.ops smallConfig.paths.settings smallConfig.scalars).run.run after =
        (.ok report, after) := by
  have hok : ((run Store.ops smallConfig.paths.settings smallConfig.scalars).run.run
      (Store.ofList twinFiles)).1.toOption.map (fun report => report.paths.all fun p =>
        !p.same smallConfig.paths.settings.graphqlSchema &&
          !p.same smallConfig.paths.settings.dataModel) = some true := by decide +kernel
  rcases hrun : (run Store.ops smallConfig.paths.settings smallConfig.scalars).run.run
    (Store.ofList twinFiles) with ⟨e | report, after⟩
  · rw [hrun] at hok
    cases hok
  · rw [hrun] at hok
    have hall := List.all_eq_true.mp (Option.some.inj hok)
    refine ⟨report, after, rfl, run_again hrun (fun p hp => ?_) fun p hp => ?_⟩
    · have hp := hall p hp
      rw [Bool.and_eq_true, Bool.not_eq_true'] at hp
      exact hp.1
    · have hp := hall p hp
      rw [Bool.and_eq_true, Bool.not_eq_true', Bool.not_eq_true'] at hp
      exact hp.2

end ResolverTypes
