import ResolverTypes.Proofs.Run.Outputs
import Mathlib.Data.List.Pairwise

/-!
# Services do not interfere

Two runs over files that differ in the text of one service find the same services and the same
project.  Looking at the services one after the other, they record the same facts and write the same
texts, apart from the facts of that service and its own declaration
(`Run.planServices_isolated`, `services_isolated`).
-/

namespace ResolverTypes

/-! ## one text that differs -/

/-- files that are the same but for the text of one of them -/
structure Store.DifferAt (path : Path) (s t : Store) : Prop where
  paths : s.paths = t.paths
  texts : ∀ q, path.same q = false → s.get? q = t.get? q

namespace Store.DifferAt
variable {path : Path} {s t : Store}

/-- another text in place of one that is there -/
theorem insert (hs : s.Ordered) (h : (s.get? path).isSome = true) (text : String) :
    DifferAt path s (s.insert path text) := by
  refine ⟨(paths_insert_of_get? hs h text).symm, fun q hq => ?_⟩
  rw [get?_insert, hq]
  rfl

theorem services (h : DifferAt path s t) (dir : Path) :
    servicesAmong (s.below dir) = servicesAmong (t.below dir) := by
  unfold below
  rw [h.paths]

theorem projectAt (h : DifferAt path s t) {settings : PathSettings}
    (hschema : path.same settings.graphqlSchema = false)
    (hmodel : path.same settings.dataModel = false) (scalars : ScalarMap) :
    Run.projectAt settings scalars s.get? = Run.projectAt settings scalars t.get? :=
  Run.projectAt_congr (h.texts _ hschema) (h.texts _ hmodel) scalars

end Store.DifferAt

/-! ## one service after the other -/

theorem Run.filter_declarationOf {settings : PathSettings} {services : List Path}
    {project : Project} {path q : Path} (h : (settings.declarationPath services path).same q = false)
    (a : Analysis) :
    (declarationOf settings services project path a).toList.filter (fun w => w.1.same q) = [] := by
  unfold declarationOf
  split
  · rw [Option.toList_some, List.filter_singleton]
    dsimp only
    rw [h]
    rfl
  · rfl

/-- plans for the same services, where the texts differ at one of them: the facts under other keys
and the writes to other paths are the same -/
theorem Run.planServices_isolated {settings : PathSettings} {read read' : Path → Option String}
    {services paths : List Path} {project : Project} {service : Path} {facts facts' : CodeFacts}
    {r r' : List Path × CodeFacts}
    (hread : ∀ p ∈ paths, p ≠ service → read p = read' p)
    (hfacts : ∀ key, key ≠ (settings.display service).text → facts.get? key = facts'.get? key)
    (h : (planServices settings read services project facts paths).outcome = .ok r)
    (h' : (planServices settings read' services project facts' paths).outcome = .ok r') :
    (∀ key, key ≠ (settings.display service).text → r.2.get? key = r'.2.get? key) ∧
      ∀ q, (settings.declarationPath services service).same q = false →
        (planServices settings read services project facts paths).writes.filter
            (fun w => w.1.same q) =
          (planServices settings read' services project facts' paths).writes.filter
            fun w => w.1.same q := by
  induction paths generalizing facts facts' r r' with
  | nil =>
    cases h
    cases h'
    exact ⟨hfacts, fun _ _ => rfl⟩
  | cons path rest ih =>
    obtain ⟨a, more, ha, hmore, rfl⟩ := planServices_cons_ok h
    obtain ⟨a', more', ha', hmore', rfl⟩ := planServices_cons_ok h'
    have hrest : ∀ p ∈ rest, p ≠ service → read p = read' p := fun p hp =>
      hread p (List.mem_cons_of_mem _ hp)
    rw [planServices_ok ha, planServices_ok ha']
    dsimp only
    by_cases hpath : path = service
    · -- this is the service that differs: its own key and its own declaration
      subst hpath
      have hinsert : ∀ key, key ≠ (settings.display path).text →
          (facts.insert (settings.display path).text a.facts).get? key =
            (facts'.insert (settings.display path).text a'.facts).get? key := by
        intro key hkey
        rw [Table.get?_insert, Table.get?_insert, if_neg (Ne.symm hkey), if_neg (Ne.symm hkey),
          hfacts key hkey]
      obtain ⟨hkeys, hwrites⟩ := ih hrest hinsert hmore hmore'
      refine ⟨hkeys, fun q hq => ?_⟩
      rw [List.filter_append, List.filter_append, filter_declarationOf hq,
        filter_declarationOf hq, hwrites q hq]
    · -- any other service is read alike, so it adds the same to both
      have hsame : a = a' := by
        have hread := analysisAt_congr (hread path List.mem_cons_self hpath) project
        rw [ha, ha'] at hread
        exact Except.ok.inj hread
      subst hsame
      have hinsert : ∀ key, key ≠ (settings.display service).text →
          (facts.insert (settings.display path).text a.facts).get? key =
            (facts'.insert (settings.display path).text a.facts).get? key := by
        intro key hkey
        rw [Table.get?_insert, Table.get?_insert, hfacts key hkey]
      obtain ⟨hkeys, hwrites⟩ := ih hrest hinsert hmore hmore'
      refine ⟨hkeys, fun q hq => ?_⟩
      rw [List.filter_append, List.filter_append, hwrites q hq]

/-! ## whole runs -/

/-- **services do not interfere**: if two runs over files in memory succeed, and the files differ in
the text of one service that is no schema, then the runs have the same field facts, the same function
facts apart from those of the service, and leave the same texts apart from the service and its
declaration -/
theorem services_isolated {config : Config} {files files' : List (Path × String)} {service : Path}
    {report report' : Report} {after after' : Store}
    (hservice : service ∈
      servicesAmong ((Store.ofList files).below config.paths.settings.services))
    (hschema : service.same config.paths.settings.graphqlSchema = false)
    (hmodel : service.same config.paths.settings.dataModel = false)
    (hdiffer : (Store.ofList files).DifferAt service (Store.ofList files'))
    (h : (run Store.ops config.paths.settings config.scalars).run.run (Store.ofList files) =
      (.ok report, after))
    (h' : (run Store.ops config.paths.settings config.scalars).run.run (Store.ofList files') =
      (.ok report', after')) :
    report.fieldFacts = report'.fieldFacts ∧
      (∀ key, key ≠ (config.paths.settings.display service).text →
        report.codeFacts.get? key = report'.codeFacts.get? key) ∧
      ∀ q, service.same q = false →
        (config.paths.settings.declarationPath
          (servicesAmong ((Store.ofList files).below config.paths.settings.services))
          service).same q = false →
        after.get? q = after'.get? q := by
  have hdistinct := Store.services_pairwise (Store.ofList_ordered files) config.paths.settings.services
  generalize Store.ofList files = s at *
  generalize Store.ofList files' = t at *
  rw [Store.run_eq] at h
  rw [Store.run_eq, ← hdiffer.services, ← hdiffer.projectAt hschema hmodel] at h'
  generalize servicesAmong (s.below config.paths.settings.services) = services at *
  generalize Run.projectAt config.paths.settings config.scalars s.get? = project at h h'
  cases project with
  | error e =>
    have houtcome := congrArg Prod.fst h
    cases houtcome
  | ok project =>
    obtain ⟨houtcome, rfl⟩ := Prod.mk.inj h
    obtain ⟨houtcome', rfl⟩ := Prod.mk.inj h'
    obtain ⟨r, hr, rfl⟩ := ok_of_map houtcome
    obtain ⟨r', hr', rfl⟩ := ok_of_map houtcome'
    have hread : ∀ p ∈ services, p ≠ service → s.get? p = t.get? p := by
      intro p hp hne
      have hsymm : Std.Symm fun p q : Path => p.same q = false := by
        refine ⟨fun p q hpq => ?_⟩
        rw [Path.same_comm]
        exact hpq
      exact hdiffer.texts p (hdistinct.forall hservice hp (Ne.symm hne))
    obtain ⟨hkeys, hwrites⟩ := Run.planServices_isolated hread (fun _ _ => rfl) hr hr'
    refine ⟨rfl, hkeys, fun q hq htarget => ?_⟩
    refine Store.get?_insertAll_congr (hdiffer.texts q hq) ?_
    unfold Run.plan
    dsimp only
    rw [List.filter_append, List.filter_append, hwrites q htarget]

/-- the services of `twinFiles`, where one of the twins is changed and exports no function -/
def changedTwinFiles : List (Path × String) := twinFiles ++ [(⟨"/a/s/x/i.ts"⟩, "export const b = 1")]

theorem services_isolated_twins :
    ∃ report after report' after',
      (run Store.ops smallConfig.paths.settings smallConfig.scalars).run.run
        (Store.ofList twinFiles) = (.ok report, after) ∧
      (run Store.ops smallConfig.paths.settings smallConfig.scalars).run.run
        (Store.ofList changedTwinFiles) = (.ok report', after') ∧
      report.fieldFacts = report'.fieldFacts ∧
      report.codeFacts.get? "s/y/i.ts" = report'.codeFacts.get? "s/y/i.ts" ∧
      after.get? ⟨"/a/t/y.i.ts.d.ts"⟩ = after'.get? ⟨"/a/t/y.i.ts.d.ts"⟩ := by
  have hok : ((run Store.ops smallConfig.paths.settings smallConfig.scalars).run.run
      (Store.ofList twinFiles)).1.isOk = true := by decide +kernel
  have hok' : ((run Store.ops smallConfig.paths.settings smallConfig.scalars).run.run
      (Store.ofList changedTwinFiles)).1.isOk = true := by decide +kernel
  obtain ⟨report, after, hrun⟩ := exists_of_isOk hok
  obtain ⟨report', after', hrun'⟩ := exists_of_isOk hok'
  have hdiffer : (Store.ofList twinFiles).DifferAt ⟨"/a/s/x/i.ts"⟩ (Store.ofList changedTwinFiles) := by
    rw [changedTwinFiles, Store.ofList_concat]
    exact .insert (Store.ofList_ordered twinFiles) (by decide +kernel) _
  obtain ⟨hfields, hfacts, htexts⟩ := services_isolated (by decide +kernel) (by decide +kernel)
    (by decide +kernel) hdiffer hrun hrun'
  exact ⟨report, after, report', after', hrun, hrun', hfields, hfacts _ (by decide +kernel),
    htexts _ (by decide +kernel) (by decide +kernel)⟩

end ResolverTypes
