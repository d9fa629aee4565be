import ResolverTypes.Proofs.File.Listing
import ResolverTypes.Proofs.Run.Execution

/-!
# Dry runs

A dry run and a real one follow plans with the same project.  The dry run looks for the services on
the disk as it is; the real one does so when the shared artifacts are written, on a disk that has
grown.  So they agree as long as the directory of the services is there before the run, and differ
if it comes into being with services in it (`dryRun_eq_iff`): writing the shared artifacts can make
the directory `x` that the path `x/../src` leads through.

* `Command.dryRun_eq`: the plan of a dry run;
* `Disk.run_eq`: the plan of a run on a disk on which every write succeeds.
-/

namespace ResolverTypes

/-- the texts of the files of a disk -/
def Disk.texts (d : Disk) (p : Path) : Option String := (d.load p).toOption

/-- the services of a disk below the directory of a configuration -/
def Disk.servicesFor (d : Disk) (c : PathsConfig) : List Path :=
  servicesAmong (d.filesBelow c.settings.services)

namespace Disk

/-- the project on a disk -/
def projectFor (d : Disk) (config : Config) : Except RunError Project :=
  Run.projectAt config.paths.settings config.scalars d.texts

/-- what a dry run does -/
def dryPlanFor (d : Disk) (config : Config) : Plan Report :=
  Run.plan config.paths.settings config.scalars d.texts (d.servicesFor config.paths)
    (d.projectFor config)

end Disk

/-! ## dry runs -/

namespace FileSystem
variable {m : Type → Type} [Monad m] {σ : Type} (fs : FileSystem m σ)

/-- declarations in memory above some state do not hide its services -/
theorem overlaid_steady (settings : PathSettings) (t : σ) :
    fs.overlaid.Steady settings (fs.read t) (servicesAmong (fs.list t settings.services))
      (fun p => IsDeclaration p.text)
      (fun s => s.2 = t ∧ ∀ p, isServiceFile p.baseName = true → s.1.get? p = none) where
  list s hs := by
    obtain ⟨store, t'⟩ := s
    cases hs.1
    rfl
  read s hs p hp := by
    obtain ⟨store, t'⟩ := s
    obtain ⟨rfl, hfree⟩ := hs
    show (store.get? p).or (fs.read t' p) = _
    rw [hfree p (List.mem_filter.mp hp).2, Option.none_or]
  write _ s hs path text hpath := by
    refine ⟨hs.1, fun p hp => ?_⟩
    show (s.1.insert path text).get? p = none
    rw [Store.get?_insert, hpath.not_same hp, hs.2 p hp]
    rfl

theorem exec_dryRun {disk : DiskOps m} (hdisk : disk.files = fs.files) (config : Config) (t : σ) :
    fs.exec (Command.dryRun disk config) t =
      let r := fs.overlaid.attempt
        (run fs.overlaid.files config.paths.settings config.scalars) (.empty, t)
      (r.1, r.2.2) := by
  unfold Command.dryRun
  rw [hdisk, fs.exec_bind, fs.exec_pure]
  rfl

end FileSystem

theorem Command.dryRun_eq (config : Config) (d : Disk) :
    (Command.dryRun Disk.ops config).run d = ((d.dryPlanFor config).outcome, d) := by
  have hrun : Disk.system.overlaid.attempt
      (run Disk.system.overlaid.files config.paths.settings config.scalars) (.empty, d) = _ :=
    FileSystem.attempt_run (Disk.system.overlaid_steady config.paths.settings d) ?_
      fun project w hw => Run.isDeclaration_of_mem_planServices hw
  · rw [FileSystem.follow, FileSystem.carryOut_overlaid] at hrun
    have hdry : Disk.system.exec (Command.dryRun Disk.ops config) d = _ :=
      Disk.system.exec_dryRun rfl config d
    rw [hrun] at hdry
    exact hdry
  · intro project s' _ hshared
    rw [FileSystem.carryOut_overlaid] at hshared
    cases hshared
    refine ⟨rfl, fun p hp => ?_⟩
    exact Store.get?_insertAll_of_declarations
      (fun w hw => Layout.isDeclaration_of_mem_sharedWrites hw) _ hp

/-! ## runs on a disk -/

namespace Disk

theorem carryOut_grown {writes : List (Path × String)} (hw : ∀ w ∈ writes, IsDeclaration w.1.text)
    {d d' : Disk} {r : Except RunError Unit} (h : system.carryOut writes d = (r, d')) :
    Grown d d' := by
  induction writes generalizing d with
  | nil =>
    cases h
    exact Grown.refl d'
  | cons w writes ih =>
    obtain ⟨path, text⟩ := w
    obtain ⟨hfirst, hrest⟩ := List.forall_mem_cons.mp hw
    have hstep : Grown d (system.write d path text).2 := write_grown hfirst d text
    rcases hwrite : system.write d path text with ⟨reason | _, d₁⟩
    · rw [FileSystem.carryOut_cons_error hwrite] at h
      rw [hwrite] at hstep
      cases h
      exact hstep
    · rw [FileSystem.carryOut_cons_ok hwrite] at h
      rw [hwrite] at hstep
      exact hstep.trans (ih hrest h)

theorem servicesFor_grown {d d' : Disk} (h : Grown d d') {c : PathsConfig}
    (hne : d.servicesFor c ≠ []) : d'.servicesFor c = d.servicesFor c := by
  cases hfind : d.find c.settings.services with
  | ok n => exact services_grown h hfind
  | error e =>
    refine absurd ?_ hne
    unfold servicesFor
    rw [filesBelow_eq_nil (by simp [hfind])]
    rfl

/-- declarations on a disk leave its services as they are -/
theorem steady (c : PathsConfig) {d : Disk} (hd : d.root.isWellNamed = true) :
    system.Steady c.settings d.texts (d.servicesFor c) (fun p => IsDeclaration p.text)
      (fun t => Grown d t ∧ t.servicesFor c = d.servicesFor c) where
  list _ ht := ht.2
  read _ ht _ hp := load_grown ht.1 hd hp
  write hne t ht _ text hpath :=
    have hgrown := ht.1.trans (write_grown hpath t text)
    ⟨hgrown, servicesFor_grown hgrown hne⟩

/-- the shared artifacts of a project, if there is one -/
def sharedWritesFor (config : Config) : Except RunError Project → List (Path × String)
  | .error _ => []
  | .ok project => Run.sharedWrites config.paths.settings config.scalars project

theorem isDeclaration_of_mem_sharedWritesFor {config : Config} {project : Except RunError Project}
    {w : Path × String} (h : w ∈ sharedWritesFor config project) : IsDeclaration w.1.text := by
  cases project with
  | error e => cases h
  | ok project => exact Layout.isDeclaration_of_mem_sharedWrites h

/-- the disk when the shared artifacts are written -/
def afterShared (d : Disk) (config : Config) : Disk :=
  (system.carryOut (sharedWritesFor config (d.projectFor config)) d).2

section
variable {config : Config} {d : Disk}

theorem afterShared_grown (d : Disk) (config : Config) : Grown d (d.afterShared config) :=
  carryOut_grown (fun _ hw => isDeclaration_of_mem_sharedWritesFor hw) rfl

/-- what a run on a disk does: the services are those that are there after the shared artifacts -/
def planFor (d : Disk) (config : Config) : Plan Report :=
  Run.plan config.paths.settings config.scalars (d.afterShared config).texts
    ((d.afterShared config).servicesFor config.paths) (d.projectFor config)

theorem run_eq (hd : d.root.isWellNamed = true) :
    (run Disk.ops.files config.paths.settings config.scalars).run.run d =
      system.follow (d.planFor config) d := by
  have hshared := (afterShared_grown d config).isWellNamed hd
  refine FileSystem.attempt_run (steady config.paths hshared) ?_
    fun project w hw => Run.isDeclaration_of_mem_planServices hw
  intro project d' hproject hwrites
  have hproject : d.projectFor config = .ok project := hproject
  have hd' : d.afterShared config = d' := by
    rw [afterShared, hproject, sharedWritesFor, hwrites]
  rw [hd']
  exact ⟨Grown.refl d', rfl⟩

/-- the services after a run are those after the shared artifacts -/
theorem servicesFor_of_carryOut {after : Disk}
    (h : system.carryOut (d.planFor config).writes d = (.ok (), after)) :
    after.servicesFor config.paths = (d.afterShared config).servicesFor config.paths := by
  unfold planFor at h
  cases hproject : d.projectFor config with
  | error e =>
    rw [hproject] at h
    cases h
    rw [afterShared, hproject]
    rfl
  | ok project =>
    rw [hproject] at h
    rcases hwrites : system.carryOut
      (Run.sharedWrites config.paths.settings config.scalars project) d with ⟨e | _, shared⟩
    · rw [Run.plan, FileSystem.carryOut_append_error hwrites] at h
      cases h
    · have hshared : d.afterShared config = shared := by
        rw [afterShared, hproject, sharedWritesFor, hwrites]
      rw [Run.plan, FileSystem.carryOut_append_ok hwrites, hshared] at h
      rw [hshared]
      by_cases hnone : shared.servicesFor config.paths = []
      · rw [hnone] at h
        cases h
        rfl
      · refine servicesFor_grown (carryOut_grown (fun w hw => ?_) h) hnone
        exact Run.isDeclaration_of_mem_planServices hw

theorem servicesFor_of_missing {c : PathsConfig} (h : ¬d.contains c.settings.services = true) :
    d.servicesFor c = [] := by
  unfold servicesFor
  rw [filesBelow_eq_nil fun es hes => h (contains_iff.mpr ⟨_, hes⟩)]
  rfl

/-! ## comparing plans -/

theorem planFor_eq_of_services (hd : d.root.isWellNamed = true)
    (h : (d.afterShared config).servicesFor config.paths = d.servicesFor config.paths) :
    d.planFor config = d.dryPlanFor config := by
  unfold planFor dryPlanFor
  rw [h]
  exact Run.plan_congr (fun p hp => load_grown (afterShared_grown d config) hd hp) _ _

/-- the services that are found too late are missing in the facts of a dry run -/
theorem services_eq_nil_of_outcome (hnone : d.servicesFor config.paths = [])
    (h : (d.dryPlanFor config).outcome = (d.planFor config).outcome) :
    (d.afterShared config).servicesFor config.paths = [] := by
  unfold dryPlanFor planFor at h
  cases hproject : d.projectFor config with
  | error e =>
    rw [afterShared, hproject]
    exact hnone
  | ok project =>
    rw [hproject, hnone] at h
    obtain ⟨r, hr, hreport⟩ := ok_of_map h.symm
    have hfacts : r.2 = .empty := congrArg Report.codeFacts hreport
    refine List.eq_nil_iff_forall_not_mem.mpr fun p hp => ?_
    have hkey := (Run.planServices_keys hr).2 p hp
    rw [hfacts] at hkey
    cases hkey

theorem outcome_eq_iff (hd : d.root.isWellNamed = true) :
    (d.dryPlanFor config).outcome = (d.planFor config).outcome ↔
      d.contains config.paths.settings.services = true ∨
        (d.afterShared config).servicesFor config.paths = [] := by
  constructor
  · intro h
    by_cases hthere : d.contains config.paths.settings.services = true
    · exact .inl hthere
    · exact .inr (services_eq_nil_of_outcome (servicesFor_of_missing hthere) h)
  · intro h
    rw [planFor_eq_of_services hd]
    by_cases hthere : d.contains config.paths.settings.services = true
    · obtain ⟨n, hn⟩ := contains_iff.mp hthere
      exact services_grown (afterShared_grown d config) hn
    · rw [h.resolve_left hthere, servicesFor_of_missing hthere]

end

end Disk

/-- A dry run leaves the disk as it is.  It ends like a real run whose writes all succeed, with the
same report or the same error, exactly if the directory of the services is there before the real run
or no services are found in it afterwards.  That holds for every path without `..`. -/
theorem dryRun_eq_iff {config : Config} {d after : Disk} {result : Except RunError Report}
    (hd : d.root.isWellNamed = true)
    (hrun : (run Disk.ops.files config.paths.settings config.scalars).run.run d = (result, after))
    (hwrite : ∀ path reason, result ≠ .error (.write path reason)) :
    ((Command.dryRun Disk.ops config).run d).2 = d ∧
      (((Command.dryRun Disk.ops config).run d).1 = result ↔
        d.contains config.paths.settings.services = true ∨
          servicesAmong (after.filesBelow config.paths.settings.services) = []) ∧
      (".." ∉ Disk.piecesOf config.paths.settings.services →
        ((Command.dryRun Disk.ops config).run d).1 = result) := by
  rw [Disk.run_eq hd] at hrun
  obtain ⟨hwrites, rfl⟩ := FileSystem.carryOut_of_follow hrun hwrite
  have hservices : servicesAmong (after.filesBelow config.paths.settings.services) =
      (d.afterShared config).servicesFor config.paths := Disk.servicesFor_of_carryOut hwrites
  rw [Command.dryRun_eq, hservices]
  refine ⟨rfl, Disk.outcome_eq_iff hd, fun hup => (Disk.outcome_eq_iff hd).mpr ?_⟩
  by_cases hthere : d.contains config.paths.settings.services = true
  · exact .inl hthere
  · refine .inr (Disk.services_of_missing (Disk.afterShared_grown d config) (fun n hn => ?_) hup)
    exact hthere (Disk.contains_iff.mpr ⟨n, hn⟩)

/-- a disk with a service, an empty data model and a schema -/
def smallDisk : Disk where
  root := .directory
    [("s", .directory [("a.ts", .file "export function a() \x7b\x7d".toUTF8)]),
      ("d", .file "".toUTF8), ("g", .file "type Query \x7b a: Int \x7d".toUTF8)]
  workingDirectory := []

/-- declarations go below a directory that is not there yet -/
def plainConfig : Config := { paths := ⟨⟨"/"⟩, ⟨"s"⟩, ⟨"d"⟩, ⟨"g"⟩, ⟨"x"⟩⟩ }

theorem dryRun_eq_iff_plain :
    ∃ report after,
      (run Disk.ops.files plainConfig.paths.settings plainConfig.scalars).run.run smallDisk =
        (.ok report, after) ∧
      (Command.dryRun Disk.ops plainConfig).run smallDisk = (.ok report, smallDisk) := by
  have hok : ((run Disk.ops.files plainConfig.paths.settings plainConfig.scalars).run.run
      smallDisk).1.isOk = true := by decide +kernel
  obtain ⟨report, after, hrun⟩ := exists_of_isOk hok
  obtain ⟨hdisk, -, hsame⟩ := dryRun_eq_iff (by decide) hrun nofun
  exact ⟨report, after, hrun, Prod.ext (hsame (by decide)) hdisk⟩

/-- the services are looked for through the directory that is made for the declarations -/
def upwardConfig : Config := { paths := ⟨⟨"/"⟩, ⟨"x/../s"⟩, ⟨"d"⟩, ⟨"g"⟩, ⟨"x"⟩⟩ }

theorem dryRun_misses_service :
    (((Command.dryRun Disk.ops upwardConfig).run smallDisk).1.toOption.map
        fun report => report.paths.map Path.text) =
      some ["/x/shared-schema-types.d.ts", "/x/shared-return-types.d.ts"] ∧
    (((run Disk.ops.files upwardConfig.paths.settings upwardConfig.scalars).run.run
        smallDisk).1.toOption.map fun report => report.paths.map Path.text) =
      some ["/x/shared-schema-types.d.ts", "/x/shared-return-types.d.ts", "/x/a.d.ts"] := by
  decide +kernel

end ResolverTypes
