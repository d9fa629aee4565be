import ResolverTypes.Proofs.Run.Coverage

/-!
# What a run says about functions

A run that succeeds has looked at services one after the other, each in the state that the files had by
then, and has recorded their facts (`mem_of_lookAtAll`).  So whatever holds of the facts of a service
file holds of all facts of a run; that they are sound is `functionFacts_sound`.
-/

namespace ResolverTypes

namespace FileSystem
variable {m : Type → Type} [Monad m] {σ : Type} {fs : FileSystem m σ}

theorem ok_of_attempt_bind {ε α β : Type} {x : ExceptT ε m α} {f : α → ExceptT ε m β} {s s' : σ} {b : β}
    (h : fs.attempt (x >>= f) s = (.ok b, s')) :
    ∃ a t, fs.attempt x s = (.ok a, t) ∧ fs.attempt (f a) t = (.ok b, s') := by
  rcases hx : fs.attempt x s with ⟨e | a, t⟩
  · rw [fs.attempt_bind_error hx] at h
    cases h
  · rw [fs.attempt_bind_ok hx] at h
    exact ⟨a, t, rfl, h⟩

variable (fs) in
/-- the text of a file at some time while files are written to the given paths in order -/
def HoldsAmid (s : σ) (paths : List Path) (path : Path) (text : String) : Prop :=
  ∃ writes t, fs.carryOut writes s = (.ok (), t) ∧ writes.map Prod.fst <+: paths ∧
    fs.read t path = some text

variable {path : Path} {text : String}

theorem HoldsAmid.of_read {s : σ} (h : fs.read s path = some text) (paths : List Path) :
    fs.HoldsAmid s paths path text :=
  ⟨[], s, rfl, List.nil_prefix, h⟩

theorem HoldsAmid.of_carryOut {writes : List (Path × String)} {s t : σ} {paths : List Path}
    (hw : fs.carryOut writes s = (.ok (), t)) (h : fs.HoldsAmid t paths path text) :
    fs.HoldsAmid s (writes.map Prod.fst ++ paths) path text := by
  obtain ⟨more, u, hmore, hpaths, hread⟩ := h
  refine ⟨writes ++ more, u, (carryOut_append_ok hw more).trans hmore, ?_, hread⟩
  rw [List.map_append]
  exact (List.prefix_append_right_inj _).mpr hpaths

/-! ## services -/

variable (fs) in
/-- an entry of the facts: those of a service file, under the text it is shown as -/
def IsEntry (settings : PathSettings) (project : Project) (services : List Path) (s : σ)
    (paths : List Path) (entry : String × List FunctionFact) : Prop :=
  ∃ path ∈ services, ∃ text es, fs.HoldsAmid s paths path text ∧
    Script.Exports.ofFile path text = .ok es ∧
    entry = ((settings.display path).text, (analyze project es).facts)

variable {settings : PathSettings} {project : Project} {services : List Path}

theorem IsEntry.of_carryOut {writes : List (Path × String)} {s t : σ} {paths : List Path}
    {entry : String × List FunctionFact} (hw : fs.carryOut writes s = (.ok (), t))
    (h : fs.IsEntry settings project services t paths entry) :
    fs.IsEntry settings project services s (writes.map Prod.fst ++ paths) entry := by
  obtain ⟨path, hpath, text, es, hholds, hes, hentry⟩ := h
  exact ⟨path, hpath, text, es, hholds.of_carryOut hw, hes, hentry⟩

/-- a look that ends well gives an entry, and what it has written tells the state after it -/
theorem lookAt_ok {s t : σ} {look : Run.Look} {written : Option Path}
    (h : fs.exec (Run.lookAt fs.files settings project path) s = (look, t))
    (hresult : look.result = .ok written) (hpath : path ∈ services) :
    ∃ entry writes, look.entry = some entry ∧
      (∀ paths, fs.IsEntry settings project services s paths entry) ∧
      fs.carryOut writes s = (.ok (), t) ∧ writes.map Prod.fst = written.toList := by
  cases ha : Run.analysisAt (fs.read s) project path with
  | error e =>
    rw [exec_lookAt_error ha] at h
    cases h
    cases hresult
  | ok a =>
    obtain ⟨text, es, htext, hes, rfl⟩ := Run.analysisAt_ok ha
    have hentry : ∀ paths, fs.IsEntry settings project services s paths
        ((settings.display path).text, (analyze project es).facts) := fun paths =>
      ⟨path, hpath, text, es, .of_read htext paths, hes, rfl⟩
    rw [exec_lookAt_ok ha, attempt_declare] at h
    split at h
    · cases h
      obtain ⟨target, htarget, rfl⟩ := ok_of_map hresult
      obtain ⟨⟨⟩, hwrite, rfl⟩ := ok_of_map htarget
      exact ⟨_, _, rfl, hentry, Prod.ext hwrite rfl, rfl⟩
    · cases h
      cases hresult
      exact ⟨_, [], rfl, hentry, rfl, rfl⟩

/-- whatever is recorded comes from a service file -/
theorem mem_of_lookAtAll {paths : List Path} (hpaths : paths ⊆ services) {facts : CodeFacts} {s s' : σ}
    {r : List Path × CodeFacts}
    (h : fs.attempt (Run.lookAtAll fs.files settings project facts paths) s = (.ok r, s'))
    {entry : String × List FunctionFact} (hentry : entry ∈ r.2.entries) :
    entry ∈ facts.entries ∨ fs.IsEntry settings project services s r.1 entry := by
  induction paths generalizing facts s r with
  | nil =>
    rw [Run.lookAtAll, attempt_pure] at h
    cases h
    exact .inl hentry
  | cons path rest ih =>
    obtain ⟨hpath, hrest⟩ := List.cons_subset.mp hpaths
    rw [Run.lookAtAll, attempt_lift_bind] at h
    rcases hlook : fs.exec (Run.lookAt fs.files settings project path) s with ⟨look, t⟩
    rw [hlook] at h
    dsimp only at h
    cases hresult : look.result with
    | error e =>
      rw [hresult] at h
      cases (fs.attempt_throw e t).symm.trans h
    | ok written =>
      rw [hresult] at h
      obtain ⟨more, u, hmore, hpure⟩ := ok_of_attempt_bind h
      cases (fs.attempt_pure _ u).symm.trans hpure
      obtain ⟨new, writes, hnew, hisEntry, hwrites, hwritten⟩ := lookAt_ok hlook hresult hpath
      have hrecord : look.record facts = facts.insert new.1 new.2 := by
        rw [Run.Look.record, hnew]
      -- later services are read after what this one has written
      rcases ih hrest hmore hentry with hold | hlater
      · rw [hrecord] at hold
        rcases Table.mem_insertEntry hold with rfl | hold
        · exact .inr (hisEntry _)
        · exact .inl hold
      · have hlater := hlater.of_carryOut hwrites
        rw [hwritten] at hlater
        exact .inr hlater

/-! ## runs -/

/-- the schemas a run has read and where its facts are from -/
theorem facts_of_run {scalars : ScalarMap} {s s' : σ} {report : Report}
    (h : fs.attempt (run fs.files settings scalars) s = (.ok report, s')) :
    ∃ schema catalog,
      Run.schemaAt settings.graphqlSchema (fs.read s settings.graphqlSchema) = .ok schema ∧
      Run.catalogAt settings.dataModel (fs.read s settings.dataModel) = .ok catalog ∧
      report.fieldFacts = sharedFacts catalog schema scalars ∧
      ∃ services, (∀ path ∈ services, isServiceFile path.baseName = true) ∧
        ∀ entry ∈ report.codeFacts.entries,
          fs.IsEntry settings (Project.of catalog schema scalars) services s report.paths entry := by
  unfold run at h
  obtain ⟨schema, t, hreadSchema, h⟩ := ok_of_attempt_bind h
  obtain ⟨catalog, u, hreadCatalog, h⟩ := ok_of_attempt_bind h
  obtain ⟨⟨⟩, v, hshared, h⟩ := ok_of_attempt_bind h
  obtain ⟨services, w, hservices, h⟩ := ok_of_attempt_bind h
  obtain ⟨r, x, hlook, hreport⟩ := ok_of_attempt_bind h
  rw [attempt_readSchema] at hreadSchema
  obtain ⟨hschema, rfl⟩ := Prod.mk.inj hreadSchema
  rw [attempt_readCatalog] at hreadCatalog
  obtain ⟨hcatalog, rfl⟩ := Prod.mk.inj hreadCatalog
  rw [attempt_writeShared] at hshared
  rw [attempt_lift, exec_services] at hservices
  obtain ⟨hservices, rfl⟩ := Prod.mk.inj hservices
  cases hservices
  cases (fs.attempt_pure _ x).symm.trans hreport
  refine ⟨schema, catalog, hschema, hcatalog, rfl, servicesAmong (fs.list v settings.services),
    fun path hpath => (List.mem_filter.mp hpath).2, fun entry hentry => ?_⟩
  rcases mem_of_lookAtAll (List.Subset.refl _) hlook hentry with hnone | hentry
  · cases hnone
  · exact hentry.of_carryOut hshared

end FileSystem

/-- in memory, what is read of a service while declarations are written is what it was before -/
theorem Store.get?_of_holdsAmid {s : Store} {paths : List Path} {path : Path} {script : String}
    (h : system.HoldsAmid s paths path script)
    (hpaths : paths.all (fun p => ".d.ts".toList.isSuffixOf p.text.toList) = true)
    (hservice : isServiceFile path.baseName = true) : s.get? path = some script := by
  obtain ⟨writes, t, hwrites, hwritten, hread⟩ := h
  have hdeclarations : ∀ w ∈ writes, IsDeclaration w.1.text := by
    intro w hw
    have hmem : w.1 ∈ paths := hwritten.subset (List.mem_map_of_mem hw)
    exact List.isSuffixOf_iff_suffix.mp (List.all_eq_true.mp hpaths w.1 hmem)
  rw [carryOut_eq] at hwrites
  cases hwrites
  rw [← get?_insertAll_of_declarations hdeclarations s hservice]
  exact hread

/-- the exports of the only service there is -/
theorem Store.exports_of_holdsAmid {s : Store} {paths : List Path} {path : Path} {script : String}
    {es : Script.Exports} (h : system.HoldsAmid s paths path script)
    (hpaths : paths.all (fun p => ".d.ts".toList.isSuffixOf p.text.toList) = true)
    (hservice : isServiceFile path.baseName = true) (hes : Script.Exports.ofFile path script = .ok es)
    {only : Path × String} (honly : (s.files.filter fun f => isServiceFile f.1.baseName) = [only]) :
    Script.Exports.ofFile only.1 only.2 = .ok es := by
  obtain ⟨f, hfound, rfl⟩ := Option.map_eq_some_iff.mp (get?_of_holdsAmid h hpaths hservice)
  have hsame : f.1.same path = true := by simpa using List.find?_some hfound
  have hmem : f ∈ s.files.filter fun f => isServiceFile f.1.baseName := by
    refine List.mem_filter.mpr ⟨List.mem_of_find?_eq_some hfound, ?_⟩
    rw [Path.baseName_eq_of_same hsame]
    exact hservice
  rw [honly, List.mem_singleton] at hmem
  have hmarkup : Script.hasMarkup f.1 = Script.hasMarkup path := by
    unfold Script.hasMarkup Path.extension? Path.fileName?
    rw [Path.same_iff.mp hsame]
  rw [← hmem, Script.Exports.ofFile, hmarkup]
  exact hes

theorem sharedFacts_isKeyed (catalog : DataModel.Catalog) (schema : Schema) (scalars : ScalarMap) :
    (sharedFacts catalog schema scalars).IsKeyed :=
  (FieldFacts.isKeyed_empty.recordAll _).recordAll _

/-- **function facts are sound**: on any file system, if a run succeeds, the field facts are those of
the two schemas that it has read, and every entry of the function facts is that of a service file, as it
was at some time between the writes of the run, with one sound fact for each function that matters there -/
theorem functionFacts_sound {m : Type → Type} [Monad m] {σ : Type} (fs : FileSystem m σ)
    {settings : PathSettings} {scalars : ScalarMap} {s s' : σ} {report : Report}
    (h : fs.attempt (run fs.files settings scalars) s = (.ok report, s')) :
    ∃ sdl schema text blocks catalog,
      fs.read s settings.graphqlSchema = some sdl ∧ Schema.parse sdl = .ok schema ∧
      fs.read s settings.dataModel = some text ∧ DataModel.parse text = .ok blocks ∧
      DataModel.Catalog.ofBlocks blocks = .ok catalog ∧
      report.fieldFacts = sharedFacts catalog schema scalars ∧
      ∀ entry ∈ report.codeFacts.entries, ∃ path script es,
        isServiceFile path.baseName = true ∧ entry.1 = (settings.display path).text ∧
        fs.HoldsAmid s report.paths path script ∧
        Script.Exports.ofFile path script = .ok es ∧
        List.Forall₂ (fun e (fact : FunctionFact) => fact.IsSound report.fieldFacts blocks e.1 e.2)
          (schema.sourcesOf es) entry.2 := by
  obtain ⟨schema, catalog, hschema, hcatalog, hfields, services, hservices, hentries⟩ :=
    FileSystem.facts_of_run h
  obtain ⟨sdl, hsdl, hschema⟩ := Run.schemaAt_ok hschema
  obtain ⟨text, blocks, htext, hblocks, hcatalog⟩ := Run.catalogAt_ok hcatalog
  refine ⟨sdl, schema, text, blocks, catalog, hsdl, hschema, htext, hblocks, hcatalog, hfields, ?_⟩
  intro entry hentry
  obtain ⟨path, hpath, script, es, hholds, hes, rfl⟩ := hentries entry hentry
  refine ⟨path, script, es, hservices path hpath, rfl, hholds, hes, ?_⟩
  rw [hfields]
  have hkeyed : (Project.of catalog schema scalars).facts.IsKeyed :=
    sharedFacts_isKeyed catalog schema scalars
  exact facts_isSound hkeyed hcatalog (Schema.parse_types_nodup hschema) es

def waysSource : String := "type Query \x7b a: Int \x7d type B \x7b c(x: Int): B \x7d"

def waysText : String := "model M \x7b\nid Int @id\n\x7d"

/-- a function for each way in which a fact is built -/
def waysScript : String :=
  "export function t(): number \x7b\x7d export function a() \x7b\x7d " ++
  "export function listMs(p: string, q, r) \x7b\x7d export function u(p) \x7b\x7d " ++
  "export const B = \x7b c(p) \x7b\x7d \x7d"

def waysFiles : List (Path × String) :=
  [(⟨"/a/g"⟩, waysSource), (⟨"/a/d"⟩, waysText), (⟨"/a/s/x.ts"⟩, waysScript)]

def waysBlocks : List DataModel.Block :=
  [⟨.model, some "M", 1, none, [.field ⟨"id", "Int", false, false, [⟨"id", none⟩], none, 2⟩]⟩]

/-- what the script exports: names, parameters with their annotations, and result annotations -/
def waysFunctions : List (Option String × Script.Function) :=
  [(none, ⟨"t", [], some "number", none, false, 1⟩), (none, ⟨"a", [], none, none, false, 1⟩),
    (none, ⟨"listMs", [⟨"p", some "string", false⟩, ⟨"q", none, false⟩, ⟨"r", none, false⟩], none, none,
      false, 1⟩),
    (none, ⟨"u", [⟨"p", none, false⟩], none, none, false, 1⟩),
    (some "B", ⟨"c", [⟨"p", none, false⟩], none, none, false, 1⟩)]

theorem functionFacts_sound_ways :
    DataModel.parse waysText = .ok waysBlocks ∧
    ∃ report after,
      Store.system.attempt (run Store.system.files smallConfig.paths.settings smallConfig.scalars)
        (Store.ofList waysFiles) = (.ok report, after) ∧
      report.codeFacts.entries.map (fun e => (e.1, e.2.map (·.resolution))) =
        [("s/x.ts", [.annotated, .exactField "Query" "a", .crudConvention .list "M", .unresolved,
          .exactField "B" "c"])] ∧
      ∀ entry ∈ report.codeFacts.entries,
        List.Forall₂ (fun e (fact : FunctionFact) => fact.IsSound report.fieldFacts waysBlocks e.1 e.2)
          waysFunctions entry.2 := by
  have hways : (Store.system.attempt
      (run Store.system.files smallConfig.paths.settings smallConfig.scalars)
      (Store.ofList waysFiles)).1.toOption.map
        (fun report => (report.paths.all fun p => ".d.ts".toList.isSuffixOf p.text.toList,
          report.codeFacts.entries.map fun e => (e.1, e.2.map (·.resolution)))) =
      some (true, [("s/x.ts", [.annotated, .exactField "Query" "a", .crudConvention .list "M", .unresolved,
        .exactField "B" "c"])]) := by decide +kernel
  have hparse : DataModel.parse waysText = .ok waysBlocks := by decide +kernel
  have hsources : (Schema.parse waysSource).toOption.bind (fun schema =>
      (Script.Exports.ofFile ⟨"/a/s/x.ts"⟩ waysScript).toOption.map schema.sourcesOf) =
      some waysFunctions := by decide +kernel
  have hgraphql : Store.system.read (Store.ofList waysFiles) smallConfig.paths.settings.graphqlSchema =
      some waysSource := by decide +kernel
  have hmodel : Store.system.read (Store.ofList waysFiles) smallConfig.paths.settings.dataModel =
      some waysText := by decide +kernel
  have honly : ((Store.ofList waysFiles).files.filter fun f => isServiceFile f.1.baseName) =
      [(⟨"/a/s/x.ts"⟩, waysScript)] := by decide +kernel
  rcases hrun : Store.system.attempt
      (run Store.system.files smallConfig.paths.settings smallConfig.scalars)
      (Store.ofList waysFiles) with ⟨e | report, after⟩
  · rw [hrun] at hways
    cases hways
  · rw [hrun] at hways
    obtain ⟨hpaths, hentries⟩ := Prod.mk.inj (Option.some.inj hways)
    obtain ⟨sdl, schema, text, blocks, -, hsdl, hschema, htext, hblocks, -, -, hsound⟩ :=
      functionFacts_sound Store.system hrun
    obtain rfl : waysSource = sdl := Option.some.inj (hgraphql.symm.trans hsdl)
    obtain rfl : waysText = text := Option.some.inj (hmodel.symm.trans htext)
    obtain rfl : waysBlocks = blocks := Except.ok.inj (hparse.symm.trans hblocks)
    refine ⟨hparse, report, after, rfl, hentries, fun entry hentry => ?_⟩
    obtain ⟨path, script, es, hservice, -, hamid, hes, hfacts⟩ := hsound entry hentry
    have hexports := Store.exports_of_holdsAmid hamid hpaths hservice hes honly
    rw [hschema, hexports] at hsources
    rw [← Option.some.inj hsources]
    exact hfacts

end ResolverTypes
