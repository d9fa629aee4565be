import ResolverTypes.Proofs.Run.FileSystem
import ResolverTypes.Proofs.Run.Plan

/-!
# Carrying out a plan

A run looks at one service after the other while it writes.  As long as its own writes do not change
which services it finds and what it reads there, it carries out its plan (`FileSystem.attempt_run`).

* `FileSystem.carryOut`: writes in order, up to the first that fails;
* `FileSystem.Steady`: states between which the services and their texts stay the same.
-/

namespace ResolverTypes

/-! ## carrying out -/

namespace FileSystem
variable {m : Type → Type} [Monad m] {σ : Type} (fs : FileSystem m σ)

/-- writes in order, up to the first that fails -/
def carryOut : List (Path × String) → σ → Except RunError Unit × σ
  | [], s => (.ok (), s)
  | (path, text) :: rest, s =>
    match fs.write s path text with
    | (.ok _, s') => carryOut rest s'
    | (.error reason, s') => (.error (.write path reason), s')

section
variable {fs}

theorem carryOut_cons_ok {path : Path} {text : String} {s s' : σ}
    (h : fs.write s path text = (.ok (), s')) (rest : List (Path × String)) :
    fs.carryOut ((path, text) :: rest) s = fs.carryOut rest s' := by
  rw [carryOut, h]

theorem carryOut_cons_error {path : Path} {text reason : String} {s s' : σ}
    (h : fs.write s path text = (.error reason, s')) (rest : List (Path × String)) :
    fs.carryOut ((path, text) :: rest) s = (.error (.write path reason), s') := by
  rw [carryOut, h]

theorem carryOut_append_ok {a : List (Path × String)} {s s' : σ}
    (h : fs.carryOut a s = (.ok (), s')) (b : List (Path × String)) :
    fs.carryOut (a ++ b) s = fs.carryOut b s' := by
  induction a generalizing s with
  | nil =>
    cases h
    rfl
  | cons w a ih =>
    obtain ⟨path, text⟩ := w
    rw [List.cons_append]
    rcases hw : fs.write s path text with ⟨_ | _, s₁⟩
    · rw [carryOut_cons_error hw] at h
      cases h
    · rw [carryOut_cons_ok hw] at h ⊢
      exact ih h

theorem carryOut_append_error {a : List (Path × String)} {s s' : σ} {e : RunError}
    (h : fs.carryOut a s = (.error e, s')) (b : List (Path × String)) :
    fs.carryOut (a ++ b) s = (.error e, s') := by
  induction a generalizing s with
  | nil => cases h
  | cons w a ih =>
    obtain ⟨path, text⟩ := w
    rw [List.cons_append]
    rcases hw : fs.write s path text with ⟨_ | _, s₁⟩
    · rw [carryOut_cons_error hw] at h ⊢
      exact h
    · rw [carryOut_cons_ok hw] at h ⊢
      exact ih h

theorem carryOut_error {writes : List (Path × String)} {s s' : σ} {e : RunError}
    (h : fs.carryOut writes s = (.error e, s')) : ∃ path reason, e = .write path reason := by
  induction writes generalizing s with
  | nil => cases h
  | cons w writes ih =>
    obtain ⟨path, text⟩ := w
    rcases hw : fs.write s path text with ⟨reason | _, s₁⟩
    · rw [carryOut_cons_error hw] at h
      cases h
      exact ⟨path, reason, rfl⟩
    · rw [carryOut_cons_ok hw] at h
      exact ih h

variable (fs) in
/-- carries out a plan: the outcome is that of the plan, unless a write fails -/
def follow {α : Type} (p : Plan α) (s : σ) : Except RunError α × σ :=
  match fs.carryOut p.writes s with
  | (.ok _, s') => (p.outcome, s')
  | (.error e, s') => (.error e, s')

theorem follow_ok {α : Type} {writes : List (Path × String)} {s s' : σ}
    (h : fs.carryOut writes s = (.ok (), s')) (outcome : Except RunError α) :
    fs.follow ⟨writes, outcome⟩ s = (outcome, s') := by
  rw [follow, h]

theorem follow_error {α : Type} {writes : List (Path × String)} {s s' : σ} {e : RunError}
    (h : fs.carryOut writes s = (.error e, s')) (outcome : Except RunError α) :
    fs.follow ⟨writes, outcome⟩ s = (.error e, s') := by
  rw [follow, h]

/-- a plan that is carried out without a failed write -/
theorem carryOut_of_follow {α : Type} {p : Plan α} {s s' : σ} {r : Except RunError α}
    (h : fs.follow p s = (r, s')) (hr : ∀ path reason, r ≠ .error (.write path reason)) :
    fs.carryOut p.writes s = (.ok (), s') ∧ r = p.outcome := by
  rcases hw : fs.carryOut p.writes s with ⟨e | _, s₁⟩
  · rw [follow, hw] at h
    cases h
    obtain ⟨path, reason, rfl⟩ := carryOut_error hw
    exact absurd rfl (hr path reason)
  · rw [follow, hw] at h
    cases h
    exact ⟨rfl, rfl⟩

theorem follow_append_ok {α : Type} {a : List (Path × String)} {s s' : σ}
    (h : fs.carryOut a s = (.ok (), s')) (b : List (Path × String))
    (outcome : Except RunError α) :
    fs.follow ⟨a ++ b, outcome⟩ s = fs.follow ⟨b, outcome⟩ s' := by
  simp only [follow, carryOut_append_ok h]

end

end FileSystem

/-! ## writing in memory -/

theorem Store.carryOut_eq (writes : List (Path × String)) (s : Store) :
    system.carryOut writes s = (.ok (), s.insertAll writes) := by
  induction writes generalizing s with
  | nil => rfl
  | cons w writes ih => exact ih (s.insert w.1 w.2)

/-- no declaration is put over a service -/
theorem Store.get?_insertAll_of_declarations {writes : List (Path × String)}
    (hw : ∀ w ∈ writes, IsDeclaration w.1.text) (s : Store) {p : Path}
    (hp : isServiceFile p.baseName = true) : (s.insertAll writes).get? p = s.get? p :=
  get?_insertAll_of_not_same (fun w hmem => (hw w hmem).not_same hp) s

namespace FileSystem
variable {m : Type → Type} [Monad m] {σ : Type} (fs : FileSystem m σ)

theorem carryOut_overlaid (writes : List (Path × String)) (s : Store) (t : σ) :
    fs.overlaid.carryOut writes (s, t) = (.ok (), s.insertAll writes, t) := by
  induction writes generalizing s with
  | nil => rfl
  | cons w writes ih => exact ih (s.insert w.1 w.2)

/-! ## the steps of a run -/

theorem exec_services (settings : PathSettings) (s : σ) :
    fs.exec (Run.services fs.files settings) s =
      (servicesAmong (fs.list s settings.services), s) := by
  show fs.exec (fs.files.list settings.services >>= _) s = _
  rw [fs.exec_bind, fs.exec_list, fs.exec_pure]

theorem attempt_write (path : Path) (text : String) (s : σ) :
    fs.attempt (Run.write fs.files path text) s = fs.carryOut [(path, text)] s := by
  show fs.attempt (ExceptT.lift (fs.files.write path text) >>= _) s = _
  rw [attempt_lift_bind, fs.exec_write]
  rcases hw : fs.write s path text with ⟨reason | _, s'⟩
  · rw [carryOut_cons_error hw]
    exact fs.attempt_throw _ s'
  · rw [carryOut_cons_ok hw]
    exact fs.attempt_pure _ s'

theorem attempt_readSchema (path : Path) (s : σ) :
    fs.attempt (Run.readSchema fs.files path) s = (Run.schemaAt path (fs.read s path), s) := by
  show fs.attempt (ExceptT.lift (fs.files.read path) >>= _) s = _
  rw [attempt_lift_bind, fs.exec_read]
  dsimp only
  cases fs.read s path with
  | none => exact fs.attempt_throw _ s
  | some text =>
    dsimp only [Run.schemaAt]
    cases Schema.parse text with
    | ok schema => exact fs.attempt_pure _ s
    | error e => exact fs.attempt_throw _ s

theorem attempt_readCatalog (path : Path) (s : σ) :
    fs.attempt (Run.readCatalog fs.files path) s = (Run.catalogAt path (fs.read s path), s) := by
  show fs.attempt (ExceptT.lift (fs.files.read path) >>= _) s = _
  rw [attempt_lift_bind, fs.exec_read]
  dsimp only
  cases fs.read s path with
  | none => exact fs.attempt_throw _ s
  | some text =>
    dsimp only [Run.catalogAt]
    cases Run.catalogOf text with
    | ok catalog => exact fs.attempt_pure _ s
    | error e => exact fs.attempt_throw _ s

/-- a program that does what a plan says, with its result passed on -/
theorem attempt_map_follow {α β : Type} {x : ExceptT RunError m α} {p : Plan α} {s : σ}
    (h : fs.attempt x s = fs.follow p s) (f : α → β) :
    fs.attempt (x >>= fun a => pure (f a)) s = fs.follow ⟨p.writes, p.outcome.map f⟩ s := by
  obtain ⟨writes, outcome⟩ := p
  rcases hw : fs.carryOut writes s with ⟨e | _, s'⟩
  · rw [follow_error hw] at h ⊢
    exact fs.attempt_bind_error h _
  · rw [follow_ok hw] at h ⊢
    cases outcome with
    | error e => exact fs.attempt_bind_error h _
    | ok a =>
      rw [fs.attempt_bind_ok h, fs.attempt_pure]
      rfl

/-! ## a look at a service -/

section
variable {fs} {settings : PathSettings} {project : Project} {path : Path} {s : σ}

theorem exec_lookAt_error {e : RunError} (h : Run.analysisAt (fs.read s) project path = .error e) :
    fs.exec (Run.lookAt fs.files settings project path) s = (⟨none, .error e⟩, s) := by
  unfold Run.lookAt
  rw [fs.exec_bind, fs.exec_read]
  unfold Run.analysisAt at h
  dsimp only
  cases hread : fs.read s path with
  | none =>
    rw [hread] at h
    cases h
    exact fs.exec_pure _ s
  | some text =>
    rw [hread] at h
    dsimp only at h ⊢
    cases hes : Script.Exports.ofFile path text with
    | error e' =>
      rw [hes] at h
      cases h
      exact fs.exec_pure _ s
    | ok es =>
      rw [hes] at h
      cases h

theorem exec_lookAt_ok {a : Analysis} (h : Run.analysisAt (fs.read s) project path = .ok a) :
    fs.exec (Run.lookAt fs.files settings project path) s =
      if a.isWorthDeclaring then
        let r := fs.attempt (Run.declare fs.files settings project path a) s
        (⟨some ((settings.display path).text, a.facts), r.1.map some⟩, r.2)
      else (⟨some ((settings.display path).text, a.facts), .ok none⟩, s) := by
  unfold Run.lookAt
  rw [fs.exec_bind, fs.exec_read]
  unfold Run.analysisAt at h
  dsimp only
  cases hread : fs.read s path with
  | none =>
    rw [hread] at h
    cases h
  | some text =>
    rw [hread] at h
    dsimp only at h ⊢
    cases hes : Script.Exports.ofFile path text with
    | error e' =>
      rw [hes] at h
      cases h
    | ok es =>
      rw [hes] at h
      cases h
      dsimp only
      split
      · rw [fs.exec_bind]
        unfold attempt
        generalize fs.exec (Run.declare fs.files settings project path _).run s = r
        obtain ⟨e | target, s'⟩ := r
        · exact fs.exec_pure _ s'
        · exact fs.exec_pure _ s'
      · exact fs.exec_pure _ s

theorem attempt_declare {a : Analysis} :
    fs.attempt (Run.declare fs.files settings project path a) s =
      let target := settings.declarationPath (servicesAmong (fs.list s settings.services)) path
      let r := fs.carryOut [(target, serviceDeclaration settings (settings.display path).text
        (a.interfaces project.catalog))] s
      (r.1.map fun _ => target, r.2) := by
  unfold Run.declare
  rw [fs.attempt_lift_bind, fs.exec_services]
  dsimp only
  generalize settings.declarationPath (servicesAmong (fs.list s settings.services)) path = target
  generalize serviceDeclaration settings (settings.display path).text
    (a.interfaces project.catalog) = text
  have hwrite := fs.attempt_write target text s
  rcases hr : fs.carryOut [(target, text)] s with ⟨e | _, s'⟩
  · rw [hr] at hwrite
    exact fs.attempt_bind_error hwrite _
  · rw [hr] at hwrite
    rw [fs.attempt_bind_ok hwrite]
    exact fs.attempt_pure _ s'

end

/-! ## services one after the other -/

/-- states in which the services and their texts are the given ones, and in which they stay so when
one of the paths `out` is written -/
structure Steady (settings : PathSettings) (read : Path → Option String) (services : List Path)
    (out : Path → Prop) (states : σ → Prop) : Prop where
  list : ∀ s, states s → servicesAmong (fs.list s settings.services) = services
  read : ∀ s, states s → ∀ path ∈ services, fs.read s path = read path
  write : services ≠ [] → ∀ s, states s → ∀ path text, out path →
    states (fs.write s path text).2

variable {fs} {settings : PathSettings} {read : Path → Option String} {services : List Path}
  {out : Path → Prop} {states : σ → Prop}

variable {project : Project}

/-- looking at services follows the plan for them -/
theorem attempt_lookAtAll (hsteady : fs.Steady settings read services out states)
    {paths : List Path} (hpaths : paths ⊆ services) (facts : CodeFacts)
    (hout : ∀ w ∈ (Run.planServices settings read services project facts paths).writes, out w.1)
    {s : σ} (hs : states s) :
    fs.attempt (Run.lookAtAll fs.files settings project facts paths) s =
      fs.follow (Run.planServices settings read services project facts paths) s := by
  induction paths generalizing facts s with
  | nil => exact fs.attempt_pure _ s
  | cons path rest ih =>
    have hmem : path ∈ services := hpaths List.mem_cons_self
    have hrest : rest ⊆ services := fun q hq => hpaths (List.mem_cons_of_mem _ hq)
    have hread := Run.analysisAt_congr (hsteady.read s hs path hmem) project
    unfold Run.lookAtAll
    rw [fs.attempt_lift_bind]
    cases ha : Run.analysisAt read project path with
    | error e =>
      rw [exec_lookAt_error (hread.trans ha), Run.planServices_error ha]
      exact fs.attempt_throw e s
    | ok a =>
      rw [Run.planServices_ok ha] at hout ⊢
      rw [exec_lookAt_ok (hread.trans ha)]
      by_cases hworth : a.isWorthDeclaring = true
      · -- the declaration is written, and the rest goes on from the state after that
        rw [if_pos hworth, attempt_declare, hsteady.list s hs]
        simp only [Run.declarationOf, if_pos hworth, Option.toList_some, List.map_cons,
          List.map_nil, List.singleton_append, List.mem_cons, forall_eq_or_imp] at hout ⊢
        generalize serviceDeclaration settings _ _ = text
        obtain ⟨htarget, hout⟩ := hout
        generalize settings.declarationPath services path = target at htarget ⊢
        rcases hwrite : fs.write s target text with ⟨reason | _, s'⟩
        · rw [follow_error (carryOut_cons_error hwrite _), carryOut_cons_error hwrite]
          exact fs.attempt_throw _ s'
        · have hs' : states s' := by
            have hstep := hsteady.write (List.ne_nil_of_mem hmem) s hs target text htarget
            rwa [hwrite] at hstep
          have hone : fs.carryOut [(target, text)] s = (.ok (), s') := carryOut_cons_ok hwrite []
          rw [hone, ← List.singleton_append, follow_append_ok hone]
          exact fs.attempt_map_follow (ih hrest _ hout hs') _
      · rw [if_neg hworth]
        simp only [Run.declarationOf, if_neg hworth, Option.toList_none, List.map_nil,
          List.nil_append] at hout ⊢
        exact fs.attempt_map_follow (ih hrest _ hout hs) _

/-! ## whole runs -/

theorem attempt_writeShared (settings : PathSettings) (scalars : ScalarMap) (project : Project)
    (s : σ) :
    fs.attempt (Run.writeShared fs.files settings scalars project) s =
      fs.carryOut (Run.sharedWrites settings scalars project) s := by
  unfold Run.writeShared Run.sharedWrites
  generalize project.catalog.schemaTypes (settings.display settings.dataModel).text = types
  have hfirst := fs.attempt_write settings.schemaTypesPath types s
  rcases hwrite : fs.write s settings.schemaTypesPath types with ⟨reason | _, s'⟩
  · rw [carryOut_cons_error hwrite] at hfirst ⊢
    exact fs.attempt_bind_error hfirst _
  · rw [carryOut_cons_ok hwrite] at hfirst ⊢
    rw [fs.attempt_bind_ok hfirst]
    exact fs.attempt_write ..

/-- a run follows its plan, if the services stay as they are once the shared artifacts are there -/
theorem attempt_run {scalars : ScalarMap} {s : σ}
    (hsteady : fs.Steady settings read services out states)
    (hstart : ∀ project s', Run.projectAt settings scalars (fs.read s) = .ok project →
      fs.carryOut (Run.sharedWrites settings scalars project) s = (.ok (), s') → states s')
    (hout : ∀ project, ∀ w ∈ (Run.planServices settings read services project .empty services).writes,
      out w.1) :
    fs.attempt (run fs.files settings scalars) s =
      fs.follow (Run.plan settings scalars read services
        (Run.projectAt settings scalars (fs.read s))) s := by
  unfold run Run.projectAt at *
  have hreadSchema := fs.attempt_readSchema settings.graphqlSchema s
  have hreadCatalog := fs.attempt_readCatalog settings.dataModel s
  cases hsch : Run.schemaAt settings.graphqlSchema (fs.read s settings.graphqlSchema) with
  | error e =>
    rw [hsch] at hreadSchema
    rw [fs.attempt_bind_error hreadSchema]
    rfl
  | ok schema =>
    rw [hsch] at hreadSchema hstart
    rw [fs.attempt_bind_ok hreadSchema]
    cases hcat : Run.catalogAt settings.dataModel (fs.read s settings.dataModel) with
    | error e =>
      rw [hcat] at hreadCatalog
      rw [fs.attempt_bind_error hreadCatalog]
      rfl
    | ok catalog =>
      rw [hcat] at hreadCatalog hstart
      rw [fs.attempt_bind_ok hreadCatalog]
      show fs.attempt _ s = fs.follow (Run.plan settings scalars read services
        (.ok (Project.of catalog schema scalars))) s
      have hstart := fun s' => hstart (Project.of catalog schema scalars) s' rfl
      generalize Project.of catalog schema scalars = project at hstart ⊢
      have hshared : fs.attempt (Run.writeShared fs.files settings scalars project) s = _ :=
        attempt_writeShared ..
      rcases hwrites : fs.carryOut (Run.sharedWrites settings scalars project) s with ⟨e | _, s'⟩
      · rw [hwrites] at hshared
        rw [fs.attempt_bind_error hshared]
        exact (follow_error (carryOut_append_error hwrites _) _).symm
      · rw [hwrites] at hshared
        have hs' : states s' := hstart s' hwrites
        rw [fs.attempt_bind_ok hshared, fs.attempt_lift_bind, fs.exec_services, hsteady.list s' hs']
        refine Eq.trans ?_ (follow_append_ok hwrites _ _).symm
        exact fs.attempt_map_follow
          (attempt_lookAtAll hsteady (List.Subset.refl services) .empty (hout project) hs') _

end FileSystem

end ResolverTypes
