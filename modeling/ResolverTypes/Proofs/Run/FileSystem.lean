import ResolverTypes.Command.Execution

/-!
# File systems

A run works in any monad that can read, list and write files.  A `FileSystem` says what its
operations do to a state, so that one theorem about runs covers files in memory (`Store.system`), a
disk (`Disk.system`) and files in memory above other files (`FileSystem.overlaid`).
-/

namespace ResolverTypes

/-- what the operations on files do to a state -/
structure FileSystem (m : Type → Type) [Monad m] (σ : Type) where
  files : FileOps m
  exec {α : Type} : m α → σ → α × σ
  read : σ → Path → Option String
  list : σ → Path → List Path
  write : σ → Path → String → Except String Unit × σ
  exec_pure {α : Type} (a : α) (s : σ) : exec (pure a) s = (a, s)
  exec_bind {α β : Type} (x : m α) (f : α → m β) (s : σ) :
    exec (x >>= f) s = exec (f (exec x s).1) (exec x s).2
  exec_map {α β : Type} (f : α → β) (x : m α) (s : σ) :
    exec (f <$> x) s = (f (exec x s).1, (exec x s).2)
  exec_read (path : Path) (s : σ) : exec (files.read path) s = (read s path, s)
  exec_list (dir : Path) (s : σ) : exec (files.list dir) s = (list s dir, s)
  exec_write (path : Path) (text : String) (s : σ) :
    exec (files.write path text) s = write s path text

namespace FileSystem
variable {m : Type → Type} [Monad m] {σ : Type} (fs : FileSystem m σ)

/-- a program that may fail, from a state -/
def attempt {ε α : Type} (x : ExceptT ε m α) (s : σ) : Except ε α × σ := fs.exec x.run s

theorem attempt_pure {ε α : Type} (a : α) (s : σ) :
    fs.attempt (pure a : ExceptT ε m α) s = (.ok a, s) :=
  fs.exec_pure _ s

theorem attempt_throw {ε α : Type} (e : ε) (s : σ) :
    fs.attempt (throw e : ExceptT ε m α) s = (.error e, s) :=
  fs.exec_pure _ s

theorem attempt_bind_ok {ε α β : Type} {x : ExceptT ε m α} {s s' : σ} {a : α}
    (h : fs.attempt x s = (.ok a, s')) (f : α → ExceptT ε m β) :
    fs.attempt (x >>= f) s = fs.attempt (f a) s' := by
  show fs.exec (x.run >>= ExceptT.bindCont f) s = _
  rw [fs.exec_bind]
  show fs.exec (ExceptT.bindCont f (fs.attempt x s).1) (fs.attempt x s).2 = _
  rw [h]
  rfl

theorem attempt_bind_error {ε α β : Type} {x : ExceptT ε m α} {s s' : σ} {e : ε}
    (h : fs.attempt x s = (.error e, s')) (f : α → ExceptT ε m β) :
    fs.attempt (x >>= f) s = (.error e, s') := by
  show fs.exec (x.run >>= ExceptT.bindCont f) s = _
  rw [fs.exec_bind]
  show fs.exec (ExceptT.bindCont f (fs.attempt x s).1) (fs.attempt x s).2 = _
  rw [h]
  exact fs.exec_pure _ s'

theorem attempt_lift {ε α : Type} (x : m α) (s : σ) :
    fs.attempt (ExceptT.lift x : ExceptT ε m α) s = (.ok (fs.exec x s).1, (fs.exec x s).2) :=
  fs.exec_map Except.ok x s

theorem attempt_lift_bind {ε α β : Type} (x : m α) (f : α → ExceptT ε m β) (s : σ) :
    fs.attempt (ExceptT.lift x >>= f) s = fs.attempt (f (fs.exec x s).1) (fs.exec x s).2 :=
  fs.attempt_bind_ok (fs.attempt_lift x s) f

end FileSystem

/-! ## files in memory -/

def Store.system : FileSystem (StateM Store) Store where
  files := Store.ops
  exec x s := x.run s
  read := Store.get?
  list := Store.below
  write s path text := (.ok (), s.insert path text)
  exec_pure _ _ := rfl
  exec_bind _ _ _ := rfl
  exec_map _ _ _ := rfl
  exec_read _ _ := rfl
  exec_list _ _ := rfl
  exec_write _ _ _ := rfl

/-! ## files on a disk -/

def Disk.system : FileSystem (StateM Disk) Disk where
  files := Disk.ops.files
  exec x d := x.run d
  read d path := (d.load path).toOption
  list := Disk.filesBelow
  write d path text := ((d.write path text).1.mapError DiskError.message, (d.write path text).2)
  exec_pure _ _ := rfl
  exec_bind _ _ _ := rfl
  exec_map _ _ _ := rfl
  exec_read path d := by
    show ((((d.load path).mapError DiskError.message).toOption, d) : Option String × Disk) = _
    cases d.load path <;> rfl
  exec_list _ _ := rfl
  exec_write _ _ _ := rfl

/-! ## files in memory above other files -/

section
variable {m : Type → Type} [Monad m] {σ : Type}

/-- a result of a program on two states, with the states together -/
def pairStates {α : Type} (r : (α × Store) × σ) : α × Store × σ := (r.1.1, r.1.2, r.2)

theorem FileSystem.exec_lifted (fs : FileSystem m σ) {α : Type} (x : m α) (s : Store) (t : σ) :
    fs.exec ((StateT.lift x : StateT Store m α).run s) t = (((fs.exec x t).1, s), (fs.exec x t).2) := by
  rw [StateT.run_lift, fs.exec_bind, fs.exec_pure]

/-- writes stay in memory, where reads find them first -/
def FileSystem.overlaid (fs : FileSystem m σ) : FileSystem (StateT Store m) (Store × σ) where
  files := fs.files.overlaid
  exec x s := pairStates (fs.exec (x.run s.1) s.2)
  read s path := (s.1.get? path).or (fs.read s.2 path)
  list s := fs.list s.2
  write s path text := (.ok (), s.1.insert path text, s.2)
  exec_pure a s := by
    rw [StateT.run_pure, fs.exec_pure]
    rfl
  exec_bind x f s := by
    rw [StateT.run_bind, fs.exec_bind]
    rfl
  exec_map f x s := by
    show pairStates (fs.exec (x.run s.1 >>= fun p => pure (f p.1, p.2)) s.2) = _
    rw [fs.exec_bind, fs.exec_pure]
    rfl
  exec_read path s := by
    unfold FileOps.overlaid
    dsimp only
    rw [StateT.run_bind, StateT.run_get, fs.exec_bind, fs.exec_pure]
    dsimp only
    cases s.1.get? path with
    | some text =>
      dsimp only
      rw [StateT.run_pure, fs.exec_pure]
      rfl
    | none =>
      dsimp only
      show pairStates (fs.exec ((StateT.lift (fs.files.read path)).run s.1) s.2) = _
      rw [fs.exec_lifted, fs.exec_read]
      rfl
  exec_list dir s := by
    show pairStates (fs.exec ((StateT.lift (fs.files.list dir)).run s.1) s.2) = _
    rw [fs.exec_lifted, fs.exec_list]
    rfl
  exec_write path text s := by
    unfold FileOps.overlaid
    dsimp only
    rw [StateT.run_bind, StateT.run_modify, fs.exec_bind, fs.exec_pure, StateT.run_pure, fs.exec_pure]
    rfl

end

end ResolverTypes
