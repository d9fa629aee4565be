import ResolverTypes.File.Store

/-!
# The files a run works on

A run reads, lists and writes files through three operations, in any monad.  `Store.ops` lets it
work on files in memory, and `FileOps.overlaid` keeps what it writes from the files below.
-/

namespace ResolverTypes

/-- how a run gets at files; `write` gives the reason if it fails -/
structure FileOps (m : Type → Type) where
  /-- the text of a file, if there is one that can be read -/
  read : Path → m (Option String)
  /-- the files below a directory, in component order -/
  list : Path → m (List Path)
  write : Path → String → m (Except String Unit)

/-- files in memory, where every write succeeds -/
def Store.ops : FileOps (StateM Store) where
  read path := return (← get).get? path
  list dir := return (← get).below dir
  write path text := do
    modify fun s => s.insert path text
    return .ok ()

/-- keeps writes in memory, where later reads find them; listings show the files below only -/
def FileOps.overlaid {m : Type → Type} [Monad m] (files : FileOps m) : FileOps (StateT Store m) where
  read path := do
    match (← get).get? path with
    | some text => return some text
    | none => files.read path
  list dir := files.list dir
  write path text := do
    modify fun s => s.insert path text
    return .ok ()

end ResolverTypes
