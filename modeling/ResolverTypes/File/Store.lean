import ResolverTypes.File.Path

/-!
# Files in memory

A store holds texts by path, in component order.  Two paths with the same components are one file;
it keeps the path under which it first came in.
-/

namespace ResolverTypes

/-- files in component order, each path once -/
structure Store where
  files : List (Path × String)
deriving DecidableEq, Repr

namespace Store

def empty : Store := ⟨[]⟩

/-- the files after one is put in: at its place in the order, or over the file of the same path -/
def insertFile (path : Path) (text : String) : List (Path × String) → List (Path × String)
  | [] => [(path, text)]
  | (p, t) :: rest =>
    if p.same path then (p, text) :: rest
    else if path.lt p then (path, text) :: (p, t) :: rest
    else (p, t) :: insertFile path text rest

def insert (s : Store) (path : Path) (text : String) : Store :=
  ⟨insertFile path text s.files⟩

def get? (s : Store) (path : Path) : Option String :=
  (s.files.find? fun f => f.1.same path).map Prod.snd

def paths (s : Store) : List Path := s.files.map Prod.fst

/-- the paths strictly below a directory -/
def below (s : Store) (dir : Path) : List Path :=
  s.paths.filter fun p => p.startsWith dir && !p.same dir

def ofList (files : List (Path × String)) : Store :=
  files.foldl (fun s f => s.insert f.1 f.2) empty

end Store

end ResolverTypes
