import ResolverTypes.File.Path
import ResolverTypes.Table

/-!
# Files on a disk

A disk is a tree of directories with files of bytes at its leaves.  Paths are walked step by step,
so a path through a file or through nothing fails for its own reason.  A listing works through a
list of directories still to be visited and never enters one named `node_modules` or one whose path
is too long.
-/

namespace ResolverTypes

/-- a file or a directory with its named entries, in any order -/
inductive Node where
  | file (content : ByteArray)
  | directory (entries : List (String × Node))

namespace Node

def at? : Node → List String → Option Node
  | n, [] => some n
  | .file _, _ :: _ => none
  | .directory es, k :: ks =>
    match Table.lookupEntry k es with
    | some n => n.at? ks
    | none => none
termination_by structural _ names => names

/-- puts a node at some names; directories that are missing on the way are made -/
def put (new : Node) : List String → Node → Node
  | [], _ => new
  | _ :: _, .file content => .file content
  | k :: ks, .directory es =>
    let inner := put new ks ((Table.lookupEntry k es).getD (.directory []))
    .directory (Table.insertEntry k inner es)

mutual

def size : Node → Nat
  | .file _ => 1
  | .directory es => 1 + sizeAll es

def sizeAll : List (String × Node) → Nat
  | [] => 0
  | (_, n) :: rest => n.size + sizeAll rest

end

mutual

def files : Node → List (List String × ByteArray)
  | .file content => [([], content)]
  | .directory es => filesIn es

def filesIn : List (String × Node) → List (List String × ByteArray)
  | [] => []
  | (name, n) :: rest => (n.files.map fun (names, content) => (name :: names, content)) ++ filesIn rest

end

end Node

/-! ## Refusals -/

inductive DiskError where
  | notFound
  | notDirectory
  | isDirectory
  | alreadyExists
  /-- a name or a whole path that is too long -/
  | nameTooLong
  /-- a path with a zero character in it -/
  | zeroInName
  | notText
deriving DecidableEq, Repr

def DiskError.message : DiskError → String
  | .notFound => "No such file or directory (os error 2)"
  | .notDirectory => "Not a directory (os error 20)"
  | .isDirectory => "Is a directory (os error 21)"
  | .alreadyExists => "File exists (os error 17)"
  | .nameTooLong => "File name too long (os error 36)"
  | .zeroInName => "file name contained an unexpected NUL byte"
  | .notText => "stream did not contain valid UTF-8"

namespace Disk

def nameLimit : Nat := 255

def pathLimit : Nat := 4095

/-- refuses a path that cannot be walked at all -/
def checkText (p : Path) : Except DiskError Unit := do
  if p.text.toList.contains '\x00' then throw .zeroInName
  if pathLimit < p.text.utf8ByteSize then throw .nameTooLong

end Disk

/-! ## Listing -/

namespace Listing

/-- the directory that is never entered -/
def skipped : String := "node_modules"

/-- the directories among some entries that are to be visited, each with its entries -/
def directories (dir : Path) (es : List (String × Node)) : List (Path × List (String × Node)) :=
  es.filterMap fun (name, n) =>
    match n with
    | .directory inner => if name == skipped then none else some (dir.join ⟨name⟩, inner)
    | .file _ => none

/-- the files among some entries -/
def regularFiles (dir : Path) (es : List (String × Node)) : List Path :=
  es.filterMap fun (name, n) =>
    match n with
    | .file _ => some (dir.join ⟨name⟩)
    | .directory _ => none

/-- the work that is left for some directories -/
def work : List (Path × List (String × Node)) → Nat
  | [] => 0
  | (_, es) :: rest => 1 + Node.sizeAll es + work rest

theorem work_append (a b : List (Path × List (String × Node))) :
    work (a ++ b) = work a + work b := by
  induction a with
  | nil => simp [work]
  | cons p a ih => simp only [List.cons_append, work, ih, Nat.add_assoc]

theorem work_reverse (a : List (Path × List (String × Node))) : work a.reverse = work a := by
  induction a with
  | nil => rfl
  | cons p a ih =>
    rw [List.reverse_cons, work_append, ih]
    simp only [work]
    omega

theorem work_directories_le (dir : Path) (es : List (String × Node)) :
    work (directories dir es) ≤ Node.sizeAll es := by
  induction es with
  | nil => simp [directories, work, Node.sizeAll]
  | cons e es ih =>
    obtain ⟨name, n⟩ := e
    cases n with
    | file content =>
      simp only [directories, List.filterMap_cons, Node.sizeAll] at ih ⊢
      omega
    | directory inner =>
      by_cases h : name == skipped
      · simp only [directories, List.filterMap_cons, h, if_true, Node.sizeAll] at ih ⊢
        omega
      · simp only [directories, List.filterMap_cons, h, Node.sizeAll, Node.size] at ih ⊢
        simp only [work, Bool.false_eq_true, if_false] at ih ⊢
        omega

/-- visits directories until none is left: the files found, in the order of the visits; a directory
whose path is refused is passed over -/
def visit : (pending : List (Path × List (String × Node))) → (found : List Path) → List Path
  | [], found => found
  | (dir, es) :: rest, found =>
    if (Disk.checkText dir).isOk then
      visit ((directories dir es).reverse ++ rest) (found ++ regularFiles dir es)
    else visit rest found
termination_by pending => work pending
decreasing_by
  · have := work_directories_le dir es
    rw [work_append, work_reverse]
    simp only [work] at *
    omega
  · simp only [work]
    omega

end Listing

/-! ## Disks -/

/-- a tree, and the directory in it from which relative paths start -/
structure Disk where
  root : Node
  workingDirectory : List String

namespace Disk

/-- the pieces of a path between its slashes -/
def piecesOf (p : Path) : List String := (Text.splitOn '/' p.text.toList).map String.ofList

def start (d : Disk) (p : Path) : List String := if p.isAbsolute then [] else d.workingDirectory

/-- walks some pieces from a place in the tree; every piece is looked up in a directory -/
def walk (d : Disk) : (place : List String) → List String → Except DiskError (List String)
  | place, [] => .ok place
  | place, piece :: rest =>
    match d.root.at? place with
    | none => .error .notFound
    | some (.file _) => .error .notDirectory
    | some (.directory _) =>
      if piece == "" || piece == "." then d.walk place rest
      else if piece == ".." then d.walk place.dropLast rest
      else if nameLimit < piece.utf8ByteSize then .error .nameTooLong
      else if (d.root.at? (place ++ [piece])).isSome then d.walk (place ++ [piece]) rest
      else .error .notFound

def find (d : Disk) (p : Path) : Except DiskError Node := do
  checkText p
  if p.text.isEmpty then throw .notFound
  let place ← d.walk (d.start p) (piecesOf p)
  match d.root.at? place with
  | some n => return n
  | none => throw .notFound

def contains (d : Disk) (p : Path) : Bool := (d.find p).toOption.isSome

def isDirectory (d : Disk) (p : Path) : Bool :=
  match d.find p with
  | .ok (.directory _) => true
  | _ => false

def load (d : Disk) (p : Path) : Except DiskError String := do
  match ← d.find p with
  | .directory _ => throw .isDirectory
  | .file content =>
    match String.fromUTF8? content with
    | some text => return text
    | none => throw .notText

/-- the files below a directory, in component order -/
def filesBelow (d : Disk) (dir : Path) : List Path :=
  match d.find dir with
  | .ok (.directory es) => (Listing.visit [(dir, es)] []).mergeSort fun a b => !b.lt a
  | _ => []

/-! ### Changes -/

/-- the directory that holds the last step of a path, and that step; slashes at the end do not
count -/
def target (d : Disk) (p : Path) : Except DiskError (List String × String) := do
  checkText p
  match ((piecesOf p).reverse.dropWhile (·.isEmpty)) with
  | [] => if p.isAbsolute then throw .alreadyExists else throw .notFound
  | last :: before =>
    let place ← d.walk (d.start p) before.reverse
    match d.root.at? place with
    | some (.directory _) =>
      if nameLimit < last.utf8ByteSize then throw .nameTooLong
      return (place, last)
    | some (.file _) => throw .notDirectory
    | none => throw .notFound

def put (d : Disk) (place : List String) (n : Node) : Disk := { d with root := Node.put n place d.root }

def makeDirectory (d : Disk) (p : Path) : Except DiskError Disk := do
  let (place, name) ← d.target p
  if name == "." || name == ".." || (d.root.at? (place ++ [name])).isSome then throw .alreadyExists
  return d.put (place ++ [name]) (.directory [])

/-- makes one directory unless it is there -/
def ensureDirectory (d : Disk) (p : Path) : Except DiskError Disk :=
  match d.makeDirectory p with
  | .ok d => .ok d
  | .error e => if d.isDirectory p then .ok d else .error e

/-- a path and those above it, at most `n` of them -/
def ancestors : (n : Nat) → Path → List Path
  | 0, _ => []
  | n + 1, p =>
    match p.parent? with
    | none => []
    | some q => p :: ancestors n q

/-- makes a directory after those above it, given with the lowest first -/
def makeAll (d : Disk) : List Path → Except DiskError Disk
  | [] => .ok d
  | p :: above =>
    match d.makeDirectory p with
    | .ok d => .ok d
    | .error .notFound => do (← d.makeAll above).ensureDirectory p
    | .error e => if d.isDirectory p then .ok d else .error e

/-- makes a directory and those above it -/
def makeDirectories (d : Disk) (p : Path) : Except DiskError Disk :=
  d.makeAll (ancestors (p.components.length + 1) p)

/-- writes a file into a directory that is there -/
def writeFile (d : Disk) (p : Path) (text : String) : Except DiskError Disk := do
  let (place, name) ← d.target p
  match d.root.at? (place ++ [name]) with
  | some (.directory _) => throw .isDirectory
  | _ =>
    if name == "." || name == ".." then throw .isDirectory
    return d.put (place ++ [name]) (.file text.toUTF8)

/-- writes a file; the directories for it are made first and stay if the write fails -/
def write (d : Disk) (p : Path) (text : String) : Except DiskError Unit × Disk :=
  let made : Except DiskError Disk := match p.parent? with
    | some q => if q.text.isEmpty then .ok d else d.makeDirectories q
    | none => .ok d
  match made with
  | .error e => (.error e, d)
  | .ok d =>
    match d.writeFile p text with
    | .error e => (.error e, d)
    | .ok d => (.ok (), d)

end Disk

end ResolverTypes
