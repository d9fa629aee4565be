import ResolverTypes.Proofs.File.Path
import ResolverTypes.Proofs.File.Store
import ResolverTypes.Run.Files
import Mathlib.Data.List.Induction

/-!
# Files in memory after any changes

A store that starts empty is filled by putting files in and by writing.  Whatever the changes and
however their paths are spelled, three facts about them tell what the store holds:

* a path has the last text put in under its components (`get?_insertAll`, from the empty store);
* a file is listed under the first spelling of its path (`mem_paths_ofList`), in component order;
* the listing of a directory is the part of this list whose components go on after those of the
  directory (`below_eq`).

`components_blank_piece` and `components_blank_end` say which spellings have the same components.
-/

namespace ResolverTypes

/-! ## spellings of a path -/

namespace Path
open Text

section
variable {p q : Path} {piece : List Char}

/-- between two slashes, nothing and `.` do not matter -/
theorem components_blank_piece (xs ys : List Char) (hslash : '/' ∉ piece) (hblank : step? piece = none)
    (hp : p.text.toList = xs ++ '/' :: (piece ++ '/' :: ys)) (hq : q.text.toList = xs ++ '/' :: ys) :
    p.components = q.components := by
  rw [components_eq, components_eq, hp, hq, splitOn_append_cons, splitOn_append_cons,
    splitOn_append_cons, splitOn_of_notMem hslash]
  have hmore : ([piece] ++ splitOn '/' ys).filterMap step? = (splitOn '/' ys).filterMap step? := by
    rw [List.singleton_append, List.filterMap_cons_none hblank]
  by_cases hempty : splitOn '/' xs = [[]]
  · -- the first slash is the root
    obtain ⟨first, rest, hys⟩ := List.exists_cons_of_ne_nil (splitOn_ne_nil '/' ys)
    rw [hempty]
    rw [hys] at hmore ⊢
    show Component.root :: ([piece] ++ first :: rest).filterMap step? =
      Component.root :: (first :: rest).filterMap step?
    rw [hmore]
  · have hne := splitOn_ne_nil '/' xs
    rw [componentsOf_append hne hempty, componentsOf_append hne hempty, hmore]

/-- nor do they at the end, unless the slash before them is the root -/
theorem components_blank_end (hslash : '/' ∉ piece) (hblank : step? piece = none)
    (hp : p.text.toList = q.text.toList ++ '/' :: piece) (hq : q.text.toList ≠ []) :
    p.components = q.components := by
  have hempty : splitOn '/' q.text.toList ≠ [[]] := fun h => hq (eq_nil_of_splitOn h)
  have hmore : [piece].filterMap step? = [] := List.filterMap_cons_none hblank
  rw [components_eq, components_eq, hp, splitOn_append_cons, splitOn_of_notMem hslash,
    componentsOf_append (splitOn_ne_nil '/' _) hempty, hmore, List.append_nil]

end

end Path

namespace Store

/-! ## changes -/

/-- a file is put into a store, or written the way a run does it -/
inductive Change where
  | insert (path : Path) (text : String)
  | write (path : Path) (text : String)
deriving DecidableEq, Repr

/-- the path as it is spelled and the text -/
def Change.file : Change → Path × String
  | .insert path text => (path, text)
  | .write path text => (path, text)

def Change.apply (s : Store) : Change → Store
  | .insert path text => s.insert path text
  | .write path text => ((Store.ops.write path text).run s).2

/-- the store after some changes to an empty one -/
def changed (changes : List Change) : Store := changes.foldl Change.apply empty

theorem Change.apply_eq (s : Store) (change : Change) :
    change.apply s = s.insert change.file.1 change.file.2 := by
  cases change <;> rfl

theorem changed_eq (changes : List Change) : changed changes = ofList (changes.map Change.file) := by
  unfold changed ofList
  rw [List.foldl_map]
  congr 1
  funext s change
  exact change.apply_eq s

/-! ## paths -/

theorem get?_isSome_iff {s : Store} {path : Path} :
    (s.get? path).isSome = true ↔ ∃ q ∈ s.paths, q.same path = true := by
  unfold get? paths
  rw [Option.isSome_map, List.find?_isSome]
  simp

/-- a file that was not there is put between the others -/
theorem insertFile_perm {path : Path} {text : String} {fs : List (Path × String)}
    (h : ∀ f ∈ fs, f.1.same path = false) : (insertFile path text fs).Perm ((path, text) :: fs) := by
  induction fs with
  | nil => exact List.Perm.refl _
  | cons g fs ih =>
    obtain ⟨p, t⟩ := g
    obtain ⟨hfirst, hrest⟩ := List.forall_mem_cons.mp h
    have hsame : ¬p.same path = true := by simp [hfirst]
    unfold insertFile
    rw [if_neg hsame]
    split
    · exact List.Perm.refl _
    · exact ((ih hrest).cons (p, t)).trans (List.Perm.swap _ _ fs)

/-- the paths stay as they are spelled, and a new one is added if its file was not there -/
theorem mem_paths_insert {s : Store} (h : s.Ordered) {path p : Path} {text : String} :
    p ∈ (s.insert path text).paths ↔ p ∈ s.paths ∨ (p = path ∧ s.get? path = none) := by
  cases hget : s.get? path with
  | some old =>
    have hpaths : (s.insert path text).paths = s.paths := paths_insert_of_get? h (by simp [hget]) text
    simp [hpaths]
  | none =>
    have hnew : ∀ f ∈ s.files, f.1.same path = false := by
      have hnone : ¬(s.get? path).isSome = true := by simp [hget]
      rw [get?_isSome_iff] at hnone
      intro f hf
      rw [Bool.eq_false_iff]
      exact fun hsame => hnone ⟨f.1, List.mem_map_of_mem hf, hsame⟩
    have hperm : (s.insert path text).paths.Perm (path :: s.paths) := (insertFile_perm hnew).map Prod.fst
    rw [hperm.mem_iff, List.mem_cons, or_comm]
    simp

theorem get?_ofList (files : List (Path × String)) (p : Path) :
    (ofList files).get? p = lastText files p := by
  have h := get?_insertAll empty files p
  rw [show empty.get? p = none from rfl, Option.or_none] at h
  exact h

/-- a file is listed under the first spelling of its path -/
theorem mem_paths_ofList {files : List (Path × String)} {p : Path} :
    p ∈ (ofList files).paths ↔ (files.find? fun w => w.1.same p).map Prod.fst = some p := by
  induction files using List.reverseRecOn with
  | nil => simp [ofList, empty, paths]
  | append_singleton files f ih =>
    rw [ofList_concat, mem_paths_insert (ofList_ordered files), ih, List.find?_append]
    cases hfind : files.find? fun w => w.1.same p with
    | some w =>
      -- the path is known, so that a new file is not under it
      have hmem := List.mem_of_find?_eq_some hfind
      have hsame : w.1.same p = true := by simpa using List.find?_some hfind
      have hno : ¬(p = f.1 ∧ (ofList files).get? f.1 = none) := by
        rintro ⟨rfl, hnone⟩
        have hsome : (lastText files f.1).isSome = true := lastText_isSome_iff.mpr ⟨w, hmem, hsame⟩
        rw [← get?_ofList, hnone] at hsome
        cases hsome
      simp [hno]
    | none =>
      have hnone : (ofList files).get? p = none := by
        rw [← Option.not_isSome_iff_eq_none, get?_ofList, lastText_isSome_iff]
        rintro ⟨w, hw, hsame⟩
        exact List.find?_eq_none.mp hfind w hw hsame
      constructor
      · rintro (hfound | ⟨rfl, -⟩)
        · cases hfound
        · have hself : f.1.same f.1 = true := Path.same_iff.mpr rfl
          simp [hself]
      · intro hfound
        by_cases hf : f.1.same p = true
        · have heq : f.1 = p := by simpa [hf] using hfound
          subst heq
          exact .inr ⟨rfl, hnone⟩
        · simp [hf] at hfound

/-! ## listings -/

/-- a listing shows what goes on after the components of the directory -/
theorem below_eq (s : Store) (dir : Path) :
    s.below dir = s.paths.filter fun p =>
      dir.components <+: p.components ∧ dir.components ≠ p.components := by
  unfold below
  refine List.filter_congr fun p _ => ?_
  have hprefix : p.startsWith dir = true ↔ dir.components <+: p.components := by
    rw [Path.startsWith_iff]
    exact exists_congr fun rest => eq_comm
  have hsame : p.same dir = true ↔ dir.components = p.components := by
    rw [Path.same_iff, eq_comm]
  rw [Bool.eq_iff_iff, Bool.and_eq_true, hprefix, Bool.not_eq_true', Bool.eq_false_iff, Ne, hsame,
    decide_eq_true_iff]

/-! ## what a store holds -/

/-- what a store holds of the files put in, whose paths are given as they were spelled -/
structure Holds (history : List (Path × String)) (s : Store) : Prop where
  /-- a path has the last text put in under its components -/
  get (p : Path) : s.get? p =
    (history.filter fun w => w.1.components = p.components).getLast?.map Prod.snd
  read (p : Path) : (Store.ops.read p).run s = (s.get? p, s)
  /-- doubled slashes, dots between slashes and what ends a path do not count -/
  doubled (a b : String) : s.get? ⟨a ++ "//" ++ b⟩ = s.get? ⟨a ++ "/" ++ b⟩
  dotted (a b : String) : s.get? ⟨a ++ "/./" ++ b⟩ = s.get? ⟨a ++ "/" ++ b⟩
  trailing {a : String} : a ≠ "" → s.get? ⟨a ++ "/"⟩ = s.get? ⟨a⟩ ∧ s.get? ⟨a ++ "/."⟩ = s.get? ⟨a⟩
  /-- every path is there once and comes before those after it -/
  distinct : (s.paths.map Path.components).Nodup
  sorted : s.paths.Pairwise fun p q => Component.listLt p.components q.components = true
  /-- a path is there as it was first spelled -/
  listed (p : Path) : p ∈ s.paths ↔
    (history.find? fun w => w.1.components = p.components).map Prod.fst = some p
  /-- a directory has the paths that go on after it -/
  list (dir : Path) : (Store.ops.list dir).run s =
    (s.paths.filter fun p => dir.components <+: p.components ∧ dir.components ≠ p.components, s)

theorem components_nodup {s : Store} (h : s.Ordered) : (s.paths.map Path.components).Nodup := by
  rw [List.Nodup, List.pairwise_map]
  refine (paths_sorted h).imp fun hlt heq => ?_
  have hsame := Path.not_same_of_lt hlt
  rw [Path.same_iff.mpr heq] at hsame
  cases hsame

/-- paths with the same components are one file -/
theorem get?_congr (s : Store) {p q : Path} (h : p.components = q.components) :
    s.get? p = s.get? q := by
  unfold get? Path.same
  rw [h]

/-- **stores remember their history**: whatever files are put in and in whatever order, a store has under
each path the text put in last, all spellings of a path find it, and paths are listed in order -/
theorem changed_holds (changes : List Change) :
    Holds (changes.map Change.file) (changed changes) where
  get p := by
    rw [changed_eq, get?_ofList]
    rfl
  read p := rfl
  doubled a b := by
    have hnothing : '/' ∉ ([] : List Char) := List.not_mem_nil
    refine get?_congr _ (Path.components_blank_piece a.toList b.toList hnothing rfl ?_ ?_)
    · simp [String.toList_append]
    · simp [String.toList_append]
  dotted a b := by
    have hdot : '/' ∉ ['.'] := by decide
    refine get?_congr _ (Path.components_blank_piece a.toList b.toList hdot rfl ?_ ?_)
    · simp [String.toList_append]
    · simp [String.toList_append]
  trailing {a} ha := by
    have hnothing : '/' ∉ ([] : List Char) := List.not_mem_nil
    have hdot : '/' ∉ ['.'] := by decide
    have hchars : a.toList ≠ [] := by simpa using ha
    constructor
    · refine get?_congr _ (Path.components_blank_end hnothing rfl ?_ hchars)
      simp [String.toList_append]
    · refine get?_congr _ (Path.components_blank_end hdot rfl ?_ hchars)
      simp [String.toList_append]
  distinct := by
    rw [changed_eq]
    exact components_nodup (ofList_ordered _)
  sorted := by
    rw [changed_eq]
    exact paths_sorted (ofList_ordered _)
  listed p := by
    rw [changed_eq]
    exact mem_paths_ofList
  list dir := by
    rw [← below_eq]
    rfl

example : (changed [.insert ⟨"/a/s/x"⟩ "1", .insert ⟨"/a/s-old/y"⟩ "2", .write ⟨"/a//s/./x/"⟩ "3"]).files =
    [(⟨"/a/s/x"⟩, "3"), (⟨"/a/s-old/y"⟩, "2")] := by decide +kernel

end Store

end ResolverTypes
