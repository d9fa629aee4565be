import ResolverTypes.Proofs.File.History
import ResolverTypes.Proofs.File.Listing
import Mathlib.Data.List.Sort

/-!
# What a listing finds

A listing keeps the directories that wait to be read and reads the one on top until none waits.  A
directory gives its entries in an order of its own, so that one turn of this loop (`Listing.Turn`) has
as many outcomes as there are orders.  What does not depend on them: the files found so far and the
files that the waiting directories still hold are, together, the same files after every turn
(`Turn.perm`).  A loop that has come to its end has therefore found the files of the first directory,
each once, and sorting them leaves no trace of the orders.

`Disk.filesBelow_explored` says this of a directory on a disk, and compares the listing with that of
files in memory.
-/

namespace ResolverTypes

/-! ## trees whose names tell entries apart -/

namespace Node

mutual

/-- whether no directory of a tree has two entries of one name -/
def hasDistinctNames : Node → Bool
  | .file _ => true
  | .directory es => haveDistinctNames es

def haveDistinctNames : List (String × Node) → Bool
  | [] => true
  | (name, n) :: rest =>
    !(rest.map Prod.fst).contains name && n.hasDistinctNames && haveDistinctNames rest

end

theorem haveDistinctNames_iff {es : List (String × Node)} :
    haveDistinctNames es = true ↔
      (es.map Prod.fst).Nodup ∧ ∀ e ∈ es, e.2.hasDistinctNames = true := by
  induction es with
  | nil => simp [haveDistinctNames]
  | cons e es ih =>
    obtain ⟨name, n⟩ := e
    rw [haveDistinctNames, Bool.and_eq_true, Bool.and_eq_true, ih, List.map_cons, List.nodup_cons,
      List.forall_mem_cons, Bool.not_eq_true', List.contains_eq_mem, decide_eq_false_iff_not]
    tauto

theorem lookupEntry_of_mem {es : List (String × Node)} (h : haveDistinctNames es = true) {name : String}
    {n : Node} (he : (name, n) ∈ es) : Table.lookupEntry name es = some n :=
  Table.get?_of_mem_entries (t := ⟨es⟩) (haveDistinctNames_iff.mp h).1 he

theorem hasDistinctNames_of_at? {n m : Node} (h : n.hasDistinctNames = true) {names : List String}
    (hm : n.at? names = some m) : m.hasDistinctNames = true := by
  induction names generalizing n with
  | nil =>
    cases hm
    exact h
  | cons k names ih =>
    cases n with
    | file content => cases hm
    | directory es =>
      rw [at?_directory_cons] at hm
      obtain ⟨inner, hinner, hm⟩ := Option.bind_eq_some_iff.mp hm
      exact ih ((haveDistinctNames_iff.mp h).2 _ (Table.lookupEntry_mem hinner)) hm

/-! ### files -/

theorem filesIn_eq_flatMap (es : List (String × Node)) :
    filesIn es = es.flatMap fun e => e.2.files.map fun f => (e.1 :: f.1, f.2) := by
  induction es with
  | nil => rfl
  | cons e es ih =>
    obtain ⟨name, n⟩ := e
    rw [filesIn, ih, List.flatMap_cons]

theorem nil_notMem_filesIn {es : List (String × Node)} {content : ByteArray} :
    ([], content) ∉ filesIn es := by
  simp [filesIn_eq_flatMap]

theorem cons_mem_filesIn_iff {es : List (String × Node)} {k : String} {ks : List String}
    {content : ByteArray} :
    (k :: ks, content) ∈ filesIn es ↔ ∃ n, (k, n) ∈ es ∧ (ks, content) ∈ n.files := by
  rw [filesIn_eq_flatMap, List.mem_flatMap]
  constructor
  · rintro ⟨⟨name, n⟩, he, hf⟩
    obtain ⟨f, hmem, heq⟩ := List.mem_map.mp hf
    cases heq
    exact ⟨n, he, hmem⟩
  · rintro ⟨n, he, hf⟩
    exact ⟨(k, n), he, List.mem_map.mpr ⟨_, hf, rfl⟩⟩

/-- the files of a tree are those that names lead to -/
theorem mem_files_iff {n : Node} (h : n.hasDistinctNames = true) {names : List String}
    {content : ByteArray} : (names, content) ∈ n.files ↔ n.at? names = some (.file content) := by
  induction names generalizing n with
  | nil =>
    cases n with
    | file c => simp [files, at?, eq_comm]
    | directory es => simpa [files, at?] using nil_notMem_filesIn
  | cons k ks ih =>
    cases n with
    | file c => simp [files, at?]
    | directory es =>
      rw [files, cons_mem_filesIn_iff, at?_directory_cons, Option.bind_eq_some_iff]
      refine exists_congr fun m => ?_
      constructor
      · rintro ⟨he, hf⟩
        exact ⟨lookupEntry_of_mem h he, (ih ((haveDistinctNames_iff.mp h).2 _ he)).mp hf⟩
      · rintro ⟨hm, hat⟩
        have he := Table.lookupEntry_mem hm
        exact ⟨he, (ih ((haveDistinctNames_iff.mp h).2 _ he)).mpr hat⟩

mutual

theorem nodup_files : (n : Node) → n.hasDistinctNames = true → (n.files.map Prod.fst).Nodup
  | .file _, _ => List.nodup_singleton _
  | .directory es, h => nodup_filesIn es h

theorem nodup_filesIn : (es : List (String × Node)) → haveDistinctNames es = true →
    ((filesIn es).map Prod.fst).Nodup
  | [], _ => List.nodup_nil
  | (name, n) :: rest, h => by
    rw [haveDistinctNames, Bool.and_eq_true, Bool.and_eq_true, Bool.not_eq_true',
      List.contains_eq_mem, decide_eq_false_iff_not] at h
    obtain ⟨⟨hname, hn⟩, hrest⟩ := h
    have hfirst : ((n.files.map fun f => (name :: f.1, f.2)).map Prod.fst) =
        (n.files.map Prod.fst).map (name :: ·) := by
      rw [List.map_map, List.map_map]
      rfl
    rw [filesIn, List.map_append, hfirst]
    refine List.nodup_append.mpr ⟨?_, nodup_filesIn rest hrest, ?_⟩
    · exact (nodup_files n hn).map fun a b hab => (List.cons.inj hab).2
    · -- the first name tells the two parts apart
      rintro a ha b hb rfl
      obtain ⟨names, -, rfl⟩ := List.mem_map.mp ha
      obtain ⟨⟨names', content⟩, hf, heq⟩ := List.mem_map.mp hb
      cases heq
      obtain ⟨m, hm, -⟩ := cons_mem_filesIn_iff.mp hf
      exact hname (List.mem_map_of_mem hm)

end

theorem sizeAll_perm {es es' : List (String × Node)} (h : es.Perm es') : sizeAll es = sizeAll es' := by
  induction h with
  | nil => rfl
  | cons e _ ih =>
    rw [sizeAll, sizeAll, ih]
  | swap e e' es =>
    simp only [sizeAll]
    omega
  | trans _ _ ih ih' => exact ih.trans ih'

end Node

/-! ## turns of the loop -/

namespace Listing
open Disk (below)

/-- whether a directory and those on the way along some names can be read -/
def opens (dir : Path) : List String → Bool
  | [] => (Disk.checkText dir).isOk
  | k :: ks => (Disk.checkText dir).isOk && opens (dir.join ⟨k⟩) ks

theorem opens_iff {dir : Path} {names : List String} :
    opens dir names = true ↔ ∀ ks, ks <+: names → (Disk.checkText (below dir ks)).isOk = true := by
  induction names generalizing dir with
  | nil => simp [opens, below]
  | cons k names ih =>
    rw [opens, Bool.and_eq_true, ih]
    constructor
    · rintro ⟨hdir, hrest⟩ ks hks
      rcases List.prefix_cons_iff.mp hks with rfl | ⟨more, rfl, hmore⟩
      · exact hdir
      · exact hrest more hmore
    · intro h
      exact ⟨h [] List.nil_prefix, fun ks hks => h (k :: ks) ((List.prefix_cons_inj k).mpr hks)⟩

/-- the names that lead to the files of a directory through directories that are entered -/
def reached (dir : Path) (es : List (String × Node)) : List (List String) :=
  ((Node.filesIn es).map Prod.fst).filter fun names =>
    decide (skipped ∉ names.dropLast) && opens dir names.dropLast

theorem reached_of_refused {dir : Path} (hdir : (Disk.checkText dir).isOk = false)
    (es : List (String × Node)) : reached dir es = [] := by
  refine List.filter_eq_nil_iff.mpr fun names _ => ?_
  have hclosed : opens dir names.dropLast = false := by
    cases names.dropLast with
    | nil => exact hdir
    | cons k ks => rw [opens, hdir, Bool.false_and]
  rw [hclosed, Bool.and_false]
  exact Bool.false_ne_true

section
variable {dir : Path} (hdir : (Disk.checkText dir).isOk = true)
include hdir

theorem reached_cons_file (name : String) (content : ByteArray) (es : List (String × Node)) :
    reached dir ((name, .file content) :: es) = [name] :: reached dir es := by
  unfold reached
  rw [Node.filesIn, Node.files, List.map_append, List.filter_append]
  simp [opens, hdir]

/-- whatever is in a directory has a name of its own after that of the directory -/
theorem reached_cons_directory (name : String) (inner es : List (String × Node)) :
    reached dir ((name, .directory inner) :: es) =
      (if name = skipped then [] else (reached (dir.join ⟨name⟩) inner).map (name :: ·)) ++
        reached dir es := by
  have hfirst : (((Node.filesIn inner).map fun f => (name :: f.1, f.2)).map Prod.fst).filter
        (fun names => decide (skipped ∉ names.dropLast) && opens dir names.dropLast) =
      if name = skipped then [] else (reached (dir.join ⟨name⟩) inner).map (name :: ·) := by
    rw [List.map_map, show Prod.fst ∘ (fun f : List String × ByteArray => (name :: f.1, f.2)) =
      (name :: ·) ∘ Prod.fst from rfl, ← List.map_map, List.filter_map]
    unfold reached
    have hdrop : ∀ names ∈ (Node.filesIn inner).map Prod.fst,
        (name :: names).dropLast = name :: names.dropLast := by
      intro names hnames
      obtain ⟨⟨names', content⟩, hf, rfl⟩ := List.mem_map.mp hnames
      cases names' with
      | nil => exact absurd hf Node.nil_notMem_filesIn
      | cons k ks => rfl
    split
    · next hskip =>
      rw [List.map_eq_nil_iff, List.filter_eq_nil_iff]
      intro names hnames
      rw [Function.comp_apply, hdrop names hnames, hskip]
      simp
    · next hskip =>
      refine congrArg _ (List.filter_congr fun names hnames => ?_)
      rw [Function.comp_apply, hdrop names hnames]
      simp [Ne.symm hskip, opens, hdir]
  unfold reached at hfirst ⊢
  rw [Node.filesIn, Node.files, List.map_append, List.filter_append, hfirst]

end

theorem reached_perm {es es' : List (String × Node)} (h : es.Perm es') (dir : Path) :
    (reached dir es).Perm (reached dir es') := by
  unfold reached
  rw [Node.filesIn_eq_flatMap, Node.filesIn_eq_flatMap]
  exact ((h.flatMap_right _).map _).filter _

/-- the directories that wait, the next one first, and the files found -/
abbrev State : Type := List (Path × List (String × Node)) × List Path

/-- one turn: the next directory gives its entries in some order; its files are found, and its
directories wait, the last one on top.  A directory whose path is refused gives nothing -/
inductive Turn : State → State → Prop where
  | read {dir es listed rest found} : (Disk.checkText dir).isOk = true → listed.Perm es →
      Turn ((dir, es) :: rest, found)
        ((directories dir listed).reverse ++ rest, found ++ regularFiles dir listed)
  | pass {dir es rest found} : (Disk.checkText dir).isOk = false →
      Turn ((dir, es) :: rest, found) (rest, found)

/-- a number of turns -/
inductive Turns : Nat → State → State → Prop where
  | none {state} : Turns 0 state state
  | more {n state next last} : Turn state next → Turns n next last → Turns (n + 1) state last

/-- the files that waiting directories hold -/
def held (pending : List (Path × List (String × Node))) : List Path :=
  pending.flatMap fun w => (reached w.1 w.2).map (below w.1)

theorem held_append (a b : List (Path × List (String × Node))) : held (a ++ b) = held a ++ held b :=
  List.flatMap_append

/-- the files of a directory are found in it or held by its directories -/
theorem reached_entries {dir : Path} (hdir : (Disk.checkText dir).isOk = true)
    (es : List (String × Node)) :
    ((reached dir es).map (below dir)).Perm (regularFiles dir es ++ held (directories dir es)) := by
  induction es with
  | nil => exact List.Perm.refl _
  | cons e es ih =>
    obtain ⟨name, content | inner⟩ := e
    · rw [reached_cons_file hdir, regularFiles_cons_file]
      exact ih.cons _
    · rw [reached_cons_directory hdir, directories_cons_directory]
      by_cases hskip : name = skipped
      · rw [if_pos hskip, if_pos (beq_iff_eq.mpr hskip)]
        exact ih
      · rw [if_neg hskip, if_neg (by simpa using hskip), List.map_append, List.map_map]
        have hinner : held ((dir.join ⟨name⟩, inner) :: directories dir es) =
            (reached (dir.join ⟨name⟩) inner).map (below (dir.join ⟨name⟩)) ++
              held (directories dir es) := rfl
        rw [hinner, ← List.append_assoc]
        refine (ih.append_left _).trans ?_
        rw [← List.append_assoc]
        exact List.perm_append_comm.append_right _

/-- a turn neither loses a file nor finds one twice -/
theorem Turn.perm {state next : State} (h : Turn state next) :
    (state.2 ++ held state.1).Perm (next.2 ++ held next.1) := by
  cases h with
  | @read dir es listed rest found hdir horder =>
    have hentries : ((reached dir es).map (below dir)).Perm
        (regularFiles dir listed ++ held (directories dir listed).reverse) := by
      refine ((reached_perm horder.symm dir).map _).trans ((reached_entries hdir listed).trans ?_)
      exact ((List.reverse_perm _).symm.flatMap_right _).append_left _
    dsimp only
    rw [held_append, List.append_assoc, ← List.append_assoc (regularFiles dir listed)]
    exact (hentries.append_right (held rest)).append_left found
  | @pass dir es rest found hdir =>
    have hnone : held ((dir, es) :: rest) = (reached dir es).map (below dir) ++ held rest := rfl
    dsimp only
    rw [hnone, reached_of_refused hdir]
    exact List.Perm.refl _

theorem Turns.perm {n : Nat} {state last : State} (h : Turns n state last) :
    (state.2 ++ held state.1).Perm (last.2 ++ held last.1) := by
  induction h with
  | none => exact List.Perm.refl _
  | more hturn _ ih => exact hturn.perm.trans ih

/-- every turn leaves less to be read -/
theorem Turn.work_lt {state next : State} (h : Turn state next) : work next.1 < work state.1 := by
  cases h with
  | @read dir es listed rest found _ horder =>
    have hle := work_directories_le dir listed
    rw [Node.sizeAll_perm horder] at hle
    dsimp only
    rw [work_append, work_reverse, work]
    omega
  | @pass dir es rest found _ =>
    dsimp only
    rw [work]
    omega

theorem Turns.add_work_le {n : Nat} {state last : State} (h : Turns n state last) :
    n + work last.1 ≤ work state.1 := by
  induction h with
  | none => omega
  | more hturn _ ih =>
    have := hturn.work_lt
    omega

/-- the listing takes the entries of every directory as they stand -/
theorem turns_visit (pending : List (Path × List (String × Node))) (found : List Path) :
    ∃ n, Turns n (pending, found) ([], visit pending found) := by
  induction pending, found using visit.induct with
  | case1 found =>
    rw [visit]
    exact ⟨0, .none⟩
  | case2 dir es rest found hdir ih =>
    rw [visit, if_pos hdir]
    obtain ⟨n, hn⟩ := ih
    exact ⟨n + 1, .more (.read hdir (List.Perm.refl es)) hn⟩
  | case3 dir es rest found hdir ih =>
    rw [visit, if_neg hdir]
    obtain ⟨n, hn⟩ := ih
    exact ⟨n + 1, .more (.pass (Bool.eq_false_iff.mpr hdir)) hn⟩

/-! ## what is reached -/

/-- names that lead to a file of a directory, through directories that are entered: none has the name
that is never entered, and the path of none is refused -/
structure IsReached (dir : Path) (es : List (String × Node)) (names : List String) : Prop where
  file : ∃ content, (Node.directory es).at? names = some (.file content)
  entered : skipped ∉ names.dropLast
  opened : ∀ ks, ks <+: names.dropLast → (Disk.checkText (below dir ks)).isOk = true

section
variable {dir : Path} {es : List (String × Node)}

theorem mem_reached_iff (h : Node.haveDistinctNames es = true) {names : List String} :
    names ∈ reached dir es ↔ IsReached dir es names := by
  have hfile : names ∈ (Node.filesIn es).map Prod.fst ↔
      ∃ content, (Node.directory es).at? names = some (.file content) := by
    constructor
    · intro hmem
      obtain ⟨⟨_, content⟩, hf, rfl⟩ := List.mem_map.mp hmem
      exact ⟨content, (Node.mem_files_iff (n := .directory es) h).mp hf⟩
    · rintro ⟨content, hat⟩
      exact List.mem_map_of_mem ((Node.mem_files_iff (n := .directory es) h).mpr hat)
  unfold reached
  rw [List.mem_filter, hfile, Bool.and_eq_true, decide_eq_true_iff, opens_iff]
  exact ⟨fun ⟨hat, hskip, hopen⟩ => ⟨hat, hskip, hopen⟩, fun h => ⟨h.file, h.entered, h.opened⟩⟩

theorem reached_nodup (h : Node.haveDistinctNames es = true) : (reached dir es).Nodup :=
  (Node.nodup_filesIn es h).filter _

end

/-- a directory that waits stands at some names below the first one -/
def IsHeldIn (top : Path) (es : List (String × Node)) (w : Path × List (String × Node)) : Prop :=
  ∃ names, w.1 = below top names ∧ (Node.directory es).at? names = some (.directory w.2)

theorem Turn.isHeldIn {top : Path} {es : List (String × Node)} (hes : Node.haveDistinctNames es = true)
    {state next : State} (h : Turn state next) (hstate : ∀ w ∈ state.1, IsHeldIn top es w) :
    ∀ w ∈ next.1, IsHeldIn top es w := by
  cases h with
  | @read dir entries listed rest found _ horder =>
    intro w hw
    rcases List.mem_append.mp hw with hw | hw
    · obtain ⟨names, hdir, hat⟩ := hstate (dir, entries) List.mem_cons_self
      obtain ⟨name, hmem, hpath⟩ := Disk.mem_directories (List.mem_reverse.mp hw)
      have hentries := Node.hasDistinctNames_of_at? (n := .directory es) hes hat
      have hlook := Node.lookupEntry_of_mem hentries (horder.mem_iff.mp hmem)
      refine ⟨names ++ [name], ?_, ?_⟩
      · rw [hpath, ← Disk.join_below, ← hdir]
      · rw [Node.at?_append, hat, Option.bind_some, Node.at?_directory_cons, hlook]
        rfl
    · exact hstate w (List.mem_cons_of_mem _ hw)
  | pass _ => exact fun w hw => hstate w (List.mem_cons_of_mem _ hw)

theorem Turns.isHeldIn {top : Path} {es : List (String × Node)} (hes : Node.haveDistinctNames es = true)
    {n : Nat} {state last : State} (h : Turns n state last) (hstate : ∀ w ∈ state.1, IsHeldIn top es w) :
    ∀ w ∈ last.1, IsHeldIn top es w := by
  induction h with
  | none => exact hstate
  | more hturn _ ih => exact ih (hturn.isHeldIn hes hstate)

end Listing

/-! ## the paths of a listing -/

theorem Node.isFileName_of_at? {n m : Node} (h : n.isWellNamed = true) {names : List String}
    (hm : n.at? names = some m) : ∀ k ∈ names, isFileName k = true := by
  induction names generalizing n with
  | nil => exact List.forall_mem_nil _
  | cons k names ih =>
    cases n with
    | file content => cases hm
    | directory es =>
      rw [at?_directory_cons] at hm
      obtain ⟨inner, hinner, hm⟩ := Option.bind_eq_some_iff.mp hm
      obtain ⟨hk, hwell⟩ := areWellNamed_iff.mp h _ (Table.lookupEntry_mem hinner)
      exact List.forall_mem_cons.mpr ⟨hk, ih hwell hm⟩

theorem step?_of_isFileName {name : String} (h : isFileName name = true) :
    Path.step? name.toList = some (.name name) := by
  obtain ⟨-, -, hempty, hdot, hup⟩ := isFileName_iff.mp h
  have hne : ∀ s : String, name ≠ s → name.toList ≠ s.toList := fun s hs heq => hs (String.toList_inj.mp heq)
  unfold Path.step?
  split
  · next heq => exact absurd heq (hne "" hempty)
  · next heq => exact absurd heq (hne "." hdot)
  · next heq => exact absurd heq (hne ".." hup)
  · rw [String.ofList_toList]

namespace Disk
open Listing

section
variable {dir : Path} (hdir : dir.text ≠ "")
include hdir

theorem components_below {names : List String} (hnames : ∀ k ∈ names, isFileName k = true) :
    (below dir names).components = dir.components ++ names.map .name := by
  induction names generalizing dir with
  | nil => exact (List.append_nil _).symm
  | cons name names ih =>
    obtain ⟨hname, hrest⟩ := List.forall_mem_cons.mp hnames
    have hslash := (isFileName_iff.mp hname).2.1
    have hjoin : (dir.join ⟨name⟩).components = dir.components ++ [.name name] := by
      rw [Path.components_join (fun h => hdir (String.toList_eq_nil_iff.mp h))
        (Path.isAbsolute_of_notMem hslash), Text.splitOn_of_notMem hslash]
      simp [step?_of_isFileName hname]
    show (below (dir.join ⟨name⟩) names).components = _
    rw [ih (text_join_ne hdir hslash) hrest, hjoin, List.append_assoc]
    rfl

/-- the components of a path below a directory give back the names -/
theorem below_inj {names names' : List String} (h : ∀ k ∈ names, isFileName k = true)
    (h' : ∀ k ∈ names', isFileName k = true)
    (heq : (below dir names).components = (below dir names').components) : names = names' := by
  rw [components_below hdir h, components_below hdir h'] at heq
  exact (List.map_inj_right fun a b hab => Component.name.inj hab).mp (List.append_cancel_left heq)

end

/-! ## order -/

/-- paths that are told apart by their components are sorted in one way only -/
theorem mergeSort_eq_of_perm {ps qs : List Path} (h : ps.Perm qs)
    (hinj : ∀ p ∈ ps, ∀ q ∈ ps, p.components = q.components → p = q) :
    (ps.mergeSort fun a b => !b.lt a) = qs.mergeSort fun a b => !b.lt a := by
  have hsort := fun l => List.pairwise_mergeSort Path.not_lt_trans Path.not_lt_total l
  refine List.Perm.eq_of_pairwise (fun p q hp hq hpq hqp => ?_) (hsort ps) (hsort qs)
    ((List.mergeSort_perm ps _).trans (h.trans (List.mergeSort_perm qs _).symm))
  refine hinj p (List.mem_mergeSort.mp hp) q (h.mem_iff.mpr (List.mem_mergeSort.mp hq)) ?_
  by_contra hne
  rw [Bool.not_eq_true', Bool.eq_false_iff] at hpq hqp
  exact (Component.listLt_or_gt hne).elim hqp hpq

/-- sorted paths with distinct components come strictly one after the other -/
theorem pairwise_lt_mergeSort {ps : List Path} (h : (ps.map Path.components).Nodup) :
    (ps.mergeSort fun a b => !b.lt a).Pairwise fun p q => p.lt q = true := by
  have hsort := List.pairwise_mergeSort Path.not_lt_trans Path.not_lt_total ps
  have hnodup : ((ps.mergeSort fun a b => !b.lt a).map Path.components).Nodup :=
    ((List.mergeSort_perm ps _).map _).nodup_iff.mpr h
  rw [List.Nodup, List.pairwise_map] at hnodup
  refine (hsort.and hnodup).imp fun ⟨hle, hne⟩ => ?_
  rw [Bool.not_eq_true', Bool.eq_false_iff] at hle
  exact (Component.listLt_or_gt hne).resolve_right hle

/-- a strictly sorted list of component lists is given by its members -/
theorem eq_of_mem_iff_of_sorted {as bs : List (List Component)}
    (ha : as.Pairwise fun a b => Component.listLt a b = true)
    (hb : bs.Pairwise fun a b => Component.listLt a b = true) (h : ∀ a, a ∈ as ↔ a ∈ bs) : as = bs := by
  have hne : ∀ {a b : List Component}, Component.listLt a b = true → a ≠ b := by
    rintro a _ hlt rfl
    rw [Component.listLt_irrefl] at hlt
    cases hlt
  have hperm : as.Perm bs := (List.perm_ext_iff_of_nodup (ha.imp hne) (hb.imp hne)).mpr h
  refine List.Perm.eq_of_pairwise (fun a b _ _ hab hba => ?_) ha hb hperm
  exact absurd rfl (hne (Component.listLt_trans hab hba))

/-! ## directories on a disk -/

section
variable {d : Disk} {dir : Path} {es : List (String × Node)}

theorem perm_of_turns {n : Nat} {found : List Path} (h : Turns n ([(dir, es)], []) ([], found)) :
    found.Perm ((reached dir es).map (below dir)) := by
  have hperm := h.perm
  rw [List.nil_append, show held [] = [] from rfl, List.append_nil,
    show held [(dir, es)] = (reached dir es).map (below dir) ++ [] from rfl, List.append_nil] at hperm
  exact hperm.symm

section
variable (hdir : dir.text ≠ "") (hnamed : Node.areWellNamed es = true)
  (hdistinct : Node.haveDistinctNames es = true)
include hdir hnamed hdistinct

theorem components_nodup_reached : (((reached dir es).map (below dir)).map Path.components).Nodup := by
  rw [List.map_map]
  refine (List.nodup_map_iff_inj_on (reached_nodup hdistinct)).mpr fun a ha b hb heq => ?_
  obtain ⟨_, ha⟩ := ((mem_reached_iff hdistinct).mp ha).file
  obtain ⟨_, hb⟩ := ((mem_reached_iff hdistinct).mp hb).file
  exact below_inj hdir (Node.isFileName_of_at? (n := .directory es) hnamed ha)
    (Node.isFileName_of_at? (n := .directory es) hnamed hb) heq

/-- whatever the orders in which directories are read, sorting gives one list -/
theorem sorted_of_turns {n : Nat} {found : List Path} (h : Turns n ([(dir, es)], []) ([], found)) :
    (found.mergeSort fun a b => !b.lt a) =
      ((reached dir es).map (below dir)).mergeSort fun a b => !b.lt a := by
  have hperm := perm_of_turns h
  refine mergeSort_eq_of_perm hperm fun p hp q hq heq => ?_
  exact List.inj_on_of_nodup_map (components_nodup_reached hdir hnamed hdistinct)
    (hperm.mem_iff.mp hp) (hperm.mem_iff.mp hq) heq

end

theorem filesBelow_eq (hnamed : Node.areWellNamed es = true)
    (hdistinct : Node.haveDistinctNames es = true) (h : d.find dir = .ok (.directory es)) :
    d.filesBelow dir = ((reached dir es).map (below dir)).mergeSort fun a b => !b.lt a := by
  obtain ⟨-, hdir, -⟩ := find_eq_ok_iff.mp h
  obtain ⟨n, hturns⟩ := turns_visit [(dir, es)] []
  unfold filesBelow
  rw [h]
  exact sorted_of_turns hdir hnamed hdistinct hturns

end

end Disk

/-! ## files in memory -/

namespace Store
open Disk (below components_below)

/-- whether files in memory are, below a directory, those of a tree; their texts do not matter here -/
def Mirrors (s : Store) (dir : Path) (es : List (String × Node)) : Prop :=
  ∀ p : Path, dir.components <+: p.components → dir.components ≠ p.components →
    ((s.get? p).isSome = true ↔ ∃ names content, (Node.directory es).at? names = some (.file content) ∧
      p.components = dir.components ++ names.map .name)

variable {s : Store} {dir : Path} {es : List (String × Node)}

theorem Mirrors.mem_below_iff (h : s.Mirrors dir es) (hdir : dir.text ≠ "")
    (hnamed : Node.areWellNamed es = true) {cs : List Component} :
    cs ∈ (s.below dir).map Path.components ↔
      ∃ names content, (Node.directory es).at? names = some (.file content) ∧
        cs = dir.components ++ names.map .name := by
  rw [below_eq]
  constructor
  · intro hcs
    obtain ⟨p, hp, rfl⟩ := List.mem_map.mp hcs
    obtain ⟨hmem, hbelow⟩ := List.mem_filter.mp hp
    obtain ⟨hstart, hne⟩ := of_decide_eq_true hbelow
    exact (h p hstart hne).mp (get?_isSome_iff.mpr ⟨p, hmem, Path.same_iff.mpr rfl⟩)
  · rintro ⟨names, content, hat, rfl⟩
    have hcs := components_below hdir (Node.isFileName_of_at? (n := .directory es) hnamed hat)
    have hstart : dir.components <+: (Disk.below dir names).components := by
      rw [hcs]
      exact List.prefix_append _ _
    have hne : dir.components ≠ (Disk.below dir names).components := by
      rw [hcs]
      intro heq
      have hnil := List.map_eq_nil_iff.mp (List.self_eq_append_right.mp heq)
      subst hnil
      cases hat
    obtain ⟨q, hq, hsame⟩ := get?_isSome_iff.mp ((h _ hstart hne).mpr ⟨names, content, hat, hcs⟩)
    have hqcs := Path.same_iff.mp hsame
    rw [← hqcs] at hstart hne
    exact List.mem_map.mpr
      ⟨q, List.mem_filter.mpr ⟨hq, decide_eq_true ⟨hstart, hne⟩⟩, hqcs.trans hcs⟩

/-- the files of a tree, put into memory with any texts -/
theorem ofList_mirrors (hdir : dir.text ≠ "") (hnamed : Node.areWellNamed es = true)
    (hdistinct : Node.haveDistinctNames es = true) (text : ByteArray → String) :
    (ofList ((Node.filesIn es).map fun f => (Disk.below dir f.1, text f.2))).Mirrors dir es := by
  intro p _ _
  have hfile : ∀ {names content}, (names, content) ∈ Node.filesIn es ↔
      (Node.directory es).at? names = some (.file content) :=
    Node.mem_files_iff (n := .directory es) hdistinct
  have hcs : ∀ {names content}, (Node.directory es).at? names = some (.file content) →
      (Disk.below dir names).components = dir.components ++ names.map .name :=
    fun hat => components_below hdir (Node.isFileName_of_at? (n := .directory es) hnamed hat)
  rw [get?_ofList, lastText_isSome_iff]
  constructor
  · rintro ⟨w, hw, hsame⟩
    obtain ⟨⟨names, content⟩, hf, rfl⟩ := List.mem_map.mp hw
    have hat := hfile.mp hf
    exact ⟨names, content, hat, (Path.same_iff.mp hsame).symm.trans (hcs hat)⟩
  · rintro ⟨names, content, hat, hp⟩
    exact ⟨_, List.mem_map_of_mem (hfile.mpr hat), Path.same_iff.mpr ((hcs hat).trans hp.symm)⟩

end Store

/-! ## listings of a disk -/

namespace Disk
open Listing

/-- every directory of a tree is entered: none has the name that is never entered, and the path of none
is refused -/
def EntersAll (dir : Path) (es : List (String × Node)) : Prop :=
  ∀ names inner, (Node.directory es).at? names = some (.directory inner) →
    skipped ∉ names ∧ (checkText (below dir names)).isOk = true

/-- how the files below a directory are listed -/
structure IsExplored (d : Disk) (dir : Path) (es : List (String × Node)) : Prop where
  /-- a directory that waits is the one its path leads to, unless the path cannot be walked at all -/
  reads {n : Nat} {state : State} : Turns n ([(dir, es)], []) state → ∀ w ∈ state.1,
    checkText w.1 = .ok () → d.find w.1 = .ok (.directory w.2)
  /-- the loop goes on as long as a directory waits -/
  continues {n : Nat} {state : State} : Turns n ([(dir, es)], []) state → state.1 ≠ [] →
    ∃ next, Turn state next
  /-- and it comes to an end -/
  ends {n : Nat} {state : State} : Turns n ([(dir, es)], []) state → n ≤ (Node.directory es).size
  /-- in whatever order directories give their entries, the listing is the same -/
  agrees {n : Nat} {found : List Path} : Turns n ([(dir, es)], []) ([], found) →
    (found.mergeSort fun a b => !b.lt a) = d.filesBelow dir
  listed (p : Path) : p ∈ d.filesBelow dir ↔ ∃ names, IsReached dir es names ∧ p = below dir names
  /-- strictly: no file is there twice -/
  sorted : (d.filesBelow dir).Pairwise fun p q => Component.listLt p.components q.components = true
  /-- files in memory are listed in the same way if every directory is entered; paths are compared by
  their components -/
  mirrored {s : Store} : EntersAll dir es → s.Ordered → s.Mirrors dir es →
    (d.filesBelow dir).map Path.components = (s.below dir).map Path.components

/-- what leads to a file leads through directories -/
theorem exists_directory_above {es : List (String × Node)} {names ks : List String} {content : ByteArray}
    (hat : (Node.directory es).at? names = some (.file content)) (hks : ks <+: names.dropLast) :
    ∃ inner, (Node.directory es).at? ks = some (.directory inner) := by
  rcases List.eq_nil_or_concat names with rfl | ⟨before, last, rfl⟩
  · cases hat
  · rw [List.concat_eq_append, List.dropLast_concat] at hks
    obtain ⟨more, rfl⟩ := hks
    rw [List.concat_eq_append, List.append_assoc, Node.at?_append] at hat
    obtain ⟨n, hn, hat⟩ := Option.bind_eq_some_iff.mp hat
    cases n with
    | file _ => cases more <;> cases hat
    | directory inner => exact ⟨inner, hn⟩

/-- a file is reached if every directory is entered -/
theorem isReached_iff {dir : Path} {es : List (String × Node)} (henter : EntersAll dir es)
    {names : List String} :
    IsReached dir es names ↔ ∃ content, (Node.directory es).at? names = some (.file content) := by
  refine ⟨fun h => h.file, fun h => ?_⟩
  obtain ⟨content, hat⟩ := h
  refine ⟨⟨content, hat⟩, ?_, fun ks hks => ?_⟩
  · obtain ⟨inner, hinner⟩ := exists_directory_above hat List.prefix_rfl
    exact (henter _ inner hinner).1
  · obtain ⟨inner, hinner⟩ := exists_directory_above hat hks
    exact (henter ks inner hinner).2

section
variable {d : Disk} {dir : Path} {es : List (String × Node)}

/-- a directory that waits is the one its path leads to -/
theorem find_of_turns (hnamed : Node.areWellNamed es = true) (hdistinct : Node.haveDistinctNames es = true)
    (hdir : d.find dir = .ok (.directory es)) {n : Nat} {state : State}
    (hturns : Turns n ([(dir, es)], []) state) {w : Path × List (String × Node)} (hw : w ∈ state.1)
    (hcheck : checkText w.1 = .ok ()) : d.find w.1 = .ok (.directory w.2) := by
  obtain ⟨-, htext, place, hplace, hat⟩ := find_eq_ok_iff.mp hdir
  have hstart : ∀ v ∈ [(dir, es)], IsHeldIn dir es v := by
    intro v hv
    rw [List.mem_singleton.mp hv]
    exact ⟨[], rfl, rfl⟩
  obtain ⟨names, hpath, hinner⟩ := hturns.isHeldIn hdistinct hstart w hw
  have hnames := Node.isFileName_of_at? (n := .directory es) hnamed hinner
  rw [hpath] at hcheck ⊢
  refine (find_below_iff hplace htext hnames).mpr ⟨hcheck, ?_⟩
  rw [Node.at?_append, hat]
  exact hinner

section
variable (hnamed : Node.areWellNamed es = true) (hdistinct : Node.haveDistinctNames es = true)
  (hdir : d.find dir = .ok (.directory es))
include hnamed hdistinct hdir

theorem mem_filesBelow_iff (p : Path) :
    p ∈ d.filesBelow dir ↔ ∃ names, IsReached dir es names ∧ p = below dir names := by
  rw [filesBelow_eq hnamed hdistinct hdir, List.mem_mergeSort, List.mem_map]
  refine exists_congr fun names => ?_
  rw [mem_reached_iff hdistinct, eq_comm]

theorem filesBelow_sorted : (d.filesBelow dir).Pairwise fun p q => p.lt q = true := by
  obtain ⟨-, htext, -⟩ := find_eq_ok_iff.mp hdir
  rw [filesBelow_eq hnamed hdistinct hdir]
  exact pairwise_lt_mergeSort (components_nodup_reached htext hnamed hdistinct)

/-- two strictly sorted listings with the same members -/
theorem components_filesBelow {s : Store} (henter : EntersAll dir es) (hordered : s.Ordered)
    (hmirrors : s.Mirrors dir es) :
    (d.filesBelow dir).map Path.components = (s.below dir).map Path.components := by
  obtain ⟨-, htext, -⟩ := find_eq_ok_iff.mp hdir
  have hnames : ∀ {names n}, (Node.directory es).at? names = some n → ∀ k ∈ names, isFileName k = true :=
    Node.isFileName_of_at? (n := .directory es) hnamed
  have hlisted := mem_filesBelow_iff hnamed hdistinct hdir
  refine eq_of_mem_iff_of_sorted (List.pairwise_map.mpr (filesBelow_sorted hnamed hdistinct hdir))
    (List.pairwise_map.mpr ((Store.paths_sorted hordered).filter _)) fun cs => ?_
  rw [hmirrors.mem_below_iff htext hnamed, List.mem_map]
  constructor
  · rintro ⟨p, hp, rfl⟩
    obtain ⟨names, hreached, rfl⟩ := (hlisted p).mp hp
    obtain ⟨content, hfile⟩ := hreached.file
    exact ⟨names, content, hfile, components_below htext (hnames hfile)⟩
  · rintro ⟨names, content, hfile, rfl⟩
    exact ⟨_, (hlisted _).mpr ⟨names, (isReached_iff henter).mpr ⟨content, hfile⟩, rfl⟩,
      components_below htext (hnames hfile)⟩

end

end

/-- **directories are explored**: on every disk with proper names and in whatever order directories give
their entries, the exploration of a directory comes to an end, and what it has found is, once sorted, the
list of the files below the directory -/
theorem filesBelow_explored {d : Disk} (hnamed : d.root.isWellNamed = true)
    (hdistinct : d.root.hasDistinctNames = true) {dir : Path} {es : List (String × Node)}
    (hdir : d.find dir = .ok (.directory es)) : d.IsExplored dir es := by
  obtain ⟨-, htext, place, -, hat⟩ := find_eq_ok_iff.mp hdir
  have hnamed : Node.areWellNamed es = true := Node.isWellNamed_of_at? hnamed hat
  have hdistinct : Node.haveDistinctNames es = true := Node.hasDistinctNames_of_at? hdistinct hat
  refine
    { reads := fun hturns w hw => find_of_turns hnamed hdistinct hdir hturns hw
      continues := fun {_ state} _ hpending => ?_
      ends := fun hturns => ?_
      agrees := fun hturns => ?_
      listed := mem_filesBelow_iff hnamed hdistinct hdir
      sorted := filesBelow_sorted hnamed hdistinct hdir
      mirrored := components_filesBelow hnamed hdistinct hdir }
  · obtain ⟨pending, found⟩ := state
    obtain ⟨⟨top, entries⟩, rest, rfl⟩ := List.exists_cons_of_ne_nil hpending
    cases hcheck : (checkText top).isOk with
    | true => exact ⟨_, .read hcheck (List.Perm.refl entries)⟩
    | false => exact ⟨_, .pass hcheck⟩
  · have hle := hturns.add_work_le
    simp only [work] at hle
    rw [Node.size]
    omega
  · rw [sorted_of_turns htext hnamed hdistinct hturns, filesBelow_eq hnamed hdistinct hdir]

def pageEntries : List (String × Node) :=
  [("b.ts", .file .empty), ("a", .directory [("x.ts", .file .empty)]), ("a-b.ts", .file .empty)]

/-- a directory with packages, and a file that is named like theirs -/
def serviceEntries : List (String × Node) :=
  [("node_modules", .directory [("dep.ts", .file .empty)]), ("page", .directory pageEntries),
    ("lib", .directory [("node_modules", .file .empty)])]

def serviceDisk : Disk := ⟨.directory [("s", .directory serviceEntries)], []⟩

/-- the files of the page in memory -/
def pageStore : Store :=
  .ofList ((Node.filesIn pageEntries).map fun f => (below ⟨"/s/page"⟩ f.1, ""))

theorem entersAll_page : EntersAll ⟨"/s/page"⟩ pageEntries := by
  intro names inner hat
  have hfile : ∀ {content ks}, (Node.file content).at? ks ≠ some (.directory inner) := by
    intro content ks h
    cases ks <;> cases h
  rcases names with _ | ⟨k, ks⟩
  · exact ⟨List.not_mem_nil, by decide +kernel⟩
  · rw [Node.at?_directory_cons] at hat
    obtain ⟨n, hn, hat⟩ := Option.bind_eq_some_iff.mp hat
    have hmem := Table.lookupEntry_mem hn
    simp only [pageEntries, List.mem_cons, Prod.mk.injEq, List.not_mem_nil, or_false] at hmem
    rcases hmem with ⟨rfl, rfl⟩ | ⟨rfl, rfl⟩ | ⟨rfl, rfl⟩
    · exact absurd hat hfile
    · rcases ks with _ | ⟨k, ks⟩
      · exact ⟨by decide, by decide +kernel⟩
      · rw [Node.at?_directory_cons] at hat
        obtain ⟨m, hm, hat⟩ := Option.bind_eq_some_iff.mp hat
        cases List.mem_singleton.mp (Table.lookupEntry_mem hm)
        exact absurd hat hfile
    · exact absurd hat hfile

theorem filesBelow_explored_services :
    serviceDisk.root.isWellNamed = true ∧ serviceDisk.root.hasDistinctNames = true ∧
    serviceDisk.find ⟨"/s"⟩ = .ok (.directory serviceEntries) ∧
    serviceDisk.IsExplored ⟨"/s"⟩ serviceEntries ∧
    serviceDisk.find ⟨"/s/page"⟩ = .ok (.directory pageEntries) ∧
    pageStore.Mirrors ⟨"/s/page"⟩ pageEntries ∧
    (serviceDisk.filesBelow ⟨"/s/page"⟩).map Path.components =
      (pageStore.below ⟨"/s/page"⟩).map Path.components := by
  have hnamed : serviceDisk.root.isWellNamed = true := by decide +kernel
  have hdistinct : serviceDisk.root.hasDistinctNames = true := by decide +kernel
  have hall : serviceDisk.find ⟨"/s"⟩ = .ok (.directory serviceEntries) := by rfl
  have hpage : serviceDisk.find ⟨"/s/page"⟩ = .ok (.directory pageEntries) := by rfl
  have hmirrors : pageStore.Mirrors ⟨"/s/page"⟩ pageEntries :=
    Store.ofList_mirrors (by decide) (by decide +kernel) (by decide +kernel) fun _ => ""
  exact ⟨hnamed, hdistinct, hall, filesBelow_explored hnamed hdistinct hall, hpage, hmirrors,
    (filesBelow_explored hnamed hdistinct hpage).mirrored entersAll_page
      (Store.ofList_ordered _) hmirrors⟩

end Disk

end ResolverTypes
