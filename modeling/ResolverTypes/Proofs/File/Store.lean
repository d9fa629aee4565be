import ResolverTypes.File.Store
import Mathlib.Data.List.Basic

/-!
# Files in memory, in order

The order of component lists is a strict total order, and a store is kept in it, so that a path is
there once (`insert_ordered`) and a look-up sees the last text put in (`get?_insert`).  A file that a
test on components rejects does not change what the test lets through (`filter_paths_insert`).

* `get?_insertAll`: after several writes, a path has the last text written there;
* `eq_of_get?`: a store is given by its paths and what look-ups find;
* `insertAll_insertAll`: writing the same files again changes nothing.
-/

namespace ResolverTypes

/-! ## the order of components -/

namespace Component

theorem lt_iff {a b : Component} :
    a.lt b = true ↔ a.rank < b.rank ∨ ∃ s t, a = .name s ∧ b = .name t ∧ s < t := by
  unfold lt
  split
  · next s t =>
    rw [decide_eq_true_iff]
    constructor
    · exact fun h => .inr ⟨s, t, rfl, rfl, h⟩
    · rintro (h | ⟨_, _, ⟨⟩, ⟨⟩, h⟩)
      · exact absurd h (Nat.lt_irrefl 3)
      · exact h
  · next hnames =>
    rw [decide_eq_true_iff]
    constructor
    · exact .inl
    · rintro (h | ⟨s, t, rfl, rfl, -⟩)
      · exact h
      · exact (hnames s t rfl rfl).elim

theorem names_of_rank_eq {a b : Component} (h : a.rank = b.rank) (hne : a ≠ b) :
    ∃ s t, a = .name s ∧ b = .name t := by
  cases a <;> cases b <;> simp_all [rank]

theorem lt_irrefl (a : Component) : a.lt a = false := by
  rw [Bool.eq_false_iff, Ne, lt_iff]
  rintro (h | ⟨s, t, rfl, ht, h⟩)
  · exact Nat.lt_irrefl _ h
  · cases ht
    exact String.lt_irrefl s h

theorem lt_trans {a b c : Component} (hab : a.lt b = true) (hbc : b.lt c = true) :
    a.lt c = true := by
  rw [lt_iff] at hab hbc ⊢
  rcases hab with hab | ⟨s, t, rfl, rfl, hab⟩
  · rcases hbc with hbc | ⟨t, u, rfl, rfl, hbc⟩
    · exact .inl (Nat.lt_trans hab hbc)
    · exact .inl hab
  · rcases hbc with hbc | ⟨t', u, ht, rfl, hbc⟩
    · exact .inl hbc
    · cases ht
      exact .inr ⟨s, u, rfl, rfl, String.lt_trans hab hbc⟩

theorem lt_or_gt {a b : Component} (h : a ≠ b) : a.lt b = true ∨ b.lt a = true := by
  rw [lt_iff, lt_iff]
  rcases Nat.lt_trichotomy a.rank b.rank with hlt | heq | hgt
  · exact .inl (.inl hlt)
  · obtain ⟨s, t, rfl, rfl⟩ := names_of_rank_eq heq h
    by_cases hst : s < t
    · exact .inl (.inr ⟨s, t, rfl, rfl, hst⟩)
    · by_cases hts : t < s
      · exact .inr (.inr ⟨t, s, rfl, rfl, hts⟩)
      · have heq : s = t := String.le_antisymm (String.not_lt.mp hts) (String.not_lt.mp hst)
        exact absurd (by rw [heq]) h
  · exact .inr (.inl hgt)

theorem listLt_irrefl (as : List Component) : listLt as as = false := by
  induction as with
  | nil => rfl
  | cons a as ih => simp [listLt, lt_irrefl, ih]

theorem listLt_trans {as bs cs : List Component} (hab : listLt as bs = true)
    (hbc : listLt bs cs = true) : listLt as cs = true := by
  induction as generalizing bs cs with
  | nil =>
    cases bs with
    | nil => cases hab
    | cons b bs =>
      cases cs with
      | nil => cases hbc
      | cons c cs => rfl
  | cons a as ih =>
    cases bs with
    | nil => cases hab
    | cons b bs =>
      cases cs with
      | nil => cases hbc
      | cons c cs =>
        simp only [listLt, Bool.or_eq_true, Bool.and_eq_true, decide_eq_true_eq] at hab hbc ⊢
        rcases hab with hab | ⟨rfl, hab⟩
        · rcases hbc with hbc | ⟨rfl, hbc⟩
          · exact .inl (lt_trans hab hbc)
          · exact .inl hab
        · rcases hbc with hbc | ⟨rfl, hbc⟩
          · exact .inl hbc
          · exact .inr ⟨rfl, ih hab hbc⟩

theorem listLt_or_gt {as bs : List Component} (h : as ≠ bs) :
    listLt as bs = true ∨ listLt bs as = true := by
  induction as generalizing bs with
  | nil =>
    cases bs with
    | nil => exact absurd rfl h
    | cons b bs => exact .inl rfl
  | cons a as ih =>
    cases bs with
    | nil => exact .inr rfl
    | cons b bs =>
      simp only [listLt, Bool.or_eq_true, Bool.and_eq_true, decide_eq_true_eq]
      by_cases hab : a = b
      · subst hab
        have hne : as ≠ bs := fun heq => h (by rw [heq])
        exact (ih hne).imp (fun hlt => .inr ⟨rfl, hlt⟩) fun hlt => .inr ⟨rfl, hlt⟩
      · exact (lt_or_gt hab).imp .inl .inl

end Component

/-! ## paths -/

namespace Path

theorem same_iff {p q : Path} : p.same q = true ↔ p.components = q.components := by
  simp [same]

theorem same_comm (p q : Path) : p.same q = q.same p := by
  simp [same, eq_comm]

theorem not_same_of_lt {p q : Path} (h : p.lt q = true) : p.same q = false := by
  rw [Bool.eq_false_iff]
  intro hsame
  unfold lt at h
  rw [same_iff.mp hsame, Component.listLt_irrefl] at h
  cases h

theorem lt_trans {p q r : Path} (hpq : p.lt q = true) (hqr : q.lt r = true) : p.lt r = true :=
  Component.listLt_trans hpq hqr

end Path

namespace Store

/-! ## stores in order -/

/-- every file comes before those after it -/
def Ordered (s : Store) : Prop := s.files.Pairwise fun a b => a.1.lt b.1 = true

theorem mem_insertFile {path : Path} {text : String} {fs : List (Path × String)}
    {f : Path × String} (h : f ∈ insertFile path text fs) :
    f = (path, text) ∨ (∃ t, (f.1, t) ∈ fs) := by
  induction fs with
  | nil => exact .inl (List.mem_singleton.mp h)
  | cons g fs ih =>
    obtain ⟨p, t⟩ := g
    unfold insertFile at h
    split at h
    · rcases List.mem_cons.mp h with rfl | h
      · exact .inr ⟨t, List.mem_cons_self⟩
      · exact .inr ⟨f.2, List.mem_cons_of_mem _ h⟩
    · split at h
      · rcases List.mem_cons.mp h with rfl | h
        · exact .inl rfl
        · exact .inr ⟨f.2, h⟩
      · rcases List.mem_cons.mp h with rfl | h
        · exact .inr ⟨t, List.mem_cons_self⟩
        · exact (ih h).imp id fun ⟨t', ht'⟩ => ⟨t', List.mem_cons_of_mem _ ht'⟩

theorem insertFile_ordered {path : Path} {text : String} {fs : List (Path × String)}
    (h : fs.Pairwise fun a b => a.1.lt b.1 = true) :
    (insertFile path text fs).Pairwise fun a b => a.1.lt b.1 = true := by
  induction fs with
  | nil => exact List.pairwise_singleton _ _
  | cons g fs ih =>
    obtain ⟨p, t⟩ := g
    obtain ⟨hfirst, hrest⟩ := List.pairwise_cons.mp h
    unfold insertFile
    split
    · exact List.pairwise_cons.mpr ⟨hfirst, hrest⟩
    · next hsame =>
      split
      · next hlt =>
        refine List.pairwise_cons.mpr ⟨fun f hf => ?_, h⟩
        rcases List.mem_cons.mp hf with rfl | hf
        · exact hlt
        · exact Path.lt_trans hlt (hfirst f hf)
      · next hlt =>
        refine List.pairwise_cons.mpr ⟨fun f hf => ?_, ih hrest⟩
        rcases mem_insertFile hf with rfl | ⟨t', ht'⟩
        · have hne : p.components ≠ path.components := fun heq => hsame (Path.same_iff.mpr heq)
          exact (Component.listLt_or_gt hne).resolve_right hlt
        · exact hfirst (f.1, t') ht'

theorem insert_ordered {s : Store} (h : s.Ordered) (path : Path) (text : String) :
    (s.insert path text).Ordered :=
  insertFile_ordered h

/-- a store after some files are written, one after the other -/
def insertAll (s : Store) (writes : List (Path × String)) : Store :=
  writes.foldl (fun s w => s.insert w.1 w.2) s

theorem insertAll_cons (s : Store) (w : Path × String) (writes : List (Path × String)) :
    s.insertAll (w :: writes) = (s.insert w.1 w.2).insertAll writes := rfl

theorem insertAll_ordered {s : Store} (h : s.Ordered) (writes : List (Path × String)) :
    (s.insertAll writes).Ordered := by
  induction writes generalizing s with
  | nil => exact h
  | cons w writes ih =>
    rw [insertAll_cons]
    exact ih (insert_ordered h w.1 w.2)

theorem ofList_concat (files : List (Path × String)) (f : Path × String) :
    ofList (files ++ [f]) = (ofList files).insert f.1 f.2 := by
  unfold ofList
  rw [List.foldl_append]
  rfl

theorem ofList_ordered (files : List (Path × String)) : (ofList files).Ordered := by
  have hempty : empty.Ordered := .nil
  exact insertAll_ordered hempty files

theorem paths_sorted {s : Store} (h : s.Ordered) : s.paths.Pairwise fun p q => p.lt q = true := by
  unfold paths
  rw [List.pairwise_map]
  exact h

/-! ## look-ups and listings -/

/-- a text put in is seen at its own path and nowhere else -/
theorem get?_insert (s : Store) (path q : Path) (text : String) :
    (s.insert path text).get? q = if path.same q then some text else s.get? q := by
  obtain ⟨fs⟩ := s
  show ((insertFile path text fs).find? fun f => f.1.same q).map Prod.snd = _
  induction fs with
  | nil =>
    show ([(path, text)].find? fun f => f.1.same q).map Prod.snd = _
    by_cases hq : path.same q <;> simp [hq, get?]
  | cons g fs ih =>
    obtain ⟨p, t⟩ := g
    show _ = if path.same q then some text else
      (((p, t) :: fs).find? fun f => f.1.same q).map Prod.snd
    unfold insertFile
    split
    · next hsame =>
      have hq : p.same q = path.same q := by
        unfold Path.same
        rw [Path.same_iff.mp hsame]
      rw [List.find?_cons, List.find?_cons, hq]
      cases path.same q <;> rfl
    · split
      · rw [List.find?_cons]
        cases path.same q <;> rfl
      · next hsame _ =>
        rw [List.find?_cons, List.find?_cons]
        by_cases hp : p.same q = true
        · have hq : path.same q = false := by
            rw [Bool.eq_false_iff]
            intro hq
            exact hsame (Path.same_iff.mpr
              ((Path.same_iff.mp hp).trans (Path.same_iff.mp hq).symm))
          simp [hp, hq]
        · simp only [hp]
          exact ih

/-- a file that a test rejects does not show among those the test lets through -/
theorem filter_paths_insert {test : Path → Bool} (s : Store) {path : Path}
    (hpath : test path = false) (text : String) :
    (s.insert path text).paths.filter test = s.paths.filter test := by
  obtain ⟨fs⟩ := s
  show ((insertFile path text fs).map Prod.fst).filter test = (fs.map Prod.fst).filter test
  induction fs with
  | nil => simp [insertFile, hpath]
  | cons g fs ih =>
    obtain ⟨p, t⟩ := g
    unfold insertFile
    split
    · rfl
    · split
      · rw [List.map_cons, List.filter_cons_of_neg (by simp [hpath])]
      · rw [List.map_cons, List.filter_cons, ih, List.map_cons, List.filter_cons]

/-! ## several writes -/

/-- the last of the texts that are written at a path -/
def lastText (writes : List (Path × String)) (q : Path) : Option String :=
  (writes.filter fun w => w.1.same q).getLast?.map Prod.snd

theorem lastText_isSome_iff {writes : List (Path × String)} {q : Path} :
    (lastText writes q).isSome = true ↔ ∃ w ∈ writes, w.1.same q = true := by
  unfold lastText
  rw [Option.isSome_map, List.getLast?_isSome, Ne, List.filter_eq_nil_iff]
  simp

theorem get?_insertAll (s : Store) (writes : List (Path × String)) (q : Path) :
    (s.insertAll writes).get? q = (lastText writes q).or (s.get? q) := by
  induction writes generalizing s with
  | nil => rfl
  | cons w writes ih =>
    rw [insertAll_cons, ih, get?_insert]
    unfold lastText
    by_cases hw : w.1.same q = true
    · rw [List.filter_cons, if_pos hw, if_pos hw, List.getLast?_cons]
      cases (writes.filter fun w => w.1.same q).getLast? <;> rfl
    · rw [List.filter_cons, if_neg hw, if_neg hw]

/-- paths where nothing is written keep their texts -/
theorem get?_insertAll_of_not_same {writes : List (Path × String)} {q : Path}
    (h : ∀ w ∈ writes, w.1.same q = false) (s : Store) : (s.insertAll writes).get? q = s.get? q := by
  have hnone : lastText writes q = none := by
    rw [← Option.not_isSome_iff_eq_none, lastText_isSome_iff]
    rintro ⟨w, hw, hsame⟩
    rw [h w hw] at hsame
    cases hsame
  rw [get?_insertAll, hnone, Option.none_or]

/-- what is written elsewhere does not matter to a path -/
theorem get?_insertAll_congr {s t : Store} {writes writes' : List (Path × String)} {q : Path}
    (hget : s.get? q = t.get? q)
    (hwrites : writes.filter (fun w => w.1.same q) = writes'.filter fun w => w.1.same q) :
    (s.insertAll writes).get? q = (t.insertAll writes').get? q := by
  rw [get?_insertAll, get?_insertAll, hget, lastText, lastText, hwrites]

theorem isSome_get?_insertAll {writes : List (Path × String)} {w : Path × String} (h : w ∈ writes)
    (s : Store) : ((s.insertAll writes).get? w.1).isSome = true := by
  have hsome : (lastText writes w.1).isSome = true :=
    lastText_isSome_iff.mpr ⟨w, h, Path.same_iff.mpr rfl⟩
  rw [get?_insertAll, Option.isSome_or, hsome, Bool.true_or]

/-! ## writing again -/

theorem get?_of_mem {s : Store} (h : s.Ordered) {f : Path × String} (hf : f ∈ s.files) :
    s.get? f.1 = some f.2 := by
  obtain ⟨fs⟩ := s
  show (fs.find? fun g => g.1.same f.1).map Prod.snd = some f.2
  induction fs with
  | nil => cases hf
  | cons g fs ih =>
    obtain ⟨hfirst, hrest⟩ := List.pairwise_cons.mp h
    rcases List.mem_cons.mp hf with rfl | hf
    · have hself : f.1.same f.1 = true := Path.same_iff.mpr rfl
      rw [List.find?_cons, hself]
      rfl
    · have hne : g.1.same f.1 = false := Path.not_same_of_lt (hfirst f hf)
      rw [List.find?_cons, hne]
      exact ih hrest hf

/-- stores with the same paths and the same look-ups are the same -/
theorem eq_of_get? {s t : Store} (hs : s.Ordered) (ht : t.Ordered) (hpaths : s.paths = t.paths)
    (hget : ∀ p, s.get? p = t.get? p) : s = t := by
  have hfiles : ∀ u : Store, u.Ordered →
      u.files.map (fun f => (f.1, some f.2)) = u.paths.map fun p => (p, u.get? p) := by
    intro u hu
    unfold paths
    rw [List.map_map]
    refine List.map_congr_left fun f hf => ?_
    show (f.1, some f.2) = (f.1, u.get? f.1)
    rw [get?_of_mem hu hf]
  have heq : s.files.map (fun f => (f.1, some f.2)) = t.files.map fun f => (f.1, some f.2) := by
    rw [hfiles s hs, hfiles t ht, hpaths]
    refine List.map_congr_left fun p _ => ?_
    rw [hget p]
  have hinj : ∀ f g : Path × String, (f.1, some f.2) = (g.1, some g.2) → f = g := by
    intro f g hfg
    obtain ⟨hpath, htext⟩ := Prod.mk.inj hfg
    exact Prod.ext hpath (Option.some.inj htext)
  have hsame : s.files = t.files := (List.map_inj_right hinj).mp heq
  cases s
  cases t
  exact congrArg Store.mk hsame

/-- a file that is there keeps its place and the path it has -/
theorem paths_insert_of_get? {s : Store} (h : s.Ordered) {path : Path}
    (hpath : (s.get? path).isSome = true) (text : String) : (s.insert path text).paths = s.paths := by
  obtain ⟨fs⟩ := s
  show (insertFile path text fs).map Prod.fst = fs.map Prod.fst
  unfold get? at hpath
  rw [Option.isSome_map, List.find?_isSome] at hpath
  induction fs with
  | nil =>
    obtain ⟨f, hf, -⟩ := hpath
    cases hf
  | cons g fs ih =>
    obtain ⟨hfirst, hrest⟩ := List.pairwise_cons.mp h
    obtain ⟨f, hf, hsame⟩ := hpath
    unfold insertFile
    split
    · rfl
    · next hne =>
      -- it is one of the files further on, so it does not come before this one
      have hf : f ∈ fs := by
        rcases List.mem_cons.mp hf with rfl | hf
        · exact absurd hsame hne
        · exact hf
      split
      · next hlt =>
        have hbefore : path.same f.1 = false :=
          Path.not_same_of_lt (Path.lt_trans hlt (hfirst f hf))
        rw [Path.same_comm, hsame] at hbefore
        cases hbefore
      · rw [List.map_cons, List.map_cons, ih hrest ⟨f, hf, hsame⟩]

theorem paths_insertAll_of_get? {s : Store} (h : s.Ordered) {writes : List (Path × String)}
    (hw : ∀ w ∈ writes, (s.get? w.1).isSome = true) : (s.insertAll writes).paths = s.paths := by
  induction writes generalizing s with
  | nil => rfl
  | cons w writes ih =>
    obtain ⟨hfirst, hrest⟩ := List.forall_mem_cons.mp hw
    rw [insertAll_cons, ih (insert_ordered h w.1 w.2), paths_insert_of_get? h hfirst]
    intro v hv
    rw [get?_insert]
    split
    · rfl
    · exact hrest v hv

/-- writing the same files again changes nothing, also if a path is written more than once -/
theorem insertAll_insertAll {s : Store} (h : s.Ordered) (writes : List (Path × String)) :
    (s.insertAll writes).insertAll writes = s.insertAll writes := by
  have hordered : (s.insertAll writes).Ordered := insertAll_ordered h writes
  refine eq_of_get? (insertAll_ordered hordered writes) hordered ?_ fun p => ?_
  · exact paths_insertAll_of_get? hordered fun w hw => isSome_get?_insertAll hw s
  · rw [get?_insertAll, get?_insertAll, ← Option.or_assoc, Option.or_self]

end Store

end ResolverTypes
