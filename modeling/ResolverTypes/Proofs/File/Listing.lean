import ResolverTypes.Proofs.File.Walk

/-!
# The services on a growing disk

* `Disk.services_grown`: a directory that is there keeps its services;
* `Disk.services_of_missing`: without `..`, a directory that is not there gets no services;
* `Disk.load_grown`: the services that are found in a directory keep their texts.
-/

namespace ResolverTypes
open Text

/-! ## sorting -/

theorem append_eq_append_of_cut {α : Type} {test : α → Bool} {a b a' b' : List α}
    (h : a ++ b = a' ++ b') (ha : ∀ x ∈ a, test x = true) (hb : ∀ x ∈ b, test x = false)
    (ha' : ∀ x ∈ a', test x = true) (hb' : ∀ x ∈ b', test x = false) : a = a' ∧ b = b' := by
  have hcut : ∀ {u v : List α}, (∀ x ∈ u, test x = true) → (∀ x ∈ v, test x = false) →
      (u ++ v).filter test = u := by
    intro u v hu hv
    rw [List.filter_append, List.filter_eq_self.mpr hu,
      List.filter_eq_nil_iff.mpr fun x hx => by rw [hv x hx]; decide, List.append_nil]
  have haa : a = a' := by rw [← hcut ha hb, h, hcut ha' hb']
  subst haa
  exact ⟨rfl, List.append_cancel_left h⟩

/-- keeping some elements and sorting can be done in either order -/
theorem filter_mergeSort {α : Type} {le : α → α → Bool}
    (trans : ∀ a b c, le a b = true → le b c = true → le a c = true)
    (total : ∀ a b, (le a b || le b a) = true) (keep : α → Bool) (l : List α) :
    (l.mergeSort le).filter keep = (l.filter keep).mergeSort le := by
  induction l with
  | nil => simp
  | cons a l ih =>
    -- an element goes between those that are not above it and the others, in both lists
    have hcut := fun l => List.mergeSort_cons trans total a l
    have habove : ∀ {l l₁ l₂ : List α}, (a :: l).mergeSort le = l₁ ++ a :: l₂ →
        ∀ b ∈ l₂, (!le a b) = false := by
      intro l l₁ l₂ hsort b hb
      have hsorted := List.pairwise_mergeSort trans total (a :: l)
      rw [hsort] at hsorted
      rw [(List.pairwise_cons.mp (List.pairwise_append.mp hsorted).2.1).1 b hb]
      rfl
    obtain ⟨l₁, l₂, hsort, hrest, hbelow⟩ := hcut l
    rw [hrest, List.filter_append] at ih
    by_cases ha : keep a = true
    · obtain ⟨m₁, m₂, hsort', hrest', hbelow'⟩ := hcut (l.filter keep)
      rw [hrest'] at ih
      obtain ⟨h₁, h₂⟩ := append_eq_append_of_cut ih
        (fun b hb => hbelow b (List.mem_filter.mp hb).1)
        (fun b hb => habove hsort b (List.mem_filter.mp hb).1) hbelow' (habove hsort')
      rw [hsort, List.filter_append, List.filter_cons_of_pos ha, List.filter_cons_of_pos ha, hsort',
        h₁, h₂]
    · rw [hsort, List.filter_append, List.filter_cons_of_neg ha, List.filter_cons_of_neg ha, ih]

theorem Path.not_lt_trans (p q r : Path) (hpq : (!q.lt p) = true) (hqr : (!r.lt q) = true) :
    (!r.lt p) = true := by
  rw [Bool.not_eq_true', Bool.eq_false_iff] at *
  intro hrp
  by_cases hsame : q.components = p.components
  · refine hqr ?_
    unfold Path.lt at hrp ⊢
    rwa [hsame]
  · rcases Component.listLt_or_gt hsame with hqp | hpq'
    · exact hpq hqp
    · exact hqr (Path.lt_trans hrp hpq')

theorem Path.not_lt_total (p q : Path) : (!q.lt p || !p.lt q) = true := by
  rw [Bool.or_eq_true, Bool.not_eq_true', Bool.not_eq_true', Bool.eq_false_iff, Bool.eq_false_iff]
  by_cases hpq : p.lt q = true
  · refine .inl fun hqp => ?_
    have := Path.lt_trans hpq hqp
    unfold Path.lt at this
    rw [Component.listLt_irrefl] at this
    cases this
  · exact .inr hpq

namespace Disk
open Node (GrownAt)

variable {d d' : Disk}

/-! ## services in a directory -/

theorem services_of_directory {dir : Path} {es : List (String × Node)}
    (h : d.find dir = .ok (.directory es)) :
    servicesAmong (d.filesBelow dir) =
      (servicesAmong (Listing.visit [(dir, es)] [])).mergeSort fun a b => !b.lt a := by
  unfold filesBelow
  rw [h]
  exact filter_mergeSort Path.not_lt_trans Path.not_lt_total _ _

theorem filesBelow_eq_nil {dir : Path} (h : ∀ es, d.find dir ≠ .ok (.directory es)) :
    d.filesBelow dir = [] := by
  unfold filesBelow
  split
  · next es hes => exact absurd hes (h es)
  · rfl

/-- what a grown disk has at a path that leads somewhere -/
theorem find_grown (h : Grown d d') {p : Path} {n : Node} (hn : d.find p = .ok n) :
    ∃ n' name, d'.find p = .ok n' ∧ GrownAt name (some n) (some n') := by
  obtain ⟨hcheck, hne, q, hleads, hat⟩ := find_eq_ok_iff.mp hn
  obtain ⟨n', hat'⟩ := h.isSome hat
  have hgrown := h.at? q
  rw [hat, hat'] at hgrown
  refine ⟨n', _, find_eq_ok_iff.mpr ⟨hcheck, hne, q, ?_, hat'⟩, hgrown⟩
  rw [h.start p]
  exact hleads.grown h

/-- a directory that is there keeps its services -/
theorem services_grown (h : Grown d d') {dir : Path} {n : Node} (hn : d.find dir = .ok n) :
    servicesAmong (d'.filesBelow dir) = servicesAmong (d.filesBelow dir) := by
  obtain ⟨n', name, hn', hgrown⟩ := find_grown h hn
  cases hgrown with
  | file _ =>
    rw [filesBelow_eq_nil (by simp [hn']), filesBelow_eq_nil (by simp [hn])]
  | directory hes =>
    rw [services_of_directory hn, services_of_directory hn',
      Listing.visit_grown (.cons hes .nil) rfl]

/-- a directory that is not there gets no services, unless its path leads upwards -/
theorem services_of_missing (h : Grown d d') {dir : Path} (hdir : ∀ n, d.find dir ≠ .ok n)
    (hup : ".." ∉ piecesOf dir) : servicesAmong (d'.filesBelow dir) = [] := by
  by_cases hes : ∃ es', d'.find dir = .ok (.directory es')
  · obtain ⟨es', hes'⟩ := hes
    obtain ⟨hcheck, hne, q, hleads, hat'⟩ := find_eq_ok_iff.mp hes'
    rw [h.start] at hleads
    have hgone : d.root.at? q = none := by
      by_cases hthere : ∃ r, d.Leads (d.start dir) (piecesOf dir) r
      · obtain ⟨r, hr⟩ := hthere
        have hrq : r = q := Except.ok.inj ((hr.grown h).walk.symm.trans hleads.walk)
        subst hrq
        cases hat : d.root.at? r with
        | none => rfl
        | some n => exact absurd (find_eq_ok_iff.mpr ⟨hcheck, hne, r, hr, hat⟩) (hdir n)
      · exact hleads.at?_of_missing h hup fun r hr => hthere ⟨r, hr⟩
    rcases h.was_directory hat' with ⟨es, hes, -⟩ | ⟨-, hnew⟩
    · rw [hgone] at hes
      cases hes
    · have hpending : Listing.PendingGrown [] [(dir, es')] := .new hnew .nil
      rw [services_of_directory hes', Listing.visit_grown hpending rfl, Listing.visit]
      exact List.mergeSort_nil
  · rw [filesBelow_eq_nil fun es' hes' => hes ⟨es', hes'⟩]
    rfl

/-! ## the paths of a listing -/

section
variable {base : Path} {name : String} (hbase : base.text ≠ "") (hname : '/' ∉ name.toList)
include hbase hname

theorem join_name_cases :
    (∃ cs, base.text.toList = cs ++ ['/'] ∧
        (base.join ⟨name⟩).text.toList = cs ++ '/' :: name.toList) ∨
      (base.join ⟨name⟩).text.toList = base.text.toList ++ '/' :: name.toList :=
  Path.join_cases (fun h => hbase (String.toList_eq_nil_iff.mp h)) (Path.isAbsolute_of_notMem hname)

/-- the pieces of a file in a directory; a slash at the end of the directory is not doubled -/
theorem piecesOf_join :
    piecesOf (base.join ⟨name⟩) = piecesOf base ++ [name] ∨
      ∃ before, piecesOf base = before ++ [""] ∧ piecesOf (base.join ⟨name⟩) = before ++ [name] := by
  have hlast : (splitOn '/' name.toList).map String.ofList = [name] := by
    rw [splitOn_of_notMem hname, List.map_singleton, String.ofList_toList]
  unfold piecesOf
  rcases join_name_cases hbase hname with ⟨cs, hcs, hjoin⟩ | hjoin
  · refine .inr ⟨(splitOn '/' cs).map String.ofList, ?_, ?_⟩
    · rw [hcs, splitOn_append_cons, List.map_append]
      rfl
    · rw [hjoin, splitOn_append_cons, List.map_append, hlast]
  · rw [hjoin, splitOn_append_cons, List.map_append, hlast]
    exact .inl rfl

theorem start_join (d : Disk) : d.start (base.join ⟨name⟩) = d.start base := by
  have habsolute : (base.join ⟨name⟩).isAbsolute = base.isAbsolute := by
    rw [Bool.eq_iff_iff, Path.isAbsolute_iff, Path.isAbsolute_iff]
    rcases join_name_cases hbase hname with ⟨cs, hcs, hjoin⟩ | hjoin
    · rw [hjoin, hcs]
      cases cs <;> rfl
    · rw [hjoin, List.head?_append_of_ne_nil _ fun h => hbase (String.toList_eq_nil_iff.mp h)]
  unfold Disk.start
  rw [habsolute]

theorem text_join_ne : (base.join ⟨name⟩).text ≠ "" := by
  intro h
  rcases join_name_cases hbase hname with ⟨cs, hcs, hjoin⟩ | hjoin
  · simp [h] at hjoin
  · simp [h] at hjoin

end

theorem eq_of_leads_blank {place q : List String} {piece : String}
    (h : d.Leads place [piece] q) (hblank : (piece == "" || piece == ".") = true) : q = place := by
  cases h with
  | blank _ _ hrest =>
    cases hrest
    rfl
  | up _ _ => cases hblank
  | name _ hno _ _ _ _ => exact absurd hblank hno

/-- a file in a directory is one step below it -/
theorem leads_join_iff {base : Path} (hbase : base.text ≠ "") {name : String}
    (hname : isFileName name = true) {r : List String} :
    d.Leads (d.start (base.join ⟨name⟩)) (piecesOf (base.join ⟨name⟩)) r ↔
      ∃ q, d.Leads (d.start base) (piecesOf base) q ∧ d.Leads q [name] r := by
  have hslash := (isFileName_iff.mp hname).2.1
  rw [start_join hbase hslash]
  rcases piecesOf_join hbase hslash with hjoin | ⟨before, hbefore, hjoin⟩
  · rw [hjoin, leads_append_iff]
  · rw [hjoin, hbefore, leads_append_iff]
    constructor
    · rintro ⟨q, hq, hr⟩
      refine ⟨q, leads_append_iff.mpr ⟨q, hq, ?_⟩, hr⟩
      cases hr with
      | blank hes _ _ => exact .blank hes rfl .done
      | up hes _ => exact .blank hes rfl .done
      | name hes _ _ _ _ _ => exact .blank hes rfl .done
    · rintro ⟨q, hq, hr⟩
      obtain ⟨m, hm, hmq⟩ := leads_append_iff.mp hq
      rw [eq_of_leads_blank hmq rfl] at hr
      exact ⟨m, hm, hr⟩

/-- the path of some names below a directory -/
def below (dir : Path) (names : List String) : Path := names.foldl (fun p name => p.join ⟨name⟩) dir

section
variable {dir : Path} {names : List String}

theorem text_below_ne (hdir : dir.text ≠ "") (hnames : ∀ name ∈ names, isFileName name = true) :
    (below dir names).text ≠ "" := by
  induction names generalizing dir with
  | nil => exact hdir
  | cons name names ih =>
    have hslash := (isFileName_iff.mp (hnames name List.mem_cons_self)).2.1
    exact ih (text_join_ne hdir hslash) fun k hk => hnames k (List.mem_cons_of_mem _ hk)

theorem leads_below_iff (hdir : dir.text ≠ "") (hnames : ∀ name ∈ names, isFileName name = true)
    {r : List String} :
    d.Leads (d.start (below dir names)) (piecesOf (below dir names)) r ↔
      ∃ q, d.Leads (d.start dir) (piecesOf dir) q ∧ d.Leads q names r := by
  induction names generalizing dir with
  | nil =>
    constructor
    · exact fun h => ⟨r, h, .done⟩
    · rintro ⟨q, hq, hr⟩
      cases hr
      exact hq
  | cons name names ih =>
    have hname := hnames name List.mem_cons_self
    have hbelow := ih (text_join_ne hdir (isFileName_iff.mp hname).2.1)
      fun k hk => hnames k (List.mem_cons_of_mem _ hk)
    refine hbelow.trans ⟨?_, ?_⟩
    · rintro ⟨m, hm, hr⟩
      obtain ⟨q, hq, hqm⟩ := (leads_join_iff hdir hname).mp hm
      have hqr : d.Leads q ([name] ++ names) r := leads_append_iff.mpr ⟨m, hqm, hr⟩
      exact ⟨q, hq, hqr⟩
    · rintro ⟨q, hq, hqr⟩
      rw [← List.singleton_append] at hqr
      obtain ⟨m, hqm, hr⟩ := leads_append_iff.mp hqr
      exact ⟨m, (leads_join_iff hdir hname).mpr ⟨q, hq, hqm⟩, hr⟩

theorem Leads.eq_append {place q : List String} (h : d.Leads place names q)
    (hnames : ∀ name ∈ names, isFileName name = true) : q = place ++ names := by
  induction h with
  | done => rw [List.append_nil]
  | @blank _ _ piece _ _ _ hblank _ _ =>
    obtain ⟨-, -, hne, hdot, -⟩ := isFileName_iff.mp (hnames piece List.mem_cons_self)
    simp [hne, hdot] at hblank
  | up _ _ _ =>
    have hup := hnames ".." List.mem_cons_self
    cases hup
  | name _ _ _ _ _ _ ih =>
    rw [ih fun k hk => hnames k (List.mem_cons_of_mem _ hk), List.append_assoc]
    rfl

theorem leads_of_at? {place : List String} {n : Node} (h : d.root.at? (place ++ names) = some n)
    (hnames : ∀ name ∈ names, isFileName name = true) : d.Leads place names (place ++ names) := by
  induction names generalizing place with
  | nil =>
    rw [List.append_nil]
    exact .done
  | cons name names ih =>
    obtain ⟨hlimit, -, hne, hdot, hup⟩ := isFileName_iff.mp (hnames name List.mem_cons_self)
    rw [← List.singleton_append, ← List.append_assoc] at h ⊢
    have hrest := ih h fun k hk => hnames k (List.mem_cons_of_mem _ hk)
    rw [Node.at?_append] at h
    obtain ⟨m, hm, -⟩ := Option.bind_eq_some_iff.mp h
    have hplace := hm
    rw [Node.at?_append] at hplace
    obtain ⟨outer, houter, hinner⟩ := Option.bind_eq_some_iff.mp hplace
    cases outer with
    | file content => cases hinner
    | directory es => exact .name houter (by simp [hne, hdot]) hup hlimit hm hrest

/-- the node at some names below a directory -/
theorem find_below_iff {place : List String} (hplace : d.Leads (d.start dir) (piecesOf dir) place)
    (hdir : dir.text ≠ "") (hnames : ∀ name ∈ names, isFileName name = true) {n : Node} :
    d.find (below dir names) = .ok n ↔
      checkText (below dir names) = .ok () ∧ d.root.at? (place ++ names) = some n := by
  rw [find_eq_ok_iff]
  constructor
  · rintro ⟨hcheck, -, q, hq, hat⟩
    obtain ⟨r, hr, hrq⟩ := (leads_below_iff hdir hnames).mp hq
    have hsame : r = place := Except.ok.inj (hr.walk.symm.trans hplace.walk)
    rw [hrq.eq_append hnames, hsame] at hat
    exact ⟨hcheck, hat⟩
  · rintro ⟨hcheck, hat⟩
    exact ⟨hcheck, text_below_ne hdir hnames, _,
      (leads_below_iff hdir hnames).mpr ⟨place, hplace, leads_of_at? hat hnames⟩, hat⟩

end

/-! ## the texts of services -/

theorem mem_directories {dir p : Path} {es inner : List (String × Node)}
    (h : (p, inner) ∈ Listing.directories dir es) :
    ∃ name, (name, .directory inner) ∈ es ∧ p = dir.join ⟨name⟩ := by
  unfold Listing.directories at h
  obtain ⟨⟨name, n⟩, hmem, hsome⟩ := List.mem_filterMap.mp h
  cases n with
  | file content => cases hsome
  | directory es' =>
    dsimp only at hsome
    split at hsome
    · cases hsome
    · cases hsome
      exact ⟨name, hmem, rfl⟩

theorem mem_regularFiles {dir p : Path} {es : List (String × Node)}
    (h : p ∈ Listing.regularFiles dir es) :
    ∃ name content, (name, .file content) ∈ es ∧ p = dir.join ⟨name⟩ := by
  unfold Listing.regularFiles at h
  obtain ⟨⟨name, n⟩, hmem, hsome⟩ := List.mem_filterMap.mp h
  cases n with
  | directory es' => cases hsome
  | file content =>
    cases hsome
    exact ⟨name, content, hmem, rfl⟩

/-- a path of names of files below a directory, with the last name apart -/
def IsBelow (dir p : Path) : Prop :=
  ∃ names name, (∀ k ∈ names ++ [name], isFileName k = true) ∧ p = below dir (names ++ [name])

theorem join_below (dir : Path) (names : List String) (name : String) :
    (below dir names).join ⟨name⟩ = below dir (names ++ [name]) := by
  unfold below
  rw [List.foldl_append]
  rfl

theorem isBelow_of_mem_visit {top : Path} {pending : List (Path × List (String × Node))}
    {found : List Path}
    (hpending : ∀ w ∈ pending, Node.areWellNamed w.2 = true ∧
      ∃ names, (∀ k ∈ names, isFileName k = true) ∧ w.1 = below top names)
    (hfound : ∀ p ∈ found, IsBelow top p) :
    ∀ p ∈ Listing.visit pending found, IsBelow top p := by
  induction pending, found using Listing.visit.induct with
  | case1 found =>
    rw [Listing.visit]
    exact hfound
  | case2 dir es rest found hcheck ih =>
    rw [Listing.visit, if_pos hcheck]
    obtain ⟨hes, names, hnames, hdir⟩ := hpending (dir, es) List.mem_cons_self
    dsimp only at hes hdir
    have hvalid : ∀ {name}, isFileName name = true → ∀ k ∈ names ++ [name], isFileName k = true := by
      intro name hname k hk
      rcases List.mem_append.mp hk with hk | hk
      · exact hnames k hk
      · rw [List.mem_singleton.mp hk]
        exact hname
    refine ih (fun w hw => ?_) (fun p hp => ?_)
    · rcases List.mem_append.mp hw with hw | hw
      · obtain ⟨name, hmem, hpath⟩ := mem_directories (List.mem_reverse.mp hw)
        obtain ⟨hname, hinner⟩ := Node.areWellNamed_iff.mp hes _ hmem
        refine ⟨hinner, names ++ [name], hvalid hname, ?_⟩
        rw [hpath, hdir, join_below]
      · exact hpending w (List.mem_cons_of_mem _ hw)
    · rcases List.mem_append.mp hp with hp | hp
      · exact hfound p hp
      · obtain ⟨name, content, hmem, hpath⟩ := mem_regularFiles hp
        refine ⟨names, name, hvalid (Node.areWellNamed_iff.mp hes _ hmem).1, ?_⟩
        rw [hpath, hdir, join_below]
  | case3 dir es rest found hcheck ih =>
    rw [Listing.visit, if_neg hcheck]
    exact ih (fun w hw => hpending w (List.mem_cons_of_mem _ hw)) hfound

theorem isBelow_of_mem_filesBelow (hd : d.root.isWellNamed = true) {dir p : Path}
    (hp : p ∈ d.filesBelow dir) : (∃ es, d.find dir = .ok (.directory es)) ∧ IsBelow dir p := by
  have hes : ∃ es, d.find dir = .ok (.directory es) := by
    refine Classical.byContradiction fun hno => ?_
    rw [filesBelow_eq_nil fun es hes => hno ⟨es, hes⟩] at hp
    cases hp
  refine ⟨hes, ?_⟩
  obtain ⟨es, hes⟩ := hes
  obtain ⟨-, -, q, -, hat⟩ := find_eq_ok_iff.mp hes
  unfold filesBelow at hp
  rw [hes] at hp
  refine isBelow_of_mem_visit (fun w hw => ?_) (fun q hq => absurd hq List.not_mem_nil) p
    (List.mem_mergeSort.mp hp)
  rw [List.mem_singleton.mp hw]
  exact ⟨Node.isWellNamed_of_at? hd hat, [], nofun, rfl⟩

/-- files that are no declarations stay as they are -/
theorem Grown.file_iff (h : Grown d d') {place : List String}
    (hplace : ¬IsDeclaration (place.getLastD "")) {content : ByteArray} :
    d'.root.at? place = some (.file content) ↔ d.root.at? place = some (.file content) := by
  have hgrown := h.at? place
  generalize d.root.at? place = n at hgrown ⊢
  generalize d'.root.at? place = n' at hgrown ⊢
  cases hgrown with
  | none => exact Iff.rfl
  | newFile _ hdecl => exact absurd hdecl hplace
  | newDirectory _ _ => exact ⟨nofun, nofun⟩
  | file hsame => rw [hsame.resolve_right hplace]
  | directory _ => exact ⟨nofun, nofun⟩

/-- the services that are found in a directory keep their texts -/
theorem load_grown (h : Grown d d') (hd : d.root.isWellNamed = true) {dir p : Path}
    (hp : p ∈ servicesAmong (d.filesBelow dir)) :
    (d'.load p).toOption = (d.load p).toOption := by
  obtain ⟨hlisted, hservice⟩ := List.mem_filter.mp hp
  obtain ⟨⟨es, hes⟩, names, name, hnames, rfl⟩ := isBelow_of_mem_filesBelow hd hlisted
  obtain ⟨-, hne, q, hleads, -⟩ := find_eq_ok_iff.mp hes
  have hleads' : d'.Leads (d'.start dir) (piecesOf dir) q := by
    rw [h.start]
    exact hleads.grown h
  have hlast : ¬IsDeclaration ((q ++ (names ++ [name])).getLastD "") := by
    rw [← List.append_assoc, List.getLastD_concat]
    intro hdecl
    rw [← join_below, (hdecl.join (below dir names)).baseName.not_isServiceFile] at hservice
    cases hservice
  refine Option.ext fun text => ?_
  rw [load_eq_some_iff, load_eq_some_iff]
  refine exists_congr fun content => and_congr_left' ?_
  rw [find_below_iff hleads' hne hnames, find_below_iff hleads hne hnames, h.file_iff hlast]

end Disk

end ResolverTypes
