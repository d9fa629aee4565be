import ResolverTypes.Proofs.Text.Lines
import ResolverTypes.Proofs.Text.Split
import ResolverTypes.Service.Discovery

/-!
# What joined and cut paths mean

All of this is said of components.

* `components_join`: joining appends the steps of a relative path;
* `join_startsWith_or`: a joined path lies below the base or starts at the root;
* `components_dropComponents`, `components_of_relativeTo?`: a path seen from one of its starts has
  the components that are left;
* `suffix_baseName`: what a text ends with, its last component ends with.
-/

namespace ResolverTypes

namespace Path
open Text

theorem startsWith_iff {p base : Path} :
    p.startsWith base = true ↔ ∃ rest, p.components = base.components ++ rest := by
  unfold startsWith
  rw [Option.isSome_iff_exists]
  exact exists_congr fun rest => dropHead?_eq_some_iff

/-! ## pieces -/

/-- the components that the pieces between the slashes of a text stand for -/
def componentsOf : List (List Char) → List Component
  | [] :: x :: rest => .root :: (x :: rest).filterMap step?
  | ['.'] :: rest => .here :: rest.filterMap step?
  | parts => parts.filterMap step?

theorem components_eq (p : Path) : p.components = componentsOf (splitOn '/' p.text.toList) := by
  unfold components pieces
  generalize splitOn '/' p.text.toList = parts
  fun_cases componentsOf parts with
  | case1 x rest => rfl
  | case2 rest => rfl
  | case3 parts hroot hhere =>
    split <;> simp_all

theorem componentsOf_of_step {part : List Char} {rest : List (List Char)} (h : isStep part = true) :
    componentsOf (part :: rest) = (part :: rest).filterMap step? := by
  unfold componentsOf
  split
  · next heq =>
    cases heq
    exact absurd h (by decide)
  · next heq =>
    cases heq
    exact absurd h (by decide)
  · rfl

/-- pieces that follow others, unless these are those of the empty text -/
theorem componentsOf_append {parts : List (List Char)} (h : parts ≠ []) (h' : parts ≠ [[]])
    (more : List (List Char)) :
    componentsOf (parts ++ more) = componentsOf parts ++ more.filterMap step? := by
  cases parts with
  | nil => exact absurd rfl h
  | cons part rest =>
    by_cases hempty : part = []
    · subst hempty
      cases rest with
      | nil => exact absurd rfl h'
      | cons x rest =>
        show Component.root :: (x :: (rest ++ more)).filterMap step? =
          Component.root :: (x :: rest).filterMap step? ++ more.filterMap step?
        rw [← List.cons_append, List.filterMap_append, List.cons_append]
    · by_cases hdot : part = ['.']
      · subst hdot
        simp [componentsOf]
      · have hstep : isStep part = true := by
          unfold isStep step?
          split <;> simp_all
        rw [List.cons_append, componentsOf_of_step hstep, componentsOf_of_step hstep,
          ← List.cons_append, List.filterMap_append]

theorem step?_of_length {cs : List Char} (h : 2 < cs.length) :
    step? cs = some (.name (String.ofList cs)) := by
  unfold step?
  split
  · simp at h
  · simp at h
  · simp at h
  · rfl

/-! ## joining -/

theorem isAbsolute_iff {p : Path} : p.isAbsolute = true ↔ p.text.toList.head? = some '/' := by
  unfold isAbsolute
  split
  · next heq => simp [heq]
  · next hno =>
    refine ⟨nofun, fun h => ?_⟩
    obtain ⟨cs, hcs⟩ := List.head?_eq_some_iff.mp h
    exact absurd hcs (hno cs)

theorem isAbsolute_of_notMem {name : String} (h : '/' ∉ name.toList) :
    isAbsolute ⟨name⟩ = false := by
  rw [Bool.eq_false_iff, Ne, isAbsolute_iff]
  exact fun hhead => h (List.mem_of_mem_head? hhead)

/-- one slash stands between two joined paths, which may be the last character of the first one -/
theorem join_cases {base p : Path} (hb : base.text.toList ≠ []) (hp : p.isAbsolute = false) :
    (∃ cs, base.text.toList = cs ++ ['/'] ∧ (base.join p).text.toList = cs ++ '/' :: p.text.toList) ∨
      (base.join p).text.toList = base.text.toList ++ '/' :: p.text.toList := by
  unfold join
  rw [if_neg (by simp [hp])]
  split
  · next hlast => exact absurd (List.getLast?_eq_none_iff.mp hlast) hb
  · next hlast =>
    obtain ⟨cs, hcs⟩ := List.getLast?_eq_some_iff.mp hlast
    refine .inl ⟨cs, hcs, ?_⟩
    rw [String.toList_append, hcs, List.append_assoc]
    rfl
  · refine .inr ?_
    rw [String.toList_append, String.toList_append, List.append_assoc]
    rfl

theorem components_join {base p : Path} (hb : base.text.toList ≠ []) (hp : p.isAbsolute = false) :
    (base.join p).components =
      base.components ++ (splitOn '/' p.text.toList).filterMap step? := by
  rw [components_eq, components_eq]
  rcases join_cases hb hp with ⟨cs, hcs, hjoin⟩ | hjoin
  · rw [hjoin, hcs, splitOn_append_cons, splitOn_append_cons]
    by_cases hone : splitOn '/' cs = [[]]
    · rw [hone]
      cases hsplit : splitOn '/' p.text.toList with
      | nil => exact absurd hsplit (splitOn_ne_nil _ _)
      | cons part rest => rfl
    · rw [componentsOf_append (splitOn_ne_nil _ _) hone,
        componentsOf_append (splitOn_ne_nil _ _) hone, List.append_assoc]
      rfl
  · rw [hjoin, splitOn_append_cons]
    exact componentsOf_append (splitOn_ne_nil _ _) (fun h => hb (eq_nil_of_splitOn h)) _

theorem head?_of_isAbsolute {p : Path} (h : p.isAbsolute = true) :
    p.components.head? = some .root := by
  obtain ⟨cs, hcs⟩ := List.head?_eq_some_iff.mp (isAbsolute_iff.mp h)
  have hsplit : splitOn '/' p.text.toList = [] :: splitOn '/' cs := by
    rw [hcs]
    exact splitOn_append_cons '/' [] cs
  rw [components_eq, hsplit]
  cases hrest : splitOn '/' cs with
  | nil => exact absurd hrest (splitOn_ne_nil _ _)
  | cons x rest => rfl

/-- a joined path lies below the base or starts at the root -/
theorem join_startsWith_or (base p : Path) :
    (base.join p).startsWith base = true ∨ (base.join p).components.head? = some .root := by
  by_cases habsolute : p.isAbsolute = true
  · have hjoin : base.join p = p := by
      unfold join
      rw [if_pos habsolute]
    rw [hjoin]
    exact .inr (head?_of_isAbsolute habsolute)
  · rw [startsWith_iff]
    by_cases hb : base.text.toList = []
    · have hnil : base.components = [] := by
        rw [components_eq, hb]
        rfl
      exact .inl ⟨_, by rw [hnil, List.nil_append]⟩
    · exact .inl ⟨_, components_join hb (Bool.eq_false_iff.mpr habsolute)⟩

/-- the file of a name in a directory -/
theorem components_join_name (base : Path) {name : String} (hslash : '/' ∉ name.toList)
    (hlen : 2 < name.toList.length) :
    (base.join ⟨name⟩).components = base.components ++ [.name name] := by
  have hstep : step? name.toList = some (.name name) := by
    rw [step?_of_length hlen, String.ofList_toList]
  by_cases hb : base.text.toList = []
  · have hjoin : base.join ⟨name⟩ = ⟨name⟩ := by simp [join, hb]
    rw [hjoin, components_eq, components_eq, hb, splitOn_of_notMem hslash,
      componentsOf_of_step (by simp [isStep, hstep])]
    show [name.toList].filterMap step? = [] ++ [.name name]
    simp [hstep]
  · rw [components_join hb (isAbsolute_of_notMem hslash), splitOn_of_notMem hslash]
    simp [hstep]

/-! ## the last component -/

theorem fileName?_of_components {p : Path} {before : List Component} {name : String}
    (h : p.components = before ++ [.name name]) : p.fileName? = some name := by
  unfold fileName?
  rw [h, List.getLast?_append_cons, List.getLast?_singleton]

theorem components_of_fileName? {p : Path} {name : String} (h : p.fileName? = some name) :
    ∃ before, p.components = before ++ [.name name] := by
  unfold fileName? at h
  split at h
  · next hlast =>
    cases h
    exact List.getLast?_eq_some_iff.mp hlast
  · cases h

/-- the names in a path have no slashes -/
theorem slash_notMem_of_name {p : Path} {name : String} (h : .name name ∈ p.components) :
    '/' ∉ name.toList := by
  have hparts : ∃ part ∈ splitOn '/' p.text.toList, step? part = some (.name name) := by
    rw [components_eq] at h
    generalize splitOn '/' p.text.toList = parts at h ⊢
    fun_cases componentsOf parts with
    | case1 x rest =>
      obtain ⟨part, hpart, hstep⟩ := List.mem_filterMap.mp ((List.mem_cons.mp h).resolve_left nofun)
      exact ⟨part, List.mem_cons_of_mem _ hpart, hstep⟩
    | case2 rest =>
      obtain ⟨part, hpart, hstep⟩ := List.mem_filterMap.mp ((List.mem_cons.mp h).resolve_left nofun)
      exact ⟨part, List.mem_cons_of_mem _ hpart, hstep⟩
    | case3 parts hroot hhere =>
      rw [componentsOf] at h
      · exact List.mem_filterMap.mp h
      · exact hroot
      · exact hhere
  obtain ⟨part, hpart, hstep⟩ := hparts
  have hname : name.toList = part := by
    unfold step? at hstep
    split at hstep
    · cases hstep
    · cases hstep
    · cases hstep
    · cases hstep
      exact String.toList_ofList
  rw [hname]
  exact notMem_of_mem_splitOn hpart

theorem suffix_baseName {p : Path} {ending : List Char} (hslash : '/' ∉ ending)
    (hlen : 2 < ending.length) (h : ending <:+ p.text.toList) : ending <:+ p.baseName.toList := by
  obtain ⟨before, hbefore⟩ := h
  obtain ⟨parts, last, -, hsplit⟩ := splitOn_append_of_notMem before hslash
  have hstep : step? (last ++ ending) = some (.name (String.ofList (last ++ ending))) :=
    step?_of_length (by rw [List.length_append]; omega)
  have hcomponents : ∃ start, p.components = start ++ [.name (String.ofList (last ++ ending))] := by
    rw [components_eq, ← hbefore, hsplit]
    by_cases hnil : parts = []
    · subst hnil
      rw [List.nil_append, componentsOf_of_step (by simp [isStep, hstep])]
      exact ⟨[], by simp [hstep]⟩
    · by_cases hone : parts = [[]]
      · subst hone
        exact ⟨[.root], by simp [componentsOf, hstep]⟩
      · rw [componentsOf_append hnil hone]
        exact ⟨_, by simp [hstep]; rfl⟩
  obtain ⟨start, hstart⟩ := hcomponents
  unfold baseName
  rw [fileName?_of_components hstart, Option.getD_some, String.toList_ofList]
  exact List.suffix_append _ _

theorem suffix_join {base p : Path} {ending : List Char} (h : ending <:+ p.text.toList) :
    ending <:+ (base.join p).text.toList := by
  unfold join
  split
  · exact h
  · split
    · exact h
    · rw [String.toList_append]
      exact h.trans (List.suffix_append _ _)
    · rw [String.toList_append]
      exact h.trans (List.suffix_append _ _)

/-! ## cutting -/

theorem filterMap_dropWhile (parts : List (List Char)) :
    (parts.dropWhile fun x => !isStep x).filterMap step? = parts.filterMap step? := by
  induction parts with
  | nil => rfl
  | cons x rest ih =>
    rw [List.dropWhile_cons]
    by_cases h : isStep x = true
    · simp [h]
    · have hnone : step? x = none := by simpa [isStep] using h
      simp [h, ih, hnone]

theorem filterMap_trimPieces (parts : List (List Char)) :
    (trimPieces parts).filterMap step? = parts.filterMap step? := by
  unfold trimPieces
  rw [List.filterMap_reverse, filterMap_dropWhile, List.filterMap_reverse, List.reverse_reverse]

theorem trimPieces_isPrefix (parts : List (List Char)) : trimPieces parts <+: parts := by
  have h := List.dropWhile_suffix (fun x => !isStep x) (l := parts.reverse)
  simpa [trimPieces] using List.reverse_prefix.mpr h

theorem filterMap_dropSteps (n : Nat) (parts : List (List Char)) :
    (dropSteps n parts).filterMap step? = (parts.filterMap step?).drop n := by
  fun_induction dropSteps n parts with
  | case1 parts => rfl
  | case2 n => rfl
  | case3 n x rest hstep ih =>
    obtain ⟨c, hc⟩ := Option.isSome_iff_exists.mp hstep
    rw [ih, List.filterMap_cons_some hc, List.drop_succ_cons]
  | case4 n x rest hstep ih =>
    have hnone : step? x = none := by simpa [isStep] using hstep
    rw [ih, List.filterMap_cons_none hnone]

theorem dropSteps_suffix (n : Nat) (parts : List (List Char)) : dropSteps n parts <:+ parts := by
  fun_induction dropSteps n parts with
  | case1 parts => exact List.suffix_rfl
  | case2 n => exact List.suffix_rfl
  | case3 n x rest hstep ih => exact ih.trans (List.suffix_cons x rest)
  | case4 n x rest hstep ih => exact ih.trans (List.suffix_cons x rest)

/-- the component that a start stands for -/
def Start.components : Start → List Component
  | .root => [.root]
  | .here => [.here]
  | .none => []

/-- pieces that are read back as they are after a start -/
structure Readable (start : Start) (parts : List (List Char)) : Prop where
  slash : ∀ x ∈ parts, '/' ∉ x
  head : start = .none → ∀ x ∈ parts.head?, isStep x = true

theorem components_ofPieces {start : Start} {parts : List (List Char)} (h : Readable start parts) :
    (ofPieces start parts).components = start.components ++ parts.filterMap step? := by
  cases parts with
  | nil => cases start <;> rfl
  | cons x rest =>
    have hsplit : splitOn '/' (Text.join ['/'] (x :: rest)) = x :: rest :=
      splitOn_join (List.cons_ne_nil x rest) h.slash
    cases start with
    | root =>
      rw [components_eq]
      show componentsOf (splitOn '/' ("/" ++ joinPieces (x :: rest)).toList) = _
      rw [String.toList_append]
      show componentsOf (splitOn '/' ([] ++ '/' :: (joinPieces (x :: rest)).toList)) = _
      rw [splitOn_append_cons, joinPieces, String.toList_ofList, hsplit]
      rfl
    | here =>
      rw [components_eq]
      show componentsOf (splitOn '/' ("./" ++ joinPieces (x :: rest)).toList) = _
      rw [String.toList_append]
      show componentsOf (splitOn '/' (['.'] ++ '/' :: (joinPieces (x :: rest)).toList)) = _
      rw [splitOn_append_cons, joinPieces, String.toList_ofList, hsplit]
      rfl
    | none =>
      rw [components_eq]
      show componentsOf (splitOn '/' (joinPieces (x :: rest)).toList) = _
      rw [joinPieces, String.toList_ofList, hsplit, componentsOf_of_step (h.head rfl x rfl)]
      rfl

theorem components_of_pieces {p : Path} {start : Start} {parts : List (List Char)}
    (h : p.pieces = (start, parts)) :
    p.components = start.components ++ parts.filterMap step? := by
  unfold components
  rw [h]
  cases start <;> rfl

theorem step?_ne_root (piece : List Char) : step? piece ≠ some .root := by
  unfold step?
  split <;> nofun

/-- the root is no step inside a path -/
theorem root_notMem_tail (p : Path) : .root ∉ p.components.tail := by
  obtain ⟨start, parts, hp⟩ : ∃ start parts, p.pieces = (start, parts) := ⟨_, _, rfl⟩
  have hsteps : .root ∉ parts.filterMap step? := by
    intro h
    obtain ⟨piece, -, hpiece⟩ := List.mem_filterMap.mp h
    exact step?_ne_root piece hpiece
  rw [components_of_pieces hp]
  cases start with
  | root => exact hsteps
  | here => exact hsteps
  | none => exact fun h => hsteps (List.mem_of_mem_tail h)

theorem slash_notMem_of_pieces {p : Path} {start : Start} {parts : List (List Char)}
    (h : p.pieces = (start, parts)) {x : List Char} (hx : x ∈ parts) : '/' ∉ x := by
  unfold pieces at h
  split at h
  · next hsplit =>
    cases h
    exact notMem_of_mem_splitOn (hsplit ▸ List.mem_cons_of_mem _ hx)
  · next hsplit =>
    cases h
    exact notMem_of_mem_splitOn (hsplit ▸ List.mem_cons_of_mem _ hx)
  · cases h
    exact notMem_of_mem_splitOn hx

theorem readable_trimPieces {p : Path} {start : Start} {parts : List (List Char)}
    (h : p.pieces = (start, parts)) : Readable start (trimPieces parts) := by
  refine ⟨fun x hx => slash_notMem_of_pieces h ((trimPieces_isPrefix parts).subset hx), ?_⟩
  unfold pieces at h
  split at h
  · cases h
    nofun
  · cases h
    nofun
  · next hroot hhere =>
    cases h
    intro _ x hx
    obtain ⟨rest, hrest⟩ := List.head?_eq_some_iff.mp hx
    obtain ⟨more, hmore⟩ := trimPieces_isPrefix (splitOn '/' p.text.toList)
    rw [hrest, List.cons_append] at hmore
    -- the first piece is a step, unless it is all there is to an empty text
    have hempty : x ≠ [] := by
      rintro rfl
      cases hall' : rest ++ more with
      | nil =>
        rw [← hmore, hall'] at hrest
        cases hrest
      | cons y ys => exact hroot y ys (by rw [← hmore, hall'])
    have hdot : x ≠ ['.'] := by
      rintro rfl
      exact hhere _ hmore.symm
    unfold isStep step?
    split <;> simp_all

/-- without its first components, a path has the others -/
theorem components_dropComponents (n : Nat) (p : Path) :
    (p.dropComponents n).components = p.components.drop n := by
  obtain ⟨start, parts, hp⟩ : ∃ start parts, p.pieces = (start, parts) := ⟨_, _, rfl⟩
  have hread := readable_trimPieces hp
  rw [components_of_pieces hp]
  unfold dropComponents
  cases n with
  | zero =>
    simp only [hp, List.drop_zero]
    rw [components_ofPieces hread, filterMap_trimPieces]
  | succ n =>
    simp only [hp]
    generalize hk : (if start = .none then n + 1 else n) = k
    have hsub : (dropSteps k parts).dropWhile (fun x => !isStep x) ⊆ parts := fun x hx =>
      (dropSteps_suffix k parts).subset ((List.dropWhile_suffix _).subset hx)
    have hread : Readable .none
        (trimPieces ((dropSteps k parts).dropWhile fun x => !isStep x)) := by
      refine ⟨fun x hx => slash_notMem_of_pieces hp (hsub ((trimPieces_isPrefix _).subset hx)), ?_⟩
      intro _ x hx
      obtain ⟨rest, hrest⟩ := List.head?_eq_some_iff.mp hx
      obtain ⟨more, hmore⟩ := trimPieces_isPrefix ((dropSteps k parts).dropWhile fun x => !isStep x)
      have hhead := List.head?_dropWhile_not (fun x => !isStep x) (dropSteps k parts)
      rw [← hmore, hrest] at hhead
      simpa using hhead
    show (ofPieces .none _).components = _
    rw [components_ofPieces hread, filterMap_trimPieces, filterMap_dropWhile, filterMap_dropSteps,
      ← hk]
    cases start <;> rfl

theorem components_of_relativeTo? {p base r : Path} (h : p.relativeTo? base = some r) :
    p.components = base.components ++ r.components := by
  unfold relativeTo? at h
  split at h
  · next hstart =>
    cases h
    obtain ⟨rest, hp⟩ := startsWith_iff.mp hstart
    rw [components_dropComponents, hp, List.drop_left]
  · cases h

end Path

end ResolverTypes
