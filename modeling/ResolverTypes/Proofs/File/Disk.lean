import ResolverTypes.Proofs.File.Tree
import ResolverTypes.Proofs.Outcome

/-!
# Disks that grow

Directories are made and declarations are written at places that a path leads to, so a disk only
grows while a run writes to it (`Disk.write_grown`).  Its names stay names of files, whatever is
written (`Disk.write_isWellNamed`).
-/

namespace ResolverTypes

namespace Disk
open Text
open Node (GrownAt)

/-- a disk after some declarations and directories are added -/
structure Grown (d d' : Disk) : Prop where
  root : GrownAt "" (some d.root) (some d'.root)
  workingDirectory : d'.workingDirectory = d.workingDirectory

theorem Grown.refl (d : Disk) : Grown d d := ⟨GrownAt.refl "" d.root, rfl⟩

theorem Grown.trans {d d' d'' : Disk} (h : Grown d d') (h' : Grown d' d'') : Grown d d'' :=
  ⟨h.root.trans h'.root, h'.workingDirectory.trans h.workingDirectory⟩

theorem Grown.start {d d' : Disk} (h : Grown d d') (p : Path) : d'.start p = d.start p := by
  unfold Disk.start
  rw [h.workingDirectory]

theorem Grown.isWellNamed {d d' : Disk} (h : Grown d d') (hd : d.root.isWellNamed = true) :
    d'.root.isWellNamed = true := by
  obtain ⟨root, -⟩ := h
  generalize d.root = n at root hd
  generalize d'.root = n' at root ⊢
  cases root with
  | file _ => rfl
  | directory hes => exact hes.areWellNamed hd

/-! ## changes -/

theorem put_grown {d : Disk} {place : List String} {es : List (String × Node)} {key : String}
    {new : Node} (hplace : d.root.at? place = some (.directory es))
    (hnew : GrownAt key (d.root.at? (place ++ [key])) (some new)) :
    Grown d (d.put (place ++ [key]) new) := by
  rw [Node.at?_append, hplace, Option.bind_some, Node.at?_directory_cons] at hnew
  have hlookup : (Table.lookupEntry key es).bind (·.at? []) = Table.lookupEntry key es :=
    Option.bind_fun_some _
  rw [hlookup] at hnew
  exact ⟨Node.put_grown hplace hnew "", rfl⟩

theorem piecesOf_of_declaration {p : Path} (h : IsDeclaration p.text) :
    ∃ before last, piecesOf p = before ++ [last] ∧ IsDeclaration last := by
  obtain ⟨head, hhead⟩ := h
  have hslash : '/' ∉ ".d.ts".toList := by decide
  obtain ⟨parts, last, -, hsplit⟩ := splitOn_append_of_notMem head hslash
  refine ⟨parts.map String.ofList, String.ofList (last ++ ".d.ts".toList), ?_, ?_⟩
  · rw [piecesOf, ← hhead, hsplit, List.map_append]
    rfl
  · have hlast : (String.ofList (last ++ ".d.ts".toList)).toList = last ++ ".d.ts".toList :=
      String.toList_ofList
    unfold IsDeclaration
    rw [hlast]
    exact List.suffix_append _ _

/-- where a path leads to a place that can be written -/
structure IsTarget (d : Disk) (p : Path) (place : List String) (name : String) : Prop where
  isDirectory : ∃ es, d.root.at? place = some (.directory es)
  isFileName : name ≠ "." → name ≠ ".." → isFileName name = true
  isDeclaration : IsDeclaration p.text → IsDeclaration name

theorem isTarget_of_target {d : Disk} {p : Path} {place : List String} {name : String}
    (h : d.target p = .ok (place, name)) : IsTarget d p place name := by
  unfold target at h
  obtain ⟨-, -, h⟩ := ok_of_bind h
  split at h
  · split at h <;> cases h
  · next last before hpieces =>
    obtain ⟨q, -, h⟩ := ok_of_bind h
    split at h
    · next es hat =>
      dsimp only at h
      split at h
      · cases h
      next hlimit =>
      cases h
      have hlast : name ∈ piecesOf p := by
        rw [← List.mem_reverse]
        exact (List.dropWhile_sublist _).subset (hpieces ▸ List.mem_cons_self)
      refine ⟨⟨es, hat⟩, fun hdot hup => isFileName_iff.mpr ⟨?_, ?_, ?_, hdot, hup⟩, fun hdecl => ?_⟩
      · exact Nat.not_lt.mp hlimit
      · obtain ⟨part, hpart, rfl⟩ := List.mem_map.mp hlast
        rw [String.toList_ofList]
        exact notMem_of_mem_splitOn hpart
      · have hhead := List.head?_dropWhile_not (·.isEmpty) (piecesOf p).reverse
        rw [hpieces] at hhead
        rintro rfl
        cases hhead
      · obtain ⟨front, final, hfinal, hdecl⟩ := piecesOf_of_declaration hdecl
        have hne : final.isEmpty = false := by
          rw [Bool.eq_false_iff, Ne, String.isEmpty_iff]
          exact hdecl.ne_empty
        rw [hfinal, List.reverse_append, List.reverse_singleton, List.singleton_append,
          List.dropWhile_cons, hne] at hpieces
        cases hpieces
        exact hdecl
    · cases h
    · cases h

theorem makeDirectory_grown {d d' : Disk} {p : Path} (h : d.makeDirectory p = .ok d') :
    Grown d d' := by
  unfold makeDirectory at h
  obtain ⟨⟨place, name⟩, htarget, h⟩ := ok_of_bind h
  obtain ⟨⟨es, hplace⟩, hname, -⟩ := isTarget_of_target htarget
  dsimp only at h
  split at h
  · cases h
  · next hnot =>
    cases h
    simp only [Bool.or_eq_true, beq_iff_eq, not_or, Bool.not_eq_true, Option.isSome_eq_false_iff,
      Option.isNone_iff_eq_none] at hnot
    refine put_grown hplace ?_
    rw [hnot.2]
    exact .newDirectory (hname hnot.1.1 hnot.1.2) .nil

theorem ensureDirectory_grown {d d' : Disk} {p : Path} (h : d.ensureDirectory p = .ok d') :
    Grown d d' := by
  unfold ensureDirectory at h
  split at h
  · next hmade =>
    cases h
    exact makeDirectory_grown hmade
  · split at h
    · cases h
      exact Grown.refl d
    · cases h

theorem makeAll_grown {d d' : Disk} {paths : List Path} (h : d.makeAll paths = .ok d') :
    Grown d d' := by
  induction paths generalizing d' with
  | nil =>
    cases h
    exact Grown.refl d
  | cons p above ih =>
    unfold makeAll at h
    split at h
    · next hmade =>
      cases h
      exact makeDirectory_grown hmade
    · obtain ⟨middle, habove, h⟩ := ok_of_bind h
      exact (ih habove).trans (ensureDirectory_grown h)
    · split at h
      · cases h
        exact Grown.refl d
      · cases h

theorem writeFile_cases {d d' : Disk} {p : Path} {text : String}
    (h : d.writeFile p text = .ok d') :
    ∃ place name, IsTarget d p place name ∧ isFileName name = true ∧
      (∀ es, d.root.at? (place ++ [name]) ≠ some (.directory es)) ∧
      d' = d.put (place ++ [name]) (.file text.toUTF8) := by
  unfold writeFile at h
  obtain ⟨⟨place, name⟩, htarget, h⟩ := ok_of_bind h
  have hplace := isTarget_of_target htarget
  dsimp only at h
  split at h
  · cases h
  · next hfile =>
    split at h
    · cases h
    · next hname =>
      cases h
      rw [Bool.or_eq_true, beq_iff_eq, beq_iff_eq, not_or] at hname
      exact ⟨place, name, hplace, hplace.isFileName hname.1 hname.2, hfile, rfl⟩

theorem writeFile_grown {d d' : Disk} {p : Path} {text : String} (hp : IsDeclaration p.text)
    (h : d.writeFile p text = .ok d') : Grown d d' := by
  obtain ⟨place, name, ⟨⟨es, hplace⟩, -, hdecl⟩, hname, hfile, rfl⟩ := writeFile_cases h
  refine put_grown hplace ?_
  cases hold : d.root.at? (place ++ [name]) with
  | none => exact .newFile hname (hdecl hp)
  | some n =>
    cases n with
    | directory es => exact absurd hold (hfile es)
    | file content => exact .file (.inr (hdecl hp))

theorem writeFile_isWellNamed {d d' : Disk} {p : Path} {text : String}
    (hd : d.root.isWellNamed = true) (h : d.writeFile p text = .ok d') :
    d'.root.isWellNamed = true := by
  obtain ⟨place, name, ⟨⟨es, hplace⟩, -, -⟩, hname, -, rfl⟩ := writeFile_cases h
  exact Node.put_isWellNamed hd rfl hname hplace

/-- directories are made for a file, and then it is written, unless one of these steps fails -/
theorem write_cases (d : Disk) (p : Path) (text : String) :
    ∃ made, Grown d made ∧ ((d.write p text).2 = made ∨
      made.writeFile p text = .ok (d.write p text).2) := by
  unfold write
  dsimp only
  split
  · exact ⟨d, Grown.refl d, .inl rfl⟩
  · next made hmade =>
    have hgrown : Grown d made := by
      split at hmade
      · split at hmade
        · cases hmade
          exact Grown.refl d
        · exact makeAll_grown hmade
      · cases hmade
        exact Grown.refl d
    refine ⟨made, hgrown, ?_⟩
    split
    · exact .inl rfl
    · next hwritten => exact .inr hwritten

/-- a disk grows when a declaration is written, also if that fails -/
theorem write_grown {p : Path} (hp : IsDeclaration p.text) (d : Disk) (text : String) :
    Grown d (d.write p text).2 := by
  obtain ⟨made, hgrown, heq | hwritten⟩ := d.write_cases p text
  · rw [heq]
    exact hgrown
  · exact hgrown.trans (writeFile_grown hp hwritten)

/-- whatever is written, the names on a disk stay names of files -/
theorem write_isWellNamed {d : Disk} (hd : d.root.isWellNamed = true) (p : Path) (text : String) :
    (d.write p text).2.root.isWellNamed = true := by
  obtain ⟨made, hgrown, heq | hwritten⟩ := d.write_cases p text
  · rw [heq]
    exact hgrown.isWellNamed hd
  · exact writeFile_isWellNamed (hgrown.isWellNamed hd) hwritten

end Disk

end ResolverTypes
