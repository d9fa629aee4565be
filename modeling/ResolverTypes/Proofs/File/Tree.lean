import ResolverTypes.File.Disk
import ResolverTypes.Proofs.Service.Naming
import ResolverTypes.Proofs.Table

/-!
# Trees that grow

While declarations are written into a tree of files, directories and files are added to it and
declarations are replaced; nothing else changes.

* `Node.Grown`: what becomes of the entries of a directory;
* `Node.at?_grown`, `Node.put_grown`: look-ups in a grown tree, and single insertions;
* `Listing.visit_grown`: a listing of a grown directory has the same services.
-/

namespace ResolverTypes

/-- a name that a file can have -/
def isFileName (name : String) : Bool :=
  name.utf8ByteSize ≤ Disk.nameLimit && !name.toList.contains '/' && name != "" && name != "." &&
    name != ".."

theorem isFileName_iff {name : String} :
    isFileName name = true ↔ name.utf8ByteSize ≤ Disk.nameLimit ∧ '/' ∉ name.toList ∧ name ≠ "" ∧
      name ≠ "." ∧ name ≠ ".." := by
  simp [isFileName, and_assoc]

namespace Node

mutual

/-- whether all names in a tree are names of files -/
def isWellNamed : Node → Bool
  | .file _ => true
  | .directory es => areWellNamed es

def areWellNamed : List (String × Node) → Bool
  | [] => true
  | (name, n) :: rest => isFileName name && n.isWellNamed && areWellNamed rest

end

theorem areWellNamed_iff {es : List (String × Node)} :
    areWellNamed es = true ↔ ∀ e ∈ es, isFileName e.1 = true ∧ e.2.isWellNamed = true := by
  induction es with
  | nil => simp [areWellNamed]
  | cons e es ih =>
    obtain ⟨name, n⟩ := e
    rw [areWellNamed, Bool.and_eq_true, Bool.and_eq_true, ih, List.forall_mem_cons]

theorem areWellNamed_insertEntry {es : List (String × Node)} (hes : areWellNamed es = true)
    {key : String} (hkey : isFileName key = true) {n : Node} (hn : n.isWellNamed = true) :
    areWellNamed (Table.insertEntry key n es) = true := by
  refine areWellNamed_iff.mpr fun e he => ?_
  rcases Table.mem_insertEntry he with rfl | he
  · exact ⟨hkey, hn⟩
  · exact areWellNamed_iff.mp hes e he

/-! ## growth -/

/-- entries to which others are added, where new files are declarations; old declarations may be
replaced -/
inductive Grown : List (String × Node) → List (String × Node) → Prop where
  | nil : Grown [] []
  | newFile {name content es} : isFileName name = true → IsDeclaration name → Grown [] es →
      Grown [] ((name, .file content) :: es)
  | newDirectory {name inner es} : isFileName name = true → Grown [] inner → Grown [] es →
      Grown [] ((name, .directory inner) :: es)
  | file {name content content' es es'} : content = content' ∨ IsDeclaration name → Grown es es' →
      Grown ((name, .file content) :: es) ((name, .file content') :: es')
  | directory {name inner inner' es es'} : Grown inner inner' → Grown es es' →
      Grown ((name, .directory inner) :: es) ((name, .directory inner') :: es')

theorem Grown.refl : (es : List (String × Node)) → Grown es es
  | [] => .nil
  | (_, .file _) :: es => .file (.inl rfl) (refl es)
  | (_, .directory inner) :: es => .directory (refl inner) (refl es)

theorem Grown.cons {es es' : List (String × Node)} (e : String × Node) (h : Grown es es') :
    Grown (e :: es) (e :: es') := by
  obtain ⟨name, content | inner⟩ := e
  · exact .file (.inl rfl) h
  · exact .directory (refl inner) h

theorem Grown.trans {es es' es'' : List (String × Node)} (h : Grown es es') (h' : Grown es' es'') :
    Grown es es'' := by
  induction h generalizing es'' with
  | nil => exact h'
  | newFile hname hdecl _ ih =>
    cases h' with
    | file _ hrest => exact .newFile hname hdecl (ih hrest)
  | newDirectory hname _ _ ihinner ih =>
    cases h' with
    | directory hinner hrest => exact .newDirectory hname (ihinner hinner) (ih hrest)
  | file hsame _ ih =>
    cases h' with
    | file hsame' hrest =>
      refine .file ?_ (ih hrest)
      rcases hsame with rfl | hdecl
      · exact hsame'
      · exact .inr hdecl
  | directory _ _ ihinner ih =>
    cases h' with
    | directory hinner hrest => exact .directory (ihinner hinner) (ih hrest)

theorem Grown.areWellNamed {es es' : List (String × Node)} (h : Grown es es')
    (hes : areWellNamed es = true) : areWellNamed es' = true := by
  induction h with
  | nil => rfl
  | newFile hname _ _ ih => simp [Node.areWellNamed, isWellNamed, hname, ih hes]
  | newDirectory hname _ _ ihinner ih =>
    simp [Node.areWellNamed, isWellNamed, hname, ihinner rfl, ih hes]
  | file _ _ ih =>
    simp only [Node.areWellNamed, isWellNamed, Bool.and_eq_true] at hes ⊢
    exact ⟨hes.1, ih hes.2⟩
  | directory _ _ ihinner ih =>
    simp only [Node.areWellNamed, isWellNamed, Bool.and_eq_true] at hes ⊢
    exact ⟨⟨hes.1.1, ihinner hes.1.2⟩, ih hes.2⟩

/-! ## look-ups -/

/-- what becomes of the node at a name -/
inductive GrownAt (name : String) : Option Node → Option Node → Prop where
  | none : GrownAt name none none
  | newFile {content} : isFileName name = true → IsDeclaration name →
      GrownAt name none (some (.file content))
  | newDirectory {inner} : isFileName name = true → Grown [] inner →
      GrownAt name none (some (.directory inner))
  | file {content content'} : content = content' ∨ IsDeclaration name →
      GrownAt name (some (.file content)) (some (.file content'))
  | directory {inner inner'} : Grown inner inner' →
      GrownAt name (some (.directory inner)) (some (.directory inner'))

theorem GrownAt.refl (name : String) (n : Node) : GrownAt name (some n) (some n) := by
  cases n with
  | file content => exact .file (.inl rfl)
  | directory es => exact .directory (Grown.refl es)

theorem GrownAt.trans {name : String} {n n' n'' : Node} (h : GrownAt name (some n) (some n'))
    (h' : GrownAt name (some n') (some n'')) : GrownAt name (some n) (some n'') := by
  cases h with
  | file hsame =>
    cases h' with
    | file hsame' =>
      rcases hsame with rfl | hdecl
      · exact .file hsame'
      · exact .file (.inr hdecl)
  | directory hinner =>
    cases h' with
    | directory hinner' => exact .directory (hinner.trans hinner')

theorem lookupEntry_grown {es es' : List (String × Node)} (h : Grown es es') (key : String) :
    GrownAt key (Table.lookupEntry key es) (Table.lookupEntry key es') := by
  induction h with
  | nil => exact .none
  | @newFile name content _ hname hdecl _ ih =>
    rw [Table.lookupEntry.eq_2]
    split
    · next heq => exact .newFile (heq ▸ hname) (heq ▸ hdecl)
    · exact ih
  | newDirectory hname hinner _ _ ih =>
    rw [Table.lookupEntry.eq_2]
    split
    · next heq => exact .newDirectory (heq ▸ hname) hinner
    · exact ih
  | file hsame _ ih =>
    rw [Table.lookupEntry.eq_2, Table.lookupEntry.eq_2]
    split
    · next heq => exact .file (heq ▸ hsame)
    · exact ih
  | directory hinner _ _ ih =>
    rw [Table.lookupEntry.eq_2, Table.lookupEntry.eq_2]
    split
    · exact .directory hinner
    · exact ih

theorem at?_directory_cons (es : List (String × Node)) (k : String) (ks : List String) :
    (Node.directory es).at? (k :: ks) = (Table.lookupEntry k es).bind (·.at? ks) := by
  rw [at?]
  cases Table.lookupEntry k es <;> rfl

theorem at?_append (n : Node) (a b : List String) : n.at? (a ++ b) = (n.at? a).bind (·.at? b) := by
  induction a generalizing n with
  | nil => rfl
  | cons k a ih =>
    cases n with
    | file content => rfl
    | directory es =>
      rw [List.cons_append, at?_directory_cons, at?_directory_cons]
      cases Table.lookupEntry k es with
      | none => rfl
      | some n => exact ih n

theorem isWellNamed_of_at? {n m : Node} (h : n.isWellNamed = true) {names : List String}
    (hm : n.at? names = some m) : m.isWellNamed = true := by
  induction names generalizing n with
  | nil =>
    cases hm
    exact h
  | cons k names ih =>
    cases n with
    | file content => cases hm
    | directory es =>
      rw [at?_directory_cons] at hm
      obtain ⟨inner, hinner, hm⟩ := Option.bind_eq_some_iff.mp hm
      exact ih (areWellNamed_iff.mp h _ (Table.lookupEntry_mem hinner)).2 hm

/-- look-ups in a grown tree; a node is known by the last of the names that lead to it -/
theorem at?_grown {name : String} {n n' : Node} (h : GrownAt name (some n) (some n'))
    (names : List String) : GrownAt (names.getLastD name) (n.at? names) (n'.at? names) := by
  induction names generalizing name n n' with
  | nil => exact h
  | cons k ks ih =>
    rw [List.getLastD_cons]
    cases h with
    | file _ => exact .none
    | directory hinner =>
      rw [at?_directory_cons, at?_directory_cons]
      have hk := lookupEntry_grown hinner k
      generalize Table.lookupEntry k _ = before at hk ⊢
      generalize Table.lookupEntry k _ = after at hk ⊢
      cases hk with
      | none => exact .none
      | newFile hname hdecl =>
        cases ks with
        | nil => exact .newFile hname hdecl
        | cons k' ks => exact .none
      | newDirectory hname hnew =>
        cases ks with
        | nil => exact .newDirectory hname hnew
        | cons k' ks => exact ih (.directory hnew)
      | file hsame => exact ih (.file hsame)
      | directory hinner => exact ih (.directory hinner)

/-! ## insertions -/

theorem insertEntry_grown {es : List (String × Node)} {key : String} {n : Node}
    (h : GrownAt key (Table.lookupEntry key es) (some n)) :
    Grown es (Table.insertEntry key n es) := by
  induction es with
  | nil =>
    cases h with
    | newFile hname hdecl => exact .newFile hname hdecl .nil
    | newDirectory hname hinner => exact .newDirectory hname hinner .nil
  | cons e es ih =>
    obtain ⟨k, v⟩ := e
    rw [Table.lookupEntry.eq_2] at h
    rw [Table.insertEntry.eq_2]
    split
    · next heq =>
      rw [if_pos heq] at h
      cases h with
      | file hsame => exact .file (heq ▸ hsame) (Grown.refl es)
      | directory hinner => exact .directory hinner (Grown.refl es)
    · next hne =>
      rw [if_neg hne] at h
      exact (ih h).cons (k, v)

/-- a tree grows when a node is put into one of its directories -/
theorem put_grown {n new : Node} {place : List String} {key : String} {es : List (String × Node)}
    (hplace : n.at? place = some (.directory es))
    (hnew : GrownAt key (Table.lookupEntry key es) (some new)) (name : String) :
    GrownAt name (some n) (some (put new (place ++ [key]) n)) := by
  induction place generalizing n name with
  | nil =>
    cases hplace
    exact .directory (insertEntry_grown hnew)
  | cons k place ih =>
    cases n with
    | file content => cases hplace
    | directory outer =>
      rw [at?_directory_cons] at hplace
      obtain ⟨inner, hinner, hplace⟩ := Option.bind_eq_some_iff.mp hplace
      have hstep := ih hplace k
      rw [← hinner] at hstep
      rw [List.cons_append, put, hinner]
      exact .directory (insertEntry_grown hstep)

theorem put_isWellNamed {n new : Node} (hn : n.isWellNamed = true) (hnew : new.isWellNamed = true)
    {place : List String} {key : String} (hkey : isFileName key = true)
    {es : List (String × Node)} (hplace : n.at? place = some (.directory es)) :
    (put new (place ++ [key]) n).isWellNamed = true := by
  induction place generalizing n with
  | nil =>
    cases hplace
    exact areWellNamed_insertEntry hn hkey hnew
  | cons k place ih =>
    cases n with
    | file content => cases hplace
    | directory outer =>
      rw [at?_directory_cons] at hplace
      obtain ⟨inner, hinner, hplace⟩ := Option.bind_eq_some_iff.mp hplace
      obtain ⟨hk, hwell⟩ := areWellNamed_iff.mp hn _ (Table.lookupEntry_mem hinner)
      rw [List.cons_append, put, hinner]
      exact areWellNamed_insertEntry hn hk (ih hwell hplace)

end Node

/-! ## listings -/

namespace Listing
open Node (Grown)

/-- directories to be visited that have grown, and new ones among them -/
inductive PendingGrown :
    List (Path × List (String × Node)) → List (Path × List (String × Node)) → Prop where
  | nil : PendingGrown [] []
  | cons {dir es es' rest rest'} : Grown es es' → PendingGrown rest rest' →
      PendingGrown ((dir, es) :: rest) ((dir, es') :: rest')
  | new {dir es' rest rest'} : Grown [] es' → PendingGrown rest rest' →
      PendingGrown rest ((dir, es') :: rest')

variable {a a' b b' : List (Path × List (String × Node))}

theorem PendingGrown.append (h : PendingGrown a a') (h' : PendingGrown b b') :
    PendingGrown (a ++ b) (a' ++ b') := by
  induction h with
  | nil => exact h'
  | cons hes _ ih => exact .cons hes ih
  | new hes _ ih => exact .new hes ih

theorem PendingGrown.reverse (h : PendingGrown a a') : PendingGrown a.reverse a'.reverse := by
  induction h with
  | nil => exact .nil
  | cons hes _ ih =>
    rw [List.reverse_cons, List.reverse_cons]
    exact ih.append (.cons hes .nil)
  | @new dir es' rest rest' hes _ ih =>
    rw [List.reverse_cons, ← List.append_nil rest.reverse]
    exact ih.append (.new hes .nil)

theorem directories_cons_directory (dir : Path) (name : String) (inner es : List (String × Node)) :
    directories dir ((name, .directory inner) :: es) =
      if name == skipped then directories dir es
      else (dir.join ⟨name⟩, inner) :: directories dir es := by
  unfold directories
  by_cases h : (name == skipped) = true
  · simp only [List.filterMap_cons, h, if_true]
  · simp only [List.filterMap_cons, h, Bool.false_eq_true, if_false]

theorem regularFiles_cons_file (dir : Path) (name : String) (content : ByteArray)
    (es : List (String × Node)) :
    regularFiles dir ((name, .file content) :: es) = dir.join ⟨name⟩ :: regularFiles dir es :=
  rfl

theorem directories_grown {es es' : List (String × Node)} (h : Grown es es') (dir : Path) :
    PendingGrown (directories dir es) (directories dir es') := by
  induction h with
  | nil => exact .nil
  | newFile _ _ _ ih => exact ih
  | newDirectory _ hinner _ _ ih =>
    rw [directories_cons_directory]
    split
    · exact ih
    · exact .new hinner ih
  | file _ _ ih => exact ih
  | directory hinner _ _ ih =>
    rw [directories_cons_directory, directories_cons_directory]
    split
    · exact ih
    · exact .cons hinner ih

theorem regularFiles_grown {es es' : List (String × Node)} (h : Grown es es') (dir : Path) :
    servicesAmong (regularFiles dir es') = servicesAmong (regularFiles dir es) := by
  induction h with
  | nil => rfl
  | newFile _ hdecl _ ih =>
    have hnew := (hdecl.join dir).baseName.not_isServiceFile
    rw [regularFiles_cons_file, servicesAmong, List.filter_cons_of_neg (by simp [hnew])]
    exact ih
  | newDirectory _ _ _ _ ih => exact ih
  | file _ _ ih =>
    rw [regularFiles_cons_file, regularFiles_cons_file, servicesAmong, servicesAmong,
      List.filter_cons, List.filter_cons, ← servicesAmong, ← servicesAmong, ih]
  | directory _ _ _ ih => exact ih

/-- the services that are found in grown directories -/
theorem visit_grown (h : PendingGrown a b) {found found' : List Path}
    (hfound : servicesAmong found' = servicesAmong found) :
    servicesAmong (visit b found') = servicesAmong (visit a found) := by
  -- by the visits of the grown directories, of which there are at least as many
  induction b, found' using visit.induct generalizing a found with
  | case1 found' =>
    cases h
    rw [visit, visit]
    exact hfound
  | case2 dir es' rest' found' hcheck ih =>
    rw [visit.eq_2, if_pos hcheck]
    cases h with
    | cons hes hrest =>
      rw [visit.eq_2, if_pos hcheck]
      refine ih ((directories_grown hes dir).reverse.append hrest) ?_
      rw [servicesAmong, List.filter_append, servicesAmong, List.filter_append]
      exact congrArg₂ _ hfound (regularFiles_grown hes dir)
    | new hes hrest =>
      refine ih ((directories_grown hes dir).reverse.append hrest) ?_
      rw [servicesAmong, List.filter_append, ← servicesAmong, ← servicesAmong,
        regularFiles_grown hes dir, hfound]
      exact List.append_nil _
  | case3 dir es' rest' found' hcheck ih =>
    rw [visit.eq_2, if_neg hcheck]
    cases h with
    | cons _ hrest =>
      rw [visit.eq_2, if_neg hcheck]
      exact ih hrest hfound
    | new _ hrest => exact ih hrest hfound

end Listing

end ResolverTypes
