import ResolverTypes.Proofs.File.Disk

/-!
# Walks on a growing disk

A path that leads somewhere leads to the same place on a grown disk (`Disk.Leads.grown`).  A path that
leads nowhere may lead anywhere later, since a step `..` comes back from a directory that was missing;
without such a step it leads to something new (`Disk.Leads.at?_of_missing`).
-/

namespace ResolverTypes

namespace Disk
open Text
open Node (GrownAt)

variable {d d' : Disk}

/-! ## walks -/

/-- `d.Leads place pieces q`: the pieces lead from `place` to `q`, each through a directory -/
inductive Leads (d : Disk) : List String → List String → List String → Prop where
  | done {place} : Leads d place [] place
  | blank {place es piece rest q} : d.root.at? place = some (.directory es) →
      (piece == "" || piece == ".") = true → Leads d place rest q → Leads d place (piece :: rest) q
  | up {place es rest q} : d.root.at? place = some (.directory es) →
      Leads d place.dropLast rest q → Leads d place (".." :: rest) q
  | name {place es piece n rest q} : d.root.at? place = some (.directory es) →
      ¬(piece == "" || piece == ".") = true → piece ≠ ".." → piece.utf8ByteSize ≤ nameLimit →
      d.root.at? (place ++ [piece]) = some n → Leads d (place ++ [piece]) rest q →
      Leads d place (piece :: rest) q

theorem leads_of_walk {place pieces q : List String} (h : d.walk place pieces = .ok q) :
    d.Leads place pieces q := by
  induction pieces generalizing place with
  | nil =>
    cases h
    exact .done
  | cons piece rest ih =>
    rw [walk] at h
    split at h
    · cases h
    · cases h
    · next es hes =>
      split at h
      · next hblank => exact .blank hes hblank (ih h)
      · next hblank =>
        split at h
        · next hup =>
          rw [beq_iff_eq.mp hup]
          exact .up hes (ih h)
        · next hup =>
          split at h
          · cases h
          · next hlimit =>
            split at h
            · next hthere =>
              obtain ⟨n, hn⟩ := Option.isSome_iff_exists.mp hthere
              exact .name hes hblank (fun heq => hup (beq_iff_eq.mpr heq)) (Nat.not_lt.mp hlimit) hn
                (ih h)
            · cases h

theorem Leads.walk {place pieces q : List String} (h : d.Leads place pieces q) :
    d.walk place pieces = .ok q := by
  induction h with
  | done => rfl
  | blank hes hblank _ ih =>
    rw [Disk.walk, hes]
    dsimp only
    rw [if_pos hblank, ih]
  | up hes _ ih =>
    rw [Disk.walk, hes]
    exact ih
  | name hes hblank hup hlimit hn _ ih =>
    rw [Disk.walk, hes]
    dsimp only
    rw [if_neg hblank, if_neg (fun h => hup (beq_iff_eq.mp h)), if_neg (Nat.not_lt.mpr hlimit), hn,
      Option.isSome_some, if_pos rfl, ih]

theorem leads_append_iff {place a b q : List String} :
    d.Leads place (a ++ b) q ↔ ∃ r, d.Leads place a r ∧ d.Leads r b q := by
  constructor
  · intro h
    induction a generalizing place with
    | nil => exact ⟨place, .done, h⟩
    | cons piece a ih =>
      cases h with
      | blank hes hblank hrest =>
        obtain ⟨r, ha, hb⟩ := ih hrest
        exact ⟨r, .blank hes hblank ha, hb⟩
      | up hes hrest =>
        obtain ⟨r, ha, hb⟩ := ih hrest
        exact ⟨r, .up hes ha, hb⟩
      | name hes hblank hup hlimit hn hrest =>
        obtain ⟨r, ha, hb⟩ := ih hrest
        exact ⟨r, .name hes hblank hup hlimit hn ha, hb⟩
  · rintro ⟨r, ha, hb⟩
    induction ha with
    | done => exact hb
    | blank hes hblank _ ih => exact .blank hes hblank (ih hb)
    | up hes _ ih => exact .up hes (ih hb)
    | name hes hblank hup hlimit hn _ ih => exact .name hes hblank hup hlimit hn (ih hb)

/-! ## walks on a grown disk -/

theorem Grown.at? (h : Grown d d') (place : List String) :
    GrownAt (place.getLastD "") (d.root.at? place) (d'.root.at? place) :=
  Node.at?_grown h.root place

theorem Grown.directory (h : Grown d d') {place : List String} {es : List (String × Node)}
    (hes : d.root.at? place = some (.directory es)) :
    ∃ es', d'.root.at? place = some (.directory es') ∧ Node.Grown es es' := by
  have hplace := h.at? place
  rw [hes] at hplace
  generalize d'.root.at? place = n' at hplace ⊢
  cases hplace with
  | directory hgrown => exact ⟨_, rfl, hgrown⟩

theorem Grown.isSome (h : Grown d d') {place : List String} {n : Node}
    (hn : d.root.at? place = some n) : ∃ n', d'.root.at? place = some n' := by
  have hplace := h.at? place
  rw [hn] at hplace
  generalize d'.root.at? place = n' at hplace ⊢
  cases hplace with
  | file _ => exact ⟨_, rfl⟩
  | directory _ => exact ⟨_, rfl⟩

/-- what was in the place of a directory: a directory, or nothing -/
theorem Grown.was_directory (h : Grown d d') {place : List String} {es' : List (String × Node)}
    (hes' : d'.root.at? place = some (.directory es')) :
    (∃ es, d.root.at? place = some (.directory es) ∧ Node.Grown es es') ∨
      (d.root.at? place = none ∧ Node.Grown [] es') := by
  have hplace := h.at? place
  rw [hes'] at hplace
  generalize d.root.at? place = n at hplace ⊢
  cases hplace with
  | newDirectory _ hnew => exact .inr ⟨rfl, hnew⟩
  | directory hgrown => exact .inl ⟨_, rfl, hgrown⟩

/-- a path that leads somewhere leads to the same place later -/
theorem Leads.grown (h : Grown d d') {place pieces q : List String} (hleads : d.Leads place pieces q) :
    d'.Leads place pieces q := by
  induction hleads with
  | done => exact .done
  | blank hes hblank _ ih =>
    obtain ⟨es', hes', -⟩ := h.directory hes
    exact .blank hes' hblank ih
  | up hes _ ih =>
    obtain ⟨es', hes', -⟩ := h.directory hes
    exact .up hes' ih
  | name hes hblank hup hlimit hn _ ih =>
    obtain ⟨es', hes', -⟩ := h.directory hes
    obtain ⟨n', hn'⟩ := h.isSome hn
    exact .name hes' hblank hup hlimit hn' ih

/-- without a step up, a path leads downwards -/
theorem Leads.isPrefix {place pieces q : List String} (h : d.Leads place pieces q)
    (hup : ".." ∉ pieces) : place <+: q := by
  induction h with
  | done => exact List.prefix_rfl
  | blank _ _ _ ih => exact ih fun hmem => hup (List.mem_cons_of_mem _ hmem)
  | up _ _ _ => exact absurd List.mem_cons_self hup
  | name _ _ _ _ _ _ ih =>
    exact (List.prefix_append _ _).trans (ih fun hmem => hup (List.mem_cons_of_mem _ hmem))

theorem at?_of_isPrefix {n : Node} {place q : List String} (h : place <+: q)
    (hplace : n.at? place = none) : n.at? q = none := by
  obtain ⟨rest, rfl⟩ := h
  rw [Node.at?_append, hplace, Option.bind_none]

/-- without a step up, a path that leads nowhere leads to something new later -/
theorem Leads.at?_of_missing (h : Grown d d') {place pieces q : List String}
    (hleads : d'.Leads place pieces q) (hup : ".." ∉ pieces)
    (hmissing : ∀ r, ¬d.Leads place pieces r) : d.root.at? q = none := by
  induction hleads with
  | done => exact absurd .done (hmissing _)
  | blank hes' hblank hrest ih =>
    have hup' := fun hmem => hup (List.mem_cons_of_mem _ hmem)
    rcases h.was_directory hes' with ⟨es, hes, -⟩ | ⟨hnone, -⟩
    · exact ih hup' fun r hr => hmissing r (.blank hes hblank hr)
    · exact at?_of_isPrefix (hrest.isPrefix hup') hnone
  | up _ _ _ => exact absurd List.mem_cons_self hup
  | @name place es' piece n rest q hes' hblank hne hlimit hn' hrest ih =>
    have hup' := fun hmem => hup (List.mem_cons_of_mem _ hmem)
    have hdown := hrest.isPrefix hup'
    rcases h.was_directory hes' with ⟨es, hes, -⟩ | ⟨hnone, -⟩
    · cases hn : d.root.at? (place ++ [piece]) with
      | none => exact at?_of_isPrefix hdown hn
      | some n => exact ih hup' fun r hr => hmissing r (.name hes hblank hne hlimit hn hr)
    · exact at?_of_isPrefix ((List.prefix_append _ _).trans hdown) hnone

/-! ## nodes at paths -/

theorem find_eq_ok_iff {p : Path} {n : Node} :
    d.find p = .ok n ↔ checkText p = .ok () ∧ p.text ≠ "" ∧
      ∃ q, d.Leads (d.start p) (piecesOf p) q ∧ d.root.at? q = some n := by
  unfold find
  constructor
  · intro h
    obtain ⟨⟨⟩, hcheck, h⟩ := ok_of_bind h
    dsimp only at h
    split at h
    · cases h
    · next hne =>
      obtain ⟨q, hwalk, h⟩ := ok_of_bind h
      refine ⟨hcheck, fun heq => hne (String.isEmpty_iff.mpr heq), q, leads_of_walk hwalk, ?_⟩
      split at h
      · next hat =>
        cases h
        exact hat
      · cases h
  · rintro ⟨hcheck, hne, q, hleads, hat⟩
    rw [hcheck]
    dsimp only [bind, Except.bind]
    rw [if_neg (fun h => hne (String.isEmpty_iff.mp h)), hleads.walk]
    dsimp only
    rw [hat]
    rfl

theorem contains_iff {p : Path} : d.contains p = true ↔ ∃ n, d.find p = .ok n := by
  unfold contains
  cases d.find p with
  | error e => exact ⟨nofun, nofun⟩
  | ok n => exact ⟨fun _ => ⟨n, rfl⟩, fun _ => rfl⟩

theorem load_eq_some_iff {p : Path} {text : String} :
    (d.load p).toOption = some text ↔
      ∃ content, d.find p = .ok (.file content) ∧ String.fromUTF8? content = some text := by
  constructor
  · intro h
    cases hload : d.load p with
    | error e =>
      rw [hload] at h
      cases h
    | ok t =>
      rw [hload] at h
      cases h
      obtain ⟨n, hfind, hload⟩ := ok_of_bind hload
      cases n with
      | directory es => cases hload
      | file content =>
        dsimp only at hload
        cases htext : String.fromUTF8? content with
        | none =>
          rw [htext] at hload
          cases hload
        | some t =>
          rw [htext] at hload
          cases hload
          exact ⟨content, hfind, htext⟩
  · rintro ⟨content, hfind, htext⟩
    unfold load
    rw [hfind]
    dsimp only [bind, Except.bind]
    rw [htext]
    rfl

end Disk

end ResolverTypes
