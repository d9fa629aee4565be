import ResolverTypes.Proofs.DataModel.RoundTrip
import ResolverTypes.Proofs.Outcome

/-!
# What the reader does with a line

`ReaderState.Reads` lists the ways in which a line is read, each with the state before and the state
after it, so that an invariant of the reader is one case for each of them (`reads_of_step`,
`run_preserves`).  A property keeps the number of its line and the documentation that waited for it
(`of_readProperty`).
-/

namespace ResolverTypes.DataModel
open Text

namespace ReaderState

/-- the ways in which a line is read -/
inductive Reads (line : Nat) (raw : List Char) : ReaderState → ReaderState → Prop where
  | doc {s : ReaderState} {text : List Char} (hshape : lineShape raw = .doc text) :
      Reads line raw s { s with docs := s.docs ++ [text] }
  | blank {s : ReaderState} (hshape : lineShape raw = .blank) : Reads line raw s s
  | close {done : List Block} {b : Block} {docs : List (List Char)} (hshape : lineShape raw = .close) :
      Reads line raw ⟨done, some b, docs⟩ ⟨done ++ [b], none, docs⟩
  | property {done : List Block} {b : Block} {docs : List (List Char)} {cs : List Char} {p : Property}
      (hshape : lineShape raw = .content cs)
      (hp : readProperty b.kind cs line (joinDocs docs) = .ok p) :
      Reads line raw ⟨done, some b, docs⟩
        ⟨done, some { b with properties := b.properties ++ [p] }, []⟩
  | header {done : List Block} {docs : List (List Char)} {cs : List Char} {h : Header}
      (hshape : lineShape raw = .content cs) (hh : readHeader? cs = some h) (hopen : h.closed = false) :
      Reads line raw ⟨done, none, docs⟩ ⟨done, some ⟨h.kind, h.name, line, joinDocs docs, []⟩, []⟩
  | block {done : List Block} {docs : List (List Char)} {cs : List Char} {h : Header}
      (hshape : lineShape raw = .content cs) (hh : readHeader? cs = some h) (hclosed : h.closed = true) :
      Reads line raw ⟨done, none, docs⟩ ⟨done ++ [⟨h.kind, h.name, line, joinDocs docs, []⟩], none, []⟩

theorem reads_of_step {s s' : ReaderState} {line : Nat} {raw : List Char}
    (h : s.step line raw = .ok s') : Reads line raw s s' := by
  obtain ⟨done, current, docs⟩ := s
  unfold step at h
  cases hshape : lineShape raw with
  | doc text =>
    rw [hshape] at h
    cases h
    exact .doc hshape
  | blank =>
    rw [hshape] at h
    cases h
    exact .blank hshape
  | close =>
    rw [hshape] at h
    cases current with
    | none => cases h
    | some b =>
      cases h
      exact .close hshape
  | content cs =>
    rw [hshape] at h
    cases current with
    | some b =>
      dsimp only at h
      split at h
      · cases h
      · next hp =>
        cases h
        exact .property hshape hp
    | none =>
      dsimp only at h
      split at h
      · cases h
      · next header hheader =>
        split at h
        · next hclosed =>
          cases h
          exact .block hshape hheader hclosed
        · next hopen =>
          cases h
          exact .header hshape hheader (by simpa using hopen)

theorem step_of_run {s s' : ReaderState} {line : Nat} {raw : List Char} {raws : List (List Char)}
    (h : s.run line (raw :: raws) = .ok s') :
    ∃ t, s.step line raw = .ok t ∧ t.run (line + 1) raws = .ok s' := by
  unfold run at h
  cases hstep : s.step line raw with
  | error e =>
    rw [hstep] at h
    cases h
  | ok t =>
    rw [hstep] at h
    exact ⟨t, rfl, h⟩

theorem run_preserves {P : ReaderState → Prop}
    (hreads : ∀ line raw s s', Reads line raw s s' → P s → P s') {s s' : ReaderState} {line : Nat}
    {raws : List (List Char)} (h : s.run line raws = .ok s') (hs : P s) : P s' := by
  induction raws generalizing s line with
  | nil =>
    cases h
    exact hs
  | cons raw raws ih =>
    obtain ⟨t, hstep, hrun⟩ := step_of_run h
    exact ih hrun (hreads line raw s t (reads_of_step hstep) hs)

end ReaderState

theorem parse_eq (source : String) :
    parse source = ReaderState.start.run 1 (lines source.toList) >>= ReaderState.finish := by
  unfold parse
  cases ReaderState.start.run 1 (lines source.toList) <;> rfl

theorem of_readProperty {kind : BlockKind} {cs : List Char} {line : Nat} {docs : Option String}
    {p : Property} (h : readProperty kind cs line docs = .ok p) :
    ∀ n ∈ p.line?, n = line ∧ p.documentation = docs := by
  unfold readProperty at h
  split at h
  · obtain ⟨attrs, -, h⟩ := ok_of_bind h
    split at h
    · cases h
      nofun
    · cases h
  · cases kind with
    | model | view | composite =>
      dsimp only at h
      split at h
      · cases h
      · obtain ⟨_, -, h⟩ := ok_of_bind h
        cases h
        rintro n ⟨⟩
        exact ⟨rfl, rfl⟩
    | enumeration =>
      dsimp only at h
      split at h
      · cases h
      · obtain ⟨_, -, h⟩ := ok_of_bind h
        cases h
        rintro n ⟨⟩
        exact ⟨rfl, rfl⟩
    | datasource | generator =>
      dsimp only at h
      split at h
      · cases h
      · cases h
        nofun

end ResolverTypes.DataModel
