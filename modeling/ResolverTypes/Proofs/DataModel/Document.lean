import ResolverTypes.Proofs.DataModel.Catalog
import ResolverTypes.Proofs.DataModel.Reading
import ResolverTypes.Proofs.Text.Name

/-!
# Names in data-model schemas

Reading a schema line by line keeps the invariant that the names of all blocks and fields are words
(`ReaderState.HasWords`), so the models of its catalog and their fields have words as names.
-/

namespace ResolverTypes.DataModel
open Text

/-! ## lines -/

theorem isWord_of_readHeader? {cs : List Char} {h : Header} (hh : readHeader? cs = some h) :
    ∀ n ∈ h.name, IsWord n := by
  obtain ⟨kind, -, hh⟩ := Option.bind_eq_some_iff.mp hh
  simp only at hh
  split at hh
  · next name rest hname =>
    obtain ⟨closed, -, hh⟩ := Option.bind_eq_some_iff.mp hh
    cases hh
    intro n hn
    cases hn
    exact isWord_of_takeName? hname
  · obtain ⟨closed, -, hh⟩ := Option.bind_eq_some_iff.mp hh
    cases hh
    intro n hn
    cases hn

theorem isWord_of_readField? {cs : List Char} {f : FieldLine} (h : readField? cs = some f) :
    IsWord (String.ofList f.name) := by
  obtain ⟨⟨name, rest⟩, hname, h⟩ := Option.bind_eq_some_iff.mp h
  obtain ⟨_, -, h⟩ := Option.bind_eq_some_iff.mp h
  obtain ⟨_, -, h⟩ := Option.bind_eq_some_iff.mp h
  obtain ⟨_, -, h⟩ := Option.bind_eq_some_iff.mp h
  cases h
  exact isWord_of_takeName? hname

theorem isWord_of_readProperty {kind : BlockKind} {cs : List Char} {line : Nat}
    {docs : Option String} {p : Property} (h : readProperty kind cs line docs = .ok p) :
    ∀ d ∈ p.field?, IsWord d.name := by
  intro d hd
  unfold readProperty at h
  split at h
  · obtain ⟨attrs, -, h⟩ := ok_of_bind h
    split at h
    · cases h
      cases hd
    · cases h
  · cases kind with
    | model | view | composite =>
      dsimp only at h
      split at h
      · cases h
      · next f hf =>
        obtain ⟨_, -, h⟩ := ok_of_bind h
        cases h
        cases hd
        exact isWord_of_readField? hf
    | enumeration =>
      dsimp only at h
      split at h
      · cases h
      · obtain ⟨_, -, h⟩ := ok_of_bind h
        cases h
        cases hd
    | datasource | generator =>
      dsimp only at h
      split at h
      · cases h
      · cases h
        cases hd

/-! ## the reader -/

/-- the name of a block and the names of its fields are words -/
def Block.HasWords (b : Block) : Prop := (∀ n ∈ b.name, IsWord n) ∧ ∀ d ∈ b.fields, IsWord d.name

/-- the names in the blocks that the reader holds are words -/
structure ReaderState.HasWords (s : ReaderState) : Prop where
  done : ∀ b ∈ s.done, b.HasWords
  current : ∀ b ∈ s.current, b.HasWords

theorem Block.HasWords.addProperty {b : Block} (hb : b.HasWords) {p : Property}
    (hp : ∀ d ∈ p.field?, IsWord d.name) :
    { b with properties := b.properties ++ [p] }.HasWords := by
  refine ⟨hb.1, fun d hd => ?_⟩
  simp only [Block.fields, List.filterMap_append, List.mem_append] at hd
  rcases hd with hd | hd
  · exact hb.2 d hd
  · obtain ⟨q, hq, hd⟩ := List.mem_filterMap.mp hd
    rw [List.mem_singleton.mp hq] at hd
    exact hp d hd

theorem ReaderState.Reads.hasWords {s s' : ReaderState} {line : Nat} {raw : List Char}
    (h : Reads line raw s s') (hs : s.HasWords) : s'.HasWords := by
  have hdone : ∀ (done : List Block) (b : Block), (∀ b' ∈ done, b'.HasWords) → b.HasWords →
      ∀ b' ∈ done ++ [b], b'.HasWords := by
    intro done b hdone hb b' hb'
    rcases List.mem_append.mp hb' with hb' | hb'
    · exact hdone b' hb'
    · rw [List.mem_singleton.mp hb']
      exact hb
  have hsome : ∀ b : Block, b.HasWords → ∀ b' ∈ some b, b'.HasWords := by
    rintro b hb b' ⟨⟩
    exact hb
  cases h with
  | doc hshape => exact ⟨hs.done, hs.current⟩
  | blank hshape => exact hs
  | close hshape => exact ⟨hdone _ _ hs.done (hs.current _ rfl), fun b' hb' => nomatch hb'⟩
  | property hshape hp =>
    exact ⟨hs.done, hsome _ ((hs.current _ rfl).addProperty (isWord_of_readProperty hp))⟩
  | header hshape hh => exact ⟨hs.done, hsome _ ⟨isWord_of_readHeader? hh, fun d hd => nomatch hd⟩⟩
  | block hshape hh =>
    exact ⟨hdone _ _ hs.done ⟨isWord_of_readHeader? hh, fun d hd => nomatch hd⟩,
      fun b' hb' => nomatch hb'⟩

theorem ReaderState.run_hasWords {s s' : ReaderState} {line : Nat} {raws : List (List Char)}
    (h : s.run line raws = .ok s') (hs : s.HasWords) : s'.HasWords :=
  run_preserves (fun _ _ _ _ hreads => hreads.hasWords) h hs

/-- the names in the blocks of a text are words -/
theorem parse_hasWords {source : String} {bs : List Block} (h : parse source = .ok bs) :
    ∀ b ∈ bs, b.HasWords := by
  unfold parse at h
  split at h
  · cases h
  · next s hrun =>
    have hs := ReaderState.run_hasWords hrun ⟨fun _ hb => (nomatch hb), fun _ hb => (nomatch hb)⟩
    unfold ReaderState.finish at h
    split at h
    · cases h
    · cases h
      exact hs.done

/-! ## models -/

/-- the models of a text and their fields have words as names -/
theorem Catalog.models_hasWords {source : String} {bs : List Block} {c : Catalog}
    (hparse : parse source = .ok bs) (hc : ofBlocks bs = .ok c) :
    ∀ m ∈ c.models, IsWord m.name ∧ ∀ f ∈ m.fields, IsWord f.name := by
  intro m hm
  rw [ofBlocks_models hc] at hm
  obtain ⟨b, hb, hm⟩ := List.mem_filterMap.mp hm
  obtain ⟨-, hname, -, hfields⟩ := Block.model?_eq_some_iff.mp hm
  obtain ⟨hwords, hdecls⟩ := parse_hasWords hparse b hb
  refine ⟨hwords m.name hname, fun f hf => ?_⟩
  rw [hfields] at hf
  obtain ⟨d, hd, rfl⟩ := List.mem_map.mp hf
  exact hdecls d hd

end ResolverTypes.DataModel
