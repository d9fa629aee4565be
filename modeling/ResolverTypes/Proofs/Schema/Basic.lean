import ResolverTypes.Proofs.Schema.Assembly
import ResolverTypes.Proofs.Schema.Sdl

/-!
# What holds of every schema that is accepted

* `parse_types_nodup`   the names of the types are distinct;
* `parse_hasWords`      the names of types and fields are words.

Extensions change neither the names of the types nor their order.
-/

namespace ResolverTypes.Schema

theorem definitions_of_parse {source : String} {s : Schema} (h : parse source = .ok s) :
    ∃ ds, Sdl.parse? source = some ds ∧ IsConsistent ds ∧ s = assemble ds := by
  cases hds : Sdl.parse? source with
  | none =>
    unfold parse at h
    rw [hds] at h
    cases h
  | some ds => exact ⟨ds, rfl, (parse_eq_ok_iff hds).mp h⟩

theorem parse_types_nodup {source : String} {s : Schema} (h : parse source = .ok s) :
    (s.types.map (·.name)).Nodup := by
  obtain ⟨ds, -, hds, rfl⟩ := definitions_of_parse h
  rw [names_assemble]
  exact hds.distinct

/-- what a selection by constructor returns stands in the document under that constructor -/
theorem mem_of_mem_selection {ds : List Definition} {select : Definition → Option TypeDef}
    {mk : TypeDef → Definition} (hselect : ∀ d t, select d = some t → d = mk t) {t : TypeDef}
    (ht : t ∈ ds.filterMap select) : mk t ∈ ds := by
  obtain ⟨d, hd, heq⟩ := List.mem_filterMap.mp ht
  rw [← hselect d t heq]
  exact hd

theorem mem_of_mem_definedTypes {ds : List Definition} {t : TypeDef} (ht : t ∈ definedTypes ds) :
    .type t ∈ ds := by
  refine mem_of_mem_selection (fun d u hu => ?_) ht
  cases d <;> cases hu
  rfl

theorem mem_of_mem_extensions {ds : List Definition} {e : TypeDef} (he : e ∈ extensions ds) :
    .extension e ∈ ds := by
  refine mem_of_mem_selection (fun d u hu => ?_) he
  cases d <;> cases hu
  rfl

/-- extensions add fields and leave the name -/
theorem TypeDef.HasWords.extendBy {t : TypeDef} (ht : t.HasWords) {exts : List TypeDef}
    (hexts : ∀ e ∈ exts, e.HasWords) : (t.extendBy exts).HasWords := by
  refine ⟨ht.1, fun f hf => ?_⟩
  rcases List.mem_append.mp hf with hf | hf
  · exact ht.2 f hf
  · obtain ⟨e, he, hf⟩ := List.mem_flatMap.mp hf
    exact (hexts e he).2 f hf

/-- what the definitions and the extensions of a document are like -/
theorem isWritten_of_mem {source : String} {ds : List Definition} (h : Sdl.parse? source = some ds)
    {t : TypeDef} (ht : t ∈ definedTypes ds ++ extensions ds) : t.IsWritten := by
  rcases List.mem_append.mp ht with ht | ht
  · exact Sdl.parse?_isWritten h _ (mem_of_mem_definedTypes ht)
  · exact Sdl.parse?_isWritten h _ (mem_of_mem_extensions ht)

theorem parse_hasWords {source : String} {s : Schema} (h : parse source = .ok s) :
    ∀ t ∈ s.types, t.HasWords := by
  obtain ⟨ds, hparse, -, rfl⟩ := definitions_of_parse h
  intro t ht
  obtain ⟨base, hbase, rfl⟩ := List.mem_map.mp ht
  refine (isWritten_of_mem hparse (List.mem_append_left _ hbase)).words.extendBy fun e he => ?_
  exact (isWritten_of_mem hparse (List.mem_append_right _ (mem_extensionsOf.mp he).1)).words

end ResolverTypes.Schema
