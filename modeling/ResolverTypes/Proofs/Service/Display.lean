import ResolverTypes.Config.Basic
import ResolverTypes.Proofs.File.Path
import ResolverTypes.Proofs.File.Store

/-!
# How services are shown

A path is shown relative to the base if it lies below it, and as it is otherwise.  Two paths could
then be shown alike: one below the base and one beside it.  That does not happen to services, since
their directory is below the base as well, unless it is absolute; and an absolute path is no end of
another path (`PathsConfig.same_of_display`).
-/

namespace ResolverTypes

theorem PathSettings.display_cases (s : PathSettings) (p : Path) :
    (p.startsWith s.root = true ∧ p.components = s.root.components ++ (s.display p).components) ∨
      (p.startsWith s.root = false ∧ s.display p = p) := by
  cases hrelative : p.relativeTo? s.root with
  | some r =>
    have hdisplay : s.display p = r := by
      unfold display
      rw [hrelative, Option.getD_some]
    have hcomponents := Path.components_of_relativeTo? hrelative
    rw [hdisplay]
    exact .inl ⟨Path.startsWith_iff.mpr ⟨_, hcomponents⟩, hcomponents⟩
  | none =>
    refine .inr ⟨?_, ?_⟩
    · unfold Path.relativeTo? at hrelative
      split at hrelative
      · cases hrelative
      · next h => exact Bool.eq_false_iff.mpr h
    · unfold display
      rw [hrelative, Option.getD_none]

namespace PathsConfig
variable {c : PathsConfig} {p q : Path}

/-- among services, a path below the base is not shown as one beside it is -/
theorem display_ne_of_beside (hq : q.startsWith c.settings.services = true)
    (hbelow : p.components = c.base.components ++ (c.settings.display p).components)
    (hbeside : q.startsWith c.base = false) : c.settings.display p ≠ q := by
  rintro rfl
  obtain ⟨rest, hrest⟩ := Path.startsWith_iff.mp hq
  generalize c.settings.display p = r at *
  have hbase : c.base.components ≠ [] := by
    intro hnil
    rw [Path.startsWith_iff.mpr ⟨r.components, by rw [hnil, List.nil_append]⟩] at hbeside
    cases hbeside
  rcases Path.join_startsWith_or c.base c.services with hservices | hservices
  · -- the directory of the services is below the base, and so is what is below the directory
    obtain ⟨more, hmore⟩ := Path.startsWith_iff.mp hservices
    have hr : r.startsWith c.base = true := by
      refine Path.startsWith_iff.mpr ⟨more ++ rest, ?_⟩
      rw [← List.append_assoc, ← hmore]
      exact hrest
    rw [hr] at hbeside
    cases hbeside
  · -- the directory is absolute, and the root would be a step inside `p`
    obtain ⟨more, hmore⟩ := List.head?_eq_some_iff.mp hservices
    have hroot : .root ∈ r.components := by
      rw [hrest]
      refine List.mem_append_left rest ?_
      show Component.root ∈ (c.base.join c.services).components
      rw [hmore]
      exact List.mem_cons_self
    obtain ⟨first, others, hfirst⟩ := List.exists_cons_of_ne_nil hbase
    refine Path.root_notMem_tail p ?_
    rw [hbelow, hfirst, List.cons_append, List.tail_cons]
    exact List.mem_append_right others hroot

/-- services that are shown alike are the same file -/
theorem same_of_display (hp : p.startsWith c.settings.services = true)
    (hq : q.startsWith c.settings.services = true)
    (h : (c.settings.display p).text = (c.settings.display q).text) : p.same q = true := by
  have hdisplay : c.settings.display p = c.settings.display q := congrArg Path.mk h
  rw [Path.same_iff]
  rcases c.settings.display_cases p with ⟨-, hpbelow⟩ | ⟨hpbeside, hpshown⟩
  · rcases c.settings.display_cases q with ⟨-, hqbelow⟩ | ⟨hqbeside, hqshown⟩
    · rw [hpbelow, hqbelow, hdisplay]
    · rw [hqshown] at hdisplay
      exact absurd hdisplay (display_ne_of_beside hq hpbelow hqbeside)
  · rcases c.settings.display_cases q with ⟨-, hqbelow⟩ | ⟨-, hqshown⟩
    · rw [hpshown] at hdisplay
      exact absurd hdisplay.symm (display_ne_of_beside hp hqbelow hpbeside)
    · rw [← hpshown, hdisplay, hqshown]

end PathsConfig

end ResolverTypes
