import ResolverTypes.Text.Reader

/-!
# What a reader gives

`Reader.Gives p P` says that whatever the reader `p` takes from a text satisfies `P`.  One lemma
for each way to put readers together, so that a fact about the parts of a grammar carries over to
all of it.
-/

namespace ResolverTypes.Text

namespace Reader
variable {α β : Type}

/-- every value that a reader takes from a text satisfies `P` -/
def Gives (p : Reader α) (P : α → Prop) : Prop := ∀ cs a rest, p cs = some (a, rest) → P a

namespace Gives
variable {P : α → Prop} {Q : β → Prop}

theorem mono {p : Reader α} {P' : α → Prop} (h : p.Gives P) (hP : ∀ a, P a → P' a) : p.Gives P' :=
  fun cs a rest hp => hP a (h cs a rest hp)

theorem pure {a : α} (h : P a) : Gives (Pure.pure a : Reader α) P := by
  rintro cs _ _ ⟨⟩
  exact h

theorem fail : Gives (Reader.fail : Reader α) P := by
  rintro cs a rest ⟨⟩

theorem bind {p : Reader α} {f : α → Reader β} (hp : p.Gives P) (hf : ∀ a, P a → (f a).Gives Q) :
    Gives (p >>= f) Q := by
  intro cs b rest h
  change Reader.bind p f cs = _ at h
  unfold Reader.bind at h
  split at h
  · next a rest' ha => exact hf a (hp _ _ _ ha) _ _ _ h
  · cases h

/-- what is given need not depend on what was read before -/
theorem after {p : Reader α} {f : α → Reader β} (h : ∀ a, (f a).Gives Q) : Gives (p >>= f) Q :=
  bind (P := fun _ => True) (fun _ _ _ _ => trivial) fun a _ => h a

theorem orElse {p q : Reader α} (hp : p.Gives P) (hq : q.Gives P) : Gives (p <|> q) P := by
  intro cs a rest h
  change Reader.orElse p (fun _ => q) cs = _ at h
  unfold Reader.orElse at h
  split at h
  · next r hr =>
    cases h
    exact hp _ _ _ hr
  · exact hq _ _ _ h

theorem optional {p : Reader α} (hp : p.Gives P) : (Reader.optional p).Gives fun o => ∀ a ∈ o, P a := by
  intro cs o rest h
  unfold Reader.optional at h
  split at h
  · next a rest' ha =>
    cases h
    intro b hb
    cases hb
    exact hp _ _ _ ha
  · cases h
    intro b hb
    cases hb

theorem manyUpTo {p : Reader α} (hp : p.Gives P) (n : Nat) :
    (Reader.manyUpTo p n).Gives fun as => ∀ a ∈ as, P a := by
  induction n with
  | zero =>
    rintro cs _ _ ⟨⟩ a ha
    cases ha
  | succ n ih =>
    intro cs as rest h
    unfold Reader.manyUpTo at h
    split at h
    · cases h
      intro a ha
      cases ha
    · next a rest' ha =>
      split at h
      · next as' rest'' has =>
        cases h
        intro b hb
        rcases List.mem_cons.mp hb with rfl | hb
        · exact hp _ _ _ ha
        · exact ih _ _ _ has b hb
      · cases h

theorem many {p : Reader α} (hp : p.Gives P) : (Reader.many p).Gives fun as => ∀ a ∈ as, P a :=
  fun cs => manyUpTo hp cs.length cs

theorem many1 {p : Reader α} (hp : p.Gives P) : (Reader.many1 p).Gives fun as => ∀ a ∈ as, P a := by
  refine bind hp fun a ha => bind (many hp) fun as has => pure ?_
  intro b hb
  rcases List.mem_cons.mp hb with rfl | hb
  · exact ha
  · exact has b hb

end Gives

end Reader

end ResolverTypes.Text
