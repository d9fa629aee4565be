import ResolverTypes.Proofs.Text.Lines
import ResolverTypes.Text.Name

/-!
# Names at the start of a text

* `isIdentifier`     the texts that are names, without blanks and other marks in them;
* `takeName?_append` a name is taken from the start of a text, if the rest cannot go on with it;
* `takeName?_eq_some` what is taken is a name, and the rest follows it;
* `IsWord`           a text of name characters only, whatever it starts with.
-/

namespace ResolverTypes.Text

/-- a letter or an underscore, and letters, digits and underscores after it -/
def isIdentifier : List Char → Bool
  | [] => false
  | c :: cs => isNameStart c && cs.all isNameChar

theorem isNameChar_of_isNameStart {c : Char} (h : isNameStart c = true) : isNameChar c = true := by
  unfold isNameStart at h
  unfold isNameChar Char.isAlphanum
  rcases Bool.or_eq_true_iff.mp h with h | h <;> simp [h]

theorem isNameChar_of_mem {cs : List Char} (h : isIdentifier cs = true) {c : Char} (hc : c ∈ cs) :
    isNameChar c = true := by
  cases cs with
  | nil => cases hc
  | cons d cs =>
    rw [isIdentifier, Bool.and_eq_true, List.all_eq_true] at h
    rcases List.mem_cons.mp hc with rfl | hc
    · exact isNameChar_of_isNameStart h.1
    · exact h.2 c hc

theorem isBlank_of_isAlphanum {c : Char} (h : c.isAlphanum = true) : isBlank c = false := by
  delta Char.isAlphanum Char.isAlpha Char.isUpper Char.isLower Char.isDigit at h
  simp only [Bool.or_eq_true, Bool.and_eq_true, decide_eq_true_eq, ge_iff_le,
    UInt32.le_iff_toNat_le, Char.reduceVal, UInt32.reduceToNat] at h
  have hn : c.toNat = c.val.toNat := rfl
  simp only [isBlank, hn, Bool.or_eq_false_iff, Bool.and_eq_false_iff, decide_eq_false_iff_not,
    beq_eq_false_iff_ne]
  omega

theorem isBlank_of_isNameChar {c : Char} (h : isNameChar c = true) : isBlank c = false := by
  rcases Bool.or_eq_true_iff.mp h with h | h
  · exact isBlank_of_isAlphanum h
  · rw [beq_iff_eq.mp h]
    decide

/-- a character that is no part of names stands in no name -/
theorem notMem_of_isIdentifier {cs : List Char} (h : isIdentifier cs = true) {c : Char}
    (hc : isNameChar c = false) : c ∉ cs :=
  notMem_of_test (fun _ hd => isNameChar_of_mem h hd) hc

theorem ne_nil_of_isIdentifier {cs : List Char} (h : isIdentifier cs = true) : cs ≠ [] := by
  rintro rfl
  cases h

theorem isTrimmed_of_isIdentifier {cs : List Char} (h : isIdentifier cs = true) : IsTrimmed cs := by
  have hblank : ∀ c ∈ cs, isBlank c = false := fun c hc => isBlank_of_isNameChar (isNameChar_of_mem h hc)
  exact ⟨fun c hc => hblank c (List.mem_of_head? hc), .of_forall hblank⟩

/-! ## taking a name -/

theorem takeName?_append {name rest : List Char} (h : isIdentifier name = true)
    (hrest : ∀ c ∈ rest.head?, isNameChar c = false) :
    takeName? (name ++ rest) = some (name, rest) := by
  cases name with
  | nil => cases h
  | cons c cs =>
    rw [isIdentifier, Bool.and_eq_true, List.all_eq_true] at h
    obtain ⟨htake, hdrop⟩ := takeWhile_append_of_head h.2 hrest
    rw [List.cons_append, takeName?, if_pos h.1, htake, hdrop]

theorem takeName?_eq_some {cs name rest : List Char} (h : takeName? cs = some (name, rest)) :
    cs = name ++ rest ∧ isIdentifier name = true := by
  cases cs with
  | nil => cases h
  | cons c cs =>
    rw [takeName?] at h
    split at h
    · next hstart =>
      cases h
      refine ⟨by rw [List.cons_append, List.takeWhile_append_dropWhile], ?_⟩
      rw [isIdentifier, hstart, List.all_takeWhile]
      rfl
    · cases h

/-! ## words -/

/-- a text of letters, digits and underscores -/
def IsWord (s : String) : Prop := ∀ c ∈ s.toList, isNameChar c = true

theorem IsWord.no_dot {s : String} (h : IsWord s) : '.' ∉ s.toList := by
  intro hdot
  exact absurd (h '.' hdot) (by decide)

theorem isWord_of_takeName? {cs name rest : List Char} (h : takeName? cs = some (name, rest)) :
    IsWord (String.ofList name) := by
  intro c hc
  rw [String.toList_ofList] at hc
  exact isNameChar_of_mem (takeName?_eq_some h).2 hc

end ResolverTypes.Text
