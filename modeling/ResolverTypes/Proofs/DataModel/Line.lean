import ResolverTypes.DataModel.Line
import ResolverTypes.Proofs.DataModel.Attribute
import ResolverTypes.Proofs.Text.Name

/-!
# What the readers of lines take

Each reader takes what it is for from the start of a text, as long as the rest cannot be taken for more
of it: a name ends before a character that is no part of names, a type before a marker or a blank, and a
marker is there or not (`takeName?_append`, `takeType?_append`, `takeMark_append`).
-/

namespace ResolverTypes.DataModel
open Text

/-! ## gaps and types -/

theorem takeGap?_space {cs : List Char} (h : NoBlankFirst cs) : takeGap? (' ' :: cs) = some cs := by
  have hspace : isBlank ' ' = true := by decide
  rw [takeGap?, if_pos hspace, trimStart_of_noBlankFirst h]

/-- `Unsupported("t")` with a text `t` on one line, without quotes and backslashes -/
def IsUnsupported (cs : List Char) : Prop :=
  ∃ t, cs = "Unsupported(\"".toList ++ (t ++ "\")".toList) ∧ '"' ∉ t ∧ '\\' ∉ t ∧ '\n' ∉ t

instance (cs : List Char) : Decidable (IsUnsupported cs) :=
  let t := (cs.drop 13).take (cs.length - 15)
  decidable_of_iff (cs = "Unsupported(\"".toList ++ (t ++ "\")".toList) ∧
      '"' ∉ t ∧ '\\' ∉ t ∧ '\n' ∉ t) <| by
    constructor
    · exact fun h => ⟨t, h⟩
    · rintro ⟨t', ht', h⟩
      have ht : t = t' := by
        have hlength : cs.length - 15 = t'.length := by
          rw [ht', List.length_append, List.length_append]
          have h1 : "Unsupported(\"".toList.length = 13 := by decide
          have h2 : "\")".toList.length = 2 := by decide
          omega
        show (cs.drop 13).take (cs.length - 15) = t'
        rw [hlength, ht', List.drop_left' (by decide), List.take_left]
      rw [ht]
      exact ⟨ht', h⟩

def IsTypeText (cs : List Char) : Prop := isIdentifier cs = true ∨ IsUnsupported cs

instance (cs : List Char) : Decidable (IsTypeText cs) := inferInstanceAs (Decidable (_ ∨ _))

theorem IsTypeText.first {cs : List Char} (h : IsTypeText cs) : ∃ c ∈ cs.head?, isNameChar c = true := by
  rcases h with h | ⟨t, rfl, -⟩
  · cases cs with
    | nil => cases h
    | cons c cs => exact ⟨c, rfl, isNameChar_of_mem h List.mem_cons_self⟩
  · exact ⟨'U', by simp, by decide⟩

theorem takeType?_append {type rest : List Char} (h : IsTypeText type)
    (hrest : ∀ c ∈ rest.head?, isNameChar c = false ∧ c ≠ '(') :
    takeType? (type ++ rest) = some (type, rest) := by
  unfold takeType?
  dsimp only
  rcases h with h | ⟨t, rfl, h⟩
  · have hname := takeName?_append h fun c hc => (hrest c hc).1
    cases hhead : dropHead? "Unsupported(\"".toList (type ++ rest) with
    | none => exact hname
    | some body =>
      -- the parenthesis would be the first character behind the name
      have htext := dropHead?_eq_some_iff.mp hhead
      have hopen : ∀ c ∈ ('(' :: '"' :: body).head?, isNameChar c = false := by
        rintro c ⟨⟩
        decide
      have hword : isIdentifier "Unsupported".toList = true := by decide
      have hsplit : "Unsupported(\"".toList ++ body = "Unsupported".toList ++ '(' :: '"' :: body := by
        simp
      rw [htext, hsplit, takeName?_append hword hopen] at hname
      cases hname
      exact absurd rfl (hrest '(' rfl).2
  · have hquote : ∀ c ∈ t, (decide (c ≠ '"')) = true := by
      intro c hc
      exact decide_eq_true fun heq => h.1 (heq ▸ hc)
    have hend : ∀ c ∈ ("\")".toList ++ rest).head?, (decide (c ≠ '"')) = false := by
      simp
    obtain ⟨htake, hdrop⟩ := takeWhile_append_of_head hquote hend
    rw [List.append_assoc, List.append_assoc, dropHead?_append]
    dsimp only [bind, Option.bind]
    rw [hdrop, dropHead?_append, htake, List.append_assoc]
    rfl

/-! ## markers and what follows them -/

theorem takeMark_append {m : Char} {ms rest : List Char} (b : Bool) (h : ∀ c ∈ rest.head?, c ≠ m) :
    takeMark (m :: ms) ((if b then m :: ms else []) ++ rest) = (b, rest) := by
  unfold takeMark
  cases b with
  | true => rw [if_pos rfl, dropHead?_append]
  | false =>
    rw [if_neg Bool.false_ne_true, List.nil_append]
    cases rest with
    | nil => rfl
    | cons c rest =>
      rw [dropHead?_cons_of_ne (h c rfl).symm]

end ResolverTypes.DataModel
