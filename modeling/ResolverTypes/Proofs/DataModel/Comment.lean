import ResolverTypes.DataModel.Comment
import Mathlib.Data.List.Basic

/-!
# Comments, character by character

Whether a character counts depends on the string literals before it.  `Quoting` is what a scan has to
remember of them, one character at a time, and `beforeComment` is the text before the first comment
mark that stands outside a string.

The program scans bytes.  Bytes of characters beyond ASCII are never taken for quotes, slashes or
backslashes, so a backslash that hides the first byte of such a character hides all of it, and the two
scans agree (`stripComment_eq`).
-/

namespace ResolverTypes.DataModel

/-! ## string literals -/

/-- where a scan stands: outside strings, inside one, or behind a backslash inside one -/
inductive Quoting where
  | outside
  | inside
  | escaped
deriving DecidableEq, Repr

def Quoting.next (q : Quoting) (c : Char) : Quoting :=
  match q with
  | .outside => if c = '"' then .inside else .outside
  | .inside => if c = '"' then .outside else if c = '\\' then .escaped else .inside
  | .escaped => .inside

/-- where a scan stands after a text -/
def Quoting.after (q : Quoting) (cs : List Char) : Quoting := cs.foldl Quoting.next q

namespace Quoting

@[simp] theorem after_nil (q : Quoting) : q.after [] = q := rfl

@[simp] theorem after_cons (q : Quoting) (c : Char) (cs : List Char) :
    q.after (c :: cs) = (q.next c).after cs := rfl

theorem after_append (q : Quoting) (xs ys : List Char) :
    q.after (xs ++ ys) = (q.after xs).after ys := List.foldl_append

theorem after_outside {cs : List Char} (h : '"' ∉ cs) : outside.after cs = outside := by
  induction cs with
  | nil => rfl
  | cons c cs ih =>
    obtain ⟨hc, hcs⟩ := List.ne_and_not_mem_of_not_mem_cons h
    rw [after_cons, next, if_neg (Ne.symm hc)]
    exact ih hcs

end Quoting

/-- the text before the first comment mark outside strings -/
def beforeComment (q : Quoting) : List Char → List Char
  | [] => []
  | c :: cs =>
    if q = .outside ∧ c = '/' ∧ cs.head? = some '/' then [] else c :: beforeComment (q.next c) cs

theorem beforeComment_prefix (q : Quoting) (cs : List Char) : beforeComment q cs <+: cs := by
  induction cs generalizing q with
  | nil => exact List.prefix_rfl
  | cons c cs ih =>
    unfold beforeComment
    split
    · exact List.nil_prefix
    · exact List.cons_prefix_cons.mpr ⟨rfl, ih _⟩

/-! ## bytes -/

@[simp] theorem utf8_nil : utf8 [] = [] := rfl

theorem utf8_cons (c : Char) (cs : List Char) : utf8 (c :: cs) = String.utf8EncodeChar c ++ utf8 cs :=
  rfl

theorem utf8EncodeChar_of_ascii {c : Char} (h : c.toNat < 0x80) :
    String.utf8EncodeChar c = [UInt8.ofNat c.toNat] := by
  have h' : c.val.toNat ≤ 0x7f := Nat.le_of_lt_succ h
  unfold String.utf8EncodeChar
  rw [if_pos h']
  rfl

theorem utf8EncodeChar_of_not_ascii {c : Char} (h : ¬c.toNat < 0x80) :
    ∀ b ∈ String.utf8EncodeChar c, 0x80 ≤ b.toNat := by
  have h' : ¬c.val.toNat ≤ 0x7f := fun hle => h (Nat.lt_succ_of_le hle)
  unfold String.utf8EncodeChar
  rw [if_neg h']
  intro b hb
  split at hb
  · simp only [List.mem_cons, List.not_mem_nil, or_false] at hb
    rcases hb with rfl | rfl <;> rw [UInt8.toNat_ofNat'] <;> omega
  · split at hb
    · simp only [List.mem_cons, List.not_mem_nil, or_false] at hb
      rcases hb with rfl | rfl | rfl <;> rw [UInt8.toNat_ofNat'] <;> omega
    · simp only [List.mem_cons, List.not_mem_nil, or_false] at hb
      rcases hb with rfl | rfl | rfl | rfl <;> rw [UInt8.toNat_ofNat'] <;> omega

theorem eq_of_byte_eq {c d : Char} (hc : c.toNat < 0x80) (hd : d.toNat < 0x80)
    (h : UInt8.ofNat c.toNat = UInt8.ofNat d.toNat) : c = d := by
  have hn := congrArg UInt8.toNat h
  rw [UInt8.toNat_ofNat', UInt8.toNat_ofNat', Nat.mod_eq_of_lt (by omega),
    Nat.mod_eq_of_lt (by omega)] at hn
  exact Char.toNat_inj.mp hn

theorem utf8_head?_eq_slash {cs : List Char} :
    (utf8 cs).head? = some slashByte ↔ cs.head? = some '/' := by
  cases cs with
  | nil => simp
  | cons c cs =>
    rw [utf8_cons, List.head?_cons, Option.some.injEq]
    by_cases h : c.toNat < 0x80
    · rw [utf8EncodeChar_of_ascii h, List.singleton_append, List.head?_cons, Option.some.injEq]
      constructor
      · intro hb
        exact eq_of_byte_eq h (d := '/') (by decide) hb
      · rintro rfl
        rfl
    · have hbytes := utf8EncodeChar_of_not_ascii h
      cases henc : String.utf8EncodeChar c with
      | nil => exact absurd henc String.utf8EncodeChar_ne_nil
      | cons b bs =>
        have hb := hbytes b (henc ▸ List.mem_cons_self)
        rw [List.cons_append, List.head?_cons, Option.some.injEq]
        constructor
        · rintro rfl
          exact absurd hb (by decide)
        · rintro rfl
          exact absurd (by decide) h

/-! ## the scan of bytes -/

section
variable {b : UInt8} {bs : List UInt8} {quoted : Bool}

theorem commentOffset_quote (quoted : Bool) (bs : List UInt8) :
    commentOffset quoted (quoteByte :: bs) = 1 + commentOffset (!quoted) bs := by
  cases bs with
  | nil => rfl
  | cons b' bs =>
    rw [commentOffset]
    have hq : (quoteByte == escapeByte) = false := by decide
    rw [hq, Bool.and_false, if_neg Bool.false_ne_true, if_pos (beq_self_eq_true quoteByte)]

theorem commentOffset_slash (bs : List UInt8) :
    commentOffset false (slashByte :: bs) =
      if bs.head? = some slashByte then 0 else 1 + commentOffset false bs := by
  cases bs with
  | nil => rfl
  | cons b' bs =>
    have hq : (slashByte == quoteByte) = false := by decide
    rw [commentOffset, Bool.false_and, if_neg Bool.false_ne_true, hq, if_neg Bool.false_ne_true,
      List.head?_cons]
    simp

theorem commentOffset_plain (hquote : b ≠ quoteByte) (hescape : quoted = true → b ≠ escapeByte)
    (hslash : quoted = false → b ≠ slashByte) :
    commentOffset quoted (b :: bs) = 1 + commentOffset quoted bs := by
  cases bs with
  | nil => rfl
  | cons b' bs =>
    rw [commentOffset]
    cases quoted with
    | false => simp [hquote, hslash rfl]
    | true => simp [hquote, hescape rfl]

theorem commentOffset_append (hbs : ∀ b ∈ bs, 0x80 ≤ b.toNat) (rest : List UInt8) :
    commentOffset quoted (bs ++ rest) = bs.length + commentOffset quoted rest := by
  induction bs with
  | nil => rw [List.nil_append, List.length_nil, Nat.zero_add]
  | cons b bs ih =>
    have hb := hbs b List.mem_cons_self
    have hne : ∀ b' : UInt8, b'.toNat < 0x80 → b ≠ b' := by
      rintro b' hb' rfl
      omega
    rw [List.cons_append, commentOffset_plain (hne _ (by decide)) (fun _ => hne _ (by decide))
      fun _ => hne _ (by decide), ih fun b' hb' => hbs b' (List.mem_cons_of_mem _ hb'),
      List.length_cons]
    omega

end

/-- the scan of bytes from any place; behind a backslash it skips one byte -/
def Quoting.offset : Quoting → List UInt8 → Nat
  | .outside, bs => commentOffset false bs
  | .inside, bs => commentOffset true bs
  | .escaped, [] => 0
  | .escaped, _ :: bs => 1 + commentOffset true bs

theorem commentOffset_escape (bs : List UInt8) :
    commentOffset true (escapeByte :: bs) = 1 + Quoting.escaped.offset bs := by
  cases bs with
  | nil => rfl
  | cons b' bs =>
    rw [commentOffset, Bool.true_and, if_pos (beq_self_eq_true escapeByte), Quoting.offset]
    omega

/-- the scan of bytes goes over a whole character at a time -/
theorem Quoting.offset_utf8_cons (q : Quoting) (c : Char) (cs : List Char) :
    q.offset (utf8 (c :: cs)) =
      if q = .outside ∧ c = '/' ∧ cs.head? = some '/' then 0
      else c.utf8Size + (q.next c).offset (utf8 cs) := by
  rw [utf8_cons, ← String.length_utf8EncodeChar]
  by_cases hascii : c.toNat < 0x80
  · rw [utf8EncodeChar_of_ascii hascii, List.singleton_append, List.length_singleton]
    have hne : ∀ d : Char, d.toNat < 0x80 → c ≠ d → UInt8.ofNat c.toNat ≠ UInt8.ofNat d.toNat :=
      fun d hd hcd h => hcd (eq_of_byte_eq hascii hd h)
    cases q with
    | outside =>
      by_cases hquote : c = '"'
      · rw [hquote, if_neg fun h => absurd h.2.1 (by decide)]
        exact commentOffset_quote false (utf8 cs)
      · have hnext : Quoting.outside.next c = .outside := if_neg hquote
        rw [hnext]
        by_cases hslash : c = '/'
        · rw [hslash]
          refine (commentOffset_slash (utf8 cs)).trans ?_
          simp only [utf8_head?_eq_slash, true_and]
          rfl
        · rw [if_neg fun h => hslash h.2.1]
          exact commentOffset_plain (hne '"' (by decide) hquote) nofun
            fun _ => hne '/' (by decide) hslash
    | inside =>
      rw [if_neg fun h => nomatch h.1]
      by_cases hquote : c = '"'
      · rw [hquote]
        exact commentOffset_quote true (utf8 cs)
      · by_cases hescape : c = '\\'
        · rw [hescape]
          exact commentOffset_escape (utf8 cs)
        · have hnext : Quoting.inside.next c = .inside := by rw [next, if_neg hquote, if_neg hescape]
          rw [hnext]
          exact commentOffset_plain (hne '"' (by decide) hquote)
            (fun _ => hne '\\' (by decide) hescape) nofun
    | escaped =>
      rw [if_neg fun h => nomatch h.1]
      rfl
  · have hbytes := utf8EncodeChar_of_not_ascii hascii
    have hne : ∀ d : Char, d.toNat < 0x80 → c ≠ d := by
      rintro d hd rfl
      exact hascii hd
    rw [if_neg fun h => hne '/' (by decide) h.2.1]
    cases q with
    | outside =>
      have hnext : Quoting.outside.next c = .outside := if_neg (hne '"' (by decide))
      rw [hnext]
      exact commentOffset_append hbytes (utf8 cs)
    | inside =>
      have hnext : Quoting.inside.next c = .inside := by
        rw [next, if_neg (hne '"' (by decide)), if_neg (hne '\\' (by decide))]
      rw [hnext]
      exact commentOffset_append hbytes (utf8 cs)
    | escaped =>
      -- the backslash hides the first byte, and the others count for nothing
      cases henc : String.utf8EncodeChar c with
      | nil => exact absurd henc String.utf8EncodeChar_ne_nil
      | cons b bs =>
        rw [henc] at hbytes
        show 1 + commentOffset true (bs ++ utf8 cs) = bs.length + 1 + commentOffset true (utf8 cs)
        rw [commentOffset_append fun b' hb' => hbytes b' (List.mem_cons_of_mem _ hb')]
        omega

theorem Quoting.offset_utf8 (q : Quoting) (cs : List Char) :
    q.offset (utf8 cs) = (utf8 (beforeComment q cs)).length := by
  induction cs generalizing q with
  | nil => cases q <;> rfl
  | cons c cs ih =>
    rw [offset_utf8_cons, beforeComment]
    split
    · rfl
    · rw [utf8_cons, List.length_append, String.length_utf8EncodeChar, ih]

theorem takeBytes_append (xs ys : List Char) : takeBytes (utf8 xs).length (xs ++ ys) = xs := by
  induction xs with
  | nil =>
    cases ys with
    | nil => rfl
    | cons c ys =>
      have hpos := c.utf8Size_pos
      exact if_neg (Nat.not_le_of_lt hpos)
  | cons c xs ih =>
    rw [List.cons_append, takeBytes, utf8_cons, List.length_append, String.length_utf8EncodeChar,
      if_pos (Nat.le_add_right ..), Nat.add_sub_cancel_left, ih]

/-- **comments are cut between characters**, at the first mark outside strings -/
theorem stripComment_eq (line : List Char) : stripComment line = beforeComment .outside line := by
  obtain ⟨rest, hrest⟩ := beforeComment_prefix .outside line
  have hoffset : commentOffset false (utf8 line) = (utf8 (beforeComment .outside line)).length :=
    Quoting.offset_utf8 .outside line
  rw [stripComment, hoffset]
  conv => lhs; arg 2; rw [← hrest]
  exact takeBytes_append _ rest

/-! ## texts without comments -/

/-- no comment mark stands outside strings -/
def isCommentFree (q : Quoting) : List Char → Bool
  | [] => true
  | c :: cs =>
    !(q == .outside && c == '/' && cs.head? == some '/') && isCommentFree (q.next c) cs

theorem beforeComment_of_isCommentFree {q : Quoting} {cs : List Char} (h : isCommentFree q cs = true) :
    beforeComment q cs = cs := by
  induction cs generalizing q with
  | nil => rfl
  | cons c cs ih =>
    rw [isCommentFree, Bool.and_eq_true, Bool.not_eq_true'] at h
    have hmark : ¬(q = .outside ∧ c = '/' ∧ cs.head? = some '/') := by
      simpa [and_assoc] using h.1
    rw [beforeComment, if_neg hmark, ih h.2]

/-- a text has a comment mark where one of its parts has one, unless two slashes meet -/
theorem isCommentFree_append_of_joint {xs ys : List Char}
    (h : xs.getLast? = some '/' → ys.head? ≠ some '/') (q : Quoting) :
    isCommentFree q (xs ++ ys) = (isCommentFree q xs && isCommentFree (q.after xs) ys) := by
  induction xs generalizing q with
  | nil => rfl
  | cons c xs ih =>
    have hmark : (c == '/' && (xs ++ ys).head? == some '/') = (c == '/' && xs.head? == some '/') := by
      cases xs with
      | nil => simpa using h
      | cons d xs => rfl
    have htail : xs.getLast? = some '/' → ys.head? ≠ some '/' := by
      cases xs with
      | nil => nofun
      | cons d xs => exact h
    rw [List.cons_append, isCommentFree, isCommentFree, Bool.and_assoc, hmark, ih htail,
      Quoting.after_cons, ← Bool.and_assoc, Bool.and_assoc (q == .outside)]

theorem isCommentFree_append {xs ys : List Char} (hys : ∀ c ∈ ys.head?, c ≠ '/') (q : Quoting) :
    isCommentFree q (xs ++ ys) = (isCommentFree q xs && isCommentFree (q.after xs) ys) :=
  isCommentFree_append_of_joint (fun _ hhead => hys '/' hhead rfl) q

/-- a comment behind a text without one -/
theorem beforeComment_append {q : Quoting} {xs ys : List Char} (hxs : isCommentFree q xs = true)
    (h : xs.getLast? = some '/' → ys.head? ≠ some '/') :
    beforeComment q (xs ++ ys) = xs ++ beforeComment (q.after xs) ys := by
  induction xs generalizing q with
  | nil => rfl
  | cons c xs ih =>
    rw [isCommentFree, Bool.and_eq_true, Bool.not_eq_true'] at hxs
    have hfree : ¬((q = .outside ∧ c = '/') ∧ xs.head? = some '/') := by simpa using hxs.1
    have hmark : ¬(q = .outside ∧ c = '/' ∧ (xs ++ ys).head? = some '/') := by
      rintro ⟨hq, hc, hhead⟩
      cases xs with
      | nil => exact h (by rw [hc]; rfl) hhead
      | cons d xs => exact hfree ⟨⟨hq, hc⟩, hhead⟩
    have htail : xs.getLast? = some '/' → ys.head? ≠ some '/' := by
      cases xs with
      | nil => nofun
      | cons d xs => exact h
    rw [List.cons_append, beforeComment, if_neg hmark, ih hxs.2 htail]
    rfl

theorem isCommentFree_of_notMem {cs : List Char} (h : '/' ∉ cs) (q : Quoting) :
    isCommentFree q cs = true := by
  induction cs generalizing q with
  | nil => rfl
  | cons c cs ih =>
    obtain ⟨hc, hcs⟩ := List.ne_and_not_mem_of_not_mem_cons h
    have hslash : (c == '/') = false := by simpa using Ne.symm hc
    rw [isCommentFree, hslash, Bool.and_false, Bool.false_and, Bool.not_false, Bool.true_and]
    exact ih hcs _

end ResolverTypes.DataModel
