import ResolverTypes.Proofs.DataModel.Concatenation

/-!
# Where documentation goes

A documentation line waits for the next header or property below it, and a closing brace does not end
the wait.  So the documentation of a field or an enum value stands in its own block, between the
declaration before it and its own line.  The documentation of a block stands above its header too, but
it goes back to the last declaration before: what waits at the closing brace of one block goes to the
next one.

Lines are numbered from 1:

* `docsBetween`      the documentation lines after one line and up to another one;
* `lastDeclaration`  the last header or property among the first lines;
* `Block.endLine`    the line that closes a block.

`parse_documented` is the result.  A block gets the documentation above it and nothing else exactly if
none waits where the block before it ends.
-/

namespace ResolverTypes.DataModel
open Text

/-! ## documentation lines -/

/-- the text of a documentation line -/
def docText? (raw : List Char) : Option (List Char) := (dropHead? "///".toList (trim raw)).map trim

theorem docText?_eq_some_iff {raw text : List Char} :
    docText? raw = some text ↔ lineShape raw = .doc text := by
  unfold docText? lineShape
  dsimp only
  cases dropHead? "///".toList (trim raw) with
  | some doc => simp
  | none =>
    dsimp only
    split <;> simp

theorem docText?_eq_none {raw : List Char} {shape : LineShape} (h : lineShape raw = shape)
    (hne : ∀ text, shape ≠ .doc text) : docText? raw = none := by
  cases hdoc : docText? raw with
  | none => rfl
  | some text => exact absurd (h.symm.trans (docText?_eq_some_iff.mp hdoc)) (hne text)

section
variable (ls : List (List Char))

/-- the documentation lines after line `m`, up to line `n` -/
def docsBetween (m n : Nat) : List (List Char) := ((ls.take n).drop m).filterMap docText?

theorem docsBetween_self (n : Nat) : docsBetween ls n n = [] := by
  unfold docsBetween
  rw [List.drop_take_self]
  rfl

variable {ls}

theorem drop_take_append {m e n : Nat} (hm : m ≤ e) (he : e ≤ n) :
    (ls.take n).drop m = (ls.take e).drop m ++ (ls.take n).drop e := by
  have hsplit : ls.take n = ls.take e ++ (ls.take n).drop e := by
    conv => lhs; rw [← List.take_append_drop e (ls.take n), List.take_take, Nat.min_eq_left he]
  by_cases hlen : e ≤ ls.length
  · have hlength : m ≤ (ls.take e).length := by rw [List.length_take]; omega
    conv => lhs; rw [hsplit]
    exact List.drop_append_of_le_length hlength
  · rw [List.take_of_length_le (by omega), List.take_of_length_le (by omega),
      List.drop_of_length_le (i := e) (by omega), List.append_nil]

theorem drop_take_succ {k : Nat} {raw : List Char} (h : ls[k]? = some raw) :
    (ls.take (k + 1)).drop k = [raw] := by
  obtain ⟨hlt, -⟩ := List.getElem?_eq_some_iff.mp h
  rw [List.take_add_one, h, List.drop_append_of_le_length (by rw [List.length_take]; omega),
    List.drop_take_self]
  rfl

theorem docsBetween_append {m e n : Nat} (hm : m ≤ e) (he : e ≤ n) :
    docsBetween ls m n = docsBetween ls m e ++ docsBetween ls e n := by
  unfold docsBetween
  rw [drop_take_append hm he, List.filterMap_append]

/-- one more line, with its documentation if it has one -/
theorem docsBetween_succ {k : Nat} {raw : List Char} (h : ls[k]? = some raw) {m : Nat} (hm : m ≤ k) :
    docsBetween ls m (k + 1) = docsBetween ls m k ++ (docText? raw).toList := by
  have hlast : docsBetween ls k (k + 1) = (docText? raw).toList := by
    unfold docsBetween
    rw [drop_take_succ h]
    cases hdoc : docText? raw <;> simp [hdoc]
  rw [docsBetween_append hm (Nat.le_add_right k 1), hlast]

/-! ## declarations -/

variable (ls) in
/-- the last of the first `n` lines that is a header or a property, or 0 -/
def lastDeclaration : Nat → Nat
  | 0 => 0
  | n + 1 => if ls[n]?.any isDeclarationLine then n + 1 else lastDeclaration n

theorem lastDeclaration_le (n : Nat) : lastDeclaration ls n ≤ n := by
  induction n with
  | zero => exact Nat.le_refl 0
  | succ n ih =>
    unfold lastDeclaration
    split
    · exact Nat.le_refl _
    · omega

theorem lastDeclaration_mono {m n : Nat} (h : m ≤ n) : lastDeclaration ls m ≤ lastDeclaration ls n := by
  induction h with
  | refl => exact Nat.le_refl _
  | step hle ih =>
    conv => rhs; unfold lastDeclaration
    split
    · have hself : lastDeclaration ls m ≤ m := lastDeclaration_le m
      have hbefore : m ≤ _ := hle
      omega
    · exact ih

theorem lastDeclaration_succ {k : Nat} {raw : List Char} (h : ls[k]? = some raw) :
    lastDeclaration ls (k + 1) =
      if isDeclarationLine raw then k + 1 else lastDeclaration ls k := by
  rw [lastDeclaration, h]
  rfl

end

/-! ## ends of blocks -/

/-- a header that closes its block -/
def isClosedHeader (raw : List Char) : Bool :=
  match lineShape raw with
  | .content cs => (readHeader? cs).any (·.closed)
  | _ => false

def isClosingBrace (raw : List Char) : Bool := lineShape raw == .close

/-- the line that closes a block: its header, or the first closing brace below it -/
def Block.endLine (ls : List (List Char)) (b : Block) : Nat :=
  if ls[b.line - 1]?.any isClosedHeader then b.line
  else b.line + ((ls.drop b.line).takeWhile fun raw => !isClosingBrace raw).length + 1

/-- where the last of some blocks ends, or 0 -/
def endOf (ls : List (List Char)) (blocks : List Block) : Nat :=
  blocks.getLast?.elim 0 (Block.endLine ls)

section
variable {ls : List (List Char)} {k : Nat} {raw : List Char} {b : Block}

theorem endOf_concat (done : List Block) (b : Block) : endOf ls (done ++ [b]) = b.endLine ls := by
  unfold endOf
  rw [List.getLast?_concat]
  rfl

/-! ## what the reader holds -/

/-- the documentation of a block and of its properties is what the lines say, where the block before
ends at line `e` -/
structure Block.IsDocumented (ls : List (List Char)) (e : Nat) (b : Block) : Prop where
  below : e < b.line
  header : lastDeclaration ls b.line = b.line
  documentation : b.documentation = joinDocs (docsBetween ls (lastDeclaration ls e) b.line)
  properties : ∀ p ∈ b.properties, ∀ n ∈ p.line?,
    lastDeclaration ls n = n ∧ b.line ≤ lastDeclaration ls (n - 1) ∧
      p.documentation = joinDocs (docsBetween ls (lastDeclaration ls (n - 1)) n)

/-- the first `k` lines go beyond the header of a block, but not to its end -/
structure Block.IsOpen (ls : List (List Char)) (k : Nat) (b : Block) : Prop where
  started : b.line ≤ lastDeclaration ls k
  header : ls[b.line - 1]?.any isClosedHeader = false
  braces : ∀ raw ∈ (ls.take k).drop b.line, isClosingBrace raw = false
  lines : ∀ p ∈ b.properties, ∀ n ∈ p.line?, n ≤ k

/-- a block holds its properties -/
structure Block.IsClosed (ls : List (List Char)) (b : Block) : Prop where
  ended : b.line ≤ b.endLine ls
  lines : ∀ p ∈ b.properties, ∀ n ∈ p.line?, n < b.endLine ls

theorem Block.IsOpen.next (hb : b.IsOpen ls k) (h : ls[k]? = some raw)
    (hraw : isClosingBrace raw = false) : b.IsOpen ls (k + 1) where
  started := Nat.le_trans hb.started (lastDeclaration_mono (Nat.le_add_right k 1))
  header := hb.header
  braces := by
    have hline : b.line ≤ k := Nat.le_trans hb.started (lastDeclaration_le k)
    have hlast : (ls.take (k + 1)).drop k = [raw] := drop_take_succ h
    intro l hl
    rw [drop_take_append hline (Nat.le_add_right k 1), hlast] at hl
    rcases List.mem_append.mp hl with hl | hl
    · exact hb.braces l hl
    · rw [List.mem_singleton.mp hl]
      exact hraw
  lines p hp n hn := Nat.le_add_right_of_le (hb.lines p hp n hn)

/-- the first closing brace ends an open block -/
theorem Block.IsOpen.endLine_eq (hb : b.IsOpen ls k) (h : ls[k]? = some raw)
    (hraw : isClosingBrace raw = true) : b.endLine ls = k + 1 := by
  have hline : b.line ≤ k := Nat.le_trans hb.started (lastDeclaration_le k)
  obtain ⟨hlt, hget⟩ := List.getElem?_eq_some_iff.mp h
  have hrest : ls.drop b.line = (ls.take k).drop b.line ++ raw :: ls.drop (k + 1) := by
    have hall : (ls.take ls.length).drop b.line = _ := drop_take_append hline (Nat.le_of_lt hlt)
    rw [List.take_length] at hall
    rw [hall, List.drop_eq_getElem_cons hlt, hget]
  have htake : (ls.drop b.line).takeWhile (fun l => !isClosingBrace l) = (ls.take k).drop b.line := by
    rw [hrest, List.takeWhile_append_of_pos fun l hl => by rw [hb.braces l hl]; rfl,
      List.takeWhile_cons, hraw]
    simp
  unfold endLine
  rw [hb.header, if_neg Bool.false_ne_true, htake, List.length_drop, List.length_take]
  omega

/-- a header that closes its block also ends it -/
theorem Block.endLine_of_isClosedHeader (hline : b.line = k + 1) (h : ls[k]? = some raw)
    (hraw : isClosedHeader raw = true) : b.endLine ls = b.line := by
  unfold endLine
  rw [hline, Nat.add_sub_cancel, h, Option.any_some, hraw, if_pos rfl]

end

/-- what the reader holds after the first `k` lines -/
structure ReaderState.IsDocumented (ls : List (List Char)) (k : Nat) (s : ReaderState) : Prop where
  docs : s.docs = docsBetween ls (lastDeclaration ls k) k
  done : ∀ (i : Nat) (b : Block), s.done[i]? = some b →
    b.IsDocumented ls (endOf ls (s.done.take i)) ∧ b.IsClosed ls
  ended : endOf ls s.done ≤ k
  idle : s.current = none → lastDeclaration ls k = lastDeclaration ls (endOf ls s.done)
  current : ∀ b ∈ s.current, b.IsDocumented ls (endOf ls s.done) ∧ b.IsOpen ls k

namespace ReaderState
variable {ls : List (List Char)} {k : Nat} {raw : List Char}

/-- one more finished block -/
theorem IsDocumented.done_concat {s : ReaderState} (hs : s.IsDocumented ls k) {b : Block}
    (hb : b.IsDocumented ls (endOf ls s.done)) (hclosed : b.IsClosed ls) :
    ∀ (i : Nat) (c : Block), (s.done ++ [b])[i]? = some c →
      c.IsDocumented ls (endOf ls ((s.done ++ [b]).take i)) ∧ c.IsClosed ls := by
  intro i c hc
  rcases Nat.lt_trichotomy i s.done.length with hi | rfl | hi
  · rw [List.getElem?_append_left hi] at hc
    rw [List.take_append_of_le_length (Nat.le_of_lt hi)]
    exact hs.done i c hc
  · rw [List.getElem?_concat_length] at hc
    cases hc
    rw [List.take_left]
    exact ⟨hb, hclosed⟩
  · rw [List.getElem?_eq_none (by rw [List.length_append, List.length_singleton]; omega)] at hc
    cases hc

/-- a line that neither declares nor closes anything -/
theorem IsDocumented.next {s : ReaderState} (hs : s.IsDocumented ls k) (h : ls[k]? = some raw)
    (hdeclaration : isDeclarationLine raw = false) (hbrace : isClosingBrace raw = false) :
    { s with docs := s.docs ++ (docText? raw).toList }.IsDocumented ls (k + 1) := by
  have hlast : lastDeclaration ls (k + 1) = lastDeclaration ls k := by
    rw [lastDeclaration_succ h, hdeclaration, if_neg Bool.false_ne_true]
  refine ⟨?_, hs.done, Nat.le_add_right_of_le hs.ended, fun hnone => ?_, fun b hb => ?_⟩
  · rw [hlast, docsBetween_succ h (lastDeclaration_le k), ← hs.docs]
  · rw [hlast]
    exact hs.idle hnone
  · exact ⟨(hs.current b hb).1, (hs.current b hb).2.next h hbrace⟩

/-- a closing brace ends the open block; what waits goes on waiting -/
theorem IsDocumented.close {done : List Block} {b : Block} {docs : List (List Char)}
    (hs : IsDocumented ls k ⟨done, some b, docs⟩) (h : ls[k]? = some raw)
    (hshape : lineShape raw = .close) : IsDocumented ls (k + 1) ⟨done ++ [b], none, docs⟩ := by
  obtain ⟨hb, hopen⟩ := hs.current b rfl
  have hend : b.endLine ls = k + 1 := hopen.endLine_eq h (by rw [isClosingBrace, hshape]; rfl)
  have hlast : lastDeclaration ls (k + 1) = lastDeclaration ls k := by
    rw [lastDeclaration_succ h, isDeclarationLine, hshape]
    rfl
  have hstarted : b.line ≤ k := Nat.le_trans hopen.started (lastDeclaration_le k)
  have hclosed : b.IsClosed ls := by
    refine ⟨?_, fun p hp n hn => ?_⟩
    · rw [hend]
      exact Nat.le_add_right_of_le hstarted
    · rw [hend]
      exact Nat.lt_succ_of_le (hopen.lines p hp n hn)
  have hdone : endOf ls (done ++ [b]) = k + 1 := (endOf_concat done b).trans hend
  refine ⟨?_, hs.done_concat hb hclosed, Nat.le_of_eq hdone, fun _ => by rw [hdone], nofun⟩
  rw [hlast, docsBetween_succ h (lastDeclaration_le k), docText?_eq_none hshape nofun,
    Option.toList_none, List.append_nil]
  exact hs.docs

/-- a property of the open block takes what waits -/
theorem IsDocumented.property {done : List Block} {b : Block} {docs : List (List Char)} {cs : List Char}
    {p : Property} (hs : IsDocumented ls k ⟨done, some b, docs⟩) (h : ls[k]? = some raw)
    (hshape : lineShape raw = .content cs)
    (hp : readProperty b.kind cs (k + 1) (joinDocs docs) = .ok p) :
    IsDocumented ls (k + 1) ⟨done, some { b with properties := b.properties ++ [p] }, []⟩ := by
  obtain ⟨hb, hopen⟩ := hs.current b rfl
  have hlast : lastDeclaration ls (k + 1) = k + 1 := by
    rw [lastDeclaration_succ h, isDeclarationLine, hshape]
    rfl
  have hnext := hopen.next h (by rw [isClosingBrace, hshape]; rfl)
  have hread := of_readProperty hp
  refine ⟨by rw [hlast, docsBetween_self], hs.done, Nat.le_add_right_of_le hs.ended, nofun, ?_⟩
  rintro c ⟨⟩
  refine ⟨⟨hb.below, hb.header, hb.documentation, fun q hq n hn => ?_⟩,
    ⟨hnext.started, hnext.header, hnext.braces, fun q hq n hn => ?_⟩⟩
  · rcases List.mem_append.mp hq with hq | hq
    · exact hb.properties q hq n hn
    · rw [List.mem_singleton.mp hq] at hn ⊢
      obtain ⟨rfl, hdocs⟩ := hread n hn
      refine ⟨hlast, hopen.started, ?_⟩
      rw [hdocs, Nat.add_sub_cancel, docsBetween_succ h (lastDeclaration_le k),
        docText?_eq_none hshape nofun, Option.toList_none, List.append_nil, ← hs.docs]
  · rcases List.mem_append.mp hq with hq | hq
    · exact hnext.lines q hq n hn
    · rw [List.mem_singleton.mp hq] at hn
      exact Nat.le_of_eq (hread n hn).1

/-- a header takes what waits, back to the last declaration -/
theorem IsDocumented.header {done : List Block} {docs : List (List Char)} {cs : List Char}
    (hs : IsDocumented ls k ⟨done, none, docs⟩) (h : ls[k]? = some raw)
    (hshape : lineShape raw = .content cs) (kind : BlockKind) (name : Option String) :
    Block.IsDocumented ls (endOf ls done) ⟨kind, name, k + 1, joinDocs docs, []⟩ := by
  have hlast : lastDeclaration ls (k + 1) = k + 1 := by
    rw [lastDeclaration_succ h, isDeclarationLine, hshape]
    rfl
  have hdocs : docs = docsBetween ls (lastDeclaration ls (endOf ls done)) (k + 1) := by
    rw [← hs.idle rfl, docsBetween_succ h (lastDeclaration_le k), docText?_eq_none hshape nofun,
      Option.toList_none, List.append_nil, ← hs.docs]
  exact ⟨Nat.lt_succ_of_le hs.ended, hlast, congrArg joinDocs hdocs, nofun⟩

theorem IsDocumented.step {s s' : ReaderState} (hs : s.IsDocumented ls k) (h : ls[k]? = some raw)
    (hstep : s.step (k + 1) raw = .ok s') : s'.IsDocumented ls (k + 1) := by
  cases reads_of_step hstep with
  | doc hshape =>
    have hnext := hs.next h (by rw [isDeclarationLine, hshape]) (by rw [isClosingBrace, hshape]; rfl)
    rwa [docText?_eq_some_iff.mpr hshape] at hnext
  | blank hshape =>
    have hnext := hs.next h (by rw [isDeclarationLine, hshape]) (by rw [isClosingBrace, hshape]; rfl)
    rwa [docText?_eq_none hshape nofun, Option.toList_none, List.append_nil] at hnext
  | close hshape => exact hs.close h hshape
  | property hshape hp => exact hs.property h hshape hp
  | @header done docs cs header hshape hh hopen =>
    have hb := hs.header h hshape header.kind header.name
    have hlast : lastDeclaration ls (k + 1) = k + 1 := hb.header
    refine ⟨by rw [hlast, docsBetween_self], hs.done, Nat.le_add_right_of_le hs.ended, nofun, ?_⟩
    rintro c ⟨⟩
    refine ⟨hb, ⟨Nat.le_of_eq hlast.symm, ?_, ?_, nofun⟩⟩
    · show ls[k + 1 - 1]?.any isClosedHeader = false
      rw [Nat.add_sub_cancel, h, Option.any_some, isClosedHeader, hshape]
      dsimp only
      rw [hh, Option.any_some, hopen]
    · rw [List.drop_take_self]
      nofun
  | @block done docs cs header hshape hh hclosed =>
    have hb := hs.header h hshape header.kind header.name
    have hlast : lastDeclaration ls (k + 1) = k + 1 := hb.header
    have hheader : isClosedHeader raw = true := by
      rw [isClosedHeader, hshape]
      dsimp only
      rw [hh, Option.any_some, hclosed]
    have hend := (Block.endLine_of_isClosedHeader rfl h hheader :
      Block.endLine ls ⟨header.kind, header.name, k + 1, joinDocs docs, []⟩ = k + 1)
    have hdone := (endOf_concat done _).trans hend
    refine ⟨by rw [hlast, docsBetween_self], hs.done_concat hb ⟨Nat.le_of_eq hend.symm, nofun⟩,
      Nat.le_of_eq hdone, fun _ => by rw [hdone], nofun⟩

theorem IsDocumented.run {s s' : ReaderState} (hs : s.IsDocumented ls k) (hk : k ≤ ls.length)
    (h : s.run (k + 1) (ls.drop k) = .ok s') : s'.IsDocumented ls ls.length := by
  generalize hrest : ls.drop k = rest at h
  induction rest generalizing s k with
  | nil =>
    cases h
    have hlength : ls.length ≤ k := List.drop_eq_nil_iff.mp hrest
    rwa [Nat.le_antisymm hk hlength] at hs
  | cons raw rest ih =>
    have hraw : ls[k]? = some raw := by
      rw [← List.head?_drop, hrest]
      rfl
    have hdrop : ls.drop (k + 1) = rest := by
      rw [← List.drop_drop, hrest]
      rfl
    obtain ⟨hlt, -⟩ := List.getElem?_eq_some_iff.mp hraw
    obtain ⟨t, hstep, hrun⟩ := step_of_run h
    exact ih (hs.step hraw hstep) hlt hdrop hrun

theorem isDocumented_start (ls : List (List Char)) : start.IsDocumented ls 0 :=
  ⟨rfl, nofun, Nat.le_refl 0, fun _ => rfl, nofun⟩

end ReaderState

/-! ## the result -/

/-- documentation with more lines before it is longer -/
theorem length_join_append {ys : List (List Char)} (hys : ys ≠ []) (xs : List (List Char)) :
    xs.length + (join ['\n'] ys).length ≤ (join ['\n'] (xs ++ ys)).length := by
  induction xs with
  | nil => simp
  | cons x xs ih =>
    have hne : xs ++ ys ≠ [] := List.append_ne_nil_of_right_ne_nil xs hys
    rw [join_eq, join_eq] at ih
    rw [List.cons_append, join_eq, join_eq, List.intercalate_cons_of_ne_nil hne, List.length_append,
      List.length_append, List.length_singleton, List.length_cons]
    omega

theorem joinDocs_append_eq_iff (xs ys : List (List Char)) :
    joinDocs (xs ++ ys) = joinDocs ys ↔ xs = [] := by
  constructor
  · intro h
    by_contra hxs
    have hne : (xs ++ ys).isEmpty = false := by simp [hxs]
    unfold joinDocs at h
    rw [hne, if_neg Bool.false_ne_true] at h
    split at h
    · cases h
    · next hys =>
      have hjoin : join ['\n'] (xs ++ ys) = join ['\n'] ys :=
        String.ofList_injective (Option.some.inj h)
      have hlonger := length_join_append (by simpa using hys) xs
      rw [hjoin] at hlonger
      have hpos := List.length_pos_iff.mpr hxs
      omega
  · rintro rfl
    rfl

/-- what the documentation of a block is, where the block before ends at line `e` -/
structure Block.GetsDocumentation (ls : List (List Char)) (e : Nat) (b : Block) : Prop where
  /-- the header is a declaration below the block before -/
  place : e < b.line ∧ lastDeclaration ls b.line = b.line ∧ b.line ≤ b.endLine ls
  /-- what waits where the block before ends, and what stands between that line and the header -/
  documentation : b.documentation =
    joinDocs (docsBetween ls (lastDeclaration ls e) e ++ docsBetween ls e b.line)
  /-- only what stands between the blocks, exactly if nothing waits -/
  isLocal_iff : b.documentation = joinDocs (docsBetween ls e b.line) ↔
    docsBetween ls (lastDeclaration ls e) e = []
  /-- a field or a value is a declaration of the block, and has what stands between the declaration
  before and its own line -/
  properties : ∀ p ∈ b.properties, ∀ n ∈ p.line?,
    lastDeclaration ls n = n ∧ b.line ≤ lastDeclaration ls (n - 1) ∧ n < b.endLine ls ∧
      p.documentation = joinDocs (docsBetween ls (lastDeclaration ls (n - 1)) n)

/-- **documentation of an accepted text**, for every block of it -/
theorem parse_documented {source : String} {blocks : List Block} (h : parse source = .ok blocks)
    {i : Nat} {b : Block} (hb : blocks[i]? = some b) :
    b.GetsDocumentation (lines source.toList) (endOf (lines source.toList) (blocks.take i)) := by
  rw [parse_eq] at h
  generalize lines source.toList = ls at h ⊢
  obtain ⟨s, hrun, hfinish⟩ := ok_of_bind h
  have hs := (ReaderState.isDocumented_start ls).run (Nat.zero_le _) hrun
  have hdone : s.done = blocks := by
    unfold ReaderState.finish at hfinish
    split at hfinish <;> cases hfinish
    rfl
  obtain ⟨hdocumented, hclosed⟩ := hs.done i b (by rwa [hdone])
  rw [hdone] at hdocumented
  generalize endOf ls (blocks.take i) = e at hdocumented ⊢
  have hdocumentation := hdocumented.documentation
  rw [docsBetween_append (lastDeclaration_le e) (Nat.le_of_lt hdocumented.below)] at hdocumentation
  refine ⟨⟨hdocumented.below, hdocumented.header, hclosed.ended⟩, hdocumentation, ?_, ?_⟩
  · rw [hdocumentation, joinDocs_append_eq_iff]
  · intro p hp n hn
    obtain ⟨hline, hown, hdocs⟩ := hdocumented.properties p hp n hn
    exact ⟨hline, hown, hclosed.lines p hp n hn, hdocs⟩

/-- documentation before a header, before a field and before a closing brace -/
def tailText : String :=
  "/// one\nmodel A \x7b\n  /// two\n  x Int\n  /// tail\n\x7d\n/// three\nmodel B \x7b\n  y Int\n\x7d\n"

def tailFirst : Block :=
  ⟨.model, some "A", 2, some "one", [.field ⟨"x", "Int", false, false, [], some "two", 4⟩]⟩

def tailSecond : Block :=
  ⟨.model, some "B", 8, some "tail\nthree", [.field ⟨"y", "Int", false, false, [], none, 9⟩]⟩

theorem parse_documented_tail :
    parse tailText = .ok [tailFirst, tailSecond] ∧
    tailFirst.GetsDocumentation (lines tailText.toList) 0 ∧
    tailSecond.GetsDocumentation (lines tailText.toList) 6 := by
  have hparse : parse tailText = .ok [tailFirst, tailSecond] := by decide +kernel
  have hend : endOf (lines tailText.toList) [tailFirst] = 6 := by decide +kernel
  have hfirst : [tailFirst, tailSecond][0]? = some tailFirst := rfl
  have hsecond : [tailFirst, tailSecond][1]? = some tailSecond := rfl
  refine ⟨hparse, parse_documented hparse hfirst, ?_⟩
  rw [← hend]
  exact parse_documented hparse hsecond

/-- the last line of one block is documentation of the next, which has only `three` between them -/
theorem documentation_crosses_brace :
    parse tailText = .ok [tailFirst, tailSecond] ∧
    endOf (lines tailText.toList) [tailFirst] = 6 ∧
    joinDocs (docsBetween (lines tailText.toList) 6 tailSecond.line) = some "three" ∧
    tailSecond.documentation = some "tail\nthree" := by
  decide +kernel

end ResolverTypes.DataModel
