import Mathlib.Data.List.Induction
import ResolverTypes.Proofs.DataModel.Concatenation
import ResolverTypes.Proofs.DataModel.Exchange
import ResolverTypes.Proofs.DataModel.TrailingComment

/-!
# Where a schema text fails

A text is refused for one of two reasons, and each is settled by a part of its lines.

* A line cannot be read.  The reader comes to it with the lines above all read, so nothing below it
  matters and nothing above it is to blame (`FailsAt`).
* The text ends inside a block.  The block was opened by a line of the form `kind name {`
  (`IsOpening`), and no line below is a closing brace.  A brace at the end is all that is missing
  (`StaysOpen`).

A run that fails is cut at the line that fails (`exists_step_of_run_error`), and a run that ends inside
a block at the line that opened it (`exists_holdsOpen`).
-/

namespace ResolverTypes.DataModel
open Text

/-! ## first lines -/

/-- the first lines of a text are the lines of a start of it -/
theorem exists_prefix_lines (text : List Char) (k : Nat) :
    ∃ head, head <+: text ∧ lines head = (lines text).take k := by
  by_cases hk : k < (lines text).length
  · obtain ⟨l, -, hlength⟩ := exists_lineOf (List.getElem?_eq_getElem hk)
    refine ⟨l.above, ⟨l.chars ++ l.below, l.text_eq.symm⟩, ?_⟩
    have hlines : lines text = lines l.above ++ lines (l.chars ++ l.below) := by
      conv => lhs; rw [l.text_eq]
      exact lines_append l.starts _
    rw [hlines, ← hlength, List.take_left]
  · exact ⟨text, List.prefix_rfl, (List.take_of_length_le (by omega)).symm⟩

/-- a line break at the end of a text adds a blank line or nothing -/
theorem exists_shapes_break (acc xs : List Char) :
    ∃ k, (linesFrom acc (xs ++ ['\n'])).map lineShape =
      (linesFrom acc xs ++ List.replicate k []).map lineShape := by
  induction xs generalizing acc with
  | nil =>
    cases acc with
    | nil => exact ⟨1, rfl⟩
    | cons c acc =>
      have hbreak : linesFrom (c :: acc) ['\n'] = [dropReturn (c :: acc).reverse] := rfl
      have hend : linesFrom (c :: acc) [] = [(c :: acc).reverse] := rfl
      refine ⟨0, ?_⟩
      rw [List.nil_append, hbreak, hend, List.map_singleton, lineShape_dropReturn]
      rfl
  | cons x xs ih =>
    by_cases hx : x = '\n'
    · subst hx
      obtain ⟨k, hk⟩ := ih []
      refine ⟨k, ?_⟩
      rw [List.cons_append, linesFrom, linesFrom, List.map_cons, hk]
      rfl
    · obtain ⟨k, hk⟩ := ih (x :: acc)
      refine ⟨k, ?_⟩
      rw [List.cons_append, linesFrom, linesFrom, hk]
      · exact hx
      · exact hx

/-! ## shapes -/

/-- what the reader sees of a line that is no documentation -/
def visible (raw : List Char) : List Char := trim (stripComment (trim raw))

theorem visible_of_content {raw cs : List Char} (h : lineShape raw = .content cs) : visible raw = cs := by
  unfold lineShape at h
  dsimp only at h
  split at h
  · cases h
  · split at h
    · cases h
    · cases h
    · next hcs =>
      cases h
      rfl

theorem lineShape_of_brace {raw : List Char} (h : visible raw = ['\x7d']) : lineShape raw = .close := by
  unfold lineShape
  dsimp only
  cases hdoc : dropHead? "///".toList (trim raw) with
  | none =>
    dsimp only
    rw [show trim (stripComment (trim raw)) = ['\x7d'] from h]
    rfl
  | some doc =>
    -- documentation starts with a comment mark, so nothing of it is visible
    have hempty : stripComment (trim raw) = [] := by
      rw [dropHead?_eq_some_iff.mp hdoc, stripComment_eq]
      exact if_pos ⟨rfl, rfl, rfl⟩
    rw [visible, hempty] at h
    cases h

/-! ## opening lines -/

/-- the text of a line that opens a block and does not close it: a keyword, perhaps a name, and a brace -/
inductive IsOpening (kind : BlockKind) : Option String → List Char → Prop where
  | unnamed {gap : List Char} (hgap : ∀ c ∈ gap, isBlank c = true) :
      IsOpening kind none (kind.keyword.toList ++ (gap ++ ['\x7b']))
  | named {gap name gap' : List Char} (hgap : ∀ c ∈ gap, isBlank c = true) (hapart : gap ≠ [])
      (hname : isIdentifier name = true) (hgap' : ∀ c ∈ gap', isBlank c = true) :
      IsOpening kind (some (String.ofList name))
        (kind.keyword.toList ++ (gap ++ (name ++ (gap' ++ ['\x7b']))))

theorem keyword_of_ofKeyword? {word : String} {kind : BlockKind}
    (h : BlockKind.ofKeyword? word = some kind) : kind.keyword = word :=
  beq_iff_eq.mp (List.find?_some (p := fun k : BlockKind => k.keyword == word) h)

theorem of_takeName? {cs name rest : List Char} (h : takeName? cs = some (name, rest)) :
    isIdentifier name = true ∧ cs = name ++ rest := by
  unfold takeName? at h
  split at h
  · cases h
  · split at h
    · next c cs hc =>
      cases h
      refine ⟨?_, by rw [List.cons_append, List.takeWhile_append_dropWhile]⟩
      rw [isIdentifier, hc, Bool.true_and, List.all_eq_true]
      exact fun d hd => List.mem_takeWhile_imp hd
    · cases h

theorem eq_nil_of_noBlankLast {xs ws : List Char} (h : NoBlankLast (xs ++ ws))
    (hws : ∀ c ∈ ws, isBlank c = true) : ws = [] := by
  rcases List.eq_nil_or_concat ws with rfl | ⟨ws, c, rfl⟩
  · rfl
  · rw [List.concat_eq_append] at h hws
    have hblank := hws c (by simp)
    rw [h c (by rw [← List.append_assoc, List.getLast?_concat]; rfl)] at hblank
    cases hblank

/-- the end of a header that does not close: blanks and a brace, the last character of its line -/
theorem of_headerEnd? {start cs : List Char} (hlast : NoBlankLast (start ++ cs))
    (h : headerEnd? cs = some false) :
    ∃ gap, (∀ c ∈ gap, isBlank c = true) ∧ cs = gap ++ ['\x7b'] := by
  obtain ⟨gap, hgap, hcs⟩ := exists_eq_trimStart cs
  unfold headerEnd? at h
  split at h
  · next tail hbrace =>
    obtain ⟨blanks, hblanks, htail⟩ := exists_eq_trimStart tail
    split at h
    · next hempty =>
      rw [hempty, List.append_nil] at htail
      subst htail
      rw [hbrace] at hcs
      rw [hcs, List.append_cons, ← List.append_assoc] at hlast
      rw [eq_nil_of_noBlankLast hlast hblanks] at hcs
      exact ⟨gap, hgap, hcs⟩
    · cases h
    · cases h
  · cases h

theorem isOpening_of_readHeader? {cs : List Char} {h : Header} (hcs : NoBlankLast cs)
    (hh : readHeader? cs = some h) (hopen : h.closed = false) : IsOpening h.kind h.name cs := by
  obtain ⟨kind, hkind, hh⟩ := Option.bind_eq_some_iff.mp hh
  have hkeyword : kind.keyword.toList = cs.takeWhile isNameChar := by
    rw [keyword_of_ofKeyword? hkind, String.toList_ofList]
  obtain ⟨gap, hgap, hrest⟩ := exists_eq_trimStart (cs.dropWhile isNameChar)
  have hsplit : cs = kind.keyword.toList ++ (gap ++ trimStart (cs.dropWhile isNameChar)) := by
    rw [hkeyword, ← hrest, List.takeWhile_append_dropWhile]
  have hhead := head_dropWhile isNameChar cs
  rw [hrest] at hhead
  simp only at hh
  generalize trimStart (cs.dropWhile isNameChar) = rest at hh hsplit hhead
  split at hh
  · next name more hname =>
    obtain ⟨closed, hend, hh⟩ := Option.bind_eq_some_iff.mp hh
    cases hh
    cases hopen
    obtain ⟨hident, rfl⟩ := of_takeName? hname
    rw [← List.append_assoc, ← List.append_assoc] at hsplit
    obtain ⟨gap', hgap', rfl⟩ := of_headerEnd? (hsplit ▸ hcs) hend
    -- without a gap the name would be part of the keyword
    have hapart : gap ≠ [] := by
      rintro rfl
      obtain ⟨c, name, rfl⟩ := List.exists_cons_of_ne_nil (ne_nil_of_isIdentifier hident)
      have hc := hhead c rfl
      rw [isNameChar_of_mem hident List.mem_cons_self] at hc
      cases hc
    rw [hsplit, List.append_assoc, List.append_assoc]
    exact .named hgap hapart hident hgap'
  · obtain ⟨closed, hend, hh⟩ := Option.bind_eq_some_iff.mp hh
    cases hh
    cases hopen
    rw [← List.append_assoc] at hsplit
    obtain ⟨gap', hgap', rfl⟩ := of_headerEnd? (hsplit ▸ hcs) hend
    rw [hsplit, List.append_assoc, ← List.append_assoc gap]
    refine .unnamed fun c hc => ?_
    rcases List.mem_append.mp hc with hc | hc
    · exact hgap c hc
    · exact hgap' c hc

theorem isOpening_visible {raw cs : List Char} {h : Header} (hshape : lineShape raw = .content cs)
    (hh : readHeader? cs = some h) (hopen : h.closed = false) :
    IsOpening h.kind h.name (visible raw) := by
  have hcs := visible_of_content hshape
  rw [hcs]
  refine isOpening_of_readHeader? ?_ hh hopen
  rw [← hcs]
  exact (isTrimmed_trim _).2

/-! ## cuts of a run -/

namespace ReaderState

/-- a run that fails reads some lines and fails at the next one -/
theorem exists_step_of_run_error {s : ReaderState} {line : Nat} {raws : List (List Char)} {e : Error}
    (h : s.run line raws = .error e) :
    ∃ above raw below t, raws = above ++ raw :: below ∧ s.run line above = .ok t ∧
      t.step (line + above.length) raw = .error e := by
  induction raws generalizing s line with
  | nil => cases h
  | cons raw raws ih =>
    rw [run] at h
    cases hstep : s.step line raw with
    | error e' =>
      rw [hstep] at h
      cases h
      exact ⟨[], raw, raws, s, rfl, rfl, hstep⟩
    | ok u =>
      rw [hstep] at h
      obtain ⟨above, raw', below, t, rfl, hrun, hfail⟩ := ih h
      refine ⟨raw :: above, raw', below, t, rfl, ?_, ?_⟩
      · rw [run, hstep]
        exact hrun
      · rw [List.length_cons, Nat.add_comm above.length, ← Nat.add_assoc]
        exact hfail

/-- and so does every run over these lines, whatever comes below -/
theorem run_of_step_error {s t : ReaderState} {line : Nat} {above : List (List Char)} {raw : List Char}
    {e : Error} (habove : s.run line above = .ok t)
    (hraw : t.step (line + above.length) raw = .error e) (below : List (List Char)) :
    s.run line (above ++ raw :: below) = .error e := by
  rw [run_append habove, run, hraw]

theorem exists_run_of_concat {s t : ReaderState} {line : Nat} {raws : List (List Char)} {raw : List Char}
    (h : s.run line (raws ++ [raw]) = .ok t) :
    ∃ u, s.run line raws = .ok u ∧ u.step (line + raws.length) raw = .ok t := by
  cases hrun : s.run line raws with
  | error e =>
    rw [run_append_error hrun] at h
    cases h
  | ok u =>
    rw [run_append hrun] at h
    obtain ⟨t', hstep, ht'⟩ := step_of_run h
    cases ht'
    exact ⟨u, rfl, hstep⟩

/-- the lines above leave no block open, the line opens the block, and the lines below do not close it -/
structure HoldsOpen (s : ReaderState) (line : Nat) (above : List (List Char)) (raw : List Char)
    (below : List (List Char)) (done : List Block) (b : Block) : Prop where
  before : ∃ docs, s.run line above = .ok ⟨done, none, docs⟩
  place : b.line = line + above.length
  opened : IsOpening b.kind b.name (visible raw)
  unclosed : ∀ l ∈ below, lineShape l ≠ .close

section
variable {s : ReaderState} {line : Nat} {above below : List (List Char)} {raw : List Char}
  {done : List Block} {b : Block}

theorem HoldsOpen.concat (h : s.HoldsOpen line above raw below done b) {l : List Char}
    (hl : lineShape l ≠ .close) : s.HoldsOpen line above raw (below ++ [l]) done b := by
  refine ⟨h.before, h.place, h.opened, fun x hx => ?_⟩
  rcases List.mem_append.mp hx with hx | hx
  · exact h.unclosed x hx
  · rw [List.mem_singleton.mp hx]
    exact hl

theorem HoldsOpen.withProperties (h : s.HoldsOpen line above raw below done b) (ps : List Property) :
    s.HoldsOpen line above raw below done { b with properties := ps } :=
  ⟨h.before, h.place, h.opened, h.unclosed⟩

end

/-- a run that ends inside a block is cut at the line that opened it -/
theorem exists_holdsOpen {s t : ReaderState} {line : Nat} {raws : List (List Char)} {b : Block}
    (hs : s.current = none) (hrun : s.run line raws = .ok t) (hb : t.current = some b) :
    ∃ above raw below, raws = above ++ raw :: below ∧ s.HoldsOpen line above raw below t.done b := by
  -- on the lines from the last one up: a block that is open was open before, or this line opened it
  induction raws using List.reverseRecOn generalizing t b with
  | nil =>
    cases hrun
    rw [hs] at hb
    cases hb
  | append_singleton raws l ih =>
    obtain ⟨u, hu, hstep⟩ := exists_run_of_concat hrun
    cases reads_of_step hstep with
    | doc hshape =>
      obtain ⟨above, raw, below, rfl, hopen⟩ := ih hu hb
      exact ⟨above, raw, below ++ [l], by simp, hopen.concat (by simp [hshape])⟩
    | blank hshape =>
      obtain ⟨above, raw, below, rfl, hopen⟩ := ih hu hb
      exact ⟨above, raw, below ++ [l], by simp, hopen.concat (by simp [hshape])⟩
    | close => cases hb
    | property hshape hp =>
      cases hb
      obtain ⟨above, raw, below, rfl, hopen⟩ := ih hu rfl
      exact ⟨above, raw, below ++ [l], by simp,
        (hopen.withProperties _).concat (by simp [hshape])⟩
    | header hshape hh hclosed =>
      cases hb
      exact ⟨raws, l, [], rfl, ⟨_, hu⟩, rfl, isOpening_visible hshape hh hclosed, by simp⟩
    | block => cases hb

theorem run_replicate_nil (s : ReaderState) (line k : Nat) : s.run line (List.replicate k []) = .ok s := by
  induction k generalizing line with
  | zero => rfl
  | succ k ih =>
    rw [List.replicate_succ, run]
    exact ih (line + 1)

/-- a closing brace below a text ends the block that is open there -/
theorem run_append_brace {s t : ReaderState} {line : Nat} {text : List Char} {b : Block}
    (hrun : s.run line (lines text) = .ok t) (hb : t.current = some b) :
    s.run line (lines (text ++ ['\n', '\x7d'])) = .ok ⟨t.done ++ [b], none, t.docs⟩ := by
  obtain ⟨k, hk⟩ := exists_shapes_break [] text
  have hlines : lines (text ++ ['\n', '\x7d']) = lines (text ++ ['\n']) ++ [['\x7d']] :=
    linesFrom_append_break [] text ['\x7d']
  have hshapes : (lines (text ++ ['\n', '\x7d'])).map lineShape =
      (lines text ++ (List.replicate k [] ++ [['\x7d']])).map lineShape := by
    rw [hlines, ← List.append_assoc, List.map_append, List.map_append]
    exact congrArg (· ++ [['\x7d']].map lineShape) hk
  obtain ⟨done, current, docs⟩ := t
  cases hb
  rw [run_congr hshapes, run_append hrun, run_append (run_replicate_nil _ _ k)]
  rfl

end ReaderState

/-! ## texts -/

/-- a text fails at a line -/
structure FailsAt (source : String) (n : Nat) (fault : Fault) : Prop where
  isLine : 1 ≤ n ∧ n ≤ (lines source.toList).length
  /-- every text with the same lines down to there fails in the same way -/
  decided : ∀ text : String, (lines text.toList).take n = (lines source.toList).take n →
    parse text = .error (.parse n fault)
  /-- the lines above can all be read -/
  above : ∀ text : String, lines text.toList = (lines source.toList).take (n - 1) →
    (∃ blocks, parse text = .ok blocks) ∨
      ∃ kind line, parse text = .error (.unterminatedBlock kind line)

/-- a text with some blocks ends inside another block -/
structure StaysOpen (source : String) (before : List Block) (b : Block) : Prop where
  /-- the block starts at the line that opens it and does not close it -/
  opened : 1 ≤ b.line ∧ ∃ raw, (lines source.toList)[b.line - 1]? = some raw ∧
    IsOpening b.kind b.name (visible raw)
  /-- no line below is a closing brace -/
  unclosed : ∀ i raw, b.line ≤ i → (lines source.toList)[i]? = some raw → visible raw ≠ ['\x7d']
  /-- the other blocks are those of the lines above -/
  above : ∀ text : String, lines text.toList = (lines source.toList).take (b.line - 1) →
    parse text = .ok before
  /-- a closing brace is all that is missing -/
  closed : parse (source ++ "\n\x7d") = .ok (before ++ [b])

theorem parse_of_run {source : String} {s : ReaderState}
    (h : ReaderState.start.run 1 (lines source.toList) = .ok s) : parse source = s.finish := by
  rw [parse_eq, h]
  rfl

theorem failsAt_of_run {source : String} {n : Nat} {fault : Fault}
    (h : ReaderState.start.run 1 (lines source.toList) = .error (.parse n fault)) :
    FailsAt source n fault := by
  obtain ⟨above, raw, below, t, hlines, habove, hraw⟩ := ReaderState.exists_step_of_run_error h
  obtain ⟨fault', he⟩ := ReaderState.step_error hraw
  cases he
  have htake : (lines source.toList).take (1 + above.length) = above ++ [raw] := by
    rw [hlines, Nat.add_comm, List.take_append, List.take_of_length_le (by omega)]
    simp
  constructor
  case isLine =>
    rw [hlines, List.length_append, List.length_cons]
    omega
  case decided =>
    intro text htext
    have hcut : lines text.toList = above ++ raw :: (lines text.toList).drop (1 + above.length) := by
      rw [List.append_cons, ← htake, ← htext, List.take_append_drop]
    rw [parse_eq, hcut, ReaderState.run_of_step_error habove hraw]
    rfl
  case above =>
    intro text htext
    rw [Nat.add_sub_cancel_left, hlines, List.take_left] at htext
    rw [parse_of_run (s := t) (by rw [htext]; exact habove)]
    obtain ⟨done, current, docs⟩ := t
    cases current with
    | none => exact .inl ⟨done, rfl⟩
    | some b => exact .inr ⟨b.kind, b.line, rfl⟩

theorem staysOpen_of_run {source : String} {t : ReaderState} {b : Block}
    (h : ReaderState.start.run 1 (lines source.toList) = .ok t) (hb : t.current = some b) :
    StaysOpen source t.done b := by
  obtain ⟨above, raw, below, hlines, hopen⟩ := ReaderState.exists_holdsOpen rfl h hb
  have hline : b.line - 1 = above.length := by
    rw [hopen.place, Nat.add_sub_cancel_left]
  constructor
  case opened =>
    refine ⟨by rw [hopen.place]; omega, raw, ?_, hopen.opened⟩
    rw [hline, hlines, List.getElem?_append_right le_rfl, Nat.sub_self]
    rfl
  case unclosed =>
    intro i l hi hl hbrace
    have hmem : l ∈ below := by
      rw [hlines, List.append_cons, List.getElem?_append_right (by
        rw [List.length_append, List.length_singleton]
        have := hopen.place
        omega)] at hl
      exact List.mem_of_getElem? hl
    exact hopen.unclosed l hmem (lineShape_of_brace hbrace)
  case above =>
    intro text htext
    rw [hline, hlines, List.take_left] at htext
    obtain ⟨docs, hbefore⟩ := hopen.before
    exact parse_of_run (by rw [htext]; exact hbefore)
  case closed =>
    have hrun := ReaderState.run_append_brace h hb
    refine parse_of_run (s := ⟨t.done ++ [b], none, t.docs⟩) ?_
    rw [String.toList_append]
    exact hrun

/-- **errors are local**: an unreadable line fails whatever is below it and only after lines that can be
read, and a text that ends inside a block lacks nothing but its brace.  The first lines of a text, which
both speak of, are the lines of a start of it -/
theorem parse_error_isLocal (source : String) :
    (∀ n fault, parse source = .error (.parse n fault) → FailsAt source n fault) ∧
    (∀ kind n, parse source = .error (.unterminatedBlock kind n) →
      ∃ before b, b.kind = kind ∧ b.line = n ∧ StaysOpen source before b) ∧
    ∀ k, ∃ head : String, head.toList <+: source.toList ∧
      lines head.toList = (lines source.toList).take k := by
  refine ⟨fun n fault h => ?_, fun kind n h => ?_, fun k => ?_⟩
  · rw [parse_eq] at h
    rcases error_of_bind h with hrun | ⟨t, -, hfinish⟩
    · exact failsAt_of_run hrun
    · unfold ReaderState.finish at hfinish
      split at hfinish <;> cases hfinish
  · rw [parse_eq] at h
    rcases error_of_bind h with hrun | ⟨t, hrun, hfinish⟩
    · obtain ⟨line, fault, he⟩ := ReaderState.run_error hrun
      cases he
    · unfold ReaderState.finish at hfinish
      split at hfinish
      · next b hb =>
        cases hfinish
        exact ⟨t.done, b, rfl, rfl, staysOpen_of_run hrun hb⟩
      · cases hfinish
  · obtain ⟨head, hstart, hhead⟩ := exists_prefix_lines source.toList k
    exact ⟨String.ofList head, by rwa [String.toList_ofList], by rwa [String.toList_ofList]⟩

/-- the lines of `brokenText` down to the one that fails, with other line ends and an unmatched brace
below -/
def brokenStart : String := "model B \x7b\r\n  id\r\n\x7d\r\n\x7d"

/-- closing braces in a header, a comment, a string and documentation, but none on a line of its own -/
def openText : String :=
  "enum E \x7b \x7d\nmodel A \x7b // \x7d\r\n  id String @default(\"\x7d\")\n  /// \x7d\r"

theorem parse_error_isLocal_open :
    parse brokenText = .error (.parse 2 (.malformedField "id")) ∧
    (lines brokenStart.toList).take 2 = (lines brokenText.toList).take 2 ∧
    parse brokenStart = .error (.parse 2 (.malformedField "id")) ∧
    parse openText = .error (.unterminatedBlock .model 2) ∧
    ∃ before b, b.kind = .model ∧ b.line = 2 ∧ parse (openText ++ "\n\x7d") = .ok (before ++ [b]) := by
  have hbroken : parse brokenText = .error (.parse 2 (.malformedField "id")) := by decide +kernel
  have hstart : (lines brokenStart.toList).take 2 = (lines brokenText.toList).take 2 := by
    decide +kernel
  have hopen : parse openText = .error (.unterminatedBlock .model 2) := by decide +kernel
  have hfails := (parse_error_isLocal brokenText).1 _ _ hbroken
  obtain ⟨before, b, hkind, hline, hb⟩ := (parse_error_isLocal openText).2.1 _ _ hopen
  exact ⟨hbroken, hstart, hfails.decided brokenStart hstart, hopen, before, b, hkind, hline, hb.closed⟩

end ResolverTypes.DataModel
