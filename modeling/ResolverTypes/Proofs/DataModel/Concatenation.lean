import ResolverTypes.Proofs.DataModel.Reading

/-!
# One schema text after another

The reader goes through a text line by line and carries the finished blocks, an open block and the
documentation that waits for a declaration.  After a text that is accepted and whose documentation is
all used, only the finished blocks are left.  From there the reader does what it does from the start,
with these blocks before its own and with larger line numbers: `ReaderState.shift` relates the two
states, and a step keeps them related (`step_shift`), so a run does (`run_shift`).

`parse_append` is what this says about texts.
-/

namespace ResolverTypes.DataModel
open Text

/-! ## further down -/

def Property.shift (n : Nat) : Property → Property
  | .field d => .field { d with line := d.line + n }
  | .value d => .value { d with line := d.line + n }
  | .blockAttribute attr => .blockAttribute attr
  | .assignment key text => .assignment key text

/-- a block as it is read `n` lines further down -/
def Block.shift (n : Nat) (b : Block) : Block :=
  { b with line := b.line + n, properties := b.properties.map (Property.shift n) }

/-- an error as it is found `n` lines further down -/
def Error.shift (n : Nat) : Error → Error
  | .parse line fault => .parse (line + n) fault
  | .unterminatedBlock kind line => .unterminatedBlock kind (line + n)
  | .missingBlockName kind line => .missingBlockName kind (line + n)
  | .duplicateDeclaration name => .duplicateDeclaration name
  | .duplicateField model field => .duplicateField model field
  | .unknownFieldType model field type => .unknownFieldType model field type
  | .danglingRelation model field target => .danglingRelation model field target

theorem Error.line?_shift (n : Nat) (e : Error) : (e.shift n).line? = e.line?.map (· + n) := by
  cases e <;> rfl

theorem readProperty_shift (kind : BlockKind) (cs : List Char) (line n : Nat) (docs : Option String) :
    readProperty kind cs (line + n) docs =
      (readProperty kind cs line docs).map (Property.shift n) := by
  unfold readProperty
  cases dropHead? "@@".toList cs with
  | some rest =>
    dsimp only
    cases scanAttributes ('@' :: rest) with
    | error fault => rfl
    | ok attrs =>
      dsimp only [bind, Except.bind]
      split <;> rfl
  | none =>
    cases kind with
    | model | view | composite =>
      dsimp only
      cases readField? cs with
      | none => rfl
      | some f =>
        dsimp only
        cases scanAttributes f.tail <;> rfl
    | enumeration =>
      dsimp only
      cases readValue? cs with
      | none => rfl
      | some v =>
        dsimp only
        cases scanAttributes v.2 <;> rfl
    | datasource | generator =>
      dsimp only
      cases readAssignment? cs <;> rfl

namespace ReaderState

/-- the state after `n` more lines before, which gave the blocks `done` -/
def shift (done : List Block) (n : Nat) (s : ReaderState) : ReaderState :=
  ⟨done ++ s.done.map (Block.shift n), s.current.map (Block.shift n), s.docs⟩

theorem step_shift (done : List Block) (n : Nat) (s : ReaderState) (line : Nat) (raw : List Char) :
    (s.shift done n).step (line + n) raw =
      ((s.step line raw).mapError (Error.shift n)).map (shift done n) := by
  obtain ⟨own, current, docs⟩ := s
  unfold step
  cases lineShape raw with
  | doc text => rfl
  | blank => rfl
  | close =>
    cases current with
    | none => rfl
    | some b => simp [shift, Except.mapError, Except.map]
  | content cs =>
    cases current with
    | some b =>
      dsimp only [shift, Option.map_some]
      rw [show (b.shift n).kind = b.kind from rfl, readProperty_shift]
      cases readProperty b.kind cs line (joinDocs docs) with
      | error fault => rfl
      | ok p => simp [Block.shift, Except.mapError, Except.map, shift]
    | none =>
      dsimp only [shift, Option.map_none]
      cases readHeader? cs with
      | none => rfl
      | some h =>
        dsimp only
        split <;> simp [Block.shift, Except.mapError, Except.map, shift]

theorem run_shift (done : List Block) (n : Nat) (s : ReaderState) (line : Nat)
    (raws : List (List Char)) :
    (s.shift done n).run (line + n) raws =
      ((s.run line raws).mapError (Error.shift n)).map (shift done n) := by
  induction raws generalizing s line with
  | nil => rfl
  | cons raw raws ih =>
    unfold run
    rw [step_shift]
    cases s.step line raw with
    | error e => rfl
    | ok t =>
      have hline : line + n + 1 = line + 1 + n := by omega
      dsimp only [Except.mapError, Except.map]
      rw [hline]
      exact ih t (line + 1)

theorem finish_shift (done : List Block) (n : Nat) (s : ReaderState) :
    (s.shift done n).finish =
      (s.finish.mapError (Error.shift n)).map fun bs => done ++ bs.map (Block.shift n) := by
  obtain ⟨own, current, docs⟩ := s
  cases current <;> rfl

/-! ## documentation that waits -/

end ReaderState

def isDocLine (raw : List Char) : Bool :=
  match lineShape raw with
  | .doc _ => true
  | _ => false

/-- a line that opens a block or declares a property, unless it is refused -/
def isDeclarationLine (raw : List Char) : Bool :=
  match lineShape raw with
  | .content _ => true
  | _ => false

/-- every documentation line has a declaration somewhere after it -/
def DocsAttached : List (List Char) → Prop
  | [] => True
  | raw :: rest =>
    (isDocLine raw = true → ∃ l ∈ rest, isDeclarationLine l = true) ∧ DocsAttached rest

instance decidableDocsAttached : (raws : List (List Char)) → Decidable (DocsAttached raws)
  | [] => isTrue trivial
  | raw :: rest =>
    have := decidableDocsAttached rest
    inferInstanceAs (Decidable
      ((isDocLine raw = true → ∃ l ∈ rest, isDeclarationLine l = true) ∧ DocsAttached rest))

namespace ReaderState

/-- a step adds to the waiting documentation, leaves it alone or uses it up -/
theorem step_docs {s s' : ReaderState} {line : Nat} {raw : List Char} (h : s.step line raw = .ok s') :
    isDocLine raw = true ∨ (isDeclarationLine raw = false ∧ s'.docs = s.docs) ∨ s'.docs = [] := by
  unfold isDocLine isDeclarationLine
  cases reads_of_step h with
  | doc hshape =>
    rw [hshape]
    exact .inl rfl
  | blank hshape | close hshape =>
    rw [hshape]
    exact .inr (.inl ⟨rfl, rfl⟩)
  | property | header | block => exact .inr (.inr rfl)

/-- no documentation waits at the end if every documentation line has a declaration after it -/
theorem run_docs {s s' : ReaderState} {line : Nat} {raws : List (List Char)}
    (h : s.run line raws = .ok s') (hraws : DocsAttached raws)
    (hs : s.docs = [] ∨ ∃ l ∈ raws, isDeclarationLine l = true) : s'.docs = [] := by
  induction raws generalizing s line with
  | nil =>
    cases h
    rcases hs with hs | ⟨l, hl, -⟩
    · exact hs
    · cases hl
  | cons raw raws ih =>
    obtain ⟨hfirst, hrest⟩ := hraws
    obtain ⟨t, hstep, hrun⟩ := step_of_run h
    refine ih hrun hrest ?_
    rcases step_docs hstep with hdoc | ⟨hno, hdocs⟩ | hdocs
    · exact .inr (hfirst hdoc)
    · rcases hs with hs | ⟨l, hl, hdecl⟩
      · exact .inl (hdocs.trans hs)
      · rcases List.mem_cons.mp hl with rfl | hl
        · rw [hno] at hdecl
          cases hdecl
        · exact .inr ⟨l, hl, hdecl⟩
    · exact .inl hdocs

/-! ## errors -/

theorem step_error {s : ReaderState} {line : Nat} {raw : List Char} {e : Error}
    (h : s.step line raw = .error e) : ∃ fault, e = .parse line fault := by
  unfold step at h
  split at h
  · cases h
  · cases h
  · split at h
    · cases h
    · cases h
      exact ⟨_, rfl⟩
  · split at h
    · split at h
      · cases h
        exact ⟨_, rfl⟩
      · cases h
    · split at h
      · cases h
        exact ⟨_, rfl⟩
      · dsimp only at h
        split at h <;> cases h

theorem run_error {s : ReaderState} {line : Nat} {raws : List (List Char)} {e : Error}
    (h : s.run line raws = .error e) : ∃ place fault, e = .parse place fault := by
  induction raws generalizing s line with
  | nil => cases h
  | cons raw raws ih =>
    unfold run at h
    cases hstep : s.step line raw with
    | error e' =>
      rw [hstep] at h
      cases h
      obtain ⟨fault, rfl⟩ := step_error hstep
      exact ⟨line, fault, rfl⟩
    | ok t =>
      rw [hstep] at h
      exact ih h

end ReaderState

/-! ## texts -/

/-- an error of the reader names a line -/
theorem line_of_parse_error {source : String} {e : Error} (h : parse source = .error e) :
    ∃ line, e.line? = some line := by
  rw [parse_eq] at h
  rcases error_of_bind h with hrun | ⟨s, -, hfinish⟩
  · obtain ⟨line, fault, rfl⟩ := ReaderState.run_error hrun
    exact ⟨line, rfl⟩
  · unfold ReaderState.finish at hfinish
    split at hfinish
    · next b _ =>
      cases hfinish
      exact ⟨b.line, rfl⟩
    · cases hfinish

/-- after an accepted text without waiting documentation, the reader holds its blocks and nothing
else -/
theorem run_of_parse {source : String} {blocks : List Block} (h : parse source = .ok blocks)
    (hdocs : DocsAttached (lines source.toList)) :
    ReaderState.start.run 1 (lines source.toList) = .ok ⟨blocks, none, []⟩ := by
  rw [parse_eq] at h
  obtain ⟨s, hrun, hfinish⟩ := ok_of_bind h
  have hempty : s.docs = [] := ReaderState.run_docs hrun hdocs (.inl rfl)
  rw [hrun]
  obtain ⟨done, current, docs⟩ := s
  cases current with
  | some b => cases hfinish
  | none =>
    cases hfinish
    rw [show docs = [] from hempty]

theorem parse_append_eq (first second : String) {blocks : List Block}
    (hlines : ∀ c ∈ first.toList.getLast?, c = '\n') (hparse : parse first = .ok blocks)
    (hdocs : DocsAttached (lines first.toList)) :
    parse (first ++ second) =
      ((parse second).mapError (Error.shift (lines first.toList).length)).map fun more =>
        blocks ++ more.map (Block.shift (lines first.toList).length) := by
  have hstart : (⟨blocks, none, []⟩ : ReaderState) =
      ReaderState.start.shift blocks (lines first.toList).length := by
    simp [ReaderState.shift, ReaderState.start]
  rw [parse_eq, parse_eq, String.toList_append, lines_append hlines,
    ReaderState.run_append (run_of_parse hparse hdocs), hstart, ReaderState.run_shift]
  cases ReaderState.start.run 1 (lines second.toList) with
  | error e => rfl
  | ok s => exact s.finish_shift blocks _

/-- **two texts in one**: if the first text is accepted, ends a line and leaves no documentation open,
the blocks of both together are those of the first and then those of the second, and an error in the
second stays the same error; only its line numbers move -/
theorem parse_append (first second : String) {blocks : List Block}
    (hlines : ∀ c ∈ first.toList.getLast?, c = '\n') (hparse : parse first = .ok blocks)
    (hdocs : DocsAttached (lines first.toList)) :
    (∀ more, parse second = .ok more →
      parse (first ++ second) =
        .ok (blocks ++ more.map (Block.shift (lines first.toList).length))) ∧
    (∀ e, parse second = .error e →
      parse (first ++ second) = .error (e.shift (lines first.toList).length) ∧
      ∃ line, e.line? = some line ∧
        (e.shift (lines first.toList).length).line? = some (line + (lines first.toList).length)) := by
  have hall := parse_append_eq first second hlines hparse hdocs
  constructor
  · intro more hmore
    rw [hall, hmore]
    rfl
  · intro e he
    obtain ⟨line, hline⟩ := line_of_parse_error he
    refine ⟨?_, line, hline, ?_⟩
    · rw [hall, he]
      rfl
    · rw [Error.line?_shift, hline]
      rfl

/-- documentation, a comment before a carriage return, a blank line and a block on one line -/
def notedText : String :=
  "/// a note\nmodel A \x7b // open\r\n  id Int @id\n\x7d\n\nenum E \x7b\x7d\n"

def notedBlocks : List Block :=
  [⟨.model, some "A", 2, some "a note", [.field ⟨"id", "Int", false, false, [⟨"id", none⟩], none, 3⟩]⟩,
    ⟨.enumeration, some "E", 6, none, []⟩]

def valueText : String := "enum F \x7b\n  X\n\x7d"

def valueBlock (line : Nat) : Block :=
  ⟨.enumeration, some "F", line, none, [.value ⟨"X", [], none, line + 1⟩]⟩

def brokenText : String := "model B \x7b\n  id\n\x7d"

/-- after the six lines above, a text that is read and one that is not -/
theorem parse_append_noted :
    (∀ c ∈ notedText.toList.getLast?, c = '\n') ∧ parse notedText = .ok notedBlocks ∧
    DocsAttached (lines notedText.toList) ∧
    parse (notedText ++ valueText) = .ok (notedBlocks ++ [valueBlock 7]) ∧
    parse (notedText ++ brokenText) = .error (.parse 8 (.malformedField "id")) := by
  have hlast : ∀ c ∈ notedText.toList.getLast?, c = '\n' := by
    have hlast : notedText.toList.getLast? = some '\n' := by decide +kernel
    rw [hlast]
    rintro c ⟨⟩
    rfl
  have hparse : parse notedText = .ok notedBlocks := by decide +kernel
  have hdocs : DocsAttached (lines notedText.toList) := by decide +kernel
  have hcount : (lines notedText.toList).length = 6 := by decide +kernel
  have hvalue : parse valueText = .ok [valueBlock 1] := by decide +kernel
  have hbroken : parse brokenText = .error (.parse 2 (.malformedField "id")) := by decide +kernel
  have hgood := (parse_append notedText valueText hlast hparse hdocs).1 [valueBlock 1] hvalue
  have hbad := ((parse_append notedText brokenText hlast hparse hdocs).2 _ hbroken).1
  rw [hcount] at hgood hbad
  exact ⟨hlast, hparse, hdocs, hgood, hbad⟩

end ResolverTypes.DataModel
