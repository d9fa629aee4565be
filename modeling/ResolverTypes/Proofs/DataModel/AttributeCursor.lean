import ResolverTypes.Proofs.DataModel.AttributeGrammar

/-!
# The scan for attributes as a run over positions

`scanAttributes` takes its text apart and has no positions.  Here the same scan is a machine that stands
at a position of one fixed text (`Cursor`).  Its steps are not safe by themselves: they read characters
and ranges by position and lower a depth, and a step that reads outside the text or lowers a depth of
zero breaks off (`Progress.broken`).

* `Cursor.Ends.arguments`  behind an opening parenthesis the machine does what `scanParens` does.  The
                           machine counts that parenthesis too, so its depth is never zero there;
* `Cursor.ends_between`    from any position between attributes the machine comes to its end, with what
                           `scanAttributes` makes of the rest of the text;
* `scanAttributes_exact`   which texts are accepted with which attributes, and that no run breaks off.

A backslash at the end of a string moves the position past the end of the text.  This is the one place
where a position is not in the text, and the machine looks before it reads (`peek`).
-/

namespace ResolverTypes.DataModel
open Text

/-! ## the machine -/

/-- what a scan over positions is about to do -/
inductive ScanMode where
  /-- it looks for the next attribute -/
  | between
  /-- it goes over a name that starts at a position -/
  | name (start : Nat)
  /-- it stands behind a name that starts at a position -/
  | named (start : Nat)
  /-- it goes over the arguments of a name, from their parenthesis on -/
  | arguments (name : List Char) (opened depth : Nat) (quoted : Bool)

structure Cursor where
  mode : ScanMode
  index : Nat
  found : List Attribute

inductive Progress where
  | running (cur : Cursor)
  | finished (result : Except Fault (List Attribute))
  /-- a position outside the text was read, or the depth went below zero -/
  | broken

namespace Cursor

def start : Cursor := ⟨.between, 0, []⟩

/-- the character at a position, which has to be in the text -/
def readAt (text : List Char) (i : Nat) (next : Char → Progress) : Progress :=
  match text[i]? with
  | some c => next c
  | none => .broken

/-- looks whether a position is in the text before it is read -/
def peek (text : List Char) (i : Nat) (atEnd : Progress) (next : Char → Progress) : Progress :=
  if i < text.length then readAt text i next else atEnd

/-- the text from one position up to another one, which have to be in order and in the text -/
def readRange (text : List Char) (i j : Nat) (next : List Char → Progress) : Progress :=
  if i ≤ j ∧ j ≤ text.length then next ((text.take j).drop i) else .broken

/-- a depth less one, which has to be there -/
def lower (depth : Nat) (next : Nat → Progress) : Progress :=
  match depth with
  | 0 => .broken
  | d + 1 => next d

/-- one step of the scan over positions -/
def step (text : List Char) (cur : Cursor) : Progress :=
  match cur with
  | ⟨.between, i, found⟩ =>
    peek text i (.finished (.ok found)) fun c =>
      if isBlank c then .running ⟨.between, i + 1, found⟩
      else if c = '@' then .running ⟨.name (i + 1), i + 1, found⟩
      else readRange text i text.length fun rest =>
        .finished (.error (.expectedAttribute (String.ofList rest)))
  | ⟨.name start, i, found⟩ =>
    peek text i (.running ⟨.named start, i, found⟩) fun c =>
      if isAttributeChar c then .running ⟨.name start, i + 1, found⟩
      else .running ⟨.named start, i, found⟩
  | ⟨.named start, i, found⟩ =>
    if start = i then .finished (.error .missingAttributeName)
    else
      readRange text start i fun name =>
        let bare : Progress := .running ⟨.between, i, found ++ [⟨String.ofList name, none⟩]⟩
        peek text i bare fun c =>
          if c = '(' then .running ⟨.arguments name i 0 false, i, found⟩ else bare
  | ⟨.arguments name opened depth quoted, i, found⟩ =>
    peek text i (.finished (.error (.unbalancedParentheses (String.ofList name)))) fun c =>
      if c = '\\' ∧ quoted = true then .running ⟨.arguments name opened depth quoted, i + 2, found⟩
      else if c = '"' then .running ⟨.arguments name opened depth (!quoted), i + 1, found⟩
      else if c = '(' ∧ quoted = false then
        .running ⟨.arguments name opened (depth + 1) quoted, i + 1, found⟩
      else if c = ')' ∧ quoted = false then
        lower depth fun d =>
          if d = 0 then
            readRange text (opened + 1) i fun args =>
              .running ⟨.between, i + 1,
                found ++ [⟨String.ofList name, some (String.ofList (trim args))⟩]⟩
          else .running ⟨.arguments name opened d quoted, i + 1, found⟩
      else .running ⟨.arguments name opened depth quoted, i + 1, found⟩

/-- a scan comes to its end with a result and is not broken on the way -/
inductive Ends (text : List Char) : Cursor → Except Fault (List Attribute) → Prop where
  | finished {cur : Cursor} {result : Except Fault (List Attribute)}
      (h : cur.step text = .finished result) : Ends text cur result
  | running {cur cur' : Cursor} {result : Except Fault (List Attribute)}
      (h : cur.step text = .running cur') (hends : Ends text cur' result) : Ends text cur result

/-- a scan comes from one cursor to another one -/
inductive Reaches (text : List Char) (cur : Cursor) : Cursor → Prop where
  | refl : Reaches text cur cur
  | step {cur' cur'' : Cursor} (hreach : Reaches text cur cur')
      (h : cur'.step text = .running cur'') : Reaches text cur cur''

theorem Ends.not_broken {text : List Char} {cur : Cursor} {result : Except Fault (List Attribute)}
    (h : Ends text cur result) : cur.step text ≠ .broken := by
  cases h with
  | finished h | running h =>
    rw [h]
    nofun

theorem Ends.of_reaches {text : List Char} {cur cur' : Cursor} {result : Except Fault (List Attribute)}
    (h : Ends text cur result) (hreach : Reaches text cur cur') : Ends text cur' result := by
  induction hreach with
  | refl => exact h
  | step _ hstep ih =>
    cases ih with
    | finished hend => cases hstep.symm.trans hend
    | running hrun hends =>
      cases hstep.symm.trans hrun
      exact hends

/-! ## checked reading -/

section
variable {text pre : List Char}

theorem peek_cons {c : Char} {rest : List Char} (h : text = pre ++ c :: rest) (atEnd : Progress)
    (next : Char → Progress) : peek text pre.length atEnd next = next c := by
  have hlt : pre.length < text.length := by
    rw [h, List.length_append, List.length_cons]
    omega
  rw [peek, if_pos hlt, readAt, h, List.getElem?_append_right (Nat.le_refl _), Nat.sub_self]
  rfl

theorem peek_end {i : Nat} (h : text.length ≤ i) (atEnd : Progress) (next : Char → Progress) :
    peek text i atEnd next = atEnd := if_neg (Nat.not_lt.mpr h)

theorem readRange_append {mid rest : List Char} (h : text = pre ++ (mid ++ rest))
    (next : List Char → Progress) :
    readRange text pre.length (pre ++ mid).length next = next mid := by
  have hle : (pre ++ mid).length ≤ text.length := by
    rw [h, ← List.append_assoc]
    exact (List.prefix_append ..).length_le
  have hge : pre.length ≤ (pre ++ mid).length := by
    rw [List.length_append]
    omega
  rw [readRange, if_pos ⟨hge, hle⟩, h, ← List.append_assoc, List.take_left, List.drop_left]

end

/-! ## the parts of an attribute -/

section
variable {text : List Char} {found : List Attribute} {result : Except Fault (List Attribute)}

theorem Ends.blanks {pre ws rest : List Char} (hws : ∀ c ∈ ws, isBlank c = true)
    (htext : text = pre ++ (ws ++ rest))
    (hends : Ends text ⟨.between, (pre ++ ws).length, found⟩ result) :
    Ends text ⟨.between, pre.length, found⟩ result := by
  induction ws generalizing pre with
  | nil =>
    rw [List.append_nil] at hends
    exact hends
  | cons w ws ih =>
    obtain ⟨hw, hws⟩ := List.forall_mem_cons.mp hws
    rw [List.append_cons] at hends
    have hrest := ih hws (htext.trans (List.append_cons pre w (ws ++ rest))) hends
    rw [List.length_append, List.length_singleton] at hrest
    refine .running ?_ hrest
    rw [step, peek_cons htext, if_pos hw]

theorem Ends.name {pre name rest : List Char} {start : Nat}
    (hname : ∀ c ∈ name, isAttributeChar c = true) (hrest : ∀ c ∈ rest.head?, isAttributeChar c = false)
    (htext : text = pre ++ (name ++ rest))
    (hends : Ends text ⟨.named start, (pre ++ name).length, found⟩ result) :
    Ends text ⟨.name start, pre.length, found⟩ result := by
  induction name generalizing pre with
  | nil =>
    rw [List.append_nil] at hends
    refine .running ?_ hends
    cases rest with
    | nil => rw [step, peek_end (by simp [htext])]
    | cons c rest => rw [step, peek_cons htext, hrest c rfl, if_neg Bool.false_ne_true]
  | cons c name ih =>
    obtain ⟨hc, hname⟩ := List.forall_mem_cons.mp hname
    rw [List.append_cons] at hends
    have hmore := ih hname (htext.trans (List.append_cons pre c (name ++ rest))) hends
    rw [List.length_append, List.length_singleton] at hmore
    refine .running ?_ hmore
    rw [step, peek_cons htext, if_pos hc]

/-- what has to come behind the arguments of a name, of which `inner` is scanned already -/
def Closes (text left name inner : List Char) (found : List Attribute)
    (result : Except Fault (List Attribute)) : Option (List Char × List Char) → Prop
  | none => result = .error (.unbalancedParentheses (String.ofList name))
  | some (args, _) =>
    Ends text ⟨.between, (left ++ '(' :: (inner ++ args)).length + 1,
      found ++ [⟨String.ofList name, some (String.ofList (trim (inner ++ args)))⟩]⟩ result

theorem Closes.of_map {left name inner more : List Char} {o : Option (List Char × List Char)}
    (h : Closes text left name inner found result (o.map fun p => (more ++ p.1, p.2))) :
    Closes text left name (inner ++ more) found result o := by
  cases o with
  | none => exact h
  | some p =>
    rw [Option.map_some, Closes, ← List.append_assoc] at h
    exact h

/-- one step inside the arguments of a name, over the characters `more` -/
theorem Ends.inside {left name inner : List Char} {depth depth' : Nat} {quoted quoted' : Bool}
    (more : List Char)
    (hstep : step text ⟨.arguments name left.length (depth + 1) quoted, (left ++ '(' :: inner).length, found⟩ =
      .running ⟨.arguments name left.length (depth' + 1) quoted',
        (left ++ '(' :: inner).length + more.length, found⟩)
    (hends : Ends text ⟨.arguments name left.length (depth' + 1) quoted',
      (left ++ '(' :: (inner ++ more)).length, found⟩ result) :
    Ends text ⟨.arguments name left.length (depth + 1) quoted, (left ++ '(' :: inner).length, found⟩
      result := by
  rw [← List.cons_append, ← List.append_assoc, List.length_append] at hends
  exact .running hstep hends

/-- the parenthesis that closes the first one ends the arguments -/
theorem step_closing {left name inner rest : List Char} (htext : text = left ++ '(' :: inner ++ ')' :: rest) :
    step text ⟨.arguments name left.length 1 false, (left ++ '(' :: inner).length, found⟩ =
      .running ⟨.between, (left ++ '(' :: inner).length + 1,
        found ++ [⟨String.ofList name, some (String.ofList (trim inner))⟩]⟩ := by
  have hrange : text = (left ++ ['(']) ++ (inner ++ (')' :: rest)) := by simpa using htext
  have hargs := readRange_append hrange fun args =>
    .running ⟨.between, (left ++ '(' :: inner).length + 1,
      found ++ [⟨String.ofList name, some (String.ofList (trim args))⟩]⟩
  rw [List.length_append, List.append_assoc] at hargs
  rw [step, peek_cons htext]
  simpa [lower] using hargs

/-- behind a backslash that ends the text, the position is not in the text any more -/
theorem Ends.backslash {left name inner : List Char} {depth : Nat} (htext : text = left ++ '(' :: inner ++ ['\\']) :
    Ends text ⟨.arguments name left.length (depth + 1) true, (left ++ '(' :: inner).length, found⟩
      (.error (.unbalancedParentheses (String.ofList name))) := by
  have hend : text.length ≤ (left ++ '(' :: inner).length + 2 := by
    rw [htext, List.length_append, List.length_singleton]
    omega
  have hstop : step text ⟨.arguments name left.length (depth + 1) true,
      (left ++ '(' :: inner).length + 2, found⟩ =
      .finished (.error (.unbalancedParentheses (String.ofList name))) := by
    rw [step, peek_end hend]
  refine .running ?_ (.finished hstop)
  rw [step, peek_cons htext, if_pos ⟨rfl, rfl⟩]

/-- the arguments of a name are found as by the scan without positions -/
theorem Ends.arguments {left name inner cs : List Char} {depth : Nat} {quoted : Bool}
    (htext : text = left ++ '(' :: inner ++ cs)
    (hcloses : Closes text left name inner found result (scanParens depth quoted cs)) :
    Ends text ⟨.arguments name left.length (depth + 1) quoted, (left ++ '(' :: inner).length, found⟩
      result := by
  have hmove : ∀ (inner more cs : List Char), text = left ++ '(' :: inner ++ (more ++ cs) →
      text = left ++ '(' :: (inner ++ more) ++ cs := by
    intro inner more cs h
    simpa using h
  fun_induction scanParens depth quoted cs generalizing inner with
  | case1 depth quoted =>
    cases hcloses
    refine .finished ?_
    rw [step, peek_end (by simp [htext])]
  | case2 depth c cs ih =>
    refine .inside ['\\', c] ?_ (ih (hmove inner ['\\', c] cs htext) (.of_map hcloses))
    rw [step, peek_cons htext]
    simp
  | case3 depth quoted c cs hquoted ih =>
    refine .inside ['\\'] ?_ (ih (hmove inner ['\\'] (c :: cs) htext) (.of_map hcloses))
    rw [step, peek_cons htext]
    simp [hquoted]
  | case4 depth quoted cs ih =>
    refine .inside ['"'] ?_ (ih (hmove inner ['"'] cs htext) (.of_map hcloses))
    rw [step, peek_cons htext]
    simp
  | case5 depth quoted cs ih =>
    refine .inside ['('] ?_ (ih (hmove inner ['('] cs htext) (.of_map hcloses))
    rw [step, peek_cons htext]
    cases quoted <;> simp
  | case6 depth cs ih =>
    refine .inside [')'] ?_ (ih (hmove inner [')'] cs htext) (.of_map hcloses))
    rw [step, peek_cons htext]
    simp
  | case7 quoted cs hquoted =>
    obtain rfl : quoted = false := by simpa using hquoted
    rw [Closes, List.append_nil] at hcloses
    exact .running (step_closing htext) hcloses
  | case8 quoted cs hquoted d ih =>
    refine .inside [')'] ?_ (ih (hmove inner [')'] cs htext) (.of_map hcloses))
    rw [step, peek_cons htext]
    simp [hquoted, lower]
  | case9 depth quoted c cs hescape hquote hopen hclose ih =>
    by_cases hskip : c = '\\' ∧ quoted = true
    · obtain ⟨rfl, rfl⟩ := hskip
      cases cs with
      | cons d cs => exact (hescape d cs rfl rfl).elim
      | nil =>
        cases hcloses
        exact .backslash htext
    · refine .inside [c] ?_ (ih (hmove inner [c] cs htext) (.of_map hcloses))
      rw [step, peek_cons htext, if_neg hskip, if_neg hquote, if_neg fun h => hopen h.1,
        if_neg fun h => hclose h.1]
      rfl

/-! ## attributes -/

/-- from an attribute to the end of its name -/
theorem Ends.nameAt {pre name rest : List Char} (hname : ∀ c ∈ name, isAttributeChar c = true)
    (hrest : ∀ c ∈ rest.head?, isAttributeChar c = false) (htext : text = pre ++ '@' :: (name ++ rest))
    (hends : Ends text ⟨.named (pre.length + 1), (pre ++ '@' :: name).length, found⟩ result) :
    Ends text ⟨.between, pre.length, found⟩ result := by
  rw [List.append_cons] at htext hends
  have hnamed := Ends.name hname hrest htext hends
  rw [List.length_append, List.length_singleton] at hnamed
  refine .running ?_ hnamed
  rw [← List.append_cons] at htext
  rw [step, peek_cons htext, if_neg (by decide), if_pos rfl]

/-- the name of an attribute is read when its end is found -/
theorem step_named {pre name rest : List Char} (hne : name ≠ [])
    (htext : text = pre ++ '@' :: (name ++ rest)) :
    step text ⟨.named (pre.length + 1), (pre ++ '@' :: name).length, found⟩ =
      peek text (pre ++ '@' :: name).length
        (.running ⟨.between, (pre ++ '@' :: name).length, found ++ [⟨String.ofList name, none⟩]⟩)
        fun c =>
          if c = '(' then
            .running ⟨.arguments name (pre ++ '@' :: name).length 0 false, (pre ++ '@' :: name).length, found⟩
          else .running ⟨.between, (pre ++ '@' :: name).length, found ++ [⟨String.ofList name, none⟩]⟩ := by
  have hlength : pre.length + 1 ≠ (pre ++ '@' :: name).length := by
    have hpos := List.length_pos_iff.mpr hne
    rw [List.length_append, List.length_cons]
    omega
  rw [List.append_cons] at htext
  rw [step, if_neg hlength, List.append_cons, ← List.length_singleton (a := '@'), ← List.length_append,
    readRange_append htext]

theorem step_bare {pre name rest : List Char} (hne : name ≠ []) (hrest : ∀ c ∈ rest.head?, c ≠ '(')
    (htext : text = pre ++ '@' :: (name ++ rest)) :
    step text ⟨.named (pre.length + 1), (pre ++ '@' :: name).length, found⟩ =
      .running ⟨.between, (pre ++ '@' :: name).length, found ++ [⟨String.ofList name, none⟩]⟩ := by
  have hafter : text = (pre ++ '@' :: name) ++ rest := by simpa using htext
  rw [step_named hne htext]
  cases rest with
  | nil => rw [peek_end (by simp [hafter])]
  | cons c rest => rw [peek_cons hafter, if_neg (hrest c rfl)]

theorem step_other {pre rest : List Char} {c : Char} (hblank : isBlank c = false) (hc : c ≠ '@')
    (htext : text = pre ++ c :: rest) :
    step text ⟨.between, pre.length, found⟩ =
      .finished (.error (.expectedAttribute (String.ofList (c :: rest)))) := by
  have hrange : text = pre ++ (c :: rest ++ []) := by rw [htext, List.append_nil]
  have hread := readRange_append hrange fun rest =>
    .finished (.error (.expectedAttribute (String.ofList rest)))
  rw [← htext] at hread
  rw [step, peek_cons htext, hblank, if_neg Bool.false_ne_true, if_neg hc, hread]

theorem Ends.parenthesis {pre name body : List Char} (hne : name ≠ [])
    (hname : ∀ c ∈ name, isAttributeChar c = true) (htext : text = pre ++ '@' :: (name ++ '(' :: body))
    (hcloses : Closes text (pre ++ '@' :: name) name [] found result (scanParens 0 false body)) :
    Ends text ⟨.between, pre.length, found⟩ result := by
  have hopen : ∀ c ∈ ('(' :: body).head?, isAttributeChar c = false := by
    rintro c ⟨⟩
    decide +kernel
  have hbody : text = (pre ++ '@' :: name) ++ '(' :: body := by simpa using htext
  have hinner : text = (pre ++ '@' :: name) ++ ['('] ++ body := by simpa using htext
  have hends := Ends.arguments hinner hcloses
  have hlength : (pre ++ '@' :: name ++ ['(']).length = (pre ++ '@' :: name).length + 1 :=
    List.length_append
  rw [hlength] at hends
  have hread : step text
      ⟨.arguments name (pre ++ '@' :: name).length 0 false, (pre ++ '@' :: name).length, found⟩ =
      .running ⟨.arguments name (pre ++ '@' :: name).length (0 + 1) false,
        (pre ++ '@' :: name).length + 1, found⟩ := by
    rw [step, peek_cons hbody]
    simp
  refine .nameAt hname hopen htext (.running ?_ (.running hread hends))
  rw [step_named hne htext, peek_cons hbody, if_pos rfl]

theorem map_map_append {ε : Type} (x : Except ε (List Attribute)) (found : List Attribute) (a : Attribute) :
    (x.map (a :: ·)).map (found ++ ·) = x.map ((found ++ [a]) ++ ·) := by
  cases x with
  | error e => rfl
  | ok as => simp [Except.map]

theorem map_nil_append {ε : Type} (x : Except ε (List Attribute)) : x.map ([] ++ ·) = x := by
  cases x <;> rfl

/-- the scan over positions does what the scan without positions does with the rest of the text -/
theorem ends_between {pre cs : List Char} (htext : text = pre ++ cs) (found : List Attribute) :
    Ends text ⟨.between, pre.length, found⟩ ((scanAttributes cs).map (found ++ ·)) := by
  obtain ⟨ws, hws, hcs⟩ := exists_eq_trimStart cs
  have hblanks : text = pre ++ (ws ++ trimStart cs) := by rw [← hcs, htext]
  refine .blanks hws hblanks ?_
  rw [← List.append_assoc] at hblanks
  generalize pre ++ ws = pre at hblanks
  have hfirst := scansFirst cs
  generalize scanAttributes cs = scanned at hfirst
  cases hfirst with
  | nothing hstart =>
    rw [hstart, List.append_nil] at hblanks
    refine .finished ?_
    rw [step, peek_end (by rw [hblanks])]
    simp [Except.map]
  | @other c rest hstart hc =>
    have hblank : isBlank c = false := noBlankFirst_trimStart cs c (by rw [hstart]; rfl)
    rw [hstart] at hblanks
    exact .finished (step_other hblank hc hblanks)
  | @nameless rest hstart hrest =>
    rw [hstart] at hblanks
    have hname : ∀ c ∈ ([] : List Char), isAttributeChar c = true := nofun
    have hempty : text = pre ++ '@' :: ([] ++ rest) := hblanks
    refine .nameAt hname hrest hempty (.finished ?_)
    rw [step, if_pos (by simp)]
    rfl
  | @name name rest hstart hne hname hrest =>
    have hshorter := length_lt_of_trimStart hstart
    rw [hstart] at hblanks
    have hafter : text = (pre ++ '@' :: name) ++ rest := by simpa using hblanks
    rw [map_map_append]
    refine .nameAt hname (fun c hc => (hrest c hc).1) hblanks (.running ?_ (ends_between hafter _))
    exact step_bare hne (fun c hc => (hrest c hc).2) hblanks
  | @unclosed name body hstart hne hname hbody =>
    rw [hstart] at hblanks
    refine .parenthesis hne hname hblanks ?_
    rw [hbody]
    rfl
  | @arguments name args rest hstart hne hname hargs =>
    have hshorter := length_lt_of_arguments hstart
    rw [hstart] at hblanks
    have hafter : text = (pre ++ '@' :: name ++ '(' :: args ++ [')']) ++ rest := by simpa using hblanks
    have hends := ends_between hafter (found ++ [⟨String.ofList name, some (String.ofList (trim args))⟩])
    rw [List.length_append, List.length_singleton] at hends
    refine .parenthesis hne hname hblanks ?_
    rw [hargs, map_map_append]
    exact hends
termination_by cs.length

end
end Cursor

/-- **attribute scanning is exact and safe**: a text is accepted with exactly the attributes that it is a
row of, and over every text the run over positions comes to its end with the same result and is never
broken -/
theorem scanAttributes_exact (cs : List Char) :
    (∀ attrs, scanAttributes cs = .ok attrs ↔ AttributesIn cs attrs) ∧
    Cursor.Ends cs .start (scanAttributes cs) ∧
    ∀ cur, Cursor.Reaches cs .start cur → cur.step cs ≠ .broken := by
  have hends : Cursor.Ends cs .start (scanAttributes cs) := by
    have hbetween := Cursor.ends_between (List.nil_append cs).symm []
    rwa [Cursor.map_nil_append] at hbetween
  exact ⟨fun attrs => scanAttributes_eq_ok_iff, hends, fun cur hreach => (hends.of_reaches hreach).not_broken⟩

/-- parentheses in a string behind an escaped quote, and no blank between the attributes -/
def nestedAttributes : List Char := "@a@db.b( \"\\\")(\", (y))".toList

/-- a string that ends with a backslash -/
def openAttribute : List Char := ['@', 'a', '(', '"', '\\']

theorem scanAttributes_exact_nested :
    AttributesIn nestedAttributes [⟨"a", none⟩, ⟨"db.b", some "\"\\\")(\", (y)"⟩] ∧
    Cursor.Ends openAttribute .start (.error (.unbalancedParentheses "a")) ∧
    Cursor.Reaches openAttribute .start ⟨.arguments ['a'] 2 1 true, 6, []⟩ ∧
    Cursor.step openAttribute ⟨.arguments ['a'] 2 1 true, 6, []⟩ ≠ .broken := by
  have hnested : scanAttributes nestedAttributes =
      .ok [⟨"a", none⟩, ⟨"db.b", some "\"\\\")(\", (y)"⟩] := by decide +kernel
  have hopen : scanAttributes openAttribute = .error (.unbalancedParentheses "a") := by decide +kernel
  -- the last step goes over the backslash to a position behind the end of the text
  have hreach : Cursor.Reaches openAttribute .start ⟨.arguments ['a'] 2 1 true, 6, []⟩ := by
    have hname : Cursor.Reaches openAttribute .start ⟨.name 1, 1, []⟩ := .step .refl rfl
    have hnamed : Cursor.Reaches openAttribute .start ⟨.named 1, 2, []⟩ := .step (.step hname rfl) rfl
    have hinside : Cursor.Reaches openAttribute .start ⟨.arguments ['a'] 2 1 false, 3, []⟩ :=
      .step (.step hnamed rfl) rfl
    exact .step (.step hinside rfl) rfl
  obtain ⟨-, hends, hsafe⟩ := scanAttributes_exact openAttribute
  rw [hopen] at hends
  exact ⟨((scanAttributes_exact nestedAttributes).1 _).mp hnested, hends, hreach, hsafe _ hreach⟩

end ResolverTypes.DataModel
