import ResolverTypes.DataModel.Comment
import ResolverTypes.DataModel.Line

/-!
# Reading a data-model schema

The text is read line by line.  The reader holds the finished blocks, the open block and the
documentation lines that wait for the next header or property.  A `///` line is documentation;
any other line loses its comment first.  A closing brace and a blank line leave waiting
documentation alone.
-/

namespace ResolverTypes.DataModel
open Text

/-- what the reader holds between two lines -/
structure ReaderState where
  /-- finished blocks, in source order -/
  done : List Block
  /-- the open block -/
  current : Option Block
  /-- documentation lines that wait for their declaration -/
  docs : List (List Char)
deriving DecidableEq, Repr

def ReaderState.start : ReaderState := ⟨[], none, []⟩

/-- the waiting documentation as one text -/
def joinDocs (docs : List (List Char)) : Option String :=
  if docs.isEmpty then none else some (String.ofList (join ['\n'] docs))

/-- what a raw line is -/
inductive LineShape where
  | doc (text : List Char)
  | blank
  | close
  | content (text : List Char)
deriving DecidableEq, Repr

def lineShape (raw : List Char) : LineShape :=
  let text := trim raw
  match dropHead? "///".toList text with
  | some doc => .doc (trim doc)
  | none =>
    match trim (stripComment text) with
    | [] => .blank
    | ['\x7d'] => .close
    | cs => .content cs

def ReaderState.step (s : ReaderState) (line : Nat) (raw : List Char) :
    Except Error ReaderState :=
  match lineShape raw with
  | .doc text => .ok { s with docs := s.docs ++ [text] }
  | .blank => .ok s
  | .close =>
    match s.current with
    | some b => .ok { s with done := s.done ++ [b], current := none }
    | none => .error (.parse line .unmatchedBrace)
  | .content cs =>
    match s.current with
    | some b =>
      match readProperty b.kind cs line (joinDocs s.docs) with
      | .error fault => .error (.parse line fault)
      | .ok p =>
        .ok { s with current := some { b with properties := b.properties ++ [p] }, docs := [] }
    | none =>
      match readHeader? cs with
      | none => .error (.parse line (.outsideBlock (String.ofList cs)))
      | some h =>
        let b : Block := ⟨h.kind, h.name, line, joinDocs s.docs, []⟩
        if h.closed then .ok { s with done := s.done ++ [b], docs := [] }
        else .ok { s with current := some b, docs := [] }

/-- reads lines numbered from `line` -/
def ReaderState.run (s : ReaderState) (line : Nat) : List (List Char) → Except Error ReaderState
  | [] => .ok s
  | raw :: rest =>
    match s.step line raw with
    | .error e => .error e
    | .ok s' => s'.run (line + 1) rest

/-- the blocks, once all lines are read -/
def ReaderState.finish (s : ReaderState) : Except Error (List Block) :=
  match s.current with
  | some b => .error (.unterminatedBlock b.kind b.line)
  | none => .ok s.done

def parse (source : String) : Except Error (List Block) :=
  match ReaderState.start.run 1 (lines source.toList) with
  | .error e => .error e
  | .ok s => s.finish

end ResolverTypes.DataModel
