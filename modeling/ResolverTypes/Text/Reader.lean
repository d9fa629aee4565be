/-!
# Readers

A reader takes what it wants from the start of a text and gives back the rest, or fails.  Choice is
ordered and repetition is greedy: what a reader has taken is never given back.
-/

namespace ResolverTypes.Text

/-- takes a value from the start of a text, or fails -/
def Reader (α : Type) : Type := List Char → Option (α × List Char)

namespace Reader
variable {α β : Type}

protected def pure (a : α) : Reader α := fun cs => some (a, cs)

protected def bind (p : Reader α) (f : α → Reader β) : Reader β := fun cs =>
  match p cs with
  | some (a, rest) => f a rest
  | none => none

instance : Monad Reader where
  pure := Reader.pure
  bind := Reader.bind

def fail : Reader α := fun _ => none

/-- the second reader, if the first one fails -/
protected def orElse (p : Reader α) (q : Unit → Reader α) : Reader α := fun cs =>
  match p cs with
  | some r => some r
  | none => q () cs

instance : OrElse (Reader α) := ⟨Reader.orElse⟩

/-- a reader that may fail without taking anything -/
def optional (p : Reader α) : Reader (Option α) := fun cs =>
  match p cs with
  | some (a, rest) => some (some a, rest)
  | none => some (none, cs)

def manyUpTo (p : Reader α) : Nat → Reader (List α)
  | 0 => Reader.pure []
  | n + 1 => fun cs =>
    match p cs with
    | none => some ([], cs)
    | some (a, rest) =>
      match manyUpTo p n rest with
      | some (as, rest) => some (a :: as, rest)
      | none => none

/-- repeats a reader that takes at least one character as often as it succeeds -/
def many (p : Reader α) : Reader (List α) := fun cs => manyUpTo p cs.length cs

/-- like `many`, but at least once -/
def many1 (p : Reader α) : Reader (List α) := do
  let a ← p
  let as ← many p
  return a :: as

end Reader

end ResolverTypes.Text
