import Nesting.Text

/-!
# Reading a text from the left

A reading takes something off the front of a text, or fails. Readings follow one another with the
text that is left over. A loop ends because each of its steps takes a character: there are no more
steps than characters, and one that would go on without taking any fails.
-/

namespace Nesting

/-- Takes a thing off the front of a text, unless the text does not begin with one. -/
abbrev Reading := StateT Text Option

namespace Reading

variable {α β σ : Type}

/-- The character in front, which stays there. -/
def peek : Reading (Option Char) := fun t =>
  some (t.head?, t)

/-- Takes the character in front. -/
def next : Reading Char
  | [] => none
  | c :: rest => some (c, rest)

/-- Takes the given character. -/
def char (c : Char) : Reading Unit := do
  guard ((← next) = c)

/-- What is left of a text behind the given characters, if it begins with them. -/
def behind? : Text → Text → Option Text
  | [], t => some t
  | _ :: _, [] => none
  | c :: front, d :: t => if c = d then behind? front t else none

/-- Takes the given characters. -/
def word (s : String) : Reading Unit := fun t =>
  (behind? s.toList t).map ((), ·)

/-- Takes characters as long as they have a property. -/
def takeWhile (p : Char → Bool) : Reading Text := fun t =>
  some (t.takeWhile p, t.dropWhile p)

/-- Drops characters as long as they have a property. -/
def skipWhile (p : Char → Bool) : Reading Unit := fun t =>
  some ((), t.dropWhile p)

/-- Takes the given character if it is in front, and says whether it was. -/
def charIfThere (c : Char) : Reading Bool
  | [] => some (false, [])
  | d :: rest => some (if d = c then (true, rest) else (false, d :: rest))

/-- Takes the given characters if they are in front, and says whether they were. -/
def wordIfThere (s : String) : Reading Bool := fun t =>
  match behind? s.toList t with
  | some rest => some (true, rest)
  | none => some (false, t)

/-- Nothing is left. -/
def ended : Reading Unit := fun t =>
  if t = [] then some ((), []) else none

/-- Does at most the given number of steps. -/
def loopFor (step : σ → Reading (σ ⊕ β)) : Nat → σ → Reading β
  | 0, _ => failure
  | n + 1, s => do
    match ← step s with
    | .inl s => loopFor step n s
    | .inr b => pure b

/-- Repeats a step until it has a result. A step without one hands on a state and takes a
character. -/
def loop (step : σ → Reading (σ ⊕ β)) (s : σ) : Reading β := do
  loopFor step ((← get).length + 1) s

/-- One item after the other, with commas between them, up to a closing character. -/
def commaSeparated (item : Reading α) (close : Char) : Reading (List α) :=
  loop
    (fun items => do
      let items := items ++ [← item]
      match ← next with
      | ',' => pure (.inl items)
      | c => if c = close then pure (.inr items) else failure)
    []

/-- What a reading makes of a whole text. -/
def whole (reading : Reading α) (t : Text) : Option α :=
  ((do let a ← reading; ended; pure a : Reading α).run t).map (·.1)

end Reading

end Nesting
