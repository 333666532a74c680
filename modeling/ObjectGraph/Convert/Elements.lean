import ObjectGraph.Text.Blank

/-!
Lists of elements written as text: elements separated by commas, bare or between quotes, with or
without braces around them.  Blanks around elements do not count, but those between quotes do.
-/

namespace ObjectGraph.Elements

/-- How far an element has been read: its characters, the quote that is open, and whether there has been one. -/
structure Partial where
  chars : List Char
  quote : Option Char
  quoted : Bool

/-- Nothing has been read. -/
def Partial.start : Partial := ⟨[], none, false⟩

/-- The element that has been read. -/
def Partial.element (p : Partial) : List Char := if p.quoted then p.chars else trimBlanks p.chars

/-- Reads one more character of an element, which is no separator. -/
def Partial.read (p : Partial) (c : Char) : Partial :=
  match p.quote with
  | some q => if c = q then { p with quote := none } else { p with chars := p.chars ++ [c] }
  | none =>
    if c = '\x22' ∨ c = '\x27' then
      ⟨if (trimBlanks p.chars).isEmpty then [] else p.chars, some c, true⟩
    else if p.quoted ∧ isBlank c then p
    else { p with chars := p.chars ++ [c] }

/-- Reads elements, the first of which has been begun. -/
def readFrom (p : Partial) : List Char → List (List Char)
  | [] => [p.element]
  | c :: cs => if c = ',' ∧ p.quote = none then p.element :: readFrom .start cs else readFrom (p.read c) cs

/-- A text without braces around it, if it has both. -/
def unbraced (cs : List Char) : List Char :=
  match cs with
  | '\x7b' :: inner => if inner.getLast? = some '\x7d' then inner.dropLast else cs
  | _ => cs

/-- The elements of a text. -/
def split (cs : List Char) : List (List Char) :=
  let inner := unbraced (trimBlanks cs)
  if (trimBlanks inner).isEmpty then [] else readFrom .start inner

end ObjectGraph.Elements
