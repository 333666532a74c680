import ObjectGraph.Text.Percent

/-!
Tables of code points.  A table is written as lines of text in which commas end rows and blanks end
numbers; the numbers are hexadecimal.
-/

namespace ObjectGraph.PointTable

/-- The numbers of one row. -/
abbrev Row := List Nat

/-- The number of a text of hexadecimal digits. -/
def number (digits : String) : Nat :=
  digits.toList.foldl (fun n c => n * 16 + (Percent.hexValue? c).getD 0) 0

/-- The rows of a table. -/
def rows (lines : List String) : List Row :=
  lines.flatMap fun line => (line.splitOn ", ").map fun row => (row.splitOn " ").map number

/-- Whether a table of ranges has a code point; a row is the first and the last of a range or its only point. -/
def contains (table : List Row) (n : Nat) : Bool :=
  table.any fun row => match row with
    | [only] => n == only
    | [first, last] => first ≤ n && n ≤ last
    | _ => false

/-- What follows a code point in the row that begins with it. -/
def tail? (table : List Row) (n : Nat) : Option Row :=
  table.findSome? fun row => match row with
    | first :: rest => if n = first then some rest else none
    | [] => none

/-- The last number of the first row whose range has a code point. -/
def classOf? (table : List Row) (n : Nat) : Option Nat :=
  table.findSome? fun row => match row with
    | [first, last, cls] => if first ≤ n ∧ n ≤ last then some cls else none
    | _ => none

/-- The image of a code point: each `step`-th point of a range is moved as far as the first one. -/
def shifted? (table : List Row) (step n : Nat) : Option Nat :=
  table.findSome? fun row => match row with
    | [first, last, image] =>
      if first ≤ n ∧ n ≤ last ∧ (n - first) % step = 0 then some (image + (n - first)) else none
    | _ => none

theorem contains_nil (n : Nat) : contains [] n = false := rfl

theorem contains_cons (first last n : Nat) (table : List Row) :
    contains ([first, last] :: table) n = ((first ≤ n && n ≤ last) || contains table n) := rfl

end ObjectGraph.PointTable
