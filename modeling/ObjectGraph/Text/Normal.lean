import ObjectGraph.Text.NormalTable

/-!
The composed normal form of text.  Every character is first taken apart; then the marks of each
character are brought into the order of their classes; then a character and a mark that together
are one character become that one, unless another mark stands between them that keeps them apart.
-/

namespace ObjectGraph.Normal

/-- The class of a mark, by which marks are put in order; a character that is no mark has class zero. -/
def markClass (n : Nat) : Nat := if n < 0x300 then 0 else (PointTable.classOf? markClasses n).getD 0

/-- The two or three letters of a Korean syllable. -/
def syllableParts (i : Nat) : List Nat :=
  [0x1100 + i / 588, 0x1161 + i % 588 / 28] ++ if i % 28 = 0 then [] else [0x11A7 + i % 28]

/-- The characters that a character is composed of; the parts of a part are looked for to a depth. -/
def parts : (depth : Nat) → Nat → List Nat
  | 0, n => [n]
  | depth + 1, n =>
    if n < 0xC0 then [n]
    else if 0xAC00 ≤ n ∧ n ≤ 0xD7A3 then syllableParts (n - 0xAC00)
    else
      match PointTable.tail? pairs n with
      | some ns => ns.flatMap (parts depth)
      | none => (PointTable.tail? splits n).getD [n]

/-- The characters that a character is composed of: a base and at most three marks, or letters of a syllable. -/
def allParts (c : Char) : List Nat := parts 3 c.toNat

/-- Puts a mark with its class before the marks of higher classes; the list has its last mark first. -/
def insertMark (n cls : Nat) : List (Nat × Nat) → List (Nat × Nat)
  | [] => [(n, cls)]
  | (m, other) :: before =>
    if cls ≠ 0 ∧ cls < other then (m, other) :: insertMark n cls before else (n, cls) :: (m, other) :: before

/-- The parts of a text with their classes, marks in order. -/
def decompose (cs : List Char) : List (Nat × Nat) :=
  ((cs.flatMap allParts).foldl (fun before n => insertMark n (markClass n) before) []).reverse

/-- The character that two characters are composed to. -/
def pair? (a b : Nat) : Option Nat :=
  if b < 0x300 then none
  else if 0x1100 ≤ a ∧ a < 0x1113 ∧ 0x1161 ≤ b ∧ b < 0x1176 then
    some (0xAC00 + ((a - 0x1100) * 21 + (b - 0x1161)) * 28)
  else if 0xAC00 ≤ a ∧ a ≤ 0xD7A3 ∧ (a - 0xAC00) % 28 = 0 ∧ 0x11A7 < b ∧ b < 0x11C3 then
    some (a + (b - 0x11A7))
  else
    pairs.findSome? fun row => match row with
      | [n, first, second] => if a = first ∧ b = second then some n else none
      | _ => none

/-- A text being composed: what is finished, the character that marks may join, and the marks that
stay behind it with their classes, each list with its last character first. -/
structure Composing where
  finished : List Nat
  base : Option Nat
  marks : List (Nat × Nat)

namespace Composing

/-- The composed text, its last character first. -/
def all (p : Composing) : List Nat := p.marks.map (·.1) ++ p.base.toList ++ p.finished

/-- Adds a character that is not composed with the one before. -/
def keep (p : Composing) (n cls : Nat) : Composing :=
  if cls = 0 then ⟨p.all, some n, []⟩ else { p with marks := (n, cls) :: p.marks }

/-- Adds a character with its class.  A mark between it and the base keeps them apart if its class is not lower. -/
def add (p : Composing) (n cls : Nat) : Composing :=
  let apart := p.marks.head?.any fun (_, last) => cls ≤ last
  match p.base.bind fun base => if apart then none else pair? base n with
  | some joined => { p with base := some joined }
  | none => p.keep n cls

end Composing

/-- The composed normal form of a text. -/
def form (cs : List Char) : List Char :=
  ((decompose cs).foldl (fun p (n, cls) => Composing.add p n cls) ⟨[], none, []⟩).all.reverse.map Char.ofNat

end ObjectGraph.Normal
