import ObjectGraph.Text.Direction
import ObjectGraph.Text.Joining
import ObjectGraph.Text.Normal
import ObjectGraph.Url.DomainTable
import ObjectGraph.Url.Punycode

/-!
Domain names in all scripts.  A name is folded, so that names that look the same are the same; its
labels are checked; and a label with characters beyond ASCII is written in ASCII behind `xn--`.
-/

namespace ObjectGraph.Domain

/-- Whether a character is one of ASCII. -/
def isAscii (c : Char) : Bool := c.toNat < 128

/-- The characters that a character beyond ASCII stands for in a name. -/
def images (n : Nat) : List Nat :=
  match PointTable.tail? replaced n with
  | some ns => ns
  | none =>
    match (PointTable.shifted? shifted 1 n).or (PointTable.shifted? alternating 2 n) with
    | some m => [m]
    | none => [n]

/-- The characters that a character stands for in a name; some characters no name may hold. -/
def foldChar? (c : Char) : Option (List Char) :=
  if isAscii c then some [c.toLower]
  else if PointTable.contains refused c.toNat then none
  else if PointTable.contains ignored c.toNat then some []
  else some ((images c.toNat).map Char.ofNat)

/-- A name in the one form that all its spellings share. -/
def fold? (cs : List Char) : Option (List Char) := (cs.mapM foldChar?).map fun parts => Normal.form parts.flatten

/-- The ASCII characters that no domain name may hold. -/
def isForbidden (c : Char) : Bool :=
  c.toNat ≤ 32 || c.toNat == 127 || "%#/:<>?@[\x5c]^|".toList.contains c

/-- The class of the marks that take the vowel from a letter. -/
def vowelless : Nat := 9

/-- Whether the joiners of a text stand behind a mark that asks for one or, if they part letters,
between letters that would join; the text before it has its last character first. -/
def joinersFit (before : List Char) : List Char → Bool
  | [] => true
  | c :: cs =>
    let fits :=
      if c = '\u200c' ∨ c = '\u200d' then
        before.head?.any (fun last => Normal.markClass last.toNat == vowelless) ||
          (c == '\u200c' && Joining.joinsAt before cs)
      else true
    fits && joinersFit (c :: before) cs

/-- Whether a folded text with characters beyond ASCII is a label. -/
def isLabel (label : List Char) : Bool :=
  !label.head?.any Joining.isMark && joinersFit [] label && label.length ≤ 1000

/-- What stands before the written form of a label with characters beyond ASCII. -/
def mark : List Char := "xn--".toList

/-- The label of a written form without its mark. -/
def readMarked? (cs : List Char) : Option (List Char) :=
  if 2000 < cs.length then none
  else
    (Punycode.decode? cs).bind fun label =>
      if !label.all isAscii && fold? label = some label && isLabel label then some label else none

/-- The label of a folded text, which may be the written form of one. -/
def readLabel? (cs : List Char) : Option (List Char) :=
  if mark.isPrefixOf cs then if cs.all isAscii then readMarked? (cs.drop mark.length) else none
  else if cs.all isAscii || isLabel cs then some cs
  else none

/-- The labels of a name. -/
def labels? (cs : List Char) : Option (List (List Char)) := do
  let name ← fold? cs
  if name.any isForbidden then none
  else
    let labels ← (name.splitOn '.').mapM readLabel?
    let isReversed := labels.any fun label => label.any fun c => (Direction.ofChar c).isReversed
    if isReversed && !labels.all Direction.isSteady then none else some labels

/-- The written form of a label. -/
def writeLabel (label : List Char) : List Char :=
  if label.all isAscii then label else mark ++ Punycode.encode label

/-- A name in its written form. -/
def ascii? (cs : List Char) : Option (List Char) :=
  (labels? cs).map fun labels => ['.'].intercalate (labels.map writeLabel)

end ObjectGraph.Domain
