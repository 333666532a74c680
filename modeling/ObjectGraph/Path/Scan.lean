import ObjectGraph.Path.Parser

/-!
Looking at the text of a path without reading all of it: its separators, its first and its last
segment, and the kind of the first subscript.
-/

namespace ObjectGraph.Path

/-- Cuts a text at its first point outside of subscripts. -/
def cut? (opens closes : Char → Bool) (depth : Nat) : List Char → Option (List Char × List Char)
  | [] => none
  | c :: cs =>
    if c = '.' ∧ depth = 0 then some ([], cs)
    else
      let depth := if opens c then depth + 1 else if closes c then depth - 1 else depth
      (cut? opens closes depth cs).map fun (before, after) => (c :: before, after)

/-- Cuts a text at its first separator. -/
def cutFirst? (cs : List Char) : Option (List Char × List Char) := cut? isOpening isClosing 0 cs

/-- Cuts a text at its last separator, scanning from the right, where closing brackets open. -/
def cutLast? (cs : List Char) : Option (List Char × List Char) :=
  (cut? isClosing isOpening 0 cs.reverse).map fun (after, before) => (before.reverse, after.reverse)

/-- The place in bytes of the first separator. -/
def nextSeparator? (text : String) : Option Nat := (cutFirst? text.toList).map fun (before, _) => Utf8.length before

/-- The place in bytes of the last separator. -/
def lastSeparator? (text : String) : Option Nat := (cutLast? text.toList).map fun (before, _) => Utf8.length before

/-- The text of the first segment. -/
def firstChars (cs : List Char) : List Char := ((cutFirst? cs).map Prod.fst).getD cs

/-- The text of the first segment. -/
def firstText (text : String) : String := String.ofList (firstChars text.toList)

/-- The text after the first segment, if there is more than one. -/
def restText? (text : String) : Option String := (cutFirst? text.toList).map fun (_, after) => String.ofList after

/-- The text before the last segment, if there is more than one, and the last segment. -/
def splitLast (text : String) : Option String × String :=
  match cutLast? text.toList with
  | some (before, after) => (some (String.ofList before), String.ofList after)
  | none => (none, text)

/-- Whether there is more than one segment. -/
def hasNested (text : String) : Bool := (cutFirst? text.toList).isSome

/-- Whether an index subscript comes before any point and any key. -/
def isIndexed (text : String) : Bool :=
  (text.toList.find? fun c => c == '.' || c == '(' || c == '[') == some '['

/-- Whether a key subscript comes before any point and any index. -/
def isMapped (text : String) : Bool :=
  (text.toList.find? fun c => c == '.' || c == '(' || c == '[') == some '('

/-- The name of the first segment. -/
def nameText (text : String) : String :=
  String.ofList ((firstChars text.toList).takeWhile fun c => !isOpening c)

/-- The key of the first segment: what is between its first parenthesis and a closing one at its end. -/
def keyText? (text : String) : Option String :=
  match (firstChars text.toList).dropWhile (· != '(') with
  | _ :: inner => if inner.getLast? = some ')' then some (String.ofList inner.dropLast) else none
  | [] => none

/-- The index of the first segment, if it has one. -/
def index? (text : String) : Except PathError (Option Nat) :=
  (Segment.parse (firstText text)).map fun s =>
    match s.subscript with
    | .index i => some i
    | _ => none

end ObjectGraph.Path
