import ObjectGraph.Text.Letter

/-!
Names of accessors: the name of a property after `get`, `is` or `set`, with its first character in
upper case, and the way back.
-/

namespace ObjectGraph

/-- A name with its first character in upper case. -/
def capitalize (name : String) : String :=
  match name.toList with
  | c :: cs => String.ofList (Letter.upper c ++ cs)
  | [] => ""

/-- A name with its first character in lower case, unless its first two characters are capitals. -/
def decapitalize (name : String) : String :=
  match name.toList with
  | c :: d :: cs =>
    if Letter.isCapital c && Letter.isCapital d then name else String.ofList (Letter.lower c ++ d :: cs)
  | [c] => String.ofList (Letter.lower c)
  | [] => ""

/-- What follows a word at the start of a name. -/
def afterWord? (word name : String) : Option String :=
  if word.toList.isPrefixOf name.toList then some (String.ofList (name.toList.drop word.toList.length)) else none

end ObjectGraph
