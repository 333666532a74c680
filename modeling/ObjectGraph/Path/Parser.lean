import ObjectGraph.Path.Basic
import ObjectGraph.Text.Utf8

/-!
Reading of property paths.  A point separates segments where no bracket is open; brackets of both
kinds are counted together, so that a key may hold points.  A fault is reported with the place in
the text, in bytes.
-/

namespace ObjectGraph

/-- What is wrong with a path. -/
inductive PathFault
  | emptyPath
  | emptyName
  | unmatchedClosing
  | missingClosing (close : Char)
  | invalidIndex (text : String)
  | simpleExpected
  | indexedExpected
  | mappedExpected
deriving DecidableEq

/-- A fault, the text in which it is, and its place there in bytes. -/
structure PathError where
  offset : Nat
  path : String
  fault : PathFault
deriving DecidableEq

namespace PathFault

/-- The wording of a fault. -/
def message : PathFault → String
  | emptyPath => "empty property path"
  | emptyName => "empty property name"
  | unmatchedClosing => "unmatched closing bracket"
  | missingClosing close => "expected `" ++ String.singleton close ++ "` at end of segment"
  | invalidIndex text => "invalid index `" ++ text ++ "`"
  | simpleExpected => "expected a simple property name"
  | indexedExpected => "expected an indexed property"
  | mappedExpected => "expected a mapped property"

end PathFault

namespace PathError

/-- The wording of a fault with its place. -/
def message (e : PathError) : String :=
  "encountered an error at offset " ++ Numeral.ofNat e.offset ++ " while parsing `" ++ e.path ++ "`: " ++
    e.fault.message

end PathError

namespace Path

/-- Whether a character opens a subscript. -/
def isOpening (c : Char) : Bool := c == '[' || c == '('

/-- Whether a character closes a subscript. -/
def isClosing (c : Char) : Bool := c == ']' || c == ')'

/-- Whether a character may not be in a name. -/
def isDelimiter (c : Char) : Bool := c == '.' || isOpening c || isClosing c

/-- The number of open brackets after a character; an unmatched closing one counts for nothing. -/
def depthAfter (depth : Nat) (c : Char) : Nat :=
  if isOpening c then depth + 1 else if isClosing c then depth - 1 else depth

/-- The parts of a text between the points outside of subscripts; `depth` brackets are open at its start. -/
def pieces (depth : Nat) : List Char → List (List Char)
  | [] => [[]]
  | c :: cs =>
    if c = '.' ∧ depth = 0 then [] :: pieces 0 cs
    else
      match pieces (depthAfter depth c) cs with
      | p :: ps => (c :: p) :: ps
      | [] => [[c]]

/-- The greatest index. -/
def maxIndex : Nat := 18446744073709551615

/-- The index of a text of digits. -/
def readIndex? (cs : List Char) : Option Nat :=
  (Numeral.readUnsigned? cs).bind fun i => if i ≤ maxIndex then some i else none

end Path

namespace Segment
open ObjectGraph.Path

/-- Reads a segment.  Of a fault, the place in the segment is given. -/
def parseChars (cs : List Char) : Except (Nat × PathFault) Segment :=
  let name := cs.takeWhile fun c => !isOpening c
  match cs.dropWhile fun c => !isOpening c with
  | [] =>
    if cs.any isClosing then .error (Utf8.length (cs.takeWhile fun c => !isClosing c), .unmatchedClosing)
    else if cs.isEmpty then .error (0, .emptyName)
    else .ok ⟨String.ofList cs, .none⟩
  | opening :: inner =>
    let close := if opening = '[' then ']' else ')'
    if name.any isClosing then .error (Utf8.length (name.takeWhile fun c => !isClosing c), .unmatchedClosing)
    else if inner.getLast? ≠ some close then .error (Utf8.length cs, .missingClosing close)
    else
      let inside := inner.dropLast
      if opening = '[' then
        match readIndex? inside with
        | some i => .ok ⟨String.ofList name, .index i⟩
        | none => .error (Utf8.length name + 1, .invalidIndex (String.ofList inside))
      else .ok ⟨String.ofList name, .key (String.ofList inside)⟩

/-- Reads the segment of a text. -/
def parse (text : String) : Except PathError Segment :=
  (parseChars text.toList).mapError fun (offset, fault) => ⟨offset, text, fault⟩

end Segment

namespace Path

/-- Reads segments, the first of which begins at a place of the whole text. -/
def parsePieces (offset : Nat) : List (List Char) → Except (Nat × PathFault) (List Segment)
  | [] => .ok []
  | p :: ps => do
    let s ← (Segment.parseChars p).mapError fun (at_, fault) => (offset + at_, fault)
    let rest ← parsePieces (offset + Utf8.length p + 1) ps
    return s :: rest

/-- Reads the path of a text. -/
def parse (text : String) : Except PathError Path :=
  if text.isEmpty then .error ⟨0, text, .emptyPath⟩
  else
    match parsePieces 0 (pieces 0 text.toList) with
    | .error (offset, fault) => .error ⟨offset, text, fault⟩
    | .ok segments => if h : segments ≠ [] then .ok ⟨segments, h⟩ else .error ⟨0, text, .emptyPath⟩

end Path

end ObjectGraph
