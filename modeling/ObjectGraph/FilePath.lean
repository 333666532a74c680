import ObjectGraph.Text.Utf8

/-!
Paths of a file system: sequences of bytes, which need not be the bytes of a text.
-/

namespace ObjectGraph

/-- A path of a file system, by its bytes. -/
structure FilePath where
  bytes : List UInt8
deriving DecidableEq

namespace FilePath

/-- The path with a text. -/
def ofText (s : String) : FilePath := ⟨Utf8.encode s.toList⟩

/-- The text of a path, with U+FFFD for each fault. -/
def text (p : FilePath) : String := String.ofList (Utf8.lossy p.bytes)

/-- The text of a path whose bytes are the bytes of a text. -/
def text? (p : FilePath) : Option String := (Utf8.read? p.bytes).map String.ofList

/-- The names between slashes. -/
def names : List UInt8 → List (List UInt8)
  | [] => [[]]
  | b :: bs =>
    if b = 47 then [] :: names bs
    else
      match names bs with
      | n :: ns => (b :: n) :: ns
      | [] => [[b]]

/-- Whether a path is absolute, and its steps: empty names and dots are no steps, but a dot at the start is. -/
def steps (p : FilePath) : Bool × List (List UInt8) :=
  let rooted := p.bytes.head? == some 47
  let kept := (names p.bytes).filter fun n => n != [] && n != [46]
  let leadingDot := !rooted && (names p.bytes).head? == some [46]
  (rooted, if leadingDot then [46] :: kept else kept)

/-- Whether two paths have the same steps. -/
def same (p q : FilePath) : Bool := p.steps == q.steps

end FilePath

end ObjectGraph
