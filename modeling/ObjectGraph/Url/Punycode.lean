/-!
Punycode: a label of any characters written with letters, digits and hyphens.  The ASCII characters
stand first; the others follow in the order of their code points, each as the distance from the one
before it.
-/

namespace ObjectGraph.Punycode

/-- The letter or digit of a value below 36. -/
def digit (d : Nat) : Char :=
  if d < 26 then Char.ofNat ('a'.toNat + d) else Char.ofNat ('0'.toNat + d - 26)

/-- The value of a letter or digit. -/
def digitValue? (c : Char) : Option Nat :=
  if 'a' ≤ c ∧ c ≤ 'z' then some (c.toNat - 'a'.toNat)
  else if 'A' ≤ c ∧ c ≤ 'Z' then some (c.toNat - 'A'.toNat)
  else if '0' ≤ c ∧ c ≤ '9' then some (c.toNat - '0'.toNat + 26)
  else none

/-- The least digit value that says that another digit follows, at a place. -/
def threshold (place bias : Nat) : Nat := max 1 (min 26 (place - bias))

theorem threshold_pos (place bias : Nat) : 0 < threshold place bias := by
  unfold threshold; omega

/-- Divides by 35 until a number is small, counting the places. -/
def shrink (delta k : Nat) : Nat × Nat :=
  if 455 < delta then shrink (delta / 35) (k + 36) else (delta, k)
termination_by delta
decreasing_by exact Nat.div_lt_self (by omega) (by omega)

/-- The bias after a distance. -/
def adapt (delta count : Nat) (first : Bool) : Nat :=
  let delta := if first then delta / 700 else delta / 2
  let (delta, k) := shrink (delta + delta / count) 0
  k + 36 * delta / (delta + 38)

/-- The digits of a distance. -/
def distance (bias place q : Nat) : List Char :=
  let t := threshold place bias
  if q < t then [digit q]
  else digit (t + (q - t) % (36 - t)) :: distance bias (place + 36) ((q - t) / (36 - t))
termination_by q
decreasing_by
  have h := threshold_pos place bias
  calc (q - threshold place bias) / (36 - threshold place bias)
      ≤ q - threshold place bias := Nat.div_le_self _ _
    _ < q := by omega

/-- What has been written, and the state of the counting. -/
structure Progress where
  out : List Char
  delta : Nat
  bias : Nat
  count : Nat

/-- Passes one character of the label while the code point `n` is written. -/
def visit (basic n : Nat) (p : Progress) (c : Char) : Progress :=
  if c.toNat < n then { p with delta := p.delta + 1 }
  else if c.toNat = n then
    { out := p.out ++ distance p.bias 36 p.delta, delta := 0,
      bias := adapt p.delta (p.count + 1) (p.count == basic), count := p.count + 1 }
  else p

/-- Writes the code points of a list, in rising order; the counting stands at `next`. -/
def writeFrom (cs : List Char) (basic : Nat) : (points : List Nat) → (next : Nat) → Progress → Progress
  | [], _, p => p
  | n :: points, next, p =>
    let p := { p with delta := p.delta + (n - next) * (p.count + 1) }
    let p := cs.foldl (visit basic n) p
    writeFrom cs basic points (n + 1) { p with delta := p.delta + 1 }

/-- The written form of a label. -/
def encode (cs : List Char) : List Char :=
  let ascii := cs.filter fun c => c.toNat < 128
  let points := ((cs.filter fun c => 128 ≤ c.toNat).map Char.toNat).mergeSort.eraseDups
  let start : Progress :=
    { out := if ascii.isEmpty then [] else ascii ++ ['-'], delta := 0, bias := 72, count := ascii.length }
  (writeFrom cs ascii.length points 128 start).out

/-- Reads one distance from the digits of a text.  Weights are below `2 ^ 32`. -/
def readDistance? (bias : Nat) : (place weight value : Nat) → List Char → Option (Nat × List Char)
  | _, _, _, [] => none
  | place, weight, value, c :: cs =>
    (digitValue? c).bind fun d =>
      let value := value + d * weight
      let t := threshold place bias
      if d < t then some (value, cs)
      else if Nat.pow 2 32 ≤ weight * (36 - t) then none
      else readDistance? bias (place + 36) (weight * (36 - t)) value cs

theorem length_of_readDistance? {bias place weight value : Nat} {cs rest : List Char} {n : Nat}
    (h : readDistance? bias place weight value cs = some (n, rest)) : rest.length < cs.length := by
  induction cs generalizing place weight value with
  | nil => simp [readDistance?] at h
  | cons c cs ih =>
    simp only [readDistance?, Option.bind_eq_some_iff] at h
    obtain ⟨d, _, h⟩ := h
    split at h
    · simp only [Option.some.injEq, Prod.mk.injEq] at h
      simp [← h.2]
    · split at h
      · simp at h
      · have := ih h
        simp; omega

/-- Reads distances and inserts the characters they stand for. -/
def insertFrom? (out : List Char) (n i bias : Nat) (cs : List Char) : Option (List Char) :=
  if cs.isEmpty then some out
  else
    match _h : readDistance? bias 36 1 i cs with
    | none => none
    | some (value, rest) =>
      let size := out.length + 1
      let point := n + value / size
      let place := value % size
      if point.isValidChar then
        insertFrom? (out.take place ++ Char.ofNat point :: out.drop place) point (place + 1)
          (adapt (value - i) size (i == 0)) rest
      else none
termination_by cs.length
decreasing_by exact length_of_readDistance? (by assumption)

/-- The label with a written form.  A hyphen before the distances needs ASCII characters before it. -/
def decode? (cs : List Char) : Option (List Char) :=
  let tail := (cs.reverse.takeWhile (· != '-')).reverse
  let ascii := (cs.take (cs.length - tail.length)).dropLast
  if ascii.any (fun c => 128 ≤ c.toNat) || cs.length = tail.length + 1 then none
  else insertFrom? ascii 128 0 72 tail

end ObjectGraph.Punycode
