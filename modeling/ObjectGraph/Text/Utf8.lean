/-!
UTF-8: the bytes of a text, and the text of bytes.  A run of bytes that begins a character and does
not complete it is one fault; reading goes on at the byte that broke it.
-/

namespace ObjectGraph.Utf8

/-- The bytes of a text. -/
def encode (cs : List Char) : List UInt8 := cs.flatMap String.utf8EncodeChar

/-- The number of bytes of a text. -/
def length (cs : List Char) : Nat := cs.foldr (fun c n => c.utf8Size + n) 0

theorem length_cons (c : Char) (cs : List Char) : length (c :: cs) = c.utf8Size + length cs := rfl

theorem length_append (as bs : List Char) : length (as ++ bs) = length as + length bs := by
  induction as with
  | nil => exact (Nat.zero_add _).symm
  | cons c as ih => rw [List.cons_append, length_cons, ih, length_cons, Nat.add_assoc]

theorem utf8ByteSize_ofList (cs : List Char) : (String.ofList cs).utf8ByteSize = length cs := by
  induction cs with
  | nil => rfl
  | cons c cs ih =>
    rw [← List.singleton_append, String.ofList_append, String.utf8ByteSize_append, ih, length_append]
    simp [length]

/-- What is missing of a character: how many bytes, its bits so far, and the bounds of the next byte. -/
structure Pending where
  missing : Nat
  bits : Nat
  low : Nat
  high : Nat

/-- Nothing is missing between two characters. -/
def Pending.idle : Pending := ⟨0, 0, 0, 0⟩

/-- The character or the fault that a leading byte makes by itself, and what it leaves missing. -/
def start (b : Nat) : List (Option Char) × Pending :=
  if b < 0x80 then ([some (Char.ofNat b)], .idle)
  else if b < 0xC2 then ([none], .idle)
  else if b < 0xE0 then ([], ⟨1, b - 0xC0, 0x80, 0xBF⟩)
  else if b < 0xF0 then
    ([], ⟨2, b - 0xE0, if b = 0xE0 then 0xA0 else 0x80, if b = 0xED then 0x9F else 0xBF⟩)
  else if b < 0xF5 then
    ([], ⟨3, b - 0xF0, if b = 0xF0 then 0x90 else 0x80, if b = 0xF4 then 0x8F else 0xBF⟩)
  else ([none], .idle)

/-- Reads bytes with a character possibly begun; a fault is `none`. -/
def decodeFrom (p : Pending) : List UInt8 → List (Option Char)
  | [] => if p.missing = 0 then [] else [none]
  | b :: bs =>
    let n := b.toNat
    if p.missing = 0 then
      let (out, q) := start n
      out ++ decodeFrom q bs
    else if p.low ≤ n ∧ n ≤ p.high then
      let bits := p.bits * 64 + n % 64
      if p.missing = 1 then some (Char.ofNat bits) :: decodeFrom .idle bs
      else decodeFrom ⟨p.missing - 1, bits, 0x80, 0xBF⟩ bs
    else
      let (out, q) := start n
      none :: (out ++ decodeFrom q bs)

/-- The characters and faults of a sequence of bytes. -/
def decode (bytes : List UInt8) : List (Option Char) := decodeFrom .idle bytes

/-- The text of bytes that hold no fault. -/
def read? (bytes : List UInt8) : Option (List Char) := (decode bytes).mapM id

/-- The text of bytes, with U+FFFD for each fault. -/
def lossy (bytes : List UInt8) : List Char := (decode bytes).map fun c => c.getD '\ufffd'

end ObjectGraph.Utf8
