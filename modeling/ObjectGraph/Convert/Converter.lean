import ObjectGraph.Calendar.Pattern
import ObjectGraph.Convert.Elements
import ObjectGraph.Decimal.Literal
import ObjectGraph.Url.Parser
import ObjectGraph.Value.Access
import ObjectGraph.Value.Display

/-!
Converters: each makes values of one kind from values of others.  The converter of arrays converts
each element, and is given a way to do so.
-/

namespace ObjectGraph

/-- The kinds of dates and times. -/
inductive TemporalKind
  | date
  | time
  | dateTime
deriving DecidableEq

/-- A way to make values of one kind.  Without patterns, dates and times are read in their usual forms. -/
inductive Converter
  | number (p : Primitive)
  | wide
  | boolean
  | character
  | text
  | temporal (kind : TemporalKind) (patterns : List String)
  | url
  | path
  | array

/-- A conversion of one value, which may make new containers. -/
abbrev Conversion := Value → Heap → Except Error (Value × Heap)

namespace Converter

/-- The error that a value cannot be converted. -/
def failure (G : ClassGraph) (H : Heap) (v : Value) (target : Ty) (reason : String) : Error :=
  .conversion (H.typeName G v) (G.typeName target) reason

/-- A number as it is read: a whole one, or one of 64 bits. -/
inductive Number
  | whole (n : Signed 128)
  | real (x : Float)

/-- The number of a text. -/
def readNumber? (s : String) : Option Number :=
  let cs := trimBlanks s.toList
  match (Numeral.readSigned? cs).bind (Signed.ofInt? 128) with
  | some n => some (.whole n)
  | none => (RealLiteral.read? cs).map fun l => .real l.toFloat

/-- The number that a value stands for.  A boolean stands for one or zero. -/
def number? : Value → Option Number
  | .bool b => (Signed.ofInt? 128 (if b then 1 else 0)).map .whole
  | .int _ n => (Signed.ofInt? 128 n.toInt).map .whole
  | .wide n => some (.whole n)
  | .single x => some (.real x.toFloat)
  | .double x => some (.real x)
  | .text s => readNumber? s
  | _ => none

/-- A number as a whole one, with its fraction cut off. -/
def Number.whole? : Number → Option (Signed 128)
  | .whole n => some n
  | .real x => if x.isFinite && x.abs < 1.0e38 then (wholePart? x).bind (Signed.ofInt? 128) else none

/-- A number as one of 64 bits. -/
def Number.toDouble : Number → Float
  | .whole n => doubleOfInt n.toInt
  | .real x => x

/-- The greatest finite number of 32 bits. -/
def maxSingle : Float := (Float32.ofBits 0x7F7FFFFF).toFloat

/-- A number as a scalar of a primitive type; of the errors, the one that fits. -/
def Number.toPrimitive (outOfRange notNumeric : Error) (n : Number) : Primitive → Except Error Value
  | .double => .ok (.double n.toDouble)
  | .single =>
    let x := n.toDouble
    if x.isFinite && maxSingle < x.abs then .error outOfRange else .ok (.single x.toFloat32)
  | p =>
    match n.whole? with
    | none => .error outOfRange
    | some w =>
      match p with
      | .int s =>
        match Signed.ofInt? s.bits w.toInt with
        | some i => .ok (.int s i)
        | none => .error outOfRange
      | _ => .error notNumeric

/-- A text in small ASCII letters. -/
def lowered (cs : List Char) : List Char := cs.map Char.toLower

/-- The boolean that a text stands for. -/
def boolean? (cs : List Char) : Option Bool :=
  let s := String.ofList (lowered cs)
  if ["true", "yes", "y", "on", "1"].contains s then some true
  else if ["false", "no", "n", "off", "0"].contains s then some false
  else none

/-- The date or time that a text stands for. -/
def readTemporal? (kind : TemporalKind) (patterns : List String) (text : String) : Option Value :=
  match kind, patterns with
  | .date, [] => (Date.parse? text).map .date
  | .time, [] => (Clock.parse? text).map .time
  | .dateTime, [] => (DateTime.parse? text <|> DateTime.parseSpaced? text).map .dateTime
  | .date, ps => ps.findSome? fun p => (Date.read? p text).map .date
  | .time, ps => ps.findSome? fun p => (Clock.read? p text).map .time
  | .dateTime, ps => ps.findSome? fun p => (DateTime.read? p text).map .dateTime

/-- The date or time that a value stands for. -/
def temporal? (kind : TemporalKind) (patterns : List String) (v : Value) : Option Value :=
  match kind, v with
  | .date, .date d => some (.date d)
  | .time, .time t => some (.time t)
  | .dateTime, .dateTime t => some (.dateTime t)
  | .date, .dateTime t => some (.date t.date)
  | .time, .dateTime t => some (.time t.time)
  | .dateTime, .date d => some (.dateTime ⟨d, .midnight⟩)
  | _, .text s => readTemporal? kind patterns (String.ofList (trimBlanks s.toList))
  | _, _ => none

/-- Converts a value to one that is no container. -/
def scalar (G : ClassGraph) (H : Heap) (target : Ty) (v : Value) : Converter → Except Error Value
  | .number p =>
    let shown := Error.quoted (H.display G v)
    match number? v with
    | none => .error (failure G H v target (shown ++ " is not a number"))
    | some n =>
      n.toPrimitive (failure G H v target (shown ++ " is out of range"))
        (failure G H v target (Error.quoted p.name ++ " is not numeric")) p
  | .wide =>
    let shown := Error.quoted (H.display G v)
    match number? v with
    | none => .error (failure G H v target (shown ++ " is not a number"))
    | some n =>
      match n.whole? with
      | some w => .ok (.wide w)
      | none => .error (failure G H v target (shown ++ " is out of range"))
  | .boolean =>
    match v.asBool?, v.asInt64? with
    | some b, _ => .ok (.bool b)
    | none, some n => .ok (.bool (n != 0))
    | none, none =>
      let cs := trimBlanks (H.display G v).toList
      match boolean? cs with
      | some b => .ok (.bool b)
      | none => .error (failure G H v target (Error.quoted (String.ofList cs) ++ " is not a boolean"))
  | .character =>
    match v.asChar?, (H.display G v).toList.head? with
    | some c, _ | none, some c => .ok (.char c)
    | none, none => .error (failure G H v target "empty string")
  | .text =>
    match v with
    | .null => .ok .null
    | .text s => .ok (.text s)
    | _ => .ok (.text (H.display G v))
  | .temporal kind patterns =>
    match temporal? kind patterns v with
    | some w => .ok w
    | none =>
      .error (failure G H v target (Error.quoted (H.display G v) ++ " does not match the accepted formats"))
  | .url =>
    match v with
    | .url u => .ok (.url u)
    | .text s =>
      match Url.parse (String.ofList (trimBlanks s.toList)) with
      | .ok u => .ok (.url u)
      | .error fault => .error (failure G H v target (Error.quoted s ++ ": " ++ fault.message))
    | _ => .error (failure G H v target "expected a string")
  | .path =>
    match v with
    | .path p => .ok (.path p)
    | .text s => .ok (.path (.ofText s))
    | .url u =>
      match u.filePath? with
      | some bytes => .ok (.path ⟨bytes⟩)
      | none => .error (failure G H v target (Error.quoted u.text ++ " is not a file URL"))
    | _ => .error (failure G H v target "expected a string")
  | .array => .ok v

/-- The values that become the elements of an array. -/
def elements (H : Heap) (v : Value) : List Value :=
  match v with
  | .text s => (Elements.split s.toList).map fun cs => .text (String.ofList cs)
  | v => (H.items? v).getD [v]

/-- Converts values, in order. -/
def convertAll (element : Conversion) (H : Heap) : List Value → Except Error (List Value × Heap)
  | [] => .ok ([], H)
  | v :: vs => do
    let (w, H) ← element v H
    let (ws, H) ← convertAll element H vs
    return (w :: ws, H)

/-- Converts a value, with a way to convert the elements of an array. -/
def convert (G : ClassGraph) (element : Conversion) (target : Ty) (k : Converter) : Conversion := fun v H =>
  match k with
  | .array => do
    let (vs, H) ← convertAll element H (elements H v)
    return H.newArray (target.component?.getD .any) vs
  | k => do return (← scalar G H target v k, H)

end Converter

end ObjectGraph
