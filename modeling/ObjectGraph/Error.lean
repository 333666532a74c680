import ObjectGraph.Path.Parser

/-!
Why an operation on properties failed.  Types and classes are held by their names.
-/

namespace ObjectGraph

/-- The cause of a failure. -/
inductive Error
  | unknownProperty (property target : String)
  | notReadable (property target : String)
  | notWriteable (property target : String)
  | notIndexed (property : String)
  | notMapped (property : String)
  | indexOutOfRange (property : String) (index length : Nat)
  /-- A null value stands where a path goes on. -/
  | nullIntermediate (path full : String)
  /-- There is no value to work on. -/
  | nullTarget
  | conversion (source target reason : String)
  | nullForPrimitive (property ty : String)
  /-- The schema of a record may not be changed. -/
  | restrictedSchema (schema property : String)
  /-- The two accessors of a keyed property disagree about the type of its values. -/
  | descriptorMismatch (cls property read write : String)
  | unsupported (operation target : String)
  | invalidPath (e : PathError)
  | notConstructible (cls : String)
  | invocation (method reason : String)
deriving DecidableEq

namespace Error

/-- Whether an error says that a property is absent or may not be read or written. -/
def isMissing : Error → Bool
  | unknownProperty .. | notReadable .. | notWriteable .. => true
  | _ => false

/-- A name between backquotes. -/
def quoted (s : String) : String := "`" ++ s ++ "`"

/-- The wording of an error. -/
def message : Error → String
  | unknownProperty p t => "unknown property " ++ quoted p ++ " on " ++ quoted t
  | notReadable p t => "property " ++ quoted p ++ " of " ++ quoted t ++ " has no getter"
  | notWriteable p t => "property " ++ quoted p ++ " of " ++ quoted t ++ " has no setter"
  | notIndexed p => "property " ++ quoted p ++ " is not indexed"
  | notMapped p => "property " ++ quoted p ++ " is not mapped"
  | indexOutOfRange p i n =>
    "index " ++ Numeral.ofNat i ++ " out of range for " ++ quoted p ++ " of length " ++ Numeral.ofNat n
  | nullIntermediate p full => "null value at " ++ quoted p ++ " while resolving " ++ quoted full
  | nullTarget => "no bean specified"
  | conversion source target reason =>
    "cannot convert " ++ quoted source ++ " to " ++ quoted target ++ ": " ++ reason
  | nullForPrimitive p ty => "cannot assign null to primitive property " ++ quoted p ++ " of type " ++ quoted ty
  | restrictedSchema s p => "cannot change restricted class " ++ quoted s ++ " while adding or removing " ++ quoted p
  | descriptorMismatch c p read write =>
    "mapped property " ++ quoted p ++ " of " ++ quoted c ++ ": getter returns " ++ quoted read ++
      " but setter takes " ++ quoted write
  | unsupported op t => quoted op ++ " is not supported by " ++ quoted t
  | invalidPath e => e.message
  | notConstructible c => "class " ++ quoted c ++ " cannot be instantiated without a constructor"
  | invocation m reason => "failed to invoke " ++ quoted m ++ ": " ++ reason

end Error

end ObjectGraph
