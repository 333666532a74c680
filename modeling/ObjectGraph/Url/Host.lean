import ObjectGraph.Text.Numeral
import ObjectGraph.Text.Percent
import ObjectGraph.Url.Domain

/-!
Hosts of URLs: domain names, and addresses of the two versions of the internet protocol.
-/

namespace ObjectGraph

/-- Why a text is no URL. -/
inductive UrlFault
  | emptyHost
  | domain
  | port
  | ipv4
  | ipv6
  | hostCharacter
  | relative
deriving DecidableEq

namespace UrlFault

/-- The wording of a fault. -/
def message : UrlFault → String
  | emptyHost => "empty host"
  | domain => "invalid international domain name"
  | port => "invalid port number"
  | ipv4 => "invalid IPv4 address"
  | ipv6 => "invalid IPv6 address"
  | hostCharacter => "invalid domain character"
  | relative => "relative URL without a base"

end UrlFault

/-- The host of a URL. -/
inductive Host
  | domain (name : List Char)
  | ipv4 (address : Nat)
  | ipv6 (groups : List Nat)
deriving DecidableEq

namespace Host

/-- The number of a text in base 8, 10 or 16, as its first characters say. -/
def ipv4Number? (cs : List Char) : Option Nat :=
  let value (base : Nat) (ds : List Char) : Option Nat :=
    ds.foldlM (fun n c => (Percent.hexValue? c).bind fun d => if d < base then some (n * base + d) else none) 0
  match cs with
  | [] => none
  | '0' :: 'x' :: ds => value 16 ds
  | '0' :: 'X' :: ds => value 16 ds
  | '0' :: d :: ds => value 8 (d :: ds)
  | _ => value 10 cs

/-- Whether the last part of a domain name is a number, so that the name has to be an address. -/
def endsInNumber (cs : List Char) : Bool :=
  let last := match (cs.splitOn '.').reverse with
    | [] :: part :: _ => some part
    | [[]] => none
    | part :: _ => some part
    | [] => none
  last.any fun part => (!part.isEmpty && part.all Char.isDigit) || (ipv4Number? part).isSome

/-- The address of four or fewer numbers, the last of which fills what the others leave. -/
def readIpv4? (cs : List Char) : Option Nat :=
  let parts := cs.splitOn '.'
  let parts := if parts.getLast? = some [] then parts.dropLast else parts
  match (parts.mapM ipv4Number?).map List.reverse with
  | some (last :: others) =>
    let others := others.reverse
    if 3 < others.length ∨ Nat.pow 256 (4 - others.length) ≤ last ∨ others.any (255 < ·) then none
    else some (last + others.zipIdx.foldr (fun (n, i) rest => n * Nat.pow 256 (3 - i) + rest) 0)
  | _ => none

/-- One part of an address of the fourth version inside one of the sixth: a number below 256 without leading zeros. -/
def octet? (cs : List Char) : Option Nat :=
  (Numeral.read? cs).bind fun n => if n ≤ 255 ∧ (cs.length = 1 ∨ cs.head? ≠ some '0') then some n else none

/-- One group of an address of the sixth version. -/
def group? (cs : List Char) : Option Nat :=
  if cs.isEmpty || 4 < cs.length then none
  else cs.foldlM (fun n c => (Percent.hexValue? c).map (n * 16 + ·)) 0

/-- Groups between colons; the last two may be written as an address of the fourth version. -/
def groups? (allowIpv4 : Bool) (cs : List Char) : Option (List Nat) :=
  if cs.isEmpty then some []
  else
    let parts := cs.splitOn ':'
    match parts.getLast? with
    | some last =>
      if allowIpv4 && last.contains '.' then
        match (last.splitOn '.').mapM octet?, parts.dropLast.mapM group? with
        | some [a, b, c, d], some groups => some (groups ++ [a * 256 + b, c * 256 + d])
        | _, _ => none
      else parts.mapM group?
    | none => none

/-- The text before and the text after the first two colons in a row. -/
def splitGap : List Char → Option (List Char × List Char)
  | ':' :: ':' :: cs => some ([], cs)
  | c :: cs => (splitGap cs).map fun (before, after) => (c :: before, after)
  | [] => none

/-- The eight groups of an address; two colons in a row stand for one or more groups of zero. -/
def readIpv6? (cs : List Char) : Option (List Nat) :=
  match splitGap cs with
  | none => (groups? true cs).bind fun groups => if groups.length = 8 then some groups else none
  | some (before, after) => do
    let before ← groups? false before
    let after ← groups? true after
    let count := before.length + after.length
    if 7 < count then none else some (before ++ List.replicate (8 - count) 0 ++ after)

/-- The number of zeros at the start of a list of groups. -/
def zeros (groups : List Nat) : Nat := (groups.takeWhile (· == 0)).length

/-- The first longest run of zeros: its place and its length. -/
def longestGap (groups : List Nat) : Nat × Nat :=
  (List.range groups.length).foldl
    (fun best i => let n := zeros (groups.drop i); if best.2 < n then (i, n) else best) (0, 0)

/-- Groups with colons between them. -/
def joinGroups (groups : List Nat) : List Char := [':'].intercalate (groups.map (Nat.toDigits 16))

/-- The text of a host. -/
def text : Host → List Char
  | .domain name => name
  | .ipv4 n =>
    ['.'].intercalate
      ([n / 16777216, n / 65536 % 256, n / 256 % 256, n % 256].map Numeral.digits)
  | .ipv6 groups =>
    let (place, count) := longestGap groups
    if count < 2 then ['['] ++ joinGroups groups ++ [']']
    else ['['] ++ joinGroups (groups.take place) ++ [':', ':'] ++ joinGroups (groups.drop (place + count)) ++ [']']

/-- The characters that no host of a scheme without rules of its own may hold. -/
def isForbiddenInOpaque (c : Char) : Bool := "\x00\t\n\r #/:<>?@[\x5c]^|".toList.contains c

/-- An address of the sixth version in brackets. -/
def readBracketed? (cs : List Char) : Except UrlFault Host :=
  if cs.getLast? = some ']' then
    match readIpv6? (cs.drop 1).dropLast with
    | some groups => .ok (.ipv6 groups)
    | none => .error .ipv6
  else .error .ipv6

/-- The host that a text names in a URL of a well-known scheme. -/
def parse (cs : List Char) : Except UrlFault Host :=
  if cs.head? = some '[' then readBracketed? cs
  else
    match (Utf8.read? (Percent.decode cs)).bind Domain.ascii? with
    | none => .error .domain
    | some name =>
      if name.isEmpty then .error .emptyHost
      else if endsInNumber name then
        match readIpv4? name with
        | some n => .ok (.ipv4 n)
        | none => .error .ipv4
      else .ok (.domain name)

/-- The host that a text names in a URL of any other scheme. -/
def parseOpaque (cs : List Char) : Except UrlFault Host :=
  if cs.head? = some '[' then readBracketed? cs
  else if cs.any isForbiddenInOpaque then .error .hostCharacter
  else .ok (.domain (Percent.encode (fun c => c.toNat < 32 || c.toNat == 127) cs))

end Host

end ObjectGraph
