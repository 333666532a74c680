import ObjectGraph.Url.Basic

/-!
Reading of absolute URLs.  Control characters and spaces at the ends are cut, and each part is
brought into its normal form.  Line breaks and tabs are passed over; only behind a drive letter at
the beginning of the path of a file one of them has the effect of a slash.
-/

namespace ObjectGraph.Url

/-- The kinds of schemes: `file`, the other well-known ones with their ports, and all others. -/
inductive SchemeKind
  | file
  | web (port : Nat)
  | other
deriving DecidableEq

/-- The kind of a scheme. -/
def SchemeKind.of (scheme : List Char) : SchemeKind :=
  match String.ofList scheme with
  | "file" => .file
  | "http" | "ws" => .web 80
  | "https" | "wss" => .web 443
  | "ftp" => .web 21
  | _ => .other

/-- Whether a backslash separates as a slash does. -/
def SchemeKind.isSpecial (k : SchemeKind) : Bool := k != .other

/-- The control characters. -/
def isControl (c : Char) : Bool := c.toNat < 32 || c.toNat == 127

/-- What is encoded in a fragment. -/
def fragmentClass (c : Char) : Bool := isControl c || " \x22<>`".toList.contains c

/-- What is encoded in a query. -/
def queryClass (special : Bool) (c : Char) : Bool :=
  isControl c || " \x22#<>".toList.contains c || (special && c == '\x27')

/-- What is encoded in a path. -/
def pathClass (c : Char) : Bool := fragmentClass c || "#?\x7b\x7d".toList.contains c

/-- What is encoded in the name and the password of a user. -/
def userClass (c : Char) : Bool := pathClass c || "/:;=@[\x5c]^|".toList.contains c

/-- The scheme and what follows its colon. -/
def readScheme? (cs : List Char) : Option (List Char × List Char) :=
  let name := cs.takeWhile fun c => c.isAlphanum || c == '+' || c == '-' || c == '.'
  match cs.head?, cs.drop name.length with
  | some c, ':' :: rest => if c.isAlpha then some (name.map Char.toLower, rest) else none
  | _, _ => none

/-- Whether a character is a line break or a tab, which count for nothing in a URL. -/
def isPassedOver (c : Char) : Bool := c == '\t' || c == '\n' || c == '\r'

/-- A text without the characters that are passed over. -/
def visible (cs : List Char) : List Char := cs.filter fun c => !isPassedOver c

/-- What follows a number of visible characters. -/
def dropVisible : Nat → List Char → List Char
  | 0, cs => cs
  | _ + 1, [] => []
  | n + 1, c :: cs => if isPassedOver c then dropVisible (n + 1) cs else dropVisible n cs

theorem visible_dropVisible (n : Nat) (cs : List Char) : visible (dropVisible n cs) = (visible cs).drop n := by
  fun_induction dropVisible n cs with
  | case1 => rfl
  | case2 => rfl
  | case3 n c cs h ih => simp only [visible] at ih; simp [visible, h, ih]
  | case4 n c cs h ih => simp only [visible] at ih; simp [visible, h, ih]

/-- Whether a segment is a letter and a colon or a bar. -/
def isDrive : List Char → Bool
  | [a, b] => a.isAlpha && (b == ':' || b == '|')
  | _ => false

/-- Whether a segment is a drive letter or begins with one and a backslash. -/
def beginsWithDrive : List Char → Bool
  | [a, b] => isDrive [a, b]
  | a :: b :: c :: _ => isDrive [a, b] && c == '\x5c'
  | _ => false

/-- Whether a segment leads to the segment itself. -/
def isDot (segment : List Char) : Bool :=
  let s := segment.map Char.toLower
  s == ".".toList || s == "%2e".toList

/-- Whether a segment leads to the segment above. -/
def isDotDot (segment : List Char) : Bool :=
  ["..", ".%2e", "%2e.", "%2e%2e"].any fun s => s.toList == segment.map Char.toLower

/-- Cuts a segment behind a letter and a colon if a line break or a tab stands there before more text. -/
def cutDrive? (raw : List Char) : Option (List Char × List Char) :=
  let drive := (visible raw).take 2
  let rest := dropVisible 2 raw
  if isDrive drive && drive.getLast? == some ':' && rest.head?.any isPassedOver && !(visible rest).isEmpty then
    some (drive, visible rest)
  else none

/-- A walk along a path: the segments passed, the last one first, and whether a drive letter was at the beginning. -/
structure Walk where
  passed : List (List Char)
  onDrive : Bool

namespace Walk

/-- No segment has been passed. -/
def start : Walk := ⟨[], false⟩

/-- Passes a segment. -/
def enter (w : Walk) (segment : List Char) : Walk := { w with passed := segment :: w.passed }

/-- Goes back to the segment above; a drive letter is not left. -/
def leave (w : Walk) : Walk :=
  match w.passed with
  | segment :: above => if beginsWithDrive segment then w else { w with passed := above }
  | [] => w

/-- Passes the empty segment at the end of a path that leads to a directory. -/
def close (w : Walk) (last : Bool) : Walk := if last then w.enter [] else w

/-- Passes a segment as it is written; `last` says that no other follows. -/
def step (file last : Bool) (w : Walk) (raw : List Char) : Walk :=
  let segment := Percent.encode pathClass (visible raw)
  let first := file && w.passed.isEmpty
  match if first then cutDrive? raw else none with
  | some (drive, rest) => (w.enter drive).enter (Percent.encode pathClass rest)
  | none =>
    if isDotDot segment then w.leave.close last
    else if isDot segment then w.close last
    else if first && isDrive segment then ⟨[segment.take 1 ++ [':']], true⟩
    else w.enter segment

/-- Passes segments. -/
def along (file : Bool) (w : Walk) : List (List Char) → Walk
  | [] => w
  | raw :: rest => (w.step file rest.isEmpty raw).along file rest

/-- The path that has been walked along. -/
def path (w : Walk) : List Char := '/' :: ['/'].intercalate w.passed.reverse

end Walk

/-- Whether a character separates segments. -/
def isSlash (special : Bool) (c : Char) : Bool := c == '/' || (special && c == '\x5c')

/-- A text without a visible slash at its beginning. -/
def dropSlash (special : Bool) (cs : List Char) : List Char :=
  if (visible cs).head?.any (isSlash special) then dropVisible 1 cs else cs

/-- The normal form of a path with segments. -/
def normalPath (special : Bool) (cs : List Char) : List Char :=
  (Walk.start.along false ((dropSlash special cs).splitOnP (isSlash special))).path

/-- The normal form of the path of a file, which begins with one slash, from what follows the first
slash, and whether the path begins with a drive letter. -/
def filePath (cs : List Char) : List Char × Bool :=
  let w := Walk.start.along true (cs.splitOnP (isSlash true))
  ('/' :: w.path.dropWhile (· == '/'), w.onDrive)

/-- Splits a text before its query and its fragment. -/
def beforeQuery (cs : List Char) : List Char × List Char :=
  (cs.takeWhile fun c => c != '?' && c != '#', cs.dropWhile fun c => c != '?' && c != '#')

/-- The query and the fragment of the rest of a URL. -/
def readTail (special : Bool) (cs : List Char) : Option (List Char) × Option (List Char) :=
  let fragment (cs : List Char) : Option (List Char) :=
    match cs with
    | '#' :: rest => some (Percent.encode fragmentClass rest)
    | _ => none
  match cs with
  | '?' :: rest =>
    (some (Percent.encode (queryClass special) (rest.takeWhile (· != '#'))), fragment (rest.dropWhile (· != '#')))
  | _ => (none, fragment cs)

/-- Splits the text of an authority at its end. -/
def splitAuthority (special : Bool) (cs : List Char) : List Char × List Char :=
  let stays (c : Char) : Bool := c != '/' && c != '?' && c != '#' && !(special && c == '\x5c')
  (cs.takeWhile stays, cs.dropWhile stays)

/-- Splits a text after its last `@`. -/
def splitUser? (cs : List Char) : Option (List Char × List Char) :=
  let host := (cs.reverse.takeWhile (· != '@')).reverse
  if host.length = cs.length then none
  else some ((cs.take (cs.length - host.length)).dropLast, host)

/-- The name and the password of a user; an empty password is none. -/
def readUser (cs : List Char) : List Char × Option (List Char) :=
  let name := cs.takeWhile (· != ':')
  let password := cs.drop (name.length + 1)
  (Percent.encode userClass name, if password.isEmpty then none else some (Percent.encode userClass password))

/-- Splits a host from a colon and a port; colons in brackets belong to the host. -/
def splitPort (inBrackets : Bool) : List Char → List Char × Option (List Char)
  | [] => ([], none)
  | c :: cs =>
    if c = ':' ∧ ¬ inBrackets then ([], some cs)
    else
      let (host, port) := splitPort (if c = '[' then true else if c = ']' then false else inBrackets) cs
      (c :: host, port)

/-- The port of a text of digits; the port that a scheme has anyway is none. -/
def readPort (kind : SchemeKind) (cs : List Char) : Except UrlFault (Option Nat) :=
  -- Other schemes end a port at a backslash, which then belongs to the path.
  let digits := cs.takeWhile (· != '\x5c')
  if digits.all Char.isDigit then
    let n := Numeral.ofDigits digits
    if 65535 < n then .error .port
    else .ok (if digits.isEmpty || kind == .web n then none else some n)
  else .error .port

/-- The authority of a URL that is not of a file, and what follows it. -/
def readAuthority (kind : SchemeKind) (cs : List Char) : Except UrlFault (Authority × List Char) := do
  let (authority, rest) := splitAuthority kind.isSpecial cs
  let (user, hostText) := match splitUser? authority with
    | some (user, host) => (some user, host)
    | none => (none, authority)
  if user = some [] && hostText.isEmpty && !rest.isEmpty then throw .emptyHost
  let (name, password) := readUser (user.getD [])
  let (hostText, portText) := splitPort false hostText
  if kind != .other && hostText.isEmpty then throw .emptyHost
  let host ← if kind.isSpecial then Host.parse hostText else Host.parseOpaque hostText
  let isEmpty := host == .domain []
  if isEmpty && portText.isSome then throw .emptyHost
  let port ← readPort kind (portText.getD [])
  if isEmpty && !(name.isEmpty && password.isNone) then throw .emptyHost
  let left := (portText.getD []).dropWhile (· != '\x5c')
  return (⟨name, password, if isEmpty then none else some host, port⟩, left ++ rest)

/-- The host of a file and its path without the first slash.  Only behind another host than this one
is a slash the first slash of the path; a drive letter in the place of a host belongs to the path. -/
def readFileHost (cs : List Char) : Except UrlFault (Option Host × List Char) :=
  let afterSlash := dropSlash true cs
  if (visible cs).head?.any (isSlash true) && (visible afterSlash).head?.any (isSlash true) then
    let cs := dropVisible 1 afterSlash
    let hostText := (splitAuthority true (visible cs)).1
    let rest := dropVisible hostText.length cs
    if hostText.isEmpty then .ok (none, rest)
    else if isDrive hostText then .ok (none, cs)
    else do
      let host ← Host.parse hostText
      if host = .domain "localhost".toList then .ok (none, rest) else .ok (some host, dropSlash true rest)
  else .ok (none, afterSlash)

/-- A URL of a file, from what follows its scheme.  A file on a drive is local. -/
def readFile (scheme cs : List Char) : Except UrlFault Url := do
  let (host, cs) ← readFileHost cs
  let (path, rest) := beforeQuery cs
  let (query, fragment) := readTail true (visible rest)
  let (path, onDrive) := filePath path
  return ⟨scheme, some ⟨[], none, if onDrive then none else host, none⟩, path, query, fragment⟩

/-- The URL of a text. -/
def parse (text : String) : Except UrlFault Url := do
  let atEnd (c : Char) : Bool := c.toNat ≤ 32
  let raw := ((text.toList.dropWhile atEnd).reverse.dropWhile atEnd).reverse
  let cs := visible raw
  match readScheme? cs with
  | none => throw .relative
  | some (scheme, rest) =>
    let kind := SchemeKind.of scheme
    match kind with
    | .file => readFile scheme (dropVisible (cs.length - rest.length) raw)
    | .web _ =>
      let (authority, rest) ← readAuthority kind (rest.dropWhile (isSlash true))
      let (path, rest) := beforeQuery rest
      let (query, fragment) := readTail true rest
      return ⟨scheme, some authority, normalPath true path, query, fragment⟩
    | .other =>
      let (authority, rest) ← match rest with
        | '/' :: '/' :: rest => (readAuthority kind rest).map fun (a, rest) => (some a, rest)
        | _ => pure (none, rest)
      let (path, rest) := beforeQuery rest
      let (query, fragment) := readTail false rest
      let path :=
        if authority.isSome then if path.isEmpty then [] else normalPath false path
        else if path.head? = some '/' then normalPath false path
        else Percent.encode isControl path
      return ⟨scheme, authority, path, query, fragment⟩

end ObjectGraph.Url
