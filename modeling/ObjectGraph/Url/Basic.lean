import ObjectGraph.Url.Host

/-!
URLs by their parts, and the normal form of their text.
-/

namespace ObjectGraph

/-- Who is addressed: a user with an optional password, a host, which may be absent, and a port. -/
structure Authority where
  user : List Char
  password : Option (List Char)
  host : Option Host
  port : Option Nat
deriving DecidableEq

/-- A URL in normal form: its parts hold only characters that they may hold. -/
structure Url where
  scheme : List Char
  authority : Option Authority
  path : List Char
  query : Option (List Char)
  fragment : Option (List Char)
deriving DecidableEq

namespace Authority

/-- The text of an authority. -/
def text (a : Authority) : List Char :=
  let password := (a.password.map (':' :: ·)).getD []
  a.user ++ password ++ (if a.user.isEmpty && a.password.isNone then [] else ['@']) ++
    (a.host.map Host.text).getD [] ++ (a.port.map fun p => ':' :: Numeral.digits p).getD []

end Authority

namespace Url

/-- The text of a URL.  Without an authority a path does not begin with two slashes. -/
def chars (u : Url) : List Char :=
  let start := match u.authority with
    | some a => ['/', '/'] ++ a.text
    | none => if u.path.take 2 = ['/', '/'] then ['/', '.'] else []
  u.scheme ++ [':'] ++ start ++ u.path ++ (u.query.map ('?' :: ·)).getD [] ++ (u.fragment.map ('#' :: ·)).getD []

/-- The text of a URL. -/
def text (u : Url) : String := String.ofList u.chars

/-- The host of a URL. -/
def host? (u : Url) : Option Host := u.authority.bind fun a => a.host

/-- Whether a path ends in a drive letter without a slash. -/
def endsInDrive (bytes : List UInt8) : Bool :=
  match bytes.reverse with
  | mark :: letter :: _ :: _ =>
    (mark == 58 || mark == 124) && (Char.ofNat letter.toNat).isAlpha && letter < 128
  | _ => false

/-- The bytes of the file system path that a URL without a remote host names. -/
def filePath? (u : Url) : Option (List UInt8) :=
  match u.path with
  | '/' :: rest =>
    if u.host?.all (· == .domain "localhost".toList) then
      let bytes := (rest.splitOn '/').flatMap fun segment => 47 :: Percent.decode segment
      some (if endsInDrive bytes then bytes ++ [47] else bytes)
    else none
  | _ => none

end Url

end ObjectGraph
