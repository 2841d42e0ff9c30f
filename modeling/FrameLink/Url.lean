import FrameLink.Url.Path
import FrameLink.Url.Domain
import FrameLink.Url.Number
/-!
URLs of sockets, `ws://user@host:port/path?query#fragment`, read leniently: blanks and controls at
the end and tabs and line ends anywhere are dropped, any number of slashes may open the authority,
and the authority ends at the first slash, backslash, question mark or hash mark.
-/

namespace FrameLink

structure Url where
  user : String
  password : Option String
  host : String
  /-- absent when it is the default one -/
  port : Option UInt16
  path : String
  query : Option String
  fragment : Option String
deriving DecidableEq

namespace Url

inductive Fault where
  | emptyHost
  | badDomain
  | badPort
  | badV4
  | badV6
deriving DecidableEq, Repr

def Fault.message : Fault → String
  | .emptyHost => "empty host"
  | .badDomain => "invalid international domain name"
  | .badPort => "invalid port number"
  | .badV4 => "invalid IPv4 address"
  | .badV6 => "invalid IPv6 address"

def defaultPort : UInt16 := 80

def effectivePort (url : Url) : UInt16 := url.port.getD defaultPort

def isDropped (c : Char) : Bool := c = '\t' || c = '\n' || c = '\r'

def endsAuthority (c : Char) : Bool := c = '/' || c = '\\' || c = '?' || c = '#'

/-- What stands before the last at sign, if there is one, and what stands after it. -/
def splitUser (authority : List Char) : Option (List Char) × List Char :=
  let after := (authority.reverse.takeWhile (· ≠ '@')).reverse
  if after.length = authority.length then (none, authority)
  else (some (authority.take (authority.length - after.length - 1)), after)

/-- A password follows the first colon; an empty one is none. -/
def readUser (cs : List Char) : String × Option String :=
  let name := cs.takeWhile (· ≠ ':')
  let password := (cs.drop name.length).drop 1
  (String.ofList (encode userPart name),
    if password.isEmpty then none else some (String.ofList (encode userPart password)))

/-- The host runs to the first colon outside brackets. -/
def splitHost : (inside : Bool) → List Char → List Char × List Char
  | _, [] => ([], [])
  | inside, c :: rest =>
    if c = ':' && !inside then ([], c :: rest)
    else
      let inside := if c = '[' then true else if c = ']' then false else inside
      let (host, port) := splitHost inside rest
      (c :: host, port)

def readHost (cs : List Char) : Except Fault String :=
  match cs with
  | [] => .error .emptyHost
  | '[' :: rest =>
    if rest.getLast? = some ']' then
      match v6Host? rest.dropLast with
      | some bits => .ok ("[" ++ Inet.Address.gappedText (Inet.Address.groups bits) ++ "]")
      | none => .error .badV6
    else .error .badV6
  | cs =>
    match domainOf? cs with
    | none => .error .badDomain
    | some [] => .error .emptyHost
    | some name =>
      if endsInNumber name then
        match v4Host? name with
        | some bits => .ok (Inet.Address.v4Text bits)
        | none => .error .badV4
      else .ok (String.ofList name)

/-- After a colon come digits only, or nothing. The default port is left out. -/
def readPort (cs : List Char) : Except Fault (Option UInt16) :=
  let digits := cs.drop 1
  if !digits.all Char.isDigit then .error .badPort
  else
    let n := digits.foldl (fun n c => 10 * n + (c.toNat - 48)) 0
    if 65535 < n then .error .badPort
    else if digits.isEmpty || n = defaultPort.toNat then .ok none
    else .ok (some (UInt16.ofNat n))

structure Authority where
  user : String
  password : Option String
  host : String
  port : Option UInt16
deriving DecidableEq

def readAuthority (cs : List Char) : Except Fault Authority := do
  let (user, rest) := splitUser cs
  let (user, password) := match user with
    | some cs => readUser cs
    | none => ("", none)
  let (host, port) := splitHost false rest
  let host ← readHost host
  let port ← readPort port
  return ⟨user, password, host, port⟩

def readTarget (cs : List Char) : String × Option String × Option String :=
  let front := cs.takeWhile (· ≠ '#')
  let fragment := (cs.drop front.length).drop 1
  let way := front.takeWhile (· ≠ '?')
  let query := (front.drop way.length).drop 1
  let part (marked : Bool) (set : Part) (cs : List Char) : Option String :=
    if marked then some (String.ofList (encode set cs)) else none
  (String.ofList (resolvePath way), part (way.length < front.length) queryPart query,
    part (front.length < cs.length) fragmentPart fragment)

def ofText (rest : List Char) : Except Fault Url := do
  let trimmed := (rest.reverse.dropWhile fun c => c.toNat ≤ 0x20).reverse
  let cs := (trimmed.filter fun c => !isDropped c).dropWhile fun c => c = '/' || c = '\\'
  let authority := cs.takeWhile fun c => !endsAuthority c
  let a ← readAuthority authority
  let (path, query, fragment) := readTarget (cs.drop authority.length)
  return ⟨a.user, a.password, a.host, a.port, path, query, fragment⟩

def userText (url : Url) : String :=
  match url.password with
  | some password => url.user ++ ":" ++ password ++ "@"
  | none => if url.user.isEmpty then "" else url.user ++ "@"

def text (url : Url) : String :=
  "ws://" ++ url.userText ++ url.host ++
    (match url.port with
      | some port => s!":{port}"
      | none => "") ++ url.path ++
    (match url.query with
      | some query => "?" ++ query
      | none => "") ++
    (match url.fragment with
      | some fragment => "#" ++ fragment
      | none => "")

/-! The address of an endpoint. -/

/-- An address of version 6 is put in brackets. -/
def hostText (address : String) : String :=
  match Inet.Address.ofText? address with
  | some (.v6 bits) => "[" ++ Inet.Address.v6Text bits ++ "]"
  | _ => address

def rooted (path : String) : String := if path.startsWith "/" then path else "/" ++ path

/-- The URL of the socket at `path` on a port of an address; a failure names all three. -/
def ofEndpoint (address : String) (port : UInt16) (path : String) : Except String Url :=
  let path := rooted path
  match ofText (s!"//{hostText address}:{port}{path}").toList with
  | .ok url => .ok url
  | .error fault => .error s!"{address}:{port}{path}: {fault.message}"

end Url

end FrameLink
