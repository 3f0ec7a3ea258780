/-
# Addresses

Reads an address such as `http://host:8545/path?query#fragment` and writes it
in its normal form.  Addresses with the schemes of the web and of files have
rules of their own: any number of slashes or backslashes leads to their host,
which may not be missing, their usual port is left out, and their path begins
with a slash.
-/
import NodeKeeper.Url.Host

namespace NodeKeeper.Url

open Text

/-- What follows the scheme and the authority. -/
inductive Path where
  /-- one piece that is not divided -/
  | whole (text : List Char)
  | parts (segments : List (List Char))

structure Address where
  scheme : String
  username : List Char
  password : Option (List Char)
  host : Option Host
  port : Option Nat
  path : Path
  query : Option (List Char)
  fragment : Option (List Char)

/-- The usual ports of the schemes whose hosts have rules. -/
def usualPort? : String → Option Nat
  | "http" => some 80
  | "ws" => some 80
  | "https" => some 443
  | "wss" => some 443
  | "ftp" => some 21
  | _ => none

/-- Is it a scheme of the web or of files? -/
def isSpecial (scheme : String) : Bool := (usualPort? scheme).isSome || scheme == "file"

/-- Drops controls and spaces at the ends, and tabs and line breaks anywhere. -/
def clean (s : String) : List Char :=
  let outer (c : Char) : Bool := c.toNat ≤ 0x20
  (dropEndWhile outer (s.toList.dropWhile outer)).filter fun c =>
    c != '\t' && c != '\n' && c != '\r'

/-- The scheme in lower case and what follows its colon. -/
def cutScheme? (cs : List Char) : Option (String × List Char) :=
  let inScheme (c : Char) : Bool := c.isAlphanum || c == '+' || c == '-' || c == '.'
  match cs.head?, cs.dropWhile inScheme with
  | some c, ':' :: rest =>
    if c.isAlpha then some (lower (String.ofList (cs.takeWhile inScheme)), rest) else none
  | _, _ => none

/-- Cuts a list at the first character that satisfies `p`, which stays with the
second part. -/
def spanUntil (p : Char → Bool) (cs : List Char) : List Char × List Char :=
  (cs.takeWhile (! p ·), cs.dropWhile (! p ·))

/-- Cuts at the last `@`, if there is one. -/
def cutUserInfo (cs : List Char) : Option (List Char) × List Char :=
  let host := (cs.reverse.takeWhile (· ≠ '@')).reverse
  if host.length = cs.length then (none, cs)
  else (some (cs.take (cs.length - host.length - 1)), host)

/-- Cuts a host at the colon before its port.  Colons in brackets do not count. -/
def cutPort (cs : List Char) : List Char × Option (List Char) :=
  go false cs
where
  go (inside : Bool) : List Char → List Char × Option (List Char)
    | [] => ([], none)
    | c :: cs =>
      if c = ':' ∧ ¬ inside then ([], some cs)
      else
        let inside := if c = '[' then true else if c = ']' then false else inside
        let (host, port) := go inside cs
        (c :: host, port)

/-- A port of at most 65535; no digits stand for the usual one. -/
def port? (usual : Option Nat) (ds : List Char) : Option (Option Nat) :=
  if ¬ ds.all Char.isDigit then none
  else
    let n := ds.foldl (fun n c => n * 10 + (c.toNat - 48)) 0
    if 65535 < n then none
    else some (if ds.isEmpty ∨ some n = usual then none else some n)

/-- Does the segment stand for the same level? -/
def isSingleDot (s : List Char) : Bool :=
  let s := String.ofList (s.map lowerChar)
  s == "." || s == "%2e"

/-- Does the segment stand for the level above? -/
def isDoubleDot (s : List Char) : Bool :=
  let s := String.ofList (s.map lowerChar)
  ["..", ".%2e", "%2e.", "%2e%2e"].contains s

/-- Follows the segments of a path; `done` are those that stand, in reverse. -/
def followSegments (done : List (List Char)) : List (List Char) → List (List Char)
  | [] => done.reverse
  | [s] =>
    if isDoubleDot s then ([] :: done.drop 1).reverse
    else if isSingleDot s then ([] :: done).reverse
    else (percentEncode pathEncoded s :: done).reverse
  | s :: rest =>
    if isDoubleDot s then followSegments (done.drop 1) rest
    else if isSingleDot s then followSegments done rest
    else followSegments (percentEncode pathEncoded s :: done) rest

/-- The segments of a path.  A path that is missing has one empty segment where
the scheme has rules. -/
def segments (special : Bool) (cs : List Char) : List (List Char) :=
  let slash (c : Char) : Bool := c == '/' || (special && c == '\\')
  match cs with
  | [] => if special then [[]] else []
  | c :: r => followSegments [] (pieces slash (if slash c then r else c :: r))

/-- Cuts off the query and the fragment. -/
def cutTail (special : Bool) (cs : List Char) :
    List Char × Option (List Char) × Option (List Char) :=
  let (front, fragment) := match spanUntil (· == '#') cs with
    | (a, _ :: b) => (a, some (percentEncode fragmentEncoded b))
    | (a, []) => (a, none)
  let set := if special then specialQueryEncoded else queryEncoded
  match spanUntil (· == '?') front with
  | (a, _ :: b) => (a, some (percentEncode set b), fragment)
  | (a, []) => (a, none, fragment)

/-- The host and port of an authority, and its user. -/
structure Authority where
  username : List Char
  password : Option (List Char)
  host : Host
  port : Option Nat

def Authority.read? (scheme : String) (cs : List Char) : Option Authority := do
  let (user, rest) := cutUserInfo cs
  let (name, ds) := cutPort rest
  let host ← if isSpecial scheme then Host.read? name else Host.readVerbatim? name
  let port ← port? (usualPort? scheme) (ds.getD [])
  let user := user.getD []
  let (username, password) := match spanUntil (· == ':') user with
    | (a, _ :: b) => (a, if b.isEmpty then none else some (percentEncode userInfoEncoded b))
    | (a, []) => (a, none)
  if name.isEmpty ∧ (ds.isSome ∨ ¬ user.isEmpty) then none
  pure ⟨percentEncode userInfoEncoded username, password, host, port⟩

/-- An address with an authority after its slashes. -/
def withAuthority? (scheme : String) (cs : List Char) : Option Address := do
  let special := isSpecial scheme
  let ends (c : Char) : Bool := c == '/' || c == '?' || c == '#' || (special && c == '\\')
  let (authority, rest) := spanUntil ends cs
  let a ← Authority.read? scheme authority
  let (path, query, fragment) := cutTail special rest
  pure ⟨scheme, a.username, a.password, some a.host, a.port, .parts (segments special path),
    query, fragment⟩

/-- The address of a file.  Its host may be missing. -/
def ofFile? (cs : List Char) : Option Address := do
  let slash (c : Char) : Bool := c == '/' || c == '\\'
  let (front, query, fragment) := cutTail true cs
  let address (host : Option Host) (path : List Char) : Address :=
    ⟨"file", [], none, host, none, .parts (segments true path), query, fragment⟩
  match front with
  | a :: b :: rest =>
    if slash a ∧ slash b then
      let (name, path) := spanUntil slash rest
      if name.isEmpty then pure (address none path)
      else
        let host ← Host.read? name
        pure (address (if host = .domain "localhost" then none else some host) path)
    else pure (address none front)
  | _ => pure (address none front)

/-- An address whose scheme has no rules. -/
def ofOther? (scheme : String) (cs : List Char) : Option Address :=
  match cs with
  | '/' :: '/' :: rest => withAuthority? scheme rest
  | _ =>
    let (front, query, fragment) := cutTail false cs
    let path : Path :=
      if front.head? = some '/' then .parts (segments false front)
      else .whole (percentEncode [] front)
    some ⟨scheme, [], none, none, none, path, query, fragment⟩

/-- Reads an address. -/
def Address.read? (s : String) : Option Address := do
  let (scheme, rest) ← cutScheme? (clean s)
  if scheme = "file" then ofFile? rest
  else if isSpecial scheme then
    withAuthority? scheme (rest.dropWhile fun c => c == '/' || c == '\\')
  else ofOther? scheme rest

def Path.write : Path → List Char
  | .whole text => text
  | .parts segments => segments.flatMap fun s => '/' :: s

/-- The normal form of an address. -/
def Address.write (a : Address) : String :=
  let user :=
    if a.username.isEmpty ∧ a.password.isNone then []
    else a.username ++ (a.password.map (':' :: ·)).getD [] ++ ['@']
  let authority := match a.host with
    | some h => '/' :: '/' :: (user ++ h.write ++
        (a.port.map fun p => ':' :: Nat.toDigits 10 p).getD [])
    | none => if a.scheme = "file" then ['/', '/'] else []
  String.ofList <|
    a.scheme.toList ++ ':' :: (authority ++ a.path.write ++
      (a.query.map ('?' :: ·)).getD [] ++ (a.fragment.map ('#' :: ·)).getD [])

/-- The same address without a user. -/
def Address.withoutUser (a : Address) : Address := { a with username := [], password := none }

end NodeKeeper.Url
