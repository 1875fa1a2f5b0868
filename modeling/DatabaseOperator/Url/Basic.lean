import DatabaseOperator.Domain.Name
import DatabaseOperator.Url.Address
import DatabaseOperator.Url.UserInfo

/-!
# URLs

The URLs of HTTP services, read as generously as browsers read them and written
in one form.

- `Url`: a URL by its parts, each in its written form.
- `Url.ofText?`: the URL that a text writes.
- `Url.text`: the written form.
- `Url.addQuery`: a URL with further fields in its query.
- `Url.withoutUser`: a URL without a user that can sign in.
-/

namespace DatabaseOperator

/-- A URL of an HTTP service. -/
structure Url where
  secure : Bool
  user : Option UserInfo := none
  host : String
  port : Option Nat
  path : List String
  query : Option String
  fragment : Option String
deriving DecidableEq, Repr

namespace Url

/-! ## Reading -/

/-- What a URL is read from: the text without spaces and controls at its ends,
and without line breaks and tabs. -/
def cleaned (s : String) : List Char :=
  let isEdge := fun (c : Char) => c.toNat ≤ 0x20
  let body := ((s.toList.dropWhile isEdge).reverse.dropWhile isEdge).reverse
  body.filter fun c => c ≠ '\t' ∧ c ≠ '\n' ∧ c ≠ '\r'

/-- A slash; URLs of HTTP services take a backslash for one. -/
def isSlash (c : Char) : Bool :=
  c == '/' || c == '\\'

/-- What follows the host and its port. -/
def endsAuthority (c : Char) : Bool :=
  isSlash c || c == '?' || c == '#'

/-- The scheme, whether it is the secure one, and what follows the colon. -/
def scheme? (cs : List Char) : Option (Bool × List Char) :=
  let name := (cs.takeWhile (· ≠ ':')).map Char.toLower
  match cs.dropWhile (· ≠ ':') with
  | ':' :: rest =>
    if name = "https".toList then some (true, rest)
    else if name = "http".toList then some (false, rest)
    else none
  | _ => none

/-- What stands in front of the host in an authority, and the host with its
port. The last at sign parts them. -/
def splitUser (authority : List Char) : List Char × List Char :=
  let host := (authority.reverse.takeWhile (· ≠ '@')).reverse
  (authority.take (authority.length - host.length - 1), host)

/-- The host and the port of an authority. A colon in brackets belongs to the
host. -/
def splitPort : (inBrackets : Bool) → List Char → List Char × Option (List Char)
  | _, [] => ([], none)
  | inBrackets, c :: cs =>
    if c = ':' ∧ !inBrackets then ([], some cs)
    else
      let (host, port) :=
        splitPort (if c = '[' then true else if c = ']' then false
          else inBrackets) cs
      (c :: host, port)

/-- A character that no host name holds. -/
def isForbiddenInHost (c : Char) : Bool :=
  c.toNat ≤ 0x20 || c.toNat = 0x7F || "%#/:<>?@[\\]^|".toList.contains c

/-- The written form of a host: an address, or a name in ASCII. -/
def host? (cs : List Char) : Option String :=
  match cs with
  | '[' :: rest =>
    match rest.reverse with
    | ']' :: inner =>
      (ipv6? inner.reverse).map fun groups => "[" ++ ipv6Text groups ++ "]"
    | _ => none
  | _ =>
    match (decodedText? cs).bind fun name => Domain.toAscii? name.toList with
    | none => none
    | some name =>
      if name.isEmpty || name.any isForbiddenInHost then none
      else if endsInNumber name then (ipv4? name).map ipv4Text
      else some (String.ofList name)

/-- The port; one that the scheme implies is left out. -/
def port? (secure : Bool) : Option (List Char) → Option (Option Nat)
  | none => some none
  | some [] => some none
  | some digits =>
    match Text.natural? digits with
    | some n =>
      if n ≤ 65535 then
        some (if n = (if secure then 443 else 80) then none else some n)
      else none
    | none => none

/-- A segment that stands for the segment it is in, `.`, in any of its written
forms. -/
def isHere (segment : List Char) : Bool :=
  [".", "%2e"].contains (String.ofList (segment.map Char.toLower))

/-- A segment that stands for the one above, `..`, in any of its written
forms. -/
def isAbove (segment : List Char) : Bool :=
  ["..", ".%2e", "%2e.", "%2e%2e"].contains
    (String.ofList (segment.map Char.toLower))

/-- Segments with the dots resolved; those before the given ones stand reversed
in the first argument. Dots at the end leave an empty segment. -/
def resolve (above : List (List Char)) : List (List Char) → List (List Char)
  | [] => above.reverse
  | [segment] =>
    if isAbove segment then ([] :: above.drop 1).reverse
    else if isHere segment then ([] :: above).reverse
    else (segment :: above).reverse
  | segment :: rest =>
    if isAbove segment then resolve (above.drop 1) rest
    else if isHere segment then resolve above rest
    else resolve (segment :: above) rest

/-- The segments of a path, which begins with a slash if it is not empty. -/
def pathOf (cs : List Char) : List String :=
  (resolve [] (splitAt isSlash (cs.drop 1))).map fun segment =>
    String.ofList (percentEncode escapesInPath segment)

/-- A text up to a mark, and what follows the mark if it is there. -/
def cut (mark : Char) (cs : List Char) : List Char × Option (List Char) :=
  match cs.dropWhile (· ≠ mark) with
  | [] => (cs, none)
  | _ :: rest => (cs.takeWhile (· ≠ mark), some rest)

/-- The URL that a text writes; `none` if the text writes no URL of an HTTP
service. -/
def ofText? (s : String) : Option Url := do
  let (secure, rest) ← scheme? (cleaned s)
  let rest := rest.dropWhile isSlash
  let (user, host) := splitUser (rest.takeWhile fun c => !endsAuthority c)
  let (host, port) := splitPort false host
  let (rest, fragment) := cut '#' (rest.dropWhile fun c => !endsAuthority c)
  let (path, query) := cut '?' rest
  return {
    secure
    user := UserInfo.ofText? user
    host := ← host? host
    port := ← port? secure port
    path := pathOf path
    query := query.map fun q => String.ofList (percentEncode escapesInQuery q)
    fragment :=
      fragment.map fun f => String.ofList (percentEncode escapesInFragment f) }

/-! ## Writing -/

/-- A part with a mark in front, nothing if there is no such part. -/
def marked (mark : String) : Option String → String
  | some part => mark ++ part
  | none => ""

/-- A part with a mark behind it, nothing if there is no such part. -/
def ended (mark : String) : Option String → String
  | some part => part ++ mark
  | none => ""

/-- The written form of a URL. -/
def text (u : Url) : String :=
  (if u.secure then "https" else "http") ++ "://"
    ++ ended "@" (u.user.map UserInfo.text) ++ u.host
      ++ marked ":" (u.port.map Text.digits)
    ++ String.join (u.path.map ("/" ++ ·)) ++ marked "?" u.query
      ++ marked "#" u.fragment

/-- Fields of a query. -/
def queryOf (fields : List (String × String)) : String :=
  String.intercalate "&"
    (fields.map fun (name, value) =>
      String.ofList (formEncode name ++ '=' :: formEncode value))

/-- A URL with further fields in its query. A query that would be empty is left
out. -/
def addQuery (u : Url) (fields : List (String × String)) : Url :=
  let parts :=
    (u.query.toList ++ if fields.isEmpty then []
      else [queryOf fields]).filter (· ≠ "")
  { u with
    query := if parts.isEmpty then none
      else some (String.intercalate "&" parts) }

/-- A URL without a user that can sign in: such a user signs in by other
means. -/
def withoutUser (u : Url) : Url :=
  if u.user.any UserInfo.isReadable then { u with user := none } else u

/-! ## Small facts -/

theorem addQuery_nil {u : Url} (h : u.query = none) : u.addQuery [] = u := by
  cases u
  simp_all [addQuery]

end Url

end DatabaseOperator
