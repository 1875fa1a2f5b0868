/-!
# Request targets

What a request of HTTP asks for: usually a path, which may have a query behind
it. A target may also be a whole address, the authority of a server alone, or an
asterisk. A fragment is cut off.

- `RequestTarget`: a target by its path and its query.
- `RequestTarget.Fault`: why a text is no target.
- `RequestTarget.checkAuthority`: the authorities that a target may name.
- `RequestTarget.ofText`: the target that a text writes.
- `RequestTarget.text`: the path and the query, written.
-/

namespace DatabaseOperator

/-- What a request asks for. The path of an authority that stands alone is
empty. -/
structure RequestTarget where
  path : String
  query : Option String := none
deriving DecidableEq, Repr

namespace RequestTarget

/-- Why a text is no target. -/
inductive Fault where
  | empty
  | tooLong
  | badCharacter
  | badAuthority
  | badFormat
  | longScheme
deriving DecidableEq, Repr

/-- The fault in words. -/
def Fault.message : Fault → String
  | empty => "empty string"
  | tooLong => "uri too long"
  | badCharacter => "invalid uri character"
  | badAuthority => "invalid authority"
  | badFormat => "invalid format"
  | longScheme => "scheme too long"

/-! ## Paths and queries -/

/-- A character that a path may hold: all but spaces, controls and a few
marks. -/
def isPathCharacter (c : Char) : Bool :=
  0x20 < c.toNat && ("#<>?\x60".toList.contains c).not

/-- A character that a query may hold. -/
def isQueryCharacter (c : Char) : Bool :=
  0x20 < c.toNat && ("\"#<>".toList.contains c).not

/-- A path with the query behind it. What stands behind a number sign is not
looked at. -/
def ofPath (cs : List Char) : Except Fault RequestTarget :=
  let cs := cs.takeWhile (· ≠ '#')
  let path := cs.takeWhile (· ≠ '?')
  let query := match cs.dropWhile (· ≠ '?') with
    | [] => none
    | _ :: query => some query
  if path.all isPathCharacter && query.all (List.all · isQueryCharacter) then
    .ok { path := String.ofList path, query := query.map String.ofList }
  else .error .badCharacter

/-! ## Authorities -/

/-- What has been seen of an authority. The colons are those behind the last at
sign or bracket, and so is the percent sign. -/
structure AuthorityScan where
  colons : Nat := 0
  opened : Bool := false
  closed : Bool := false
  percent : Bool := false
  lastIsAt : Bool := false

/-- One more character of an authority. -/
def AuthorityScan.step (s : AuthorityScan) (c : Char) :
    Except Fault AuthorityScan :=
  let s := { s with lastIsAt := c == '@' }
  if c = ':' then if 8 ≤ s.colons then .error .badAuthority
    else .ok { s with colons := s.colons + 1 }
  else if c = '[' then if s.percent || s.opened then .error .badAuthority
    else .ok { s with opened := true }
  else if c = ']' then
    if !s.opened || s.closed then .error .badAuthority
    else .ok { s with closed := true, colons := 0, percent := false }
  else if c = '@' then .ok { s with colons := 0, percent := false }
  else if c = '%' then .ok { s with percent := true }
  else if c.isAlphanum || "!$&\x27()*+,-.;=_~".toList.contains c then .ok s
  else .error .badCharacter

/-- What may stand between a scheme and a path: a user, a host and a port.
Brackets come in one pair, escapes only before the at sign or in the brackets,
and behind those at most one colon. -/
def checkAuthority (cs : List Char) : Except Fault Unit := do
  let s ← cs.foldlM AuthorityScan.step {}
  if s.opened != s.closed || 1 < s.colons || s.lastIsAt || s.percent then
    .error .badAuthority
  else .ok ()

/-- The end of an authority. -/
def endsAuthority (c : Char) : Bool :=
  c == '/' || c == '?' || c == '#'

/-! ## Targets -/

/-- A character of the name of a scheme. -/
def isSchemeCharacter (c : Char) : Bool :=
  c.isAlphanum || "+-.~".toList.contains c

/-- What follows the scheme of an address, if it begins with one. -/
def afterScheme (cs : List Char) : Except Fault (Option (List Char)) :=
  match cs.dropWhile isSchemeCharacter with
  | ':' :: '/' :: '/' :: rest =>
    if 64 < (cs.takeWhile isSchemeCharacter).length then .error .longScheme
    else .ok (some rest)
  | _ => .ok none

/-- The target of an address behind its scheme. An address without a path asks
for the root. -/
def ofAddress (cs : List Char) : Except Fault RequestTarget := do
  let authority := cs.takeWhile fun c => !endsAuthority c
  checkAuthority authority
  if authority.isEmpty then .error .badFormat
  else
    let target ← ofPath (cs.dropWhile fun c => !endsAuthority c)
    return if target.path.isEmpty then { target with path := "/" } else target

/-- The target that an authority alone is. -/
def ofAuthority (cs : List Char) : Except Fault RequestTarget := do
  checkAuthority (cs.takeWhile fun c => !endsAuthority c)
  if cs.any endsAuthority then .error .badFormat else .ok { path := "" }

/-- The longest text that is a target, in bytes. -/
def maxSize : Nat := 65534

/-- The target that a text writes. -/
def ofText (s : String) : Except Fault RequestTarget := do
  if maxSize < s.utf8ByteSize then .error .tooLong
  else match s.toList with
    | [] => .error .empty
    | ['*'] => .ok { path := "*" }
    | '/' :: cs => ofPath ('/' :: cs)
    | cs =>
      match ← afterScheme cs with
      | some rest => ofAddress rest
      | none => ofAuthority cs

/-- The path and the query, written. -/
def text (t : RequestTarget) : String :=
  match t.query with
  | some query => t.path ++ "?" ++ query
  | none => t.path

/-! ## Small facts -/

theorem ofPath_hash (cs more : List Char) (h : '#' ∉ cs) :
    ofPath (cs ++ '#' :: more) = ofPath cs := by
  have hall : ∀ c ∈ cs, decide (c ≠ '#') = true := by
    intro c hc
    simp only [ne_eq, decide_not, Bool.not_eq_true', decide_eq_false_iff_not]
    exact fun heq => h (heq ▸ hc)
  unfold ofPath
  rw [List.takeWhile_append_of_pos hall, List.takeWhile_cons_of_neg (by simp),
    List.append_nil, ← List.append_nil cs, List.takeWhile_append_of_pos hall]
  simp

end RequestTarget

end DatabaseOperator
