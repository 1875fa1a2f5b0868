import DatabaseOperator.Url.Encode

/-!
# Users in URLs

A URL may name a user in front of the host, and the password of that user.

- `UserInfo`: a user name and a password, each in its written form.
- `UserInfo.ofText?`: what stands in front of the host, and `UserInfo.text`: the
  written form.
- `UserInfo.isReadable`: a user that can sign in.
-/

namespace DatabaseOperator

/-- A user name and a password as URLs write them. Either may be missing, which
is the empty text. -/
structure UserInfo where
  user : String
  password : String
deriving DecidableEq, Repr

namespace UserInfo

/-- A part of the text in front of a host, written. -/
def written (cs : List Char) : String :=
  String.ofList (Url.percentEncode Url.escapesInUserInfo cs)

/-- What stands in front of a host. The first colon ends the user name. -/
def ofText? (cs : List Char) : Option UserInfo :=
  let user := cs.takeWhile (· ≠ ':')
  let password := (cs.dropWhile (· ≠ ':')).drop 1
  if user.isEmpty && password.isEmpty then none
  else some { user := written user, password := written password }

/-- The written form. There is a colon only in front of a password. -/
def text (u : UserInfo) : String :=
  if u.password = "" then u.user else u.user ++ ":" ++ u.password

/-- A user can sign in: the name is a text, and if it is the empty text then the
password is one and not empty. -/
def isReadable (u : UserInfo) : Bool :=
  (Url.decodedText? u.user.toList).isSome &&
    (u.user != ""
      || (u.password != "" && (Url.decodedText? u.password.toList).isSome))

end UserInfo

end DatabaseOperator
