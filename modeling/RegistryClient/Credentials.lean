import RegistryClient.Text.Blank
import RegistryClient.Text.Digit
import RegistryClient.Text.Visible

/-!
# Credentials

A caller is known to the registry by a user, a party and the shadow of the
account's password, a digest that is supplied ready-made.  Resolving needs no
credentials; a query needs all three parts, none of them blank.
-/

namespace RegistryClient

/-- What a caller has for the registry to know it by. -/
structure Credentials where
  userId : Option String
  partyId : Option String
  passwordShadow : Option String
deriving DecidableEq, Repr, Inhabited

namespace Credentials

/-- No credentials: enough to resolve, not to query. -/
def anonymous : Credentials := ⟨none, none, none⟩

/-- A part trimmed; a blank one counts as missing. -/
def present? (part : Option String) : Option String :=
  match part with
  | none => none
  | some text =>
    let trimmed := Text.trim text
    if trimmed = "" then none else some trimmed

/-- The value of the header that presents complete credentials. -/
def authorization? (credentials : Credentials) : Option String := do
  let user ← present? credentials.userId
  let party ← present? credentials.partyId
  let shadow ← present? credentials.passwordShadow
  return "Eidr " ++ user ++ ":" ++ party ++ ":" ++ shadow

/-- All three parts are there. -/
def isComplete (credentials : Credentials) : Bool :=
  credentials.authorization?.isSome

/-! ## Description -/

/-- A character of a quoted part: controls by their short escapes, and characters
that do not show by themselves by their code points. -/
def describeChar (c : Char) : List Char :=
  if c = '"' then ['\\', '"']
  else if c = '\\' then ['\\', '\\']
  else if c = '\t' then ['\\', 't']
  else if c = '\r' then ['\\', 'r']
  else if c = '\n' then ['\\', 'n']
  else if c.toNat = 0 then ['\\', '0']
  else if Text.isVisible c || c = ' ' then [c]
  else '\\' :: 'u' :: '\x7b' :: (Text.hexPadded 1 c.toNat ++ ['\x7d'])

/-- A part in quotation marks, or that it is missing. -/
def describePart : Option String → String
  | none => "None"
  | some text => "Some(\"" ++ String.ofList (text.toList.flatMap describeChar) ++ "\")"

/-- The credentials in words, the shadow kept out of sight. -/
def describe (credentials : Credentials) : String :=
  "Credentials \x7b user_id: " ++ describePart credentials.userId ++
    ", party_id: " ++ describePart credentials.partyId ++
    ", password_shadow: " ++ describePart (credentials.passwordShadow.map fun _ => "<redacted>") ++
    " \x7d"

end Credentials

end RegistryClient
