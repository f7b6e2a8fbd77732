import RegistryClient.Http.Host.Name
import RegistryClient.Text.Digit

/-!
# Addresses

Which addresses a request can be sent to.  After the scheme and any number of
slashes an address names a host, perhaps after a user and an `@`, and perhaps
with a port after a colon.  A host is a name or a number in brackets; a port is a
numeral of 16 bits, or nothing.
-/

namespace RegistryClient.Http

/-- A slash of either direction. -/
def isSlash (c : Char) : Bool := c == '/' || c == '\\'

/-- A character that ends the part of an address that names the host. -/
def endsAuthority (c : Char) : Bool := isSlash c || c == '?' || c == '#'

/-- A character that does not count anywhere in an address. -/
def isIgnored (c : Char) : Bool := c == '\t' || c == '\n' || c == '\r'

/-- The part of an address that names the host, with user and port. -/
def authorityChars (address : String) : List Char :=
  let chars := address.toList.filter fun c => !isIgnored c
  let afterScheme := (chars.dropWhile (· ≠ ':')).drop 1
  (afterScheme.dropWhile isSlash).takeWhile fun c => !endsAuthority c

/-- The characters after the last `@`; without one, all of them. -/
def afterUser (chars : List Char) : List Char :=
  (chars.reverse.takeWhile (· ≠ '@')).reverse

/-- The greatest port. -/
def greatestPort : Nat := Text.greatestOfBits 16

/-- What stands after a host: nothing, or a colon and a port. -/
def isPortPart : List Char → Bool
  | [] => true
  | [':'] => true
  | ':' :: digits => (Text.numeral? 10 digits).any (· ≤ greatestPort)
  | _ => false

/-- The characters name a host, perhaps with a port.  A host in brackets is an address
of 128 bits, and any other one ends before the first colon. -/
def isHostAndPort : List Char → Bool
  | '[' :: rest =>
    match rest.dropWhile (· ≠ ']') with
    | _ :: port => Host.isLongAddress (rest.takeWhile (· ≠ ']')) && isPortPart port
    | [] => false
  | chars => Host.isName (chars.takeWhile (· ≠ ':')) && isPortPart (chars.dropWhile (· ≠ ':'))

/-- A request can be sent to the address. -/
def isAddress (address : String) : Bool :=
  isHostAndPort (afterUser (authorityChars address))

end RegistryClient.Http
