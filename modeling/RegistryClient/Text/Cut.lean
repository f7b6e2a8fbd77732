/-!
# Cutting text at fixed words

Readers look for a fixed word at the start of the remaining text, or for the
first place where one stands.
-/

namespace RegistryClient.Text

/-- The text after a word, when the text starts with that word. -/
def after? : (word chars : List Char) → Option (List Char)
  | [], rest => some rest
  | _ :: _, [] => none
  | expected :: word, c :: rest => if expected = c then after? word rest else none

/-- The text before and after the first place where a marker stands. -/
def cutAt? (marker : List Char) : List Char → Option (List Char × List Char)
  | [] => none
  | c :: rest =>
    match after? marker (c :: rest) with
    | some more => some ([], more)
    | none => (cutAt? marker rest).map fun (before, more) => (c :: before, more)

end RegistryClient.Text
