import RegistryClient.Query.Fault

/-!
# Joining and negating terms

`join` puts one pair of parentheses around two or more terms and none around a
single one; `negate` puts a term under `NOT`.  Both trim their operands and
refuse blank ones.
-/

namespace RegistryClient.Query

/-- The operands trimmed; the first blank one is refused by its index. -/
def trimOperands (connective : Connective) : (index : Nat) → List String →
    Except QueryFault (List String)
  | _, [] => .ok []
  | index, operand :: rest =>
    let term := Text.trim operand
    if term = "" then .error (.blankOperand connective index)
    else (trimOperands connective (index + 1) rest).map (term :: ·)

/-- The term that joins the operands in order; a single operand is that term itself. -/
def join (connective : Connective) (operands : List String) : Except QueryFault String :=
  if operands.isEmpty then .error (.nothingToJoin connective)
  else
    (trimOperands connective 0 operands).map fun
      | [term] => term
      | terms => "(" ++ Text.joinWith (" " ++ connective.word ++ " ") terms ++ ")"

/-- The term that negates another. -/
def negate (operand : String) : Except QueryFault String :=
  let term := Text.trim operand
  if term = "" then .error .blankNegation else .ok ("(NOT " ++ term ++ ")")

end RegistryClient.Query
