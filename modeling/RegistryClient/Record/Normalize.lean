import RegistryClient.Record.WrapRule

/-!
# Normalizing records

A record is normalized by applying wrap rules to it one after the other.  The
default rules name the fields that the registry sends with attributes or without.
Only an object is a record; any other value is left alone.
-/

namespace RegistryClient.Record

/-- A record with the rules applied in order. -/
def normalizeWith (rules : List WrapRule) (tree : Json) : Json :=
  match tree with
  | .object fields => rules.foldl (fun current rule => rule.apply current) (.object fields)
  | other => other

/-- The rule for a field of the record itself. -/
def ruleAtTop (field : String) : WrapRule := ⟨[], field⟩

/-- The rule for a field below keys of the record. -/
def ruleBelow (keys : List String) (field : String) : WrapRule := ⟨keys.map .key, field⟩

/-- The rules for every record that is returned. -/
def defaultRules : List WrapRule :=
  [ruleAtTop "ResourceName",
    ruleAtTop "AlternateResourceName",
    ruleAtTop "OriginalLanguage",
    ruleAtTop "VersionLanguage",
    ruleAtTop "AlternateID",
    ruleBelow ["AssociatedOrg"] "DisplayName",
    ruleBelow ["AssociatedOrg"] "AlternateName",
    ruleBelow ["Credits", "Actor"] "DisplayName",
    ruleBelow ["Credits", "Director"] "DisplayName",
    ⟨[.any, .key "SequenceInfo"], "DistributionNumber"⟩,
    ⟨[.any, .key "SequenceInfo"], "HouseSequence"⟩,
    ruleBelow ["PartyName"] "DisplayName",
    ruleBelow ["PartyName"] "AlternateName",
    ruleAtTop "DisplayName",
    ruleAtTop "AlternateName"]

/-- A record with the default rules applied. -/
def normalize (tree : Json) : Json :=
  normalizeWith defaultRules tree

end RegistryClient.Record
