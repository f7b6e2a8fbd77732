import RegistryClient.Query.Term

/-!
# Searchable elements

The names under which a query document searches for text, and the fields that
each name stands for.  A name with several fields matches a record when any of
them does.
-/

namespace RegistryClient.Query

/-- A named part of a record that can be searched for text. -/
inductive Element where
  | title
  | name
  | altTitle
  | actor
  | director
  | contributor
  | associatedOrg
  | alternateId
  | referentType
  | structuralType
  | mode
  | language
  | country
  | description
  | registrant
  | status
  | distributionNumber
  | houseSequence
deriving DecidableEq, Repr

namespace Element

/-- Every element, in the order of the table. -/
def all : List Element :=
  [.title, .name, .altTitle, .actor, .director, .contributor, .associatedOrg, .alternateId,
    .referentType, .structuralType, .mode, .language, .country, .description, .registrant,
    .status, .distributionNumber, .houseSequence]

/-- The key of an element in a query document. -/
def key : Element → String
  | .title => "title"
  | .name => "name"
  | .altTitle => "alttitle"
  | .actor => "actor"
  | .director => "director"
  | .contributor => "contributor"
  | .associatedOrg => "associatedorg"
  | .alternateId => "aoid"
  | .referentType => "reftype"
  | .structuralType => "structuraltype"
  | .mode => "mode"
  | .language => "language"
  | .country => "country"
  | .description => "description"
  | .registrant => "registrant"
  | .status => "status"
  | .distributionNumber => "distributionnumber"
  | .houseSequence => "housesequence"

/-- The element with a key. -/
def ofKey? (key : String) : Option Element :=
  all.find? fun element => element.key = key

/-- The part of a record that an element's fields are in. -/
def branch : Element → Branch
  | .distributionNumber => .extra
  | .houseSequence => .extra
  | _ => .base

/-- The fields of an element, by their paths in that part. -/
def fields : Element → List String
  | .title => ["ResourceName", "AlternateResourceName"]
  | .name => ["ResourceName"]
  | .altTitle => ["AlternateResourceName"]
  | .actor => ["Credits/Actor/DisplayName"]
  | .director => ["Credits/Director/DisplayName"]
  | .contributor => ["Credits/Actor/DisplayName", "Credits/Director/DisplayName"]
  | .associatedOrg => ["AssociatedOrg/DisplayName", "AssociatedOrg/AlternateName"]
  | .alternateId => ["AlternateID"]
  | .referentType => ["ReferentType"]
  | .structuralType => ["StructuralType"]
  | .mode => ["Mode"]
  | .language => ["OriginalLanguage", "VersionLanguage"]
  | .country => ["CountryOfOrigin"]
  | .description => ["Description"]
  | .registrant => ["Administrators/Registrant"]
  | .status => ["Status"]
  | .distributionNumber =>
    ["EpisodeInfo/SequenceInfo/DistributionNumber", "SeasonInfo/SequenceInfo/DistributionNumber"]
  | .houseSequence =>
    ["EpisodeInfo/SequenceInfo/HouseSequence", "SeasonInfo/SequenceInfo/HouseSequence"]

/-- The absolute paths of an element's fields, in the order of the table. -/
def paths (element : Element) : List String :=
  element.fields.map element.branch.path

/-- The path of an element that has exactly one field. -/
def singlePath? (element : Element) : Option String :=
  match element.paths with
  | [path] => some path
  | _ => none

end Element

end RegistryClient.Query
