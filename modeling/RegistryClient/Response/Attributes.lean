import RegistryClient.Json.Basic

/-!
# Attributes in decoded responses

The attributes of an element stand under a key of their own, which no element
can have as its name.  They say nothing about a record and are dropped from it.
-/

namespace RegistryClient.Response

/-- The key under which the attributes of an element stand. -/
def attributesKey : String := "$"

/-- Fields without the attributes. -/
def withoutAttributes (fields : Fields) : Fields :=
  fields.erase attributesKey

end RegistryClient.Response
