import RegistryClient.Credentials

/-!
# Configuration

Where the registry is, which version of its interface is asked for, how long a
request may take, how many results a page has, and who asks.
-/

namespace RegistryClient

/-- The configuration of a client. -/
structure Config where
  /-- The address of the registry; blanks around it and slashes at its end do not count. -/
  endpoint : String
  apiVersion : String
  timeoutSeconds : Nat
  /-- How many results a page has when a query does not say. -/
  pageSize : Nat
  credentials : Credentials
deriving DecidableEq, Repr

/-- Why a configuration is refused. -/
inductive ConfigFault where
  | noEndpoint
  | notAnAddress (endpoint : String)
  | noPageSize
  | noTimeout
deriving DecidableEq, Repr

namespace ConfigFault

def message : ConfigFault → String
  | .noEndpoint => "'endpoint' must not be empty"
  | .notAnAddress endpoint =>
    s!"Invalid endpoint '{endpoint}': expected an http:// or https:// URL"
  | .noPageSize => "'page_size' must be at least 1"
  | .noTimeout => "'timeout_secs' must be at least 1"

end ConfigFault

namespace Config

/-- The configuration of a client that is told nothing. -/
def default : Config where
  endpoint := "https://registry1.eidr.org"
  apiVersion := "2.7.1"
  timeoutSeconds := 30
  pageSize := 25
  credentials := .anonymous

/-- The text begins with a scheme of the web. -/
def isWebAddress (text : List Char) : Bool :=
  "http://".toList.isPrefixOf text || "https://".toList.isPrefixOf text

/-- Refuses a configuration with which no request could be sent. -/
def validate (config : Config) : Except ConfigFault Unit :=
  let endpoint := Text.trimChars config.endpoint.toList
  if endpoint.isEmpty then .error .noEndpoint
  else if !isWebAddress endpoint then .error (.notAnAddress config.endpoint)
  else if config.pageSize = 0 then .error .noPageSize
  else if config.timeoutSeconds = 0 then .error .noTimeout
  else .ok ()

/-- Text without the slashes at its end. -/
def withoutSlashes (text : List Char) : List Char :=
  (text.reverse.dropWhile (· = '/')).reverse

/-- The address that paths are appended to. -/
def baseUrl (config : Config) : String :=
  String.ofList (withoutSlashes (Text.trimChars config.endpoint.toList))

end Config

end RegistryClient
