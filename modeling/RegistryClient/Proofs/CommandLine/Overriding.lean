import RegistryClient.CommandLine.Run
import RegistryClient.Proofs.Config

/-!
# Settings in the place of what the file says

A configuration file is validated as it is, and once more with the settings of the command line in
the place of its own values.  Page size and timeout have no settings, and credentials are not
looked at, so the first time makes a difference for the endpoint only: a file whose endpoint is no
address is refused, even if a setting replaces that endpoint (`replaced_endpoint_refused`).

Apart from this the settings decide.  `loadConfig_overriding` says when a configuration is loaded,
that it is the one with the settings in place, and that what they replace does not matter.
-/

namespace RegistryClient.CommandLine

/-- There is a text in the file, which reads as this configuration. -/
def Surroundings.FileHolds (surroundings : Surroundings) (path : String) (config : Config) : Prop :=
  ∃ content text, surroundings.file? path = some content ∧ String.fromUTF8? content = some text ∧
    Config.ofText? text = some config

namespace Settings

/-- The configurations are the same but for what the settings replace. -/
structure Agree (settings : Settings) (config other : Config) : Prop where
  endpoint : settings.endpoint = none → config.endpoint = other.endpoint
  apiVersion : config.apiVersion = other.apiVersion
  timeoutSeconds : config.timeoutSeconds = other.timeoutSeconds
  pageSize : config.pageSize = other.pageSize
  userId : settings.userId = none → config.credentials.userId = other.credentials.userId
  partyId : settings.partyId = none → config.credentials.partyId = other.credentials.partyId
  passwordShadow : settings.passwordShadow = none →
    config.credentials.passwordShadow = other.credentials.passwordShadow

variable {settings : Settings} {config other : Config}

theorem getD_eq_of_unset {α : Type} {setting : Option α} {value other : α}
    (h : setting = none → value = other) : setting.getD value = setting.getD other := by
  cases setting with
  | none => exact h rfl
  | some => rfl

theorem or_eq_of_unset {α : Type} {setting value other : Option α}
    (h : setting = none → value = other) : setting.or value = setting.or other := by
  cases setting with
  | none => exact h rfl
  | some => rfl

theorem Agree.overriding_eq (h : settings.Agree config other) :
    settings.overriding config = settings.overriding other := by
  simp only [overriding, getD_eq_of_unset h.endpoint, h.apiVersion, h.timeoutSeconds, h.pageSize,
    or_eq_of_unset h.userId, or_eq_of_unset h.partyId, or_eq_of_unset h.passwordShadow]

/-- The endpoint is the only thing in a file that a setting can make valid. -/
theorem validate_eq_ok_iff_of_overriding (h : (settings.overriding config).validate = .ok ()) :
    config.validate = .ok () ↔ config.HasAddress := by
  obtain ⟨-, hpageSize, htimeout⟩ := Config.validate_eq_ok_iff.mp h
  rw [Config.validate_eq_ok_iff]
  exact ⟨Config.Valid.address, fun haddress => ⟨haddress, hpageSize, htimeout⟩⟩

/-- An endpoint that is not replaced is valid if it is valid in the end. -/
theorem hasAddress_of_overriding (hendpoint : settings.endpoint = none)
    (h : (settings.overriding config).validate = .ok ()) : config.HasAddress := by
  have haddress : (settings.overriding config).HasAddress := (Config.validate_eq_ok_iff.mp h).address
  rwa [Config.HasAddress, overriding, hendpoint] at haddress

/-- Files that agree are judged alike, unless just one of two replaced endpoints is an address. -/
theorem Agree.validate_eq (h : settings.Agree config other)
    (hendpoint : config.endpoint = other.endpoint ∨ config.HasAddress ∧ other.HasAddress) :
    config.validate = other.validate := by
  rcases hendpoint with hsame | ⟨hconfig, hother⟩
  · simp only [Config.validate, hsame, h.pageSize, h.timeoutSeconds]
  · rw [Config.validate_of_hasAddress hconfig, Config.validate_of_hasAddress hother, h.pageSize,
      h.timeoutSeconds]

end Settings

section File

variable {surroundings : Surroundings} {settings : Settings} {path : String} {config : Config}

/-- What is in the file is validated as it is. -/
theorem fileConfig_of_file (hpath : settings.configPath = some path)
    (hfile : surroundings.FileHolds path config) :
    fileConfig surroundings settings =
      match config.validate with
      | .error fault => .error (.configFile path (.invalid fault))
      | .ok () => .ok config := by
  obtain ⟨content, text, hcontent, htext, hconfig⟩ := hfile
  simp only [fileConfig, hpath, hcontent, Config.ofFile, Option.bind, htext, hconfig]
  cases config.validate <;> rfl

/-- The file is validated first, and what comes of the settings after it. -/
theorem loadConfig_of_file (hpath : settings.configPath = some path)
    (hfile : surroundings.FileHolds path config) :
    loadConfig surroundings settings =
      match config.validate, (settings.overriding config).validate with
      | .error fault, _ => .error (.configFile path (.invalid fault))
      | .ok (), .error fault => .error (.config fault)
      | .ok (), .ok () => .ok (settings.overriding config) := by
  rw [loadConfig, fileConfig_of_file hpath hfile]
  cases config.validate with
  | error fault => rfl
  | ok =>
      simp only [bind, Except.bind]
      cases (settings.overriding config).validate <;> rfl

theorem loadConfig_eq_ok_iff (hpath : settings.configPath = some path)
    (hfile : surroundings.FileHolds path config) {loaded : Config} :
    loadConfig surroundings settings = .ok loaded ↔
      config.HasAddress ∧ (settings.overriding config).validate = .ok () ∧
        loaded = settings.overriding config := by
  rw [loadConfig_of_file hpath hfile]
  cases hmerged : (settings.overriding config).validate with
  | error fault => cases config.validate <;> simp
  | ok =>
      rw [← Settings.validate_eq_ok_iff_of_overriding hmerged]
      cases config.validate <;> simp [eq_comm]

theorem loadConfig_of_not_hasAddress (hpath : settings.configPath = some path)
    (hfile : surroundings.FileHolds path config) (haddress : ¬ config.HasAddress) :
    loadConfig surroundings settings =
      .error (.configFile path (.invalid config.addressFault)) := by
  rw [loadConfig_of_file hpath hfile, Config.validate_of_not_hasAddress haddress]

theorem loadConfig_of_agree (hpath : settings.configPath = some path)
    (hfile : surroundings.FileHolds path config) {others : Surroundings} {other : Config}
    (hother : others.FileHolds path other) (hagree : settings.Agree config other)
    (hendpoint : config.endpoint = other.endpoint ∨ config.HasAddress ∧ other.HasAddress) :
    loadConfig surroundings settings = loadConfig others settings := by
  rw [loadConfig_of_file hpath hfile, loadConfig_of_file hpath hother, hagree.overriding_eq,
    hagree.validate_eq hendpoint]

end File

/-- **Settings override a file whose endpoint is an address.**  A configuration is loaded exactly
when the file has such an endpoint, replaced or not, and the configuration with the settings in
place is valid; it is the latter that is loaded.  So the configuration with the settings in place
decides, unless they replace an endpoint that is no address: the file is then refused for it.
What the settings replace matters in no other way: not to what is loaded, and not to the fault. -/
theorem loadConfig_overriding (surroundings : Surroundings) (settings : Settings) (path : String)
    (config : Config) (hpath : settings.configPath = some path)
    (hfile : surroundings.FileHolds path config) :
    (∀ loaded, loadConfig surroundings settings = .ok loaded ↔
      config.HasAddress ∧ (settings.overriding config).validate = .ok () ∧
        loaded = settings.overriding config) ∧
    (settings.endpoint = none ∨ config.HasAddress →
      ((∃ loaded, loadConfig surroundings settings = .ok loaded) ↔
        (settings.overriding config).validate = .ok ())) ∧
    (¬ config.HasAddress →
      loadConfig surroundings settings =
        .error (.configFile path (.invalid config.addressFault))) ∧
    ∀ (others : Surroundings) (other : Config), others.FileHolds path other →
      settings.Agree config other →
      (config.endpoint = other.endpoint ∨ config.HasAddress ∧ other.HasAddress) →
        loadConfig surroundings settings = loadConfig others settings := by
  refine ⟨fun loaded => loadConfig_eq_ok_iff hpath hfile, ?_,
    loadConfig_of_not_hasAddress hpath hfile,
    fun _ _ hother => loadConfig_of_agree hpath hfile hother⟩
  intro hendpoint
  have haddress : (settings.overriding config).validate = .ok () → config.HasAddress := by
    intro hmerged
    rcases hendpoint with hnone | haddress
    · exact Settings.hasAddress_of_overriding hnone hmerged
    · exact haddress
  constructor
  · rintro ⟨loaded, hloaded⟩
    exact ((loadConfig_eq_ok_iff hpath hfile).mp hloaded).2.1
  · intro hmerged
    exact ⟨_, (loadConfig_eq_ok_iff hpath hfile).mpr ⟨haddress hmerged, hmerged, rfl⟩⟩

/-! ## An endpoint replaced -/

/-- Every file has this text. -/
def filesWith (text : String) : Surroundings where
  standardInput := none
  file? _ := some text.toUTF8
  outcome _ _ := .refused

theorem fileHolds_filesWith {text path : String} {config : Config}
    (hconfig : Config.ofText? text = some config) : (filesWith text).FileHolds path config := by
  refine ⟨text.toUTF8, text, rfl, ?_, hconfig⟩
  simp only [String.fromUTF8?, String.toUTF8_eq_toByteArray, dif_pos text.isValidUTF8]
  rfl

/-- A file is to be read, with an endpoint and a user in the place of its own. -/
def sandboxSettings : Settings where
  configPath := some "c.yaml"
  endpoint := some "https://sandbox1.eidr.org"
  userId := some "10.5238/USER"
  partyId := none
  passwordShadow := none

/-- The configuration of a file with an endpoint, a page size and a user. -/
def fileConfigWith (endpoint : String) (pageSize : Nat) (userId : Option String) : Config :=
  ⟨endpoint, "2.7.1", 30, pageSize, ⟨userId, none, none⟩⟩

/-- The file is refused for an endpoint that is replaced, by settings with which it is valid. -/
theorem replaced_endpoint_refused :
    (filesWith "endpoint: \"\"\n").FileHolds "c.yaml" (fileConfigWith "" 25 none) ∧
      sandboxSettings.configPath = some "c.yaml" ∧
      (sandboxSettings.overriding (fileConfigWith "" 25 none)).validate = .ok () ∧
      loadConfig (filesWith "endpoint: \"\"\n") sandboxSettings =
        .error (.configFile "c.yaml" (.invalid .noEndpoint)) := by
  have hfile : (filesWith "endpoint: \"\"\n").FileHolds "c.yaml" (fileConfigWith "" 25 none) :=
    fileHolds_filesWith (by decide +kernel)
  have hvalid : (sandboxSettings.overriding (fileConfigWith "" 25 none)).Valid :=
    ⟨by decide, by decide, by decide⟩
  exact ⟨hfile, rfl, Config.validate_eq_ok_iff.mpr hvalid,
    loadConfig_of_not_hasAddress rfl hfile (by decide)⟩

/-- Of two files with a page size each, the endpoint and the user are replaced. -/
theorem loadConfig_overriding_sandbox :
    loadConfig (filesWith "endpoint: http://localhost\npage_size: 50\n") sandboxSettings =
        .ok (fileConfigWith "https://sandbox1.eidr.org" 50 (some "10.5238/USER")) ∧
      loadConfig (filesWith "endpoint: http://localhost\npage_size: 50\n") sandboxSettings =
        loadConfig (filesWith "page_size: 50\ncredentials: \x7buser_id: X\x7d\n")
          sandboxSettings ∧
      loadConfig (filesWith "endpoint: localhost\n") sandboxSettings =
        .error (.configFile "c.yaml" (.invalid (.notAnAddress "localhost"))) := by
  have hlocal : (filesWith "endpoint: http://localhost\npage_size: 50\n").FileHolds "c.yaml"
      (fileConfigWith "http://localhost" 50 none) :=
    fileHolds_filesWith (by decide +kernel)
  have huser : (filesWith "page_size: 50\ncredentials: \x7buser_id: X\x7d\n").FileHolds "c.yaml"
      (fileConfigWith "https://registry1.eidr.org" 50 (some "X")) :=
    fileHolds_filesWith (by decide +kernel)
  have hnoAddress : (filesWith "endpoint: localhost\n").FileHolds "c.yaml"
      (fileConfigWith "localhost" 25 none) :=
    fileHolds_filesWith (by decide +kernel)
  have hmerged : (sandboxSettings.overriding (fileConfigWith "http://localhost" 50 none)).Valid :=
    ⟨by decide, by decide, by decide⟩
  have hagree : sandboxSettings.Agree (fileConfigWith "http://localhost" 50 none)
      (fileConfigWith "https://registry1.eidr.org" 50 (some "X")) := by
    constructor <;> decide
  obtain ⟨hloaded, -, -, hothers⟩ := loadConfig_overriding _ sandboxSettings _ _ rfl hlocal
  obtain ⟨-, -, hrefused, -⟩ := loadConfig_overriding _ sandboxSettings _ _ rfl hnoAddress
  exact ⟨(hloaded _).mpr ⟨by decide, Config.validate_eq_ok_iff.mpr hmerged, rfl⟩,
    hothers _ _ huser hagree (Or.inr ⟨by decide, by decide⟩), hrefused (by decide)⟩

end RegistryClient.CommandLine
