import RegistryClient.Config

/-!
# Valid configurations

A configuration is refused for its endpoint first: one that is no address of the web
(`validate_of_not_hasAddress`).  With an address, only the page size and the timeout are looked at
(`validate_of_hasAddress`), so what else a configuration has can change without being noticed.
-/

namespace RegistryClient.Config

theorem isWebAddress_iff {text : List Char} :
    isWebAddress text = true ↔ "http://".toList <+: text ∨ "https://".toList <+: text := by
  rw [isWebAddress, Bool.or_eq_true, List.isPrefixOf_iff_prefix, List.isPrefixOf_iff_prefix]

/-- The endpoint is an address of the web, perhaps with blanks around it. -/
def HasAddress (config : Config) : Prop :=
  "http://".toList <+: Text.trimChars config.endpoint.toList ∨
    "https://".toList <+: Text.trimChars config.endpoint.toList

instance (config : Config) : Decidable config.HasAddress := inferInstanceAs (Decidable (_ ∨ _))

/-- What is wrong with an endpoint that is no address. -/
def addressFault (config : Config) : ConfigFault :=
  if Text.trim config.endpoint = "" then .noEndpoint else .notAnAddress config.endpoint

/-- What a client can work with: an address, pages with something on them, and time to wait. -/
structure Valid (config : Config) : Prop where
  address : config.HasAddress
  pageSize : config.pageSize ≠ 0
  timeout : config.timeoutSeconds ≠ 0

variable {config : Config}

theorem HasAddress.trimChars_ne_nil (h : config.HasAddress) :
    Text.trimChars config.endpoint.toList ≠ [] := by
  intro hnil
  rw [HasAddress, hnil, List.prefix_nil, List.prefix_nil] at h
  exact absurd h (by decide)

theorem validate_of_hasAddress (h : config.HasAddress) :
    config.validate =
      if config.pageSize = 0 then .error .noPageSize
      else if config.timeoutSeconds = 0 then .error .noTimeout
      else .ok () := by
  have haddress : isWebAddress (Text.trimChars config.endpoint.toList) = true :=
    isWebAddress_iff.mpr h
  simp [validate, h.trimChars_ne_nil, haddress]

theorem validate_of_not_hasAddress (h : ¬ config.HasAddress) :
    config.validate = .error config.addressFault := by
  have haddress : isWebAddress (Text.trimChars config.endpoint.toList) = false :=
    Bool.eq_false_iff.mpr (mt isWebAddress_iff.mp h)
  by_cases hblank : Text.trimChars config.endpoint.toList = []
  · simp [validate, addressFault, Text.trim, hblank]
  · simp [validate, addressFault, Text.trim, hblank, haddress]

theorem validate_eq_ok_iff : config.validate = .ok () ↔ config.Valid := by
  by_cases haddress : config.HasAddress
  · rw [validate_of_hasAddress haddress]
    constructor
    · intro h
      split at h
      · cases h
      · next hpageSize =>
        split at h
        · cases h
        · next htimeout => exact ⟨haddress, hpageSize, htimeout⟩
    · intro h
      rw [if_neg h.pageSize, if_neg h.timeout]
  · rw [validate_of_not_hasAddress haddress]
    constructor
    · intro h
      cases h
    · intro h
      exact absurd h.address haddress

end RegistryClient.Config
