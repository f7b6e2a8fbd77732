import Mathlib.Data.List.DropRight
import RegistryClient.Http.Transport
import RegistryClient.Proofs.Config
import RegistryClient.Proofs.Text.Words

/-!
# The address that paths are appended to

Validating looks at the trimmed endpoint, but paths are appended to what is left of it without the
slashes at its end.  Between the two something can be lost:

* Nothing stands behind the scheme.  The slashes at the end are then those of the scheme, and of
  `http://` only `http:` is left.
* A blank stands before the slashes at the end.  It ends what is left of the endpoint, and would be
  trimmed if that were looked at once more.

`NamesPlace` excludes the first and `PadsSlashes` is the second.  `usableBase_iff` says which of the
two spoils what, and that nothing else goes wrong.
-/

namespace RegistryClient.Config

open Text (isBlank trimChars)

/-! ## Taking characters from the end -/

section FromTheEnd

variable {p : Char → Bool} {start text : List Char} {c : Char}

theorem rdropWhile_eq_self (h : ∀ c ∈ text.getLast?, p c = false) : text.rdropWhile p = text := by
  rw [List.rdropWhile_eq_self_iff]
  intro hne
  rw [h _ (List.getLast?_eq_some_getLast hne)]
  exact Bool.false_ne_true

/-- What a text begins with is left if the last character of it is. -/
theorem prefix_rdropWhile (h : start <+: text) (hlast : ∀ c ∈ start.getLast?, p c = false) :
    start <+: text.rdropWhile p := by
  obtain ⟨rest, rfl⟩ := h
  induction rest using List.reverseRecOn with
  | nil =>
      refine ⟨[], ?_⟩
      rw [List.append_nil, rdropWhile_eq_self hlast]
  | append_singleton rest c ih =>
      rw [← List.append_assoc, List.rdropWhile_concat]
      split
      · exact ih
      · exact ⟨rest ++ [c], (List.append_assoc ..).symm⟩

theorem of_getLast?_rdropWhile (hc : c ∈ (text.rdropWhile p).getLast?) : p c = false := by
  obtain ⟨hne, rfl⟩ := List.mem_getLast?_eq_getLast hc
  exact Bool.eq_false_iff.mpr (List.rdropWhile_last_not p text hne)

end FromTheEnd

theorem withoutSlashes_eq (text : List Char) :
    withoutSlashes text = text.rdropWhile fun c => decide (c = '/') :=
  rfl

theorem isPrefix_withoutSlashes (text : List Char) : withoutSlashes text <+: text :=
  List.rdropWhile_prefix _ text

theorem ne_slash_of_getLast?_withoutSlashes {text : List Char} {c : Char}
    (hc : c ∈ (withoutSlashes text).getLast?) : c ≠ '/' :=
  of_decide_eq_false (of_getLast?_rdropWhile hc)

theorem withoutSlashes_eq_self {text : List Char} (h : ∀ c ∈ text.getLast?, c ≠ '/') :
    withoutSlashes text = text :=
  rdropWhile_eq_self fun c hc => decide_eq_false (h c hc)

/-- A text is what is left of it, and slashes behind that. -/
theorem exists_slashes (text : List Char) :
    ∃ slashes, text = withoutSlashes text ++ slashes ∧ ∀ c ∈ slashes, c = '/' := by
  refine ⟨text.rtakeWhile fun c => decide (c = '/'), ?_, ?_⟩
  · rw [withoutSlashes_eq, List.rdropWhile_append_rtakeWhile]
  · intro c hc
    have hslash := List.mem_rtakeWhile_imp hc
    exact of_decide_eq_true hslash

/-- Slashes behind a text are taken from it. -/
theorem withoutSlashes_append {slashes : List Char} (hslashes : ∀ c ∈ slashes, c = '/')
    (text : List Char) : withoutSlashes (text ++ slashes) = withoutSlashes text := by
  induction slashes using List.reverseRecOn with
  | nil => rw [List.append_nil]
  | append_singleton slashes c ih =>
      have hc : c = '/' := hslashes c (List.mem_append_right _ (List.mem_singleton_self c))
      have hothers : ∀ d ∈ slashes, d = '/' :=
        fun d hd => hslashes d (List.mem_append_left _ hd)
      have hlast : withoutSlashes (text ++ slashes ++ [c]) = withoutSlashes (text ++ slashes) := by
        simp [withoutSlashes, hc]
      rw [← List.append_assoc, hlast, ih hothers]

/-! ## What is left of an endpoint -/

/-- A scheme of the web. -/
def IsScheme (scheme : List Char) : Prop :=
  scheme = "http://".toList ∨ scheme = "https://".toList

/-- There is more than slashes behind the scheme of the endpoint. -/
def NamesPlace (config : Config) : Prop :=
  ∃ scheme place, IsScheme scheme ∧ trimChars config.endpoint.toList = scheme ++ place ∧
    ∃ c ∈ place, c ≠ '/'

/-- The slashes at the end of the endpoint have a blank before them. -/
def PadsSlashes (config : Config) : Prop :=
  ∃ before blank slashes, trimChars config.endpoint.toList = before ++ blank :: slashes ∧
    isBlank blank = true ∧ ∀ c ∈ slashes, c = '/'

/-- The configuration with the address that paths are appended to for its endpoint. -/
def rebased (config : Config) : Config :=
  { config with endpoint := config.baseUrl }

/-- The address that paths are appended to is one of the web, as short as it can be, and as good an
endpoint as the one that was given. -/
structure UsableBase (config : Config) : Prop where
  address : isWebAddress config.baseUrl.toList = true
  trimmed : Text.IsTrimmed config.baseUrl
  withoutSlash : ∀ c ∈ config.baseUrl.toList.getLast?, c ≠ '/'
  accepted : config.rebased.validate = .ok ()
  same : config.rebased.baseUrl = config.baseUrl

variable {config : Config}

@[simp] theorem rebased_pageSize : config.rebased.pageSize = config.pageSize := by
  simp only [rebased]

@[simp] theorem rebased_timeoutSeconds :
    config.rebased.timeoutSeconds = config.timeoutSeconds := by
  simp only [rebased]

theorem toList_baseUrl :
    config.baseUrl.toList = withoutSlashes (trimChars config.endpoint.toList) :=
  String.toList_ofList

theorem ne_slash_of_getLast?_baseUrl {c : Char} (hc : c ∈ config.baseUrl.toList.getLast?) :
    c ≠ '/' := by
  rw [toList_baseUrl] at hc
  exact ne_slash_of_getLast?_withoutSlashes hc

theorem isBlank_of_head?_baseUrl {c : Char} (hc : c ∈ config.baseUrl.toList.head?) :
    isBlank c = false := by
  obtain ⟨slashes, hslashes⟩ := isPrefix_withoutSlashes (trimChars config.endpoint.toList)
  apply Text.isBlank_of_head?_trimChars
  rw [← hslashes, ← toList_baseUrl, List.head?_append, Option.mem_def.mp hc]
  rfl

theorem IsScheme.getLast?_eq {scheme : List Char} (h : IsScheme scheme) :
    scheme.getLast? = some '/' := by
  rcases h with rfl | rfl <;> rfl

theorem isWebAddress_iff_exists {text : List Char} :
    isWebAddress text = true ↔ ∃ scheme, IsScheme scheme ∧ scheme <+: text := by
  simp only [isWebAddress_iff, IsScheme, or_and_right, exists_or, exists_eq_left]

/-- What is left of an endpoint has a scheme exactly if there is more than slashes behind it. -/
theorem isWebAddress_baseUrl_iff :
    isWebAddress config.baseUrl.toList = true ↔ config.NamesPlace := by
  rw [isWebAddress_iff_exists]
  constructor
  · rintro ⟨scheme, hscheme, place, hplace⟩
    obtain ⟨slashes, htext, -⟩ := exists_slashes (trimChars config.endpoint.toList)
    have hne : place ≠ [] := by
      rintro rfl
      rw [List.append_nil] at hplace
      exact ne_slash_of_getLast?_baseUrl (hplace ▸ hscheme.getLast?_eq) rfl
    refine ⟨scheme, place ++ slashes, hscheme, ?_, place.getLast hne, ?_, ?_⟩
    · rw [← List.append_assoc, hplace, toList_baseUrl, ← htext]
    · exact List.mem_append_left _ (List.getLast_mem hne)
    · apply ne_slash_of_getLast?_baseUrl
      rw [← hplace, List.getLast?_append_of_ne_nil _ hne, List.getLast?_eq_some_getLast hne]
      rfl
  · rintro ⟨scheme, place, hscheme, htext, c, hc, hslash⟩
    obtain ⟨before, after, rfl⟩ := List.append_of_mem hc
    -- nothing is taken up to a character that is no slash
    have hkept : scheme ++ before ++ [c] <+: config.baseUrl.toList := by
      rw [toList_baseUrl, withoutSlashes_eq]
      apply prefix_rdropWhile ⟨after, by simp [htext]⟩
      intro d hd
      rw [List.getLast?_concat, Option.mem_some_iff] at hd
      exact decide_eq_false (hd ▸ hslash)
    exact ⟨scheme, hscheme, List.IsPrefix.trans ⟨before ++ [c], by simp⟩ hkept⟩

/-- What is left of an endpoint ends in a blank exactly if one stands before the slashes. -/
theorem isTrimmed_baseUrl_iff : Text.IsTrimmed config.baseUrl ↔ ¬ config.PadsSlashes := by
  constructor
  · rintro ⟨-, hlast⟩ ⟨before, blank, slashes, htext, hblank, hslashes⟩
    have hkept : config.baseUrl.toList = before ++ [blank] := by
      have hne : blank ≠ '/' := by
        rintro rfl
        exact absurd hblank (by decide)
      rw [toList_baseUrl, htext, List.append_cons, withoutSlashes_append hslashes]
      apply withoutSlashes_eq_self
      simpa using hne
    rw [hkept, List.getLast?_concat] at hlast
    rw [hlast blank rfl] at hblank
    exact absurd hblank (by decide)
  · intro hpads
    refine ⟨fun c => isBlank_of_head?_baseUrl, fun c hc => ?_⟩
    apply Bool.eq_false_iff.mpr
    intro hblank
    obtain ⟨slashes, htext, hslashes⟩ := exists_slashes (trimChars config.endpoint.toList)
    obtain ⟨before, hbefore⟩ := List.getLast?_eq_some_iff.mp hc
    refine hpads ⟨before, c, slashes, ?_, hblank, hslashes⟩
    rw [List.append_cons, ← hbefore, toList_baseUrl, ← htext]

/-! ## The base as an endpoint -/

theorem trimChars_baseUrl :
    trimChars config.baseUrl.toList = config.baseUrl.toList.rdropWhile isBlank := by
  rw [trimChars, Text.dropWhile_isBlank_of_head fun c => isBlank_of_head?_baseUrl]
  rfl

theorem isWebAddress_rdropWhile_iff {text : List Char} :
    isWebAddress (text.rdropWhile isBlank) = true ↔ isWebAddress text = true := by
  rw [isWebAddress_iff_exists, isWebAddress_iff_exists]
  refine exists_congr fun scheme => and_congr_right fun hscheme => ⟨fun h => ?_, fun h => ?_⟩
  · have hleft := List.rdropWhile_prefix isBlank text
    exact h.trans hleft
  · apply prefix_rdropWhile h
    intro c hc
    rw [hscheme.getLast?_eq, Option.mem_some_iff] at hc
    rw [← hc]
    decide

theorem hasAddress_iff_isWebAddress :
    config.HasAddress ↔ isWebAddress (trimChars config.endpoint.toList) = true :=
  isWebAddress_iff.symm

theorem hasAddress_rebased_iff : config.rebased.HasAddress ↔ config.NamesPlace := by
  rw [hasAddress_iff_isWebAddress, rebased, trimChars_baseUrl, isWebAddress_rdropWhile_iff,
    isWebAddress_baseUrl_iff]

theorem validate_rebased_iff (h : config.validate = .ok ()) :
    config.rebased.validate = .ok () ↔ config.NamesPlace := by
  obtain ⟨-, hpageSize, htimeout⟩ := validate_eq_ok_iff.mp h
  rw [validate_eq_ok_iff, ← hasAddress_rebased_iff]
  refine ⟨Valid.address, fun haddress => ⟨haddress, ?_, ?_⟩⟩
  · rwa [rebased_pageSize]
  · rwa [rebased_timeoutSeconds]

/-- The base is its own base exactly if it ends in no blank. -/
theorem baseUrl_rebased_iff : config.rebased.baseUrl = config.baseUrl ↔ ¬ config.PadsSlashes := by
  have hbase : config.rebased.baseUrl.toList =
      withoutSlashes (config.baseUrl.toList.rdropWhile isBlank) := by
    rw [toList_baseUrl, rebased, trimChars_baseUrl]
  rw [← isTrimmed_baseUrl_iff, ← String.toList_inj, hbase]
  constructor
  · intro hsame
    -- the base is left only if nothing of it was taken as a blank
    have hall : config.baseUrl.toList.rdropWhile isBlank = config.baseUrl.toList := by
      have hleft := List.rdropWhile_prefix isBlank config.baseUrl.toList
      apply hleft.eq_of_length_le
      calc config.baseUrl.toList.length
          = (withoutSlashes (config.baseUrl.toList.rdropWhile isBlank)).length := by rw [hsame]
        _ ≤ (config.baseUrl.toList.rdropWhile isBlank).length :=
          (isPrefix_withoutSlashes _).length_le
    refine ⟨fun c => isBlank_of_head?_baseUrl, fun c hc => ?_⟩
    rw [← hall] at hc
    exact of_getLast?_rdropWhile hc
  · rintro ⟨-, hlast⟩
    rw [rdropWhile_eq_self hlast, withoutSlashes_eq_self fun c => ne_slash_of_getLast?_baseUrl]

/-- Of an address that is a scheme and slashes, less than the scheme is left. -/
theorem baseUrl_of_not_namesPlace (haddress : config.HasAddress) (h : ¬ config.NamesPlace) :
    config.baseUrl = "http:" ∨ config.baseUrl = "https:" := by
  rw [hasAddress_iff_isWebAddress, isWebAddress_iff_exists] at haddress
  obtain ⟨scheme, hscheme, place, htext⟩ := haddress
  have hslashes : ∀ c ∈ place, c = '/' := by
    intro c hc
    by_cases hslash : c = '/'
    · exact hslash
    · exact absurd ⟨scheme, place, hscheme, htext.symm, c, hc, hslash⟩ h
  rw [baseUrl, ← htext, withoutSlashes_append hslashes]
  rcases hscheme with rfl | rfl
  · exact Or.inl (by decide +kernel)
  · exact Or.inr (by decide +kernel)

theorem target_baseUrl (request : Request) :
    Http.target config.baseUrl request = config.baseUrl ++ request.path := by
  rw [Http.target, Http.base, withoutSlashes_eq_self fun c => ne_slash_of_getLast?_baseUrl,
    String.ofList_toList]

/-- **The address that paths are appended to is usable unless the endpoint has nothing but slashes
behind its scheme, or a blank before the slashes at its end.**  It never begins with a blank or ends
in a slash, and the transport takes it as it is.  In the first case it has lost its scheme and would
not be accepted, and in the second it ends in a blank and is not its own base. -/
theorem usableBase_iff (h : config.validate = .ok ()) :
    (config.UsableBase ↔ config.NamesPlace ∧ ¬ config.PadsSlashes) ∧
      (∀ c ∈ config.baseUrl.toList.head?, isBlank c = false) ∧
      (∀ c ∈ config.baseUrl.toList.getLast?, c ≠ '/') ∧
      (∀ request, Http.target config.baseUrl request = config.baseUrl ++ request.path) ∧
      (isWebAddress config.baseUrl.toList = true ↔ config.NamesPlace) ∧
      (config.rebased.validate = .ok () ↔ config.NamesPlace) ∧
      (¬ config.NamesPlace → config.baseUrl = "http:" ∨ config.baseUrl = "https:") ∧
      (Text.IsTrimmed config.baseUrl ↔ ¬ config.PadsSlashes) ∧
      (config.rebased.baseUrl = config.baseUrl ↔ ¬ config.PadsSlashes) := by
  refine ⟨⟨fun husable => ?_, fun ⟨hplace, hpads⟩ => ?_⟩, fun c => isBlank_of_head?_baseUrl,
    fun c => ne_slash_of_getLast?_baseUrl, target_baseUrl, isWebAddress_baseUrl_iff,
    validate_rebased_iff h, baseUrl_of_not_namesPlace (validate_eq_ok_iff.mp h).address,
    isTrimmed_baseUrl_iff, baseUrl_rebased_iff⟩
  · exact ⟨isWebAddress_baseUrl_iff.mp husable.address, isTrimmed_baseUrl_iff.mp husable.trimmed⟩
  · exact ⟨isWebAddress_baseUrl_iff.mpr hplace, isTrimmed_baseUrl_iff.mpr hpads,
      fun c => ne_slash_of_getLast?_baseUrl, (validate_rebased_iff h).mpr hplace,
      baseUrl_rebased_iff.mpr hpads⟩

/-! ## Endpoints -/

/-- The default configuration for another registry. -/
def registryAt (endpoint : String) : Config :=
  { Config.default with endpoint }

/-- Two endpoints are valid that leave no usable address: a scheme alone, and one with a blank
before the slash at its end. -/
theorem unusable_base_of_valid :
    (registryAt "http://").validate = .ok () ∧ (registryAt "http://").baseUrl = "http:" ∧
      (registryAt "http://").rebased.validate = .error (.notAnAddress "http:") ∧
      (registryAt "http://x /").validate = .ok () ∧
      (registryAt "http://x /").baseUrl = "http://x " ∧
      (registryAt "http://x /").rebased.baseUrl = "http://x" := by
  decide +kernel

/-- An endpoint with blanks around it and slashes at its end. -/
theorem usableBase_iff_sandbox :
    (registryAt "\u3000https://sandbox1.eidr.org//\n").validate = .ok () ∧
      (registryAt "\u3000https://sandbox1.eidr.org//\n").baseUrl = "https://sandbox1.eidr.org" ∧
      (registryAt "\u3000https://sandbox1.eidr.org//\n").UsableBase ∧
      ¬ (registryAt "http://x /").UsableBase := by
  have hvalid : (registryAt "\u3000https://sandbox1.eidr.org//\n").validate = .ok () := by
    decide +kernel
  have hbase : (registryAt "\u3000https://sandbox1.eidr.org//\n").baseUrl =
      "https://sandbox1.eidr.org" := by
    decide +kernel
  have hplace : (registryAt "\u3000https://sandbox1.eidr.org//\n").NamesPlace :=
    ⟨"https://".toList, "sandbox1.eidr.org//".toList, .inr rfl, by decide +kernel, 's',
      by decide +kernel, by decide⟩
  have hpads : (registryAt "http://x /").PadsSlashes :=
    ⟨"http://x".toList, ' ', ['/'], by decide +kernel, by decide, by simp⟩
  have htrimmed : Text.IsTrimmed (registryAt "\u3000https://sandbox1.eidr.org//\n").baseUrl := by
    have htrim : Text.trim "https://sandbox1.eidr.org" = "https://sandbox1.eidr.org" := by
      decide +kernel
    rw [hbase, ← htrim]
    exact Text.isTrimmed_trim _
  have hpadded : (registryAt "http://x /").validate = .ok () := by decide +kernel
  obtain ⟨husable, -, -, -, -, -, -, hspares, -⟩ := usableBase_iff hvalid
  exact ⟨hvalid, hbase, husable.mpr ⟨hplace, hspares.mp htrimmed⟩,
    fun hunusable => ((usableBase_iff hpadded).1.mp hunusable).2 hpads⟩

end RegistryClient.Config
