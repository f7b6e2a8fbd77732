import RegistryClient.Identifier

/-!
# Characters of identifiers

An identifier has only characters that its form has a place for, so a text that
is cut at any other character is not cut inside an identifier.  Where the form has a fixed
text, the identifier has that text, so it is known by its authority which of the forms an
identifier has, and its slash is the only one.
-/

namespace RegistryClient.Identifier

/-! ## Characters that a form permits -/

/-- At the places of the form only characters of the class may stand. -/
def Permits (allowed : Place) (form : List Place) : Prop :=
  ∀ place ∈ form, ∀ c, place c = true → allowed c = true

section Permits

variable {allowed : Place} {first second : List Place}

theorem permits_append (hfirst : Permits allowed first) (hsecond : Permits allowed second) :
    Permits allowed (first ++ second) :=
  List.forall_mem_append.mpr ⟨hfirst, hsecond⟩

theorem permits_fixedPlaces {text : List Char} (h : text.all allowed = true) :
    Permits allowed (fixedPlaces text) := by
  intro place hplace c hc
  obtain ⟨expected, hexpected, rfl⟩ := List.mem_map.mp hplace
  rw [eq_of_beq hc]
  exact List.all_eq_true.mp h expected hexpected

theorem permits_replicate {place : Place} (count : Nat)
    (h : ∀ c, place c = true → allowed c = true) : Permits allowed (List.replicate count place) := by
  intro other hother
  rw [List.eq_of_mem_replicate hother]
  exact h

end Permits

/-- What holds at every place of a form holds of every character of a text of that form. -/
theorem forall_of_fits {allowed : Place} {form : List Place} {chars : List Char}
    (hfits : fits form chars = true) (hpermits : Permits allowed form) :
    ∀ c ∈ chars, allowed c = true := by
  induction form generalizing chars with
  | nil =>
      cases chars with
      | nil => simp
      | cons first rest => simp [fits] at hfits
  | cons place form ih =>
      cases chars with
      | nil => simp
      | cons first rest =>
          obtain ⟨hfirst, hrest⟩ := Bool.and_eq_true_iff.mp hfits
          obtain ⟨hthis, hothers⟩ := List.forall_mem_cons.mp hpermits
          exact List.forall_mem_cons.mpr ⟨hthis first hfirst, ih hrest hothers⟩

/-- A character that has no place in a form is in no text of that form. -/
theorem notMem_of_fits {form : List Place} {chars : List Char} {c : Char}
    (hfits : fits form chars = true) (hplace : ∀ place ∈ form, place c = false) : c ∉ chars := by
  have hpermits : Permits (fun d => d != c) form := by
    intro place hmem d hd
    rw [bne_iff_ne]
    rintro rfl
    rw [hplace place hmem] at hd
    exact absurd hd (by simp)
  intro hc
  have hne := forall_of_fits hfits hpermits c hc
  simp at hne

theorem notMem_of_isValid {id : String} {c : Char} (hvalid : isValid id = true)
    (hplace : ∀ place ∈ contentForm ++ otherForm, place c = false) : c ∉ id.toList := by
  obtain ⟨hcontent, hother⟩ := List.forall_mem_append.mp hplace
  rcases Bool.or_eq_true_iff.mp hvalid with hfits | hfits
  · exact notMem_of_fits hfits hcontent
  · exact notMem_of_fits hfits hother

/-! ## The parts of an identifier -/

/-- A text begins with what its form fixes first, and goes on in the rest of the form. -/
theorem exists_eq_append_of_fits {text : List Char} {form : List Place} {chars : List Char}
    (hfits : fits (fixedPlaces text ++ form) chars = true) :
    ∃ rest, chars = text ++ rest ∧ fits form rest = true := by
  induction text generalizing chars with
  | nil => exact ⟨chars, rfl, hfits⟩
  | cons expected text ih =>
      cases chars with
      | nil => cases hfits
      | cons first chars =>
          obtain ⟨hfirst, hrest⟩ := Bool.and_eq_true_iff.mp hfits
          obtain ⟨rest, rfl, hform⟩ := ih hrest
          exact ⟨rest, by rw [eq_of_beq hfirst, List.cons_append], hform⟩

/-- The characters of the two parts, and what separates them. -/
structure Parts (id : String) (authority suffix : List Char) : Prop where
  eq : id.toList = authority ++ '/' :: suffix
  authority : '/' ∉ authority
  suffix : '/' ∉ suffix

theorem exists_parts_of_isContent {id : String} (h : isContent id = true) :
    ∃ suffix, Parts id ['1', '0', '.', '5', '2', '4', '0'] suffix := by
  rw [isContent, contentForm, List.append_assoc] at h
  obtain ⟨suffix, hchars, hform⟩ := exists_eq_append_of_fits h
  exact ⟨suffix, hchars, by decide, notMem_of_fits hform (by decide)⟩

theorem exists_parts_of_isOther {id : String} (h : isOther id = true) :
    ∃ digit suffix, (digit = '7' ∨ digit = '9') ∧
      Parts id ['1', '0', '.', '5', '2', '3', digit] suffix := by
  rw [isOther, otherForm, List.append_assoc, List.append_assoc, List.append_assoc] at h
  obtain ⟨more, hchars, hmore⟩ := exists_eq_append_of_fits h
  cases more with
  | nil => cases hmore
  | cons digit more =>
      obtain ⟨hdigit, hrest⟩ := Bool.and_eq_true_iff.mp hmore
      have hcases : digit = '7' ∨ digit = '9' := by simpa using hdigit
      obtain ⟨suffix, rfl, hform⟩ := exists_eq_append_of_fits hrest
      refine ⟨digit, suffix, hcases, hchars, ?_, notMem_of_fits hform (by decide)⟩
      rcases hcases with rfl | rfl <;> decide

namespace Parts

variable {id : String} {front back : List Char}

theorem authority_eq (h : Parts id front back) : Identifier.authority id = String.ofList front := by
  have hplain : ∀ c ∈ front, decide (c ≠ '/') = true := by
    intro c hc
    exact decide_eq_true fun heq => h.authority (heq ▸ hc)
  rw [Identifier.authority, h.eq, List.takeWhile_append_of_pos hplain, List.takeWhile_cons_of_neg]
  · rw [List.append_nil]
  · decide

theorem count_eq (h : Parts id front back) : id.toList.count '/' = 1 := by
  rw [h.eq, List.count_append, List.count_cons_self, List.count_eq_zero_of_not_mem h.authority,
    List.count_eq_zero_of_not_mem h.suffix]

end Parts

theorem authority_of_isContent {id : String} (hcontent : isContent id = true) :
    authority id = "10.5240" := by
  obtain ⟨suffix, hparts⟩ := exists_parts_of_isContent hcontent
  exact hparts.authority_eq

theorem authority_cases {id : String} (hvalid : isValid id = true) :
    authority id = "10.5240" ∨ authority id = "10.5237" ∨ authority id = "10.5239" := by
  rcases Bool.or_eq_true_iff.mp hvalid with hcontent | hother
  · exact .inl (authority_of_isContent hcontent)
  · obtain ⟨digit, suffix, hdigit, hparts⟩ := exists_parts_of_isOther hother
    rcases hdigit with rfl | rfl
    · exact .inr (.inl hparts.authority_eq)
    · exact .inr (.inr hparts.authority_eq)

theorem count_slash_of_isValid {id : String} (hvalid : isValid id = true) :
    id.toList.count '/' = 1 := by
  rcases Bool.or_eq_true_iff.mp hvalid with hcontent | hother
  · obtain ⟨suffix, hparts⟩ := exists_parts_of_isContent hcontent
    exact hparts.count_eq
  · obtain ⟨digit, suffix, -, hparts⟩ := exists_parts_of_isOther hother
    exact hparts.count_eq

/-! ## The characters of an identifier -/

/-- A slash, a point, a hyphen, or a letter or digit of ASCII. -/
def identifierPlace : Place := fun c => c == '/' || c == '.' || c == '-' || c.isAlphanum

theorem isAlphanum_of_checkPlace {c : Char} (h : checkPlace c = true) : c.isAlphanum = true := by
  show ((c.isUpper || c.isLower) || c.isDigit) = true
  rcases (Bool.or_eq_true _ _).mp h with hdigit | hletter
  · have hisDigit : c.isDigit = true := hdigit
    rw [hisDigit, Bool.or_true]
  · rw [Bool.and_eq_true, decide_eq_true_eq, decide_eq_true_eq] at hletter
    have hisUpper : c.isUpper = true := decide_eq_true hletter
    rw [hisUpper, Bool.true_or, Bool.true_or]

theorem isAlphanum_of_hexPlace {c : Char} (h : hexPlace c = true) : c.isAlphanum = true := by
  apply isAlphanum_of_checkPlace
  simp only [hexPlace, checkPlace, Bool.or_eq_true, Bool.and_eq_true, decide_eq_true_eq] at h ⊢
  rcases h with hdigit | ⟨hlower, hupper⟩
  · exact .inl hdigit
  · exact .inr ⟨hlower, Char.le_trans hupper (by decide)⟩

theorem identifierPlace_of_isAlphanum {c : Char} (h : c.isAlphanum = true) :
    identifierPlace c = true := by
  rw [identifierPlace, h, Bool.or_true]

theorem permits_hexPlaces (count : Nat) : Permits identifierPlace (List.replicate count hexPlace) :=
  permits_replicate count fun _ hc => identifierPlace_of_isAlphanum (isAlphanum_of_hexPlace hc)

theorem permits_groupPlaces : Permits identifierPlace groupPlaces :=
  permits_append (permits_hexPlaces 4) (permits_fixedPlaces (by decide))

theorem permits_contentForm : Permits identifierPlace contentForm := by
  refine permits_append (permits_append (permits_fixedPlaces (by decide)) ?groups) ?check
  case groups =>
    intro place hplace
    obtain ⟨group, hgroup, hmem⟩ := List.mem_flatten.mp hplace
    rw [List.eq_of_mem_replicate hgroup] at hmem
    exact permits_groupPlaces place hmem
  case check =>
    exact permits_replicate 1 fun _ hc => identifierPlace_of_isAlphanum (isAlphanum_of_checkPlace hc)

theorem permits_otherForm : Permits identifierPlace otherForm := by
  refine permits_append (permits_append (permits_append (permits_append (permits_fixedPlaces (by decide))
    (permits_replicate 1 ?digit)) (permits_fixedPlaces (by decide))) permits_groupPlaces)
    (permits_hexPlaces 4)
  intro c hc
  have hcases : c = '7' ∨ c = '9' := by simpa using hc
  rcases hcases with rfl | rfl <;> decide

/-- Besides its slash an identifier has letters, digits, points and hyphens only. -/
theorem identifierPlace_of_mem {id : String} (hvalid : isValid id = true) {c : Char}
    (hc : c ∈ id.toList) : identifierPlace c = true := by
  rcases Bool.or_eq_true_iff.mp hvalid with hcontent | hother
  · exact forall_of_fits hcontent permits_contentForm c hc
  · exact forall_of_fits hother permits_otherForm c hc

end RegistryClient.Identifier
