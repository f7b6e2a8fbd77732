import RegistryClient.Proofs.Outcome
import RegistryClient.Response.Payload

/-!
# Reading responses

When a response is read with success and what is read then: `extract_eq_ok_iff` for the
record of a resolution and `queryPage_eq_ok_iff` for a page of query results.  Both ask for
the status first (`Succeeds`); a page also asks for a count (`IsCount`).

Reading fails with the registry's fault when the status refuses, and otherwise because the
response is not understood.  Both readers have this from `StatusFirst`, which changing what is
read keeps.
-/

namespace RegistryClient.Response

theorem fields?_eq_some_iff {value : Json} {fields : Fields} :
    fields? value = some fields ↔ value = .object fields := by
  cases value <;> simp [fields?]

theorem bind_fields?_eq_some_iff {value : Option Json} {fields : Fields} :
    value.bind fields? = some fields ↔ value = some (.object fields) := by
  simp [Option.bind_eq_some_iff, fields?_eq_some_iff]

/-! ## Scalars -/

theorem wrappedText?_eq_bind (fields : Fields) :
    wrappedText? fields = (Fields.get? Record.valueKey fields).bind scalarText? := by
  induction fields with
  | nil => rfl
  | cons field rest ih =>
      obtain ⟨key, value⟩ := field
      by_cases hkey : key = Record.valueKey
      · rw [wrappedText?, Fields.get?, if_pos hkey, if_pos hkey, Option.bind_some]
      · rw [wrappedText?, Fields.get?, if_neg hkey, if_neg hkey, ih]

theorem scalarText?_object (fields : Fields) :
    scalarText? (.object fields) = (Fields.get? Record.valueKey fields).bind scalarText? := by
  rw [scalarText?, wrappedText?_eq_bind]

/-! ## The status -/

/-- There is no status, or its code reads as success. -/
def Succeeds (envelope : Json) : Prop :=
  envelope.get? "Status" = none ∨ ∃ status code, envelope.get? "Status" = some status ∧
    status.get? "Code" = some code ∧ scalarText? code = some successCode

theorem textAt?_eq_some_iff {key text : String} {value : Json} :
    textAt? key value = some text ↔
      ∃ scalar, value.get? key = some scalar ∧ scalarText? scalar = some text :=
  Option.bind_eq_some_iff

theorem checkStatus_eq_ok_iff {envelope : Json} :
    checkStatus envelope = .ok () ↔ Succeeds envelope := by
  have hcode : ∀ status, (∃ code, status.get? "Code" = some code ∧
      scalarText? code = some successCode) ↔ textAt? "Code" status = some successCode :=
    fun _ => textAt?_eq_some_iff.symm
  unfold checkStatus Succeeds
  simp only [exists_and_left, hcode]
  cases envelope.get? "Status" with
  | none => simp
  | some status =>
      cases htext : textAt? "Code" status with
      | none => simp [htext]
      | some text =>
          have hnotBlank : successCode ≠ "" := by decide
          by_cases hsuccess : text = successCode
          · simp [htext, hsuccess, hnotBlank]
          · by_cases hblank : text = ""
            · simp [htext, hblank, hnotBlank.symm]
            · simp [htext, hblank, hsuccess]

/-- The envelope has a status with the code of a failure, and this is what it says. -/
def Refuses (envelope : Json) (code message : String) : Prop :=
  ∃ status, envelope.get? "Status" = some status ∧ textAt? "Code" status = some code ∧
    code ≠ "" ∧ code ≠ successCode ∧ message = statusMessage status

/-- The envelope has a status whose code has no text. -/
def LacksCode (envelope : Json) : Prop :=
  ∃ status, envelope.get? "Status" = some status ∧
    ∀ code, textAt? "Code" status = some code → code = ""

/-- A status that is no success is a failure with its code, or is not understood. -/
theorem checkStatus_eq_error_iff {envelope : Json} {fault : Fault} :
    checkStatus envelope = .error fault ↔
      (∃ code message, Refuses envelope code message ∧ fault = .registry code message) ∨
        LacksCode envelope ∧ fault = ResponseFault.noStatusCode.toFault := by
  unfold checkStatus Refuses LacksCode
  cases envelope.get? "Status" with
  | none => simp
  | some status =>
      cases htext : textAt? "Code" status with
      | none => simp [htext, eq_comm]
      | some text =>
          by_cases hblank : text = ""
          · simp [htext, hblank, eq_comm]
          by_cases hsuccess : text = successCode
          · simp [htext, hsuccess, successCode]
          · simp [htext, hblank, hsuccess, eq_comm]

/-! ## The count -/

/-- The text is a decimal numeral, perhaps after a plus sign, of a number that fits in 64 bits. -/
def IsCount (text : String) (total : Nat) : Prop :=
  ∃ digits : List Char, digits ≠ [] ∧ (∀ digit ∈ digits, digit.isDigit = true) ∧
    (text.toList = digits ∨ text.toList = '+' :: digits) ∧
    total = Nat.ofDigitChars 10 digits 0 ∧ total < Nat.pow 2 64

theorem le_greatestCount_iff {total : Nat} : total ≤ greatestCount ↔ total < Nat.pow 2 64 := by
  have hgreatest : greatestCount = Nat.pow 2 64 - 1 := rfl
  have hpositive : 0 < Nat.pow 2 64 := by decide
  rw [hgreatest]
  exact Nat.le_sub_one_iff_lt hpositive

theorem readDigits_eq_some_iff {digits : List Char} {total : Nat} :
    (if digits.isEmpty || !digits.all Char.isDigit then none
      else if Nat.ofDigitChars 10 digits 0 ≤ greatestCount then
        some (Nat.ofDigitChars 10 digits 0) else none) = some total ↔
      digits ≠ [] ∧ (∀ digit ∈ digits, digit.isDigit = true) ∧
        total = Nat.ofDigitChars 10 digits 0 ∧ total < Nat.pow 2 64 := by
  have hnumeral : ¬ (digits.isEmpty || !digits.all Char.isDigit) = true ↔
      digits ≠ [] ∧ ∀ digit ∈ digits, digit.isDigit = true := by
    simp
  rw [← le_greatestCount_iff, ← and_assoc, ← hnumeral]
  by_cases hother : (digits.isEmpty || !digits.all Char.isDigit) = true
  · rw [if_pos hother]
    simp only [hother, reduceCtorEq, not_true_eq_false, false_and]
  · rw [if_neg hother, and_iff_right hother]
    by_cases hfits : Nat.ofDigitChars 10 digits 0 ≤ greatestCount
    · rw [if_pos hfits, Option.some.injEq]
      constructor
      · rintro rfl
        exact ⟨rfl, hfits⟩
      · rintro ⟨rfl, -⟩
        rfl
    · rw [if_neg hfits]
      constructor
      · intro h
        cases h
      · rintro ⟨rfl, hle⟩
        exact absurd hle hfits

theorem ne_plus_cons {digits rest : List Char} (h : ∀ digit ∈ digits, digit.isDigit = true) :
    digits ≠ '+' :: rest := by
  rintro rfl
  exact absurd (h '+' (List.mem_cons_self ..)) (by decide)

theorem count?_eq_some_iff {text : String} {total : Nat} :
    count? text = some total ↔ IsCount text total := by
  unfold count? IsCount
  split
  · next digits htext =>
      rw [readDigits_eq_some_iff, htext]
      constructor
      · rintro ⟨hne, hdigits, htotal⟩
        exact ⟨digits, hne, hdigits, Or.inr rfl, htotal⟩
      · rintro ⟨others, hne, hothers, hplain | hsigned, htotal⟩
        · exact absurd hplain.symm (ne_plus_cons hothers)
        · obtain ⟨-, rfl⟩ := List.cons.inj hsigned
          exact ⟨hne, hothers, htotal⟩
  · next hunsigned =>
      rw [readDigits_eq_some_iff]
      constructor
      · rintro ⟨hne, hdigits, htotal⟩
        exact ⟨text.toList, hne, hdigits, Or.inl rfl, htotal⟩
      · rintro ⟨digits, hne, hdigits, hplain | hsigned, htotal⟩
        · rw [hplain]
          exact ⟨hne, hdigits, htotal⟩
        · exact absurd hsigned (hunsigned digits)

/-! ## Records and pages -/

theorem extract_eq_ok_iff {plan : Resolution.Plan} {document record : Json} :
    extract plan document = .ok record ↔ Succeeds (envelope document) ∧
      ∃ fields, recordIn? plan.extraction (envelope document) = some fields ∧
        record = Record.normalize (.object fields) := by
  constructor
  · intro h
    obtain ⟨⟨⟩, hstatus, hread⟩ := Outcome.bind_eq_ok_iff.mp h
    refine ⟨checkStatus_eq_ok_iff.mp hstatus, ?_⟩
    cases hrecord : recordIn? plan.extraction (envelope document) with
    | none =>
        rw [hrecord] at hread
        cases hread
    | some fields =>
        rw [hrecord] at hread
        exact ⟨fields, rfl, (Except.ok.inj hread).symm⟩
  · rintro ⟨hstatus, fields, hrecord, hnormal⟩
    refine Outcome.bind_eq_ok_iff.mpr ⟨(), checkStatus_eq_ok_iff.mpr hstatus, ?_⟩
    rw [hrecord, hnormal]
    rfl

/-- The envelope has query results with a count, and the page is made of these. -/
def HasPage (format : ResultFormat) (envelope : Json) (page : QueryPage) : Prop :=
  ∃ (results : Fields) (count : Json) (text : String),
    envelope.get? "QueryResults" = some (.object results) ∧
      results.get? "TotalMatches" = some count ∧ scalarText? count = some text ∧
      IsCount text page.totalMatches ∧
      page.results = (toList (results.get? format.listKey)).map resultOf

theorem queryPage_eq_ok_iff {format : ResultFormat} {document : Json} {page : QueryPage} :
    queryPage format document = .ok page ↔
      Succeeds (envelope document) ∧ HasPage format (envelope document) page := by
  constructor
  · intro h
    obtain ⟨⟨⟩, hstatus, hread⟩ := Outcome.bind_eq_ok_iff.mp h
    refine ⟨checkStatus_eq_ok_iff.mp hstatus, ?_⟩
    cases hresults : ((envelope document).get? "QueryResults").bind fields? with
    | none =>
        rw [hresults] at hread
        cases hread
    | some results =>
        cases htotal : ((results.get? "TotalMatches").bind scalarText?).bind count? with
        | none =>
            simp only [hresults, htotal] at hread
            cases hread
        | some total =>
            simp only [hresults, htotal] at hread
            obtain rfl := Except.ok.inj hread
            obtain ⟨text, htext, hcount⟩ := Option.bind_eq_some_iff.mp htotal
            obtain ⟨count, hget, hscalar⟩ := Option.bind_eq_some_iff.mp htext
            exact ⟨results, count, text, bind_fields?_eq_some_iff.mp hresults, hget, hscalar,
              count?_eq_some_iff.mp hcount, rfl⟩
  · rintro ⟨hstatus, results, count, text, hresults, hget, hscalar, hcount, hlist⟩
    refine Outcome.bind_eq_ok_iff.mpr ⟨(), checkStatus_eq_ok_iff.mpr hstatus, ?_⟩
    have htotal : ((results.get? "TotalMatches").bind scalarText?).bind count? =
        some page.totalMatches := by
      rw [hget, Option.bind_some, hscalar, Option.bind_some, count?_eq_some_iff.mpr hcount]
    simp only [bind_fields?_eq_some_iff.mpr hresults, htotal, ← hlist]
    rfl

/-! ## How reading fails -/

/-- The status of a document is checked before anything else in it is read, and what is read
then fails only because it is not understood. -/
structure StatusFirst {α : Type} (read : Json → Except Fault α) : Prop where
  status : ∀ {document fault}, checkStatus (envelope document) = .error fault →
    read document = .error fault
  later : ∀ {document fault}, read document = .error fault →
    checkStatus (envelope document) = .error fault ∨ ∃ cause : ResponseFault, fault = cause.toFault

section StatusFirst

variable {α β : Type} {read : Json → Except Fault α}

theorem statusFirst_bind {next : Json → Unit → Except Fault α}
    (hnext : ∀ {document fault}, next document () = .error fault →
      ∃ cause : ResponseFault, fault = cause.toFault) :
    StatusFirst fun document => checkStatus (envelope document) >>= next document where
  status := fun hstatus => Outcome.bind_eq_error_iff.mpr (.inl hstatus)
  later := fun hread => by
    rcases Outcome.bind_eq_error_iff.mp hread with hstatus | ⟨⟨⟩, -, hfault⟩
    · exact .inl hstatus
    · exact .inr (hnext hfault)

theorem statusFirst_extract (plan : Resolution.Plan) : StatusFirst (extract plan) := by
  refine statusFirst_bind fun {document fault} hfault => ?_
  split at hfault
  · cases hfault
  · exact ⟨_, (Except.error.inj hfault).symm⟩

theorem statusFirst_queryPage (format : ResultFormat) : StatusFirst (queryPage format) := by
  refine statusFirst_bind fun {document fault} hfault => ?_
  split at hfault
  · exact ⟨_, (Except.error.inj hfault).symm⟩
  · split at hfault
    · exact ⟨_, (Except.error.inj hfault).symm⟩
    · cases hfault

theorem StatusFirst.map (h : StatusFirst read) (change : α → β) :
    StatusFirst fun document => (read document).map change where
  status := fun hstatus => Outcome.map_eq_error_iff.mpr (h.status hstatus)
  later := fun hread => h.later (Outcome.map_eq_error_iff.mp hread)

/-- Reading fails with the registry's fault exactly when the status says so. -/
theorem StatusFirst.eq_registry_iff (h : StatusFirst read) {document : Json}
    {code message : String} :
    read document = .error (.registry code message) ↔
      Refuses (envelope document) code message := by
  constructor
  · intro hread
    rcases h.later hread with hstatus | ⟨cause, hcause⟩
    · rcases checkStatus_eq_error_iff.mp hstatus with ⟨_, _, hrefuses, hfault⟩ | ⟨-, hfault⟩
      · obtain ⟨rfl, rfl⟩ := Fault.registry.inj hfault
        exact hrefuses
      · cases hfault
    · cases hcause
  · intro hrefuses
    exact h.status (checkStatus_eq_error_iff.mpr (.inl ⟨code, message, hrefuses, rfl⟩))

/-- Every other fault of reading says that the response is not understood. -/
theorem StatusFirst.kind_eq (h : StatusFirst read) {document : Json} {fault : Fault}
    (hread : read document = .error fault)
    (hother : ∀ code message, ¬ Refuses (envelope document) code message) :
    fault.kind = .unrecognizedResponse := by
  rcases h.later hread with hstatus | ⟨cause, rfl⟩
  · rcases checkStatus_eq_error_iff.mp hstatus with ⟨code, message, hrefuses, -⟩ | ⟨-, rfl⟩
    · exact absurd hrefuses (hother code message)
    · rfl
  · rfl

end StatusFirst

end RegistryClient.Response
