import RegistryClient.Proofs.Json
import RegistryClient.Proofs.Json.Fields
import RegistryClient.Proofs.Response.Reading

/-!
# The verdict of a status

A document is read for its status before it is read for a record or a page, so whatever stands
beside a refusal is never looked at (`verdict_before_payload`).

The verdict depends on one text, that of the status's code.  A code may be wrapped as the value
of a record, which may be wrapped again; `HasText` says what its text is without saying how it is
looked for.  The code `0`, and no status at all, is success.  Any other text refuses, and where
there is no text, for whatever reason, the response is not understood.  So a status of another
form than expected is never taken for success.
-/

namespace RegistryClient.Response

/-! ## The text of a scalar -/

/-- The value is a scalar with this text, or a record whose value has it. -/
inductive HasText : Json → String → Prop where
  | string (text : String) : HasText (.string text) (Text.trim text)
  | number (value : Number) : HasText (.number value) value.text
  | true : HasText (.bool true) "true"
  | false : HasText (.bool false) "false"
  | wrapped {fields : Fields} {value : Json} {text : String} :
      fields.get? "value" = some value → HasText value text → HasText (.object fields) text

theorem HasText.scalarText?_eq {value : Json} {text : String} (h : HasText value text) :
    scalarText? value = some text := by
  induction h with
  | wrapped hvalue _ ih =>
      rw [scalarText?_object]
      exact Option.bind_eq_some_iff.mpr ⟨_, hvalue, ih⟩
  | _ => rfl

theorem hasText_of_scalarText? {value : Json} {text : String}
    (h : scalarText? value = some text) : HasText value text := by
  induction value using Json.induct generalizing text with
  | scalar value hscalar =>
      cases value with
      | null => cases h
      | bool value =>
          cases value with
          | false =>
              obtain rfl := Option.some.inj h
              exact .false
          | true =>
              obtain rfl := Option.some.inj h
              exact .true
      | number value =>
          obtain rfl := Option.some.inj h
          exact .number value
      | string given =>
          obtain rfl := Option.some.inj h
          exact .string given
      | array items => cases hscalar
      | object fields => cases hscalar
  | array items _ => cases h
  | object fields ih =>
      rw [scalarText?_object] at h
      obtain ⟨value, hvalue, htext⟩ := Option.bind_eq_some_iff.mp h
      exact .wrapped hvalue (ih (Record.valueKey, value) (Fields.mem_of_get? hvalue) htext)

theorem scalarText?_eq_some_iff {value : Json} {text : String} :
    scalarText? value = some text ↔ HasText value text :=
  ⟨hasText_of_scalarText?, HasText.scalarText?_eq⟩

/-! ## Statuses without a code -/

/-- The status has no code to read: it is no object, or its code is not there or is one of the
values without text, or is blank. -/
inductive Codeless : Json → Prop where
  | notObject {status : Json} : (∀ fields, status ≠ .object fields) → Codeless status
  | missing {status : Json} : status.get? "Code" = none → Codeless status
  | null {status : Json} : status.get? "Code" = some .null → Codeless status
  | array {status : Json} {items : List Json} : status.get? "Code" = some (.array items) →
      Codeless status
  | blank {status code : Json} : status.get? "Code" = some code → HasText code "" →
      Codeless status
  | empty {status : Json} {fields : Fields} : status.get? "Code" = some (.object fields) →
      (∀ text, ¬ HasText (.object fields) text) → Codeless status

theorem Codeless.eq_empty {status : Json} (h : Codeless status) {code : String}
    (hcode : textAt? "Code" status = some code) : code = "" := by
  obtain ⟨scalar, hget, htext⟩ := textAt?_eq_some_iff.mp hcode
  cases h with
  | notObject hnot =>
      cases status with
      | object fields => exact absurd rfl (hnot fields)
      | _ => cases hget
  | missing hnone =>
      rw [hnone] at hget
      cases hget
  | null hnull =>
      rw [hnull] at hget
      obtain rfl := Option.some.inj hget
      cases htext
  | array harray =>
      rw [harray] at hget
      obtain rfl := Option.some.inj hget
      cases htext
  | blank hblank hempty =>
      rw [hblank] at hget
      obtain rfl := Option.some.inj hget
      rw [hempty.scalarText?_eq] at htext
      exact (Option.some.inj htext).symm
  | empty hobject hnone =>
      rw [hobject] at hget
      obtain rfl := Option.some.inj hget
      exact absurd (hasText_of_scalarText? htext) (hnone code)

/-- A status whose code has a text that is not blank is the only other kind. -/
theorem codeless_or_exists_code (status : Json) : Codeless status ∨
    ∃ code text, status.get? "Code" = some code ∧ HasText code text ∧ text ≠ "" := by
  cases hget : status.get? "Code" with
  | none => exact .inl (.missing hget)
  | some code =>
      cases htext : scalarText? code with
      | some text =>
          by_cases hblank : text = ""
          · subst hblank
            exact .inl (.blank hget (hasText_of_scalarText? htext))
          · exact .inr ⟨code, text, rfl, hasText_of_scalarText? htext, hblank⟩
      | none =>
          left
          cases code with
          | null => exact .null hget
          | array items => exact .array hget
          | object fields =>
              refine .empty hget fun text hwrapped => ?_
              rw [hwrapped.scalarText?_eq] at htext
              cases htext
          | bool value => cases value <;> cases htext
          | number value => cases htext
          | string text => cases htext

/-! ## The verdict -/

/-- What checking the status of an envelope comes to. -/
structure VerdictByCode (envelope : Json) : Prop where
  succeeds_iff : checkStatus envelope = .ok () ↔ envelope.get? "Status" = none ∨
    ∃ status code, envelope.get? "Status" = some status ∧ status.get? "Code" = some code ∧
      HasText code "0"
  refuses : ∀ {status code : Json} {text : String}, envelope.get? "Status" = some status →
    status.get? "Code" = some code → HasText code text → text ≠ "" → text ≠ "0" →
      ∃ message, checkStatus envelope = .error (.registry text message)
  notUnderstood : ∀ {status : Json}, envelope.get? "Status" = some status → Codeless status →
    ∃ detail, checkStatus envelope = .error (.unrecognizedResponse detail)
  /-- There is no other kind of status. -/
  covers : ∀ {status : Json}, envelope.get? "Status" = some status → Codeless status ∨
    ∃ code text, status.get? "Code" = some code ∧ HasText code text ∧ text ≠ ""

theorem verdictByCode (envelope : Json) : VerdictByCode envelope where
  succeeds_iff := by
    rw [checkStatus_eq_ok_iff, Succeeds]
    simp only [scalarText?_eq_some_iff]
    rfl
  refuses := by
    intro status code text hstatus hcode htext hblank hsuccess
    have hat : textAt? "Code" status = some text :=
      textAt?_eq_some_iff.mpr ⟨code, hcode, htext.scalarText?_eq⟩
    exact ⟨_, checkStatus_eq_error_iff.mpr
      (.inl ⟨text, _, ⟨status, hstatus, hat, hblank, hsuccess, rfl⟩, rfl⟩)⟩
  notUnderstood := by
    intro status hstatus hcodeless
    exact ⟨_, checkStatus_eq_error_iff.mpr
      (.inr ⟨⟨status, hstatus, fun code => hcodeless.eq_empty⟩, rfl⟩)⟩
  covers := fun {status} _ => codeless_or_exists_code status

/-- A reader that checks the status first has its fault, and no other fault of the registry. -/
theorem StatusFirst.verdict {α : Type} {read : Json → Except Fault α} (h : StatusFirst read)
    (document : Json) :
    (∀ fault, checkStatus (envelope document) = .error fault → read document = .error fault) ∧
      (checkStatus (envelope document) = .ok () →
        ∀ code message, read document ≠ .error (.registry code message)) := by
  refine ⟨fun fault => h.status, fun hstatus code message hread => ?_⟩
  have hrefuses := h.eq_registry_iff.mp hread
  rw [checkStatus_eq_error_iff.mpr (.inl ⟨code, message, hrefuses, rfl⟩)] at hstatus
  cases hstatus

/-- **A failure of the registry is never read as success**, whether a record or a page is read
from the document: the verdict on its status comes first and is passed on unchanged, and only a
code that reads `0`, or no status at all, is success. -/
theorem verdict_before_payload :
    (∀ (document : Json) (plan : Resolution.Plan) (format : ResultFormat),
      (∀ fault, checkStatus (envelope document) = .error fault →
        extract plan document = .error fault ∧ queryPage format document = .error fault) ∧
      (checkStatus (envelope document) = .ok () → ∀ code message,
        extract plan document ≠ .error (.registry code message) ∧
          queryPage format document ≠ .error (.registry code message))) ∧
      ∀ part : Json, VerdictByCode part := by
  refine ⟨fun document plan format => ?_, verdictByCode⟩
  obtain ⟨hrecordFault, hrecordSuccess⟩ := (statusFirst_extract plan).verdict document
  obtain ⟨hpageFault, hpageSuccess⟩ := (statusFirst_queryPage format).verdict document
  refine ⟨fun fault hfault => ⟨hrecordFault fault hfault, hpageFault fault hfault⟩, ?_⟩
  intro hstatus code message
  exact ⟨hrecordSuccess hstatus code message, hpageSuccess hstatus code message⟩

/-- A refusal, its code wrapped twice, beside a record that could be read. -/
def refusalBesideRecord : Json :=
  .object [("Response", .object [("SimpleMetadata", .object [("ID", .string "x")]),
    ("Status", .object [("Code", .object [("value", .object [("value", .string " 3\n")])]),
      ("Details", .string "gone")])])]

theorem verdict_before_payload_refused :
    checkStatus (envelope refusalBesideRecord) = .error (.registry "3" "gone") ∧
      ∀ plan format, extract plan refusalBesideRecord = .error (.registry "3" "gone") ∧
        queryPage format refusalBesideRecord = .error (.registry "3" "gone") := by
  have hstatus : checkStatus (envelope refusalBesideRecord) = .error (.registry "3" "gone") := by
    decide +kernel
  exact ⟨hstatus, fun plan format =>
    (verdict_before_payload.1 refusalBesideRecord plan format).1 _ hstatus⟩

end RegistryClient.Response
