import RegistryClient.Proofs.Response.Attributes

/-!
# Reading documents with attributes on scalars

Attributes are added to the scalars of a response, and both documents are read: their status is
checked, and a page of query results is taken from them.  The outcome is the same, with one
exception (`reading_of_marked`).

A failure tells its details or, where there are none, its type.  Details that are empty are there
all the same, and the failure has no message.  With attributes they count as missing, so that the
type is told instead: `type_told_for_empty_details`.  A code is not read in this way, since an empty
code is refused as a missing one is; nor is a count, since an empty text is no numeral.

What is in the matches of a query becomes part of the page, attributes and all.  So the page is
compared for attributes that are added outside of the matches (`LeavesMatches`).
-/

namespace RegistryClient.Response

open Xml (Element Attribute)

variable {kept : String → String → Prop} {around : String}

/-! ## The status -/

/-- The details of the first status are an empty text that the second status has lost, and the
type that stands in for missing details has some text. -/
structure LosesDetails (status other : Json) (type : String) : Prop where
  details : status.get? "Details" = some (.string "")
  lost : textAt? "Details" other = none
  type_eq : textAt? "Type" status = some type
  type_ne : type ≠ ""

theorem LosesDetails.statusMessage_eq {status other : Json} {type : String}
    (h : LosesDetails status other type) : statusMessage status = "" := by
  rw [statusMessage, textAt?_of_empty h.details]
  rfl

section Status

variable {first second : Element} (h : Marked kept around first second) {status other : Json}
  (hstatus : first.toJson = .ok status) (hother : second.toJson = .ok other)
include h hstatus hother

theorem statusMessage_of_losesDetails {type : String} (hloses : LosesDetails status other type) :
    statusMessage other = type := by
  have htype : textAt? "Type" other = some type :=
    (textAt?_marked_iff h hstatus hother "Type" (by decide) hloses.type_ne).mpr hloses.type_eq
  rw [statusMessage, hloses.lost, htype]
  rfl

theorem statusMessage_marked (hnone : ∀ type, ¬ LosesDetails status other type) :
    statusMessage other = statusMessage status := by
  -- an empty type and a missing one come to the same message
  have htype : (textAt? "Type" other).getD "" = (textAt? "Type" status).getD "" := by
    rcases textAt?_marked h hstatus hother "Type" (by decide) with hsame | ⟨hempty, hlost⟩
    · rw [hsame]
    · rw [hlost, textAt?_of_empty hempty]
      rfl
  unfold statusMessage
  rcases textAt?_marked h hstatus hother "Details" (by decide) with hsame | ⟨hempty, hlost⟩
  · rw [hsame]
    cases textAt? "Details" status with
    | none => exact htype
    | some details => rfl
  · rw [hlost, textAt?_of_empty hempty, Option.none_or, htype]
    cases hblank : textAt? "Type" status with
    | none => rfl
    | some type =>
        by_contra hne
        exact hnone type ⟨hempty, hlost, hblank, hne⟩

end Status

def StatusLosesDetails (envelope marked : Json) (type : String) : Prop :=
  ∃ status other, envelope.get? "Status" = some status ∧ marked.get? "Status" = some other ∧
    LosesDetails status other type

section Envelopes

variable {children : List Element} {envelope marked : Json}
  (h : MarkedField kept around children (envelope.get? "Status") (marked.get? "Status"))
include h

theorem refuses_of_losesDetails {code type : String} (hrefuses : Refuses envelope code "")
    (hloses : StatusLosesDetails envelope marked type) : Refuses marked code type := by
  obtain ⟨status, hget, hcode, hne, hfailure, -⟩ := hrefuses
  obtain ⟨_, other, hstatus, hother, hloses⟩ := hloses
  obtain rfl := Option.some.inj (hget.symm.trans hstatus)
  rw [hget, hother] at h
  cases h with
  | lone _ hmarks hvalue hmarked =>
      have hsame : textAt? "Code" other = some code :=
        (textAt?_marked_iff hmarks hvalue hmarked "Code" (by decide) hne).mpr hcode
      have hmessage := statusMessage_of_losesDetails hmarks hvalue hmarked hloses
      exact ⟨other, hother, hsame, hne, hfailure, hmessage.symm⟩
  | several => cases hcode

theorem checkStatus_marked
    (hnone : ∀ code type, Refuses envelope code "" → ¬ StatusLosesDetails envelope marked type) :
    checkStatus marked = checkStatus envelope := by
  unfold checkStatus
  generalize hstatus : envelope.get? "Status" = status at h ⊢
  generalize hother : marked.get? "Status" = other at h ⊢
  cases h with
  | missing => rfl
  | several => rfl
  | @lone _ _ status other _ hmarks hvalue hmarked =>
      rcases textAt?_marked hmarks hvalue hmarked "Code" (by decide) with hsame | ⟨hempty, hlost⟩
      · simp only [hsame]
        cases hcode : textAt? "Code" status with
        | none => rfl
        | some code =>
            by_cases hblank : code = ""
            · simp only [if_pos hblank]
            by_cases hsuccess : code = successCode
            · simp only [if_pos hsuccess]
            have hmessage : statusMessage other = statusMessage status := by
              refine statusMessage_marked hmarks hvalue hmarked fun type hloses => ?_
              exact hnone code type
                ⟨status, hstatus, hcode, hblank, hsuccess, hloses.statusMessage_eq.symm⟩
                ⟨status, other, hstatus, hother, hloses⟩
            simp only [hmessage]
      · simp only [hlost, textAt?_of_empty hempty, if_true]

end Envelopes

/-! ## The page -/

/-- Attributes are added neither to the matches of a query nor to anything in them. -/
def LeavesMatches (kept : String → String → Prop) : Prop :=
  ∀ format : ResultFormat, kept "QueryResults" format.listKey

/-- The elements that are listed as matches. -/
def IsMatch (around name : String) : Prop :=
  around = "QueryResults" ∧ ∃ format : ResultFormat, name = format.listKey

theorem not_isMatch {around name : String} (h : around ≠ "QueryResults") : ¬ IsMatch around name :=
  fun hmatch => h hmatch.1

theorem leavesMatches_isMatch : LeavesMatches IsMatch :=
  fun format => ⟨rfl, format, rfl⟩

theorem queryPage_marked {children : List Element} {document marked : Json}
    (hmatches : LeavesMatches kept)
    (hnames : ∀ child ∈ children, child.name.localName = "QueryResults")
    (h : MarkedField kept around children ((envelope document).get? "QueryResults")
      ((envelope marked).get? "QueryResults"))
    (hstatus : checkStatus (envelope marked) = checkStatus (envelope document))
    (format : ResultFormat) : queryPage format marked = queryPage format document := by
  unfold queryPage
  simp only [hstatus]
  generalize (envelope document).get? "QueryResults" = results at h ⊢
  generalize (envelope marked).get? "QueryResults" = others at h ⊢
  cases h with
  | missing => rfl
  | several => rfl
  | @lone child _ value other hchild hmarks hvalue hmarked =>
      have hname := hnames child hchild
      have hscalar : ¬ IsScalar around child.name.localName := fun his => his.name_ne.2 hname
      rcases fields?_marked hmarks hvalue hmarked hscalar with
        ⟨hnone, hnoneMarked⟩ | ⟨fields, others, rfl, rfl⟩
      · rw [Option.bind_some, Option.bind_some, hnone, hnoneMarked]
      · have hlist : Fields.get? format.listKey others = Fields.get? format.listKey fields :=
          get?_eq_of_kept hmarks hvalue hmarked (listKey_ne format) (hname ▸ hmatches format)
        have hcount : (textAt? "TotalMatches" (.object others)).bind count? =
            (textAt? "TotalMatches" (.object fields)).bind count? := by
          rcases textAt?_marked hmarks hvalue hmarked "TotalMatches" (by decide) with
            hsame | ⟨hempty, hlost⟩
          · rw [hsame]
          · rw [hlost, textAt?_of_empty hempty]
            rfl
        simp only [textAt?, Json.get?] at hcount
        simp only [Option.bind_some, fields?, hlist, hcount]

/-! ## The document -/

theorem markedField_envelope {root other : Element} (h : Marked kept around root other)
    {value marked : Json} (hvalue : root.toJson = .ok value) (hmarked : other.toJson = .ok marked)
    (key : String) (hkey : key ≠ attributesKey ∧ key ≠ Record.valueKey) :
    ∃ around children, (∀ child ∈ children, child.name.localName = key) ∧
      MarkedField kept around children
        ((envelope (.object [(root.name.localName, value)])).get? key)
        ((envelope (.object [(other.name.localName, marked)])).get? key) := by
  rw [h.name_eq]
  by_cases hresponse : root.name.localName = "Response"
  · have hnames : ∀ child ∈ root.childrenNamed key, child.name.localName = key :=
      fun child hchild => (Element.mem_childrenNamed_iff.mp hchild).2
    rw [hresponse]
    exact ⟨_, _, hnames, markedField_get? h hvalue hmarked hkey⟩
  · -- the document is its own envelope, and the root is the only element in it
    have henvelope : ∀ value, envelope (.object [(root.name.localName, value)]) =
        .object [(root.name.localName, value)] := by
      intro value
      simp [envelope, Json.get?, Fields.get?, hresponse]
    rw [henvelope, henvelope]
    by_cases hroot : root.name.localName = key
    · refine ⟨around, [root], List.forall_mem_singleton.mpr hroot, ?_⟩
      rw [hroot]
      simp only [Json.get?, Fields.get?_cons_self]
      exact .lone (List.mem_singleton_self root) h hvalue hmarked
    · have hmissing : ∀ value, Json.get? key (.object [(root.name.localName, value)]) = none := by
        intro value
        simp [Json.get?, Fields.get?, hroot]
      refine ⟨around, [], by simp, ?_⟩
      rw [hmissing, hmissing]
      exact .missing

/-- The first document is a failure without a message, and the status of the second one has lost
the empty details that make it so. -/
def FailureLosesDetails (document marked : Json) (code type : String) : Prop :=
  Refuses (envelope document) code "" ∧
    StatusLosesDetails (envelope document) (envelope marked) type

/-- Both documents have the same outcome, and the same page if the matches are left alone. -/
structure SameReading (kept : String → String → Prop) (document marked : Json) : Prop where
  status : checkStatus (envelope marked) = checkStatus (envelope document)
  page : LeavesMatches kept → ∀ format, queryPage format marked = queryPage format document

/-- Both documents fail with the same code, the first one without a message and the second one
with its type. -/
structure TypeTold (document marked : Json) (code type : String) : Prop where
  status : checkStatus (envelope document) = .error (.registry code "") ∧
    checkStatus (envelope marked) = .error (.registry code type)
  page : ∀ format, queryPage format document = .error (.registry code "") ∧
    queryPage format marked = .error (.registry code type)

/-- **Attributes on scalars do not change how a document is read, but for a failure whose details
are an empty text**: the details are lost, and its type is told in their place. -/
theorem reading_of_marked {root other : Element} (h : Marked kept "" root other) {document : Json}
    (hdocument : root.toDocument = .ok document) :
    ∃ marked, other.toDocument = .ok marked ∧
      ((∀ code type, ¬ FailureLosesDetails document marked code type) →
        SameReading kept document marked) ∧
      ∀ code type, FailureLosesDetails document marked code type →
        TypeTold document marked code type := by
  obtain ⟨value, hvalue, rfl⟩ := Xml.toDocument_eq_ok_iff.mp hdocument
  obtain ⟨inner, hmarked⟩ := h.exists_toJson hvalue
  obtain ⟨_, _, -, hstatus⟩ := markedField_envelope h hvalue hmarked "Status" (by decide)
  obtain ⟨_, _, hnames, hresults⟩ :=
    markedField_envelope h hvalue hmarked "QueryResults" (by decide)
  refine ⟨_, Xml.toDocument_eq_ok_iff.mpr ⟨inner, hmarked, rfl⟩, fun hnone => ?_, ?_⟩
  · have hsame := checkStatus_marked hstatus fun code type hrefuses hloses =>
      hnone code type ⟨hrefuses, hloses⟩
    exact ⟨hsame, fun hmatches => queryPage_marked hmatches hnames hresults hsame⟩
  · rintro code type ⟨hrefuses, hloses⟩
    have hafter := refuses_of_losesDetails hstatus hrefuses hloses
    have hstatusBefore := checkStatus_eq_error_iff.mpr (Or.inl ⟨code, "", hrefuses, rfl⟩)
    have hstatusAfter := checkStatus_eq_error_iff.mpr (Or.inl ⟨code, type, hafter, rfl⟩)
    refine ⟨⟨hstatusBefore, hstatusAfter⟩, fun format => ?_⟩
    have hfirst := statusFirst_queryPage format
    exact ⟨hfirst.status hstatusBefore, hfirst.status hstatusAfter⟩

def languageAttribute : Attribute := ⟨⟨none, "lang"⟩, "en"⟩

/-- A page of one match, after a status with empty details, with attributes at every scalar. -/
def countedResponse (attributes : List Attribute) : Element :=
  .mk ⟨none, "Response"⟩ []
    [.element (.mk ⟨none, "Status"⟩ []
        [.element (.mk ⟨none, "Code"⟩ attributes [.text "0"]),
          .element (.mk ⟨none, "Details"⟩ attributes [])]),
      .element (.mk ⟨none, "QueryResults"⟩ []
        [.element (.mk ⟨none, "TotalMatches"⟩ attributes [.text " 1 "]),
          .element (.mk ⟨none, "ID"⟩ [] [.text "10.5240/7791-8534-2C23-9030-8610-5"])])]

theorem reading_of_marked_counted :
    ∃ document marked, (countedResponse []).toDocument = .ok document ∧
      (countedResponse [languageAttribute]).toDocument = .ok marked ∧
      checkStatus (envelope marked) = checkStatus (envelope document) ∧
      ∀ format, queryPage format marked = queryPage format document := by
  have hadded : [].Sublist [languageAttribute] := List.nil_sublist _
  have hresponse : ∀ name, ¬ IsMatch "Response" name := fun name => not_isMatch (by decide)
  have hstatus : ∀ name, ¬ IsMatch "Status" name := fun name => not_isMatch (by decide)
  have hcount : ¬ IsMatch "QueryResults" "TotalMatches" := by
    rintro ⟨-, format, hformat⟩
    cases format <;> exact absurd hformat (by decide)
  have hmarked : Marked IsMatch "" (countedResponse []) (countedResponse [languageAttribute]) := by
    refine ⟨rfl, Or.inl rfl, ?_, fun h => absurd h (not_isMatch (by decide))⟩
    refine .child (hresponse _) (Or.inl rfl) ?_ (.child (hresponse _) (Or.inl rfl) ?_ .nil)
    · exact .child (hstatus _) (Or.inr ⟨.code, hadded⟩) (markedContent_self _)
        (.child (hstatus _) (Or.inr ⟨.details, hadded⟩) .nil .nil)
    · exact .child hcount (Or.inr ⟨.count _, hadded⟩) (markedContent_self _) (.same .nil)
  obtain ⟨document, hdocument, hsuccess⟩ : ∃ document,
      (countedResponse []).toDocument = .ok document ∧ checkStatus (envelope document) = .ok () :=
    ⟨_, rfl, rfl⟩
  obtain ⟨marked, hother, hsame, -⟩ := reading_of_marked hmarked hdocument
  have hnone : ∀ code type, ¬ FailureLosesDetails document marked code type := by
    intro code type hloses
    have hfailure := checkStatus_eq_error_iff.mpr (Or.inl ⟨code, "", hloses.1, rfl⟩)
    rw [hsuccess] at hfailure
    cases hfailure
  have hreading := hsame hnone
  exact ⟨document, marked, hdocument, hother, hreading.status, hreading.page leavesMatches_isMatch⟩

/-- A failure with empty details and a type, with attributes at its details. -/
def failedResponse (attributes : List Attribute) : Element :=
  .mk ⟨none, "Response"⟩ []
    [.element (.mk ⟨none, "Status"⟩ []
        [.element (.mk ⟨none, "Code"⟩ [] [.text "3"]),
          .element (.mk ⟨none, "Details"⟩ attributes []),
          .element (.mk ⟨none, "Type"⟩ [] [.text "object not found"])])]

/-- An attribute at empty details changes what a failure tells. -/
theorem type_told_for_empty_details :
    Marked IsMatch "" (failedResponse []) (failedResponse [languageAttribute]) ∧
      ∃ document marked, (failedResponse []).toDocument = .ok document ∧
        (failedResponse [languageAttribute]).toDocument = .ok marked ∧
        checkStatus (envelope document) = .error (.registry "3" "") ∧
        checkStatus (envelope marked) = .error (.registry "3" "object not found") := by
  have hadded : [].Sublist [languageAttribute] := List.nil_sublist _
  have hstatus : ¬ IsMatch "Response" "Status" := not_isMatch (by decide)
  have hdetails : ¬ IsMatch "Status" "Details" := not_isMatch (by decide)
  refine ⟨⟨rfl, Or.inl rfl, ?_, fun h => absurd h (not_isMatch (by decide))⟩,
    _, _, rfl, rfl, ?_, ?_⟩
  · exact .child hstatus (Or.inl rfl)
      (.same (.child hdetails (Or.inr ⟨.details, hadded⟩) .nil (.same .nil))) .nil
  · decide +kernel
  · decide +kernel

end RegistryClient.Response
