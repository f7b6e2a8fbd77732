import RegistryClient.Proofs.Identifier
import RegistryClient.Proofs.Record.Relevant
import RegistryClient.Proofs.Response.Reading
import RegistryClient.Proofs.Text.Words
import RegistryClient.Proofs.Xml.Decode

/-!
# Pages of query results

The query results of a response are an element that has the count of all matches as one child
element and each match of the page as another.  The page has one result for each of these
matches, in document order, whatever else stands between them, and where the matches are
records each result is what a resolution of the record gives: `queryPage_of_results`.

The decoder gives no child of a name, a lone one and several three different forms
(`Xml.grouped`).  Reading the value under that name as a list undoes this, because no element
is decoded to an array or to nothing (`toList_grouped`).
-/

namespace RegistryClient.Response

open Xml (Element)

/-! ## Child elements as a list -/

theorem toList_some_of_toJson {element : Element} {value : Json}
    (h : element.toJson = .ok value) : toList (some value) = [value] := by
  rcases Xml.text_or_object_of_toJson h with ⟨-, -, rfl⟩ | ⟨-, fields, rfl⟩ <;> rfl

theorem toList_grouped {children : List Element} {values : List Json}
    (h : List.Forall₂ (fun child value => child.toJson = .ok value) children values) :
    toList (Xml.grouped values) = values := by
  cases h with
  | nil => rfl
  | cons hfirst hothers =>
      cases hothers with
      | nil => exact toList_some_of_toJson hfirst
      | cons _ _ => rfl

theorem exists_object_of_get? {key : String} {value found : Json}
    (h : value.get? key = some found) : ∃ fields, value = .object fields := by
  cases value with
  | object fields => exact ⟨fields, rfl⟩
  | _ => cases h

section Children

variable {element : Element} {value : Json} (hdecoded : element.toJson = .ok value) {name : String}
  (hattributes : name ≠ attributesKey) (hvalue : name ≠ Record.valueKey)
include hdecoded hattributes hvalue

theorem forall₂_toList : List.Forall₂ (fun child value => child.toJson = .ok value)
    (element.childrenNamed name) (toList (value.get? name)) := by
  obtain ⟨values, hvalues, hget⟩ := Xml.get?_of_toJson hdecoded hattributes hvalue
  rwa [hget, toList_grouped hvalues]

theorem get?_of_childrenNamed_eq_singleton {child : Element}
    (hchild : element.childrenNamed name = [child]) :
    ∃ inner, child.toJson = .ok inner ∧ value.get? name = some inner := by
  obtain ⟨values, hvalues, hget⟩ := Xml.get?_of_toJson hdecoded hattributes hvalue
  rw [hchild, List.forall₂_cons_left_iff] at hvalues
  obtain ⟨inner, others, hinner, hothers, rfl⟩ := hvalues
  obtain rfl := List.forall₂_nil_left_iff.mp hothers
  exact ⟨inner, hinner, hget⟩

end Children

/-! ## The query results of a response -/

/-- The element has the query results of the response with this root: it is the root itself,
or the only child element of its name in a root that wraps the response. -/
inductive HasResults (results : Element) : Element → Prop where
  | bare : results.name.localName = "QueryResults" → HasResults results results
  | wrapped {root : Element} : root.name.localName = "Response" →
      root.childrenNamed "QueryResults" = [results] → HasResults results root

theorem get?_envelope_of_hasResults {root results : Element} {document : Json}
    (hdocument : root.toDocument = .ok document) (h : HasResults results root) :
    ∃ value, results.toJson = .ok value ∧
      (envelope document).get? "QueryResults" = some value := by
  obtain ⟨value, hvalue, rfl⟩ := Xml.toDocument_eq_ok_iff.mp hdocument
  cases h with
  | bare hname =>
      -- a root of this name is not the envelope, the document is
      rw [hname]
      exact ⟨value, hvalue, rfl⟩
  | wrapped hname hresults =>
      rw [hname]
      exact get?_of_childrenNamed_eq_singleton hvalue (by decide) (by decide) hresults

/-! ## The count of all matches -/

/-- The element is decoded to a scalar, bare or wrapped, that reads as the count. -/
def Counts (element : Element) (total : Nat) : Prop :=
  ∃ value text, element.toJson = .ok value ∧ scalarText? value = some text ∧ IsCount text total

theorem IsCount.ne_empty {text : String} {total : Nat} (h : IsCount text total) : text ≠ "" := by
  obtain ⟨digits, hne, -, hplain | hsigned, -⟩ := h
  · rintro rfl
    exact hne hplain.symm
  · rintro rfl
    cases hsigned

/-- An element with text is read as its text, bare or not. -/
theorem scalarText?_of_text {element : Element} {value : Json} (h : element.toJson = .ok value)
    (htext : element.text ≠ "") : scalarText? value = some element.text := by
  have hscalar : scalarText? (.string element.text) = some element.text := by
    rw [scalarText?, Element.text, Text.trim_trim]
  rcases Xml.text_of_toJson h htext with rfl | hget
  · exact hscalar
  · obtain ⟨fields, rfl⟩ := exists_object_of_get? hget
    rw [scalarText?_object, ← Json.get?, hget, Option.bind_some, hscalar]

/-- An element counts if its own text is a numeral. -/
theorem counts_of_text {element : Element} {value : Json} {total : Nat}
    (h : element.toJson = .ok value) (htext : IsCount element.text total) :
    Counts element total :=
  ⟨value, element.text, h, scalarText?_of_text h htext.ne_empty, htext⟩

/-! ## Results -/

/-- The result for a match: its text if it has nothing else, and otherwise the object that it
is decoded to, without its attributes and normalized. -/
inductive IsResultOf (element : Element) : Json → Prop where
  | text : element.attributes = [] → element.children = [] →
      IsResultOf element (.string element.text)
  | record {fields : Fields} : element.toJson = .ok (.object fields) →
      IsResultOf element (Record.normalize (.object (withoutAttributes fields)))

theorem isResultOf_resultOf {element : Element} {value : Json} (h : element.toJson = .ok value) :
    IsResultOf element (resultOf value) := by
  rcases Xml.text_or_object_of_toJson h with ⟨hattributes, hchildren, rfl⟩ | ⟨-, fields, rfl⟩
  · exact .text hattributes hchildren
  · exact .record h

theorem make_simple_of_isContent {id : String} (hcontent : Identifier.isContent id = true) :
    Resolution.Plan.make id "Simple" = .ok ⟨id, .content, .simple,
      Resolution.Plan.pathOf .content id .simple, .stripped "SimpleMetadata"⟩ := by
  have hvalid : Identifier.isValid id = true := by
    rw [Identifier.isValid, hcontent, Bool.true_or]
  have hkind : Resolution.RecordKind.ofIdentifier id = .ok .content := by
    rw [Resolution.RecordKind.ofIdentifier, if_pos hvalid,
      Identifier.authority_of_isContent hcontent]
    rfl
  rw [Resolution.Plan.make, hkind]
  rfl

/-- If the result is an object, then it is the record that a resolution of a content identifier to
the simple view gives when the element is the root of the response. -/
def AgreesWithResolution (root : Element) (result : Json) : Prop :=
  ∀ fields, result = .object fields → ∀ id, Identifier.isContent id = true →
    ∃ plan document, Resolution.Plan.make id "Simple" = .ok plan ∧
      root.toDocument = .ok document ∧ extract plan document = .ok result

theorem agreesWithResolution_of_isResultOf {root : Element} {result : Json}
    (hname : root.name.localName = "SimpleMetadata") (h : IsResultOf root result) :
    AgreesWithResolution root result := by
  intro fields hobject id hcontent
  cases h with
  | text _ _ => cases hobject
  | record hdecoded =>
      refine ⟨_, _, make_simple_of_isContent hcontent,
        Xml.toDocument_eq_ok_iff.mpr ⟨_, hdecoded, rfl⟩, ?_⟩
      rw [hname]
      exact extract_eq_ok_iff.mpr ⟨.inl rfl, _, rfl, rfl⟩

/-! ## The page -/

theorem listKey_ne (format : ResultFormat) :
    format.listKey ≠ attributesKey ∧ format.listKey ≠ Record.valueKey := by
  cases format <;> decide

section Results

variable {root results count : Element} {document : Json} {total : Nat}
  (hdocument : root.toDocument = .ok document) (hresults : HasResults results root)
  (hstatus : Succeeds (envelope document))
  (hcount : results.childrenNamed "TotalMatches" = [count]) (htotal : Counts count total)
include hdocument hresults hstatus hcount htotal

theorem exists_queryPage (format : ResultFormat) :
    ∃ page, queryPage format document = .ok page ∧ page.totalMatches = total ∧
      List.Forall₂ IsResultOf (results.childrenNamed format.listKey) page.results := by
  obtain ⟨value, hvalue, hget⟩ := get?_envelope_of_hasResults hdocument hresults
  obtain ⟨counted, hcounted, hgetCount⟩ :=
    get?_of_childrenNamed_eq_singleton hvalue (by decide) (by decide) hcount
  obtain ⟨fields, rfl⟩ := exists_object_of_get? hgetCount
  obtain ⟨numeral, text, hnumeral, hscalar, htext⟩ := htotal
  obtain rfl := Except.ok.inj (hnumeral.symm.trans hcounted)
  have hpage : HasPage format (envelope document)
      ⟨total, (toList (Fields.get? format.listKey fields)).map resultOf⟩ :=
    ⟨fields, numeral, text, hget, hgetCount, hscalar, htext, rfl⟩
  obtain ⟨hattributes, hown⟩ := listKey_ne format
  have hlist := forall₂_toList hvalue hattributes hown
  refine ⟨_, queryPage_eq_ok_iff.mpr ⟨hstatus, hpage⟩, rfl, ?_⟩
  exact List.forall₂_map_right_iff.mpr (hlist.imp fun _ _ => isResultOf_resultOf)

/-- **A page has one result for each match that its response lists**, in document order, and
each record among the results is what a resolution gives. -/
theorem queryPage_of_results :
    (∃ page, queryPage .metadata document = .ok page ∧ page.totalMatches = total ∧
        List.Forall₂ IsResultOf (results.childrenNamed "SimpleMetadata") page.results ∧
        List.Forall₂ AgreesWithResolution (results.childrenNamed "SimpleMetadata") page.results) ∧
      ∃ page, queryPage .idOnly document = .ok page ∧ page.totalMatches = total ∧
        List.Forall₂ IsResultOf (results.childrenNamed "ID") page.results := by
  have hpages := exists_queryPage hdocument hresults hstatus hcount htotal
  refine ⟨?_, hpages .idOnly⟩
  obtain ⟨page, hpage, hmatches, hresult⟩ := hpages .metadata
  have hnames : ∀ child ∈ results.childrenNamed "SimpleMetadata",
      child.name.localName = "SimpleMetadata" := by
    intro child hchild
    exact (Xml.Element.mem_childrenNamed_iff.mp hchild).2
  have hnamed := (List.forall₂_and_left _ _).mpr ⟨hnames, hresult⟩
  refine ⟨page, hpage, hmatches, hresult, hnamed.imp ?_⟩
  rintro child result ⟨hname, his⟩
  exact agreesWithResolution_of_isResultOf hname his

end Results

/-- Query results that list a record and a bare text, a remark and the count between them. -/
def remarkedResults : Element :=
  .mk ⟨none, "QueryResults"⟩ []
    [.element (.mk ⟨none, "SimpleMetadata"⟩ [⟨⟨none, "level"⟩, "2"⟩]
        [.element (.mk ⟨none, "ResourceName"⟩ [] [.text "Up"])]),
      .element (.mk ⟨none, "Remark"⟩ [] []),
      .element (.mk ⟨none, "TotalMatches"⟩ [] [.text " 7 "]),
      .element (.mk ⟨none, "SimpleMetadata"⟩ [] [.text "withdrawn"])]

def remarkedResponse : Element :=
  .mk ⟨none, "Response"⟩ []
    [.element (.mk ⟨none, "Status"⟩ [] [.element (.mk ⟨none, "Code"⟩ [] [.text "0"])]),
      .element remarkedResults]

/-- What the response is decoded to. -/
def remarkedDocument : Json :=
  .object [("Response", .object
    [("QueryResults", .object
      [("Remark", .string ""),
        ("SimpleMetadata", .array
          [.object [("$", .object [("level", .string "2")]), ("ResourceName", .string "Up")],
            .string "withdrawn"]),
        ("TotalMatches", .string "7")]),
      ("Status", .object [("Code", .string "0")])])]

def remarkedPage : QueryPage :=
  ⟨7, [.object [("ResourceName", .object [("value", .string "Up")])], .string "withdrawn"]⟩

theorem normalize_remarked : Record.normalize (.object [("ResourceName", .string "Up")]) =
    .object [("ResourceName", .object [("value", .string "Up")])] := by
  have hrelevant :
      Record.relevant Record.defaultRules (.object [("ResourceName", .string "Up")]) =
        [Record.ruleAtTop "ResourceName"] := by decide
  rw [Record.normalize_of_relevant hrelevant]
  rfl

theorem queryPage_of_results_remarked :
    remarkedResponse.toDocument = .ok remarkedDocument ∧
      queryPage .metadata remarkedDocument = .ok remarkedPage ∧
      List.Forall₂ IsResultOf (remarkedResults.childrenNamed "SimpleMetadata")
        remarkedPage.results ∧
      List.Forall₂ AgreesWithResolution (remarkedResults.childrenNamed "SimpleMetadata")
        remarkedPage.results ∧
      Identifier.isContent "10.5240/7791-8534-2C23-9030-8610-5" = true := by
  have hdocument : remarkedResponse.toDocument = .ok remarkedDocument := rfl
  have hresults : HasResults remarkedResults remarkedResponse := .wrapped rfl rfl
  have hstatus : Succeeds (envelope remarkedDocument) := .inr ⟨_, _, rfl, rfl, rfl⟩
  have hcount : IsCount "7" 7 :=
    ⟨['7'], by decide, List.forall_mem_singleton.mpr rfl, .inl rfl, rfl, by decide⟩
  have htotal : Counts (.mk ⟨none, "TotalMatches"⟩ [] [.text " 7 "]) 7 :=
    counts_of_text rfl hcount
  have hnormal : remarkedPage.results = List.map resultOf
      [.object [("$", .object [("level", .string "2")]), ("ResourceName", .string "Up")],
        .string "withdrawn"] :=
    congrArg (fun record => [record, Json.string "withdrawn"]) normalize_remarked.symm
  have hpage : queryPage .metadata remarkedDocument = .ok remarkedPage :=
    queryPage_eq_ok_iff.mpr ⟨hstatus, _, _, _, rfl, rfl, rfl, hcount, hnormal⟩
  obtain ⟨⟨page, hread, -, hmatches, hrecords⟩, -⟩ :=
    queryPage_of_results hdocument hresults hstatus rfl htotal
  obtain rfl := Except.ok.inj (hpage.symm.trans hread)
  exact ⟨hdocument, hpage, hmatches, hrecords, by decide⟩

end RegistryClient.Response
