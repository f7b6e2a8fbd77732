import RegistryClient.Proofs.Record.Relevant
import RegistryClient.Proofs.Record.RuleOrder
import RegistryClient.Proofs.Response.Reading
import RegistryClient.Proofs.Xml.Decode

/-!
# One shape at normalized fields

A reader of a record who follows the keys of a default rule, and passes through arrays
item by item, finds objects: `extract_and_queryPage_one_shape`.

Wrapping alone does not give this, because an array among the items of a field is not
entered.  So there are two parts.

* A decoded document has no array in an array (`Xml.flat_of_toDocument`).  Neither the ways in
  which records are taken out of it nor the rules make one (`flat_recordIn?`, `flat_toList`,
  `flat_applyAll`).
* A rule changes nothing in a record that has been normalized.  In a tree without an array in
  an array that a rule leaves as it is, the rule leads to objects only
  (`isObject_of_reaches`).
-/

namespace RegistryClient

open Json (Flat flat_array_iff flat_object_iff)

namespace Record

namespace WrapRule

/-! ## Following a rule -/

/-- The steps lead from a tree to a value that is no array.  Arrays on the way, and at its
end, are passed through item by item. -/
inductive Reaches : List Segment → Json → Json → Prop where
  | here {value : Json} : value.isArray = false → Reaches [] value value
  | item {segments : List Segment} {items : List Json} {item value : Json} :
      item ∈ items → Reaches segments item value → Reaches segments (.array items) value
  | field {segment : Segment} {further : List Segment} {fields : Fields}
      {entry : String × Json} {value : Json} : entry ∈ fields →
      segment.leadsThrough entry.1 = true → Reaches further entry.2 value →
      Reaches (segment :: further) (.object fields) value

theorem exists_object {value : Json} (hscalar : value.isScalar = false)
    (harray : value.isArray = false) : ∃ fields, value = .object fields := by
  cases value with
  | object fields => exact ⟨fields, rfl⟩
  | array items => cases harray
  | _ => cases hscalar

theorem not_isScalar_of_wrapScalar_eq {value : Json} (h : wrapScalar value = value) :
    value.isScalar = false := by
  rw [← h]
  exact isScalar_wrapScalar value

/-- In a field in which nothing is left to wrap there are only objects. -/
theorem isObject_of_wrapField_eq {field value : Json} (hflat : Flat field)
    (hwrapped : wrapField field = field) (h : Reaches [] field value) :
    ∃ fields, value = .object fields := by
  cases h with
  | here harray =>
      have hscalar : field.isScalar = false := by
        cases field with
        | array items => cases harray
        | _ => exact not_isScalar_of_wrapScalar_eq hwrapped
      exact exists_object hscalar harray
  | @item _ items item _ hitem h =>
      obtain ⟨hitems, -⟩ := flat_array_iff.mp hflat
      have hall : items.map wrapScalar = items.map id := by
        rw [List.map_id]
        exact Json.array.inj hwrapped
      have hscalar : item.isScalar = false :=
        not_isScalar_of_wrapScalar_eq (List.map_inj_left.mp hall item hitem)
      cases h with
      | here harray => exact exists_object hscalar harray
      | item hnested _ =>
          -- the scalars of an array in here would still be bare, but there is none
          cases hitems _ hitem

/-- A rule that changes nothing any more leads to objects only. -/
theorem isObject_of_reaches {path : List Segment} {field : String} {tree value : Json}
    (hflat : Flat tree) (hfixed : applyAlong path field tree = tree)
    (h : Reaches (path ++ [.key field]) tree value) : ∃ fields, value = .object fields := by
  generalize hsegments : path ++ [.key field] = segments at h
  induction h generalizing path with
  | here harray => simp at hsegments
  | @item segments items item value hitem h ih =>
      obtain ⟨-, hitems⟩ := flat_array_iff.mp hflat
      have hall : items.map (applyAlong path field) = items.map id := by
        rw [List.map_id]
        exact Json.array.inj ((applyAlong_array path field items).symm.trans hfixed)
      exact ih (hitems item hitem) (List.map_inj_left.mp hall item hitem) hsegments
  | @field segment further fields entry value hentry hleads h ih =>
      have hvalue := flat_object_iff.mp hflat entry hentry
      have hall : (fields.map fun entry => (entry.1, applyUnder path field entry.1 entry.2)) =
          fields.map id := by
        rw [List.map_id]
        exact Json.object.inj ((applyAlong_object path field fields).symm.trans hfixed)
      have hunder : applyUnder path field entry.1 entry.2 = entry.2 :=
        congrArg Prod.snd (List.map_inj_left.mp hall entry hentry)
      cases path with
      | nil =>
          obtain ⟨rfl, rfl⟩ := List.cons.inj hsegments
          have hkey : entry.1 = field := (beq_iff_eq.mp hleads).symm
          rw [applyUnder, if_pos hkey] at hunder
          exact isObject_of_wrapField_eq hvalue hunder h
      | cons first path =>
          obtain ⟨rfl, hfurther⟩ := List.cons.inj hsegments
          rw [applyUnder, if_pos hleads] at hunder
          exact ih hvalue hunder hfurther

/-! ## Rules make no array in an array -/

theorem flat_wrap {scalar : Json} (hscalar : scalar.isScalar = true) : Flat (wrap scalar) :=
  .object (List.forall_mem_singleton.mpr (.scalar hscalar))

theorem flat_wrapScalar {value : Json} (h : Flat value) : Flat (wrapScalar value) := by
  cases hscalar : value.isScalar with
  | true =>
      rw [wrapScalar_of_isScalar hscalar]
      exact flat_wrap hscalar
  | false => rwa [wrapScalar_of_not_isScalar hscalar]

theorem isArray_wrapScalar (value : Json) : (wrapScalar value).isArray = value.isArray := by
  cases value <;> rfl

theorem flat_wrapField {value : Json} (h : Flat value) : Flat (wrapField value) := by
  cases value with
  | array items =>
      obtain ⟨hnotArray, hitems⟩ := flat_array_iff.mp h
      rw [wrapField_array]
      refine .array (List.forall_mem_map.mpr fun item hitem => ?_)
        (List.forall_mem_map.mpr fun item hitem => flat_wrapScalar (hitems item hitem))
      rw [isArray_wrapScalar, hnotArray item hitem]
  | _ => exact flat_wrapScalar h

theorem isArray_applyAlong (path : List Segment) (field : String) (value : Json) :
    (applyAlong path field value).isArray = value.isArray := by
  cases value <;> rfl

theorem flat_applyAlong (path : List Segment) (field : String) {tree : Json} (h : Flat tree) :
    Flat (applyAlong path field tree) := by
  induction tree using Json.induct generalizing path with
  | scalar value hscalar => rwa [applyAlong_scalar path field hscalar]
  | array items ih =>
      obtain ⟨hnotArray, hitems⟩ := flat_array_iff.mp h
      rw [applyAlong_array]
      refine .array (List.forall_mem_map.mpr fun item hitem => ?_)
        (List.forall_mem_map.mpr fun item hitem => ih item hitem path (hitems item hitem))
      rw [isArray_applyAlong, hnotArray item hitem]
  | object fields ih =>
      rw [applyAlong_object]
      refine .object (List.forall_mem_map.mpr fun entry hentry => ?_)
      have hvalue := flat_object_iff.mp h entry hentry
      cases path with
      | nil =>
          rw [applyUnder]
          split
          · exact flat_wrapField hvalue
          · exact hvalue
      | cons segment further =>
          rw [applyUnder]
          split
          · exact ih entry hentry further hvalue
          · exact hvalue

end WrapRule

theorem flat_applyAll (rules : List WrapRule) {tree : Json} (h : Flat tree) :
    Flat (applyAll rules tree) := by
  induction rules generalizing tree with
  | nil => exact h
  | cons rule rest ih => exact ih (WrapRule.flat_applyAlong rule.path rule.field h)

theorem apply_applyAll_of_mem {rule : WrapRule} {rules : List WrapRule}
    (hrules : SpareValues rules) (hmem : rule ∈ rules) (tree : Json) :
    rule.apply (applyAll rules tree) = applyAll rules tree := by
  rw [← applyAll_apply (hrules rule hmem) hrules, applyAll_apply_of_mem hrules hmem]

/-- What a default rule leads to in the tree is an object. -/
def OneShape (tree : Json) : Prop :=
  ∀ rule ∈ defaultRules, ∀ value, WrapRule.Reaches rule.steps tree value →
    ∃ fields, value = .object fields

theorem oneShape_normalize {fields : Fields} (h : Flat (.object fields)) :
    OneShape (normalize (.object fields)) := by
  intro rule hrule value hvalue
  rw [normalize, normalizeWith_object] at hvalue
  have hflat := flat_applyAll defaultRules h
  -- applied once more, the rule changes nothing, so it left no bare scalar where it leads
  have hfixed := apply_applyAll_of_mem spareValues_defaultRules hrule (.object fields)
  rw [WrapRule.apply] at hfixed
  exact WrapRule.isObject_of_reaches hflat hfixed hvalue

end Record

namespace Response

/-! ## Records of a response -/

theorem flat_of_get? {key : String} {document value : Json} (h : Flat document)
    (hvalue : document.get? key = some value) : Flat value := by
  cases document with
  | object fields => exact flat_object_iff.mp h (key, value) (Fields.mem_of_get? hvalue)
  | _ => cases hvalue

theorem flat_envelope {document : Json} (h : Flat document) : Flat (envelope document) := by
  unfold envelope
  cases hresponse : document.get? "Response" with
  | none => exact h
  | some value => exact flat_of_get? h hresponse

theorem flat_withoutAttributes {fields : Fields} (h : Flat (.object fields)) :
    Flat (.object (withoutAttributes fields)) :=
  .object fun field hfield => flat_object_iff.mp h field (List.mem_of_mem_filter hfield)

theorem flat_override {fields overriding : Fields} (h : Flat (.object fields))
    (hoverriding : Flat (.object overriding)) : Flat (.object (fields.override overriding)) := by
  refine .object fun field hfield => ?_
  rcases Fields.mem_override hfield with hfield | hfield
  · exact flat_object_iff.mp hoverriding field hfield
  · exact flat_object_iff.mp h field hfield

theorem flat_extraData {payload : Fields} (h : Flat (.object payload)) :
    Flat (.object (extraData payload)) := by
  unfold extraData
  cases hextra : (payload.get? "ExtraObjectMetadata").bind fields? with
  | none => exact .object (by simp)
  | some extra =>
      have hpresent := bind_fields?_eq_some_iff.mp hextra
      exact flat_object_iff.mp h _ (Fields.mem_of_get? hpresent)

theorem flat_toList {value : Option Json} (h : ∀ present, value = some present → Flat present) :
    Flat (.array (toList value)) := by
  cases value with
  | none => exact .array (by simp [toList]) (by simp [toList])
  | some present =>
      have hpresent := h present rfl
      cases present with
      | null => exact .array (by simp [toList]) (by simp [toList])
      | array items => exact hpresent
      | _ =>
          exact .array (List.forall_mem_singleton.mpr rfl) (List.forall_mem_singleton.mpr hpresent)

theorem flat_recordOf? {extraction : Resolution.Extraction} {payload record : Fields}
    (h : Flat (.object payload)) (hrecord : recordOf? extraction payload = some record) :
    Flat (.object record) := by
  have hpayload := flat_object_iff.mp h
  cases extraction with
  | merged key =>
      obtain ⟨base, hbase, hmerged⟩ := Option.bind_eq_some_iff.mp hrecord
      obtain rfl := Option.some.inj hmerged
      have hflat : Flat (.object base) :=
        hpayload _ (Fields.mem_of_get? (bind_fields?_eq_some_iff.mp hbase))
      exact flat_override (flat_withoutAttributes hflat) (flat_withoutAttributes (flat_extraData h))
  | idList key property =>
      obtain ⟨id, hid, hlist⟩ := Option.bind_eq_some_iff.mp hrecord
      obtain rfl := Option.some.inj hlist
      refine .object fun field hfield => ?_
      rcases List.mem_pair.mp (Fields.mem_ofList hfield) with rfl | rfl
      · exact hpayload _ (Fields.mem_of_get? hid)
      · exact flat_toList fun present hpresent => hpayload _ (Fields.mem_of_get? hpresent)
  | stripped key =>
      obtain rfl := Option.some.inj hrecord
      exact flat_withoutAttributes h

theorem flat_recordIn? {extraction : Resolution.Extraction} {envelope : Json} {record : Fields}
    (h : Flat envelope) (hrecord : recordIn? extraction envelope = some record) :
    Flat (.object record) := by
  obtain ⟨payload, hpayload, hrecord⟩ := Option.bind_eq_some_iff.mp hrecord
  exact flat_recordOf? (flat_of_get? h (bind_fields?_eq_some_iff.mp hpayload)) hrecord

theorem oneShape_of_extract {plan : Resolution.Plan} {document record : Json}
    (hflat : Flat document) (h : extract plan document = .ok record) : Record.OneShape record := by
  obtain ⟨-, fields, hrecord, hnormal⟩ := extract_eq_ok_iff.mp h
  rw [hnormal]
  exact Record.oneShape_normalize (flat_recordIn? (flat_envelope hflat) hrecord)

theorem oneShape_of_resultOf {item : Json} {fields : Fields} (hflat : Flat item)
    (h : resultOf item = .object fields) : Record.OneShape (.object fields) := by
  cases item with
  | object present =>
      rw [← h]
      exact Record.oneShape_normalize (flat_withoutAttributes hflat)
  | _ => cases h

theorem oneShape_of_queryPage {format : ResultFormat} {document : Json} {page : QueryPage}
    (hflat : Flat document) (h : queryPage format document = .ok page) {fields : Fields}
    (hfields : .object fields ∈ page.results) : Record.OneShape (.object fields) := by
  obtain ⟨-, results, _, _, hresults, -, -, -, hlist⟩ := queryPage_eq_ok_iff.mp h
  have hresultsFlat : Flat (.object results) := flat_of_get? (flat_envelope hflat) hresults
  have hitems : Flat (.array (toList (results.get? format.listKey))) :=
    flat_toList fun present hpresent =>
      flat_object_iff.mp hresultsFlat _ (Fields.mem_of_get? hpresent)
  rw [hlist] at hfields
  obtain ⟨item, hitem, hresult⟩ := List.mem_map.mp hfields
  exact oneShape_of_resultOf ((flat_array_iff.mp hitems).2 item hitem) hresult

/-- **At a field that a default rule names, readers find objects only**, in every record and
in every result that is an object, when the response is a decoded document. -/
theorem extract_and_queryPage_one_shape {root : Xml.Element} {document : Json}
    (hdocument : root.toDocument = .ok document) :
    (∀ plan record, extract plan document = .ok record →
      ∀ rule ∈ Record.defaultRules, ∀ value, Record.WrapRule.Reaches rule.steps record value →
        ∃ fields, value = .object fields) ∧
      ∀ format page, queryPage format document = .ok page →
        ∀ fields, .object fields ∈ page.results →
          ∀ rule ∈ Record.defaultRules, ∀ value,
            Record.WrapRule.Reaches rule.steps (.object fields) value →
              ∃ fields, value = .object fields := by
  have hflat : Flat document := Xml.flat_of_toDocument hdocument
  exact ⟨fun plan record h => oneShape_of_extract hflat h,
    fun format page h fields => oneShape_of_queryPage hflat h⟩

/-- A response that has a record and also a page with that record as the only result.  The
record has two other identifiers, the first with an attribute. -/
def recordAndPage : Xml.Element :=
  let record : Xml.Content := .element (.mk ⟨none, "SimpleMetadata"⟩ []
    [.element (.mk ⟨none, "AlternateID"⟩ [⟨⟨none, "domain"⟩, "a.org"⟩] [.text "7"]),
      .element (.mk ⟨none, "AlternateID"⟩ [] [.text "8"])])
  .mk ⟨none, "Response"⟩ [] [record, .element (.mk ⟨none, "QueryResults"⟩ []
    [.element (.mk ⟨none, "TotalMatches"⟩ [] [.text "1"]), record])]

/-- The fields of a record with two other identifiers, the second one given. -/
def alternateIds (second : Json) : Fields :=
  [("AlternateID", .array
    [.object [("$", .object [("domain", .string "a.org")]), ("value", .string "7")], second])]

/-- What the response with a record and a page is decoded to. -/
def recordAndPageDocument : Json :=
  .object [("Response", .object
    [("QueryResults", .object
      [("SimpleMetadata", .object (alternateIds (.string "8"))), ("TotalMatches", .string "1")]),
      ("SimpleMetadata", .object (alternateIds (.string "8")))])]

def simplePlan : Resolution.Plan :=
  ⟨"10.5240/7791-8534-2C23-9030-8610-5", .content, .simple, "", .stripped "SimpleMetadata"⟩

theorem normalize_alternateIds : Record.normalize (.object (alternateIds (.string "8"))) =
    .object (alternateIds (.object [("value", .string "8")])) := by
  have hrelevant : Record.relevant Record.defaultRules (.object (alternateIds (.string "8"))) =
      [Record.ruleAtTop "AlternateID"] := by decide
  rw [Record.normalize_of_relevant hrelevant]
  rfl

theorem extract_and_queryPage_one_shape_alternateIds :
    let record := Json.object (alternateIds (.object [("value", .string "8")]))
    recordAndPage.toDocument = .ok recordAndPageDocument ∧
      extract simplePlan recordAndPageDocument = .ok record ∧
      queryPage .metadata recordAndPageDocument = .ok ⟨1, [record]⟩ ∧
      Record.WrapRule.Reaches [.key "AlternateID"] record (.object [("value", .string "8")]) ∧
      ∀ value, Record.WrapRule.Reaches [.key "AlternateID"] record value →
        ∃ fields, value = .object fields := by
  have hdocument : recordAndPage.toDocument = .ok recordAndPageDocument := rfl
  have hextract : extract simplePlan recordAndPageDocument =
      .ok (.object (alternateIds (.object [("value", .string "8")]))) :=
    extract_eq_ok_iff.mpr ⟨.inl rfl, _, rfl, normalize_alternateIds.symm⟩
  have hcount : IsCount "1" 1 :=
    ⟨['1'], by decide, List.forall_mem_singleton.mpr rfl, .inl rfl, rfl, by decide⟩
  have hresults := congrArg (fun result => [result]) normalize_alternateIds.symm
  have hrule : Record.ruleAtTop "AlternateID" ∈ Record.defaultRules := by decide
  refine ⟨hdocument, hextract, ?_, ?_, ?_⟩
  · exact queryPage_eq_ok_iff.mpr ⟨.inl rfl, _, _, _, rfl, rfl, rfl, hcount, hresults⟩
  · exact .field (List.mem_cons_self ..) rfl
      (.item (List.mem_cons_of_mem _ (List.mem_cons_self ..)) (.here rfl))
  · exact (extract_and_queryPage_one_shape hdocument).1 simplePlan _ hextract _ hrule

end Response

end RegistryClient
