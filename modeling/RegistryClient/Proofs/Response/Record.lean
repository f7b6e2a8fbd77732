import RegistryClient.Proofs.Record.KeyByKey
import RegistryClient.Proofs.Record.Relevant
import RegistryClient.Proofs.Resolution.Plan
import RegistryClient.Proofs.Response.Document
import RegistryClient.Proofs.Response.Reading

/-!
# Records taken out of payloads

When the status of a response is a success, its record is made of the payload of the plan, in one
of three ways.  `extract_exactly` says when there is a record at all and what is under each key of
it: every field of the record comes from a field of the payload, the attributes are left out, and
no field is lost on the way.

Two observations carry this.  What is put together keeps the order of its keys, so a record is
known by what stands under each key (`isRecordOf_of_recordOf?`).  And normalizing changes the
values of a record one by one and leaves its keys alone, so it brings back nothing that has been
left out (`keys_of_normalizeWith`).

The second one also gives `normalizing_key_by_key`: the parts of a payload may as well be
normalized first and be put together afterwards.
-/

namespace RegistryClient.Response

open Resolution (Plan Extraction)

/-! ## What a record is made of -/

/-- The value under a key as a list: a missing value and nothing are empty, and a value that is no
array stands alone. -/
inductive Lists : Option Json → List Json → Prop where
  | missing : Lists none []
  | null : Lists (some .null) []
  | array {items : List Json} : Lists (some (.array items)) items
  | lone {value : Json} : value ≠ .null → (∀ items, value ≠ .array items) →
      Lists (some value) [value]

theorem lists_toList (value : Option Json) : Lists value (toList value) := by
  cases value with
  | none => exact .missing
  | some present =>
      cases present with
      | null => exact .null
      | array items => exact .array
      | _ => exact .lone (by simp) (by simp)

/-- The fields of the extra data of a payload: there are none unless it is an object. -/
def IsExtra (payload extra : Fields) : Prop :=
  payload.get? "ExtraObjectMetadata" = some (.object extra) ∨
    extra = [] ∧ ∀ others, payload.get? "ExtraObjectMetadata" ≠ some (.object others)

theorem isExtra_extraData (payload : Fields) : IsExtra payload (extraData payload) := by
  unfold extraData
  cases hextra : (payload.get? "ExtraObjectMetadata").bind fields? with
  | some extra => exact Or.inl (bind_fields?_eq_some_iff.mp hextra)
  | none =>
      refine Or.inr ⟨rfl, fun others hothers => ?_⟩
      rw [bind_fields?_eq_some_iff.mpr hothers] at hextra
      cases hextra

/-- The payload has what its record cannot do without. -/
inductive Suffices (payload : Fields) : Extraction → Prop where
  | merged {payloadKey : String} {base : Fields} :
      payload.get? "BaseObjectData" = some (.object base) → Suffices payload (.merged payloadKey)
  | idList {payloadKey property : String} {id : Json} :
      payload.get? "ID" = some id → Suffices payload (.idList payloadKey property)
  | stripped {payloadKey : String} : Suffices payload (.stripped payloadKey)

/-- What is under each key of the record in a payload, before it is normalized. -/
inductive IsRecordOf (payload : Fields) : Extraction → Fields → Prop where
  /-- The extra data counts before the base data, the attributes of neither count. -/
  | merged {payloadKey : String} {base extra record : Fields} :
      payload.get? "BaseObjectData" = some (.object base) → IsExtra payload extra →
      (∀ key, record.get? key =
        if key = "$" then none else (extra.get? key).or (base.get? key)) →
      IsRecordOf payload (.merged payloadKey) record
  /-- There is the identifier, the list, and nothing else. -/
  | idList {payloadKey property : String} {id : Json} {items : List Json} {record : Fields} :
      payload.get? "ID" = some id → Lists (payload.get? property) items →
      record.get? "ID" = some id → record.get? property = some (.array items) →
      (∀ key, key ≠ "ID" → key ≠ property → record.get? key = none) →
      IsRecordOf payload (.idList payloadKey property) record
  /-- There is everything but the attributes. -/
  | stripped {payloadKey : String} {record : Fields} :
      (∀ key, record.get? key = if key = "$" then none else payload.get? key) →
      IsRecordOf payload (.stripped payloadKey) record

/-- The key of a list is neither the one of the identifier nor the one of attributes. -/
def ListsApart (extraction : Extraction) : Prop :=
  ∀ payloadKey property, extraction = .idList payloadKey property →
    property ≠ "ID" ∧ property ≠ "$"

theorem listsApart_of_make {id viewName : String} {plan : Plan}
    (h : Plan.make id viewName = .ok plan) : ListsApart plan.extraction := by
  obtain ⟨-, kind, view, extraction, -, -, hextraction, rfl⟩ := Plan.make_eq_ok_iff.mp h
  intro payloadKey property hlist
  change extraction = _ at hlist
  subst hlist
  -- two entries of the table are lists
  cases kind <;> cases view <;> cases hextraction <;> decide

/-! ## Making the record -/

theorem get?_withoutAttributes (fields : Fields) (key : String) :
    (withoutAttributes fields).get? key = if key = "$" then none else fields.get? key := by
  by_cases hkey : key = "$"
  · subst hkey
    exact Fields.get?_erase_self
  · rw [if_neg hkey]
    exact Fields.get?_erase_of_ne hkey

theorem sorted_withoutAttributes {fields : Fields} (h : fields.Sorted) :
    (withoutAttributes fields).Sorted :=
  Fields.sorted_erase h

theorem sorted_of_isExtra {payload extra : Fields} (hpayload : (Json.object payload).Ordered)
    (h : IsExtra payload extra) : extra.Sorted := by
  rcases h with hextra | ⟨rfl, -⟩
  · exact (Json.ordered_object_iff.mp (hpayload.of_get? hextra)).1
  · exact Fields.sorted_nil

theorem exists_recordOf?_iff {extraction : Extraction} {payload : Fields} :
    (∃ record, recordOf? extraction payload = some record) ↔ Suffices payload extraction := by
  constructor
  · rintro ⟨record, hrecord⟩
    cases extraction with
    | merged payloadKey =>
        obtain ⟨base, hbase, -⟩ := Option.bind_eq_some_iff.mp hrecord
        exact .merged (bind_fields?_eq_some_iff.mp hbase)
    | idList payloadKey property =>
        obtain ⟨id, hid, -⟩ := Option.bind_eq_some_iff.mp hrecord
        exact .idList hid
    | stripped payloadKey => exact .stripped
  · intro h
    cases h with
    | merged hbase =>
        exact ⟨_, Option.bind_eq_some_iff.mpr ⟨_, bind_fields?_eq_some_iff.mpr hbase, rfl⟩⟩
    | idList hid => exact ⟨_, Option.bind_eq_some_iff.mpr ⟨_, hid, rfl⟩⟩
    | stripped => exact ⟨_, rfl⟩

section Made

variable {extraction : Extraction} {payload record : Fields}
  (hpayload : (Json.object payload).Ordered) (hrecord : recordOf? extraction payload = some record)
include hpayload hrecord

theorem sorted_recordOf? : record.Sorted := by
  cases extraction with
  | merged payloadKey =>
      obtain ⟨base, hbase, hmerged⟩ := Option.bind_eq_some_iff.mp hrecord
      obtain rfl := Option.some.inj hmerged
      have hordered := hpayload.of_get? (bind_fields?_eq_some_iff.mp hbase)
      exact Fields.sorted_override
        (sorted_withoutAttributes (Json.ordered_object_iff.mp hordered).1)
  | idList payloadKey property =>
      obtain ⟨id, -, hlist⟩ := Option.bind_eq_some_iff.mp hrecord
      obtain rfl := Option.some.inj hlist
      exact Fields.sorted_ofList _
  | stripped payloadKey =>
      obtain rfl := Option.some.inj hrecord
      exact sorted_withoutAttributes (Json.ordered_object_iff.mp hpayload).1

/-- The record that is made has under each key what it should have. -/
theorem isRecordOf_of_recordOf? (hapart : ListsApart extraction) :
    IsRecordOf payload extraction record := by
  cases extraction with
  | merged payloadKey =>
      obtain ⟨base, hbase, hmerged⟩ := Option.bind_eq_some_iff.mp hrecord
      obtain rfl := Option.some.inj hmerged
      have hextra := isExtra_extraData payload
      have hsorted := sorted_withoutAttributes (sorted_of_isExtra hpayload hextra)
      refine .merged (bind_fields?_eq_some_iff.mp hbase) hextra fun key => ?_
      rw [Fields.get?_override hsorted, get?_withoutAttributes, get?_withoutAttributes]
      split <;> rfl
  | idList payloadKey property =>
      obtain ⟨id, hid, hlist⟩ := Option.bind_eq_some_iff.mp hrecord
      obtain rfl := Option.some.inj hlist
      obtain ⟨hproperty, -⟩ := hapart payloadKey property rfl
      refine .idList hid (lists_toList _) ?_ Fields.get?_insert_self fun key hkey hother => ?_
      · exact (Fields.get?_insert_of_ne (Ne.symm hproperty)).trans Fields.get?_insert_self
      · exact (Fields.get?_insert_of_ne hother).trans (Fields.get?_insert_of_ne hkey)
  | stripped payloadKey =>
      obtain rfl := Option.some.inj hrecord
      exact .stripped (get?_withoutAttributes payload)

end Made

theorem IsRecordOf.get?_attributes {extraction : Extraction} {payload record : Fields}
    (h : IsRecordOf payload extraction record) (hapart : ListsApart extraction) :
    record.get? "$" = none := by
  cases h with
  | merged _ _ hget => exact (hget "$").trans (if_pos rfl)
  | stripped hget => exact (hget "$").trans (if_pos rfl)
  | idList _ _ _ _ hother =>
      exact hother "$" (by decide) (Ne.symm (hapart _ _ rfl).2)

/-! ## The record of a response -/

theorem exists_recordIn?_iff {extraction : Extraction} {part : Json} :
    (∃ record, recordIn? extraction part = some record) ↔
      ∃ payload, part.get? extraction.payloadKey = some (.object payload) ∧
        Suffices payload extraction := by
  simp only [recordIn?, Option.bind_eq_bind, Option.bind_eq_some_iff, ← exists_recordOf?_iff,
    fields?_eq_some_iff]
  constructor
  · rintro ⟨record, payload, ⟨value, hvalue, rfl⟩, hrecord⟩
    exact ⟨payload, hvalue, record, hrecord⟩
  · rintro ⟨payload, hpayload, record, hrecord⟩
    exact ⟨record, payload, ⟨_, hpayload, rfl⟩, hrecord⟩

/-- What extracting comes to when the status of a document is a success. -/
structure ExtractsExactly (plan : Plan) (document : Json) : Prop where
  succeeds_iff : (∃ result, extract plan document = .ok result) ↔ ∃ payload : Fields,
    (envelope document).get? plan.extraction.payloadKey = some (.object payload) ∧
      Suffices payload plan.extraction
  /-- Whatever else is there is not understood. -/
  fails : ∀ {fault : Fault}, extract plan document = .error fault →
    fault = (ResponseFault.missingPayload plan.id plan.view.name
      plan.extraction.payloadKey).toFault ∧ fault.kind = .unrecognizedResponse
  /-- The result is the record in the payload, normalized: an object with the keys of the record,
  and without attributes. -/
  result : ∀ {result : Json}, extract plan document = .ok result →
    ∃ payload record fields : Fields,
      (envelope document).get? plan.extraction.payloadKey = some (.object payload) ∧
        IsRecordOf payload plan.extraction record ∧ record.Sorted ∧
        result = Record.normalize (.object record) ∧ result = .object fields ∧
        fields.map Prod.fst = record.map Prod.fst ∧ fields.get? "$" = none

theorem ordered_envelope {document : Json} (h : document.Ordered) :
    (envelope document).Ordered := by
  unfold envelope
  cases hresponse : document.get? "Response" with
  | none => exact h
  | some value => exact h.of_get? hresponse

theorem extractsExactly {plan : Plan} (hapart : ListsApart plan.extraction) {document : Json}
    (hordered : document.Ordered) (hstatus : Succeeds (envelope document)) :
    ExtractsExactly plan document where
  succeeds_iff := by
    rw [← exists_recordIn?_iff]
    simp only [extract_eq_ok_iff, hstatus, true_and]
    constructor
    · rintro ⟨_, record, hrecord, -⟩
      exact ⟨record, hrecord⟩
    · rintro ⟨record, hrecord⟩
      exact ⟨_, record, hrecord, rfl⟩
  fails := by
    intro fault hfault
    rcases Outcome.bind_eq_error_iff.mp hfault with hrefused | ⟨-, -, hread⟩
    · rw [checkStatus_eq_ok_iff.mpr hstatus] at hrefused
      cases hrefused
    · cases hrecord : recordIn? plan.extraction (envelope document) with
      | some record =>
          rw [hrecord] at hread
          cases hread
      | none =>
          rw [hrecord] at hread
          obtain rfl := Except.error.inj hread
          exact ⟨rfl, rfl⟩
  result := by
    intro result hresult
    obtain ⟨-, record, hrecordIn, hmade⟩ := extract_eq_ok_iff.mp hresult
    obtain ⟨payload, hfields, hrecord⟩ := Option.bind_eq_some_iff.mp hrecordIn
    have hpayload := bind_fields?_eq_some_iff.mp hfields
    have hpayloadOrdered := (ordered_envelope hordered).of_get? hpayload
    have his := isRecordOf_of_recordOf? hpayloadOrdered hrecord hapart
    obtain ⟨normal, hnormal⟩ :=
      Record.exists_normalizeWith_eq_object Record.defaultRules record
    have hkeys := Record.keys_of_normalizeWith hnormal
    -- attributes are not among the keys of the record, and so not among those of the result
    have hnone : normal.get? "$" = none := by
      rw [Fields.get?_eq_none_iff, hkeys, ← Fields.get?_eq_none_iff]
      exact his.get?_attributes hapart
    exact ⟨payload, record, normal, hpayload, his, sorted_recordOf? hpayloadOrdered hrecord, hmade,
      hmade.trans hnormal, hkeys, hnone⟩

/-- **The result has exactly the fields of the payload that belong to the record**, normalized,
for every shape of payload that a plan can ask for; and there is a result whenever the payload has
what the record cannot do without.  Every plan that is made and every response that is decoded are
of the kind that this is about. -/
theorem extract_exactly :
    (∀ (plan : Plan) (document : Json), ListsApart plan.extraction → document.Ordered →
        Succeeds (envelope document) → ExtractsExactly plan document) ∧
      (∀ (id viewName : String) (plan : Plan), Plan.make id viewName = .ok plan →
        ListsApart plan.extraction) ∧
      ∀ (text : String) (document : Json), parseDocument text = .ok document →
        document.Ordered :=
  ⟨fun _ _ hapart => extractsExactly hapart, fun _ _ _ => listsApart_of_make,
    fun _ _ => ordered_of_parseDocument⟩

/-- A payload whose base data and extra data have a key in common, and attributes each. -/
def fullDocument : Json :=
  .object [("FullMetadata", .object
    [("$", .object [("xmlns", .string "u")]),
      ("BaseObjectData", .object
        [("$", .object [("lang", .string "en")]), ("ID", .string "x"),
          ("ResourceName", .string "Up")]),
      ("ExtraObjectMetadata", .object
        [("$", .null), ("EditInfo", .array []), ("ResourceName", .string "Down")])])]

/-- What is made of the payload before it is normalized. -/
def fullRecord : Fields :=
  [("EditInfo", .array []), ("ID", .string "x"), ("ResourceName", .string "Down")]

def contentId : String := "10.5240/7791-8534-2C23-9030-8610-5"

def fullPlan : Plan :=
  ⟨contentId, .content, .full, Plan.pathOf .content contentId .full, .merged "FullMetadata"⟩

theorem make_contentId_full : Plan.make contentId "Full" = .ok fullPlan := by
  have hvalid : Identifier.isValid contentId = true := by decide
  have hkind : Identifier.authority contentId = Resolution.RecordKind.content.authority := by
    decide
  have hextraction : Extraction.of? .content .full = some (.merged "FullMetadata") := rfl
  exact Plan.make_of_some hvalid hkind hextraction

theorem normalize_fullRecord : Record.normalize (.object fullRecord) =
    .object [("EditInfo", .array []), ("ID", .string "x"),
      ("ResourceName", .object [("value", .string "Down")])] := by
  have hrelevant : Record.relevant Record.defaultRules (.object fullRecord) =
      [Record.ruleAtTop "ResourceName"] := by decide
  rw [Record.normalize_of_relevant hrelevant]
  rfl

theorem extract_fullDocument : extract fullPlan fullDocument =
    .ok (.object [("EditInfo", .array []), ("ID", .string "x"),
      ("ResourceName", .object [("value", .string "Down")])]) :=
  extract_eq_ok_iff.mpr ⟨Or.inl rfl, fullRecord, rfl, normalize_fullRecord.symm⟩

theorem extract_exactly_merged :
    Plan.make contentId "Full" = .ok fullPlan ∧ fullDocument.Ordered ∧
      Succeeds (envelope fullDocument) ∧ ExtractsExactly fullPlan fullDocument ∧
      extract fullPlan fullDocument =
        .ok (.object [("EditInfo", .array []), ("ID", .string "x"),
          ("ResourceName", .object [("value", .string "Down")])]) := by
  have hordered : fullDocument.Ordered := by decide
  have hstatus : Succeeds (envelope fullDocument) := Or.inl rfl
  have hapart : ListsApart fullPlan.extraction := extract_exactly.2.1 _ _ _ make_contentId_full
  exact ⟨make_contentId_full, hordered, hstatus, extract_exactly.1 _ _ hapart hordered hstatus,
    extract_fullDocument⟩

/-! ## Parts that are normalized first -/

/-- The result is put together of parts of the payload that have been normalized before. -/
inductive NormalizedFirst (payload : Fields) : Extraction → Json → Prop where
  | merged {payloadKey : String} {base extra normal normalExtra : Fields} :
      payload.get? "BaseObjectData" = some (.object base) → IsExtra payload extra →
      Record.normalize (.object base) = .object normal →
      Record.normalize (.object extra) = .object normalExtra →
      NormalizedFirst payload (.merged payloadKey)
        (.object ((withoutAttributes normal).override (withoutAttributes normalExtra)))
  | idList {payloadKey property : String} {id : Json} {items : List Json}
      {normalId normalList : Fields} :
      payload.get? "ID" = some id → Lists (payload.get? property) items →
      Record.normalize (.object [("ID", id)]) = .object normalId →
      Record.normalize (.object [(property, .array items)]) = .object normalList →
      NormalizedFirst payload (.idList payloadKey property)
        (.object (normalId.override normalList))
  | stripped {payloadKey : String} {normal : Fields} :
      Record.normalize (.object payload) = .object normal →
      NormalizedFirst payload (.stripped payloadKey) (.object (withoutAttributes normal))

theorem exists_normalize_eq_object (fields : Fields) :
    ∃ normal : Fields, Record.normalize (.object fields) = .object normal :=
  Record.exists_normalizeWith_eq_object Record.defaultRules fields

theorem normalize_withoutAttributes {fields normal : Fields}
    (h : Record.normalize (.object fields) = .object normal) :
    Record.normalize (.object (withoutAttributes fields)) = .object (withoutAttributes normal) :=
  Record.normalizeWith_erase h

theorem normalize_override {fields overriding normal others : Fields}
    (h : Record.normalize (.object fields) = .object normal)
    (hothers : Record.normalize (.object overriding) = .object others) :
    Record.normalize (.object (fields.override overriding)) = .object (normal.override others) :=
  Record.normalizeWith_override h hothers

theorem normalizedFirst_of_recordOf? {extraction : Extraction} {payload record : Fields}
    (h : recordOf? extraction payload = some record) :
    NormalizedFirst payload extraction (Record.normalize (.object record)) := by
  cases extraction with
  | merged payloadKey =>
      obtain ⟨base, hbase, hmerged⟩ := Option.bind_eq_some_iff.mp h
      obtain rfl := Option.some.inj hmerged
      obtain ⟨normal, hnormal⟩ := exists_normalize_eq_object base
      obtain ⟨normalExtra, hextra⟩ := exists_normalize_eq_object (extraData payload)
      rw [normalize_override (normalize_withoutAttributes hnormal)
        (normalize_withoutAttributes hextra)]
      exact .merged (bind_fields?_eq_some_iff.mp hbase) (isExtra_extraData payload) hnormal hextra
  | idList payloadKey property =>
      obtain ⟨id, hid, hlist⟩ := Option.bind_eq_some_iff.mp h
      obtain rfl := Option.some.inj hlist
      obtain ⟨normalId, hnormalId⟩ := exists_normalize_eq_object [("ID", id)]
      obtain ⟨normalList, hnormalList⟩ := exists_normalize_eq_object
        [(property, .array (toList (payload.get? property)))]
      have hboth := normalize_override hnormalId hnormalList
      change NormalizedFirst _ _ (Record.normalize (.object (Fields.override [("ID", id)] _)))
      rw [hboth]
      exact .idList hid (lists_toList _) hnormalId hnormalList
  | stripped payloadKey =>
      obtain rfl := Option.some.inj h
      obtain ⟨normal, hnormal⟩ := exists_normalize_eq_object payload
      rw [normalize_withoutAttributes hnormal]
      exact .stripped hnormal

/-- **Normalizing works key by key**, with any rules: it makes no difference whether fields are
put over others, or one is taken away, before or after, and a field is normalized as if it stood
alone.  So a record may be put together before or after its parts are normalized. -/
theorem normalizing_key_by_key :
    (∀ (rules : List Record.WrapRule) (fields overriding : Fields), ∃ normal others : Fields,
        Record.normalizeWith rules (.object fields) = .object normal ∧
          Record.normalizeWith rules (.object overriding) = .object others ∧
          Record.normalizeWith rules (.object (fields.override overriding)) =
            .object (normal.override others) ∧
          (∀ key, Record.normalizeWith rules (.object (fields.erase key)) =
            .object (normal.erase key)) ∧
          ∀ key, normal.get? key = (fields.get? key).bind fun value =>
            (Record.normalizeWith rules (.object [(key, value)])).get? key) ∧
      (∀ (plan : Plan) (document result : Json), extract plan document = .ok result →
        ∃ payload : Fields,
          (envelope document).get? plan.extraction.payloadKey = some (.object payload) ∧
            NormalizedFirst payload plan.extraction result) ∧
      ∀ fields : Fields, ∃ normal : Fields, Record.normalize (.object fields) = .object normal ∧
        resultOf (.object fields) = .object (withoutAttributes normal) := by
  refine ⟨fun rules fields overriding => ?_, fun plan document result hresult => ?_,
    fun fields => ?_⟩
  · obtain ⟨normal, hnormal⟩ := Record.exists_normalizeWith_eq_object rules fields
    obtain ⟨others, hothers⟩ := Record.exists_normalizeWith_eq_object rules overriding
    refine ⟨normal, others, hnormal, hothers, Record.normalizeWith_override hnormal hothers,
      fun key => Record.normalizeWith_erase hnormal, fun key => ?_⟩
    calc normal.get? key
        = (Record.normalizeWith rules (.object fields)).get? key := by rw [hnormal]; rfl
      _ = _ := Record.get?_normalizeWith
  · obtain ⟨-, record, hrecordIn, hmade⟩ := extract_eq_ok_iff.mp hresult
    obtain ⟨payload, hfields, hrecord⟩ := Option.bind_eq_some_iff.mp hrecordIn
    refine ⟨payload, bind_fields?_eq_some_iff.mp hfields, ?_⟩
    rw [hmade]
    exact normalizedFirst_of_recordOf? hrecord
  · obtain ⟨normal, hnormal⟩ := exists_normalize_eq_object fields
    exact ⟨normal, hnormal, normalize_withoutAttributes hnormal⟩

theorem normalizing_key_by_key_merged :
    extract fullPlan fullDocument =
        .ok (.object [("EditInfo", .array []), ("ID", .string "x"),
          ("ResourceName", .object [("value", .string "Down")])]) ∧
      ∃ payload : Fields,
        (envelope fullDocument).get? "FullMetadata" = some (.object payload) ∧
          NormalizedFirst payload fullPlan.extraction
            (.object [("EditInfo", .array []), ("ID", .string "x"),
              ("ResourceName", .object [("value", .string "Down")])]) :=
  ⟨extract_fullDocument, normalizing_key_by_key.2.1 _ _ _ extract_fullDocument⟩

end RegistryClient.Response
