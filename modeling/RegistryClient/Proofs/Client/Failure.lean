import RegistryClient.Http.Transport
import RegistryClient.Proofs.Client.Exchange
import RegistryClient.Proofs.Response.Reading
import RegistryClient.Proofs.Text.Words

/-!
# The stage at which a call fails

A call that has had a complete answer to its request can still fail, and its fault tells at
which stage:

* the answer has no status of success: the fault is the transport's and has that status
  (`IsTransportFault`), whatever the body says;
* the body is a document whose status refuses the call: the fault is the registry's and has
  the registry's code (`IsRefusal`);
* anything else, be it that the body is no document or that the document lacks what was
  asked for: the response is not understood.

`failsByStage_of_answered` says so of every call.  Resolving and querying read different things,
but both check the status of the document first (`Response.StatusFirst`), so that neither the
decoder nor the reading of a payload can hide a refusal or make one up.
-/

namespace RegistryClient

/-! ## Messages of the transport -/

namespace Http

theorem trim_reason_ne_empty {status : Nat} {reason : String} (h : reason? status = some reason) :
    Text.trim reason ≠ "" := by
  have hreasons : reasons.all (fun entry => !Text.isBlankText entry.2) = true := by decide +kernel
  obtain ⟨entry, hentry, rfl⟩ := Option.map_eq_some_iff.mp h
  have hreason := List.all_eq_true.mp hreasons entry (List.mem_of_find?_eq_some hentry)
  rw [ne_eq, Text.trim_eq_empty_iff, ← List.all_eq_true]
  simpa [Text.isBlankText] using hreason

theorem trim_failureMessage_ne_empty (status : Nat) (body : String) :
    Text.trim (failureMessage status body) ≠ "" := by
  unfold failureMessage
  by_cases hblank : Text.trim body = ""
  · rw [if_pos hblank]
    cases hreason : reason? status with
    | none => decide
    | some reason => exact trim_reason_ne_empty hreason
  · rwa [if_neg hblank, Text.trim_trim]

theorem isSuccess_iff {status : Nat} : isSuccess status = true ↔ 200 ≤ status ∧ status ≤ 299 := by
  simp [isSuccess]

end Http

/-! ## Documents without namespaces -/

namespace Xml

theorem openElement?_plain (scope : List String) (name : String) :
    openElement? scope ⟨none, name⟩ [] = some ⟨⟨none, name⟩, [], predeclared :: scope, []⟩ := by
  simp [openElement?, isDeclared]

end Xml

namespace Client

/-! ## Faults by their stage -/

/-- The fault tells of an answer with this status, which is none of success, and this body. -/
structure IsTransportFault (status : Nat) (body : String) (fault : Fault) : Prop where
  kind : fault.kind = .transportError
  status_eq : fault.status = status
  /-- The message is the body, or the reason of the status if the body is blank. -/
  text : Text.trim body ≠ "" → fault.detail = Text.trim body
  reason : Text.trim body = "" → fault.detail = (Http.reason? status).getD "request failed"
  notBlank : Text.trim fault.detail ≠ ""
  /-- Access is denied by the registry only. -/
  notDenied : fault.isAccessDenied = false

/-- The fault tells of a refusal by the registry with this code. -/
structure IsRefusal (code : String) (fault : Fault) : Prop where
  kind : fault.kind = .registryError
  denied_iff : fault.isAccessDenied = true ↔ code = "4" ∨ code = "5"
  status_eq : fault.status = if code = "4" ∨ code = "5" then 403 else 502

/-- The body is a document whose status has the code of a failure. -/
def RefusedIn (body code : String) : Prop :=
  ∃ document message, Response.parseDocument body = .ok document ∧
    Response.Refuses (Response.envelope document) code message

theorem isTransportFault (status : Nat) (body : String) :
    IsTransportFault status body (.transport status (Http.failureMessage status body)) where
  kind := rfl
  status_eq := rfl
  text := fun htext => if_neg htext
  reason := fun hblank => if_pos hblank
  notBlank := Http.trim_failureMessage_ne_empty status body
  notDenied := rfl

theorem isRefusal (code message : String) : IsRefusal code (.registry code message) := by
  have hdenied : (Fault.registry code message).isAccessDenied = true ↔
      code = "4" ∨ code = "5" := by
    simp [Fault.isAccessDenied, Fault.accessDeniedCodes]
  exact ⟨rfl, hdenied, by simp only [Fault.status, hdenied]⟩

/-! ## Answered calls -/

/-- How a call ends that has had a complete answer with this status and body. -/
structure FailsByStage (status : Nat) (body : String) (answer : Except Fault Answer) : Prop where
  /-- Without a status of success, with the fault of the transport. -/
  unsuccessful : ¬ (200 ≤ status ∧ status ≤ 299) →
    ∃ fault, answer = .error fault ∧ IsTransportFault status body fault
  /-- With a status of success, never with a fault of the transport, -/
  successful : 200 ≤ status ∧ status ≤ 299 →
    ∀ fault, answer = .error fault → fault.kind ≠ .transportError
  /-- with one of the registry exactly when the body refuses the call, -/
  refused_iff : 200 ≤ status ∧ status ≤ 299 →
    ((∃ fault, answer = .error fault ∧ fault.kind = .registryError) ↔ ∃ code, RefusedIn body code)
  /-- and then with the code of the refusal; -/
  refused : 200 ≤ status ∧ status ≤ 299 →
    ∀ code, RefusedIn body code → ∃ fault, answer = .error fault ∧ IsRefusal code fault
  /-- every other fault says that the response is not understood. -/
  otherwise : 200 ≤ status ∧ status ≤ 299 →
    ∀ fault, answer = .error fault → fault.kind ≠ .registryError →
      fault.kind = .unrecognizedResponse

/-- A call is refused without a request, or it asks once and checks the status of the document
before it reads anything else of it. -/
theorem refused_or_askOnce (config : Config) (call : Call) :
    (∃ fault, exchange config call = .refused fault) ∨
      ∃ request read, Response.StatusFirst read ∧
        exchange config call = .askOnce request read := by
  cases call with
  | resolve id view =>
      rw [exchange, resolve_eq]
      cases Resolution.Plan.make id view with
      | error fault => exact .inl ⟨_, rfl⟩
      | ok plan =>
          have hread := (Response.statusFirst_extract plan).map Answer.record
          exact .inr ⟨_, _, hread, Exchange.map_askOnce ..⟩
  | query query options =>
      rw [exchange, query_eq]
      cases query.toExpression with
      | error fault => exact .inl ⟨_, rfl⟩
      | ok expression =>
          cases options.validate with
          | error fault => exact .inl ⟨_, rfl⟩
          | ok done =>
              cases config.credentials.isComplete with
              | false => exact .inl ⟨_, rfl⟩
              | true =>
                  have hread := (Response.statusFirst_queryPage (resultFormat options)).map
                    Answer.page
                  exact .inr ⟨_, _, hread, Exchange.map_askOnce ..⟩

theorem askOnce_of_requests {config : Config} {call : Call} {request : Request}
    (h : (exchange config call).requests = [request]) :
    ∃ read, Response.StatusFirst read ∧ exchange config call = .askOnce request read := by
  rcases refused_or_askOnce config call with ⟨fault, hrefused⟩ | ⟨sent, read, hread, hask⟩
  · rw [hrefused] at h
    cases h
  · rw [hask] at h
    obtain rfl := (List.cons.inj h).1
    exact ⟨read, hread, hask⟩

theorem kind_of_parseDocument {body : String} {fault : Fault}
    (h : Response.parseDocument body = .error fault) : fault.kind = .unrecognizedResponse := by
  unfold Response.parseDocument at h
  cases hroot : Xml.parse? body with
  | none =>
      simp only [hroot] at h
      obtain rfl := Except.error.inj h
      rfl
  | some root =>
      simp only [hroot] at h
      cases hdocument : root.toDocument with
      | error cause =>
          rw [hdocument] at h
          obtain rfl := Except.error.inj h
          rfl
      | ok document =>
          rw [hdocument] at h
          cases h

/-- What comes of reading the body of an answer with success: the registry's refusal, if the body
has one, and otherwise no fault but one of the body itself. -/
theorem read_body {read : Json → Except Fault Answer} (hread : Response.StatusFirst read)
    (body : String) :
    (∀ code, RefusedIn body code →
        ∃ message, (Response.parseDocument body).bind read = .error (.registry code message)) ∧
      ∀ fault, (Response.parseDocument body).bind read = .error fault →
        (∃ code message, RefusedIn body code ∧ fault = .registry code message) ∨
          fault.kind = .unrecognizedResponse := by
  constructor
  · rintro code ⟨document, message, hdocument, hrefuses⟩
    refine ⟨message, ?_⟩
    rw [hdocument]
    exact hread.eq_registry_iff.mpr hrefuses
  · intro fault hfault
    rcases Outcome.bind_eq_error_iff.mp hfault with hbody | ⟨document, hdocument, hanswer⟩
    · exact .inr (kind_of_parseDocument hbody)
    by_cases hrefused : ∃ code message, Response.Refuses (Response.envelope document) code message
    · obtain ⟨code, message, hrefuses⟩ := hrefused
      have hregistry := hread.eq_registry_iff.mpr hrefuses
      refine .inl ⟨code, message, ⟨document, message, hdocument, hrefuses⟩, ?_⟩
      exact Except.error.inj (hanswer.symm.trans hregistry)
    · push Not at hrefused
      exact .inr (hread.kind_eq hanswer hrefused)

theorem failsByStage_document {read : Json → Except Fault Answer}
    (hread : Response.StatusFirst read) (status : Nat) (body : String) :
    FailsByStage status body ((Http.documentOf status body).bind read) := by
  have hsuccess : 200 ≤ status ∧ status ≤ 299 →
      Http.documentOf status body = Response.parseDocument body :=
    fun h => if_pos (Http.isSuccess_iff.mpr h)
  obtain ⟨hrefused, hfailed⟩ := read_body hread body
  refine ⟨?unsuccessful, ?successful, ?refused_iff, ?refused, ?otherwise⟩
  case unsuccessful =>
    intro h
    have hfault : Http.documentOf status body =
        .error (.transport status (Http.failureMessage status body)) :=
      if_neg (mt Http.isSuccess_iff.mp h)
    rw [hfault]
    exact ⟨_, rfl, isTransportFault status body⟩
  case successful =>
    intro h
    rw [hsuccess h]
    intro fault hfault
    rcases hfailed fault hfault with ⟨code, message, -, rfl⟩ | hkind
    · simp [Fault.kind]
    · simp [hkind]
  case refused_iff =>
    intro h
    rw [hsuccess h]
    constructor
    · rintro ⟨fault, hfault, hkind⟩
      rcases hfailed fault hfault with ⟨code, message, hcode, -⟩ | hother
      · exact ⟨code, hcode⟩
      · rw [hkind] at hother
        cases hother
    · rintro ⟨code, hcode⟩
      obtain ⟨message, hfault⟩ := hrefused code hcode
      exact ⟨_, hfault, rfl⟩
  case refused =>
    intro h code hcode
    obtain ⟨message, hfault⟩ := hrefused code hcode
    rw [hsuccess h]
    exact ⟨_, hfault, isRefusal code message⟩
  case otherwise =>
    intro h
    rw [hsuccess h]
    intro fault hfault hkind
    rcases hfailed fault hfault with ⟨code, message, -, rfl⟩ | hother
    · exact absurd rfl hkind
    · exact hother

/-- **A call that has had a complete answer fails at the stage that caused the failure**, with the
fault of that stage. -/
theorem failsByStage_of_answered {config : Config} {call : Call} {request : Request}
    (hsent : (exchange config call).requests = [request]) {address : String}
    {outcome : Http.Outcome} {status : Nat} {body : List UInt8}
    (hanswered : Http.send address request outcome = .answered status body) :
    FailsByStage status (Text.decodeBytes body)
      ((exchange config call).answer (Http.send address request outcome).document) := by
  obtain ⟨read, hread, hask⟩ := askOnce_of_requests hsent
  rw [hask, Exchange.answer_askOnce, hanswered]
  exact failsByStage_document hread status (Text.decodeBytes body)

/-- A response by which the registry refuses a caller that it does not know. -/
def deniedBody : List UInt8 :=
  "<Response><Status><Code>4</Code></Status></Response>".toList.map fun c => c.toNat.toUInt8

def deniedCall : Call :=
  .resolve "10.5240/7791-8534-2C23-9030-8610-5" "Full"

def deniedRequest : Request :=
  ⟨.get, "/EIDR/object/10.5240%2F7791-8534-2C23-9030-8610-5?type=Full",
    [("Content-Type", "text/xml"), ("EIDR-Version", "2.7.1")], none⟩

theorem parseDocument_deniedBody : Response.parseDocument (Text.decodeBytes deniedBody) =
    .ok (.object [("Response", .object [("Status", .object [("Code", .string "4")])])]) := by
  have hbody : Text.decodeBytes deniedBody =
      "<Response><Status><Code>4</Code></Status></Response>" := by decide +kernel
  have htokens : Xml.tokens? "<Response><Status><Code>4</Code></Status></Response>".toList =
      some [.startTag ⟨none, "Response"⟩ [] .opening, .startTag ⟨none, "Status"⟩ [] .opening,
        .startTag ⟨none, "Code"⟩ [] .opening, .text ['4'], .endTag ⟨none, "Code"⟩,
        .endTag ⟨none, "Status"⟩, .endTag ⟨none, "Response"⟩] := rfl
  have hdeclaration : Xml.afterDeclaration?
      "<Response><Status><Code>4</Code></Status></Response>".toList = none := rfl
  have hparse : Xml.parse? "<Response><Status><Code>4</Code></Status></Response>" =
      some (.mk ⟨none, "Response"⟩ [] [.element (.mk ⟨none, "Status"⟩ []
        [.element (.mk ⟨none, "Code"⟩ [] [.text "4"])])]) := by
    rw [Xml.parse?, hdeclaration, htokens]
    simp [Xml.rootAfterProlog?, Xml.isOutside, Xml.rootAt?, Xml.openElement?_plain, Xml.readContent]
    rfl
  rw [hbody, Response.parseDocument, hparse]
  rfl

/-- What the call returns when its answer has this status. -/
def deniedAnswer (status : Nat) : Except Fault Answer :=
  (exchange Config.default deniedCall).answer
    (Http.send "https://registry1.eidr.org" deniedRequest (.answered status deniedBody)).document

/-- With success it is the registry that denies access, and without success it is nobody. -/
theorem failsByStage_of_answered_denied :
    (exchange Config.default deniedCall).requests = [deniedRequest] ∧
      (∀ status, Http.send "https://registry1.eidr.org" deniedRequest
        (.answered status deniedBody) = .answered status deniedBody) ∧
      (∃ fault, deniedAnswer 200 = .error fault ∧ fault.kind = .registryError ∧
        fault.isAccessDenied = true ∧ fault.status = 403) ∧
      ∃ fault, deniedAnswer 503 = .error fault ∧ fault.kind = .transportError ∧
        fault.isAccessDenied = false ∧ fault.status = 503 := by
  have hsent : (exchange Config.default deniedCall).requests = [deniedRequest] := by
    decide +kernel
  have hsendable : Http.isSendable "https://registry1.eidr.org" deniedRequest = true := by
    decide +kernel
  have hanswered : ∀ status, Http.send "https://registry1.eidr.org" deniedRequest
      (.answered status deniedBody) = .answered status deniedBody := fun _ => if_pos hsendable
  have hrefused : RefusedIn (Text.decodeBytes deniedBody) "4" :=
    ⟨_, _, parseDocument_deniedBody, _, rfl, rfl, by decide, by decide, rfl⟩
  have hsuccess := failsByStage_of_answered hsent (hanswered 200)
  obtain ⟨denied, hdenied, hrefusal⟩ := hsuccess.refused (by decide) "4" hrefused
  have hfailure := failsByStage_of_answered hsent (hanswered 503)
  obtain ⟨failed, hfailed, htransport⟩ := hfailure.unsuccessful (by decide)
  exact ⟨hsent, hanswered,
    ⟨denied, hdenied, hrefusal.kind, hrefusal.denied_iff.mpr (.inl rfl),
      hrefusal.status_eq.trans (if_pos (.inl rfl))⟩,
    ⟨failed, hfailed, htransport.kind, htransport.notDenied, htransport.status_eq⟩⟩

end Client

end RegistryClient
