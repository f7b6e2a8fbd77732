import Mathlib.Data.List.Forall2
import RegistryClient.Proofs.Client.Exchange
import RegistryClient.Proofs.Outcome

/-!
# Calls and what they send

A call is checked where it is made, before anything is sent.  `Refused` says which of
the checks fails first and with which fault the call then ends: resolving has one
check, the plan; a query has three, the expression, the options and the credentials.

`Conforms` says what a call may do with a given reply: a refused call sends nothing and
returns its fault whatever the reply would have been, and any other call sends exactly
one request, of the form that `IsRequestOf` states, and passes a fault of the transport
on.  `checked_exchange` compares the two kinds of calls with these once: each is refused,
or it is a single request.  The main statement, `run_conforms`, is the same for every call
of a session.

Resolving has no fault for missing credentials, so it returns one only when the
transport did.
-/

namespace RegistryClient

/-! ## Credentials -/

namespace Credentials

/-- All three parts are there, and none of them is blank. -/
def Complete (credentials : Credentials) : Prop :=
  ∀ part ∈ [credentials.userId, credentials.partyId, credentials.passwordShadow],
    ∃ text, part = some text ∧ Text.trim text ≠ ""

theorem isSome_present?_iff {part : Option String} :
    (present? part).isSome = true ↔ ∃ text, part = some text ∧ Text.trim text ≠ "" := by
  cases part with
  | none => simp [present?]
  | some text =>
      by_cases hblank : Text.trim text = ""
      · simp [present?, hblank]
      · simp [present?, hblank]

theorem isComplete_iff {credentials : Credentials} :
    credentials.isComplete = true ↔ credentials.Complete := by
  unfold Complete
  simp only [List.forall_mem_cons, List.not_mem_nil, false_implies, implies_true, and_true,
    ← isSome_present?_iff]
  unfold isComplete authorization?
  cases present? credentials.userId <;> cases present? credentials.partyId <;>
    cases present? credentials.passwordShadow <;> simp

end Credentials

namespace Client

/-! ## The checks before a request -/

/-- The call fails the first of its checks that it does not pass, with this fault. -/
inductive Refused (config : Config) : Call → Fault → Prop where
  | plan {id view : String} {fault : Resolution.PlanFault} :
      Resolution.Plan.make id view = .error fault → Refused config (.resolve id view) fault.toFault
  | expression {query : Query} {options : Query.Options} {fault : QueryFault} :
      query.toExpression = .error fault → Refused config (.query query options) fault.toFault
  | options {query : Query} {options : Query.Options} {expression : String}
      {fault : Query.OptionsFault} : query.toExpression = .ok expression →
      options.validate = .error fault → Refused config (.query query options) fault.toFault
  | credentials {query : Query} {options : Query.Options} {expression : String} :
      query.toExpression = .ok expression → options.validate = .ok () →
      ¬ config.credentials.Complete →
      Refused config (.query query options)
        (.unauthorized "queries require user, party and password credentials")

/-- The request has the form that requests of the call have. -/
inductive IsRequestOf (config : Config) : Call → Request → Prop where
  | resolve {id view : String} {plan : Resolution.Plan} {request : Request} :
      Resolution.Plan.make id view = .ok plan → request.method = .get →
      request.path = plan.path → request.body = none →
      IsRequestOf config (.resolve id view) request
  | query {query : Query} {options : Query.Options} {request : Request} {authorization : String} :
      request.method = .post →
      request.path = "/EIDR/query/" ++ (if options.idsOnly then "?type=ID" else "") →
      config.credentials.authorization? = some authorization →
      request.header? "Authorization" = some authorization →
      IsRequestOf config (.query query options) request

theorem header?_authorization {config : Config} {authorization : String}
    (hcredentials : config.credentials.authorization? = some authorization)
    {method : Method} {path : String} {body : Option String} :
    (Request.mk method path (headers config) body).header? "Authorization" =
      some authorization := by
  have htype : Request.lowerCase "Content-Type" ≠ Request.lowerCase "Authorization" := by decide
  have hversion : Request.lowerCase "EIDR-Version" ≠ Request.lowerCase "Authorization" := by decide
  simp [Request.header?, headers, hcredentials, htype, hversion]

theorem refused_resolve_iff {config : Config} {id view : String} {cause : Fault} :
    Refused config (.resolve id view) cause ↔
      ∃ fault, Resolution.Plan.make id view = .error fault ∧ cause = fault.toFault := by
  constructor
  · intro h
    cases h with
    | plan hplan => exact ⟨_, hplan, rfl⟩
  · rintro ⟨fault, hplan, rfl⟩
    exact .plan hplan

theorem refused_query_iff {config : Config} {query : Query} {options : Query.Options}
    {cause : Fault} :
    Refused config (.query query options) cause ↔
      (∃ fault, query.toExpression = .error fault ∧ cause = fault.toFault) ∨
        ∃ expression, query.toExpression = .ok expression ∧
          ((∃ fault, options.validate = .error fault ∧ cause = fault.toFault) ∨
            options.validate = .ok () ∧ ¬ config.credentials.Complete ∧
              cause = missingCredentials) := by
  constructor
  · intro h
    cases h with
    | expression hexpression => exact Or.inl ⟨_, hexpression, rfl⟩
    | options hexpression hoptions => exact Or.inr ⟨_, hexpression, Or.inl ⟨_, hoptions, rfl⟩⟩
    | credentials hexpression hoptions hcredentials =>
        exact Or.inr ⟨_, hexpression, Or.inr ⟨hoptions, hcredentials, rfl⟩⟩
  · rintro (⟨fault, hexpression, rfl⟩ | ⟨expression, hexpression, hrest⟩)
    · exact .expression hexpression
    · rcases hrest with ⟨fault, hoptions, rfl⟩ | ⟨hoptions, hcredentials, rfl⟩
      · exact .options hexpression hoptions
      · exact .credentials hexpression hoptions hcredentials

/-- The call is refused with the fault of the check it fails, or it passes them all and
asks once. -/
inductive Checked {α : Type} (config : Config) (call : Call) : Exchange α → Prop where
  | refused {fault : Fault} : (∀ cause, Refused config call cause ↔ cause = fault) →
      Checked config call (.refused fault)
  | askOnce {request : Request} {read : Json → Except Fault α} :
      (∀ cause, ¬ Refused config call cause) → IsRequestOf config call request →
      Checked config call (.askOnce request read)

theorem Checked.map {α β : Type} {config : Config} {call : Call} {checked : Exchange α}
    (h : Checked config call checked) (change : α → β) :
    Checked config call (checked.map change) := by
  cases h with
  | refused hfault =>
      rw [Exchange.map_refused]
      exact .refused hfault
  | askOnce hpassed hrequest =>
      rw [Exchange.map_askOnce]
      exact .askOnce hpassed hrequest

theorem checked_resolve (config : Config) (id view : String) :
    Checked config (.resolve id view) (resolve config id view) := by
  rw [resolve_eq]
  cases hplan : Resolution.Plan.make id view with
  | error fault => exact .refused (by simp [refused_resolve_iff, hplan])
  | ok plan => exact .askOnce (by simp [refused_resolve_iff, hplan]) (.resolve hplan rfl rfl rfl)

theorem checked_query (config : Config) (query : Query) (options : Query.Options) :
    Checked config (.query query options) (Client.query config query options) := by
  have hrefused := @refused_query_iff config query options
  simp only [← Credentials.isComplete_iff] at hrefused
  rw [query_eq]
  cases hexpression : query.toExpression with
  | error fault => exact .refused (by simp [hrefused, hexpression])
  | ok expression =>
      cases hoptions : options.validate with
      | error fault => exact .refused (by simp [hrefused, hexpression, hoptions])
      | ok done =>
          cases hcomplete : config.credentials.isComplete with
          | false => exact .refused (by simp [hrefused, hexpression, hoptions, hcomplete])
          | true =>
              obtain ⟨authorization, hauthorization⟩ := Option.isSome_iff_exists.mp hcomplete
              refine .askOnce (by simp [hrefused, hexpression, hoptions, hcomplete])
                (.query rfl ?_ hauthorization (header?_authorization hauthorization))
              show queryPath options = _
              unfold queryPath
              split <;> rfl

theorem checked_exchange (config : Config) (call : Call) :
    Checked config call (exchange config call) := by
  cases call with
  | resolve id view => exact (checked_resolve config id view).map Answer.record
  | query query options => exact (checked_query config query options).map Answer.page

/-! ## Missing credentials -/

theorem toFault_ne_unauthorized (fault : Resolution.PlanFault) (detail : String) :
    fault.toFault ≠ .unauthorized detail := by
  cases fault <;> exact nofun

theorem checkStatus_ne_unauthorized (envelope : Json) (detail : String) :
    Response.checkStatus envelope ≠ .error (.unauthorized detail) := by
  unfold Response.checkStatus
  split
  · exact nofun
  · split
    · exact nofun
    · split
      · exact nofun
      · split <;> exact nofun

/-- No response says that credentials are missing. -/
theorem extract_ne_unauthorized (plan : Resolution.Plan) (document : Json) (detail : String) :
    Response.extract plan document ≠ .error (.unauthorized detail) := by
  intro h
  rw [Response.extract, Outcome.bind_eq_error_iff] at h
  rcases h with hstatus | ⟨_, -, h⟩
  · exact checkStatus_ne_unauthorized _ detail hstatus
  · split at h <;> cases h

theorem reply_of_resolve_unauthorized {config : Config} {id view detail : String}
    {reply : Except Fault Json}
    (h : (exchange config (.resolve id view)).answer reply = .error (.unauthorized detail)) :
    reply = .error (.unauthorized detail) := by
  rw [exchange, resolve_eq] at h
  cases hplan : Resolution.Plan.make id view with
  | error fault =>
      rw [hplan] at h
      exact absurd (Except.error.inj h) (toFault_ne_unauthorized fault detail)
  | ok plan =>
      simp only [hplan, Exchange.map_askOnce, Exchange.answer_askOnce] at h
      cases reply with
      | error fault =>
          obtain rfl := Except.error.inj h
          rfl
      | ok document =>
          have hextract := Outcome.map_eq_error_iff.mp h
          exact absurd hextract (extract_ne_unauthorized plan document detail)

/-! ## Calls -/

/-- What a call does and returns with a reply is what it may. -/
structure Conforms (config : Config) (call : Call) (reply : Except Fault Json)
    (requests : List Request) (answer : Except Fault Answer) : Prop where
  /-- Nothing is sent exactly when a check before it fails. -/
  silent_iff : requests = [] ↔ ∃ fault, Refused config call fault
  /-- The fault of the first check that fails is returned, whatever the reply. -/
  refused : ∀ fault, Refused config call fault → answer = .error fault
  /-- Otherwise exactly one request is sent. -/
  sent : (∀ fault, ¬ Refused config call fault) →
    ∃ request, requests = [request] ∧ IsRequestOf config call request
  /-- A fault of the transport is returned as it is. -/
  passedOn : (∀ fault, ¬ Refused config call fault) →
    ∀ fault, reply = .error fault → answer = .error fault
  /-- Resolving reports missing credentials only where the transport does. -/
  authorized : ∀ id view detail, call = .resolve id view →
    answer = .error (.unauthorized detail) → reply = .error (.unauthorized detail)

/-- One call does what it may. -/
theorem conforms_exchange (config : Config) (call : Call) (reply : Except Fault Json) :
    Conforms config call reply ((exchange config call).sent reply)
      ((exchange config call).answer reply) := by
  have hauthorized : ∀ id view detail, call = .resolve id view →
      (exchange config call).answer reply = .error (.unauthorized detail) →
      reply = .error (.unauthorized detail) := by
    rintro id view detail rfl
    exact reply_of_resolve_unauthorized
  have hchecked := checked_exchange config call
  generalize exchange config call = checked at hchecked hauthorized ⊢
  cases hchecked with
  | @refused fault hrefused =>
      have hsome : Refused config call fault := (hrefused fault).mpr rfl
      refine ⟨⟨fun _ => ⟨fault, hsome⟩, fun _ => rfl⟩, fun cause hcause => ?_,
        fun hnone => absurd hsome (hnone fault), fun hnone => absurd hsome (hnone fault),
        hauthorized⟩
      rw [(hrefused cause).mp hcause]
      rfl
  | @askOnce request read hpassed hrequest =>
      refine ⟨⟨fun hsilent => ?_, fun hrefused => ?_⟩,
        fun fault hfault => absurd hfault (hpassed fault), fun _ => ⟨request, rfl, hrequest⟩, ?_,
        hauthorized⟩
      · cases hsilent
      · obtain ⟨fault, hfault⟩ := hrefused
        exact absurd hfault (hpassed fault)
      · rintro - fault rfl
        rfl

theorem run_cons (config : Config) (call : Call) (reply : Except Fault Json)
    (calls : List (Call × Except Fault Json)) :
    run config ((call, reply) :: calls) =
      ((exchange config call).sent reply, (exchange config call).answer reply) ::
        run config calls :=
  rfl

/-- **Every call of a session is checked before anything is sent**, sends at most one
request, whatever comes of it, and returns what its checks, the transport or the reply say. -/
theorem run_conforms (config : Config) (calls : List (Call × Except Fault Json)) :
    List.Forall₂ (fun given outcome => Conforms config given.1 given.2 outcome.1 outcome.2)
      calls (run config calls) := by
  induction calls with
  | nil => exact .nil
  | cons first rest ih =>
      obtain ⟨call, reply⟩ := first
      rw [run_cons]
      exact .cons (conforms_exchange config call reply) ih

/-- Resolving does return a fault for missing credentials: the transport's own. -/
theorem resolve_unauthorized_of_reply :
    ¬ ∀ (config : Config) (id view detail : String) (reply : Except Fault Json),
      (resolve config id view).answer reply ≠ .error (.unauthorized detail) := by
  intro hnever
  exact hnever Config.default "10.5240/5CA7-2626-3EF6-2B05-AD9C-M" "Full" "d"
    (.error (.unauthorized "d")) rfl

end Client

end RegistryClient
