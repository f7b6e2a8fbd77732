import RegistryClient.Client

/-!
# Calls step by step

A call may send any number of requests and go on from faults of the transport.  Resolving and
querying do neither: a call that passes its checks is `askOnce`, one request whose document is read
and whose fault is passed on, and a call that fails a check is over before there is a request
(`resolve_eq`, `query_eq`).  Both are consequences of how the steps of a call follow each other:
after a fault there are no further steps.
-/

namespace RegistryClient

namespace Exchange

variable {α β : Type}

/-- One request, whose document is read; a fault of the transport is the result. -/
def askOnce (request : Request) (read : Json → Except Fault α) : Exchange α :=
  .ask request fun reply => .done (reply.bind read)

theorem send_bind (request : Request) (read : Json → Except Fault α) :
    (send request >>= fun document => .done (read document)) = askOnce request read := by
  refine congrArg (ask request) (funext fun reply => ?_)
  cases reply with
  | error fault => rfl
  | ok document => rfl

/-! ## What is sent and returned -/

section Reply

variable (reply : Except Fault Json)

theorem sent_ask (request : Request) (next : Except Fault Json → Exchange α) :
    (ask request next).sent reply = request :: (next reply).sent reply :=
  rfl

theorem answer_ask (request : Request) (next : Except Fault Json → Exchange α) :
    (ask request next).answer reply = (next reply).answer reply :=
  rfl

@[simp]
theorem sent_refused (fault : Fault) : (refused fault : Exchange α).sent reply = [] :=
  rfl

@[simp]
theorem sent_askOnce (request : Request) (read : Json → Except Fault α) :
    (askOnce request read).sent reply = [request] :=
  rfl

@[simp]
theorem answer_askOnce (request : Request) (read : Json → Except Fault α) :
    (askOnce request read).answer reply = reply.bind read :=
  rfl

/-- The result does not matter for what is sent. -/
theorem sent_map (exchange : Exchange α) (change : α → β) :
    (exchange.map change).sent reply = exchange.sent reply := by
  induction exchange with
  | done result => cases result <;> rfl
  | ask request next ih => exact congrArg (request :: ·) (ih reply)

end Reply

/-! ## Calls with another result -/

@[simp]
theorem map_refused (fault : Fault) (change : α → β) :
    (refused fault).map change = refused fault :=
  rfl

@[simp]
theorem map_askOnce (request : Request) (read : Json → Except Fault α) (change : α → β) :
    (askOnce request read).map change =
      askOnce request fun document => (read document).map change := by
  refine congrArg (ask request) (funext fun reply => ?_)
  cases reply with
  | error fault => rfl
  | ok document =>
      show (done (read document)).bind _ = done ((read document).map change)
      cases read document <;> rfl

end Exchange

namespace Client

/-! ## The two kinds of calls -/

theorem resolve_eq (config : Config) (id view : String) :
    resolve config id view =
      match Resolution.Plan.make id view with
      | .error fault => .refused fault.toFault
      | .ok plan =>
        .askOnce ⟨plan.method, plan.path, headers config, none⟩ (Response.extract plan) := by
  unfold resolve
  cases Resolution.Plan.make id view with
  | error fault => rfl
  | ok plan => exact Exchange.send_bind _ _

theorem query_eq (config : Config) (query : Query) (options : Query.Options) :
    Client.query config query options =
      match query.toExpression with
      | .error fault => .refused fault.toFault
      | .ok expression =>
        match options.validate with
        | .error fault => .refused fault.toFault
        | .ok () =>
          if config.credentials.isComplete then
            .askOnce (queryRequest config expression options)
              (Response.queryPage (resultFormat options))
          else .refused missingCredentials := by
  unfold Client.query requireCredentials
  cases query.toExpression with
  | error fault => rfl
  | ok expression =>
      cases options.validate with
      | error fault => rfl
      | ok done =>
          cases config.credentials.isComplete with
          | false => rfl
          | true => exact Exchange.send_bind _ _

end Client

end RegistryClient
