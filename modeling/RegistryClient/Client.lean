import RegistryClient.Config
import RegistryClient.Query.Compile
import RegistryClient.Query.Request
import RegistryClient.Response.Payload

/-!
# The client

What the client does in a call is an `Exchange`, step by step.  Nothing in its type says how often
a call asks the registry, or what it makes of a fault of the transport: that is what the calls
themselves say.

Whatever can be checked without the registry is checked before there is a request.  Resolving
needs no credentials.  A query is checked in this order: the query itself, its options, the
credentials.
-/

namespace RegistryClient

/-- What is done in a call: it ends with a result, or it sends a request and goes on from what
comes of that, be it a document or a fault of the transport. -/
inductive Exchange (α : Type) where
  | done (result : Except Fault α)
  | ask (request : Request) (next : Except Fault Json → Exchange α)

namespace Exchange

variable {α β : Type}

/-- The call fails. -/
def refused (fault : Fault) : Exchange α := .done (.error fault)

/-- What comes of a request is the result. -/
def send (request : Request) : Exchange Json := .ask request .done

/-- The call goes on with the value that it would have ended with; a fault ends it. -/
def bind : Exchange α → (α → Exchange β) → Exchange β
  | .done (.error fault), _ => .refused fault
  | .done (.ok value), further => further value
  | .ask request next, further => .ask request fun reply => (next reply).bind further

instance : Monad Exchange where
  pure value := .done (.ok value)
  bind := bind

/-- The requests that are sent, in order, and the result, where this comes of each request. -/
def play (transport : Request → Except Fault Json) : Exchange α → List Request × Except Fault α
  | .done result => ([], result)
  | .ask request next =>
    let (further, result) := (next (transport request)).play transport
    (request :: further, result)

/-- The requests that a call sends before it has had a reply: none or one. -/
def requests : Exchange α → List Request
  | .done _ => []
  | .ask request _ => [request]

/-- All requests that a call sends when each of them has this reply. -/
def sent (reply : Except Fault Json) (exchange : Exchange α) : List Request :=
  (exchange.play fun _ => reply).1

/-- What a call returns when each of its requests has this reply. -/
def answer (reply : Except Fault Json) (exchange : Exchange α) : Except Fault α :=
  (exchange.play fun _ => reply).2

/-- The call with its result changed. -/
def map (change : α → β) (exchange : Exchange α) : Exchange β :=
  exchange.bind fun value => pure (change value)

end Exchange

/-! ## Calls -/

namespace Client

/-- The headers of every request. -/
def headers (config : Config) : List (String × String) :=
  let common := [("Content-Type", "text/xml"), ("EIDR-Version", config.apiVersion)]
  match config.credentials.authorization? with
  | none => common
  | some authorization => common ++ [("Authorization", authorization)]

/-- The call that resolves a record to a view. -/
def resolve (config : Config) (id view : String) : Exchange Json := do
  let plan ← .done ((Resolution.Plan.make id view).mapError Resolution.PlanFault.toFault)
  let document ← .send ⟨plan.method, plan.path, headers config, none⟩
  .done (Response.extract plan document)

/-- The fault of a query without complete credentials. -/
def missingCredentials : Fault :=
  .unauthorized "queries require user, party and password credentials"

/-- Only a caller with complete credentials may query. -/
def requireCredentials (config : Config) : Exchange Unit :=
  if config.credentials.isComplete then pure () else .refused missingCredentials

/-- The path at which queries are asked. -/
def queryPath (options : Query.Options) : String :=
  if options.idsOnly then "/EIDR/query/?type=ID" else "/EIDR/query/"

/-- What a query returns of each match. -/
def resultFormat (options : Query.Options) : Response.ResultFormat :=
  if options.idsOnly then .idOnly else .metadata

/-- The request of a query. -/
def queryRequest (config : Config) (expression : String) (options : Query.Options) : Request where
  method := .post
  path := queryPath options
  headers := headers config
  body := some (Query.body expression options.pageNumber
    (options.pageSize.getD config.pageSize) options.root)

/-- The call that runs a query. -/
def query (config : Config) (query : Query) (options : Query.Options) :
    Exchange Response.QueryPage := do
  let expression ← .done (query.toExpression.mapError QueryFault.toFault)
  .done (options.validate.mapError Query.OptionsFault.toFault)
  requireCredentials config
  let document ← .send (queryRequest config expression options)
  .done (Response.queryPage (resultFormat options) document)

/-! ## Sessions -/

/-- A call with its arguments. -/
inductive Call where
  | resolve (id view : String)
  | query (query : Query) (options : Query.Options)

/-- What a call returns. -/
inductive Answer where
  | record (record : Json)
  | page (page : Response.QueryPage)

/-- What is done in a call. -/
def exchange (config : Config) : Call → Exchange Answer
  | .resolve id view => (resolve config id view).map .record
  | .query query options => (Client.query config query options).map .page

/-- The requests and the answers of calls in order, each with the reply that every request of
the call has. -/
def run (config : Config) (calls : List (Call × Except Fault Json)) :
    List (List Request × Except Fault Answer) :=
  calls.map fun (call, reply) =>
    ((exchange config call).sent reply, (exchange config call).answer reply)

end Client

end RegistryClient
