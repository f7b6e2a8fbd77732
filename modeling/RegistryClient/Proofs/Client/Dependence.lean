import RegistryClient.Proofs.Client.Calls
import RegistryClient.Proofs.Query.Compile

/-!
# What a call depends on

A call is given more than it looks at.  Two comparisons of calls say what does not matter.

* Of a query only its expression matters, so a query tree and the text that it is compiled to
  are the same call (`compiled_expression_same_call`).  The text is trimmed once more, as any
  ready-made expression is; that changes nothing because every expression begins and ends with a
  parenthesis, whatever blanks the searched values have.
* Of the credentials it matters whether they are complete, and one header presents them.
  `run_of_other_credentials` compares two sessions that differ in nothing else: step by step
  their calls are `Alike`, they ask for the same thing and go on alike from every reply.
-/

namespace RegistryClient

/-! ## Expressions -/

theorem Query.toExpression_expression_eq_ok_iff {text expression : String} :
    (Query.expression text).toExpression = .ok expression ↔
      Text.trim text = expression ∧ expression ≠ "" := by
  have hread : (Query.expression text).toExpression =
      if Text.trim text = "" then .error .blankExpression else .ok (Text.trim text) := rfl
  rw [hread]
  by_cases hblank : Text.trim text = ""
  · rw [if_pos hblank]
    constructor
    · intro h
      cases h
    · rintro ⟨rfl, hne⟩
      exact absurd hblank hne
  · rw [if_neg hblank, Except.ok.injEq]
    constructor
    · rintro rfl
      exact ⟨rfl, hblank⟩
    · exact And.left

/-- The expression of a query, in whichever form the query is given, is trimmed and not blank. -/
theorem Query.trim_of_toExpression {query : Query} {expression : String}
    (h : query.toExpression = .ok expression) :
    Text.trim expression = expression ∧ expression ≠ "" := by
  cases query with
  | expression text =>
      obtain ⟨rfl, hne⟩ := Query.toExpression_expression_eq_ok_iff.mp h
      exact ⟨Text.trim_trim text, hne⟩
  | structured node =>
      obtain ⟨-, rfl⟩ := Query.compile_eq_ok_iff.mp h
      exact ⟨node.expression.trim_text, node.expression.text_ne_empty⟩

theorem Query.toExpression_toExpression {query : Query} {expression : String}
    (h : query.toExpression = .ok expression) :
    (Query.expression expression).toExpression = .ok expression :=
  Query.toExpression_expression_eq_ok_iff.mpr (Query.trim_of_toExpression h)

namespace Client

/-- Of a query a call looks at the expression only. -/
theorem exchange_query_congr (config : Config) {first second : Query} (options : Query.Options)
    (h : first.toExpression = second.toExpression) :
    exchange config (.query first options) = exchange config (.query second options) := by
  rw [exchange, exchange, Client.query, Client.query, h]

/-- **A query tree and the text that it is compiled to are the same call**: whatever comes of each
request, both send the same requests, if any, and return the same.  What is sent for a query is, as
a query of its own, sent unchanged. -/
theorem compiled_expression_same_call :
    (∀ (node : Query.Node) (expression : String), node.compile = .ok expression →
      ∀ (config : Config) (options : Query.Options) (transport : Request → Except Fault Json),
        (exchange config (.query (.structured node) options)).play transport =
          (exchange config (.query (.expression expression) options)).play transport) ∧
      ∀ (query : Query) (expression : String), query.toExpression = .ok expression →
        (Query.expression expression).toExpression = .ok expression := by
  refine ⟨fun node expression hcompile config options transport => ?_, fun query expression h => ?_⟩
  · have hstructured : (Query.structured node).toExpression = .ok expression := hcompile
    have hready := Query.toExpression_toExpression hstructured
    rw [exchange_query_congr config options (hstructured.trans hready.symm)]
  · exact Query.toExpression_toExpression h

/-- A search for words with blanks around and between them. -/
def paddedQuery : Query.Node :=
  .search .referentType .contains "  short \t film\n"

/-- What the search is compiled to. -/
def paddedExpression : String :=
  "(/FullMetadata/BaseObjectData/ReferentType short film)"

/-- A configuration with which queries can be asked. -/
def knownConfig : Config :=
  { Config.default with
    credentials := ⟨some "10.5238/USER", some " 10.5237/9F2B-A0E3 ", some "c2hhZG93"⟩ }

theorem compiled_expression_same_call_padded :
    paddedQuery.compile = .ok paddedExpression ∧
      (∀ reply, (exchange knownConfig (.query (.structured paddedQuery) .default)).sent reply =
        [queryRequest knownConfig paddedExpression .default]) ∧
      (∀ reply, (exchange knownConfig (.query (.expression paddedExpression) .default)).sent reply =
        [queryRequest knownConfig paddedExpression .default]) ∧
      (Query.expression " (a b) ").toExpression = .ok "(a b)" ∧
      (Query.expression "(a b)").toExpression = .ok "(a b)" := by
  have hvalid : paddedQuery.Valid := .search (by decide)
  have hcompile : paddedQuery.compile = .ok paddedExpression :=
    Query.compile_eq_ok_iff.mpr ⟨hvalid, by decide +kernel⟩
  have htrimmed : (Query.expression " (a b) ").toExpression = .ok "(a b)" := rfl
  obtain ⟨hsame, hsettled⟩ := compiled_expression_same_call
  have hplayed := hsame paddedQuery paddedExpression hcompile knownConfig .default
  have hready := hsettled (.structured paddedQuery) paddedExpression hcompile
  have hknown : knownConfig.credentials.isComplete = true := by decide
  have hoptions : Query.Options.default.validate = .ok () := rfl
  have hsent (reply : Except Fault Json) :
      (exchange knownConfig (.query (.expression paddedExpression) .default)).sent reply =
        [queryRequest knownConfig paddedExpression .default] := by
    simp only [exchange, query_eq, hready, hoptions, hknown, if_true, Exchange.map_askOnce,
      Exchange.sent_askOnce]
  refine ⟨hcompile, fun reply => ?_, hsent, htrimmed, hsettled _ _ htrimmed⟩
  exact (congrArg Prod.fst (hplayed fun _ => reply)).trans (hsent reply)

/-! ## Credentials -/

/-- The requests are equal but for the credentials that they present. -/
structure EqualButAuthorization (first second : Request) : Prop where
  method : first.method = second.method
  path : first.path = second.path
  /-- The same headers in the same order, and only the one of that name may differ. -/
  headers : List.Forall₂
    (fun header other => header.1 = other.1 ∧ (header.1 ≠ "Authorization" → header.2 = other.2))
    first.headers second.headers
  body : first.body = second.body

/-- Step by step the calls ask for the same thing, each with its own credentials, and from every
reply they go on alike, to the same result. -/
inductive Alike {α : Type} : Exchange α → Exchange α → Prop where
  | done (result : Except Fault α) : Alike (.done result) (.done result)
  | ask {request other : Request} {next following : Except Fault Json → Exchange α} :
      EqualButAuthorization request other → (∀ reply, Alike (next reply) (following reply)) →
      Alike (.ask request next) (.ask other following)

section Alike

variable {α β : Type} {first second : Exchange α}

theorem Alike.bind (h : Alike first second) {further following : α → Exchange β}
    (hfurther : ∀ value, Alike (further value) (following value)) :
    Alike (first.bind further) (second.bind following) := by
  induction h with
  | done result =>
      cases result with
      | error fault => exact .done _
      | ok value => exact hfurther value
  | ask hrequest _ ih => exact .ask hrequest ih

theorem Alike.map (h : Alike first second) (change : α → β) :
    Alike (first.map change) (second.map change) :=
  h.bind fun _ => .done _

theorem Alike.send {request other : Request} (h : EqualButAuthorization request other) :
    Alike (Exchange.send request) (Exchange.send other) :=
  .ask h .done

theorem Alike.sent (h : Alike first second) (reply : Except Fault Json) :
    List.Forall₂ EqualButAuthorization (first.sent reply) (second.sent reply) := by
  induction h with
  | done result => exact .nil
  | ask hrequest _ ih =>
      rw [Exchange.sent_ask, Exchange.sent_ask]
      exact .cons hrequest (ih reply)

theorem Alike.answer (h : Alike first second) (reply : Except Fault Json) :
    first.answer reply = second.answer reply := by
  induction h with
  | done result => rfl
  | ask _ _ ih =>
      rw [Exchange.answer_ask, Exchange.answer_ask]
      exact ih reply

end Alike

section Credentials

variable {config : Config} {credentials : Credentials}
  (hcomplete : config.credentials.Complete ↔ credentials.Complete)
include hcomplete

theorem isComplete_eq : config.credentials.isComplete = credentials.isComplete := by
  rw [Bool.eq_iff_iff, Credentials.isComplete_iff, Credentials.isComplete_iff]
  exact hcomplete

theorem equalButAuthorization (method : Method) (path : String) (body : Option String) :
    EqualButAuthorization ⟨method, path, headers config, body⟩
      ⟨method, path, headers { config with credentials := credentials }, body⟩ := by
  refine ⟨rfl, rfl, ?_, rfl⟩
  have hsome := isComplete_eq hcomplete
  unfold Credentials.isComplete at hsome
  unfold headers
  cases hfirst : config.credentials.authorization? with
  | none =>
      rw [hfirst] at hsome
      have hsecond : credentials.authorization? = none := by simpa using hsome.symm
      simp [hsecond]
  | some authorization =>
      rw [hfirst] at hsome
      obtain ⟨other, hsecond⟩ := Option.isSome_iff_exists.mp hsome.symm
      simp [hsecond]

theorem alike_resolve (id view : String) :
    Alike (resolve config id view)
      (resolve { config with credentials := credentials } id view) := by
  refine Alike.bind (.done _) fun plan => ?_
  refine Alike.bind (.send (equalButAuthorization hcomplete _ _ _)) fun document => ?_
  exact .done _

theorem alike_requireCredentials :
    Alike (requireCredentials config)
      (requireCredentials { config with credentials := credentials }) := by
  unfold requireCredentials
  rw [isComplete_eq hcomplete]
  cases credentials.isComplete with
  | false => exact .done _
  | true => exact .done _

theorem alike_query (query : Query) (options : Query.Options) :
    Alike (Client.query config query options)
      (Client.query { config with credentials := credentials } query options) := by
  refine Alike.bind (.done _) fun expression => ?_
  refine Alike.bind (.done _) fun _ => ?_
  refine Alike.bind (alike_requireCredentials hcomplete) fun _ => ?_
  refine Alike.bind (.send (equalButAuthorization hcomplete _ _ _)) fun document => ?_
  exact .done _

theorem alike_exchange (call : Call) :
    Alike (exchange config call) (exchange { config with credentials := credentials } call) := by
  cases call with
  | resolve id view => exact (alike_resolve hcomplete id view).map Answer.record
  | query query options => exact (alike_query hcomplete query options).map Answer.page

/-- **Credentials show in a session only by being complete or not, and in one header.**  Two
sessions with the same calls and replies send the same requests but for the value of that
header, and every call returns the same in both. -/
theorem run_of_other_credentials (calls : List (Call × Except Fault Json)) :
    List.Forall₂
      (fun outcome other =>
        List.Forall₂ EqualButAuthorization outcome.1 other.1 ∧ outcome.2 = other.2)
      (run config calls) (run { config with credentials := credentials } calls) := by
  induction calls with
  | nil => exact .nil
  | cons given rest ih =>
      obtain ⟨call, reply⟩ := given
      have halike := alike_exchange hcomplete call
      rw [run_cons, run_cons]
      exact .cons ⟨halike.sent reply, halike.answer reply⟩ ih

end Credentials

/-- Other credentials that are complete, once they are trimmed. -/
def otherCredentials : Credentials :=
  ⟨some "\t10.5238/OTHER", some "10.5237/1111-2222 ", some "b3RoZXI="⟩

/-- A query that is answered and a resolution that is not. -/
def twoCalls : List (Call × Except Fault Json) :=
  [(.query (.structured paddedQuery) .default,
      .ok (.object [("QueryResults", .object [("TotalMatches", .string "0")])])),
    (.resolve "10.5240/7791-8534-2C23-9030-8610-5" "Full",
      .error (.transport 503 "maintenance"))]

theorem run_of_other_credentials_padded :
    (knownConfig.credentials.Complete ↔ otherCredentials.Complete) ∧
      headers knownConfig ≠ headers { knownConfig with credentials := otherCredentials } ∧
      List.Forall₂
        (fun outcome other =>
          List.Forall₂ EqualButAuthorization outcome.1 other.1 ∧ outcome.2 = other.2)
        (run knownConfig twoCalls)
        (run { knownConfig with credentials := otherCredentials } twoCalls) := by
  have hknown : knownConfig.credentials.Complete := Credentials.isComplete_iff.mp (by decide)
  have hother : otherCredentials.Complete := Credentials.isComplete_iff.mp (by decide)
  have hcomplete := iff_of_true hknown hother
  exact ⟨hcomplete, by decide, run_of_other_credentials hcomplete twoCalls⟩

end Client

end RegistryClient
