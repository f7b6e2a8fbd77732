import RegistryClient.Proofs.Client.Calls
import RegistryClient.Proofs.Config
import RegistryClient.Proofs.Query.Body

/-!
# The page that a query asks for

A query is sent only with options that are valid: they have a page number, the page size is not
zero if they have one, and the record below which is searched has an identifier.  What goes into the
request is the configured page size if the options have none, and this one is not looked at, since a
client can be made from a configuration that was not validated.

So each request asks for a page with a number from one on, below a record with an identifier if
below any, and for a page with something on it unless the configured size is zero and is used
(`run_asks_for_pages`).  From a valid configuration every page asked for is a real one.
-/

namespace RegistryClient

/-! ## Valid options -/

namespace Query.Options

/-- The options ask for some page, and for the matches below a record if below anything. -/
structure Valid (options : Options) : Prop where
  pageNumber : options.pageNumber ≠ 0
  pageSize : options.pageSize ≠ some 0
  root : ∀ id ∈ options.root, Identifier.isValid id = true

theorem validate_eq_ok_iff {options : Options} : options.validate = .ok () ↔ options.Valid := by
  constructor
  · intro h
    unfold validate at h
    split at h
    · cases h
    · next hnumber =>
      split at h
      · cases h
      · next hsize =>
        refine ⟨hnumber, hsize, fun id hid => ?_⟩
        rw [Option.mem_def.mp hid] at h
        by_cases hvalid : Identifier.isValid id = true
        · exact hvalid
        · simp [hvalid] at h
  · intro h
    rw [validate, if_neg h.pageNumber, if_neg h.pageSize]
    cases hroot : options.root with
    | none => rfl
    | some id => exact if_pos (h.root id hroot)

end Query.Options

namespace Client

open Query (BodyContent)

/-! ## What is sent for a query -/

/-- Only what passes all checks is sent. -/
theorem mem_sent_query_iff {config : Config} {query : Query} {options : Query.Options}
    {reply : Except Fault Json} {request : Request} :
    request ∈ (Client.query config query options).sent reply ↔
      ∃ expression, query.toExpression = .ok expression ∧ options.Valid ∧
        config.credentials.Complete ∧ request = queryRequest config expression options := by
  rw [← Query.Options.validate_eq_ok_iff, ← Credentials.isComplete_iff]
  rw [query_eq]
  cases hexpression : query.toExpression with
  | error fault => simp
  | ok expression =>
      cases hoptions : options.validate with
      | error fault => simp
      | ok done =>
          by_cases hcomplete : config.credentials.isComplete = true
          · simp [hcomplete]
          · simp [hcomplete]

/-- The body of the request reads as this. -/
def Asks (request : Request) (content : BodyContent) : Prop :=
  ∃ body, request.body = some body ∧ Query.readBody body = some content

/-- What the request for a query asks for is what the options say, with the configured page size in
the place of one that they do not give. -/
theorem asks_of_mem_sent {config : Config} {query : Query} {options : Query.Options}
    {reply : Except Fault Json} {request : Request}
    (h : request ∈ (Client.query config query options).sent reply) :
    options.Valid ∧ ∃ expression, query.toExpression = .ok expression ∧
      Asks request ⟨expression, options.pageNumber, options.pageSize.getD config.pageSize,
        options.root⟩ := by
  obtain ⟨expression, hexpression, hoptions, -, rfl⟩ := mem_sent_query_iff.mp h
  exact ⟨hoptions, expression, hexpression, _, rfl, Query.readBody_body _ _ _ hoptions.root⟩

theorem one_le_pageSize_iff {options : Query.Options} (h : options.Valid) (configured : Nat) :
    1 ≤ options.pageSize.getD configured ↔ options.pageSize ≠ none ∨ 1 ≤ configured := by
  cases hsize : options.pageSize with
  | none => simp
  | some size =>
      have hpositive : size ≠ 0 := by
        rintro rfl
        exact h.pageSize hsize
      simp only [Option.getD_some, ne_eq, reduceCtorEq, not_false_eq_true, true_or, iff_true]
      omega

/-! ## Real pages -/

/-- The page has a number and a size, and the record below which is searched an identifier. -/
structure RealPage (content : BodyContent) : Prop where
  pageNumber : 1 ≤ content.pageNumber
  pageSize : 1 ≤ content.pageSize
  root : ∀ id ∈ content.root, Identifier.isValid id = true

/-- The request asks for a page that is real unless it has the configured size and that is zero. -/
structure AsksForPage (config : Config) (query : Query) (options : Query.Options)
    (request : Request) (content : BodyContent) : Prop where
  asks : Asks request content
  expression : query.toExpression = .ok content.expression
  pageNumber : 1 ≤ content.pageNumber
  root : ∀ id ∈ content.root, Identifier.isValid id = true
  pageSize_iff : 1 ≤ content.pageSize ↔ options.pageSize ≠ none ∨ 1 ≤ config.pageSize

theorem AsksForPage.realPage {config : Config} {query : Query} {options : Query.Options}
    {request : Request} {content : BodyContent}
    (h : AsksForPage config query options request content) (hconfig : config.Valid) :
    RealPage content := by
  have hconfigured : 1 ≤ config.pageSize := Nat.one_le_iff_ne_zero.mpr hconfig.pageSize
  exact ⟨h.pageNumber, h.pageSize_iff.mpr (Or.inr hconfigured), h.root⟩

theorem exists_asksForPage {config : Config} {query : Query} {options : Query.Options}
    {reply : Except Fault Json} {request : Request}
    (h : request ∈ (Client.query config query options).sent reply) :
    ∃ content, AsksForPage config query options request content := by
  obtain ⟨hoptions, expression, hexpression, hasks⟩ := asks_of_mem_sent h
  exact ⟨_, hasks, hexpression, Nat.one_le_iff_ne_zero.mpr hoptions.pageNumber, hoptions.root,
    one_le_pageSize_iff hoptions config.pageSize⟩

/-- What the request of any single query has, each request of a query in a session has. -/
theorem forall₂_run {config : Config} {Has : Query → Query.Options → Request → Prop}
    (h : ∀ query options reply, ∀ request ∈ (Client.query config query options).sent reply,
      Has query options request) (calls : List (Call × Except Fault Json)) :
    List.Forall₂ (fun given outcome => ∀ query options, given.1 = .query query options →
      ∀ request ∈ outcome.1, Has query options request) calls (run config calls) := by
  induction calls with
  | nil => exact .nil
  | cons first rest ih =>
      obtain ⟨call, reply⟩ := first
      rw [run_cons]
      refine .cons ?_ ih
      rintro query options rfl request hrequest
      rw [exchange, Exchange.sent_map] at hrequest
      exact h query options reply request hrequest

/-- **Every query of a session asks for a page** with a number from one on, below a record with an
identifier if below any, and with a size from one on exactly if the options give one or the
configured one is not zero.  From a valid configuration all these pages are real. -/
theorem run_asks_for_pages (config : Config) :
    (∀ calls, List.Forall₂ (fun given outcome => ∀ query options,
      given.1 = .query query options → ∀ request ∈ outcome.1,
        ∃ content, AsksForPage config query options request content) calls (run config calls)) ∧
    (config.validate = .ok () →
      ∀ calls, List.Forall₂ (fun given outcome => ∀ query options,
        given.1 = .query query options → ∀ request ∈ outcome.1,
          ∃ content, Asks request content ∧ RealPage content) calls (run config calls)) := by
  refine ⟨forall₂_run fun _ _ _ _ => exists_asksForPage, fun hvalid => forall₂_run ?_⟩
  intro query options reply request hrequest
  obtain ⟨content, hasks⟩ := exists_asksForPage hrequest
  exact ⟨content, hasks.asks, hasks.realPage (Config.validate_eq_ok_iff.mp hvalid)⟩

/-! ## A configured size of zero -/

/-- The default configuration with credentials and another page size. -/
def pagingConfig (pageSize : Nat) : Config :=
  { Config.default with pageSize, credentials := ⟨some "u", some "p", some "s"⟩ }

/-- The second page of the matches below a record. -/
def secondPage (pageSize : Option Nat) : Query.Options :=
  ⟨2, pageSize, some "10.5240/7791-8534-2C23-9030-8610-5", true⟩

theorem sent_pagingConfig {options : Query.Options} (h : options.Valid) (pageSize : Nat)
    (reply : Except Fault Json) :
    (Client.query (pagingConfig pageSize) (.expression "(a b)") options).sent reply =
      [queryRequest (pagingConfig pageSize) "(a b)" options] := by
  have htrim : Text.trim "(a b)" = "(a b)" := by decide +kernel
  have hcomplete : Credentials.isComplete ⟨some "u", some "p", some "s"⟩ = true := by
    decide +kernel
  simp [query_eq, Query.toExpression, htrim, Query.Options.validate_eq_ok_iff.mpr h,
    pagingConfig, hcomplete]

/-- A page with nothing on it is asked for. -/
theorem empty_page_asked :
    ∃ request, (∀ reply,
        (Client.query (pagingConfig 0) (.expression "(a b)") .default).sent reply = [request]) ∧
      Asks request ⟨"(a b)", 1, 0, none⟩ := by
  have hvalid : Query.Options.default.Valid :=
    ⟨by decide, by decide, by simp [Query.Options.default]⟩
  refine ⟨_, sent_pagingConfig hvalid 0, _, rfl, ?_⟩
  exact Query.readBody_body _ _ _ hvalid.root

theorem valid_secondPage {pageSize : Option Nat} (h : pageSize ≠ some 0) :
    (secondPage pageSize).Valid := by
  refine ⟨Nat.succ_ne_zero 1, h, fun id hid => ?_⟩
  rw [← Option.some.inj hid]
  decide

theorem mem_sent_secondPage {pageSize : Option Nat} (h : pageSize ≠ some 0) (configured : Nat)
    (reply : Except Fault Json) :
    queryRequest (pagingConfig configured) "(a b)" (secondPage pageSize) ∈
      (exchange (pagingConfig configured)
        (.query (.expression "(a b)") (secondPage pageSize))).sent reply := by
  rw [exchange, Exchange.sent_map, sent_pagingConfig (valid_secondPage h)]
  exact List.mem_singleton_self _

/-- A page size of its own is used with any configuration, and the configured one with a valid
configuration. -/
theorem run_asks_for_pages_second :
    (∃ content, Asks (queryRequest (pagingConfig 0) "(a b)" (secondPage (some 10))) content ∧
      1 ≤ content.pageNumber ∧ 1 ≤ content.pageSize) ∧
    (pagingConfig 25).validate = .ok () ∧
      ∃ content, Asks (queryRequest (pagingConfig 25) "(a b)" (secondPage none)) content ∧
        RealPage content := by
  have hvalid : (pagingConfig 25).validate = .ok () := by decide +kernel
  have hgiven := (run_asks_for_pages (pagingConfig 0)).1
    [(.query (.expression "(a b)") (secondPage (some 10)), .error missingCredentials)]
  have hconfigured := (run_asks_for_pages (pagingConfig 25)).2 hvalid
    [(.query (.expression "(a b)") (secondPage none), .error missingCredentials)]
  rw [run_cons, List.forall₂_cons] at hgiven hconfigured
  have hten : some 10 ≠ some 0 := by decide
  have hnone : none ≠ some 0 := by decide
  obtain ⟨content, hasks⟩ :=
    hgiven.1 _ _ rfl _ (mem_sent_secondPage hten 0 (.error missingCredentials))
  exact ⟨⟨content, hasks.asks, hasks.pageNumber, hasks.pageSize_iff.mpr (Or.inl (by decide))⟩,
    hvalid, hconfigured.1 _ _ rfl _ (mem_sent_secondPage hnone 25 (.error missingCredentials))⟩

end Client

end RegistryClient
