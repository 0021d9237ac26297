import SqlGateway.Plan
import SqlGateway.Proofs.Request.Names

/-!
# What a plan may hold

A text reaches a plan on one of three ways, but all of them end in the same place: the statement is
found first, without regard to the tables that are allowed, and then `Plan.ofStatement` checks it
and turns it into a request.  So the list of allowed tables can only refuse a plan, never change
one, and what the check and the translation let through is all that ever reaches the client.
-/

namespace SqlGateway

namespace Plan

/-! ### Finding the statement -/

/-- The statement that a refused text is taken for on the second try. -/
def recovered (fault : Error) (text : List Char) : Except Error (Route × Statement) :=
  match seemingKind text with
  | none => .error fault
  | some kind => do
    match ← Shape.recognize kind .fallback text with
    | some statement => return (.fallback, statement)
    | none => .error (.shape (.format kind))

/-- The statement that the grammar finds in a text, or the second try. -/
def parsed (text : List Char) : Except Error (Route × Statement) :=
  match Statement.ofSql text with
  | .ok statement => .ok (.parsed, statement)
  | .error fault => if fault.isGrammatical then .error fault else recovered fault text

/-- The statement that a normalized text is taken for, and the way it is found. -/
def found (text : List Char) : Except Error (Route × Statement) :=
  match Shape.classify text with
  | none => parsed text
  | some kind => do
    match ← Shape.recognize kind .fast text with
    | some statement => return (.simple, statement)
    | none => parsed text

variable (allowed : Option (List String))

theorem recover_eq_bind (fault : Error) (text : List Char) :
    recover allowed fault text =
      recovered fault text >>= fun statement => ofStatement allowed statement.1 statement.2 := by
  unfold recover recovered
  cases seemingKind text with
  | none => rfl
  | some kind =>
      cases hread : Shape.recognize kind .fallback text with
      | error e => simp [bind, Except.bind, hread]
      | ok statement => cases statement <;> simp [bind, Except.bind, pure, Except.pure, hread]

theorem ofGrammar_eq_bind (text : List Char) :
    ofGrammar allowed text =
      parsed text >>= fun statement => ofStatement allowed statement.1 statement.2 := by
  unfold ofGrammar parsed
  cases Statement.ofSql text with
  | ok statement => rfl
  | error fault =>
      cases hfault : fault.isGrammatical with
      | true => simp [hfault, bind, Except.bind]
      | false => simpa [hfault] using recover_eq_bind allowed fault text

/-- A plan is found first and checked afterwards, whatever the route. -/
theorem ofNormalized_eq_bind (text : List Char) :
    ofNormalized allowed text =
      found text >>= fun statement => ofStatement allowed statement.1 statement.2 := by
  unfold ofNormalized found
  cases Shape.classify text with
  | none => exact ofGrammar_eq_bind allowed text
  | some kind =>
      cases hread : Shape.recognize kind .fast text with
      | error e => simp [bind, Except.bind, hread]
      | ok statement =>
          cases statement with
          | none => simpa [bind, Except.bind, hread] using ofGrammar_eq_bind allowed text
          | some statement => simp [bind, Except.bind, pure, Except.pure, hread]

/-! ### Checking it -/

theorem checkTable_eq_ok {allowed : Option (List String)} {table : String} :
    checkTable allowed table = .ok () ↔
      isIdentifier table = true ∧ ∀ tables ∈ allowed, table ∈ tables := by
  unfold checkTable
  rw [check_bind_eq_ok, checkIdentifier_eq_ok]
  cases allowed with
  | none => simp [pure, Except.pure]
  | some tables =>
      by_cases hmem : table ∈ tables <;> simp [hmem, pure, Except.pure]

theorem ofStatement_eq_ok {allowed : Option (List String)} {route : Route} {s : Statement}
    {plan : Plan} :
    ofStatement allowed route s = .ok plan ↔
      (isIdentifier s.table = true ∧ ∀ tables ∈ allowed, s.table ∈ tables) ∧
        ∃ request, s.toRequest = .ok request ∧ { route, statement := s, request } = plan := by
  unfold ofStatement
  rw [check_bind_eq_ok, checkTable_eq_ok, bind_eq_ok]
  simp only [pure_eq_ok]

/-- What a plan is, on every route: its statement was found in the text, its table passed the check,
and its request is that of the statement. -/
theorem ofSql_eq_ok {allowed : Option (List String)} {sql : String} {plan : Plan} :
    ofSql allowed sql = .ok plan ↔
      found (Shape.normalize sql.toList) = .ok (plan.route, plan.statement) ∧
        (∀ tables ∈ allowed, plan.statement.table ∈ tables) ∧
        plan.statement.toRequest = .ok plan.request := by
  rw [ofSql, ofNormalized_eq_bind, bind_eq_ok]
  constructor
  · rintro ⟨⟨route, statement⟩, hfound, hplan⟩
    obtain ⟨⟨-, htables⟩, request, hrequest, rfl⟩ := ofStatement_eq_ok.mp hplan
    exact ⟨hfound, htables, hrequest⟩
  · rintro ⟨hfound, htables, hrequest⟩
    have htable := (Statement.table_of_toRequest hrequest).2
    exact ⟨_, hfound, ofStatement_eq_ok.mpr ⟨⟨htable, htables⟩, plan.request, hrequest, rfl⟩⟩

end Plan

/-! ### What reaches the client -/

/-- A client that also writes down the requests it is sent. -/
def recording {m : Type → Type} [Monad m] (send : Request → m Outcome) (request : Request) :
    StateT (List Request) m Outcome := fun sent => do
  let outcome ← send request
  return (outcome, sent ++ [request])

/-- Whatever the text, the tables allowed and the route: a plan is about the table of its statement,
that table is allowed, and every name in its request is a plain identifier.  A list of allowed
tables refuses plans and changes none.  The client is sent the request of the plan once, and
nothing if there is no plan. -/
theorem plan_safe (allowed : Option (List String)) (sql : String) :
    (∀ plan, Plan.ofSql allowed sql = .ok plan →
      plan.request.table = plan.statement.table ∧
        (∀ tables, allowed = some tables → plan.request.table ∈ tables) ∧
        plan.request.IsPlain) ∧
    (∀ tables plan, Plan.ofSql (some tables) sql = .ok plan ↔
      Plan.ofSql none sql = .ok plan ∧ plan.statement.table ∈ tables) ∧
    ∀ {m : Type → Type} [Monad m] [LawfulMonad m] (send : Request → m Outcome)
      (sent : List Request),
      (answerSql allowed (recording send) sql).run sent =
        match Plan.ofSql allowed sql with
        | .ok plan => do return (← send plan.request, sent ++ [plan.request])
        | .error error => pure (Outcome.ofError error, sent) := by
  refine ⟨?_, ?_, ?_⟩
  · intro plan hplan
    obtain ⟨-, htables, hrequest⟩ := Plan.ofSql_eq_ok.mp hplan
    have htable := (Statement.table_of_toRequest hrequest).1
    refine ⟨htable, ?_, Statement.isPlain_of_toRequest hrequest⟩
    intro tables hallowed
    rw [htable]
    exact htables tables hallowed
  · intro tables plan
    rw [Plan.ofSql_eq_ok, Plan.ofSql_eq_ok]
    simp only [Option.mem_def, Option.some.injEq, forall_eq', reduceCtorEq, false_implies,
      implies_true, true_and]
    exact ⟨fun ⟨hfound, htable, hrequest⟩ => ⟨⟨hfound, hrequest⟩, htable⟩,
      fun ⟨⟨hfound, hrequest⟩, htable⟩ => ⟨hfound, htable, hrequest⟩⟩
  · intro m _ _ send sent
    unfold answerSql
    cases Plan.ofSql allowed sql with
    | ok plan => rfl
    | error error => rfl

/-- A disjunction of two texts reaches the grammar and is planned. -/
theorem plan_safe_disjunction :
    ∃ plan, Plan.ofSql (some ["t"]) "DELETE FROM t WHERE a = 'x' OR b = 'y'" = .ok plan ∧
      plan.request.table ∈ ["t"] ∧ plan.request.IsPlain := by
  obtain ⟨plan, hplan⟩ := exists_eq_ok_of_isOk
    (show (Plan.ofSql (some ["t"]) "DELETE FROM t WHERE a = 'x' OR b = 'y'").isOk = true by
      decide +kernel)
  obtain ⟨-, hallowed, hplain⟩ := (plan_safe (some ["t"]) _).1 plan hplan
  exact ⟨plan, hplan, hallowed ["t"] rfl, hplain⟩

end SqlGateway
