import Mathlib.Data.Set.List
import SqlGateway.Proofs.Http.Address
import SqlGateway.Proofs.Plan
import SqlGateway.Proofs.Store.Execute

/-!
# What an outcome tells

A text is answered by a store of tables or by a table service, and a caller sees only an outcome.
Here is said how each of the two takes a request, apart from how the outcome is put together; and
the outcome is shown to tell the same in both cases: rows if a query, an insertion or an update was
done, nothing if a removal was done, and otherwise a failure with the status of what went wrong.

A store may also come to no outcome at all, on a query whose rows cannot be sorted.  A table service
is asked over any transport: a request is always put, as one draft, and what the transport brings
back decides.
-/

namespace SqlGateway

/-! ### How a request is taken -/

/-- How the request of a plan is taken. -/
inductive Reply where
  /-- It is done, and the answer can be read as far as one is needed. -/
  | accepted
  /-- It is refused, with a status that the refusal comes with. -/
  | refused (status : Nat)
  /-- It could not be sent, or the answer not be read. -/
  | failed (error : Error)

/-- How a store takes the request of a plan: its table is there or not. -/
inductive Store.Takes (store : Store) (plan : Plan) : Reply → Prop
  | accepted {rows : List Row} : store.rows? plan.request.table = some rows →
      Takes store plan .accepted
  | missing : store.rows? plan.request.table = none → Takes store plan (.refused 404)

namespace Http

/-- Whether a body is the text of a JSON array of objects. -/
def IsRowList (body : ByteArray) : Prop :=
  ∃ (text : String) (rows : List Row),
    body = text.toUTF8 ∧ Json.read? text = some (.array (rows.map .object))

/-- Whether a status is one of success. -/
def IsSuccessStatus (status : Nat) : Prop :=
  200 ≤ status ∧ status < 300

/-- How a service takes the request of a plan, by what the transport brings back for it.  A removal
is done whatever the body of the response; any other answer has to be a list of rows. -/
inductive Takes (service : Service) (transport : Transport Id) (plan : Plan) : Reply → Prop
  | unanswered {text : String} : transport (service.draft plan.request) = .error text →
      Takes service transport plan (.failed (.http (.transport text)))
  | refused {response : Response} : transport (service.draft plan.request) = .ok response →
      ¬IsSuccessStatus response.status → Takes service transport plan (.refused response.status)
  | removed {response : Response} : transport (service.draft plan.request) = .ok response →
      IsSuccessStatus response.status → plan.statement.kind = .delete →
        Takes service transport plan .accepted
  | listed {response : Response} : transport (service.draft plan.request) = .ok response →
      IsSuccessStatus response.status → plan.statement.kind ≠ .delete →
        IsRowList response.body → Takes service transport plan .accepted
  | unreadable {response : Response} : transport (service.draft plan.request) = .ok response →
      IsSuccessStatus response.status → plan.statement.kind ≠ .delete →
        ¬IsRowList response.body → Takes service transport plan (.failed (.http .undecodableBody))

end Http

/-! ### Uniform outcomes -/

/-- An outcome that tells what became of a text: what was planned, and how the request of the plan
was taken. -/
structure Outcome.IsUniform (planned : Except Error Plan) (takes : Plan → Reply → Prop)
    (outcome : Outcome) : Prop where
  not_both : ¬(outcome.rows.isSome = true ∧ outcome.failure.isSome = true)
  /-- There are rows and no failure exactly if something other than a removal was done. -/
  rows_iff : outcome.rows.isSome = true ∧ outcome.failure = none ↔
    ∃ plan, planned = .ok plan ∧
      plan.statement.kind ∈ [StatementKind.select, .insert, .update] ∧ takes plan .accepted
  /-- There is neither exactly if a removal was done. -/
  neither_iff : outcome.rows = none ∧ outcome.failure = none ↔
    ∃ plan, planned = .ok plan ∧ plan.statement.kind = .delete ∧ takes plan .accepted
  /-- A failure is that of the plan or of the request, and has its status. -/
  failure_status : ∀ failure, outcome.failure = some failure →
    (∃ error, planned = .error error ∧ failure = .ofError error) ∨
      ∃ plan, planned = .ok plan ∧
        ((∃ status, takes plan (.refused status) ∧ failure.status = some status) ∨
          ∃ error, takes plan (.failed error) ∧ failure = .ofError error)

/-- What an outcome has to show of how the request of a statement was taken. -/
inductive Outcome.Shows (kind : StatementKind) : Reply → Outcome → Prop
  | rows (rows : List Row) : kind ≠ .delete → Shows kind .accepted (.found rows)
  | nothing : kind = .delete → Shows kind .accepted .done
  | refused (failure : Failure) {status : Nat} : failure.status = some status →
      Shows kind (.refused status) (.failed failure)
  | failed (error : Error) : Shows kind (.failed error) (.ofError error)

namespace Outcome

variable {takes : Plan → Reply → Prop} {plan : Plan} {reply : Reply} {outcome : Outcome}

/-- The outcome of a text that could not be planned. -/
theorem isUniform_ofError (error : Error) (takes : Plan → Reply → Prop) :
    IsUniform (.error error) takes (.ofError error) where
  not_both := by simp [ofError, failed]
  rows_iff := by simp [ofError, failed]
  neither_iff := by simp [ofError, failed]
  failure_status failure hfailure := .inl ⟨error, rfl, (Option.some.inj hfailure).symm⟩

/-- The outcome of a plan, if it shows how the request was taken and the request was taken in no
other way. -/
theorem isUniform_of_shows (htakes : takes plan reply)
    (honly : takes plan .accepted → reply = .accepted)
    (hshows : Shows plan.statement.kind reply outcome) :
    IsUniform (.ok plan) takes outcome := by
  have hplan : ∀ {p : Plan → Prop}, (∃ other, Except.ok (ε := Error) plan = .ok other ∧ p other) ↔
      p plan := by
    simp
  cases hshows with
  | rows rows hkind =>
      have hmem : plan.statement.kind ∈ [StatementKind.select, .insert, .update] := by
        cases hcases : plan.statement.kind <;> simp_all
      refine ⟨by simp [found], ?_, ?_, by simp [found]⟩
      · rw [hplan]
        simp [found, hmem, htakes]
      · rw [hplan]
        simp [found, hkind]
  | nothing hkind =>
      refine ⟨by simp [done], ?_, ?_, by simp [done]⟩
      · rw [hplan]
        simp [done, hkind]
      · rw [hplan]
        simp [done, hkind, htakes]
  | refused failure hstatus =>
      have hnot : ¬takes plan .accepted := fun haccepted => by cases honly haccepted
      refine ⟨by simp [failed], by simp [failed, hnot], by simp [failed, hnot], ?_⟩
      rintro _ ⟨⟩
      exact .inr ⟨plan, rfl, .inl ⟨_, htakes, hstatus⟩⟩
  | failed error =>
      have hnot : ¬takes plan .accepted := fun haccepted => by cases honly haccepted
      refine ⟨by simp [ofError, failed], by simp [ofError, failed, hnot],
        by simp [ofError, failed, hnot], ?_⟩
      rintro _ ⟨⟩
      exact .inr ⟨plan, rfl, .inr ⟨error, htakes, rfl⟩⟩

end Outcome

/-! ### A store of tables -/

theorem Operation.kind_eq_select_iff {operation : Operation} :
    operation.kind = .select ↔ operation = .select := by
  cases operation <;> simp [kind]

/-- What a plan wants back: rows, unless it is for a removal. -/
theorem Plan.returnsRows_of_ofSql {allowed : Option (List String)} {sql : String} {plan : Plan}
    (hplan : Plan.ofSql allowed sql = .ok plan) :
    plan.request.returnsRows = true ↔ plan.statement.kind ≠ .delete :=
  Statement.returnsRows_of_toRequest (ofSql_eq_ok.mp hplan).2.2

/-- A store reports rows exactly if the request wants some back. -/
theorem Store.report_cases (request : Request) (rows : List Row) :
    (request.returnsRows = true ∧ ∃ found, report request rows = .found found) ∨
      (request.returnsRows = false ∧ report request rows = .done) := by
  unfold report Request.returnsRows
  cases request.operation <;> cases request.select <;> simp

theorem Store.shows_report {request : Request} {kind : StatementKind}
    (hkind : request.returnsRows = true ↔ kind ≠ .delete) (rows : List Row) :
    Outcome.Shows kind .accepted (report request rows) := by
  obtain ⟨hreturns, found, hreport⟩ | ⟨hreturns, hreport⟩ := report_cases request rows
  · rw [hreport]
    exact .rows found (hkind.mp hreturns)
  · rw [hreport]
    exact .nothing (by simpa [hreturns] using hkind)

theorem Store.isUniform_answer {allowed : Option (List String)} {sql : String} {store : Store}
    {outcome : Outcome} (houtcome : ((answer allowed sql).run store).1 = some outcome) :
    Outcome.IsUniform (Plan.ofSql allowed sql) (Takes store) outcome := by
  cases hplan : Plan.ofSql allowed sql with
  | error error =>
      rw [answer_of_error hplan] at houtcome
      obtain rfl := Option.some.inj houtcome
      exact Outcome.isUniform_ofError error _
  | ok plan =>
      rw [answer_of_ok hplan] at houtcome
      cases hrows : store.rows? plan.request.table with
      | none =>
          rw [execute_of_none hrows] at houtcome
          obtain rfl := Option.some.inj houtcome
          refine Outcome.isUniform_of_shows (.missing hrows) ?_ (.refused _ rfl)
          rintro ⟨hsome⟩
          simp [hrows] at hsome
      | some rows =>
          rw [execute_of_some hrows] at houtcome
          obtain ⟨about, -, rfl⟩ := Option.map_eq_some_iff.mp houtcome
          exact Outcome.isUniform_of_shows (.accepted hrows) (fun _ => rfl)
            (shows_report (Plan.returnsRows_of_ofSql hplan) _)

/-- A text that a store comes to no outcome with is a query, and its keys do not order the rows that
it finds consistently. -/
theorem Store.not_isPreorderOn_of_answer {allowed : Option (List String)} {sql : String}
    {store : Store} (hnone : ((answer allowed sql).run store).1 = none) :
    ∃ plan rows, Plan.ofSql allowed sql = .ok plan ∧ plan.request.operation = .select ∧
      store.rows? plan.request.table = some rows ∧
      ¬IsPreorderOn (compareRows plan.request.order)
        (rows.filter (passesAll plan.request.filters)) := by
  cases hplan : Plan.ofSql allowed sql with
  | error error =>
      rw [answer_of_error hplan] at hnone
      contradiction
  | ok plan =>
      rw [answer_of_ok hplan] at hnone
      cases hrows : store.rows? plan.request.table with
      | none =>
          rw [execute_of_none hrows] at hnone
          contradiction
      | some rows =>
          obtain ⟨hselect, hpreorder⟩ := not_isPreorderOn_of_execute hrows hnone
          exact ⟨plan, rows, rfl, hselect, hrows, hpreorder⟩

/-! ### A table service -/

namespace Http

/-- Reading every item of a list succeeds if reading each of them does. -/
theorem isSome_mapM {α β : Type} {read : α → Option β} {items : List α} :
    (items.mapM read).isSome = true ↔ ∀ item ∈ items, (read item).isSome = true := by
  induction items with
  | nil => simp
  | cons item items ih =>
      rw [List.mapM_cons, List.forall_mem_cons, ← ih]
      cases read item <;> cases items.mapM read <;> simp

theorem isSome_asRow? {item : Json} :
    (Json.asRow? item).isSome = true ↔ item ∈ Set.range Json.object := by
  cases item <;> simp [Json.asRow?]

theorem isSome_mapM_asRow? {items : List Json} :
    (items.mapM Json.asRow?).isSome = true ↔ items ∈ Set.range (List.map Json.object) := by
  rw [isSome_mapM, Set.range_list_map]
  exact forall₂_congr fun item _ => isSome_asRow?

theorem fromUTF8?_eq_some_iff {body : ByteArray} {text : String} :
    String.fromUTF8? body = some text ↔ body = text.toUTF8 := by
  unfold String.fromUTF8?
  constructor
  · intro htext
    split at htext
    · rw [← Option.some.inj htext]
      rfl
    · contradiction
  · rintro rfl
    exact dif_pos text.isValidUTF8

theorem readRows?_toUTF8 (text : String) :
    Service.readRows? text.toUTF8 =
      (Json.read? text).bind fun value => value.asList? Json.asRow? := by
  rw [Service.readRows?, fromUTF8?_eq_some_iff.mpr rfl]
  rfl

theorem isSome_asList?_asRow? {value : Json} :
    (value.asList? Json.asRow?).isSome = true ↔
      ∃ rows : List Row, value = .array (rows.map .object) := by
  cases value with
  | array items =>
      have hitems : (items.mapM Json.asRow?).isSome = true ↔
          ∃ rows, items = List.map Json.object rows := by
        rw [isSome_mapM_asRow?]
        exact exists_congr fun _ => eq_comm
      simpa [Json.asList?, Json.asArray?] using hitems
  | _ => simp [Json.asList?, Json.asArray?]

/-- Rows are read from a body exactly if it is the text of a list of objects. -/
theorem isSome_readRows? {body : ByteArray} :
    (Service.readRows? body).isSome = true ↔ IsRowList body := by
  unfold IsRowList
  simp only [← fromUTF8?_eq_some_iff]
  cases htext : String.fromUTF8? body with
  | none => simp [Service.readRows?, htext]
  | some text =>
      obtain rfl := fromUTF8?_eq_some_iff.mp htext
      rw [readRows?_toUTF8]
      simp only [Option.some.injEq, exists_and_left, exists_eq_left']
      cases hread : Json.read? text with
      | none => simp
      | some value => simpa using isSome_asList?_asRow?

theorem isSuccess_eq_true {status : Nat} :
    Service.isSuccess status = true ↔ IsSuccessStatus status := by
  simp [Service.isSuccess, IsSuccessStatus]

section Services

variable {service : Service} {transport : Transport Id} {plan : Plan} {response : Response}

theorem send_of_error {request : Request} {text : String}
    (herror : transport (service.draft request) = .error text) :
    (service.send transport request).run = .ofError (.http (.transport text)) := by
  unfold Service.send
  simp only [herror]
  rfl

theorem send_of_ok {request : Request}
    (hresponse : transport (service.draft request) = .ok response) :
    (service.send transport request).run = Service.outcomeOf request response := by
  unfold Service.send
  simp only [hresponse]
  rfl

/-- What a request that is accepted has been answered with. -/
theorem Takes.exists_response (htakes : Takes service transport plan .accepted) :
    ∃ response, transport (service.draft plan.request) = .ok response ∧
      IsSuccessStatus response.status ∧
        (plan.statement.kind ≠ .delete → IsRowList response.body) := by
  cases htakes with
  | removed hresponse hstatus hdelete =>
      exact ⟨_, hresponse, hstatus, fun hkind => absurd hdelete hkind⟩
  | listed hresponse hstatus _ hlist => exact ⟨_, hresponse, hstatus, fun _ => hlist⟩

/-- A response is taken for what its status and its body make it. -/
theorem isUniform_outcomeOf
    (hkind : plan.request.returnsRows = true ↔ plan.statement.kind ≠ .delete)
    (hresponse : transport (service.draft plan.request) = .ok response) :
    Outcome.IsUniform (.ok plan) (Takes service transport)
      (Service.outcomeOf plan.request response) := by
  have honly : ∀ {p : Response → Prop}, (∃ other, transport (service.draft plan.request) =
      .ok other ∧ p other) → p response := by
    rintro p ⟨other, hother, hp⟩
    rwa [Except.ok.inj (hresponse.symm.trans hother)]
  unfold Service.outcomeOf
  by_cases hstatus : IsSuccessStatus response.status
  · rw [isSuccess_eq_true.mpr hstatus]
    by_cases hdelete : plan.statement.kind = .delete
    · have hreturns : plan.request.returnsRows = false := by simpa [hdelete] using hkind
      rw [hreturns]
      exact Outcome.isUniform_of_shows (.removed hresponse hstatus hdelete) (fun _ => rfl)
        (.nothing hdelete)
    · rw [hkind.mpr hdelete]
      cases hread : Service.readRows? response.body with
      | some rows =>
          have hlist : IsRowList response.body := isSome_readRows?.mp (by rw [hread]; rfl)
          exact Outcome.isUniform_of_shows (.listed hresponse hstatus hdelete hlist)
            (fun _ => rfl) (.rows rows hdelete)
      | none =>
          have hlist : ¬IsRowList response.body := fun hlist => by
            simp [← isSome_readRows?, hread] at hlist
          refine Outcome.isUniform_of_shows (.unreadable hresponse hstatus hdelete hlist)
            (fun haccepted => ?_) (.failed _)
          exact absurd ((honly haccepted.exists_response).2 hdelete) hlist
  · have hfalse : Service.isSuccess response.status = false := by
      rw [← Bool.not_eq_true, isSuccess_eq_true]
      exact hstatus
    rw [hfalse]
    refine Outcome.isUniform_of_shows (.refused hresponse hstatus) (fun haccepted => ?_)
      (.refused _ rfl)
    exact absurd (honly haccepted.exists_response).1 hstatus

theorem isUniform_send
    (hkind : plan.request.returnsRows = true ↔ plan.statement.kind ≠ .delete) :
    Outcome.IsUniform (.ok plan) (Takes service transport)
      (service.send transport plan.request).run := by
  cases hbrings : transport (service.draft plan.request) with
  | error text =>
      rw [send_of_error hbrings]
      refine Outcome.isUniform_of_shows (.unanswered hbrings) (fun haccepted => ?_) (.failed _)
      obtain ⟨response, hresponse, -⟩ := haccepted.exists_response
      cases hbrings.symm.trans hresponse
  | ok response =>
      rw [send_of_ok hbrings]
      exact isUniform_outcomeOf hkind hbrings

theorem isUniform_answerSql (allowed : Option (List String)) (sql : String) (service : Service)
    (transport : Transport Id) :
    Outcome.IsUniform (Plan.ofSql allowed sql) (Takes service transport)
      (answerSql allowed (service.send transport) sql).run := by
  unfold answerSql
  cases hplan : Plan.ofSql allowed sql with
  | error error => exact Outcome.isUniform_ofError error _
  | ok plan => exact isUniform_send (Plan.returnsRows_of_ofSql hplan)

end Services

end Http

/-- Whatever the text, the tables allowed and the client, an outcome tells what was planned and how
the request was taken, in the same way for a store of tables and for a table service.  A table
service always comes to an outcome, and a store does unless the text is a query and its keys do not
order the rows that it finds consistently. -/
theorem answer_isUniform (allowed : Option (List String)) (sql : String) :
    (∀ (store : Store) (outcome : Outcome),
      ((Store.answer allowed sql).run store).1 = some outcome →
        Outcome.IsUniform (Plan.ofSql allowed sql) (Store.Takes store) outcome) ∧
    (∀ store : Store, ((Store.answer allowed sql).run store).1 = none →
      ∃ plan rows, Plan.ofSql allowed sql = .ok plan ∧ plan.request.operation = .select ∧
        store.rows? plan.request.table = some rows ∧
        ¬IsPreorderOn (Store.compareRows plan.request.order)
          (rows.filter (Store.passesAll plan.request.filters))) ∧
    ∀ (service : Http.Service) (transport : Http.Transport Id),
      Outcome.IsUniform (Plan.ofSql allowed sql) (Http.Takes service transport)
        (answerSql allowed (service.send transport) sql).run :=
  ⟨fun _ _ => Store.isUniform_answer, fun _ => Store.not_isPreorderOn_of_answer,
    Http.isUniform_answerSql allowed sql⟩

/-- A query is put to a host without a name, and the rows of the response come back. -/
theorem answer_isUniform_listed :
    let service : Http.Service := { baseUrl := "http://[::1]:3000", apiKey := none, schema := "s" }
    let response : Http.Response := { status := 200, body := "[\x7b\"a\":1\x7d]".toUTF8 }
    let wire (_ : Http.Message) : Id (Option Http.Response) := some response
    let outcome := (answerSql none (service.send (Http.overWire wire))
      "SELECT a, b FROM t WHERE a = 1").run
    outcome.rows = some [[("a", .number (.int 1))]] ∧ outcome.failure = none := by
  intro service response wire outcome
  obtain ⟨plan, hplan⟩ := exists_eq_ok_of_isOk
    (show (Plan.ofSql none "SELECT a, b FROM t WHERE a = 1").isOk = true by decide +kernel)
  have hfacts : (Plan.ofSql none "SELECT a, b FROM t WHERE a = 1").toOption.map
      (fun plan => (plan.request.table, plan.statement.kind, plan.request.operation.kind)) =
      some ("t", .select, .select) := by
    decide +kernel
  simp only [hplan, Except.toOption, Option.map_some, Option.some.injEq, Prod.mk.injEq] at hfacts
  obtain ⟨htable, hkind, hoperation⟩ := hfacts
  have hselect := Operation.kind_eq_select_iff.mp hoperation
  have hhost : Http.IsHostPart "[::1]".toList :=
    .groups (show ']' ∉ "::1".toList by decide) (by decide)
  have hsendable : (service.draft plan.request).IsSendable := by
    refine ⟨⟨⟨"http".toList, "//".toList, [], "[::1]".toList, ":3000".toList, "/t".toList⟩, ?_, ?_⟩,
      ?_⟩
    · change Http.cleaned (service.baseUrl ++ "/" ++ plan.request.table).toList = _
      rw [htable]
      decide +kernel
    · exact ⟨.inl rfl, by decide, by decide, .inl rfl, hhost, .inr ⟨"3000".toList, rfl, by decide⟩,
        by decide, by simp [Http.endsHost, Http.isSlash]⟩
    · simp only [Http.Service.draft, Http.Service.headersOf, hselect, Http.Service.schemaHeader,
        Http.Service.preference]
      decide
  obtain ⟨message, -, hbrings⟩ := Http.overWire_of_isSendable wire hsendable
  have hresponse : Http.overWire wire (service.draft plan.request) = .ok response := hbrings
  have hread : Json.read? "[\x7b\"a\":1\x7d]" =
      some (.array (List.map .object [[("a", .number (.int 1))]])) := by rfl
  obtain ⟨-, -, huniform⟩ := answer_isUniform none "SELECT a, b FROM t WHERE a = 1"
  have htold := (huniform service (Http.overWire wire)).rows_iff.mpr
    ⟨plan, hplan, by simp [hkind], .listed hresponse ⟨by decide, by decide⟩ (by simp [hkind])
      ⟨_, _, rfl, hread⟩⟩
  have houtcome : outcome = Http.Service.outcomeOf plan.request response := by
    refine Eq.trans ?_ (Http.send_of_ok hresponse)
    simp only [outcome, answerSql, hplan]
  have hrows : Http.Service.readRows? response.body = some [[("a", .number (.int 1))]] :=
    (Http.readRows?_toUTF8 _).trans (by rw [hread])
  have hstatus : Http.Service.isSuccess response.status = true := by decide
  refine ⟨?_, htold.2⟩
  rw [houtcome, Http.Service.outcomeOf, hstatus, Request.returnsRows, hselect, hrows]
  rfl

/-- Not every text that a store is asked to answer has an outcome. -/
theorem not_forall_answer_isUniform :
    ¬∀ (sql : String) (store : Store),
      ∃ outcome, ((Store.answer none sql).run store).1 = some outcome ∧
        Outcome.IsUniform (Plan.ofSql none sql) (Store.Takes store) outcome := by
  intro huniform
  obtain ⟨plan, hplan⟩ := exists_eq_ok_of_isOk
    (show (Plan.ofSql none "SELECT n FROM t ORDER BY n").isOk = true by decide +kernel)
  have hfacts : (Plan.ofSql none "SELECT n FROM t ORDER BY n").toOption.map
      (fun plan => (plan.request.table, plan.request.operation.kind,
        plan.request.filters.isEmpty, plan.request.order)) =
      some ("t", .select, true, [⟨"n", .ascending⟩]) := by
    decide +kernel
  simp only [hplan, Except.toOption, Option.map_some, Option.some.injEq, Prod.mk.injEq] at hfacts
  obtain ⟨htable, hoperation, hfilters, horder⟩ := hfacts
  have hselect := Operation.kind_eq_select_iff.mp hoperation
  let store : Store := ⟨[("t", Store.blurredRows)]⟩
  have hrows : store.rows? plan.request.table = some Store.blurredRows := by
    rw [htable]
    rfl
  obtain ⟨outcome, houtcome, -⟩ := huniform "SELECT n FROM t ORDER BY n" store
  rw [Store.answer_of_ok hplan, Store.execute_blurredRows hselect (List.isEmpty_iff.mp hfilters)
    horder hrows] at houtcome
  contradiction

end SqlGateway
