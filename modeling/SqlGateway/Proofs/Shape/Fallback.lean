import SqlGateway.Proofs.Shape.RoundTrip

/-!
# The two passes

The second pass over a text differs from the first one where the first one leaves the text to the
grammar, and nowhere else.  There it refuses the text, with one exception (`Extends`): a query whose
condition is no single comparison is read as if the condition were not there.

That the rest of such a query is read as before needs an argument, since a select list ends where
the rest of the text first makes sense, and without the condition that might be earlier.  It is not,
because a select list that can be read holds no `FROM`.
-/

namespace SqlGateway.Shape

open Text

variable {text fields table tail clause : List Char} {kind : StatementKind} {s : Statement}
  {found : SelectPattern} {columns : List SelectColumn}
  {order : Option (List Char × Option (List Char))}

/-! ### Queries without their condition -/

/-- The front of a query: its select list and its table. -/
structure IsSelectHead (head fields table : List Char) : Prop where
  fields_ne_nil : fields ≠ []
  isLine : '\n' ∉ fields
  isName : IsName table
  text : ∃ select marker, SameFold "SELECT ".toList select ∧ SameFold " FROM ".toList marker ∧
    head = select ++ (fields ++ (marker ++ table))

/-- A query with a condition is a front, the condition and an order. -/
theorem exists_head_of_match? (hfound : SelectPattern.match? text = some found)
    (hclause : found.clause = some clause) : ∃ head marker tail,
      text = head ++ (marker ++ (clause ++ tail)) ∧ IsSelectHead head found.fields found.table ∧
        SameFold " WHERE ".toList marker ∧ readOrder? tail = some found.order := by
  obtain ⟨afterSelect, hselect, hmatch⟩ := Option.bind_eq_some_iff.mp hfound
  obtain ⟨⟨fields, table, _, order⟩, hpiece, hmatch⟩ := Option.bind_eq_some_iff.mp hmatch
  cases hmatch
  cases hclause
  obtain ⟨rest, rfl, hne, hline, hrest⟩ := shortest?_eq_some hpiece
  obtain ⟨afterFrom, hfrom, hrest⟩ := Option.bind_eq_some_iff.mp hrest
  obtain ⟨⟨name, behind⟩, hword, hrest⟩ := Option.bind_eq_some_iff.mp hrest
  obtain ⟨⟨clause', order'⟩, hclauseAndOrder, hrest⟩ := Option.bind_eq_some_iff.mp hrest
  cases hrest
  obtain ⟨select, rfl, hselectSame⟩ := dropKeyword?_eq_some.mp hselect
  obtain ⟨marker, rfl, hfromSame⟩ := dropKeyword?_eq_some.mp hfrom
  obtain ⟨rfl, hname, -⟩ := readWord?_eq_some.mp hword
  rw [readClauseAndOrder?] at hclauseAndOrder
  split at hclauseAndOrder
  · rename_i afterWhere hwhere
    obtain ⟨⟨piece, found⟩, hcut, heq⟩ := Option.map_eq_some_iff.mp hclauseAndOrder
    cases heq
    obtain ⟨whereMarker, rfl, hwhereSame⟩ := dropKeyword?_eq_some.mp hwhere
    obtain ⟨tail, rfl, -, -, horder⟩ := shortest?_eq_some hcut
    exact ⟨select ++ (fields ++ (marker ++ table)), whereMarker, tail, by simp,
      ⟨hne, hline, hname, select, marker, hselectSame, hfromSame, rfl⟩, hwhereSame, horder⟩
  · obtain ⟨order, -, heq⟩ := Option.map_eq_some_iff.mp hclauseAndOrder
    cases heq

/-- A query without a condition is cut behind its front, if its select list can be read. -/
theorem SelectPattern.match?_append {head : List Char} (hhead : IsSelectHead head fields table)
    (hfields : readFields? fields = some columns) (horder : readOrder? tail = some order) :
    SelectPattern.match? (head ++ tail) = some { fields, table, clause := none, order } := by
  obtain ⟨hne, hline, hname, select, marker, hselect, hmarker, rfl⟩ := hhead
  obtain ⟨rest, rfl⟩ : ∃ rest, marker = ' ' :: rest := by
    obtain ⟨rest, heq, -⟩ := eq_of_dropKeyword?_cons (.inl rfl) (dropKeyword?_append hmarker [])
    exact ⟨rest, by simpa using heq⟩
  have hclauseAndOrder : readClauseAndOrder? tail = some (none, order) := by
    rw [readClauseAndOrder?, dropKeyword?_where_of_readOrder? horder]
    simp only [horder, Option.map_some]
  have hword : readWord? (table ++ tail) = some (table, tail) :=
    readWord?_eq_some.mpr ⟨rfl, hname, (atSpace_of_readOrder? horder).stopsAt (by decide)⟩
  have htail : readTail? (' ' :: rest ++ (table ++ tail)) = some (table, none, order) := by
    simp only [readTail?, dropKeyword?_append hmarker, Option.bind_eq_bind, Option.bind_some, hword,
      hclauseAndOrder]
    rfl
  have hshortest : shortest? readTail? (fields ++ (' ' :: rest ++ (table ++ tail))) =
      some (fields, table, none, order) := by
    refine shortest?_append hne hline htail fun before after hsplit hafter _ => ?_
    have hnone := hidesFrom_of_readFields? hfields before after (rest ++ (table ++ tail)) hsplit
      hafter
    rw [List.cons_append, readTail?, hnone]
    rfl
  simp only [SelectPattern.match?, List.append_assoc, dropKeyword?_append hselect,
    Option.bind_eq_bind, Option.bind_some]
  rw [hshortest]
  rfl

/-- A text that is a query with a condition, and the same text without the condition. -/
def IsWithout (text clause rest : List Char) : Prop :=
  ∃ found head marker tail, SelectPattern.match? text = some found ∧ found.clause = some clause ∧
    IsSelectHead head found.fields found.table ∧ SameFold " WHERE ".toList marker ∧
      text = head ++ (marker ++ (clause ++ tail)) ∧ rest = head ++ tail

/-! ### The two passes -/

/-- What the second pass makes of a text, behind what the first one makes of it. -/
inductive Extends (kind : StatementKind) (text : List Char) :
    Except Error (Option Statement) → Except Error (Option Statement) → Prop
  /-- What is read on the first pass stays. -/
  | same (s : Statement) : Extends kind text (.ok (some s)) (.ok (some s))
  /-- What is refused on the first pass is a row of another length than the columns. -/
  | arity (columns values : Nat) :
      Extends kind text (.error (.arity columns values)) (.error (.arity columns values))
  /-- What is left open is refused. -/
  | refused (fault : ShapeError) : Extends kind text (.ok none) (.error (.shape fault))
  /-- Only a query may lose its condition, and then keeps all else. -/
  | dropped {clause rest : List Char} {query : SelectStatement} : kind = .select →
      IsWithout text clause rest → readCondition? clause = none → query.filter = none →
        recognize .select .fast rest = .ok (some (.select query)) →
          Extends kind text (.ok none) (.ok (some (.select query)))

/-- A change is never made of a condition that is not read. -/
theorem extends_readFilter {build : Option Predicate → Statement} (clause : Option (List Char)) :
    Extends kind text
      (do let filter? ← readFilter .fast kind clause; return filter?.map build)
      (do let filter? ← readFilter .fallback kind clause; return filter?.map build) := by
  cases clause with
  | none => exact .same _
  | some clause =>
      cases hread : readCondition? clause with
      | none =>
          simp only [readFilter, hread]
          exact .refused _
      | some condition =>
          simp only [readFilter, hread]
          exact .same _

theorem extends_recognizeDelete (text : List Char) :
    Extends .delete text (recognizeDelete .fast text) (recognizeDelete .fallback text) := by
  rw [recognizeDelete, recognizeDelete]
  cases DeletePattern.match? text with
  | none => exact .refused _
  | some found => exact extends_readFilter found.clause

theorem extends_recognizeUpdate (text : List Char) :
    Extends .update text (recognizeUpdate .fast text) (recognizeUpdate .fallback text) := by
  rw [recognizeUpdate, recognizeUpdate]
  cases UpdatePattern.match? text with
  | none => exact .refused _
  | some found => exact extends_readFilter found.clause

theorem extends_recognizeInsert (text : List Char) :
    Extends .insert text (recognizeInsert .fast text) (recognizeInsert .fallback text) := by
  rw [recognizeInsert, recognizeInsert]
  cases InsertPattern.match? text with
  | none => exact .refused _
  | some found =>
      simp only
      cases readColumns? found.columns with
      | none => exact .refused _
      | some columns =>
          simp only
          cases readValues found.values with
          | error fault => exact .refused _
          | ok values =>
              simp only
              split
              · exact .same _
              · exact .arity _ _

/-- A query without its condition is read on the first pass, as it is on the second pass with it. -/
theorem recognizeSelect_without {head : List Char}
    (hhead : IsSelectHead head fields table) (hfields : readFields? fields = some columns)
    (horder : readOrder? tail = some order) :
    recognize .select .fast (head ++ tail) = .ok (some (.select {
      table := String.ofList table, columns, filter := none, order := orderOf order
      limit := none, offset := none })) := by
  rw [recognize, recognizeSelect, SelectPattern.match?_append hhead hfields horder]
  simp only [hfields]

theorem extends_recognizeSelect (text : List Char) :
    Extends .select text (recognizeSelect .fast text) (recognizeSelect .fallback text) := by
  cases hfound : SelectPattern.match? text with
  | none =>
      rw [recognizeSelect, recognizeSelect, hfound]
      exact .refused _
  | some found =>
      cases hfields : readFields? found.fields with
      | none =>
          simp only [recognizeSelect, hfound, hfields]
          exact .refused _
      | some columns =>
          cases hclause : found.clause with
          | none =>
              simp only [recognizeSelect, hfound, hfields, hclause]
              exact .same _
          | some clause =>
              cases hread : readCondition? clause with
              | some condition =>
                  simp only [recognizeSelect, hfound, hfields, hclause, hread]
                  exact .same _
              | none =>
                  obtain ⟨head, marker, tail, hsplit, hhead, hmarker, horder⟩ :=
                    exists_head_of_match? hfound hclause
                  simp only [recognizeSelect, hfound, hfields, hclause, hread]
                  exact .dropped rfl
                    ⟨found, head, marker, tail, hfound, hclause, hhead, hmarker, hsplit, rfl⟩ hread
                    rfl (recognizeSelect_without hhead hfields horder)

/-- On every text the second pass extends the first one. -/
theorem extends_recognize (kind : StatementKind) (text : List Char) :
    Extends kind text (recognize kind .fast text) (recognize kind .fallback text) := by
  cases kind with
  | select => exact extends_recognizeSelect text
  | insert => exact extends_recognizeInsert text
  | update => exact extends_recognizeUpdate text
  | delete => exact extends_recognizeDelete text

/-- The second pass reads a text or refuses it. -/
theorem recognize_fallback_ne_none (kind : StatementKind) (text : List Char) :
    recognize kind .fallback text ≠ .ok none := by
  intro hnone
  have hextends := extends_recognize kind text
  rw [hnone] at hextends
  generalize recognize kind .fast text = fast at hextends
  cases hextends

end SqlGateway.Shape

namespace SqlGateway.Plan

open Shape

/-- The second try at a text that the grammar refused, where `other` is what becomes of a second
pass without a result. -/
def recoverOr (other : Except Error Plan) (allowed : Option (List String)) (fault : Error)
    (text : List Char) : Except Error Plan :=
  match seemingKind text with
  | none => .error fault
  | some kind => do
    match ← recognize kind .fallback text with
    | some statement => ofStatement allowed .fallback statement
    | none => other

/-- No plan depends on it. -/
theorem recover_eq_recoverOr (allowed : Option (List String)) (fault : Error) (text : List Char)
    (other : Except Error Plan) :
    recover allowed fault text = recoverOr other allowed fault text := by
  rw [recover, recoverOr]
  cases seemingKind text with
  | none => rfl
  | some kind =>
      have hread := recognize_fallback_ne_none kind text
      simp only
      generalize recognize kind .fallback text = read at hread ⊢
      cases read with
      | error e => rfl
      | ok statement =>
          cases statement with
          | none => exact absurd rfl hread
          | some statement => rfl

end SqlGateway.Plan

namespace SqlGateway.Shape

/-- The second pass keeps every statement and every error of the first one.  It reads a text or
refuses it, as a bad request, so that no plan depends on what would be made of a second pass without
a result.  What it reads beyond the first pass is a query whose condition is not a single one, and
it reads this query as the first pass reads the text without the condition. -/
theorem recognize_fallback_extends (kind : StatementKind) (text : List Char) :
    (∀ s, recognize kind .fast text = .ok (some s) →
      recognize kind .fallback text = .ok (some s)) ∧
    (∀ fault, recognize kind .fast text = .error fault →
      (∃ columns values, fault = .arity columns values) ∧
        recognize kind .fallback text = .error fault) ∧
    recognize kind .fallback text ≠ .ok none ∧
    (∀ allowed fault other,
      Plan.recover allowed fault text = Plan.recoverOr other allowed fault text) ∧
    (∀ fault, recognize kind .fallback text = .error fault → fault.status = some 400) ∧
    ∀ s, recognize kind .fast text = .ok none → recognize kind .fallback text = .ok (some s) →
      kind = .select ∧ ∃ clause rest query, IsWithout text clause rest ∧
        readCondition? clause = none ∧ recognize .select .fast rest = .ok (some s) ∧
          s = .select query ∧ query.filter = none := by
  have hextends := extends_recognize kind text
  refine ⟨fun s hfast => ?_, fun fault hfast => ?_, recognize_fallback_ne_none kind text,
    fun allowed fault other => Plan.recover_eq_recoverOr allowed fault text other,
    fun fault hfallback => ?_, fun s hfast hfallback => ?_⟩
  · rw [hfast] at hextends
    generalize recognize kind .fallback text = fallback at hextends ⊢
    cases hextends
    rfl
  · rw [hfast] at hextends
    generalize recognize kind .fallback text = fallback at hextends ⊢
    cases hextends
    exact ⟨⟨_, _, rfl⟩, rfl⟩
  · rw [hfallback] at hextends
    generalize recognize kind .fast text = fast at hextends
    cases hextends with
    | arity columns values => rfl
    | refused fault => rfl
  · rw [hfast, hfallback] at hextends
    cases hextends with
    | dropped hkind hwithout hread hfilter hrest =>
        exact ⟨hkind, _, _, _, hwithout, hread, hrest, rfl, hfilter⟩

/-- A query with two conditions, and an insertion with a value too few. -/
theorem recognize_fallback_extends_disjunction :
    (∃ clause rest query,
      IsWithout "SELECT a, b FROM t WHERE a = 1 OR b = 2 ORDER BY a".toList clause rest ∧
        recognize .select .fast rest = .ok (some (.select query)) ∧ query.filter = none) ∧
      recognize .insert .fallback "INSERT INTO t (a, b) VALUES (1)".toList = .error (.arity 2 1) := by
  obtain ⟨-, -, -, -, -, hdropped⟩ :=
    recognize_fallback_extends .select "SELECT a, b FROM t WHERE a = 1 OR b = 2 ORDER BY a".toList
  obtain ⟨-, clause, rest, query, hwithout, -, hrest, hquery, hfilter⟩ := hdropped _ rfl rfl
  obtain ⟨-, harity, -⟩ :=
    recognize_fallback_extends .insert "INSERT INTO t (a, b) VALUES (1)".toList
  exact ⟨⟨clause, rest, query, hwithout, hquery ▸ hrest, hfilter⟩, (harity _ rfl).2⟩

end SqlGateway.Shape
