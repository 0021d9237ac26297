import SqlGateway.Proofs.Sql.Modifiers

/-!
# What the lowering leaves out

`Command.States` holds of a parsed statement and a statement of the gateway if the second says all
that the first says about which rows are read, changed or given back, and in which order.  Each
constructor writes the parsed statement out with all its clauses.  A clause that the other side has
no word for is absent there; what is left free, such as other names, index hints, priorities and the
names of windows, says nothing about rows.

The main statement is `Command.states_iff_toStatement`: a lowered statement states its source
exactly if the source has no modifiers.
-/

namespace SqlGateway.Sql

/-! ### Statements of parsed statements -/

/-- Whether a statement of the gateway says all that a parsed statement says about rows. -/
inductive Command.States : Command → Statement → Prop
  | select {source : TableSource} {items : List SelectItem} {condition : Option Expr}
      {windows : Option String} {qualifyFirst : Bool} {order : Option Order}
      {bounds : Option Bounds} {locks : List Lock} {format : Option String} {table : String}
      {columns : List SelectColumn} {filter : Option Predicate} {keys : List OrderKey}
      {limit offset : Option Nat} (hsource : source.States table)
      (hcolumns : List.Forall₂ SelectItem.States items columns)
      (hfilter : Option.Rel Expr.States condition filter) (horder : Order.States order keys)
      (hbounds : Bounds.States bounds limit offset)
      (hlocks : ∀ lock ∈ locks, lock.skipsLocked = false) :
      States
        (.query {
          preamble := none
          body := .select {
            valueTable := none, distinct := none, top := none, items, exclude := none, into := none
            sources := [source], lateralViews := [], prewhere := none, condition
            groupBy := { keys := some [], totals := [] }, clustering := [], having := none, windows
            qualify := none, qualifyFirst, connectBy := none }
          order, bounds, settings := [], fetch := none, locks, format, pipes := [] })
        (.select { table, columns, filter, order := keys, limit, offset })
  | insert {priority rowName format : Option String} {opening table : String}
      {target : InsertTarget} {label : Option Ident} {columns : List Ident} {v : Values}
      {locks : List Lock} {rows : List (List Value)} (htarget : Encloses target.sqlText table)
      (hcolumns : columns ≠ []) (hrows : List.Forall₂ Expr.DenoteAll v.rows rows) :
      States
        (.insert {
          replaces := false, ignores := false, choice := none, priority, overwrites := false
          opening, target, label, columns, partition := none, laterColumns := [], settings := []
          assignments := []
          source := some {
            preamble := none, body := .values v, order := none, bounds := none, settings := []
            fetch := none, locks, format, pipes := [] }
          formatted := none, rowName, onConflict := none, returning := none })
        (.insert { table, columns := columns.map Ident.text, rows })
  | update {target : TableSource} {items : List SetItem} {condition : Option Expr} {table : String}
      {assignments : List Assignment} {filter : Option Predicate} (htarget : target.States table)
      (hassignments : List.Forall₂ SetItem.States items assignments)
      (hfilter : Option.Rel Expr.States condition filter) :
      States
        (.update {
          choice := none, target, sources := none, assignments := items, condition
          returning := none, limit := none })
        (.update { table, assignments, filter })
  | delete {source : TableSource} {condition : Option Expr} {table : String}
      {filter : Option Predicate} (hsource : source.States table)
      (hfilter : Option.Rel Expr.States condition filter) :
      States
        (.delete {
          targets := [], sources := [source], extraSources := [], condition, returning := none
          order := [], limit := none })
        (.delete { table, filter })

/-! ### Queries -/

theorem refuse_isSome_eq_ok {α : Type} {clause : Option α} {construct : Construct} :
    refuse clause.isSome construct = .ok () ↔ clause = none := by
  rw [refuse_eq_ok, Option.isSome_eq_false_iff, Option.isNone_iff_eq_none]

/-- Rows are not grouped, and have no totals. -/
theorem Grouping.eq_absent {grouping : Grouping} (hkeys : grouping.isUsed = false)
    (htotals : grouping.totals = []) : grouping = { keys := some [], totals := [] } := by
  obtain ⟨keys, totals⟩ := grouping
  obtain rfl : totals = [] := htotals
  cases keys with
  | none => contradiction
  | some keys =>
      obtain rfl : keys = [] := by simpa [isUsed] using hkeys
      rfl

/-- Which queries are lowered, and to what: each part of the result is that of its clause. -/
theorem Query.toSelect_eq_ok {q : Query} {s : SelectStatement} :
    q.toSelect = .ok s ↔
      q.preamble = none ∧ ∃ b, q.body = .select b ∧
        (b.distinct = none ∧ b.groupBy.isUsed = false ∧ b.having = none) ∧
        onlyTable .select .severalTables b.sources = .ok s.table ∧
        b.items.mapM SelectItem.toColumn = .ok s.columns ∧
        optionalPredicate b.condition = .ok s.filter ∧
        optionalKeys q.order = .ok s.order ∧
        optionalCounts q.bounds = .ok (s.limit, s.offset) := by
  rw [toSelect, check_bind_eq_ok, refuse_isSome_eq_ok]
  cases hbody : q.body with
  | select b =>
      simp only [check_bind_eq_ok, refuse_eq_ok, Option.isSome_eq_false_iff,
        Option.isNone_iff_eq_none, Body.select.injEq, exists_eq_left']
      constructor
      · rintro ⟨hpreamble, hdistinct, hgroup, hhaving, hrest⟩
        obtain ⟨table, htable, hrest⟩ := bind_eq_ok.mp hrest
        obtain ⟨columns, hcolumns, hrest⟩ := bind_eq_ok.mp hrest
        obtain ⟨filter, hfilter, hrest⟩ := bind_eq_ok.mp hrest
        obtain ⟨keys, hkeys, hrest⟩ := bind_eq_ok.mp hrest
        obtain ⟨⟨limit, offset⟩, hcounts, hresult⟩ := bind_eq_ok.mp hrest
        rw [← pure_eq_ok.mp hresult]
        exact ⟨hpreamble, ⟨hdistinct, hgroup, hhaving⟩, htable, hcolumns, hfilter, hkeys, hcounts⟩
      · rintro ⟨hpreamble, ⟨hdistinct, hgroup, hhaving⟩, htable, hcolumns, hfilter, hkeys, hcounts⟩
        refine ⟨hpreamble, hdistinct, hgroup, hhaving, ?_⟩
        simp [htable, hcolumns, hfilter, hkeys, hcounts, bind, Except.bind, pure, Except.pure]
  | values v => simp
  | other text => simp

theorem Body.modifiers_select_eq_nil {b : Select} :
    (Body.select b).modifiers = [] ↔
      b.valueTable = none ∧ b.top = none ∧ b.items.flatMap SelectItem.modifiers = [] ∧
        b.exclude = none ∧ b.into = none ∧ b.sources.flatMap TableSource.modifiers = [] ∧
        b.lateralViews = [] ∧ b.prewhere = none ∧ conditionModifiers b.condition = [] ∧
        b.groupBy.totals = [] ∧ b.clustering = [] ∧ b.qualify = none ∧ b.connectBy = none := by
  simp [modifiers]

theorem Query.modifiers_eq_nil {q : Query} :
    q.modifiers = [] ↔
      q.body.modifiers = [] ∧ q.order.elim [] Order.modifiers = [] ∧ q.settings = [] ∧
        q.fetch = none ∧ (∀ lock ∈ q.locks, lock.skipsLocked = false) ∧ q.pipes = [] := by
  simp [modifiers]

theorem Query.states_iff {q : Query} {s : SelectStatement} :
    (Command.query q).States (.select s) ↔ q.toSelect = .ok s ∧ q.modifiers = [] := by
  rw [toSelect_eq_ok, modifiers_eq_nil]
  constructor
  · intro hstates
    cases hstates with
    | select hsource hcolumns hfilter horder hbounds hlocks =>
        obtain ⟨htable, hplain⟩ := onlyTable_states_iff.mp ⟨_, rfl, hsource⟩
        obtain ⟨hentries, hstars⟩ := (forall₂_states_iff SelectItem.states_iff).mp hcolumns
        obtain ⟨hclause, hcondition⟩ := condition_states_iff.mp hfilter
        obtain ⟨hkeys, hnulls⟩ := Order.states_iff.mp horder
        refine ⟨⟨rfl, _, rfl, ⟨rfl, rfl, rfl⟩, htable, hentries, hclause, hkeys,
          Bounds.states_iff.mp hbounds⟩, ?_, hnulls, rfl, rfl, hlocks, rfl⟩
        rw [Body.modifiers_select_eq_nil]
        exact ⟨rfl, rfl, hstars, rfl, rfl, hplain, rfl, rfl, hcondition, rfl, rfl, rfl, rfl⟩
  · obtain ⟨preamble, body, order, bounds, settings, fetch, locks, format, pipes⟩ := q
    rintro ⟨⟨rfl, b, rfl, hrefused, htable, hentries, hclause, hkeys, hcounts⟩,
      hbody, hnulls, rfl, rfl, hlocks, rfl⟩
    rw [Body.modifiers_select_eq_nil] at hbody
    obtain ⟨valueTable, distinct, top, items, exclude, into, sources, lateralViews, prewhere,
      condition, groupBy, clustering, having, windows, qualify, qualifyFirst, connectBy⟩ := b
    obtain ⟨rfl, hgroup, rfl⟩ := hrefused
    obtain ⟨rfl, rfl, hstars, rfl, rfl, hplain, rfl, rfl, hcondition, htotals, rfl, rfl, rfl⟩ :=
      hbody
    obtain rfl : groupBy = _ := Grouping.eq_absent hgroup htotals
    obtain ⟨source, rfl, hsource⟩ := onlyTable_states_iff.mpr ⟨htable, hplain⟩
    exact .select hsource ((forall₂_states_iff SelectItem.states_iff).mpr ⟨hentries, hstars⟩)
      (condition_states_iff.mpr ⟨hclause, hcondition⟩) (Order.states_iff.mpr ⟨hkeys, hnulls⟩)
      (Bounds.states_iff.mpr hcounts) hlocks

/-! ### Changes -/

theorem writtenRows_eq_ok {source : Option Query} {rows : List (List Value)} :
    writtenRows source = .ok rows ↔
      ∃ q v, source = some q ∧ q.body = .values v ∧ v.rows.mapM Expr.toValues = .ok rows := by
  cases source with
  | none => simp [writtenRows]
  | some q => cases hbody : q.body <;> simp [writtenRows, hbody]

/-- Which insertions are lowered: those of rows written out under a list of columns. -/
theorem Insert.toInsert_eq_ok {i : Insert} {s : InsertStatement} :
    i.toInsert = .ok s ↔
      (i.replaces = false ∧ i.ignores = false ∧ i.onConflict = none ∧ i.assignments = [] ∧
        i.returning = none ∧ i.columns ≠ []) ∧
      ∃ rows, writtenRows i.source = .ok rows ∧
        ({ table := bareName i.target.sqlText, columns := i.columns.map Ident.text, rows } :
          InsertStatement) = s := by
  simp only [toInsert, check_bind_eq_ok, refuse_isSome_eq_ok]
  simp [refuse_eq_ok, map_eq_ok, and_assoc]

theorem Insert.modifiers_eq_nil {i : Insert} {source : Query} (hsource : i.source = some source) :
    i.modifiers = [] ↔
      (i.choice = none ∧ i.overwrites = false ∧ i.partition = none ∧ i.laterColumns = [] ∧
          i.settings = [] ∧ i.formatted = none) ∧
        source.preamble = none ∧ source.order = none ∧ source.bounds = none ∧
          source.settings = [] ∧ source.fetch = none ∧ source.pipes = [] := by
  simp [modifiers, hsource, Query.rowsModifiers, and_assoc]

theorem Insert.states_iff {i : Insert} {s : InsertStatement} :
    (Command.insert i).States (.insert s) ↔ i.toInsert = .ok s ∧ i.modifiers = [] := by
  rw [toInsert_eq_ok]
  constructor
  · intro hstates
    cases hstates with
    | insert htarget hcolumns hrows =>
        refine ⟨⟨⟨rfl, rfl, rfl, rfl, rfl, hcolumns⟩, _,
          writtenRows_eq_ok.mpr ⟨_, _, rfl, rfl, rows_states_iff.mp hrows⟩, ?_⟩, rfl⟩
        rw [bareName_eq_iff.mpr htarget]
  · rintro ⟨⟨hrefused, rows, hwritten, rfl⟩, hmodifiers⟩
    obtain ⟨source, v, hsource, hbody, hrows⟩ := writtenRows_eq_ok.mp hwritten
    rw [modifiers_eq_nil hsource] at hmodifiers
    obtain ⟨replaces, ignores, choice, priority, overwrites, opening, target, label, columns,
      partition, laterColumns, settings, assignments, source?, formatted, rowName, onConflict,
      returning⟩ := i
    obtain ⟨preamble, body, order, bounds, settings, fetch, locks, format, pipes⟩ := source
    obtain rfl : source? = _ := hsource
    obtain rfl : body = _ := hbody
    obtain ⟨rfl, rfl, rfl, rfl, rfl, hcolumns⟩ := hrefused
    obtain ⟨⟨rfl, rfl, rfl, rfl, rfl, rfl⟩, rfl, rfl, rfl, rfl, rfl, rfl⟩ := hmodifiers
    exact .insert (encloses_bareName _) hcolumns (rows_states_iff.mpr hrows)

/-- Which updates are lowered, and to what. -/
theorem Update.toUpdate_eq_ok {u : Update} {s : UpdateStatement} :
    u.toUpdate = .ok s ↔
      (u.limit = none ∧ u.sources = none ∧ u.returning = none ∧ u.choice = none) ∧
      u.target.tableName .update = .ok s.table ∧
      u.assignments.mapM SetItem.toAssignment = .ok s.assignments ∧
      optionalPredicate u.condition = .ok s.filter := by
  simp only [toUpdate, check_bind_eq_ok, refuse_isSome_eq_ok]
  constructor
  · rintro ⟨hlimit, hsources, hreturning, hchoice, hrest⟩
    obtain ⟨table, htable, hrest⟩ := bind_eq_ok.mp hrest
    obtain ⟨assignments, hassignments, hrest⟩ := bind_eq_ok.mp hrest
    obtain ⟨filter, hfilter, hresult⟩ := bind_eq_ok.mp hrest
    rw [← pure_eq_ok.mp hresult]
    exact ⟨⟨hlimit, hsources, hreturning, hchoice⟩, htable, hassignments, hfilter⟩
  · rintro ⟨⟨hlimit, hsources, hreturning, hchoice⟩, htable, hassignments, hfilter⟩
    refine ⟨hlimit, hsources, hreturning, hchoice, ?_⟩
    simp [htable, hassignments, hfilter, bind, Except.bind, pure, Except.pure]

theorem Update.states_iff {u : Update} {s : UpdateStatement} :
    (Command.update u).States (.update s) ↔ u.toUpdate = .ok s ∧ u.modifiers = [] := by
  rw [toUpdate_eq_ok, modifiers, List.append_eq_nil_iff]
  constructor
  · intro hstates
    cases hstates with
    | update htarget hassignments hfilter =>
        obtain ⟨htable, hplain⟩ := (TableSource.states_iff .update).mp htarget
        obtain ⟨hclause, hcondition⟩ := condition_states_iff.mp hfilter
        exact ⟨⟨⟨rfl, rfl, rfl, rfl⟩, htable, assignments_states_iff.mp hassignments, hclause⟩,
          hplain, hcondition⟩
  · obtain ⟨choice, target, sources, items, condition, returning, limit⟩ := u
    rintro ⟨⟨⟨rfl, rfl, rfl, rfl⟩, htable, hassignments, hclause⟩, hplain, hcondition⟩
    exact .update ((TableSource.states_iff .update).mpr ⟨htable, hplain⟩)
      (assignments_states_iff.mpr hassignments) (condition_states_iff.mpr ⟨hclause, hcondition⟩)

/-- Which deletions are lowered, and to what. -/
theorem Delete.toDelete_eq_ok {d : Delete} {s : DeleteStatement} :
    d.toDelete = .ok s ↔
      (d.targets = [] ∧ d.limit = none) ∧
      onlyTable .delete .deleteFromSeveral d.sources = .ok s.table ∧
      optionalPredicate d.condition = .ok s.filter := by
  have htargets : refuse (!d.targets.isEmpty) .deleteFromSeveral = .ok () ↔ d.targets = [] := by
    simp [refuse_eq_ok]
  simp only [toDelete, check_bind_eq_ok, refuse_isSome_eq_ok, htargets]
  constructor
  · rintro ⟨htargets, hlimit, hrest⟩
    obtain ⟨table, htable, hrest⟩ := bind_eq_ok.mp hrest
    obtain ⟨filter, hfilter, hresult⟩ := bind_eq_ok.mp hrest
    rw [← pure_eq_ok.mp hresult]
    exact ⟨⟨htargets, hlimit⟩, htable, hfilter⟩
  · rintro ⟨⟨htargets, hlimit⟩, htable, hfilter⟩
    refine ⟨htargets, hlimit, ?_⟩
    simp [htable, hfilter, bind, Except.bind, pure, Except.pure]

theorem Delete.modifiers_eq_nil {d : Delete} :
    d.modifiers = [] ↔
      (d.sources.flatMap TableSource.modifiers = [] ∧ conditionModifiers d.condition = []) ∧
        d.extraSources = [] ∧ d.returning = none ∧ d.order = [] := by
  simp [modifiers]
  tauto

theorem Delete.states_iff {d : Delete} {s : DeleteStatement} :
    (Command.delete d).States (.delete s) ↔ d.toDelete = .ok s ∧ d.modifiers = [] := by
  rw [toDelete_eq_ok, modifiers_eq_nil]
  constructor
  · intro hstates
    cases hstates with
    | delete hsource hfilter =>
        obtain ⟨htable, hplain⟩ := onlyTable_states_iff.mp ⟨_, rfl, hsource⟩
        obtain ⟨hclause, hcondition⟩ := condition_states_iff.mp hfilter
        exact ⟨⟨⟨rfl, rfl⟩, htable, hclause⟩, ⟨hplain, hcondition⟩, rfl, rfl, rfl⟩
  · obtain ⟨targets, sources, extraSources, condition, returning, order, limit⟩ := d
    rintro ⟨⟨⟨rfl, rfl⟩, htable, hclause⟩, ⟨hplain, hcondition⟩, rfl, rfl, rfl⟩
    obtain ⟨source, rfl, hsource⟩ := onlyTable_states_iff.mpr ⟨htable, hplain⟩
    exact .delete hsource (condition_states_iff.mpr ⟨hclause, hcondition⟩)

/-! ### The lowering -/

/-- A lowered statement states its source exactly if the source has no modifiers. -/
theorem Command.states_iff_toStatement {command : Command} {s : Statement} :
    command.States s ↔ command.toStatement = .ok s ∧ command.modifiers = [] := by
  constructor
  · intro hstates
    match command, s, hstates with
    | .query q, .select s, hstates =>
        obtain ⟨hs, hmodifiers⟩ := Query.states_iff.mp hstates
        exact ⟨map_eq_ok.mpr ⟨s, hs, rfl⟩, hmodifiers⟩
    | .insert i, .insert s, hstates =>
        obtain ⟨hs, hmodifiers⟩ := Insert.states_iff.mp hstates
        exact ⟨map_eq_ok.mpr ⟨s, hs, rfl⟩, hmodifiers⟩
    | .update u, .update s, hstates =>
        obtain ⟨hs, hmodifiers⟩ := Update.states_iff.mp hstates
        exact ⟨map_eq_ok.mpr ⟨s, hs, rfl⟩, hmodifiers⟩
    | .delete d, .delete s, hstates =>
        obtain ⟨hs, hmodifiers⟩ := Delete.states_iff.mp hstates
        exact ⟨map_eq_ok.mpr ⟨s, hs, rfl⟩, hmodifiers⟩
  · rintro ⟨hlowered, hmodifiers⟩
    cases command with
    | query q =>
        obtain ⟨s, hs, rfl⟩ := map_eq_ok.mp hlowered
        exact Query.states_iff.mpr ⟨hs, hmodifiers⟩
    | insert i =>
        obtain ⟨s, hs, rfl⟩ := map_eq_ok.mp hlowered
        exact Insert.states_iff.mpr ⟨hs, hmodifiers⟩
    | update u =>
        obtain ⟨s, hs, rfl⟩ := map_eq_ok.mp hlowered
        exact Update.states_iff.mpr ⟨hs, hmodifiers⟩
    | delete d =>
        obtain ⟨s, hs, rfl⟩ := map_eq_ok.mp hlowered
        exact Delete.states_iff.mpr ⟨hs, hmodifiers⟩
    | other keyword => contradiction

/-- Whether a text is a deletion that names further tables and is lowered all the same. -/
def lowersExtraSources (text : List Char) : Bool :=
  match Command.ofText? text with
  | some [.delete d] => !d.extraSources.isEmpty && d.toDelete.isOk
  | _ => false

theorem exists_of_lowersExtraSources {text : List Char} (hlowers : lowersExtraSources text = true) :
    ∃ d s, Command.ofText? text = some [.delete d] ∧ d.extraSources ≠ [] ∧ d.toDelete = .ok s := by
  unfold lowersExtraSources at hlowers
  split at hlowers
  · rename_i d hcommand
    rw [Bool.and_eq_true, Bool.not_eq_true', List.isEmpty_eq_false_iff] at hlowers
    obtain ⟨s, hs⟩ := exists_eq_ok_of_isOk hlowers.2
    exact ⟨d, s, hcommand, hlowers.1, hs⟩
  · contradiction

/-- A lowered statement need not state its source, even if that is read from a text: the `USING`
list of a deletion, which takes part in the choice of the rows, is left out. -/
theorem Command.not_forall_states :
    ¬ ∀ text command s, ofText? text = some [command] → command.toStatement = .ok s →
      command.States s := by
  intro hstates
  have hlowers : lowersExtraSources "DELETE FROM t USING u WHERE a = 1".toList = true := by
    decide +kernel
  obtain ⟨d, s, hcommand, hextra, hs⟩ := exists_of_lowersExtraSources hlowers
  cases hstates _ _ (.delete s) hcommand (map_eq_ok.mpr ⟨s, hs, rfl⟩)
  exact hextra rfl

end SqlGateway.Sql
