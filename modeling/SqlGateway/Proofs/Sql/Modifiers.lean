import SqlGateway.Proofs.Sql.Denotation

/-!
# Modifiers of clauses

The lowering refuses many clauses without a word, but it never looks at some.  Those that bear on
which rows are read, changed or given back, on what these rows hold, or on their order, are the
modifiers.

`Expr.States` and its companions hold of a clause and its counterpart in a statement of the gateway
if the second says all that the first says about rows.  Each constructor writes the clause out with
all its parts: a part that the other side has no word for is absent there, and what is left free
says nothing about rows.  A clause that is lowered states all of its source exactly if it has no
modifiers.
-/

namespace SqlGateway.Sql

/-! ### Modifiers -/

/-- The constructs that bear on rows and that no check of the lowering looks at. -/
inductive Modifier where
  /-- The character that takes the meaning from the signs of a pattern. -/
  | escape
  /-- `LIKE ANY`. -/
  | anyPattern
  /-- Columns of a row that are left out, replaced or given other names. -/
  | starChanges
  | exclude
  /-- The type that each row is made one value of. -/
  | valueTable
  /-- The place of nulls in an order. -/
  | nullOrder
  /-- Rows put into the gaps between the values of a sort key. -/
  | fill
  | interpolation
  | partitions
  /-- The path to a part of a document. -/
  | path
  /-- Arguments behind the name of a table. -/
  | arguments
  /-- The number of each row as a further column. -/
  | ordinality
  /-- Names that a table is given for its columns. -/
  | labelColumns
  /-- What is said in parentheses behind `WITH`, such as that locked rows are left out. -/
  | tableHints
  /-- The time whose rows are taken. -/
  | version
  | sample
  | top
  /-- The table that the rows of a query are put into. -/
  | into
  | lateralView
  | prewhere
  /-- Totals of a query without keys to group by. -/
  | groupTotals
  /-- `CLUSTER BY`, `DISTRIBUTE BY` and `SORT BY`. -/
  | clustering
  | qualify
  | connectBy
  | settings
  | fetch
  | skipLocked
  /-- Steps that rows are passed through. -/
  | pipes
  /-- What is done about a conflict in an insertion. -/
  | conflictChoice
  | overwrite
  /-- The partition that new rows are put into. -/
  | insertPartition
  /-- The columns behind that partition. -/
  | laterColumns
  /-- Rows written in a format of their own. -/
  | formattedRows
  /-- `WITH` before the rows of an insertion. -/
  | rowsPreamble
  /-- The order of the rows of an insertion. -/
  | rowsOrder
  /-- The bounds on the rows of an insertion. -/
  | rowsBounds
  /-- The further tables of a deletion. -/
  | extraSources
  /-- The rows that a deletion gives back. -/
  | deletedRows
  /-- The order of a deletion. -/
  | deletionOrder
  deriving DecidableEq, Repr

/-- A modifier if it is used. -/
def noted (isUsed : Bool) (modifier : Modifier) : List Modifier :=
  if isUsed then [modifier] else []

@[simp] theorem noted_eq_nil {isUsed : Bool} {modifier : Modifier} :
    noted isUsed modifier = [] ↔ isUsed = false := by
  cases isUsed <;> simp [noted]

/-- The modifiers of a condition. -/
def Expr.modifiers : Expr → List Modifier
  | group inner => modifiers inner
  | binary left .and right => modifiers left ++ modifiers right
  | binary left .or right => modifiers left ++ modifiers right
  | like _ _ escape _ _ any => noted escape.isSome .escape ++ noted any .anyPattern
  | _ => []

/-- The modifiers of an optional condition. -/
def conditionModifiers (condition : Option Expr) : List Modifier :=
  condition.elim [] Expr.modifiers

/-- The modifiers of a table by name. -/
def NamedTable.modifiers (table : NamedTable) : List Modifier :=
  noted table.path.isSome .path ++ noted (!table.partitions.isEmpty) .partitions ++
    noted table.arguments.isSome .arguments ++ noted table.ordinality .ordinality ++
    noted (table.label.any fun label => !label.columns.isEmpty) .labelColumns ++
    noted (!table.hints.isEmpty) .tableHints ++ noted table.version.isSome .version ++
    noted table.sample.isSome .sample

/-- The modifiers of a table. -/
def TableSource.modifiers (source : TableSource) : List Modifier :=
  match source.table with
  | .named table => table.modifiers
  | _ => []

/-- The modifiers of an entry of a select list. -/
def SelectItem.modifiers : SelectItem → List Modifier
  | starBut _ => [.starChanges]
  | _ => []

/-- The modifiers of a sort key. -/
def SortItem.modifiers (item : SortItem) : List Modifier :=
  noted item.nullsFirst.isSome .nullOrder ++ noted item.fill.isSome .fill

/-- The modifiers of an order. -/
def Order.modifiers (order : Order) : List Modifier :=
  (match order.keys with
    | .listed items => items.flatMap SortItem.modifiers
    | .all _ _ => []) ++ noted order.interpolation.isSome .interpolation

/-- The modifiers of a body. -/
def Body.modifiers : Body → List Modifier
  | select s =>
    noted s.valueTable.isSome .valueTable ++ noted s.top.isSome .top ++
      s.items.flatMap SelectItem.modifiers ++ noted s.exclude.isSome .exclude ++
      noted s.into.isSome .into ++ s.sources.flatMap TableSource.modifiers ++
      noted (!s.lateralViews.isEmpty) .lateralView ++ noted s.prewhere.isSome .prewhere ++
      conditionModifiers s.condition ++ noted (!s.groupBy.totals.isEmpty) .groupTotals ++
      noted (!s.clustering.isEmpty) .clustering ++ noted s.qualify.isSome .qualify ++
      noted s.connectBy.isSome .connectBy
  | _ => []

/-- The modifiers of a query. -/
def Query.modifiers (q : Query) : List Modifier :=
  q.body.modifiers ++ q.order.elim [] Order.modifiers ++
    noted (!q.settings.isEmpty) .settings ++ noted q.fetch.isSome .fetch ++
    noted (q.locks.any Lock.skipsLocked) .skipLocked ++ noted (!q.pipes.isEmpty) .pipes

/-- The modifiers of the rows of an insertion. -/
def Query.rowsModifiers (q : Query) : List Modifier :=
  noted q.preamble.isSome .rowsPreamble ++ noted q.order.isSome .rowsOrder ++
    noted q.bounds.isSome .rowsBounds ++ noted (!q.settings.isEmpty) .settings ++
    noted q.fetch.isSome .fetch ++ noted (!q.pipes.isEmpty) .pipes

/-- The modifiers of an insertion. -/
def Insert.modifiers (i : Insert) : List Modifier :=
  noted i.choice.isSome .conflictChoice ++ noted i.overwrites .overwrite ++
    noted i.partition.isSome .insertPartition ++ noted (!i.laterColumns.isEmpty) .laterColumns ++
    noted (!i.settings.isEmpty) .settings ++ noted i.formatted.isSome .formattedRows ++
    i.source.elim [] Query.rowsModifiers

/-- The modifiers of an update. -/
def Update.modifiers (u : Update) : List Modifier :=
  u.target.modifiers ++ conditionModifiers u.condition

/-- The modifiers of a deletion. -/
def Delete.modifiers (d : Delete) : List Modifier :=
  d.sources.flatMap TableSource.modifiers ++ noted (!d.extraSources.isEmpty) .extraSources ++
    conditionModifiers d.condition ++ noted d.returning.isSome .deletedRows ++
    noted (!d.order.isEmpty) .deletionOrder

/-- The modifiers of a parsed statement. -/
def Command.modifiers : Command → List Modifier
  | query q => q.modifiers
  | insert i => i.modifiers
  | update u => u.modifiers
  | delete d => d.modifiers
  | other _ => []

/-! ### Conditions -/

/-- Whether a condition says all that an expression says. -/
inductive Expr.States : Expr → Predicate → Prop
  | group {inner : Expr} {clause : Predicate} (hinner : States inner clause) :
      States (group inner) clause
  | and {left right : Expr} {first second : Predicate} (hleft : States left first)
      (hright : States right second) : States (binary left .and right) (.and first second)
  | or {left right : Expr} {first second : Predicate} (hleft : States left first)
      (hright : States right second) : States (binary left .or right) (.or first second)
  | compare {left right : Expr} {sign : BinaryOp} {column : String} {op : Operator} {value : Value}
      (hsign : (sign, op) ∈ comparisonSigns) (hcolumn : left.NamesColumn column)
      (hvalue : right.Denotes value) :
      States (binary left sign right) (.compare { column, op, value })
  | inList {operand : Expr} {items : List Expr} {column : String} {values : List Value}
      (hcolumn : operand.NamesColumn column) (hvalues : DenoteAll items values) :
      States (inList operand items false) (.compare { column, op := .isIn, value := .list values })
  | isNull {operand : Expr} {column : String} (hcolumn : operand.NamesColumn column) :
      States (isNull operand false) (.compare { column, op := .is, value := .null })
  | isBool {operand : Expr} {truth : Bool} {column : String}
      (hcolumn : operand.NamesColumn column) :
      States (isBool operand truth false) (.compare { column, op := .is, value := .bool truth })
  /-- A match with one pattern, without an escape character of its own. -/
  | like {operand pattern : Expr} {caseless : Bool} {column : String} {value : Value}
      (hcolumn : operand.NamesColumn column) (hvalue : pattern.Denotes value) :
      States (like operand pattern none false caseless false)
        (.compare { column, op := if caseless then .ilike else .like, value })

theorem Expr.toPredicate_of_states {e : Expr} {clause : Predicate} (hstates : e.States clause) :
    e.toPredicate = .ok clause ∧ e.modifiers = [] := by
  induction hstates with
  | group hinner ih => simpa [toPredicate, modifiers] using ih
  | and hleft hright ihleft ihright =>
      simp [toPredicate, modifiers, ihleft, ihright, bind, Except.bind, pure, Except.pure]
  | or hleft hright ihleft ihright =>
      simp [toPredicate, modifiers, ihleft, ihright, bind, Except.bind, pure, Except.pure]
  | @compare left right sign column op value hsign hcolumn hvalue =>
      have hop := BinaryOp.toOperator_eq_ok.mpr hsign
      cases sign <;>
        simp_all [toPredicate, modifiers, BinaryOp.toOperator, hcolumn.columnName_eq,
          hvalue.toValue_eq, bind, Except.bind, pure, Except.pure]
  | inList hcolumn hvalues =>
      simp [toPredicate, modifiers, hcolumn.columnName_eq, hvalues.toValues_eq, bind, Except.bind,
        pure, Except.pure]
  | isNull hcolumn | isBool hcolumn =>
      simp [toPredicate, modifiers, hcolumn.columnName_eq, bind, Except.bind, pure, Except.pure]
  | like hcolumn hvalue =>
      simp [toPredicate, modifiers, hcolumn.columnName_eq, hvalue.toValue_eq, bind, Except.bind,
        pure, Except.pure]

theorem Expr.states_of_toPredicate {e : Expr} {clause : Predicate}
    (hclause : e.toPredicate = .ok clause) (hmodifiers : e.modifiers = []) : e.States clause := by
  fun_induction toPredicate e generalizing clause with
  -- an expression in parentheses
  | case1 inner ih => exact .group (ih hclause hmodifiers)
  -- a conjunction
  | case2 left right ihleft ihright =>
      obtain ⟨first, hfirst, hrest⟩ := bind_eq_ok.mp hclause
      obtain ⟨second, hsecond, hresult⟩ := bind_eq_ok.mp hrest
      obtain ⟨hleft, hright⟩ := List.append_eq_nil_iff.mp hmodifiers
      rw [← pure_eq_ok.mp hresult]
      exact .and (ihleft hfirst hleft) (ihright hsecond hright)
  -- a disjunction
  | case3 left right ihleft ihright =>
      obtain ⟨first, hfirst, hrest⟩ := bind_eq_ok.mp hclause
      obtain ⟨second, hsecond, hresult⟩ := bind_eq_ok.mp hrest
      obtain ⟨hleft, hright⟩ := List.append_eq_nil_iff.mp hmodifiers
      rw [← pure_eq_ok.mp hresult]
      exact .or (ihleft hfirst hleft) (ihright hsecond hright)
  -- any other operator between two operands, which has to be a comparison
  | case4 left sign right =>
      obtain ⟨op, hop, hrest⟩ := bind_eq_ok.mp hclause
      obtain ⟨column, hcolumn, hrest⟩ := bind_eq_ok.mp hrest
      obtain ⟨value, hvalue, hresult⟩ := bind_eq_ok.mp hrest
      rw [← pure_eq_ok.mp hresult]
      exact .compare (BinaryOp.toOperator_eq_ok.mp hop) (namesColumn_of_columnName hcolumn)
        (denotes_of_toValue hvalue)
  -- `IN`
  | case5 operand items =>
      obtain ⟨values, hvalues, hrest⟩ := bind_eq_ok.mp hclause
      obtain ⟨column, hcolumn, hresult⟩ := bind_eq_ok.mp hrest
      rw [← pure_eq_ok.mp hresult]
      exact .inList (namesColumn_of_columnName hcolumn) (denoteAll_of_toValues hvalues)
  -- `IS NULL`
  | case7 operand =>
      obtain ⟨column, hcolumn, hresult⟩ := bind_eq_ok.mp hclause
      rw [← pure_eq_ok.mp hresult]
      exact .isNull (namesColumn_of_columnName hcolumn)
  -- `IS TRUE` and `IS FALSE`
  | case8 operand truth =>
      obtain ⟨column, hcolumn, hresult⟩ := bind_eq_ok.mp hclause
      rw [← pure_eq_ok.mp hresult]
      exact .isBool (namesColumn_of_columnName hcolumn)
  -- `LIKE` and `ILIKE`
  | case11 operand pattern escape caseless any =>
      obtain ⟨column, hcolumn, hrest⟩ := bind_eq_ok.mp hclause
      obtain ⟨value, hvalue, hresult⟩ := bind_eq_ok.mp hrest
      rw [modifiers, List.append_eq_nil_iff, noted_eq_nil, noted_eq_nil] at hmodifiers
      obtain ⟨hescape, rfl⟩ := hmodifiers
      obtain rfl : escape = none := by simpa using hescape
      rw [← pure_eq_ok.mp hresult]
      exact .like (namesColumn_of_columnName hcolumn) (denotes_of_toValue hvalue)
  -- `NOT IN`, `IS NOT` with null and with a truth value, `NOT LIKE`, and all that is no condition
  | case6 | case9 | case10 | case12 | case13 => simp at hclause

theorem Expr.states_iff {e : Expr} {clause : Predicate} :
    e.States clause ↔ e.toPredicate = .ok clause ∧ e.modifiers = [] :=
  ⟨toPredicate_of_states, fun h => states_of_toPredicate h.1 h.2⟩

theorem condition_states_iff {condition : Option Expr} {filter : Option Predicate} :
    Option.Rel Expr.States condition filter ↔
      optionalPredicate condition = .ok filter ∧ conditionModifiers condition = [] := by
  rw [optionalPredicate, optionMapM_eq_ok]
  cases condition <;> cases filter <;> simp [conditionModifiers, Expr.states_iff]

/-! ### Tables -/

/-- Whether a name says all about a table: it is that table as a whole, under the names of its own
columns, and nothing is joined to it. -/
inductive TableSource.States : TableSource → String → Prop
  | whole {name : List Ident} {label : Option TableLabel} {indexHints : List String}
      {bare : String} (hname : Encloses (nameText name) bare)
      (hlabel : ∀ given ∈ label, given.columns = []) :
      States
        { table := .named {
            name, path := none, partitions := [], arguments := none, ordinality := false, label
            indexHints, hints := [], version := none, sample := none }
          joins := [] }
        bare

theorem NamedTable.modifiers_eq_nil {table : NamedTable} :
    table.modifiers = [] ↔
      table.path = none ∧ table.partitions = [] ∧ table.arguments = none ∧
        table.ordinality = false ∧ (∀ given ∈ table.label, given.columns = []) ∧
        table.hints = [] ∧ table.version = none ∧ table.sample = none := by
  have hlabel : table.label.any (fun label => !label.columns.isEmpty) = false ↔
      ∀ given ∈ table.label, given.columns = [] := by
    cases table.label <;> simp
  simp only [modifiers, List.append_eq_nil_iff, noted_eq_nil, hlabel, Bool.not_eq_false',
    List.isEmpty_iff, Option.isSome_eq_false_iff, Option.isNone_iff_eq_none, and_assoc]

/-- The name of a table that nothing is joined to, whatever is said behind the name. -/
theorem TableSource.tableName_eq_ok {kind : StatementKind} {source : TableSource} {name : String} :
    source.tableName kind = .ok name ↔
      source.joins = [] ∧ ∃ table, source.table = .named table ∧
        Encloses (nameText table.name) name := by
  simp only [← bareName_eq_iff]
  cases hjoins : source.joins with
  | nil => cases htable : source.table <;> simp [tableName, hjoins, htable]
  | cons join joins => simp [tableName, hjoins]

theorem TableSource.states_iff (kind : StatementKind) {source : TableSource} {name : String} :
    source.States name ↔ source.tableName kind = .ok name ∧ source.modifiers = [] := by
  rw [tableName_eq_ok]
  constructor
  · rintro ⟨hname, hlabel⟩
    exact ⟨⟨rfl, _, rfl, hname⟩,
      NamedTable.modifiers_eq_nil.mpr ⟨rfl, rfl, rfl, rfl, hlabel, rfl, rfl, rfl⟩⟩
  · rintro ⟨⟨hjoins, table, htable, hname⟩, hmodifiers⟩
    obtain ⟨factor, joins⟩ := source
    obtain rfl : factor = _ := htable
    obtain rfl : joins = _ := hjoins
    obtain ⟨parts, path, partitions, arguments, ordinality, label, indexHints, hints, version,
      sample⟩ := table
    obtain ⟨rfl, rfl, rfl, rfl, hlabel, rfl, rfl, rfl⟩ :=
      NamedTable.modifiers_eq_nil.mp hmodifiers
    exact .whole hname hlabel

theorem onlyTable_states_iff {sources : List TableSource} {kind : StatementKind}
    {several : Construct} {name : String} :
    (∃ source, sources = [source] ∧ source.States name) ↔
      onlyTable kind several sources = .ok name ∧
        sources.flatMap TableSource.modifiers = [] := by
  match sources with
  | [] => simp [onlyTable]
  | [source] => simp [onlyTable, TableSource.states_iff kind]
  | _ :: _ :: _ => simp [onlyTable]

/-! ### Lists of entries -/

/-- A list of which each entry states its counterpart is lowered to these, and has no modifiers. -/
theorem forall₂_states_iff {α β : Type} {states : α → β → Prop} {lower : α → Except Error β}
    {modifiers : α → List Modifier}
    (hstates : ∀ item result, states item result ↔ lower item = .ok result ∧ modifiers item = [])
    {items : List α} {results : List β} :
    List.Forall₂ states items results ↔
      items.mapM lower = .ok results ∧ items.flatMap modifiers = [] := by
  have heq : states = fun item result => modifiers item = [] ∧ lower item = .ok result := by
    funext item result
    rw [hstates, and_comm]
  rw [heq, List.forall₂_and_left, mapM_eq_ok, List.flatMap_eq_nil_iff, and_comm]

/-- Whether a column says all about an entry of a select list. -/
inductive SelectItem.States : SelectItem → SelectColumn → Prop
  | star : States .star .star
  | column {e : Expr} {label : Option Ident} {column : String} (hcolumn : e.NamesColumn column) :
      States (.expr e label) (.named column (label.map Ident.text))

theorem SelectItem.states_iff (item : SelectItem) (column : SelectColumn) :
    item.States column ↔ item.toColumn = .ok column ∧ item.modifiers = [] := by
  constructor
  · rintro (_ | ⟨hcolumn⟩)
    · exact ⟨rfl, rfl⟩
    · exact ⟨by simp [toColumn, hcolumn.columnName_eq, bind, Except.bind, pure, Except.pure], rfl⟩
  · rintro ⟨hcolumn, hmodifiers⟩
    cases item with
    | star =>
        cases hcolumn
        exact .star
    | expr e label =>
        obtain ⟨name, hname, hresult⟩ := bind_eq_ok.mp hcolumn
        rw [← pure_eq_ok.mp hresult]
        exact .column (Expr.namesColumn_of_columnName hname)
    | starBut | qualifiedStar | other => contradiction

/-- Whether an assignment says all that an entry of a `SET` list says. -/
inductive SetItem.States : SetItem → Assignment → Prop
  | assign {target column : String} {e : Expr} {value : Value} (hcolumn : Encloses target column)
      (hvalue : e.Denotes value) : States { target, value := e } { column, value }

theorem SetItem.states_iff (item : SetItem) (assignment : Assignment) :
    item.States assignment ↔ item.toAssignment = .ok assignment := by
  constructor
  · rintro ⟨hcolumn, hvalue⟩
    simp [toAssignment, bareName_eq_iff.mpr hcolumn, hvalue.toValue_eq, bind, Except.bind, pure,
      Except.pure]
  · intro hassignment
    obtain ⟨value, hvalue, hresult⟩ := bind_eq_ok.mp hassignment
    rw [← pure_eq_ok.mp hresult]
    exact .assign (encloses_bareName _) (Expr.denotes_of_toValue hvalue)

theorem assignments_states_iff {items : List SetItem} {assignments : List Assignment} :
    List.Forall₂ SetItem.States items assignments ↔
      items.mapM SetItem.toAssignment = .ok assignments := by
  have heq : SetItem.States = fun item assignment => item.toAssignment = .ok assignment := by
    funext item assignment
    rw [SetItem.states_iff]
  rw [heq, mapM_eq_ok]

theorem rows_states_iff {items : List (List Expr)} {rows : List (List Value)} :
    List.Forall₂ Expr.DenoteAll items rows ↔ items.mapM Expr.toValues = .ok rows := by
  simp only [mapM_eq_ok, Expr.toValues_eq_ok]

/-! ### Order -/

/-- Whether a key says all about an entry of an order. -/
inductive SortItem.States : SortItem → OrderKey → Prop
  | ascending {e : Expr} {ascending : Option Bool} {column : String}
      (hcolumn : e.NamesColumn column) (hdirection : ascending ≠ some false) :
      States { expr := e, ascending, nullsFirst := none, fill := none }
        { column, direction := .ascending }
  | descending {e : Expr} {column : String} (hcolumn : e.NamesColumn column) :
      States { expr := e, ascending := some false, nullsFirst := none, fill := none }
        { column, direction := .descending }

theorem SortItem.states_iff (item : SortItem) (key : OrderKey) :
    item.States key ↔ item.toKey = .ok key ∧ item.modifiers = [] := by
  constructor
  · rintro (⟨hcolumn, hdirection⟩ | ⟨hcolumn⟩)
    · simp [toKey, modifiers, hcolumn.columnName_eq, hdirection, bind, Except.bind, pure,
        Except.pure]
    · simp [toKey, modifiers, hcolumn.columnName_eq, bind, Except.bind, pure, Except.pure]
  · rintro ⟨hkey, hmodifiers⟩
    obtain ⟨e, ascending, nullsFirst, fill⟩ := item
    obtain ⟨column, hcolumn, hresult⟩ := bind_eq_ok.mp hkey
    have hnames := Expr.namesColumn_of_columnName hcolumn
    rw [← pure_eq_ok.mp hresult]
    obtain ⟨rfl, rfl⟩ : nullsFirst = none ∧ fill = none := by simpa [modifiers] using hmodifiers
    by_cases hdirection : ascending = some false
    · subst hdirection
      exact .descending hnames
    · rw [if_neg hdirection]
      exact .ascending hnames hdirection

/-- Whether keys say all about an order. -/
inductive Order.States : Option Order → List OrderKey → Prop
  | unordered : States none []
  | listed {items : List SortItem} {keys : List OrderKey}
      (hkeys : List.Forall₂ SortItem.States items keys) :
      States (some { keys := .listed items, interpolation := none }) keys

theorem Order.states_iff {order : Option Order} {keys : List OrderKey} :
    States order keys ↔ optionalKeys order = .ok keys ∧ order.elim [] Order.modifiers = [] := by
  constructor
  · rintro (_ | ⟨hkeys⟩)
    · exact ⟨rfl, rfl⟩
    · obtain ⟨hlowered, hmodifiers⟩ := (forall₂_states_iff SortItem.states_iff).mp hkeys
      exact ⟨hlowered, by simpa [Order.modifiers] using hmodifiers⟩
  · rintro ⟨hlowered, hmodifiers⟩
    match order with
    | none =>
        cases hlowered
        exact .unordered
    | some { keys := .listed items, interpolation } =>
        simp only [Option.elim_some, Order.modifiers, List.append_eq_nil_iff, noted_eq_nil,
          Option.isSome_eq_false_iff, Option.isNone_iff_eq_none] at hmodifiers
        obtain ⟨hitems, rfl⟩ := hmodifiers
        exact .listed ((forall₂_states_iff SortItem.states_iff).mpr ⟨hlowered, hitems⟩)

/-! ### Bounds -/

theorem refuse_eq_ok {isUsed : Bool} {construct : Construct} :
    refuse isUsed construct = .ok () ↔ isUsed = false := by
  cases isUsed <;> simp [refuse]

/-- Whether a limit and an offset say all about bounds. -/
inductive Bounds.States : Option Bounds → Option Nat → Option Nat → Prop
  | unbounded : States none none none
  | limitOffset {limit : Option Expr} {offset : Option (Expr × String)} {count start : Option Nat}
      (hlimit : Option.Rel Expr.Counts limit count)
      (hoffset : Option.Rel (fun part n => part.1.Counts n) offset start) :
      States (some (.limitOffset limit offset [])) count start
  | pair {limit offset : Expr} {count start : Nat} (hlimit : limit.Counts count)
      (hoffset : offset.Counts start) : States (some (.pair offset limit)) (some count) (some start)

theorem limit_states_iff {limit : Option Expr} {count : Option Nat} :
    Option.Rel Expr.Counts limit count ↔ limit.mapM Expr.toCount = .ok count := by
  simp only [optionMapM_eq_ok, Expr.toCount_eq_ok]

theorem offset_states_iff {offset : Option (Expr × String)} {start : Option Nat} :
    Option.Rel (fun part n => part.1.Counts n) offset start ↔
      offset.mapM (fun part => part.1.toCount) = .ok start := by
  simp only [optionMapM_eq_ok, Expr.toCount_eq_ok]

theorem Bounds.states_iff {bounds : Option Bounds} {limit offset : Option Nat} :
    States bounds limit offset ↔ optionalCounts bounds = .ok (limit, offset) := by
  constructor
  · rintro (_ | ⟨hlimit, hoffset⟩ | ⟨hlimit, hoffset⟩)
    · rfl
    · exact check_bind_eq_ok.mpr ⟨rfl, bind_eq_ok.mpr ⟨_, limit_states_iff.mp hlimit,
        bind_eq_ok.mpr ⟨_, offset_states_iff.mp hoffset, rfl⟩⟩⟩
    · exact bind_eq_ok.mpr ⟨_, Expr.toCount_eq_ok.mpr hlimit,
        bind_eq_ok.mpr ⟨_, Expr.toCount_eq_ok.mpr hoffset, rfl⟩⟩
  · intro hcounts
    match bounds with
    | none =>
        cases hcounts
        exact .unbounded
    | some (.limitOffset limit offset keys) =>
        obtain ⟨hkeys, hrest⟩ := check_bind_eq_ok.mp hcounts
        obtain ⟨count, hlimit, hrest⟩ := bind_eq_ok.mp hrest
        obtain ⟨start, hoffset, hresult⟩ := bind_eq_ok.mp hrest
        obtain rfl : keys = [] := by simpa [refuse_eq_ok] using hkeys
        cases hresult
        exact .limitOffset (limit_states_iff.mpr hlimit) (offset_states_iff.mpr hoffset)
    | some (.pair offset limit) =>
        obtain ⟨count, hlimit, hrest⟩ := bind_eq_ok.mp hcounts
        obtain ⟨start, hoffset, hresult⟩ := bind_eq_ok.mp hrest
        cases hresult
        exact .pair (Expr.toCount_eq_ok.mp hlimit) (Expr.toCount_eq_ok.mp hoffset)

end SqlGateway.Sql
