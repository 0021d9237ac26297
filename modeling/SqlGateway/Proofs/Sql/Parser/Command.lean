import SqlGateway.Proofs.Shape.Normalize
import SqlGateway.Proofs.Sql.Parser.Meaning

/-!
# Plain statements

The four statements in their plain forms, as lists of tokens, and what the grammar and the lowering
make of them.  A plain statement is about one table, and nothing follows its last clause.
-/

namespace SqlGateway.Sql.Parser

variable {tokens rest tail : List Token} {first table marker : Word} {filter : Option Predicate}
  {depth : Nat} {nested : Nested}

/-- Whether the name of a table is the same without the quotes at its ends. -/
def IsBare (name : String) : Prop :=
  bareName name = name

theorem nameText_word {w : Word} (hquoted : w.isQuoted = false) : nameText [w.ident] = w.text := by
  simp [nameText, Ident.sqlText, Word.ident, hquoted]

theorem tableName_plainTable {w : Word} (hquoted : w.isQuoted = false) (hbare : IsBare w.text)
    (kind : StatementKind) : (plainTable w).tableName kind = .ok w.text := by
  have hname : bareName (nameText [w.ident]) = w.text := by
    rw [nameText_word hquoted]
    exact hbare
  simp [TableSource.tableName, plainTable, plainName, hname]

/-! ### Removals -/

theorem deleteCommand_of_clause {condition : Option Expr} (hmarker : marker.keyword = "FROM")
    (htable : table.keyword ∉ tableForms) (hclause : AtClause tableEnds tokens)
    (hcondition : clause? ["WHERE"] nested.fullExpr tokens = .ok (condition, [])) :
    deleteCommand nested (.word marker :: .word table :: tokens) =
      .ok ({ targets := [], sources := [plainTable table], extraSources := [], condition,
             returning := none, order := [], limit := none }, []) := by
  have husing : clause? ["USING"] (tableSources nested) tokens = .ok (none, tokens) :=
    clause?_of_clause hclause (by decide) [] _
  simp [deleteCommand, keyword?_of_eq hmarker, tableSources_of_clause htable hclause, husing,
    hcondition, returningClause, clause?_nil]

/-! ### Changes -/

/-- The words that say what is done about a conflict. -/
def conflictWords : List String := ["REPLACE", "ROLLBACK", "ABORT", "FAIL", "IGNORE"]

theorem conflictChoice_of_ne (hfirst : first.keyword ≠ "REPLACE")
    (hmarker : first.keyword = "OR" → marker.keyword ∉ conflictWords) :
    conflictChoice (.word first :: .word marker :: rest) =
      .ok (none, .word first :: .word marker :: rest) := by
  have hchoice : ¬(first.keyword = "OR" ∧ marker.keyword ∈ conflictWords) :=
    fun h => hmarker h.1 h.2
  have halone : conflictChoice.replaceAlone (.word first :: .word marker :: rest) =
      .ok (none, .word first :: .word marker :: rest) := by
    simp [conflictChoice.replaceAlone, keyword?_of_ne, hfirst]
  simp only [conflictWords] at hchoice
  simp only [conflictChoice, bind_apply, get_apply, Token.isKeyword, Bool.and_eq_true, beq_iff_eq,
    List.contains_iff_mem, hchoice, if_false, halone]

theorem updateCommand_of_clause {condition : Option Expr} (column : Word) {written : List Token}
    {e : Expr} (hchange : table.keyword ≠ "REPLACE") (htable : table.keyword ∉ tableForms)
    (hmarker : marker.keyword = "SET")
    (hvalue : nested.fullExpr (written ++ tokens) = .ok (e, tokens))
    (hclause : AtClause ["WHERE", "ORDER"] tokens)
    (hcondition : clause? ["WHERE"] nested.fullExpr tokens = .ok (condition, [])) :
    updateCommand nested
        (.word table :: .word marker :: .word column :: .symbol "=" :: (written ++ tokens)) =
      .ok ({ choice := none, target := plainTable table, sources := none,
             assignments := [{ target := nameText [column.ident], value := e }],
             condition, returning := none, limit := none }, []) := by
  have hset : AtClause tableEnds
      (.word marker :: .word column :: .symbol "=" :: (written ++ tokens)) :=
    atClause_word (by rw [hmarker]; decide)
  have hchoice : conflictChoice
      (.word table :: .word marker :: .word column :: .symbol "=" :: (written ++ tokens)) =
        .ok (none,
          .word table :: .word marker :: .word column :: .symbol "=" :: (written ++ tokens)) :=
    conflictChoice_of_ne hchange (fun _ => by rw [hmarker]; decide)
  have hfrom : clause? ["FROM"] (tableSources nested)
      (.word marker :: .word column :: .symbol "=" :: (written ++ tokens)) =
        .ok (none, .word marker :: .word column :: .symbol "=" :: (written ++ tokens)) :=
    clause?_of_clause hset (by decide) [] _
  have hbehind : clause? ["FROM"] (tableSources nested) tokens = .ok (none, tokens) :=
    clause?_of_clause hclause (by decide) [] _
  have hassignment : assignment nested (.word column :: .symbol "=" :: (written ++ tokens)) =
      .ok ({ target := nameText [column.ident], value := e }, tokens) := by
    have hparen : nextIsSymbol "(" (.word column :: .symbol "=" :: (written ++ tokens)) =
        .ok (false, .word column :: .symbol "=" :: (written ++ tokens)) :=
      nextIsSymbol_of_ne (by simp)
    have hname : objectName (.word column :: .symbol "=" :: (written ++ tokens)) =
        .ok ([column.ident], .symbol "=" :: (written ++ tokens)) := objectName_word (by simp)
    simp [assignment, assignmentTarget, hparen, hname, hvalue]
  have hassignments : assignments nested (.word column :: .symbol "=" :: (written ++ tokens)) =
      .ok ([{ target := nameText [column.ident], value := e }], tokens) :=
    commaList_of_single hassignment (hclause.ne_symbol (by decide))
  simp [updateCommand, hchoice, tableSource_of_clause htable hset, hfrom, keyword_of_eq hmarker,
    hassignments, hbehind, hcondition, returningClause, clause?_nil]

/-! ### Insertions -/

/-- The words that are no table of an insertion. -/
def insertForms : List String := ["LOCAL", "DIRECTORY", "TABLE"]

/-- A list of names in parentheses. -/
def nameTokens (names : List Word) : List Token :=
  .symbol "(" :: (commaTokens (names.map fun w => [.word w]) ++ [.symbol ")"])

theorem identList_nameTokens {names : List Word} (hnames : names ≠ []) :
    identList (nameTokens names ++ tail) = .ok (names.map Word.ident, tail) := by
  have hlist : commaList ident
      (commaTokens (names.map fun w => [.word w]) ++ .symbol ")" :: tail) =
        .ok (names.map Word.ident, .symbol ")" :: tail) := by
    refine commaList_commaTokens (fun _ => True) ?_ (by simpa using hnames)
      (fun _ => trivial) trivial (by simp)
    rw [List.forall₂_map_left_iff, List.forall₂_map_right_iff, List.forall₂_same]
    exact fun w _ tail _ => ident_word
  simp [identList, inParens, nameTokens, hlist]

/-- A row of values in parentheses. -/
def rowTokens (items : List (List Token)) : List Token :=
  .symbol "(" :: (commaTokens items ++ [.symbol ")"])

theorem valuesRow_rowTokens {items : List (List Token)} {values : List Value}
    (hitems : List.Forall₂ (IsValue false) items values) (hne : items ≠ []) :
    ∃ expressions, Expr.toValues expressions = .ok values ∧
      ∀ depth tail, valuesRow (nestedWithin (depth + 2)) (rowTokens items ++ tail) =
        .ok ((false, expressions), tail) := by
  obtain ⟨expressions, hoperands, hexpressions⟩ := exists_operands hitems
  refine ⟨expressions, hexpressions, fun depth tail => ?_⟩
  have hlist : commaList (nestedWithin (depth + 2)).fullExpr
      (commaTokens items ++ .symbol ")" :: tail) = .ok (expressions, .symbol ")" :: tail) := by
    refine commaList_commaTokens (fun tail => Ends tail ∧ isWordNext tail = false)
      (hoperands.imp ?_) hne (fun _ => ⟨ends_comma, rfl⟩) ⟨ends_closing, rfl⟩ (by simp)
    rintro written e hoperand tail ⟨hends, hnext⟩
    exact hoperand depth tail 0 hends (by simp [hnext])
  have hrow : keyword? "ROW" (.symbol "(" :: (commaTokens items ++ .symbol ")" :: tail)) =
      .ok (false, .symbol "(" :: (commaTokens items ++ .symbol ")" :: tail)) :=
    keyword?_of_ne (by simp)
  have hclosing : symbol? ")" (commaTokens items ++ .symbol ")" :: tail) =
      .ok (false, commaTokens items ++ .symbol ")" :: tail) := by
    refine symbol?_of_ne fun heq => ?_
    cases hitems with
    | nil => exact hne rfl
    | cons hvalue _ =>
        have hhead : ")" ∈ ["", "-"] := by
          rw [← heq, commaTokens, List.append_assoc]
          exact hvalue.headSymbol_append
        exact absurd hhead (by decide)
  simp [valuesRow, rowTokens, hrow, hclosing, hlist]

/-! ### Queries as wholes -/

/-- A query that begins with its body and has at most an order behind it. -/
theorem query_of_body {body : Body} {order : Option (List SortItem)}
    (hfirst : first.keyword ∈ ["SELECT", "VALUES"])
    (hbody : simpleBody nested (.word first :: tokens) = .ok (body, tail))
    (hclause : AtClause conditionEnds tail)
    (horder : clause? ["ORDER", "BY"] (sortItems nested) tail = .ok (order, [])) :
    query nested (.word first :: tokens) =
      .ok ({ preamble := none, body, order := order.map fun items => { keys := .listed items }
             bounds := none, fetch := none, locks := [] }, []) := by
  have hother : ∀ {keyword : String}, keyword ∉ ["SELECT", "VALUES"] →
      ¬headKeyword (.word first :: tokens) = keyword := by
    rintro keyword hkeyword rfl
    exact hkeyword hfirst
  have hwith : clause? ["WITH"] (do
      let isRecursive ← keyword? "RECURSIVE"
      let texts ← commaList (namedQuery nested)
      return (if isRecursive then "WITH RECURSIVE " else "WITH ") ++ commaText texts)
        (.word first :: tokens) = .ok (none, .word first :: tokens) :=
    clause?_of_ne (hother (by decide))
  have hinsert : keyword? "INSERT" (.word first :: tokens) = .ok (false, .word first :: tokens) :=
    keyword?_of_ne (hother (by decide))
  have hupdate : keyword? "UPDATE" (.word first :: tokens) = .ok (false, .word first :: tokens) :=
    keyword?_of_ne (hother (by decide))
  have hdelete : keyword? "DELETE" (.word first :: tokens) = .ok (false, .word first :: tokens) :=
    keyword?_of_ne (hother (by decide))
  have hmerge : keyword? "MERGE" (.word first :: tokens) = .ok (false, .word first :: tokens) :=
    keyword?_of_ne (hother (by decide))
  have hchange : changeBody? nested (.word first :: tokens) =
      .ok (none, .word first :: tokens) := by
    simp [changeBody?, hinsert, hupdate, hdelete, hmerge]
  have hset : ∀ {operators : List String} {operand : Parser Body} {tokens : List Token},
      operand tokens = .ok (body, tail) → headKeyword tail ∉ operators →
        setOperation operators operand tokens = .ok (body, tail) := by
    intro operators operand tokens hoperand hoperators
    have hnone : oneOf? operators tail = .ok (none, tail) := oneOf?_of_not_mem hoperators
    simp [setOperation, hoperand, many_of_none, hnone]
  have hqueryBody : queryBody nested (.word first :: tokens) = .ok (body, tail) :=
    hset (hset hbody (hclause.not_mem (by decide))) (hclause.not_mem (by decide))
  have hpreamble : preamble? nested (.word first :: tokens) = .ok (none, .word first :: tokens) :=
    hwith
  have hlimit : keyword? "LIMIT" [] = .ok (false, []) := rfl
  simp [query, hpreamble, hchange, hqueryBody, horder, bounds?, clause?_nil, hlimit, locks,
    locksWithin]

theorem optionalColumns_nameTokens {names : List Word} (hnames : names ≠ []) :
    optionalColumns true (nameTokens names ++ tail) = .ok (names.map Word.ident, tail) := by
  have hlist : identList (nameTokens names ++ tail) = .ok (names.map Word.ident, tail) :=
    identList_nameTokens hnames
  cases names with
  | nil => exact absurd rfl hnames
  | cons w names =>
      simpa [optionalColumns, nameTokens, commaTokens] using hlist

theorem nextIsSubquery_nameTokens {names : List Word} (hnames : names ≠ [])
    (hselect : ∀ w ∈ names.head?, w.keyword ≠ "SELECT") :
    nextIsSubquery (nameTokens names ++ tail) = .ok (false, nameTokens names ++ tail) := by
  cases names with
  | nil => exact absurd rfl hnames
  | cons w names =>
      have hw : w.keyword ≠ "SELECT" := hselect w rfl
      simp [nextIsSubquery, nameTokens, commaTokens, Token.isKeyword, hw]

/-- The query of one row. -/
def rowQuery (expressions : List Expr) : Query :=
  Query.ofBody none (.values
    { keyword := "VALUES", explicitRow := false, rows := [expressions] })

theorem query_rowTokens {keyword : Word} {items : List (List Token)} {expressions : List Expr}
    (hkeyword : keyword.keyword = "VALUES")
    (hrow : valuesRow (nestedWithin (depth + 2)) (rowTokens items) =
      .ok ((false, expressions), [])) :
    (nestedWithin (depth + 3)).query (.word keyword :: rowTokens items) =
      .ok (rowQuery expressions, []) := by
  have hrows : commaList (valuesRow (nestedWithin (depth + 2))) (rowTokens items) =
      .ok ([(false, expressions)], []) := commaList_of_single hrow (by simp)
  have hbody : simpleBody (nestedWithin (depth + 2)) (.word keyword :: rowTokens items) =
      .ok (.values { keyword := "VALUES", explicitRow := false, rows := [expressions] }, []) := by
    simp [simpleBody, keyword?_of_ne, symbol?_of_ne, keyword?_of_eq, hkeyword, valuesBody, hrows]
  exact query_of_body (by rw [hkeyword]; decide) hbody (atClause_nil _)
    (clause?_nil (by decide) _ _)

theorem insertContent_rowTokens {names : List Word} {items : List (List Token)} {keyword : Word}
    {source : Query} (hnames : names ≠ [])
    (hselect : ∀ w ∈ names.head?, w.keyword ≠ "SELECT") (hkeyword : keyword.keyword = "VALUES")
    (hquery : nested.query (.word keyword :: rowTokens items) = .ok (source, [])) :
    insertContent nested (nameTokens names ++ .word keyword :: rowTokens items) =
      .ok ({ columns := names.map Word.ident, partition := none, assignments := [],
             source := some source }, []) := by
  have hdefault : keywords? ["DEFAULT", "VALUES"]
      (nameTokens names ++ .word keyword :: rowTokens items) =
        .ok (false, nameTokens names ++ .word keyword :: rowTokens items) :=
    keywords?_of_ne (by simp [nameTokens])
  have hpartition : clause? ["PARTITION"] (inParens (exprTexts nested))
      (.word keyword :: rowTokens items) = .ok (none, .word keyword :: rowTokens items) :=
    clause?_of_ne (by simp [hkeyword])
  simp [insertContent, hdefault, nextIsSubquery_nameTokens hnames hselect,
    optionalColumns_nameTokens hnames, hpartition, keyword?_of_ne, hkeyword, hquery]

/-- The insertion of one row. -/
def rowInsert (table : Word) (names : List Word) (expressions : List Expr) : Insert where
  replaces := false
  ignores := false
  choice := none
  priority := none
  overwrites := false
  opening := " INTO"
  target := .table [table.ident]
  columns := names.map Word.ident
  partition := none
  assignments := []
  source := some (rowQuery expressions)
  rowName := none
  onConflict := none
  returning := none

theorem insertCommand_of_content {names : List Word} {expressions : List Expr}
    (hmarker : marker.keyword = "INTO") (htable : table.keyword ∉ insertForms)
    (hpoint : headSymbol tokens ≠ ".")
    (hcontent : insertContent nested tokens =
      .ok ({ columns := names.map Word.ident, partition := none, assignments := [],
             source := some (rowQuery expressions) }, [])) :
    insertCommand nested false (.word marker :: .word table :: tokens) =
      .ok (.insert (rowInsert table names expressions), []) := by
  simp only [insertForms, List.mem_cons, List.not_mem_nil, or_false, not_or] at htable
  have hchoice : conflictChoice (.word marker :: .word table :: tokens) =
      .ok (none, .word marker :: .word table :: tokens) :=
    conflictChoice_of_ne (by rw [hmarker]; decide)
      (fun h => absurd (hmarker.symm.trans h) (by decide))
  have hpriority : oneOf? ["LOW_PRIORITY", "DELAYED", "HIGH_PRIORITY"]
      (.word marker :: .word table :: tokens) =
        .ok (none, .word marker :: .word table :: tokens) :=
    oneOf?_of_not_mem (by simp [hmarker])
  have hinto : keywords? ["INTO"] (.word marker :: .word table :: tokens) =
      .ok (true, .word table :: tokens) := by
    simp [keywords?, dropKeywords?, Token.isKeyword, hmarker]
  have htableWord : keywords? ["TABLE"] (.word table :: tokens) =
      .ok (false, .word table :: tokens) := keywords?_of_ne (by simp [htable])
  simp [insertCommand, rowInsert, hchoice, hpriority, keyword?_of_ne, hmarker, optionalWords,
    hinto, htable, htableWord, objectName_word hpoint, hcontent, clause?_nil, returningClause]

theorem toInsert_rowInsert {names : List Word} {expressions : List Expr} {values : List Value}
    (hbare : table.isQuoted = false ∧ IsBare table.text) (hnames : names ≠ [])
    (hexpressions : Expr.toValues expressions = .ok values) :
    (rowInsert table names expressions).toInsert =
      .ok { table := table.text, columns := names.map Word.text, rows := [values] } := by
  have hname : bareName (InsertTarget.table [table.ident]).sqlText = table.text := by
    rw [InsertTarget.sqlText, nameText_word hbare.1]
    exact hbare.2
  have htexts : (names.map Word.ident).map Ident.text = names.map Word.text := by
    rw [List.map_map]
    rfl
  simp [Insert.toInsert, rowInsert, rowQuery, refuse, writtenRows, Query.ofBody, hexpressions,
    hname, hnames, htexts, bind, Except.bind, pure, Except.pure]

/-- An insertion of one row. -/
theorem insertCommand_row (depth : Nat) {names : List Word} {items : List (List Token)}
    {values : List Value} {keyword : Word} (hmarker : marker.keyword = "INTO")
    (htable : table.keyword ∉ insertForms)
    (hbare : table.isQuoted = false ∧ IsBare table.text) (hnames : names ≠ [])
    (hselect : ∀ w ∈ names.head?, w.keyword ≠ "SELECT") (hkeyword : keyword.keyword = "VALUES")
    (hitems : List.Forall₂ (IsValue false) items values) (hne : items ≠ []) :
    ∃ i, insertCommand (nestedWithin (depth + 3)) false (.word marker :: .word table ::
          (nameTokens names ++ .word keyword :: rowTokens items)) = .ok (.insert i, []) ∧
      i.toInsert =
        .ok { table := table.text, columns := names.map Word.text, rows := [values] } := by
  obtain ⟨expressions, hexpressions, hrow⟩ := valuesRow_rowTokens hitems hne
  have hread : valuesRow (nestedWithin (depth + 2)) (rowTokens items) =
      .ok ((false, expressions), []) := by
    simpa using hrow depth []
  have hcontent := insertContent_rowTokens hnames hselect hkeyword
    (query_rowTokens hkeyword hread)
  have hpoint : headSymbol (nameTokens names ++ .word keyword :: rowTokens items) ≠ "." := by
    simp [nameTokens]
  exact ⟨_, insertCommand_of_content hmarker htable hpoint hcontent,
    toInsert_rowInsert hbare hnames hexpressions⟩

/-! ### Queries -/

/-- A `SELECT` of plain entries from one table. -/
theorem selectBody_of_clause {itemTokens : List Token} {items : List SelectItem}
    {condition : Option Expr} (hform : headKeyword itemTokens ∉ selectForms) (hne : itemTokens ≠ [])
    (hread : selectItems nested (itemTokens ++ .word marker :: .word table :: tokens) =
      .ok (items, .word marker :: .word table :: tokens))
    (hmarker : marker.keyword = "FROM") (htable : table.keyword ∉ tableForms)
    (hclause : AtClause tableEnds tokens)
    (hcondition : clause? ["WHERE"] nested.fullExpr tokens = .ok (condition, tail))
    (htail : AtClause conditionEnds tail) :
    selectBody nested (itemTokens ++ .word marker :: .word table :: tokens) =
      .ok ({ distinct := none, top := none, items, into := none, sources := [plainTable table],
             lateralViews := [], condition, groupBy := .absent, clustering := [], having := none,
             windows := none, qualify := none, qualifyFirst := false }, tail) := by
  have hhead : headKeyword (itemTokens ++ .word marker :: .word table :: tokens) ∉
      selectForms := by
    rwa [headKeyword_append hne]
  simp only [selectForms, List.mem_cons, List.not_mem_nil, or_false, not_or] at hhead
  have hinto : clause? ["INTO"] intoTarget (.word marker :: .word table :: tokens) =
      .ok (none, .word marker :: .word table :: tokens) := clause?_of_ne (by simp [hmarker])
  have hsources : clause? ["FROM"] (tableSources nested) (.word marker :: .word table :: tokens) =
      .ok (some [plainTable table], tokens) :=
    clause?_of_eq hmarker (tableSources_of_clause htable hclause)
  have hview : lateralView? nested tokens = .ok (none, tokens) :=
    clause?_of_clause hclause (by decide) _ _
  have hgroup : clause? ["GROUP", "BY"] (grouping nested) tail = .ok (none, tail) :=
    clause?_of_clause htail (by decide) _ _
  have hclusters : clusteringClauses nested tail = .ok ([], tail) := by
    have hcluster := textClause_of_clause htail "CLUSTER" (by decide) ["BY"]
      (exprTexts nested)
    have hdistribute := textClause_of_clause htail "DISTRIBUTE" (by decide) ["BY"]
      (exprTexts nested)
    have hsort := textClause_of_clause htail "SORT" (by decide) ["BY"]
      (sortText nested)
    simp [clusteringClauses, hcluster, hdistribute, hsort]
  have hhaving : clause? ["HAVING"] nested.fullExpr tail = .ok (none, tail) :=
    clause?_of_clause htail (by decide) _ _
  have hwindows : windowClauses nested tail = .ok ((none, none, false), tail) := by
    have hwindow : ∀ inner : Parser String, clause? ["WINDOW"] inner tail = .ok (none, tail) :=
      fun _ => clause?_of_clause htail (by decide) _ _
    have hqualify : clause? ["QUALIFY"] (exprText nested) tail = .ok (none, tail) :=
      clause?_of_clause htail (by decide) _ _
    simp [windowClauses, hwindow, hqualify]
  simp [selectBody, distinctClause, topClause, keyword?_of_ne, hhead, hread, hinto, hsources,
    many_of_none hview, hcondition, hgroup, hclusters, hhaving, hwindows]

end SqlGateway.Sql.Parser

namespace SqlGateway.Statement

open Sql Sql.Parser

variable {tokens : List Token} {first marker table : Word} {filter : Option Predicate}
  {byWord : Bool}

/-! ### Statements from tokens -/

/-- The name of a plain table. -/
structure IsTable (forms : List String) (w : Word) : Prop where
  plain : w.isQuoted = false
  bare : IsBare w.text
  form : w.keyword ∉ forms

theorem ofTokens_delete (hfirst : first.keyword = "DELETE") (hmarker : marker.keyword = "FROM")
    (htable : IsTable tableForms table) (hfilter : IsFilter byWord tokens filter) :
    ofTokens (.word first :: .word marker :: .word table :: tokens) =
      .ok (.delete { table := table.text, filter }) := by
  obtain ⟨condition, hread, hcondition⟩ :=
    hfilter.read 46 [] (atClause_nil _) (by simp [isWordNext])
  have hclause : AtClause tableEnds (tokens ++ []) :=
    (hfilter.clause [] (atClause_nil _)).mono (by decide)
  rw [List.append_nil] at hread hclause
  have hdelete := deleteCommand_of_clause hmarker htable.form hclause hread
  have hcommand : (nestedWithin maxDepth).command
      (.word first :: .word marker :: .word table :: tokens) = .ok (.delete {
        targets := [], sources := [plainTable table], extraSources := [], condition,
        returning := none, order := [], limit := none }, []) := by
    change Parser.command (nestedWithin 49) _ = _
    simp [Parser.command, hfirst, hdelete]
  rw [ofTokens_of_command (by simp) hcommand (.inl rfl)]
  simp [Command.toStatement, Delete.toDelete, refuse, onlyTable,
    tableName_plainTable htable.plain htable.bare,
    hcondition, bind, Except.bind, pure, Except.pure, Functor.map, Except.map]

theorem ofTokens_update {column : Word} {written : List Token} {value : Value}
    (hfirst : first.keyword = "UPDATE") (htable : IsTable ("REPLACE" :: tableForms) table)
    (hmarker : marker.keyword = "SET") (hcolumn : column.isQuoted = false ∧ IsBare column.text)
    (hvalue : IsValue (isWordNext tokens) written value) (hfilter : IsFilter byWord tokens filter) :
    ofTokens (.word first :: .word table :: .word marker :: .word column :: .symbol "=" ::
        (written ++ tokens)) =
      .ok (.update {
        table := table.text, assignments := [{ column := column.text, value }], filter }) := by
  obtain ⟨e, hoperand, he⟩ := hvalue.exists_operand
  obtain ⟨condition, hread, hcondition⟩ :=
    hfilter.read 46 [] (atClause_nil _) (by simp [isWordNext])
  have hclause := hfilter.clause [] (atClause_nil _)
  have hform := htable.form
  rw [List.append_nil] at hread hclause
  rw [List.mem_cons, not_or] at hform
  have hexpr : (nestedWithin 49).fullExpr (written ++ tokens) = .ok (e, tokens) :=
    hoperand 47 tokens 0 (ends_of_clause hclause (by decide)) id
  have hupdate := updateCommand_of_clause column hform.1 hform.2 hmarker hexpr hclause hread
  have hcommand : (nestedWithin maxDepth).command (.word first :: .word table :: .word marker ::
      .word column :: .symbol "=" :: (written ++ tokens)) = .ok (.update {
        choice := none, target := plainTable table, sources := none,
        assignments := [{ target := nameText [column.ident], value := e }],
        condition, returning := none, limit := none }, []) := by
    change Parser.command (nestedWithin 49) _ = _
    simp [Parser.command, hfirst, hupdate]
  have hname : bareName (nameText [column.ident]) = column.text := by
    rw [nameText_word hcolumn.1]
    exact hcolumn.2
  rw [ofTokens_of_command (by simp) hcommand (.inl rfl)]
  simp [Command.toStatement, Update.toUpdate, refuse, tableName_plainTable htable.plain htable.bare,
    SetItem.toAssignment, hname, he, hcondition, bind, Except.bind, pure, Except.pure, Functor.map,
    Except.map]

theorem ofTokens_insert {names : List Word} {items : List (List Token)} {values : List Value}
    {keyword : Word} (hfirst : first.keyword = "INSERT") (hmarker : marker.keyword = "INTO")
    (htable : IsTable insertForms table) (hnames : names ≠ [])
    (hselect : ∀ w ∈ names.head?, w.keyword ≠ "SELECT") (hkeyword : keyword.keyword = "VALUES")
    (hitems : List.Forall₂ (IsValue false) items values) (hne : items ≠ []) :
    ofTokens (.word first :: .word marker :: .word table ::
        (nameTokens names ++ .word keyword :: rowTokens items)) =
      .ok (.insert { table := table.text, columns := names.map Word.text, rows := [values] }) := by
  obtain ⟨i, hinsert, hi⟩ := insertCommand_row 46 hmarker htable.form
    ⟨htable.plain, htable.bare⟩ hnames hselect hkeyword hitems hne
  have hcommand : (nestedWithin maxDepth).command (.word first :: .word marker :: .word table ::
      (nameTokens names ++ .word keyword :: rowTokens items)) = .ok (.insert i, []) := by
    change Parser.command (nestedWithin 49) _ = _
    simp [Parser.command, hfirst, hinsert]
  rw [ofTokens_of_command (by simp) hcommand (.inl rfl)]
  simp [Command.toStatement, hi, Functor.map, Except.map]

theorem ofTokens_select {fields order : List Token} {columns : List SelectColumn}
    {keys : List OrderKey} (hfirst : first.keyword = "SELECT") (hfields : IsFields fields columns)
    (hmarker : marker.keyword = "FROM") (htable : IsTable tableForms table)
    (hfilter : IsFilter (isWordNext order) tokens filter) (horder : IsOrder order keys) :
    ofTokens (.word first :: (fields ++ .word marker :: .word table :: (tokens ++ order))) =
      .ok (.select {
        table := table.text, columns, filter, order := keys, limit := none, offset := none }) := by
  obtain ⟨items, hread, hcolumns⟩ := hfields.read 46
    (.word marker :: .word table :: (tokens ++ order)) (atClause_word (by rw [hmarker]; decide))
  obtain ⟨condition, hwhere, hcondition⟩ := hfilter.read 45 order horder.clause id
  obtain ⟨sorted, hsorted, hkeys⟩ := horder.read 46
  have hclause : AtClause tableEnds (tokens ++ order) :=
    (hfilter.clause order horder.clause).mono (by decide)
  have hselect := selectBody_of_clause hfields.form hfields.ne_nil hread
    hmarker htable.form hclause hwhere horder.clause
  have hbody : simpleBody (nestedWithin 48)
      (.word first :: (fields ++ .word marker :: .word table :: (tokens ++ order))) = .ok (.select {
        distinct := none, top := none, items, into := none, sources := [plainTable table],
        lateralViews := [], condition, groupBy := .absent, clustering := [], having := none,
        windows := none, qualify := none, qualifyFirst := false }, order) := by
    simp [simpleBody, keyword?_of_eq hfirst, hselect]
  have hquery := query_of_body (by rw [hfirst]; decide) hbody horder.clause hsorted
  have hcommand : ∀ {q : Query}, Parser.query (nestedWithin 48)
      (.word first :: (fields ++ .word marker :: .word table :: (tokens ++ order))) = .ok (q, []) →
        (nestedWithin maxDepth).command
          (.word first :: (fields ++ .word marker :: .word table :: (tokens ++ order))) =
            .ok (.query q, []) := by
    intro q hq
    have hread : (nestedWithin 49).query
      (.word first :: (fields ++ .word marker :: .word table :: (tokens ++ order))) =
        .ok (q, []) := hq
    change Parser.command (nestedWithin 49) _ = _
    simp [Parser.command, hfirst, hread]
  rw [ofTokens_of_command (by simp) (hcommand hquery) (.inl rfl)]
  have hsource := tableName_plainTable htable.plain htable.bare .select
  simp [Command.toStatement, Query.toSelect, refuse, Grouping.absent, Grouping.isUsed, onlyTable,
    optionalCounts, hsource, hcolumns, hcondition, hkeys, bind, Except.bind, pure, Except.pure,
    Functor.map, Except.map]

end SqlGateway.Statement
