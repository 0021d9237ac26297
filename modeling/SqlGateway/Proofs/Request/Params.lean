import SqlGateway.Proofs.Decimal.Text
import SqlGateway.Proofs.Plan
import SqlGateway.Proofs.Text.Split
import SqlGateway.Request.Params

/-!
# What the service reads in the parameters

Five keys are words of the service itself, every other key is the name of a column that a condition
looks at.  So the parameters of a request say what it is about as long as no condition is on a
column with one of these names.  Then each word stands for what was written under it, and the
filters are read back one by one.  A plain identifier may be such a word, though, and a condition on
that column is lost.
-/

namespace SqlGateway

open Text

/-! ### Cutting a disjunction -/

/-- Where a character stands, behind the parentheses that are open: outside quotes, inside them, or
behind a backslash there. -/
inductive Place where
  | plain (depth : Nat)
  | quoted (depth : Nat)
  | escaped (depth : Nat)
  deriving DecidableEq

/-- The place behind a character. -/
def Place.next : Place → Char → Place
  | plain depth, '"' => quoted depth
  | plain depth, '(' => plain (depth + 1)
  | plain depth, ')' => plain (depth - 1)
  | plain depth, _ => plain depth
  | quoted depth, '"' => plain depth
  | quoted depth, '\\' => escaped depth
  | quoted depth, _ => quoted depth
  | escaped depth, _ => quoted depth

/-- The items between the commas that stand outside quotes and parentheses. -/
def cutItems : Place → List Char → List (List Char)
  | _, [] => [[]]
  | place, c :: rest =>
    if place = .plain 0 ∧ c = ',' then [] :: cutItems place rest
    else
      match cutItems (place.next c) rest with
      | [] => [[c]]
      | item :: items => (c :: item) :: items

/-- A text that leads from one place to another without a cut. -/
def Crosses (start finish : Place) (text : List Char) : Prop :=
  ∀ rest item items, cutItems finish rest = item :: items →
    cutItems start (text ++ rest) = (text ++ item) :: items

variable {start middle finish : Place} {front text rest : List Char} {c : Char} {depth : Nat}

theorem Crosses.nil : Crosses start start [] :=
  fun _ _ _ hrest => hrest

theorem Crosses.append (hfront : Crosses start middle front) (htext : Crosses middle finish text) :
    Crosses start finish (front ++ text) := by
  intro rest item items hrest
  rw [List.append_assoc, hfront _ _ _ (htext rest item items hrest), List.append_assoc]

theorem Crosses.cons (hc : ¬(start = .plain 0 ∧ c = ','))
    (htext : Crosses (start.next c) finish text) :
    Crosses start finish (c :: text) := by
  intro rest item items hrest
  rw [List.cons_append, cutItems, if_neg hc, htext rest item items hrest]
  rfl

/-- The characters that lead to another place. -/
def isTurn (c : Char) : Bool :=
  c == ',' || c == '(' || c == ')' || c == '"'

theorem Crosses.plain (htext : ∀ c ∈ text, isTurn c = false) :
    Crosses (.plain depth) (.plain depth) text := by
  induction text with
  | nil => exact .nil
  | cons c text ih =>
      obtain ⟨hc, hrest⟩ := List.forall_mem_cons.mp htext
      simp only [isTurn, Bool.or_eq_false_iff, beq_eq_false_iff_ne] at hc
      have hnext : (Place.plain depth).next c = .plain depth := by
        unfold Place.next
        split <;> simp_all
      refine .cons (by simp [hc]) ?_
      rw [hnext]
      exact ih hrest

/-- Behind a backslash a quote does not end what is quoted. -/
theorem Crosses.escaped (content : List Char) : Crosses (.quoted depth) (.quoted depth)
    (content.flatMap fun c => if c = '"' || c = '\\' then ['\\', c] else [c]) := by
  induction content with
  | nil => exact .nil
  | cons c content ih =>
      rw [List.flatMap_cons]
      refine .append ?_ ih
      split
      · rename_i hc
        rw [Bool.or_eq_true, decide_eq_true_eq, decide_eq_true_eq] at hc
        rcases hc with rfl | rfl
        · exact .cons (by simp) (.cons (by simp [Place.next]) .nil)
        · exact .cons (by simp) (.cons (by simp [Place.next]) .nil)
      · rename_i hc
        rw [Bool.or_eq_true, decide_eq_true_eq, decide_eq_true_eq, not_or] at hc
        have hnext : (Place.quoted depth).next c = .quoted depth := by
          unfold Place.next
          split <;> simp_all
        refine .cons (by simp) ?_
        rw [hnext]
        exact .nil

/-- A text in quotes is never cut. -/
theorem Crosses.listQuoted (content : List Char) :
    Crosses (.plain depth) (.plain depth) (listQuoted content) := by
  have hclosing : Crosses (.quoted depth) (.plain depth) ['"'] := .cons (by simp) .nil
  exact .cons (by simp) ((Crosses.escaped content).append hclosing)

/-- What was joined by commas is cut at them again, if no item is cut inside. -/
theorem cutItems_intercalate {items : List (List Char)} (hne : items ≠ [])
    (hitems : ∀ item ∈ items, Crosses (.plain 0) (.plain 0) item) :
    cutItems (.plain 0) ([','].intercalate items) = items := by
  induction items with
  | nil => exact absurd rfl hne
  | cons item items ih =>
      obtain ⟨hitem, hrest⟩ := List.forall_mem_cons.mp hitems
      cases items with
      | nil =>
          have hend := hitem [] [] [] rfl
          rw [List.append_nil] at hend
          simpa [List.intercalate] using hend
      | cons next items =>
          have hjoin : [','].intercalate (item :: next :: items) =
              item ++ ',' :: [','].intercalate (next :: items) := by
            simp [List.intercalate]
          -- the comma stands in the same place as the front of the text, so it cuts
          have hcut : cutItems (.plain 0) (',' :: [','].intercalate (next :: items)) =
              [] :: cutItems (.plain 0) ([','].intercalate (next :: items)) := by
            rw [cutItems, if_pos ⟨rfl, rfl⟩]
          rw [hjoin, hitem _ _ _ hcut, List.append_nil, ih (List.cons_ne_nil next items) hrest]

/-! ### Values -/

theorem isTurn_of_isDigit (hc : c.isDigit = true) : isTurn c = false :=
  forall_ascii (p := fun c => c.isDigit = true → isTurn c = false) (by decide)
    (Decimal.toNat_lt_of_isDigit hc) hc

theorem isTurn_of_mem_toString_int {n : Int} (hc : c ∈ (toString n).toList) : isTurn c = false := by
  rcases Decimal.mem_toString_int c hc with hdigit | rfl
  · exact isTurn_of_isDigit hdigit
  · decide

theorem isTurn_of_mem_floatText {x : Float} (hc : c ∈ (Decimal.floatText .plain x).toList) :
    isTurn c = false := by
  have hall : ∀ c ∈ ['.', '-', 'N', 'a', 'i', 'n', 'f'], isTurn c = false := by decide
  rcases Decimal.mem_floatText x c hc with hdigit | hname
  · exact isTurn_of_isDigit hdigit
  · exact hall c hname

/-- What stands in a list without quotes holds nothing that separates. -/
theorem isTurn_of_needsQuotes (htext : needsQuotes text = false) :
    ∀ c ∈ text, isTurn c = false := by
  intro c hc
  rw [needsQuotes, Bool.or_eq_false_iff, List.any_eq_false] at htext
  have hplain := htext.2 c hc
  simp only [isReservedInList, Bool.or_eq_true, not_or, beq_iff_eq] at hplain
  simp [isTurn, hplain]

mutual

/-- An item is never cut inside. -/
theorem crosses_itemChars (value : Value) (depth : Nat) :
    Crosses (.plain depth) (.plain depth) value.itemChars := by
  cases value with
  | null =>
      rw [Value.itemChars]
      exact .plain (by decide)
  | bool b =>
      cases b with
      | true =>
          rw [Value.itemChars]
          exact .plain (by decide)
      | false =>
          rw [Value.itemChars]
          exact .plain (by decide)
  | int n =>
      rw [Value.itemChars]
      exact .plain fun c hc => isTurn_of_mem_toString_int hc
  | float x =>
      rw [Value.itemChars]
      exact .plain fun c hc => isTurn_of_mem_floatText hc
  | string s =>
      rw [Value.itemChars]
      split
      · exact .listQuoted _
      · rename_i hquotes
        exact .plain (isTurn_of_needsQuotes (by simpa using hquotes))
  | list items =>
      rw [Value.itemChars]
      have hclosing : Crosses (.plain (depth + 1)) (.plain depth) [')'] := .cons (by simp) .nil
      exact .cons (by simp) ((crosses_itemListChars items depth).append hclosing)

/-- Inside parentheses a list is never cut either. -/
theorem crosses_itemListChars (items : List Value) (depth : Nat) :
    Crosses (.plain (depth + 1)) (.plain (depth + 1)) (Value.itemListChars items) := by
  match items with
  | [] =>
      rw [Value.itemListChars]
      exact .nil
  | [item] =>
      rw [Value.itemListChars]
      exact crosses_itemChars item (depth + 1)
  | item :: next :: rest =>
      rw [Value.itemListChars]
      exact (crosses_itemChars item (depth + 1)).append
        (.cons (by simp) (crosses_itemListChars (next :: rest) depth))

end

/-! ### Conditions as they are read -/

/-- A condition as the service reads it; of the value of its operand it has the text alone. -/
structure ReadCondition where
  column : String
  op : Operator
  operand : String
  deriving DecidableEq

/-- A filter as the service reads it. -/
inductive ReadFilter where
  | condition (c : ReadCondition)
  | anyOf (conditions : List ReadCondition)
  deriving DecidableEq

/-- An operator and an operand with a point between them. -/
def readComparison? (column : String) (text : List Char) : Option ReadCondition := do
  let (name, operand) ← splitOnce? '.' text
  let op ← Operator.ofFilterName? (String.ofList name)
  return { column, op, operand := String.ofList operand }

/-- An item of a disjunction: a column with its comparison behind a point. -/
def readLeaf? (text : List Char) : Option ReadCondition := do
  let (column, comparison) ← splitOnce? '.' text
  readComparison? (String.ofList column) comparison

/-- The items of a disjunction in parentheses. -/
def readDisjunction? : List Char → Option (List ReadCondition)
  | '(' :: rest => (cutItems (.plain 0) rest.dropLast).mapM readLeaf?
  | _ => none

/-- The keys that are words of the service. -/
def controlWords : List String := ["select", "or", "order", "limit", "offset"]

/-- The filter that a parameter states, if it states one. -/
def readFilter? (entry : String × String) : Option ReadFilter :=
  if entry.1 = "or" then (readDisjunction? entry.2.toList).map .anyOf
  else if entry.1 ∈ controlWords then none
  else (readComparison? entry.1 entry.2.toList).map .condition

/-- The filters that the parameters of a request state. -/
def readFilters (params : List (String × String)) : List ReadFilter :=
  params.filterMap readFilter?

/-- What is to be read of a filter. -/
def Filter.read : Filter → ReadFilter
  | condition c => .condition { column := c.column, op := c.op, operand := c.value.operandText }
  | anyOf conditions => .anyOf (conditions.map fun c =>
      { column := c.column, op := c.op, operand := c.value.itemText })

theorem readComparison?_append (column : String) (op : Operator) (operand : List Char) :
    readComparison? column (op.filterName.toList ++ '.' :: operand) =
      some { column, op, operand := String.ofList operand } := by
  have hname : '.' ∉ op.filterName.toList := by cases op <;> decide
  have hop : Operator.ofFilterName? op.filterName = some op := by cases op <;> decide
  rw [readComparison?, splitOnce?_append hname]
  simp [hop]

theorem readLeaf?_filterChars {leaf : Comparison} (hcolumn : isIdentifier leaf.column = true) :
    readLeaf? leaf.filterChars =
      some { column := leaf.column, op := leaf.op, operand := leaf.value.itemText } := by
  have hpoint : '.' ∉ leaf.column.toList := not_mem_of_isIdentifier hcolumn (by decide)
  rw [readLeaf?, Comparison.filterChars, splitOnce?_append hpoint]
  simp only [Option.bind_eq_bind, Option.bind_some, String.ofList_toList, readComparison?_append]
  rfl

/-! ### Disjunctions -/

theorem crosses_filterChars {leaf : Comparison} (hcolumn : isIdentifier leaf.column = true) :
    Crosses (.plain 0) (.plain 0) leaf.filterChars := by
  have hname : ∀ c ∈ leaf.column.toList, isTurn c = false := fun c hc => by
    have hpart := isIdentifierPart_of_mem hcolumn hc
    exact forall_ascii (p := fun c => isIdentifierPart c = true → isTurn c = false) (by decide)
      (toNat_lt_of_isIdentifierPart hpart) hpart
  have hop : ∀ c ∈ leaf.op.filterName.toList, isTurn c = false := by
    cases leaf.op <;> decide
  refine (Crosses.plain hname).append (.cons (by simp) ?_)
  exact (Crosses.plain hop).append (.cons (by simp) (crosses_itemChars leaf.value 0))

theorem disjunctionChars_eq_intercalate (leaves : List Comparison) :
    disjunctionChars leaves = [','].intercalate (leaves.map Comparison.filterChars) := by
  induction leaves with
  | nil => rfl
  | cons leaf leaves ih =>
      cases leaves with
      | nil => simp [disjunctionChars, List.intercalate]
      | cons next leaves =>
          rw [disjunctionChars, ih]
          simp [List.intercalate]

/-- A disjunction is cut into the items that were joined. -/
theorem cutItems_disjunctionChars {leaves : List Comparison} (hne : leaves ≠ [])
    (hcolumns : ∀ leaf ∈ leaves, isIdentifier leaf.column = true) :
    cutItems (.plain 0) (disjunctionChars leaves) = leaves.map Comparison.filterChars := by
  rw [disjunctionChars_eq_intercalate]
  apply cutItems_intercalate
  · simpa using hne
  · intro item hitem
    obtain ⟨leaf, hleaf, rfl⟩ := List.mem_map.mp hitem
    exact crosses_filterChars (hcolumns leaf hleaf)

theorem mapM_eq_some_map {α β : Type} {read : α → Option β} {value : α → β} {items : List α}
    (hitems : ∀ item ∈ items, read item = some (value item)) :
    items.mapM read = some (items.map value) := by
  induction items with
  | nil => rfl
  | cons item items ih =>
      obtain ⟨hitem, hrest⟩ := List.forall_mem_cons.mp hitems
      simp [hitem, ih hrest]

theorem readDisjunction?_disjunctionText {leaves : List Comparison} (hne : leaves ≠ [])
    (hcolumns : ∀ leaf ∈ leaves, isIdentifier leaf.column = true) :
    readDisjunction? ("(" ++ disjunctionText leaves ++ ")").toList =
      some (leaves.map fun c =>
        { column := c.column, op := c.op, operand := c.value.itemText }) := by
  have htext : ("(" ++ disjunctionText leaves ++ ")").toList =
      '(' :: (disjunctionChars leaves ++ [')']) := by
    simp [disjunctionText]
  rw [htext, readDisjunction?, List.dropLast_concat, cutItems_disjunctionChars hne hcolumns,
    List.mapM_map]
  exact mapM_eq_some_map fun leaf hleaf => readLeaf?_filterChars (hcolumns leaf hleaf)

/-! ### The filters of a statement -/

/-- Whether a filter has conditions, and on plain identifiers. -/
structure Filter.IsReadable (filter : Filter) : Prop where
  isIdentifier : ∀ name ∈ filter.columns, isIdentifier name = true
  ne_nil : ∀ conditions, filter = .anyOf conditions → conditions ≠ []

/-- A clause has filters, and each of them has conditions. -/
theorem Predicate.filters_ne_nil {clause : Predicate} {filters : List Filter}
    (hfilters : clause.filters = .ok filters) :
    filters ≠ [] ∧ ∀ conditions, Filter.anyOf conditions ∈ filters → conditions ≠ [] := by
  obtain ⟨-, rfl⟩ := filters_eq_ok_iff.mp hfilters
  refine ⟨List.map_eq_nil_iff.not.mpr clause.factors_ne_nil, fun conditions hmem => ?_⟩
  obtain ⟨part, -, hpart⟩ := List.mem_map.mp hmem
  cases part with
  | compare c => cases hpart
  | and left right =>
      cases hpart
      exact List.map_eq_nil_iff.not.mpr (leaves_ne_nil _)
  | or left right =>
      cases hpart
      exact List.map_eq_nil_iff.not.mpr (leaves_ne_nil _)

variable {s : Statement} {request : Request}

/-- The filters of a request are those of the clause of its statement. -/
theorem Statement.filters_of_toRequest (hrequest : s.toRequest = .ok request) :
    Predicate.filtersOf s.filter = .ok request.filters := by
  cases s with
  | select s =>
      obtain ⟨-, columns, filters, -, hfilters, -, rfl⟩ :=
        SelectStatement.toRequest_eq_ok.mp hrequest
      exact hfilters
  | insert s =>
      obtain ⟨-, -, -, -, rfl⟩ := InsertStatement.toRequest_eq_ok.mp hrequest
      rfl
  | update s =>
      obtain ⟨-, -, -, filters, hfilters, rfl⟩ := UpdateStatement.toRequest_eq_ok.mp hrequest
      exact hfilters
  | delete s =>
      obtain ⟨-, filters, hfilters, rfl⟩ := DeleteStatement.toRequest_eq_ok.mp hrequest
      exact hfilters

theorem Statement.isReadable_of_toRequest (hrequest : s.toRequest = .ok request) :
    ∀ filter ∈ request.filters, filter.IsReadable := by
  intro filter hfilter
  have hfilters := filters_of_toRequest hrequest
  refine ⟨Predicate.isIdentifier_of_filtersOf hfilters filter hfilter, ?_⟩
  rintro conditions rfl
  cases hclause : s.filter with
  | none =>
      rw [hclause, Predicate.filtersOf, Except.ok.injEq] at hfilters
      rw [← hfilters] at hfilter
      contradiction
  | some clause =>
      rw [hclause] at hfilters
      exact (Predicate.filters_ne_nil hfilters).2 conditions hfilter

/-! ### The parameters of a request -/

/-- Whether a filter is a disjunction. -/
def Filter.isAnyOf : Filter → Bool
  | condition _ => false
  | anyOf _ => true

/-- Whether a filter is a condition on a column whose name is a word of the service. -/
def Filter.Clashes : Filter → Prop
  | condition c => c.column ∈ controlWords
  | anyOf _ => False

namespace Request

/-- The parameters under one key. -/
def entriesOf (key : String) (params : List (String × String)) : List (String × String) :=
  params.filter fun entry => entry.1 == key

theorem readFilter?_filterParam {filter : Filter} (hreadable : filter.IsReadable) :
    readFilter? (filterParam filter) = some filter.read ↔ ¬filter.Clashes := by
  cases filter with
  | condition c =>
      rw [Filter.Clashes, filterParam, readFilter?]
      constructor
      · intro hread hclash
        split at hread
        -- a comparison on a column `or` has no parentheses, so it is no disjunction
        · have hnone : readDisjunction? (c.op.filterName ++ "." ++ c.value.operandText).toList =
              none := by
            cases c.op <;> simp [Operator.filterName, readDisjunction?]
          rw [hnone] at hread
          contradiction
        · contradiction
      · intro hclash
        have hor : c.column ≠ "or" := by
          intro hor
          exact hclash (hor ▸ by decide)
        have htext : (c.op.filterName ++ "." ++ c.value.operandText).toList =
            c.op.filterName.toList ++ '.' :: c.value.operandChars := by
          simp [Value.operandText]
        rw [if_neg hor, if_neg hclash, htext, readComparison?_append]
        rfl
  | anyOf conditions =>
      have hcolumns : ∀ leaf ∈ conditions, isIdentifier leaf.column = true := fun leaf hleaf =>
        hreadable.isIdentifier leaf.column (List.mem_map_of_mem hleaf)
      have hread := readDisjunction?_disjunctionText (hreadable.ne_nil conditions rfl) hcolumns
      rw [Filter.Clashes, filterParam, readFilter?, if_pos rfl, hread]
      exact ⟨fun _ => not_false, fun _ => rfl⟩

/-- What is not a filter is not read as one. -/
theorem readFilters_eq_filterMap (request : Request) :
    readFilters request.params =
      request.filters.filterMap fun filter => readFilter? (filterParam filter) := by
  have hoptional : ∀ key ∈ ["select", "limit", "offset"], ∀ value : Option String,
      (optionalParam key value).filterMap readFilter? = [] := by
    intro key hkey value
    have hcontrol : ∀ key ∈ ["select", "limit", "offset"], key ≠ "or" ∧ key ∈ controlWords := by
      decide
    obtain ⟨hor, hword⟩ := hcontrol key hkey
    cases value with
    | none => rfl
    | some text => simp [optionalParam, readFilter?, hor, hword]
  have horder : (orderParam request.order).filterMap readFilter? = [] := by
    rw [orderParam]
    split
    · rfl
    · simp [readFilter?, controlWords]
  simp only [readFilters, params, List.filterMap_append, hoptional "select" (by simp),
    hoptional "limit" (by simp), hoptional "offset" (by simp), horder, List.append_nil,
    List.nil_append, List.filterMap_map]
  rfl

/-- A filter is lost if its column is a word of the service, and only then. -/
theorem readFilters_params (hreadable : ∀ filter ∈ request.filters, filter.IsReadable) :
    readFilters request.params = request.filters.map Filter.read ↔
      ∀ filter ∈ request.filters, ¬filter.Clashes := by
  rw [readFilters_eq_filterMap, List.filterMap_eq_map_iff_forall_eq_some]
  exact forall₂_congr fun filter hfilter => readFilter?_filterParam (hreadable filter hfilter)

theorem entriesOf_optionalParam (word key : String) (value : Option String) :
    entriesOf word (optionalParam key value) =
      if key = word then optionalParam key value else [] := by
  cases value with
  | none => simp [optionalParam, entriesOf]
  | some text => by_cases hkey : key = word <;> simp [optionalParam, entriesOf, hkey]

theorem entriesOf_orderParam (word : String) (order : List OrderKey) :
    entriesOf word (orderParam order) = if "order" = word then orderParam order else [] := by
  rw [orderParam]
  split
  · simp [entriesOf]
  · by_cases hkey : "order" = word <;> simp [entriesOf, hkey]

theorem entriesOf_filterParam {word : String} (hword : word ∈ controlWords) {filters : List Filter}
    (hclash : ∀ filter ∈ filters, ¬filter.Clashes) :
    entriesOf word (filters.map filterParam) =
      if word = "or" then (filters.filter Filter.isAnyOf).map filterParam else [] := by
  have hkey : ∀ filter ∈ filters, ((filterParam filter).1 == word) =
      (filter.isAnyOf && (word == "or")) := by
    intro filter hfilter
    have hfree := hclash filter hfilter
    cases filter with
    | condition c =>
        have hne : c.column ≠ word := by
          rintro rfl
          exact hfree hword
        simp [filterParam, Filter.isAnyOf, hne]
    | anyOf conditions => simp [filterParam, Filter.isAnyOf, Bool.beq_comm]
  rw [entriesOf, List.filter_map]
  by_cases hor : word = "or"
  · subst hor
    rw [if_pos rfl]
    congr 1
    exact List.filter_congr fun filter hfilter => by simpa using hkey filter hfilter
  · rw [if_neg hor, List.map_eq_nil_iff, List.filter_eq_nil_iff]
    intro filter hfilter
    simp [hkey filter hfilter, hor]

end Request

open Request

/-- The parameters of a statement's request are read as its filters if no condition is on a column
whose name is a word of the service, and only then.  In that case each of the five words stands for
just what was written under it, every condition has its parameter under the name of its column, and
a change with a clause is never read as one of all rows. -/
theorem Statement.readFilters_params_iff {s : Statement} {request : Request}
    (hrequest : s.toRequest = .ok request) :
    (readFilters request.params = request.filters.map Filter.read ↔
      ∀ filter ∈ request.filters, ¬filter.Clashes) ∧
    ((∀ filter ∈ request.filters, ¬filter.Clashes) →
      entriesOf "select" request.params = optionalParam "select" request.select ∧
      entriesOf "or" request.params =
        (request.filters.filter Filter.isAnyOf).map filterParam ∧
      entriesOf "order" request.params = orderParam request.order ∧
      entriesOf "limit" request.params = optionalParam "limit" (request.limit.map toString) ∧
      entriesOf "offset" request.params = optionalParam "offset" (request.offset.map toString) ∧
      (∀ c, Filter.condition c ∈ request.filters →
        filterParam (.condition c) ∈ entriesOf c.column request.params ∧ c.column ∉ controlWords) ∧
      (s.filter ≠ none → readFilters request.params ≠ [])) := by
  have hiff := readFilters_params (isReadable_of_toRequest hrequest)
  refine ⟨hiff, fun hclash => ?_⟩
  -- what is written under a word, part by part; all parts but one are empty
  have hentries : ∀ word ∈ controlWords, entriesOf word request.params =
      (if "select" = word then optionalParam "select" request.select else []) ++
        (if word = "or" then (request.filters.filter Filter.isAnyOf).map filterParam else []) ++
        (if "order" = word then orderParam request.order else []) ++
        (if "limit" = word then optionalParam "limit" (request.limit.map toString) else []) ++
        (if "offset" = word then optionalParam "offset" (request.offset.map toString) else []) := by
    intro word hword
    rw [← entriesOf_filterParam hword hclash, ← entriesOf_optionalParam, ← entriesOf_optionalParam,
      ← entriesOf_optionalParam, ← entriesOf_orderParam]
    simp only [entriesOf, params, List.filter_append]
  refine ⟨?_, ?_, ?_, ?_, ?_, ?_, ?_⟩
  · simpa using hentries "select" (by decide)
  · simpa using hentries "or" (by decide)
  · simpa using hentries "order" (by decide)
  · simpa using hentries "limit" (by decide)
  · simpa using hentries "offset" (by decide)
  · intro c hc
    refine ⟨List.mem_filter.mpr ⟨?_, by simp [filterParam]⟩, hclash _ hc⟩
    simp only [params, List.mem_append]
    exact .inl (.inl (.inl (.inr (List.mem_map_of_mem hc))))
  · intro hclause
    obtain ⟨clause, hclause⟩ := Option.ne_none_iff_exists'.mp hclause
    have hfilters := filters_of_toRequest hrequest
    rw [hclause] at hfilters
    rw [hiff.mpr hclash]
    simpa using (Predicate.filters_ne_nil hfilters).1

/-- A comma inside a text does not cut a disjunction. -/
theorem Statement.readFilters_params_iff_disjunction : ∃ request,
    (Statement.delete ⟨"t", some (.and (.or (.compare ⟨"a", .eq, .string "x,y"⟩)
      (.compare ⟨"b", .gt, .int (-2)⟩)) (.compare ⟨"c", .is, .null⟩))⟩).toRequest = .ok request ∧
    (∀ filter ∈ request.filters, ¬filter.Clashes) ∧
    readFilters request.params = [
      .anyOf [⟨"a", .eq, "\"x,y\""⟩, ⟨"b", .gt, "-2"⟩], .condition ⟨"c", .is, "null"⟩] := by
  have hrequest : (Statement.delete ⟨"t", some (.and (.or (.compare ⟨"a", .eq, .string "x,y"⟩)
      (.compare ⟨"b", .gt, .int (-2)⟩)) (.compare ⟨"c", .is, .null⟩))⟩).toRequest = .ok
        { table := "t", operation := .delete, select := none, order := [], limit := none
          offset := none
          filters := [.anyOf [⟨"a", .eq, .string "x,y"⟩, ⟨"b", .gt, .int (-2)⟩],
            .condition ⟨"c", .is, .null⟩] } := rfl
  have hclash : ∀ filter ∈ [Filter.anyOf [⟨"a", .eq, .string "x,y"⟩, ⟨"b", .gt, .int (-2)⟩],
      .condition ⟨"c", .is, .null⟩], ¬filter.Clashes := by
    simp [Filter.Clashes, controlWords]
  have hread := (Statement.readFilters_params_iff hrequest).1.mpr hclash
  exact ⟨_, hrequest, hclash, hread.trans (by decide)⟩

/-- A removal of the rows with a given offset is sent as a removal of all rows. -/
theorem Statement.not_forall_readFilters_ne_nil :
    ¬∀ (s : Statement) (request : Request), s.toRequest = .ok request →
      entriesOf "offset" request.params = optionalParam "offset" (request.offset.map toString) ∧
        (s.kind = .delete → s.filter ≠ none → readFilters request.params ≠ []) := by
  intro hall
  obtain ⟨-, hfilters⟩ :=
    hall (.delete ⟨"t", some (.compare ⟨"offset", .eq, .int 5⟩)⟩) _ rfl
  exact hfilters rfl (by simp [Statement.filter]) (by decide)

end SqlGateway
