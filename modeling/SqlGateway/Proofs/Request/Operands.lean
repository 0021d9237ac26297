import SqlGateway.Proofs.Request.Params

/-!
# Reading operands back

Inside a disjunction and inside a list the text of a string may hold anything, and yet it can be
told where the string ends: a string that holds one of the characters that separate or quote stands
in quotes, and there a backslash stands before every quote and backslash.  The reader below cuts a
text at the commas outside quotes and parentheses, takes a column and an operator off the front of
each part, and reads what is left: a text in quotes, a list in parentheses, or a bare text.  It
gives back every condition that was written, with the text of each value.  Only what a bare text was
made of is not to be seen: the string `null` and the value null read alike.
-/

namespace SqlGateway

open Text

/-! ### The reader -/

/-- An operand as it is read: a text, or a list of operands. -/
inductive ReadOperand where
  | text (s : String)
  | list (items : List ReadOperand)

/-- The content of a quoted text behind its opening quote.  The closing quote ends the text, and a
character behind a backslash stands for itself. -/
def readQuotedContent? : List Char → Option (List Char)
  | ['"'] => some []
  | '\\' :: c :: rest => (readQuotedContent? rest).map (c :: ·)
  | c :: rest => if c = '"' ∨ c = '\\' then none else (readQuotedContent? rest).map (c :: ·)
  | [] => none

/-- The items of a list between its parentheses; an empty text has none. -/
def listItems (text : List Char) : List (List Char) :=
  if text = [] then [] else cutItems (.plain 0) text

theorem length_le_of_mem_cutItems {place : Place} {text item : List Char}
    (hitem : item ∈ cutItems place text) : item.length ≤ text.length := by
  induction text generalizing place item with
  | nil =>
      rw [cutItems, List.mem_singleton] at hitem
      exact hitem ▸ Nat.le_refl _
  | cons c rest ih =>
      rw [cutItems] at hitem
      split at hitem
      · rcases List.mem_cons.mp hitem with rfl | hitem
        · exact Nat.zero_le _
        · exact Nat.le_succ_of_le (ih hitem)
      · split at hitem
        · rw [List.mem_singleton.mp hitem]
          exact Nat.succ_le_succ (Nat.zero_le _)
        · rename_i first items hcut
          rcases List.mem_cons.mp hitem with rfl | hitem
          · exact Nat.succ_le_succ (ih (hcut ▸ List.mem_cons_self))
          · exact Nat.le_succ_of_le (ih (hcut ▸ List.mem_cons_of_mem first hitem))

theorem length_le_of_mem_listItems {text item : List Char} (hitem : item ∈ listItems text) :
    item.length ≤ text.length := by
  unfold listItems at hitem
  split at hitem
  · contradiction
  · exact length_le_of_mem_cutItems hitem

/-- A text in quotes, a list in parentheses, or a bare text. -/
def readOperand? (text : List Char) : Option ReadOperand :=
  match text with
  | '"' :: rest => (readQuotedContent? rest).map fun content => .text (String.ofList content)
  | '(' :: rest =>
    if rest.getLast? = some ')' then
      ((listItems rest.dropLast).attach.mapM fun item => readOperand? item.1).map .list
    else none
  | _ => some (.text (String.ofList text))
termination_by text.length
decreasing_by
  have hlength := length_le_of_mem_listItems item.2
  rw [List.length_dropLast] at hlength
  simp only [List.length_cons]
  omega

/-- A condition with its operand as it is read. -/
structure ReadLeaf where
  column : String
  op : Operator
  operand : ReadOperand

/-- The condition with the text of its operand read in turn. -/
def ReadCondition.leaf? (c : ReadCondition) : Option ReadLeaf := do
  let operand ← readOperand? c.operand.toList
  return { column := c.column, op := c.op, operand }

/-- The conditions of a disjunction. -/
def readLeaves? (text : String) : Option (List ReadLeaf) :=
  (cutItems (.plain 0) text.toList).mapM fun item => (readLeaf? item).bind ReadCondition.leaf?

/-- The condition that a parameter of its own states. -/
def readEntry? (entry : String × String) : Option ReadLeaf :=
  (readComparison? entry.1 entry.2.toList).bind ReadCondition.leaf?

/-! ### What is to be read -/

mutual

/-- What is to be read of a value: the characters of a string, the words for null and the truth
values, the digits of a number, and each item of a list. -/
def Value.readAs : Value → ReadOperand
  | .null => .text "null"
  | .bool b => .text (if b then "true" else "false")
  | .int n => .text (toString n)
  | .float x => .text (Decimal.floatText .plain x)
  | .string s => .text s
  | .list items => .list (Value.readAllAs items)

/-- What is to be read of the items of a list. -/
def Value.readAllAs : List Value → List ReadOperand
  | [] => []
  | item :: rest => Value.readAs item :: Value.readAllAs rest

end

/-- What is to be read of a comparison. -/
def Comparison.readAs (c : Comparison) : ReadLeaf :=
  { column := c.column, op := c.op, operand := c.value.readAs }

/-! ### Texts -/

variable {text : List Char}

theorem readQuotedContent?_escaped (content : List Char) :
    readQuotedContent? ((content.flatMap fun c => if c = '"' || c = '\\' then ['\\', c] else [c])
      ++ ['"']) = some content := by
  induction content with
  | nil => rfl
  | cons c content ih =>
      rw [List.flatMap_cons, List.append_assoc]
      by_cases hc : c = '"' ∨ c = '\\'
      · have hescape : (c = '"' || c = '\\') = true := by simpa using hc
        rw [if_pos hescape]
        simp only [List.cons_append, List.nil_append, readQuotedContent?, ih, Option.map_some]
      · have hescape : ¬(c = '"' || c = '\\') = true := by simpa using hc
        rw [if_neg hescape, List.singleton_append, readQuotedContent?, if_neg hc, ih]
        · rfl
        · simp
        · rintro d rest rfl
          simp at hc

/-- A string in quotes is read as it was. -/
theorem readOperand?_listQuoted (content : List Char) :
    readOperand? (listQuoted content) = some (.text (String.ofList content)) := by
  rw [listQuoted, readOperand?, readQuotedContent?_escaped]
  rfl

/-- A text that does not begin with a quote or a parenthesis is read as it stands. -/
theorem readOperand?_bare (htext : ∀ c ∈ text.head?, isTurn c = false) :
    readOperand? text = some (.text (String.ofList text)) := by
  unfold readOperand?
  split
  · exact absurd (htext '"' rfl) (by decide)
  · exact absurd (htext '(' rfl) (by decide)
  · rfl

theorem readOperand?_plain (htext : ∀ c ∈ text, isTurn c = false) :
    readOperand? text = some (.text (String.ofList text)) :=
  readOperand?_bare fun c hc => htext c (List.mem_of_mem_head? hc)

theorem readOperand?_list : readOperand? ('(' :: (text ++ [')'])) =
    ((listItems text).mapM readOperand?).map .list := by
  have hitems : (listItems text).attach.mapM (fun item => readOperand? item.1) =
      (listItems text).mapM readOperand? := by
    conv_rhs => rw [← List.attach_map_subtype_val (listItems text), List.mapM_map]
    rfl
  rw [readOperand?, List.getLast?_concat, if_pos rfl, List.dropLast_concat, hitems]

/-! ### Values -/

theorem itemChars_ne_nil (value : Value) : value.itemChars ≠ [] := by
  cases value with
  | null => simp [Value.itemChars]
  | bool b => cases b <;> simp [Value.itemChars]
  | int n =>
      rw [Value.itemChars]
      exact Decimal.toString_int_ne_nil n
  | float x =>
      rw [Value.itemChars]
      exact Decimal.floatText_ne_nil x
  | string s =>
      rw [Value.itemChars]
      split
      · simp [listQuoted]
      · rename_i hquotes
        intro hempty
        simp [needsQuotes, hempty] at hquotes
  | list items => simp [Value.itemChars]

theorem itemListChars_eq_intercalate (items : List Value) :
    Value.itemListChars items = [','].intercalate (items.map Value.itemChars) := by
  induction items with
  | nil => rfl
  | cons item items ih =>
      cases items with
      | nil => simp [Value.itemListChars, List.intercalate]
      | cons next items =>
          rw [Value.itemListChars, ih]
          simp [List.intercalate]

/-- A list is cut into its items, and an empty list has none of them. -/
theorem listItems_itemListChars (items : List Value) :
    listItems (Value.itemListChars items) = items.map Value.itemChars := by
  cases items with
  | nil => rfl
  | cons item items =>
      -- no item is written as nothing, so a list with items is no empty text
      have hne : Value.itemListChars (item :: items) ≠ [] := by
        have hitem := itemChars_ne_nil item
        cases items <;> simp [Value.itemListChars, hitem]
      rw [listItems, if_neg hne, itemListChars_eq_intercalate]
      apply cutItems_intercalate
      · simp
      · intro chars hchars
        obtain ⟨value, -, rfl⟩ := List.mem_map.mp hchars
        exact crosses_itemChars value 0

mutual

/-- Every value is read back. -/
theorem readOperand?_itemChars (value : Value) :
    readOperand? value.itemChars = some value.readAs := by
  cases value with
  | null =>
      rw [Value.itemChars, Value.readAs]
      exact readOperand?_plain (by decide)
  | bool b =>
      cases b with
      | true =>
          rw [Value.itemChars, Value.readAs]
          exact readOperand?_plain (by decide)
      | false =>
          rw [Value.itemChars, Value.readAs]
          exact readOperand?_plain (by decide)
  | int n =>
      rw [Value.itemChars, Value.readAs,
        readOperand?_plain fun c hc => isTurn_of_mem_toString_int hc, String.ofList_toList]
  | float x =>
      rw [Value.itemChars, Value.readAs,
        readOperand?_plain fun c hc => isTurn_of_mem_floatText hc, String.ofList_toList]
  | string s =>
      rw [Value.itemChars, Value.readAs]
      split
      · rw [readOperand?_listQuoted, String.ofList_toList]
      · rename_i hquotes
        rw [readOperand?_plain (isTurn_of_needsQuotes (by simpa using hquotes)),
          String.ofList_toList]
  | list items =>
      rw [Value.itemChars, readOperand?_list, listItems_itemListChars, mapM_readOperand? items,
        Value.readAs]
      rfl

theorem mapM_readOperand? (items : List Value) :
    (items.map Value.itemChars).mapM readOperand? = some (Value.readAllAs items) := by
  cases items with
  | nil => rfl
  | cons item items =>
      rw [List.map_cons, List.mapM_cons, readOperand?_itemChars item, mapM_readOperand? items,
        Value.readAllAs]
      rfl

end

/-! ### Conditions -/

/-- The operand of a condition is read back from its text. -/
theorem leaf?_of_itemText (c : Comparison) :
    ReadCondition.leaf? { column := c.column, op := c.op, operand := c.value.itemText } =
      some c.readAs := by
  rw [ReadCondition.leaf?, Value.itemText, String.toList_ofList, readOperand?_itemChars]
  rfl

theorem readEntry?_list (column : String) (items : List Value) :
    readEntry? (Request.filterParam (.condition ⟨column, .isIn, .list items⟩)) =
      some (Comparison.readAs ⟨column, .isIn, .list items⟩) := by
  have htext : (Operator.filterName .isIn ++ "." ++ (Value.list items).operandText).toList =
      (Operator.filterName .isIn).toList ++ '.' :: (Value.list items).itemChars := by
    simp [Value.operandText, Value.operandChars]
  have hcondition : readComparison? column
      (Operator.filterName .isIn ++ "." ++ (Value.list items).operandText).toList =
        some { column, op := .isIn, operand := (Value.list items).itemText } := by
    rw [htext, readComparison?_append, Value.itemText]
  rw [Request.filterParam, readEntry?, hcondition]
  exact leaf?_of_itemText ⟨column, .isIn, .list items⟩

/-- The conditions of a disjunction are read back one by one, whatever their values hold, and so is
the list of a condition that stands by itself. -/
theorem readLeaves?_disjunctionText :
    (∀ conditions : List Comparison, conditions ≠ [] →
      (∀ c ∈ conditions, isIdentifier c.column = true) →
        readLeaves? (disjunctionText conditions) = some (conditions.map Comparison.readAs)) ∧
      ∀ column items, readEntry? (Request.filterParam (.condition ⟨column, .isIn, .list items⟩)) =
        some { column, op := .isIn, operand := .list (Value.readAllAs items) } := by
  constructor
  · intro conditions hne hcolumns
    rw [readLeaves?, disjunctionText, String.toList_ofList, cutItems_disjunctionChars hne hcolumns,
      List.mapM_map]
    apply mapM_eq_some_map
    intro c hc
    rw [Function.comp_apply, readLeaf?_filterChars (hcolumns c hc), Option.bind_some,
      leaf?_of_itemText]
  · intro column items
    rw [readEntry?_list, Comparison.readAs, Value.readAs]

/-- Strings that look like conditions, a list with the empty string and the empty list. -/
theorem readLeaves?_disjunctionText_nested :
    let conditions : List Comparison := [⟨"a", .eq, .string "x\",b.gt.(1)"⟩,
      ⟨"b", .isIn, .list [.string "", .list [], .list [.string "\\)", .null]]⟩,
      ⟨"c", .lt, .int (-5)⟩]
    disjunctionText conditions =
        "a.eq.\"x\\\",b.gt.(1)\",b.in.(\"\",(),(\"\\\\)\",null)),c.lt.-5" ∧
      conditions ≠ [] ∧ (∀ c ∈ conditions, isIdentifier c.column = true) ∧
      readLeaves? (disjunctionText conditions) = some [⟨"a", .eq, .text "x\",b.gt.(1)"⟩,
        ⟨"b", .isIn, .list [.text "", .list [], .list [.text "\\)", .text "null"]]⟩,
        ⟨"c", .lt, .text "-5"⟩] := by
  intro conditions
  have hcolumns : ∀ c ∈ conditions, isIdentifier c.column = true := by
    simp only [conditions, List.forall_mem_cons]
    decide
  refine ⟨by decide +kernel, List.cons_ne_nil _ _, hcolumns, ?_⟩
  rw [readLeaves?_disjunctionText.1 conditions (List.cons_ne_nil _ _) hcolumns]
  rfl

end SqlGateway
