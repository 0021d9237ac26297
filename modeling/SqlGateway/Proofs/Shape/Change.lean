import SqlGateway.Proofs.Plan
import SqlGateway.Proofs.Shape.Grammar
import SqlGateway.Proofs.Shape.Pattern

/-!
# Changes keep their condition

A change or a removal that is read from its shape is read as a whole.  Behind its head there is
nothing, and then it has no filter; or there is a `WHERE`, and then everything behind that word is
one comparison, which is its filter.  So there is no text whose condition is lost, or kept in part,
on any of the ways on which the shapes are used.
-/

namespace SqlGateway.Shape

open Text Sql.Parser

variable {text : List Char} {kind : StatementKind} {pass : Pass} {s : Statement}
  {clause : Option (List Char)} {filter : Option Predicate}

/-! ### Comparisons -/

/-- The operand of a comparison: one string, one number or one word. -/
inductive IsOperandText : List Char → Value → Prop
  | string {quote : Char} (content : List Char) : isQuote quote = true →
      IsOperandText (quote :: (doubled quote content ++ [quote])) (.string (String.ofList content))
  | number {numeral : List Char} {value : Value} : IsNumeral numeral →
      Value.ofNumeral? numeral = some value → IsOperandText numeral value
  | word {word : List Char} : (∀ c ∈ word, isNamePart c = true) →
      IsOperandText word (.string (String.ofList word))

/-- The parts of a text that is one comparison and nothing else. -/
structure IsComparisonText (text : List Char) (c : Comparison) : Prop where
  parts : ∃ lead column before behind operand rear : List Char, ∃ sign : String,
    text = lead ++ (column ++ (before ++ (sign.toList ++ (behind ++ (operand ++ rear))))) ∧
      (∀ d ∈ lead ++ before ++ behind ++ rear, isBlank d = true) ∧
      (∀ d ∈ column, isNamePart d = true) ∧ String.ofList column = c.column ∧
      (sign, c.op) ∈ operatorSigns ∧ IsOperandText operand c.value

theorem StandsFor.isOperandText {operand : List Char} {value : Value}
    (hstands : StandsFor operand value) : IsOperandText operand value := by
  cases hstands with
  | quoted content hquote => exact .string content hquote
  | number hnumber hvalue => exact .number hnumber.isNumeral hvalue
  | word _ hparts _ => exact .word hparts

/-- What is read as a condition is one comparison, with nothing but blanks around its parts. -/
theorem isComparisonText_of_readCondition? {condition : Comparison}
    (hread : readCondition? text = some condition) : IsComparisonText text condition := by
  obtain ⟨operand, ⟨-, hparts, before, behind, rear, sign, hsign, hgaps, hsplit⟩, hstands, -⟩ :=
    readCondition?_eq_some.mp hread
  obtain ⟨lead, tail, htrim, hlead, htail⟩ := exists_trim_append text
  refine ⟨lead, condition.column.toList, before, behind, operand, rear ++ tail, sign, ?_, ?_,
    hparts, String.ofList_toList, hsign, hstands.isOperandText⟩
  · rw [htrim, hsplit]
    simp only [List.append_assoc]
  · simp only [List.mem_append] at hgaps ⊢
    rintro d (((hd | hd) | hd) | (hd | hd))
    · exact hlead d hd
    · exact isBlank_of_isGap (hgaps d (.inl hd))
    · exact isBlank_of_isGap (hgaps d (.inr (.inl hd)))
    · exact isBlank_of_isGap (hgaps d (.inr (.inr hd)))
    · exact htail d hd

/-! ### Heads -/

/-- The head of a change or of a removal, and the statement that the head makes of a filter. -/
inductive IsHead : StatementKind → List Char → (Option Predicate → Statement) → Prop
  | update {head table column value : List Char} : IsUpdateHead head table column value →
      IsHead .update head fun filter => .update {
        table := String.ofList table
        assignments := [{ column := String.ofList column, value := Value.ofToken value }]
        filter }
  | delete {head table : List Char} : IsDeleteHead head table →
      IsHead .delete head fun filter => .delete { table := String.ofList table, filter }

/-- What is behind the head of a change, and the filter that it stands for. -/
inductive IsFilterText : List Char → Option Predicate → Prop
  | none : IsFilterText [] none
  | condition {marker clause : List Char} {condition : Comparison} :
      SameFold " WHERE ".toList marker → isLine clause = true →
        readCondition? clause = some condition →
          IsFilterText (marker ++ clause) (some (.compare condition))

theorem exists_readFilter_iff : (∃ clause, IsClause text clause ∧
    readFilter pass kind clause = .ok (some filter)) ↔ IsFilterText text filter := by
  constructor
  · rintro ⟨clause, hclause, hfilter⟩
    rcases readFilter_eq_ok.mp hfilter with ⟨rfl, rfl⟩ | ⟨piece, condition, rfl, hread, rfl⟩
    · cases hclause
      exact .none
    · cases hclause with
      | condition hmarker hline => exact .condition hmarker hline hread
  · intro hfilter
    cases hfilter with
    | none => exact ⟨none, .none, rfl⟩
    | condition hmarker hline hread =>
        exact ⟨_, .condition hmarker hline, readFilter_eq_ok.mpr (.inr ⟨_, _, rfl, hread, rfl⟩)⟩

/-- A removal is read from a head and what is behind it. -/
theorem recognizeDelete_eq_ok :
    recognizeDelete pass text = .ok (some s) ↔ ∃ head behind statement filter,
      text = head ++ behind ∧ IsHead .delete head statement ∧ IsFilterText behind filter ∧
        s = statement filter := by
  constructor
  · intro hread
    rw [recognizeDelete] at hread
    split at hread
    · cases pass <;> cases hread
    · rename_i found hfound
      obtain ⟨filter, hfilter, rfl⟩ := statement_of_readFilter.mp hread
      obtain ⟨head, behind, rfl, hhead, hclause⟩ := DeletePattern.match?_eq_some.mp hfound
      exact ⟨head, behind, _, filter, rfl, .delete hhead,
        exists_readFilter_iff.mp ⟨_, hclause, hfilter⟩, rfl⟩
  · rintro ⟨head, behind, statement, filter, rfl, hhead, hfilter, rfl⟩
    obtain ⟨clause, hclause, hread⟩ := exists_readFilter_iff.mpr hfilter
    cases hhead with
    | @delete _ table hhead =>
        have hfound : DeletePattern.match? (head ++ behind) = some { table, clause } :=
          DeletePattern.match?_eq_some.mpr ⟨head, behind, rfl, hhead, hclause⟩
        rw [recognizeDelete, hfound]
        exact statement_of_readFilter.mpr ⟨filter, hread, rfl⟩

/-- A change is read from a head and what is behind it. -/
theorem recognizeUpdate_eq_ok :
    recognizeUpdate pass text = .ok (some s) ↔ ∃ head behind statement filter,
      text = head ++ behind ∧ IsHead .update head statement ∧ IsFilterText behind filter ∧
        s = statement filter := by
  constructor
  · intro hread
    rw [recognizeUpdate] at hread
    split at hread
    · cases pass <;> cases hread
    · rename_i found hfound
      obtain ⟨filter, hfilter, rfl⟩ := statement_of_readFilter.mp hread
      obtain ⟨head, behind, rfl, hhead, hclause⟩ := UpdatePattern.match?_eq_some.mp hfound
      exact ⟨head, behind, _, filter, rfl, .update hhead,
        exists_readFilter_iff.mp ⟨_, hclause, hfilter⟩, rfl⟩
  · rintro ⟨head, behind, statement, filter, rfl, hhead, hfilter, rfl⟩
    obtain ⟨clause, hclause, hread⟩ := exists_readFilter_iff.mpr hfilter
    cases hhead with
    | @update _ table column value hhead =>
        have hfound : UpdatePattern.match? (head ++ behind) =
            some { table, column, value, clause } :=
          UpdatePattern.match?_eq_some.mpr ⟨head, behind, rfl, hhead, hclause⟩
        rw [recognizeUpdate, hfound]
        exact statement_of_readFilter.mpr ⟨filter, hread, rfl⟩

theorem recognize_eq_ok (hkind : kind = .update ∨ kind = .delete) :
    recognize kind pass text = .ok (some s) ↔ ∃ head behind statement filter,
      text = head ++ behind ∧ IsHead kind head statement ∧ IsFilterText behind filter ∧
        s = statement filter := by
  rcases hkind with rfl | rfl
  · exact recognizeUpdate_eq_ok
  · exact recognizeDelete_eq_ok

/-- Behind a head a `WHERE` is never passed over. -/
theorem exists_condition_of_recognize {head marker rest : List Char}
    {statement : Option Predicate → Statement} (hhead : IsHead kind head statement)
    (hmarker : SameFold " WHERE ".toList marker)
    (hread : recognize kind pass (head ++ (marker ++ rest)) = .ok (some s)) :
    ∃ condition, readCondition? rest = some condition ∧
      s = statement (some (.compare condition)) := by
  have hspace : AtSpace (marker ++ rest) := atSpace_append hmarker
  have hclause : readClause? (marker ++ rest) = if isLine rest then some (some rest) else none :=
    readClause?_append hmarker
  -- from its clause on, a change is read as a removal is
  have hcases : ∀ {build : Option Predicate → Statement} {clause : List Char}, (do
      let filter? ← readFilter pass kind (some clause)
      return filter?.map build) = .ok (some s) →
        ∃ condition, readCondition? clause = some condition ∧
          s = build (some (.compare condition)) := by
    intro build clause hok
    obtain ⟨filter, hfilter, rfl⟩ := statement_of_readFilter.mp hok
    rcases readFilter_eq_ok.mp hfilter with ⟨hnone, -⟩ | ⟨piece, condition, heq, hpiece, rfl⟩
    · contradiction
    · cases heq
      exact ⟨condition, hpiece, rfl⟩
  cases hhead with
  | update hhead =>
      rw [recognize, recognizeUpdate, UpdatePattern.match?_append hhead hspace, hclause] at hread
      by_cases hline : isLine rest = true
      · rw [if_pos hline] at hread
        exact hcases hread
      · rw [if_neg hline] at hread
        cases pass <;> cases hread
  | delete hhead =>
      rw [recognize, recognizeDelete, DeletePattern.match?_append hhead hspace, hclause] at hread
      by_cases hline : isLine rest = true
      · rw [if_pos hline] at hread
        exact hcases hread
      · rw [if_neg hline] at hread
        cases pass <;> cases hread

/-! ### Kinds -/

/-- What is read from a shape is a statement of its kind. -/
theorem kind_of_recognize (hread : recognize kind pass text = .ok (some s)) : s.kind = kind := by
  cases kind with
  | update =>
      obtain ⟨head, behind, statement, filter, -, hhead, -, rfl⟩ := recognizeUpdate_eq_ok.mp hread
      cases hhead
      rfl
  | delete =>
      obtain ⟨head, behind, statement, filter, -, hhead, -, rfl⟩ := recognizeDelete_eq_ok.mp hread
      cases hhead
      rfl
  | insert =>
      rw [recognize, recognizeInsert] at hread
      split at hread
      · cases pass <;> cases hread
      split at hread
      · cases pass <;> cases hread
      split at hread
      · cases pass <;> cases hread
      split at hread
      · cases hread
        rfl
      · cases hread
  | select =>
      rw [recognize, recognizeSelect] at hread
      split at hread
      · cases pass <;> cases hread
      split at hread
      · cases pass <;> cases hread
      simp only at hread
      split at hread
      · cases hread
        rfl
      · split at hread
        · cases hread
          rfl
        · cases hread
        · cases hread
          rfl

end SqlGateway.Shape

namespace SqlGateway.Plan

open Shape

variable {text : List Char} {route : Route} {s : Statement}

/-- Without the grammar a statement is read from a shape. -/
theorem exists_recognize_of_found (hfound : found text = .ok (route, s))
    (hroute : route ≠ .parsed) :
    ∃ kind pass, recognize kind pass text = .ok (some s) := by
  -- after a fault of the grammar the shape is tried again, on the second pass
  have hrecovered : ∀ {fault : Error}, recovered fault text = .ok (route, s) →
      ∃ kind pass, recognize kind pass text = .ok (some s) := by
    intro fault hrecovered
    unfold recovered at hrecovered
    split at hrecovered
    · contradiction
    · rename_i kind _
      obtain ⟨found, hread, hstatement⟩ := bind_eq_ok.mp hrecovered
      cases found with
      | none => contradiction
      | some statement =>
          cases hstatement
          exact ⟨kind, .fallback, hread⟩
  have hparsed : parsed text = .ok (route, s) →
      ∃ kind pass, recognize kind pass text = .ok (some s) := by
    intro hparsed
    unfold parsed at hparsed
    split at hparsed
    · cases hparsed
      exact absurd rfl hroute
    · split at hparsed
      · contradiction
      · exact hrecovered hparsed
  unfold found at hfound
  split at hfound
  · exact hparsed hfound
  · rename_i kind _
    obtain ⟨found, hread, hstatement⟩ := bind_eq_ok.mp hfound
    cases found with
    | none => exact hparsed hstatement
    | some statement =>
        cases hstatement
        exact ⟨kind, .fast, hread⟩

end SqlGateway.Plan

namespace SqlGateway.Shape

/-- A change or a removal that is read from its shape, on either pass, has the filter that its text
states: none if nothing is behind its head, and otherwise the one comparison behind the word
`WHERE`.  Where that word follows a head, nothing else is made of the text.  The plans that are not
left to the grammar hold no other changes and removals. -/
theorem recognize_keeps_condition (hkind : kind = .update ∨ kind = .delete) :
    (∀ pass text s, recognize kind pass text = .ok (some s) ↔ ∃ head behind statement filter,
      text = head ++ behind ∧ IsHead kind head statement ∧ IsFilterText behind filter ∧
        s = statement filter) ∧
    (∀ pass head marker rest statement s, IsHead kind head statement →
      SameFold " WHERE ".toList marker →
        recognize kind pass (head ++ (marker ++ rest)) = .ok (some s) →
          ∃ condition, readCondition? rest = some condition ∧ IsComparisonText rest condition ∧
            s = statement (some (.compare condition))) ∧
    ∀ allowed sql plan, Plan.ofSql allowed sql = .ok plan → plan.route ≠ .parsed →
      plan.statement.kind = kind → ∃ head behind statement filter,
        normalize sql.toList = head ++ behind ∧ IsHead kind head statement ∧
          IsFilterText behind filter ∧ plan.statement = statement filter := by
  refine ⟨fun pass text s => recognize_eq_ok hkind, ?_, ?_⟩
  · intro pass head marker rest statement s hhead hmarker hread
    obtain ⟨condition, hcondition, hs⟩ := exists_condition_of_recognize hhead hmarker hread
    exact ⟨condition, hcondition, isComparisonText_of_readCondition? hcondition, hs⟩
  · intro allowed sql plan hplan hroute hstatement
    obtain ⟨hfound, -, -⟩ := Plan.ofSql_eq_ok.mp hplan
    obtain ⟨found, pass, hread⟩ := Plan.exists_recognize_of_found hfound hroute
    obtain rfl : found = kind := (kind_of_recognize hread).symm.trans hstatement
    exact (recognize_eq_ok hkind).mp hread

theorem recognize_keeps_condition_delete :
    recognize .delete .fallback "delete from t WHERE a = 'b or c'".toList = .ok (some (.delete {
      table := "t"
      filter := some (.compare { column := "a", op := .eq, value := .string "b or c" }) })) := by
  have hhead : IsDeleteHead "delete from t".toList ['t'] := by
    refine ⟨⟨by decide, by decide⟩, "delete from ".toList, ?_, rfl⟩
    unfold SameFold
    decide
  have hfilter : IsFilterText (" WHERE ".toList ++ "a = 'b or c'".toList)
      (some (.compare { column := "a", op := .eq, value := .string "b or c" })) :=
    .condition (.refl _) (by decide) rfl
  exact ((recognize_keeps_condition (.inr rfl)).1 .fallback _ _).mpr
    ⟨_, _, _, _, rfl, .delete hhead, hfilter, rfl⟩

end SqlGateway.Shape
