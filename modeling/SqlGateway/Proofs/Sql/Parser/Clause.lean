import SqlGateway.Proofs.Sql.Parser.Operand

/-!
# Tables and clauses of plain statements

A plain statement names one table and has at most a condition and an order.  Every other clause that
the grammar looks for at these places is absent, which the next word tells.
-/

namespace SqlGateway.Sql.Parser

variable {nested : Nested} {tokens rest : List Token} {w : Word} {e : Expr} {depth : Nat}

/-! ### Tables -/

/-- The words that may follow the table of a plain statement. -/
def tableEnds : List String := ["WHERE", "ORDER", "SET"]

/-- The words that begin a table that is no name. -/
def tableForms : List String := ["LATERAL", "TABLE"]

theorem tableLabel?_of_clause (hclause : AtClause tableEnds tokens) :
    tableLabel? tokens = .ok (none, tokens) := by
  have hlabel : label? reservedAfterTable tokens = .ok (none, tokens) :=
    label?_of_clause hclause (by decide) (by decide)
  simp [tableLabel?, hlabel]

theorem indexHints_of_clause (hclause : AtClause tableEnds tokens) :
    indexHints tokens = .ok ([], tokens) := by
  have hnone : oneOf? ["USE", "IGNORE", "FORCE"] tokens = .ok (none, tokens) :=
    oneOf?_of_not_mem (hclause.not_mem (by decide))
  have hhint : indexHint? tokens = .ok (none, tokens) := by
    simp [indexHint?, hnone]
  simp [indexHints, attempt?, many_of_none hhint]

theorem sample_of_clause (hclause : AtClause tableEnds tokens) :
    sample nested tokens = .ok (none, tokens) := by
  have hnone : oneOf? ["TABLESAMPLE", "SAMPLE"] tokens = .ok (none, tokens) :=
    oneOf?_of_not_mem (hclause.not_mem (by decide))
  simp [sample, hnone]

theorem tableHints_of_clause (hclause : AtClause tableEnds tokens) :
    tableHints nested tokens = .ok ([], tokens) := by
  rcases hclause with rfl | ⟨next, rest, rfl, hnext⟩
  · simp [tableHints]
  · have hnot : ¬next.keyword = "WITH" := by
      intro heq
      rw [heq] at hnext
      exact absurd hnext (by decide)
    cases rest with
    | nil => simp [tableHints]
    | cons token behind =>
        cases token with
        | symbol spelling =>
            by_cases hspelling : spelling = "("
            · subst hspelling
              simp [tableHints, hnot]
            · simp [tableHints, hspelling]
        | _ => simp [tableHints]

/-- The table that is only a name. -/
def plainName (w : Word) : NamedTable :=
  { name := [w.ident] }

theorem namedTable_of_clause (hclause : AtClause tableEnds tokens) :
    namedTable nested (.word w :: tokens) = .ok (plainName w, tokens) := by
  have hname : objectName (.word w :: tokens) = .ok ([w.ident], tokens) :=
    objectName_word (hclause.ne_symbol (by decide))
  have hpartition : keyword? "PARTITION" tokens = .ok (false, tokens) :=
    keyword?_of_ne (hclause.ne_keyword (by decide))
  have hopening : symbol? "(" tokens = .ok (false, tokens) :=
    symbol?_of_ne (hclause.ne_symbol (by decide))
  have hordinality : keywords? ["WITH", "ORDINALITY"] tokens = .ok (false, tokens) :=
    keywords?_of_ne (hclause.ne_keyword (by decide))
  simp [namedTable, hname, hpartition, hopening, hordinality, tableLabel?_of_clause hclause,
    indexHints_of_clause hclause, tableHints_of_clause hclause, sample_of_clause hclause,
    plainName]

theorem join?_of_clause (hclause : AtClause tableEnds tokens) (table : Parser TableFactor) :
    join? nested table tokens = .ok (none, tokens) := by
  have hglobal : keyword? "GLOBAL" tokens = .ok (false, tokens) :=
    keyword?_of_ne (hclause.ne_keyword (by decide))
  have hcross : keyword? "CROSS" tokens = .ok (false, tokens) :=
    keyword?_of_ne (hclause.ne_keyword (by decide))
  have houter : keyword? "OUTER" tokens = .ok (false, tokens) :=
    keyword?_of_ne (hclause.ne_keyword (by decide))
  have hasof : keyword? "ASOF" tokens = .ok (false, tokens) :=
    keyword?_of_ne (hclause.ne_keyword (by decide))
  have hnatural : keyword? "NATURAL" tokens = .ok (false, tokens) :=
    keyword?_of_ne (hclause.ne_keyword (by decide))
  have hjoin : keyword? "JOIN" tokens = .ok (false, tokens) :=
    keyword?_of_ne (hclause.ne_keyword (by decide))
  have hstraight : keyword? "STRAIGHT_JOIN" tokens = .ok (false, tokens) :=
    keyword?_of_ne (hclause.ne_keyword (by decide))
  have hside : oneOf? ["INNER", "LEFT", "RIGHT", "ANTI", "SEMI", "FULL"] tokens =
      .ok (none, tokens) := oneOf?_of_not_mem (hclause.not_mem (by decide))
  simp [join?, joinWords?, hglobal, hcross, houter, hasof, hnatural, hjoin, hstraight, hside]

/-- The table that is only a name, with nothing joined to it. -/
def plainTable (w : Word) : TableSource :=
  { table := .named (plainName w), joins := [] }

/-- A table by a name that begins no other form. -/
theorem tableSource_of_clause (hw : w.keyword ∉ tableForms) (hclause : AtClause tableEnds tokens) :
    tableSource nested (.word w :: tokens) = .ok (plainTable w, tokens) := by
  simp only [tableForms, List.mem_cons, List.not_mem_nil, or_false, not_or] at hw
  have hpivot : keyword? "PIVOT" tokens = .ok (false, tokens) :=
    keyword?_of_ne (hclause.ne_keyword (by decide))
  have hunpivot : keyword? "UNPIVOT" tokens = .ok (false, tokens) :=
    keyword?_of_ne (hclause.ne_keyword (by decide))
  have hturn : turn? nested tokens = .ok (none, tokens) := by
    simp [turn?, hpivot, hunpivot]
  have hlateral : keyword? "LATERAL" (.word w :: tokens) = .ok (false, .word w :: tokens) :=
    keyword?_of_ne hw.1
  have htable : keyword? "TABLE" (.word w :: tokens) = .ok (false, .word w :: tokens) :=
    keyword?_of_ne hw.2
  have hparen : symbol? "(" (.word w :: tokens) = .ok (false, .word w :: tokens) :=
    symbol?_of_ne (by simp)
  have hnamed : namedTable nested (.word w :: tokens) = .ok (plainName w, tokens) :=
    namedTable_of_clause hclause
  have hfactor : tableFactor nested (.word w :: tokens) =
      .ok (.named (plainName w), tokens) := by
    have hopening : ¬headSymbol tokens = "(" := hclause.ne_symbol (by decide)
    cases tokens with
    | nil =>
        simp [tableFactor, tableFactorWithin, hlateral, htable, hparen, hnamed,
          many_of_none hturn]
    | cons token rest =>
        cases token with
        | symbol spelling =>
            have hspelling : ¬spelling = "(" := hopening
            simp [tableFactor, tableFactorWithin, hlateral, htable, hparen, hnamed,
              many_of_none hturn, hspelling]
        | _ =>
            simp [tableFactor, tableFactorWithin, hlateral, htable, hparen, hnamed,
              many_of_none hturn]
  simp [tableSource, joinedTable, hfactor, many_of_none (join?_of_clause hclause _), plainTable]

theorem tableSources_of_clause (hw : w.keyword ∉ tableForms)
    (hclause : AtClause tableEnds tokens) :
    tableSources nested (.word w :: tokens) = .ok ([plainTable w], tokens) := by
  exact commaList_of_single (tableSource_of_clause hw hclause) (hclause.ne_symbol (by decide))

/-! ### Clauses -/

theorem clause?_of_clause {α : Type} {words : List String} (hclause : AtClause words tokens)
    {keyword : String} (hkeyword : keyword ∉ "" :: words) (keywords : List String)
    (inner : Parser α) : clause? (keyword :: keywords) inner tokens = .ok (none, tokens) :=
  clause?_of_ne (hclause.ne_keyword hkeyword)

theorem clause?_nil {α : Type} {keyword : String} (hkeyword : keyword ≠ "")
    (keywords : List String) (inner : Parser α) :
    clause? (keyword :: keywords) inner [] = .ok (none, []) :=
  clause?_of_ne fun h => hkeyword h.symm

theorem clause?_of_eq {α : Type} {inner : Parser α} {value : α} {keyword : String}
    (hw : w.keyword = keyword) (hinner : inner tokens = .ok (value, rest)) :
    clause? [keyword] inner (.word w :: tokens) = .ok (some value, rest) := by
  simp [clause?, keywords?, dropKeywords?, Token.isKeyword, hw, hinner]

theorem textClause_of_clause {words : List String} (hclause : AtClause words tokens)
    (keyword : String) (hkeyword : keyword ∉ "" :: words) (keywords : List String)
    (inner : Parser String) : textClause (keyword :: keywords) inner tokens = .ok ([], tokens) := by
  simp [textClause, clause?_of_clause hclause hkeyword]

/-- The words that may join what follows them to the operand before them. -/
def joiningWords : List String :=
  "COLLATE" :: "NOT" :: "AT" :: (literalWords ++ typeWords ++ wordPrecedenceOf.flatMap Prod.snd)

theorem strengthIn_of_not_mem {table : List (Nat × List String)} {operator : String}
    (hmem : operator ∉ table.flatMap Prod.snd) : strengthIn table operator = 0 := by
  have hnone : table.find? (fun row => row.2.contains operator) = none := by
    rw [List.find?_eq_none]
    intro row hrow hcontains
    exact hmem (List.mem_flatMap.mpr ⟨row, hrow, by simpa using hcontains⟩)
  rw [strengthIn, hnone]

theorem ends_nil : Ends [] :=
  { quiet := rfl, element := rfl, collation := by simp, strength := rfl }

theorem ends_word (hw : w.keyword ∉ joiningWords) : Ends (.word w :: rest) := by
  simp only [joiningWords, List.mem_cons, List.mem_append, not_or] at hw
  obtain ⟨hcollate, hnot, hat, ⟨hliteral, htype⟩, hoperator⟩ := hw
  exact
    { quiet := by simp [isQuiet, hliteral, htype]
      element := rfl
      collation := hcollate
      strength := by simp [nextStrength, hnot, hat, strengthIn_of_not_mem hoperator] }

theorem ends_of_clause {words : List String} (hclause : AtClause words tokens)
    (hwords : ∀ word ∈ words, word ∉ joiningWords) : Ends tokens := by
  rcases hclause with rfl | ⟨w, rest, rfl, hw⟩
  · exact ends_nil
  · exact ends_word (hwords w.keyword hw)

theorem ends_comma : Ends (.symbol "," :: rest) :=
  { quiet := by simp [isQuiet, quietSymbols]
    element := rfl
    collation := by simp
    strength := by simp [nextStrength, strengthIn, precedenceOf] }

theorem ends_closing : Ends (.symbol ")" :: rest) :=
  { quiet := by simp [isQuiet, quietSymbols]
    element := rfl
    collation := by simp
    strength := by simp [nextStrength, strengthIn, precedenceOf] }

/-! ### Sort keys -/

/-- A column to sort by, and perhaps a direction. -/
theorem sortItems_word (depth : Nat) {direction : Option Word}
    (hw : w.keyword ∉ formWords direction.isSome)
    (hdirection : ∀ d ∈ direction, d.keyword ∈ ["ASC", "DESC"]) :
    sortItems (nestedWithin (depth + 2)) (.word w :: direction.toList.map .word) =
      .ok ([{ expr := .name w.ident, ascending := direction.map (·.keyword == "ASC"),
              nullsFirst := none }], []) := by
  have hexpr : ∀ tail, Ends tail → (isWordNext tail = true → direction.isSome = true) →
      (nestedWithin (depth + 2)).fullExpr (.word w :: tail) = .ok (.name w.ident, tail) :=
    fun tail hends hnext => isOperand_word hw depth tail 0 hends hnext
  cases direction with
  | none =>
      refine commaList_of_single ?_ (by simp)
      simp [sortItem, hexpr [] ends_nil (by simp [isWordNext]), oneOf?, keywords?, dropKeywords?]
  | some d =>
      have hd := hdirection d rfl
      have hends : Ends [.word d] := ends_of_clause (atClause_word hd) (by decide)
      refine commaList_of_single ?_ (by simp)
      simp [sortItem, hexpr _ hends (fun _ => rfl), oneOf?_of_mem hd, keywords?, dropKeywords?]

/-! ### Select lists -/

/-- Tokens that may follow an entry of a select list: a comma, or the tables. -/
def EndsItem (tokens : List Token) : Prop :=
  (∃ rest, tokens = .symbol "," :: rest) ∨ AtClause ["FROM"] tokens

theorem ends_of_endsItem (hends : EndsItem tokens) : Ends tokens := by
  rcases hends with ⟨rest, rfl⟩ | hclause
  · exact ends_comma
  · exact ends_of_clause hclause (by decide)

/-- The words that are no label for an entry unless `AS` stands before them. -/
def unlabelling : List String :=
  "AS" :: "COLLATE" ::
    (literalWords ++ wordPrecedenceOf.flatMap Prod.snd ++ reservedAfterColumn)

/-- A label belongs to no operand before it. -/
theorem ends_label (hw : w.keyword ∉ unlabelling) (hends : EndsItem tokens) :
    Ends (.word w :: tokens) := by
  simp only [unlabelling, List.mem_cons, List.mem_append, not_or] at hw
  obtain ⟨-, hcollate, ⟨hliteral, hoperator⟩, -⟩ := hw
  have hquiet := (ends_of_endsItem hends).quiet
  have hnot : notStrengthBefore tokens = 0 := by
    rcases hends with ⟨rest, rfl⟩ | rfl | ⟨next, rest, rfl, hfrom⟩
    · rfl
    · rfl
    · have hfrom : next.keyword = "FROM" := by simpa using hfrom
      simp [notStrengthBefore, hfrom]
  have hzone : dropKeywords? ["TIME", "ZONE"] tokens = none := by
    rcases hends with ⟨rest, rfl⟩ | hclause
    · rfl
    · exact dropKeywords?_of_ne (hclause.ne_keyword (by decide))
  exact
    { quiet := by simp [isQuiet, hliteral, hquiet]
      element := rfl
      collation := hcollate
      strength := by simp [nextStrength, hnot, hzone, strengthIn_of_not_mem hoperator] }

theorem starOrExpr_word (hexpr : nested.fullExpr (.word w :: tokens) = .ok (e, rest))
    (hpoint : headSymbol tokens ≠ ".") :
    starOrExpr nested (.word w :: tokens) = .ok (.expr e none, rest) := by
  have hdotted : dottedStar [w.ident] tokens = .ok none := by
    unfold dottedStar
    split <;> simp_all
  have hstar : symbol? "*" (.word w :: tokens) = .ok (false, .word w :: tokens) :=
    symbol?_of_ne (by simp)
  simp [starOrExpr, hdotted, hstar, hexpr]

/-- A column, and perhaps a label behind it. -/
structure Entry where
  column : Word
  /-- The label, and the word `AS` if it is written. -/
  label : Option (Option Word × Word)

/-- The tokens of an entry. -/
def Entry.words (entry : Entry) : List Token :=
  .word entry.column ::
    match entry.label with
    | none => []
    | some (marker, label) => marker.toList.map .word ++ [.word label]

/-- What the grammar makes of an entry. -/
def Entry.item (entry : Entry) : SelectItem :=
  .expr (.name entry.column.ident) (entry.label.map (·.2.ident))

/-- Whether the words of an entry are read as such. -/
structure Entry.IsPlain (entry : Entry) : Prop where
  column : entry.column.keyword ∉ formWords true
  bare : isBareFrom entry.column.ident = false
  explicit : ∀ marker label, entry.label = some (some marker, label) → marker.keyword = "AS"
  implicit : ∀ label, entry.label = some (none, label) → label.keyword ∉ unlabelling

theorem selectItem_entry {entry : Entry} (hplain : entry.IsPlain) {tail : List Token}
    (hends : EndsItem tail) :
    selectItem (nestedWithin (depth + 2)) (entry.words ++ tail) = .ok (entry.item, tail) := by
  have hexpr : ∀ behind, Ends behind → starOrExpr (nestedWithin (depth + 2))
      (.word entry.column :: behind) = .ok (.expr (.name entry.column.ident) none, behind) :=
    fun behind hbehind => starOrExpr_word 
      (isOperand_word hplain.column depth behind 0 hbehind fun _ => rfl)
      (hbehind.toStops.headSymbol_ne (by decide))
  have hbare := hplain.bare
  obtain ⟨column, label⟩ := entry
  rcases label with _ | ⟨_ | marker, label⟩
  · have hnone : label? reservedAfterColumn tail = .ok (none, tail) := by
      rcases hends with ⟨rest, rfl⟩ | hclause
      · rfl
      · exact label?_of_clause hclause (by decide) (by decide)
    simp [selectItem, Entry.words, Entry.item, hexpr tail (ends_of_endsItem hends), hbare, hnone]
  · have hlabel := hplain.implicit label rfl
    have hread := hexpr (.word label :: tail) (ends_label hlabel hends)
    simp only [unlabelling, List.mem_cons, List.mem_append, not_or] at hlabel
    simp [selectItem, Entry.words, Entry.item, hread, hbare, label?, keyword?_of_ne, hlabel]
  · have hmarker : marker.keyword = "AS" := hplain.explicit marker label rfl
    have hread := hexpr (.word marker :: .word label :: tail)
      (ends_word (by rw [hmarker]; decide))
    simp [selectItem, Entry.words, Entry.item, hread, hbare, label?, keyword?_of_eq hmarker]

theorem selectItems_entries {entries : List Entry} (hentries : entries ≠ [])
    (hplain : ∀ entry ∈ entries, entry.IsPlain) {tail : List Token}
    (hclause : AtClause ["FROM"] tail) :
    selectItems (nestedWithin (depth + 2)) (commaTokens (entries.map Entry.words) ++ tail) =
      .ok (entries.map Entry.item, tail) := by
  refine commaList_commaTokens EndsItem ?_ (by simpa using hentries)
    (fun tail => .inl ⟨tail, rfl⟩) (.inr hclause) (hclause.ne_symbol (by decide))
  rw [List.forall₂_map_left_iff, List.forall₂_map_right_iff, List.forall₂_same]
  exact fun entry hentry tail hends => selectItem_entry (hplain entry hentry) hends

theorem selectItems_star {tail : List Token} (hclause : AtClause ["FROM"] tail) :
    selectItems nested (.symbol "*" :: tail) = .ok ([.star], tail) := by
  refine commaList_of_single ?_ (hclause.ne_symbol (by decide))
  simp [selectItem, starOrExpr]

end SqlGateway.Sql.Parser
