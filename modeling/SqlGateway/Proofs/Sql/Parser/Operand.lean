import SqlGateway.Proofs.Sql.Parser.DataType

/-!
# Plain operands

What the grammar makes of a name, a string or a number where an operand is expected.  A word stands
for itself unless it is one of a few that begin a form of their own; the other special words need a
parenthesis or a bracket behind them, which a plain operand does not have.
-/

namespace SqlGateway.Sql.Parser

variable {nested : Nested} {tokens rest : List Token} {w : Word} {e : Expr} {depth strength : Nat}

/-! ### What stands behind an operand -/

/-- Tokens that do not belong to the operand before them. -/
structure Stops (tokens : List Token) : Prop where
  quiet : isQuiet quietSymbols tokens = true
  element : holdsNoElement tokens = true
  collation : headKeyword tokens ≠ "COLLATE"

theorem Stops.headSymbol_ne (hstops : Stops tokens) {spelling : String}
    (hne : spelling ∉ "" :: quietSymbols) : headSymbol tokens ≠ spelling :=
  headSymbol_ne_of_isQuiet hstops.quiet (List.Subset.refl _) hne

theorem Stops.furtherStrings (hstops : Stops tokens) : furtherStrings tokens = ("", tokens) := by
  have hquiet := hstops.quiet
  cases tokens with
  | nil => rfl
  | cons token rest =>
      cases token with
      | string quote text => simp [isQuiet] at hquiet
      | _ => rfl

theorem collated_of_stops (hstops : Stops tokens) : collated e tokens = .ok (e, tokens) := by
  simp [collated, clause?_of_ne hstops.collation]

/-! ### Words -/

/-- Whether a word comes next. -/
def isWordNext : List Token → Bool
  | .word _ :: _ => true
  | _ => false

/-- The words that begin an operand that is no name, even without a parenthesis behind them.  Two of
them do so only if another word follows. -/
def formWords (wordFollows : Bool) : List String :=
  ["TRUE", "FALSE", "NULL", "CURRENT_TIMESTAMP", "CURRENT_TIME", "CURRENT_DATE", "LOCALTIME",
    "LOCALTIMESTAMP", "EXISTS", "INTERVAL", "TRIM"] ++ if wordFollows then ["CASE", "NOT"] else []

theorem formWords_mono {wordFollows further : Bool} (h : wordFollows = true → further = true) :
    formWords wordFollows ⊆ formWords further := by
  cases wordFollows with
  | false => exact List.append_subset.mpr ⟨List.subset_append_left _ _, List.nil_subset _⟩
  | true =>
      rw [h rfl]
      exact List.Subset.refl _

/-- Without a word behind it nothing that begins with an expression can follow. -/
theorem expr_of_stops (hstops : Stops tokens) (hword : isWordNext tokens = false)
    (depth strength : Nat) : ∃ fault, (nestedWithin depth).expr strength tokens = .error fault := by
  cases depth with
  | zero => exact ⟨_, rfl⟩
  | succ depth =>
      have hquiet := hstops.quiet
      cases tokens with
      | nil => exact ⟨_, rfl⟩
      | cons token rest =>
          cases token with
          | word next => simp [isWordNext] at hword
          | symbol spelling =>
              have htyped : typedLiteral (nestedWithin depth) (.symbol spelling :: rest) =
                  .error .mismatch := rfl
              have hsymbol : symbolOperand (nestedWithin depth) spelling rest =
                  .error .mismatch := by
                simp only [isQuiet, quietSymbols, List.contains_iff_mem, List.mem_cons,
                  List.not_mem_nil, or_false] at hquiet
                rcases hquiet with rfl | rfl | rfl | rfl | rfl | rfl | rfl | rfl | rfl <;> rfl
              refine ⟨.mismatch, ?_⟩
              change exprAt (nestedWithin depth) strength _ = _
              simp [exprAt, fullOperand, operand, attempt?, htyped, hsymbol]
          | _ => simp [isQuiet] at hquiet

theorem typedLiteral_word (hstops : Stops tokens) (hinterval : w.keyword ≠ "INTERVAL") :
    typedLiteral nested (.word w :: tokens) = .error .mismatch := by
  have hliteral : ∀ {rest : List Token} {symbols : List String}, isQuiet symbols rest = true →
      literal rest = .error .mismatch := literal_of_isQuiet
  -- the word may be read as a type, but then no literal is behind what the type takes
  have htype : dataType (.word w :: tokens) = .error .mismatch ∨
      ∃ type rest, dataType (.word w :: tokens) = .ok (type, rest) ∧
        isQuiet quietSymbols rest = true ∧ type ≠ .interval := by
    by_cases harray : w.keyword = "ARRAY" ∧ headSymbol tokens = "<"
    · obtain ⟨hword, hless⟩ := harray
      left
      cases tokens with
      | nil => simp at hless
      | cons token behind =>
          cases token with
          | symbol spelling =>
              obtain rfl : spelling = "<" := hless
              have hmismatch := dataTypeWithin_array hword hstops.element (behind.length + 1)
              simp [dataType, hmismatch]
          | mark spelling => simpa [isQuiet] using hstops.quiet
          | _ => simp [headSymbol] at hless
    · rw [not_and] at harray
      rcases dataTypeWithin_word (List.Subset.refl _) hstops.quiet harray (tokens.length + 1) with
        hfault | ⟨type, rest, hok, hrest, hself⟩
      · exact .inl (by simp [dataType, hfault])
      · exact .inr ⟨type, rest, by simp [dataType, hok], hrest, fun h => hinterval (hself h)⟩
  rcases htype with hfault | ⟨type, rest, hok, hrest, hother⟩
  · simp [typedLiteral, hfault]
  · cases type with
    | known text => simp [typedLiteral, hok, literal_of_isQuiet hrest]
    | custom text => simp [typedLiteral, hok]
    | interval => exact absurd rfl hother

/-- The words that begin a form with a parenthesis or a bracket. -/
def openingWords : List String :=
  ["CONVERT", "CAST", "TRY_CAST", "SAFE_CAST", "EXTRACT", "CEIL", "FLOOR", "POSITION", "SUBSTR",
    "SUBSTRING", "OVERLAY", "ARRAY", "MATCH"]

/-- Where a word is no form by itself, its form is not there. -/
theorem specialForm?_of_stops (depth : Nat) (hstops : Stops tokens)
    (hw : w.keyword ∉ formWords (isWordNext tokens)) :
    specialForm? (nestedWithin depth) w tokens = .ok (none, tokens) ∨
      ∃ fault, specialForm? (nestedWithin depth) w tokens = .error fault := by
  have hparen : symbol "(" tokens = .error .mismatch :=
    symbol_of_ne (hstops.headSymbol_ne (by decide))
  have hnext : nextIsSymbol "(" tokens = .ok (false, tokens) :=
    nextIsSymbol_of_ne (hstops.headSymbol_ne (by decide))
  have hbracket : symbol? "[" tokens = .ok (false, tokens) :=
    symbol?_of_ne (hstops.headSymbol_ne (by decide))
  -- most forms go on with a parenthesis or a bracket
  by_cases hopening : w.keyword ∈ openingWords
  · simp only [openingWords, List.mem_cons, List.not_mem_nil, or_false] at hopening
    rcases hopening with h | h | h | h | h | h | h | h | h | h | h | h | h <;>
      simp [specialForm?, h, convertForm, castForm, extractForm, roundingForm, substringForm,
        overlayForm, arrayForm?, matchForm, inParens, hparen, hnext, hbracket]
  -- the other two go on with an expression, which could only begin with a word
  have hlast : w.keyword = "CASE" ∨ w.keyword = "NOT" → isWordNext tokens = false := by
    intro hform
    cases hnext : isWordNext tokens with
    | false => rfl
    | true => rcases hform with h | h <;> simp [hnext, h, formWords] at hw
  have hkeyword : ∀ {keyword : String}, keyword ≠ "" → isWordNext tokens = false →
      keyword? keyword tokens = .ok (false, tokens) := by
    intro keyword hne hnext
    refine keyword?_of_ne fun heq => hne (heq.symm.trans ?_)
    unfold headKeyword
    split <;> simp_all [isWordNext]
  by_cases hcase : w.keyword = "CASE"
  · right
    have hnext := hlast (.inl hcase)
    have hwhen : keyword? "WHEN" tokens = .ok (false, tokens) := hkeyword (by decide) hnext
    obtain ⟨fault, hfault⟩ := expr_of_stops hstops hnext depth 0
    have hexpr : (nestedWithin depth).fullExpr tokens = .error fault := hfault
    exact ⟨fault, by simp [specialForm?, hcase, caseForm, hwhen, exprText, hexpr]⟩
  by_cases hnot : w.keyword = "NOT"
  · right
    have hnext := hlast (.inr hnot)
    have hexists : keyword? "EXISTS" tokens = .ok (false, tokens) := hkeyword (by decide) hnext
    obtain ⟨fault, hfault⟩ := expr_of_stops hstops hnext depth notStrength
    exact ⟨fault, by simp [specialForm?, hnot, notForm, hexists, hfault]⟩
  left
  rw [formWords, List.mem_append, not_or] at hw
  have hplain := hw.1
  simp only [openingWords, List.mem_cons, List.not_mem_nil, or_false, not_or] at hplain hopening
  simp [specialForm?, hplain, hopening]

theorem plainWord_of_stops (hstops : Stops tokens) :
    plainWord nested w tokens = .ok (.name w.ident, tokens) := by
  have hquiet := hstops.quiet
  cases tokens with
  | nil => rfl
  | cons token rest =>
      cases token with
      | word next => rfl
      | symbol spelling =>
          have hopening : spelling ≠ "(" := hstops.headSymbol_ne (by decide)
          simp [plainWord, hopening]
      | _ => simp [isQuiet] at hquiet

theorem wordOperand_of_stops (hstops : Stops tokens)
    (hw : w.keyword ∉ formWords (isWordNext tokens)) :
    wordOperand (nestedWithin depth) w tokens = .ok (.name w.ident, tokens) := by
  have hplain : plainWord (nestedWithin depth) w tokens = .ok (.name w.ident, tokens) :=
    plainWord_of_stops hstops
  have hcollated : ∀ e : Expr, collated e tokens = .ok (e, tokens) :=
    fun e => collated_of_stops hstops
  by_cases hreserved : w.keyword ∈ reservedNames
  · have hstruct : w.keyword = "STRUCT" := by
      rw [formWords, List.mem_append, not_or] at hw
      have hform := hw.1
      simp only [List.mem_cons, List.not_mem_nil, or_false, not_or] at hform
      simpa [reservedNames, hform] using hreserved
    simp [wordOperand, reservedNames, specialForm?, hstruct, hplain, hcollated]
  · rcases specialForm?_of_stops depth hstops hw with hform | ⟨fault, hform⟩
    · simp [wordOperand, hreserved, orInstead, hform, hplain, hcollated]
    · simp [wordOperand, hreserved, orInstead, hform, hplain]

/-! ### Operands -/

theorem operand_word (hstops : Stops tokens) (hw : w.keyword ∉ formWords (isWordNext tokens)) :
    operand (nestedWithin depth) (.word w :: tokens) = .ok (.name w.ident, tokens) := by
  have hinterval : w.keyword ≠ "INTERVAL" := by
    intro h
    exact hw (by rw [h]; exact List.mem_append_left _ (by decide))
  simp [operand, attempt?, typedLiteral_word hstops hinterval, wordOperand_of_stops hstops hw]

/-- The literals that are words. -/
theorem operand_literalWord (hstops : Stops tokens) {value : Literal}
    (hvalue : (w.keyword, value) ∈
      [("TRUE", Literal.bool true), ("FALSE", .bool false), ("NULL", .null)]) :
    operand nested (.word w :: tokens) = .ok (.literal value, tokens) := by
  simp only [List.mem_cons, Prod.mk.injEq, List.not_mem_nil, or_false] at hvalue
  have hinterval : w.keyword ≠ "INTERVAL" := by
    rcases hvalue with ⟨h, -⟩ | ⟨h, -⟩ | ⟨h, -⟩ <;> simp [h]
  have htyped : typedLiteral nested (.word w :: tokens) = .error .mismatch :=
    typedLiteral_word hstops hinterval
  rcases hvalue with ⟨h, rfl⟩ | ⟨h, rfl⟩ | ⟨h, rfl⟩ <;>
    simp [operand, attempt?, htyped, wordOperand, reservedNames, orInstead, specialForm?, h,
      collated_of_stops hstops]

theorem operand_number (hstops : Stops tokens) (text : String) :
    operand nested (.number text false :: tokens) =
      .ok (.literal (.number text false), tokens) := by
  have htyped : typedLiteral nested (.number text false :: tokens) = .error .mismatch := rfl
  simp [operand, attempt?, htyped, literal, collated_of_stops hstops]

theorem operand_string (hstops : Stops tokens) (quote : Char) (text : String) :
    operand nested (.string quote text :: tokens) =
      .ok (.literal (.string quote text), tokens) := by
  have htyped : typedLiteral nested (.string quote text :: tokens) = .error .mismatch := rfl
  simp [operand, attempt?, htyped, literal, hstops.furtherStrings, collated_of_stops hstops]

theorem operand_minus (hnested : nested.expr productStrength tokens = .ok (e, rest))
    (hstops : Stops rest) :
    operand nested (.symbol "-" :: tokens) = .ok (.unary .minus e, rest) := by
  have htyped : typedLiteral nested (.symbol "-" :: tokens) = .error .mismatch := rfl
  simp [operand, attempt?, htyped, symbolOperand, hnested, collated_of_stops hstops]

/-! ### Expressions of one operand -/

theorem fullOperand_of_stops (hoperand : operand nested tokens = .ok (e, rest))
    (hstops : Stops rest) : fullOperand nested tokens = .ok (e, rest) := by
  have hlinks : links? nested rest = .ok (none, rest) := by
    have hquiet := hstops.quiet
    cases rest with
    | nil => rfl
    | cons token rest =>
        cases token with
        | symbol spelling =>
            have hpoint : spelling ≠ "." := hstops.headSymbol_ne (by decide)
            have hbracket : spelling ≠ "[" := hstops.headSymbol_ne (by decide)
            simp [links?, hpoint, hbracket]
        | _ => rfl
  have hroot : joinLinks e [] = e := by
    cases e <;> rfl
  simp [fullOperand, hoperand, many_of_none hlinks, hroot]

theorem operators_of_le (hstrength : nextStrength tokens ≤ strength) (rounds : Nat) :
    operators nested strength rounds e tokens = .ok (e, tokens) := by
  cases rounds <;> simp [operators, nextIsSymbol, hstrength]

theorem exprAt_of_stops (hoperand : operand nested tokens = .ok (e, rest)) (hstops : Stops rest)
    (hstrength : nextStrength rest ≤ strength) :
    exprAt nested strength tokens = .ok (e, rest) := by
  simp [exprAt, fullOperand_of_stops hoperand hstops, operators_of_le hstrength]

/-- Tokens that do not belong to the expression before them. -/
structure Ends (tokens : List Token) : Prop extends Stops tokens where
  strength : nextStrength tokens = 0

/-- Tokens that the grammar reads as an expression of one operand wherever they stand; before a word
only if `byWord` holds. -/
def IsOperand (byWord : Bool) (written : List Token) (e : Expr) : Prop :=
  ∀ depth tail strength, Ends tail → (isWordNext tail = true → byWord = true) →
    (nestedWithin (depth + 2)).expr strength (written ++ tail) = .ok (e, tail)

variable {byWord : Bool}

theorem isOperand_of_operand {written : List Token}
    (hoperand : ∀ depth tail, Ends tail → (isWordNext tail = true → byWord = true) →
      operand (nestedWithin (depth + 1)) (written ++ tail) = .ok (e, tail)) :
    IsOperand byWord written e := by
  intro depth tail strength hends hnext
  exact exprAt_of_stops (hoperand depth tail hends hnext) hends.toStops (by simp [hends.strength])

theorem isOperand_word (hw : w.keyword ∉ formWords byWord) :
    IsOperand byWord [.word w] (.name w.ident) :=
  isOperand_of_operand fun _ _ hends hnext =>
    operand_word hends.toStops fun hform => hw (formWords_mono hnext hform)

theorem isOperand_literalWord {value : Literal}
    (hvalue : (w.keyword, value) ∈
      [("TRUE", Literal.bool true), ("FALSE", .bool false), ("NULL", .null)]) :
    IsOperand byWord [.word w] (.literal value) :=
  isOperand_of_operand fun _ _ hends _ => operand_literalWord hends.toStops hvalue

theorem isOperand_number (text : String) :
    IsOperand byWord [.number text false] (.literal (.number text false)) :=
  isOperand_of_operand fun _ _ hends _ => operand_number hends.toStops text

theorem isOperand_string (quote : Char) (text : String) :
    IsOperand byWord [.string quote text] (.literal (.string quote text)) :=
  isOperand_of_operand fun _ _ hends _ => operand_string hends.toStops quote text

theorem isOperand_negative (text : String) : IsOperand byWord
    [.symbol "-", .number text false] (.unary .minus (.literal (.number text false))) := by
  refine isOperand_of_operand fun depth tail hends _ => operand_minus ?_ hends.toStops
  exact exprAt_of_stops (operand_number hends.toStops text) hends.toStops (by simp [hends.strength])

/-! ### Comparisons -/

/-- The signs of comparisons with the operators that they stand for. -/
def comparisons : List (String × BinaryOp) :=
  [("=", .eq), ("!=", .neq), ("<>", .neq), (">", .gt), (">=", .gte), ("<", .lt), ("<=", .lte)]

/-- The words that say how many values an operator is applied to. -/
def quantifiers : List String := ["ANY", "ALL", "SOME"]

/-- What the parser knows of the sign of a comparison. -/
theorem spelled_comparison {sign : String} {op : BinaryOp} (hsign : (sign, op) ∈ comparisons) :
    sign ∈ quietSymbols ∧ sign ≠ "." ∧ strengthIn precedenceOf sign = 20 ∧
      symbolOperator? sign = some op := by
  simp only [comparisons, List.mem_cons, Prod.mk.injEq, List.not_mem_nil, or_false] at hsign
  rcases hsign with ⟨rfl, rfl⟩ | ⟨rfl, rfl⟩ | ⟨rfl, rfl⟩ | ⟨rfl, rfl⟩ | ⟨rfl, rfl⟩ |
    ⟨rfl, rfl⟩ | ⟨rfl, rfl⟩ <;> exact ⟨by decide, by decide, by decide, rfl⟩

/-- The sign of an operator with an operand on each side goes on with the second one. -/
theorem operator_symbol {sign : String} {op : BinaryOp} (hop : symbolOperator? sign = some op)
    (left : Expr) :
    operator nested left strength (.symbol sign :: rest) = binary nested left op strength rest := by
  have hcast : sign ≠ "::" := by
    rintro rfl
    contradiction
  simp [operator, hop]

/-- A name, a sign and an operand make a comparison. -/
theorem fullExpr_comparison (depth : Nat) {sign : String} {op : BinaryOp}
    {written tail : List Token}
    (hw : w.keyword ∉ formWords false) (hsign : (sign, op) ∈ comparisons)
    (hwritten : IsOperand byWord written e)
    (helement : holdsNoElement (.symbol sign :: (written ++ tail)) = true)
    (hquantifier : headKeyword (written ++ tail) ∉ quantifiers) (hends : Ends tail)
    (hnext : isWordNext tail = true → byWord = true) :
    (nestedWithin (depth + 3)).fullExpr (.word w :: .symbol sign :: (written ++ tail)) =
      .ok (.binary (.name w.ident) op e, tail) := by
  obtain ⟨hquiet, hpoint, hstrength, hop⟩ := spelled_comparison hsign
  have hstops : Stops (.symbol sign :: (written ++ tail)) :=
    { quiet := by simpa [isQuiet] using hquiet
      element := helement
      collation := by simp }
  have hleft : fullOperand (nestedWithin (depth + 2))
        (.word w :: .symbol sign :: (written ++ tail)) =
      .ok (.name w.ident, .symbol sign :: (written ++ tail)) :=
    fullOperand_of_stops (operand_word hstops hw) hstops
  have hright : (nestedWithin (depth + 2)).expr 20 (written ++ tail) = .ok (e, tail) :=
    hwritten depth tail 20 hends hnext
  have hnone : oneOf? ["ANY", "ALL", "SOME"] (written ++ tail) = .ok (none, written ++ tail) :=
    oneOf?_of_not_mem hquantifier
  have hoperand : operator (nestedWithin (depth + 2)) (.name w.ident) 20
      (.symbol sign :: (written ++ tail)) = .ok (.binary (.name w.ident) op e, tail) := by
    rw [operator_symbol hop]
    simp [binary, hnone, hright]
  -- one operator is read, and what ends the expression binds no further one
  have hstep : ∀ rounds, operators (nestedWithin (depth + 2)) 0 (rounds + 1) (.name w.ident)
      (.symbol sign :: (written ++ tail)) = .ok (.binary (.name w.ident) op e, tail) := by
    intro rounds
    have hlast : operators (nestedWithin (depth + 2)) 0 rounds (.binary (.name w.ident) op e)
        tail = .ok (.binary (.name w.ident) op e, tail) :=
      operators_of_le (by simp [hends.strength]) rounds
    have hnext : nextIsSymbol "." (.symbol sign :: (written ++ tail)) =
        .ok (false, .symbol sign :: (written ++ tail)) := nextIsSymbol_of_ne hpoint
    simp [operators, nextStrength, hstrength, hnext, hoperand, hlast]
  change exprAt (nestedWithin (depth + 2)) 0 _ = _
  simp [exprAt, hleft, hstep]

end SqlGateway.Sql.Parser
