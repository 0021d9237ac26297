import SqlGateway.Proofs.Shape.Condition
import SqlGateway.Proofs.Shape.Core
import SqlGateway.Proofs.Shape.Pattern
import SqlGateway.Request.OfStatement

/-!
# The shapes agree with the grammar

A plain text that a shape reads as a statement states that same statement to the grammar.  The shape
cuts the text into pieces, each piece into the tokens of its part of the statement, and the parts
are put together as the grammar does.  A text that is not plain may have a shape and yet be refused
by the grammar, or state something else.
-/

namespace SqlGateway.Shape

open Text Sql Sql.Parser

variable {text behind : List Char} {wordFollows : Bool} {s : Statement}

/-! ### Tidy texts -/

/-- Outside quotes the normal form has no blank but the space. -/
theorem isPlainlySpaced_squeeze {quote : Option Char} {pending : Bool} :
    isPlainlySpaced quote (squeeze quote pending text) = true := by
  induction text generalizing quote pending with
  | nil => rfl
  | cons c text ih =>
      cases quote with
      | some q =>
          rw [squeeze_quoted, isPlainlySpaced]
          simpa using ih
      | none =>
          cases hc : isBlank c with
          | true =>
              rw [squeeze_blank hc]
              exact ih
          | false =>
              have hplain : isPlainlySpaced none (squeeze none false (c :: text)) = true := by
                rw [squeeze_plain hc, isPlainlySpaced, hc]
                simpa using ih
              cases pending with
              | false => exact hplain
              | true =>
                  rw [squeeze_pending hc, isPlainlySpaced, nextQuote_of_isBlank (by decide), hplain]
                  decide

theorem isTidy_normalize (hescapes : escapesWildcards (normalize text) = true) :
    IsTidy (normalize text) where
  spaced := by
    rw [normalize_eq_squeeze]
    exact isPlainlySpaced_squeeze
  escapes := hescapes

/-! ### Pieces -/

theorem Reads.optionalSpace {gap : List Char} {tokens : List Token} (hgap : IsOptionalSpace gap)
    (hreads : Reads text tokens) : Reads (gap ++ text) tokens := by
  rcases hgap with rfl | rfl
  · exact hreads
  · exact hreads.blank rfl

theorem Reads.opening {tokens : List Token} (hreads : Reads text tokens) :
    Reads ('(' :: text) (.symbol "(" :: tokens) :=
  Reads.sign "(" (by decide) (by simp [extenders]) hreads

theorem Reads.closing {tokens : List Token} (hreads : Reads text tokens) :
    Reads (')' :: text) (.symbol ")" :: tokens) :=
  Reads.sign ")" (by decide) (by simp [extenders]) hreads

theorem Reads.equals {tokens : List Token} (hhead : ∀ c ∈ text.head?, c ∉ extenders "=")
    (hreads : Reads text tokens) : Reads ('=' :: text) (.symbol "=" :: tokens) :=
  Reads.sign "=" (by decide) hhead hreads

theorem breaks_optionalSpace {gap : List Char} (hgap : IsOptionalSpace gap)
    (hbreaks : Breaks text) :
    Breaks (gap ++ text) := by
  rcases hgap with rfl | rfl
  · exact hbreaks
  · exact breaks_cons.mpr rfl

/-! ### Conditions and orders -/

/-- A `WHERE` with a plain condition, in front of the rest of a text. -/
theorem exists_where {clause : List Char} {condition : Comparison}
    (hdrop : dropKeyword? " WHERE ".toList text = some (clause ++ behind))
    (hread : readCondition? clause = some condition)
    (hplain : isPlainCondition wordFollows clause = true) :
    ∃ written, IsFilter wordFollows written (some (.compare condition)) ∧
      isWordNext written = true ∧ Breaks text ∧ ∀ tokens, Breaks behind → Reads behind tokens →
        Reads text (written ++ tokens) := by
  obtain ⟨rest, rfl, hrest⟩ := eq_of_dropKeyword?_cons (.inl rfl) hdrop
  obtain ⟨words, hwords, hreads⟩ := exists_reads_of_phrase ["WHERE"] (by decide) hrest
  obtain ⟨marker, rfl, hmarker⟩ := List.map_eq_singleton_iff.mp hwords
  obtain ⟨written, hfilter, hwrites⟩ := exists_condition hread hplain hmarker
  refine ⟨_, hfilter, rfl, by simp [isBreak, isBlank], fun tokens hbreaks hbehind => ?_⟩
  exact (hreads _ (hwrites behind tokens hbreaks hbehind)).blank rfl

/-- The end of a change: nothing, or a plain condition. -/
theorem exists_clause {pass : Pass} {kind : StatementKind} {clause : Option (List Char)}
    {filter : Option Predicate} (hclause : IsClause text clause)
    (hfilter : readFilter pass kind clause = .ok (some filter))
    (hplain : clause.all (isPlainCondition wordFollows) = true) :
    ∃ written, IsFilter wordFollows written filter ∧ isWordNext written = clause.isSome ∧
      Breaks text ∧ Reads text written := by
  cases hclause with
  | none =>
      cases hfilter
      exact ⟨[], isFilter_nil, rfl, breaks_nil, reads_nil⟩
  | @condition marker clause hmarker _ =>
      rcases readFilter_eq_ok.mp hfilter with ⟨hnone, -⟩ | ⟨piece, condition, heq, hread, rfl⟩
      · contradiction
      cases heq
      have hdrop : dropKeyword? " WHERE ".toList (marker ++ clause) = some (clause ++ []) := by
        rw [List.append_nil]
        exact dropKeyword?_append hmarker clause
      obtain ⟨written, hmeaning, hword, hbreaks, hreads⟩ := exists_where hdrop hread hplain
      refine ⟨written, hmeaning, hword, hbreaks, ?_⟩
      simpa using hreads [] breaks_nil reads_nil

/-- A direction behind the column of an order. -/
theorem exists_direction {direction : List Char}
    (hdrop : dropKeyword? " ASC".toList text = some [] ∨ dropKeyword? " DESC".toList text = some [])
    (hdirection : text.drop 1 = direction) :
    isOneWord direction = true ∧ (Word.bare direction).keyword ∈ ["ASC", "DESC"] ∧
      text = ' ' :: direction := by
  subst hdirection
  have hcase : ∀ keyword : String, keyword.toList ≠ [] ∧
      (∀ c ∈ keyword.toList, c ∈ skeletonLetters) →
        dropKeyword? (' ' :: keyword.toList) text = some [] →
          IsKeyword keyword (text.drop 1) ∧ text = ' ' :: text.drop 1 := by
    intro keyword hkeyword hdrop
    obtain ⟨rest, rfl, hrest⟩ := eq_of_dropKeyword?_cons (.inl rfl) hdrop
    rw [← List.append_nil keyword.toList] at hrest
    obtain ⟨word, further, rfl, hword, hfurther⟩ := exists_keyword_of_dropKeyword? hkeyword hrest
    cases hfurther
    simpa using hword
  rcases hdrop with hasc | hdesc
  · obtain ⟨⟨hone, hkeyword⟩, hsplit⟩ := hcase "ASC" (by decide) hasc
    exact ⟨hone, by rw [hkeyword]; decide, hsplit⟩
  · obtain ⟨⟨hone, hkeyword⟩, hsplit⟩ := hcase "DESC" (by decide) hdesc
    exact ⟨hone, by rw [hkeyword]; decide, hsplit⟩

theorem readOrder?_eq_some {column : List Char} {direction : Option (List Char)}
    (hread : readOrder? text = some (some (column, direction))) :
    ∃ rest tail, dropKeyword? " ORDER BY ".toList text = some rest ∧ rest = column ++ tail ∧
      ((direction = none ∧ tail = []) ∨
        ∃ word, direction = some word ∧ isOneWord word = true ∧
          (Word.bare word).keyword ∈ ["ASC", "DESC"] ∧ tail = ' ' :: word) := by
  rw [readOrder?] at hread
  split at hread
  · cases hread
  split at hread
  · contradiction
  rename_i rest hdrop
  split at hread
  · contradiction
  · rename_i hword
    cases hread
    exact ⟨rest, [], hdrop, (readWord?_eq_some.mp hword).1, .inl ⟨rfl, rfl⟩⟩
  · rename_i tail _ hword
    split at hread
    · rename_i hends
      cases hread
      rw [Bool.or_eq_true, beq_iff_eq, beq_iff_eq] at hends
      obtain ⟨hone, hkeyword, hsplit⟩ := exists_direction hends rfl
      exact ⟨rest, tail, hdrop, (readWord?_eq_some.mp hword).1,
        .inr ⟨_, rfl, hone, hkeyword, hsplit⟩⟩
    · contradiction

/-- The end of a query: nothing, or a plain order. -/
theorem exists_order {order : Option (List Char × Option (List Char))}
    (hread : readOrder? text = some order) (hplain : order.all isPlainOrder = true) :
    ∃ written, IsOrder written (orderOf order) ∧ isWordNext written = order.isSome ∧
      Breaks text ∧ Reads text written := by
  rcases order with _ | ⟨column, direction⟩
  · have hempty : text = [] := by
      rw [readOrder?] at hread
      split at hread
      · rename_i hempty
        exact List.isEmpty_iff.mp hempty
      · grind
    rw [hempty]
    exact ⟨[], isOrder_nil, rfl, breaks_nil, reads_nil⟩
  rw [Option.all_some, isPlainOrder, Bool.and_eq_true] at hplain
  obtain ⟨hname, hdirection⟩ := hplain
  obtain ⟨rest, tail, hdrop, rfl, hcases⟩ := readOrder?_eq_some hread
  obtain ⟨inner, rfl, hinner⟩ := eq_of_dropKeyword?_cons (.inl rfl) hdrop
  obtain ⟨words, hwords, hreads⟩ :=
    exists_reads_of_phrase ["ORDER", "BY"] (by decide) hinner
  obtain ⟨first, second, rfl, hfirst, hsecond⟩ : ∃ first second, words = [first, second] ∧
      first.keyword = "ORDER" ∧ second.keyword = "BY" := by
    rcases words with _ | ⟨first, _ | ⟨second, _ | _⟩⟩ <;> simp_all
  have hbreaks : Breaks (' ' :: inner) := by simp [isBreak, isBlank]
  have hone := isOneWord_of_isNameBut hname
  have hform := not_mem_of_isNameBut hname
  rcases hcases with ⟨rfl, rfl⟩ | ⟨word, rfl, hword, hkeyword, rfl⟩
  · refine ⟨_, isOrder_word none hfirst hsecond hform (by simp), rfl, hbreaks, ?_⟩
    exact (hreads _ (Reads.word hone breaks_nil reads_nil)).blank rfl
  · have hdescending : ((Word.bare word).keyword == "DESC") = Value.isWordOf "DESC" word := by
      rw [Bool.eq_iff_iff, beq_iff_eq]
      constructor
      · intro hdesc
        simpa [hdesc] using hdirection
      · intro hdesc
        exact (isKeyword_of_isWordOf (by decide) hdesc).keyword_eq
    have horder := isOrder_word (some (.bare word)) hfirst hsecond hform
      (by simpa using hkeyword)
    rw [Option.any_some, hdescending] at horder
    refine ⟨_, horder, rfl, hbreaks, ?_⟩
    have htail : Reads word [.word (.bare word)] := by
      simpa using Reads.word hword breaks_nil reads_nil
    exact (hreads _ (Reads.word hone (by simp [isBreak, isBlank]) (htail.blank rfl))).blank rfl

/-! ### Values of a change -/

theorem head_of_isPlainToken {token : List Char} (hplain : isPlainToken wordFollows token = true) :
    ∀ c ∈ token.head?, isWordPart c = true ∨ c = '-' ∨ c = '.' := by
  have hword : isOneWord token = true →
      ∀ c ∈ token.head?, isWordPart c = true ∨ c = '-' ∨ c = '.' :=
    fun hone c hc => .inl (isWordPart_of_isOneWord hone c (List.mem_of_mem_head? hc))
  rw [isPlainToken] at hplain
  split at hplain
  · rename_i hshape
    rcases isNumeral_of_shape hshape with hunsigned | ⟨magnitude, rfl, -⟩
    · intro c hc
      rw [← List.append_nil token] at hc
      rcases hunsigned.head?_append c hc with hdigit | rfl
      · exact .inl (isWordPart_of_isDigit hdigit)
      · exact .inr (.inr rfl)
    · simp
  · rename_i hshape
    rcases Bool.or_eq_true_iff.mp hplain with hliteral | hname
    · exact hword (exists_of_isLiteralWord hliteral hshape).1
    · exact hword (isOneWord_of_isNameBut hname)

/-- A plain value of a change. -/
theorem exists_value (behind : List Char) {value : List Char} (hvalue : IsValueText value)
    (hplain : (value.head?.any isQuote || isPlainToken wordFollows (trim value)) = true) :
    ∃ written, IsValue wordFollows written (Value.ofToken value) ∧ Writes value written ∧
      ∀ c ∈ (value ++ behind).head?, c ∉ extenders "=" := by
  cases hvalue with
  | @quoted quote content hquote =>
      refine ⟨_, ?_, writes_string content hquote, ?_⟩
      · rw [ofToken_quoted hquote]
        exact .string quote _
      · rintro c ⟨rfl⟩ hmem
        have hother : ∀ c ∈ extenders "=", isQuote c = false := by decide
        rw [hother quote hmem] at hquote
        contradiction
  | bare hne hparts =>
      have hblank : ∀ c ∈ value, isBlank c = false := by
        intro c hc
        have hpart := hparts c hc
        simp only [isValuePart, Bool.not_eq_true', Bool.or_eq_false_iff] at hpart
        exact hpart.1.1
      cases value with
      | nil => exact absurd rfl hne
      | cons c value =>
          have hquote : isQuote c = false := by
            have hpart := hparts c List.mem_cons_self
            simp only [isValuePart, Bool.not_eq_true', Bool.or_eq_false_iff] at hpart
            exact hpart.2
          have htoken : isPlainToken wordFollows (c :: value) = true := by
            rw [trim_eq_self hblank] at hplain
            simpa [hquote] using hplain
          obtain ⟨written, hmeaning, hwrites⟩ := exists_of_isPlainToken htoken
          refine ⟨written, ?_, hwrites, ?_⟩
          · rwa [Value.ofToken, trim_eq_self hblank]
          · rintro d ⟨rfl⟩ hmem
            have hother : ∀ c ∈ extenders "=", isWordPart c = false ∧ c ≠ '-' ∧ c ≠ '.' := by decide
            obtain ⟨hword, hminus, hpoint⟩ := hother c hmem
            rcases head_of_isPlainToken htoken c rfl with h | h | h
            · simp [hword] at h
            · exact hminus h
            · exact hpoint h

/-! ### Statements -/

theorem ofSql_of_reads {tokens : List Token} (hreads : Reads text tokens) (htidy : IsTidy text) :
    Statement.ofSql text = Statement.ofTokens tokens :=
  Statement.ofSql_eq_ofTokens (hreads.tokenize? htidy)

/-- The text behind a phrase of one word or of two, with the words of the phrase. -/
theorem exists_word_of_phrase (first : String) {rest : List Char}
    (hkeyword : isSkeletonWord first = true)
    (hdrop : dropKeyword? (phrase [first]) text = some rest) :
    ∃ w : Word, w.keyword = first ∧
      ∀ tokens, Reads rest tokens → Reads text (.word w :: tokens) := by
  obtain ⟨words, hwords, hreads⟩ := exists_reads_of_phrase [first] (by simpa using hkeyword) hdrop
  obtain ⟨w, rfl, hw⟩ := List.map_eq_singleton_iff.mp hwords
  exact ⟨w, hw, hreads⟩

theorem exists_pair_of_phrase (first second : String) {rest : List Char}
    (hkeywords : [first, second].all isSkeletonWord = true)
    (hdrop : dropKeyword? (phrase [first, second]) text = some rest) :
    ∃ v w : Word, v.keyword = first ∧ w.keyword = second ∧
      ∀ tokens, Reads rest tokens → Reads text (.word v :: .word w :: tokens) := by
  obtain ⟨words, hwords, hreads⟩ := exists_reads_of_phrase [first, second] hkeywords hdrop
  rcases words with _ | ⟨v, _ | ⟨w, _ | _⟩⟩
  · simp at hwords
  · simp at hwords
  · simp only [List.map_cons, List.map_nil, List.cons.injEq, and_true] at hwords
    exact ⟨v, w, hwords.1, hwords.2, hreads⟩
  · simp at hwords

theorem ofSql_recognizeDelete (htidy : IsTidy text)
    (hplain : (DeletePattern.match? text).all DeletePattern.isPlain = true)
    (hread : recognizeDelete .fast text = .ok (some s)) : Statement.ofSql text = .ok s := by
  rw [recognizeDelete] at hread
  split at hread
  · cases hread
  rename_i found hfound
  obtain ⟨filter, hfilter, rfl⟩ := statement_of_readFilter.mp hread
  rw [hfound, Option.all_some, DeletePattern.isPlain, Bool.and_eq_true] at hplain
  obtain ⟨htable, hclausePlain⟩ := hplain
  obtain ⟨head, behind, rfl, ⟨-, keyword, hkeyword, rfl⟩, hclause⟩ :=
    DeletePattern.match?_eq_some.mp hfound
  obtain ⟨first, marker, hfirst, hmarker, hreads⟩ :=
    exists_pair_of_phrase "DELETE" "FROM" (by decide) (dropKeyword?_append hkeyword _)
  obtain ⟨written, hmeaning, -, hbreaks, hwritten⟩ := exists_clause hclause hfilter hclausePlain
  have hname := hreads _ (Reads.word (isOneWord_of_isNameBut htable) hbreaks hwritten)
  rw [← List.append_assoc] at hname
  rw [ofSql_of_reads hname htidy]
  exact Statement.ofTokens_delete hfirst hmarker (isTable_of_isNameBut htable) hmeaning

theorem ofSql_recognizeUpdate (htidy : IsTidy text)
    (hplain : (UpdatePattern.match? text).all UpdatePattern.isPlainFor = true)
    (hread : recognizeUpdate .fast text = .ok (some s)) : Statement.ofSql text = .ok s := by
  rw [recognizeUpdate] at hread
  split at hread
  · cases hread
  rename_i found hfound
  obtain ⟨filter, hfilter, rfl⟩ := statement_of_readFilter.mp hread
  rw [hfound, Option.all_some, UpdatePattern.isPlainFor] at hplain
  simp only [Bool.and_eq_true] at hplain
  obtain ⟨⟨⟨htable, hcolumn⟩, hvaluePlain⟩, hclausePlain⟩ := hplain
  obtain ⟨head, behind, rfl, ⟨-, -, hvalue, update, set, before, gap, hupdate, hset, hbefore, hgap,
    rfl⟩, hclause⟩ := UpdatePattern.match?_eq_some.mp hfound
  obtain ⟨written, hmeaning, hnext, hbreaks, hwritten⟩ := exists_clause hclause hfilter hclausePlain
  rw [← hnext] at hvaluePlain
  obtain ⟨token, htoken, hwrites, hstarts⟩ := exists_value behind hvalue hvaluePlain
  have hnotLonger : ∀ c ∈ (gap ++ (found.value ++ behind)).head?, c ∉ extenders "=" := by
    rcases hgap with rfl | rfl
    · exact hstarts
    · simp [extenders]
  -- the tokens of the pieces, from the end of the text to its front
  have hsignReads :=
    Reads.equals hnotLonger (Reads.optionalSpace hgap (hwrites behind written hbreaks hwritten))
  have hcolumnReads := Reads.word hcolumn
    (breaks_optionalSpace hbefore (breaks_cons.mpr (by decide)))
    (Reads.optionalSpace hbefore hsignReads)
  obtain ⟨inner, hinner, hsetWord⟩ :=
    eq_of_dropKeyword?_cons (.inl rfl) (dropKeyword?_append hset _)
  obtain ⟨marker, hmarker, hreadsSet⟩ := exists_word_of_phrase "SET" (by decide) hsetWord
  have hsetReads := Reads.blank (c := ' ') rfl (hreadsSet _ hcolumnReads)
  have htableReads :=
    Reads.word (isOneWord_of_isNameBut htable) (breaks_cons.mpr rfl) hsetReads
  rw [← hinner] at htableReads
  obtain ⟨first, hfirst, hreads⟩ :=
    exists_word_of_phrase "UPDATE" (by decide) (dropKeyword?_append hupdate _)
  have htextReads := hreads _ htableReads
  simp only [List.append_assoc, List.cons_append] at htidy ⊢
  rw [ofSql_of_reads htextReads htidy]
  exact Statement.ofTokens_update hfirst (isTable_of_isNameBut htable) hmarker
    ⟨rfl, isBare_of_isOneWord hcolumn⟩ htoken hmeaning

theorem ofSql_recognizeInsert (htidy : IsTidy text)
    (hplain : (InsertPattern.match? text).all InsertPattern.isPlain = true)
    (hread : recognizeInsert .fast text = .ok (some s)) : Statement.ofSql text = .ok s := by
  rw [recognizeInsert] at hread
  split at hread
  · cases hread
  rename_i found hfound
  split at hread
  · cases hread
  rename_i columns hcolumns
  split at hread
  · cases hread
  rename_i values hvalues
  split at hread
  swap
  · cases hread
  cases hread
  rw [hfound, Option.all_some, InsertPattern.isPlain] at hplain
  simp only [Bool.and_eq_true] at hplain
  obtain ⟨⟨htable, hcolumnsPlain⟩, hvaluesPlain⟩ := hplain
  obtain ⟨names, hnames, rfl, hselect, hnamesWrites⟩ := exists_columns hcolumns hcolumnsPlain
  obtain ⟨items, hne, hitems, hitemsWrites⟩ := exists_row hvalues hvaluesPlain
  obtain ⟨-, -, -, -, insert, before, marker, behind, hinsert, hmarker, hbefore, hbehind, rfl⟩ :=
    InsertPattern.match?_eq_some.mp hfound
  -- the row, up to the end of the text
  have hrowReads : Reads ('(' :: (found.values ++ [')'])) (rowTokens items) :=
    (hitemsWrites [')'] _ (breaks_cons.mpr (by decide)) reads_nil.closing).opening
  -- the keyword between the parentheses
  obtain ⟨closing, hclosing, hclosed⟩ :=
    eq_of_dropKeyword?_cons (.inr rfl) (dropKeyword?_append hmarker _)
  obtain ⟨spaced, rfl, hspaced⟩ := eq_of_dropKeyword?_cons (.inl rfl) hclosed
  obtain ⟨word, rest, rfl, hword, hrest⟩ :=
    @exists_keyword_of_dropKeyword? _ _ "VALUES" [] (by decide) hspaced
  cases hrest
  have hkeywordReads := Reads.word hword.oneWord
    (breaks_optionalSpace hbehind (breaks_cons.mpr (by decide)))
    (Reads.optionalSpace hbehind hrowReads)
  have hclosingReads := (Reads.blank (c := ' ') rfl hkeywordReads).closing
  -- the columns and the table
  have hcolumnsReads := hnamesWrites _ _ (breaks_cons.mpr (by decide)) hclosingReads
  have hnamesReads := hcolumnsReads.opening
  have htableReads := Reads.word (isOneWord_of_isNameBut htable)
    (breaks_optionalSpace hbefore (breaks_cons.mpr (by decide)))
    (Reads.optionalSpace hbefore hnamesReads)
  obtain ⟨first, into, hfirst, hinto, hreads⟩ :=
    exists_pair_of_phrase "INSERT" "INTO" (by decide) (dropKeyword?_append hinsert _)
  have htextReads := hreads _ htableReads
  rw [hclosing] at htidy ⊢
  rw [ofSql_of_reads htextReads htidy]
  have hstatement := Statement.ofTokens_insert hfirst hinto (isTable_of_isNameBut htable) hnames
    hselect hword.keyword_eq hitems hne
  simpa [nameTokens, Word.bare] using hstatement

/-- What stands behind the table of a query: at most a plain condition, and at most an order. -/
theorem exists_clauseAndOrder {clause : Option (List Char)}
    {order : Option (List Char × Option (List Char))} {filter : Option Predicate}
    (hsplit : readClauseAndOrder? text = some (clause, order))
    (hfilter : readFilter .fast .select clause = .ok (some filter))
    (hclausePlain : clause.all (isPlainCondition order.isSome) = true)
    (horderPlain : order.all isPlainOrder = true) :
    ∃ written orderTokens, IsFilter (isWordNext orderTokens) written filter ∧
      IsOrder orderTokens (orderOf order) ∧ Breaks text ∧ Reads text (written ++ orderTokens) := by
  rw [readClauseAndOrder?] at hsplit
  split at hsplit
  · rename_i afterWhere hwhere
    obtain ⟨⟨piece, found⟩, hcut, heq⟩ := Option.map_eq_some_iff.mp hsplit
    cases heq
    rcases readFilter_eq_ok.mp hfilter with ⟨hnone, -⟩ | ⟨_, condition, heq, hcondition, rfl⟩
    · contradiction
    cases heq
    obtain ⟨rest, rfl, -, -, horderRead⟩ := shortest?_eq_some hcut
    obtain ⟨orderTokens, horder, hnext, hbreaks, horderReads⟩ :=
      exists_order horderRead horderPlain
    -- the operand of the condition may be followed by a word exactly if there is an order
    rw [Option.all_some, ← hnext] at hclausePlain
    obtain ⟨written, hmeaning, -, hbehindBreaks, hreads⟩ :=
      exists_where hwhere hcondition hclausePlain
    exact ⟨written, orderTokens, hmeaning, horder, hbehindBreaks, hreads _ hbreaks horderReads⟩
  · obtain ⟨found, horderRead, heq⟩ := Option.map_eq_some_iff.mp hsplit
    cases heq
    cases hfilter
    obtain ⟨orderTokens, horder, -, hbreaks, horderReads⟩ := exists_order horderRead horderPlain
    exact ⟨[], orderTokens, isFilter_nil, horder, hbreaks, horderReads⟩

/-- A query that is read on the first pass has all its parts read. -/
theorem exists_of_recognizeSelect (hread : recognizeSelect .fast text = .ok (some s)) :
    ∃ found columns filter, SelectPattern.match? text = some found ∧
      readFields? found.fields = some columns ∧
      readFilter .fast .select found.clause = .ok (some filter) ∧
      s = .select {
        table := String.ofList found.table, columns, filter, order := orderOf found.order
        limit := none, offset := none } := by
  rw [recognizeSelect] at hread
  split at hread
  · cases hread
  rename_i found hfound
  split at hread
  · cases hread
  rename_i columns hcolumns
  simp only at hread
  split at hread
  · rename_i hclause
    cases hread
    exact ⟨found, columns, none, hfound, hcolumns, by rw [hclause, readFilter], rfl⟩
  · rename_i clause hclause
    cases hcondition : readCondition? clause with
    | none =>
        rw [hcondition] at hread
        cases hread
    | some condition =>
        rw [hcondition] at hread
        cases hread
        exact ⟨found, columns, _, hfound, hcolumns,
          readFilter_eq_ok.mpr (.inr ⟨clause, condition, hclause, hcondition, rfl⟩), rfl⟩

theorem ofSql_recognizeSelect (htidy : IsTidy text)
    (hplain : (SelectPattern.match? text).all SelectPattern.isPlain = true)
    (hread : recognizeSelect .fast text = .ok (some s)) : Statement.ofSql text = .ok s := by
  obtain ⟨found, columns, filter, hfound, hcolumns, hfilter, rfl⟩ :=
    exists_of_recognizeSelect hread
  rw [hfound, Option.all_some, SelectPattern.isPlain] at hplain
  simp only [Bool.and_eq_true] at hplain
  obtain ⟨⟨⟨hfieldsPlain, htable⟩, hclausePlain⟩, horderPlain⟩ := hplain
  obtain ⟨fieldTokens, hfields, hfieldsWrites⟩ := exists_fields hcolumns hfieldsPlain
  -- the pieces of the text, from its front to its end
  obtain ⟨afterHead, hhead, hmatch⟩ := Option.bind_eq_some_iff.mp hfound
  obtain ⟨⟨fields, table, clause, order⟩, hpiece, hmatch⟩ := Option.bind_eq_some_iff.mp hmatch
  cases hmatch
  obtain ⟨tail, rfl, -, -, htail⟩ := shortest?_eq_some hpiece
  obtain ⟨afterFrom, hfrom, htail⟩ := Option.bind_eq_some_iff.mp htail
  obtain ⟨⟨name, behind⟩, hword, htail⟩ := Option.bind_eq_some_iff.mp htail
  obtain ⟨⟨clause', order'⟩, hclauseAndOrder, htail⟩ := Option.bind_eq_some_iff.mp htail
  cases htail
  obtain ⟨rfl, -, -⟩ := readWord?_eq_some.mp hword
  obtain ⟨first, hfirst, hreads⟩ := exists_word_of_phrase "SELECT" (by decide) hhead
  obtain ⟨inner, rfl, hinner⟩ := eq_of_dropKeyword?_cons (.inl rfl) hfrom
  obtain ⟨marker, hmarker, hreadsFrom⟩ := exists_word_of_phrase "FROM" (by decide) hinner
  -- their tokens, from its end to its front
  obtain ⟨filterTokens, orderTokens, hmeaning, horder, hbreaks, hbehind⟩ :=
    exists_clauseAndOrder hclauseAndOrder hfilter hclausePlain horderPlain
  have htableReads := Reads.word (isOneWord_of_isNameBut htable) hbreaks hbehind
  have hfromReads := Reads.blank (c := ' ') rfl (hreadsFrom _ htableReads)
  have hfieldsReads := hfieldsWrites _ _ (breaks_cons.mpr rfl) hfromReads
  rw [ofSql_of_reads (hreads _ hfieldsReads) htidy]
  exact Statement.ofTokens_select hfirst hfields hmarker (isTable_of_isNameBut htable) hmeaning
    horder

/-- What a shape reads in a plain text on the first pass, the grammar reads in it as well. -/
theorem ofSql_of_recognize {kind : StatementKind} {text : List Char} {s : Statement}
    (hplain : isPlain kind (normalize text) = true)
    (hread : recognize kind .fast (normalize text) = .ok (some s)) :
    Statement.ofSql (normalize text) = .ok s := by
  obtain ⟨hescapes, hplain⟩ := Bool.and_eq_true_iff.mp hplain
  have htidy := isTidy_normalize hescapes
  cases kind with
  | select => exact ofSql_recognizeSelect htidy hplain hread
  | insert => exact ofSql_recognizeInsert htidy hplain hread
  | update => exact ofSql_recognizeUpdate htidy hplain hread
  | delete => exact ofSql_recognizeDelete htidy hplain hread

/-- Whether a shape reads a statement in a text on the first pass. -/
def isRead (kind : StatementKind) (text : List Char) : Bool :=
  match recognize kind .fast text with
  | .ok (some _) => true
  | _ => false

theorem exists_of_isRead {kind : StatementKind} (hread : isRead kind text = true) :
    ∃ s, recognize kind .fast text = .ok (some s) := by
  unfold isRead at hread
  split at hread
  · exact ⟨_, ‹_›⟩
  · contradiction

theorem ofSql_of_recognize_query :
    ∃ s, recognize .select .fast (normalize
        "SELECT a, b AS c FROM t WHERE a >= 'it''s' ORDER BY b desc ;".toList) = .ok (some s) ∧
      Statement.ofSql (normalize
        "SELECT a, b AS c FROM t WHERE a >= 'it''s' ORDER BY b desc ;".toList) = .ok s := by
  have hread : isRead .select (normalize
      "SELECT a, b AS c FROM t WHERE a >= 'it''s' ORDER BY b desc ;".toList) = true := by
    decide +kernel
  have hplain : isPlain .select (normalize
      "SELECT a, b AS c FROM t WHERE a >= 'it''s' ORDER BY b desc ;".toList) = true := by
    decide +kernel
  obtain ⟨s, hs⟩ := exists_of_isRead hread
  exact ⟨s, hs, ofSql_of_recognize hplain hs⟩

/-- Whether the grammar accepts a text, even if it states nothing that can be expressed. -/
def isAccepted (text : List Char) : Bool :=
  match Statement.ofSql text with
  | .ok _ => true
  | .error fault => fault.isGrammatical

/-- Not every text that a shape reads is plain: a sum among the values of an insertion has an
operator that the grammar cannot express, and the shape takes it for a string. -/
theorem not_forall_ofSql_of_recognize :
    ¬ ∀ kind text s, classify (normalize text) = some kind →
      recognize kind .fast (normalize text) = .ok (some s) → isAccepted (normalize text) = true →
        ∃ t, Statement.ofSql (normalize text) = .ok t ∧ t.toRequest = s.toRequest := by
  intro hagree
  have hread : isRead .insert (normalize "INSERT INTO t (a) VALUES (1 + 1)".toList) = true := by
    decide +kernel
  have hshape :
      classify (normalize "INSERT INTO t (a) VALUES (1 + 1)".toList) = some .insert := by
    decide +kernel
  have haccepted : isAccepted (normalize "INSERT INTO t (a) VALUES (1 + 1)".toList) = true := by
    decide +kernel
  obtain ⟨s, hs⟩ := exists_of_isRead hread
  obtain ⟨t, ht, -⟩ :=
    hagree .insert "INSERT INTO t (a) VALUES (1 + 1)".toList s hshape hs haccepted
  have hrefused :
      (Statement.ofSql (normalize "INSERT INTO t (a) VALUES (1 + 1)".toList)).isOk = false := by
    decide +kernel
  rw [ht] at hrefused
  cases hrefused

end SqlGateway.Shape
