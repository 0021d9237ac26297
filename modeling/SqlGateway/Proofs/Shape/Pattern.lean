import Mathlib.Data.List.Forall2
import SqlGateway.Proofs.Checks
import SqlGateway.Proofs.Shape.Keyword
import SqlGateway.Shape.Recognize

/-!
# What the shapes match

The shape of a change or of a removal matches exactly the texts that consist of a head and of what
may stand behind it, nothing or a condition, and then it returns the parts of the two.  Names and
bare values are as long as they can be; since a head is followed by a space, if by anything, the
parts are the only ones that the text has.
-/

namespace SqlGateway.Shape

open Text

variable {text rest word value : List Char}

/-! ### Keywords -/

/-- Texts that are the same up to case. -/
def SameFold (word text : List Char) : Prop :=
  List.Forall₂ (fun w c => sameFold w c = true) word text

theorem SameFold.refl (word : List Char) : SameFold word word :=
  List.forall₂_same.mpr fun c _ => by simp [sameFold]

theorem dropKeyword?_eq_some :
    dropKeyword? word text = some rest ↔ ∃ front, text = front ++ rest ∧ SameFold word front := by
  induction word generalizing text with
  | nil =>
      constructor
      · intro hdrop
        cases hdrop
        exact ⟨[], rfl, .nil⟩
      · rintro ⟨front, rfl, hfront⟩
        cases hfront
        rfl
  | cons w word ih =>
      constructor
      · intro hdrop
        cases text with
        | nil => contradiction
        | cons c text =>
            rw [dropKeyword?] at hdrop
            split at hdrop
            · rename_i hfold
              obtain ⟨front, rfl, hfront⟩ := ih.mp hdrop
              exact ⟨c :: front, rfl, .cons hfold hfront⟩
            · contradiction
      · rintro ⟨front, rfl, hfront⟩
        obtain ⟨c, further, hc, hfurther, rfl⟩ := List.forall₂_cons_left_iff.mp hfront
        rw [List.cons_append, dropKeyword?, if_pos hc, ih]
        exact ⟨further, rfl, hfurther⟩

theorem dropKeyword?_append {front : List Char} (hfront : SameFold word front) (rest : List Char) :
    dropKeyword? word (front ++ rest) = some rest :=
  dropKeyword?_eq_some.mpr ⟨front, rfl, hfront⟩

theorem dropKeyword?_append_word (word more text : List Char) :
    dropKeyword? (word ++ more) text = (dropKeyword? word text).bind (dropKeyword? more) := by
  induction word generalizing text with
  | nil => rfl
  | cons w word ih =>
      cases text with
      | nil => rfl
      | cons c text =>
          rw [List.cons_append, dropKeyword?, dropKeyword?, ih]
          split <;> rfl

/-! ### Names -/

/-- One or more word characters. -/
structure IsName (word : List Char) : Prop where
  ne_nil : word ≠ []
  parts : ∀ c ∈ word, isWord c = true

theorem readWord?_eq_some :
    readWord? text = some (word, rest) ↔
      text = word ++ rest ∧ IsName word ∧ StopsAt isWord rest := by
  constructor
  · intro hread
    rw [readWord?] at hread
    split at hread
    · contradiction
    · rename_i hempty
      cases hread
      exact ⟨List.takeWhile_append_dropWhile.symm,
        ⟨by simpa using hempty, fun c hc => List.mem_takeWhile_imp hc⟩,
        stopsAt_dropWhile isWord text⟩
  · rintro ⟨rfl, hname, hstops⟩
    rw [readWord?, takeWhile_append_of_stopsAt hname.parts hstops,
      dropWhile_append_of_stopsAt hname.parts hstops]
    simp [hname.ne_nil]

/-! ### The shortest piece -/

theorem shortest?_eq_some {β : Type} {accept : List Char → Option β} {piece : List Char} {found : β}
    (hread : shortest? accept text = some (piece, found)) :
    ∃ rest, text = piece ++ rest ∧ piece ≠ [] ∧ '\n' ∉ piece ∧ accept rest = some found := by
  induction text generalizing piece with
  | nil => contradiction
  | cons c text ih =>
      rw [shortest?] at hread
      split at hread
      · contradiction
      rename_i hline
      split at hread
      · rename_i haccept
        cases hread
        exact ⟨text, rfl, by simp, by simpa using Ne.symm hline, haccept⟩
      · obtain ⟨⟨piece, found⟩, hpiece, heq⟩ := Option.map_eq_some_iff.mp hread
        cases heq
        obtain ⟨rest, rfl, -, hlines, haccept⟩ := ih hpiece
        refine ⟨rest, rfl, by simp, ?_, haccept⟩
        rw [List.mem_cons, not_or]
        exact ⟨Ne.symm hline, hlines⟩

/-- A piece is the shortest if no end of it is accepted together with what follows. -/
theorem shortest?_append {β : Type} {accept : List Char → Option β} {front : List Char} {found : β}
    (hne : front ≠ []) (hline : '\n' ∉ front) (hfound : accept rest = some found)
    (hearlier : ∀ before after, front = before ++ after → after ≠ [] → before ≠ [] →
      accept (after ++ rest) = none) :
    shortest? accept (front ++ rest) = some (front, found) := by
  induction front with
  | nil => exact absurd rfl hne
  | cons c front ih =>
      rw [List.mem_cons, not_or] at hline
      rw [List.cons_append, shortest?, if_neg (Ne.symm hline.1)]
      cases front with
      | nil => rw [List.nil_append, hfound]
      | cons d front =>
          have hnone := hearlier [c] (d :: front) rfl (by simp) (by simp)
          have hshortest := ih (by simp) hline.2 fun before after hsplit hafter _ =>
            hearlier (c :: before) after (by rw [hsplit]; rfl) hafter (by simp)
          rw [hnone, hshortest]
          rfl

/-! ### Spaces -/

/-- Whether a text is empty or begins with a space. -/
def AtSpace (text : List Char) : Prop :=
  ∀ c ∈ text.head?, c = ' '

theorem AtSpace.stopsAt {test : Char → Bool} (hspace : AtSpace text) (htest : test ' ' = false) :
    StopsAt test text := by
  intro c hc
  rw [hspace c hc, htest]

/-- Nothing, or one space. -/
def IsOptionalSpace (text : List Char) : Prop :=
  text = [] ∨ text = [' ']

theorem exists_skipSpace (text : List Char) :
    ∃ gap, text = gap ++ skipSpace text ∧ IsOptionalSpace gap := by
  unfold skipSpace
  split
  · exact ⟨[' '], rfl, .inr rfl⟩
  · exact ⟨[], rfl, .inl rfl⟩

theorem skipSpace_append {gap : List Char} (hgap : IsOptionalSpace gap)
    (hrest : rest.head? ≠ some ' ') : skipSpace (gap ++ rest) = rest := by
  rcases hgap with rfl | rfl
  · unfold skipSpace
    split
    · rename_i hspace
      rw [List.nil_append] at hspace
      rw [hspace] at hrest
      exact absurd rfl hrest
    · rfl
  · rfl

/-! ### Values -/

/-- One value of a change: a text in quotes, the quotes inside doubled, or anything without a blank,
a comma or a quote. -/
inductive IsValueText : List Char → Prop
  | quoted {quote : Char} (content : List Char) : isQuote quote = true →
      IsValueText (quote :: (doubled quote content ++ [quote]))
  | bare {value : List Char} : value ≠ [] → (∀ c ∈ value, isValuePart c = true) →
      IsValueText value

theorem take_length_sub (front rest : List Char) :
    (front ++ rest).take ((front ++ rest).length - rest.length) = front := by
  rw [List.length_append, Nat.add_sub_cancel_right, List.take_left]

theorem isValueText_of_readValue? (hread : readValue? text = some (value, rest)) :
    text = value ++ rest ∧ IsValueText value := by
  cases text with
  | nil => contradiction
  | cons c text =>
      rw [readValue?] at hread
      split at hread
      · rename_i hquote
        obtain ⟨⟨content, behind⟩, hcontent, heq⟩ := Option.map_eq_some_iff.mp hread
        cases heq
        obtain ⟨rfl, -⟩ := readQuoted?_eq_some.mp hcontent
        rw [List.append_cons, take_length_sub]
        exact ⟨by simp, .quoted content hquote⟩
      · simp only at hread
        split at hread
        · contradiction
        · rename_i hempty
          cases hread
          exact ⟨List.takeWhile_append_dropWhile.symm,
            .bare (by simpa using hempty) fun d hd => List.mem_takeWhile_imp hd⟩

theorem readValue?_append (hvalue : IsValueText value) (hspace : AtSpace rest) :
    readValue? (value ++ rest) = some (value, rest) := by
  cases hvalue with
  | @quoted quote content hquote =>
      have hother : rest.head? ≠ some quote := by
        intro hhead
        rw [hspace quote hhead] at hquote
        contradiction
      have hcontent : readQuoted? quote (doubled quote content ++ [quote] ++ rest) =
          some (content, rest) := by
        rw [← List.append_cons]
        exact readQuoted?_doubled hother
      rw [List.cons_append, readValue?, if_pos hquote, hcontent, Option.map_some]
      simp only [take_length_sub]
  | bare hne hparts =>
      cases value with
      | nil => exact absurd rfl hne
      | cons c value =>
          have hc := hparts c List.mem_cons_self
          have hquote : ¬isQuote c = true := by
            intro hquote
            simp [isValuePart, hquote] at hc
          have hstops : StopsAt isValuePart rest := hspace.stopsAt (by decide)
          have htake := takeWhile_append_of_stopsAt hparts hstops
          have hdrop := dropWhile_append_of_stopsAt hparts hstops
          rw [List.cons_append] at htake hdrop ⊢
          rw [readValue?, if_neg hquote, htake, hdrop]
          rfl

theorem head?_value_ne (hvalue : IsValueText value) : (value ++ rest).head? ≠ some ' ' := by
  cases hvalue with
  | quoted content hquote =>
      rintro ⟨rfl⟩
      contradiction
  | bare hne hparts =>
      cases value with
      | nil => exact absurd rfl hne
      | cons c value =>
          rintro ⟨rfl⟩
          exact absurd (hparts ' ' List.mem_cons_self) (by decide)

/-! ### Clauses -/

/-- What may stand behind the head of a change, with the condition in it: nothing, or the word
`WHERE` and a condition on one line. -/
inductive IsClause : List Char → Option (List Char) → Prop
  | none : IsClause [] none
  | condition {marker clause : List Char} : SameFold " WHERE ".toList marker →
      isLine clause = true → IsClause (marker ++ clause) (some clause)

theorem atSpace_append {marker : List Char} (hmarker : SameFold " WHERE ".toList marker) :
    AtSpace (marker ++ rest) := by
  obtain ⟨c, further, hc, -, rfl⟩ := List.forall₂_cons_left_iff.mp hmarker
  intro d hd
  obtain rfl : c = d := by simpa using hd
  exact eq_of_upperChars (.inl rfl) (upperChars_of_sameFold (by decide) hc)

theorem readClause?_append {marker : List Char} (hmarker : SameFold " WHERE ".toList marker) :
    readClause? (marker ++ rest) = if isLine rest then some (some rest) else none := by
  have hempty : (marker ++ rest).isEmpty = false := by
    obtain ⟨c, further, -, -, rfl⟩ := List.forall₂_cons_left_iff.mp hmarker
    rfl
  simp only [readClause?, hempty, Bool.false_eq_true, if_false, dropKeyword?_append hmarker]

theorem IsClause.atSpace {clause : Option (List Char)} (hclause : IsClause text clause) :
    AtSpace text := by
  cases hclause with
  | none => simp [AtSpace]
  | condition hmarker _ => exact atSpace_append hmarker

theorem readClause?_eq_some {clause : Option (List Char)} :
    readClause? text = some clause ↔ IsClause text clause := by
  constructor
  · intro hread
    rw [readClause?] at hread
    split at hread
    · rename_i hempty
      cases hread
      rw [List.isEmpty_iff.mp hempty]
      exact .none
    split at hread
    · rename_i condition hdrop
      split at hread
      · rename_i hline
        cases hread
        obtain ⟨marker, rfl, hmarker⟩ := dropKeyword?_eq_some.mp hdrop
        exact .condition hmarker hline
      · contradiction
    · contradiction
  · intro hclause
    cases hclause with
    | none => rfl
    | condition hmarker hline => rw [readClause?_append hmarker, if_pos hline]

/-! ### Removals -/

/-- The head of a removal. -/
structure IsDeleteHead (head table : List Char) : Prop where
  isName : IsName table
  text : ∃ keyword, SameFold "DELETE FROM ".toList keyword ∧ head = keyword ++ table

theorem DeletePattern.match?_append {head table behind : List Char}
    (hhead : IsDeleteHead head table) (hspace : AtSpace behind) :
    DeletePattern.match? (head ++ behind) =
      (readClause? behind).map fun clause => { table, clause } := by
  obtain ⟨hname, keyword, hkeyword, rfl⟩ := hhead
  have hword : readWord? (table ++ behind) = some (table, behind) :=
    readWord?_eq_some.mpr ⟨rfl, hname, hspace.stopsAt (by decide)⟩
  simp only [DeletePattern.match?, List.append_assoc, dropKeyword?_append hkeyword,
    Option.bind_eq_bind, Option.bind_some, hword, Option.map_eq_bind]
  rfl

theorem DeletePattern.match?_eq_some {found : DeletePattern} :
    DeletePattern.match? text = some found ↔ ∃ head behind, text = head ++ behind ∧
      IsDeleteHead head found.table ∧ IsClause behind found.clause := by
  constructor
  · intro hmatch
    obtain ⟨afterKeyword, hkeyword, hmatch⟩ := Option.bind_eq_some_iff.mp hmatch
    obtain ⟨⟨table, behind⟩, hword, hmatch⟩ := Option.bind_eq_some_iff.mp hmatch
    obtain ⟨clause, hclause, hmatch⟩ := Option.bind_eq_some_iff.mp hmatch
    cases hmatch
    obtain ⟨keyword, rfl, hsame⟩ := dropKeyword?_eq_some.mp hkeyword
    obtain ⟨rfl, hname, -⟩ := readWord?_eq_some.mp hword
    exact ⟨keyword ++ table, behind, (List.append_assoc ..).symm, ⟨hname, keyword, hsame, rfl⟩,
      readClause?_eq_some.mp hclause⟩
  · rintro ⟨head, behind, rfl, hhead, hclause⟩
    rw [DeletePattern.match?_append hhead hclause.atSpace, readClause?_eq_some.mpr hclause]
    rfl

/-! ### Changes -/

/-- The head of a change: the words `UPDATE` and `SET`, and one assignment. -/
structure IsUpdateHead (head table column value : List Char) : Prop where
  isName : IsName table
  isColumn : IsName column
  isValue : IsValueText value
  text : ∃ update set before behind, SameFold "UPDATE ".toList update ∧
    SameFold " SET ".toList set ∧ IsOptionalSpace before ∧ IsOptionalSpace behind ∧
      head = update ++ (table ++ (set ++ (column ++ (before ++ '=' :: (behind ++ value)))))

theorem UpdatePattern.matchWith?_append {head table column value behind : List Char}
    {value? : List Char → Option (List Char × List Char)}
    (hhead : IsUpdateHead head table column value)
    (hread : value? (value ++ behind) = some (value, behind)) :
    UpdatePattern.matchWith? value? (head ++ behind) =
      (readClause? behind).map fun clause => { table, column, value, clause } := by
  obtain ⟨htable, hcolumn, hvalue, update, set, before, gap, hupdate, hset, hbefore, hgap, rfl⟩ :=
    hhead
  have hgapRead : skipSpace (gap ++ (value ++ behind)) = value ++ behind :=
    skipSpace_append hgap (head?_value_ne hvalue)
  have hsign : skipSpace (before ++ '=' :: (gap ++ (value ++ behind))) =
      '=' :: (gap ++ (value ++ behind)) := skipSpace_append hbefore (by simp)
  have hstops : StopsAt isWord (before ++ '=' :: (gap ++ (value ++ behind))) := by
    rcases hbefore with rfl | rfl
    · exact stopsAt_cons.mpr (by decide)
    · exact stopsAt_cons.mpr (by decide)
  have hcolumnRead := readWord?_eq_some.mpr ⟨rfl, hcolumn, hstops⟩
  have hsetStops : StopsAt isWord
      (set ++ (column ++ (before ++ '=' :: (gap ++ (value ++ behind))))) := by
    obtain ⟨c, further, hc, -, rfl⟩ := List.forall₂_cons_left_iff.mp hset
    rw [eq_of_upperChars (.inl rfl) (upperChars_of_sameFold (by decide) hc)]
    exact stopsAt_cons.mpr (by decide)
  have htableRead := readWord?_eq_some.mpr ⟨rfl, htable, hsetStops⟩
  simp only [UpdatePattern.matchWith?, List.append_assoc, List.cons_append, Option.bind_eq_bind,
    Option.bind_some, dropKeyword?_append hupdate, htableRead, dropKeyword?_append hset,
    hcolumnRead, hsign, hgapRead, hread, Option.map_eq_bind]
  rfl

theorem UpdatePattern.match?_append {head table column value behind : List Char}
    (hhead : IsUpdateHead head table column value) (hspace : AtSpace behind) :
    UpdatePattern.match? (head ++ behind) =
      (readClause? behind).map fun clause => { table, column, value, clause } :=
  matchWith?_append hhead (readValue?_append hhead.isValue hspace)

theorem UpdatePattern.match?_eq_some {found : UpdatePattern} :
    UpdatePattern.match? text = some found ↔ ∃ head behind, text = head ++ behind ∧
      IsUpdateHead head found.table found.column found.value ∧ IsClause behind found.clause := by
  constructor
  · intro hmatch
    obtain ⟨afterUpdate, hupdate, hmatch⟩ := Option.bind_eq_some_iff.mp hmatch
    obtain ⟨⟨table, afterTable⟩, htable, hmatch⟩ := Option.bind_eq_some_iff.mp hmatch
    obtain ⟨afterSet, hset, hmatch⟩ := Option.bind_eq_some_iff.mp hmatch
    obtain ⟨⟨column, afterColumn⟩, hcolumn, hmatch⟩ := Option.bind_eq_some_iff.mp hmatch
    simp only at hmatch
    split at hmatch
    · rename_i afterSign hsign
      obtain ⟨⟨value, behind⟩, hvalue, hmatch⟩ := Option.bind_eq_some_iff.mp hmatch
      obtain ⟨clause, hclause, hmatch⟩ := Option.bind_eq_some_iff.mp hmatch
      cases hmatch
      obtain ⟨update, rfl, hupdateSame⟩ := dropKeyword?_eq_some.mp hupdate
      obtain ⟨rfl, htableName, -⟩ := readWord?_eq_some.mp htable
      obtain ⟨set, rfl, hsetSame⟩ := dropKeyword?_eq_some.mp hset
      obtain ⟨rfl, hcolumnName, -⟩ := readWord?_eq_some.mp hcolumn
      obtain ⟨hvalueSplit, hvalueText⟩ := isValueText_of_readValue? hvalue
      obtain ⟨before, hbefore, hbeforeSpace⟩ := exists_skipSpace afterColumn
      obtain ⟨gap, hgap, hgapSpace⟩ := exists_skipSpace afterSign
      refine ⟨update ++ (table ++ (set ++ (column ++ (before ++ '=' :: (gap ++ value))))), behind,
        ?_, ⟨htableName, hcolumnName, hvalueText, update, set, before, gap, hupdateSame, hsetSame,
          hbeforeSpace, hgapSpace, rfl⟩, readClause?_eq_some.mp hclause⟩
      simp only [List.append_assoc, List.cons_append]
      rw [← hvalueSplit, ← hgap, ← hsign, ← hbefore]
    · contradiction
  · rintro ⟨head, behind, rfl, hhead, hclause⟩
    rw [UpdatePattern.match?_append hhead hclause.atSpace, readClause?_eq_some.mpr hclause]
    rfl

/-! ### Filters -/

variable {pass : Pass} {kind : StatementKind} {clause : Option (List Char)}
  {filter : Option Predicate} {s : Statement}

theorem readFilter_eq_ok :
    readFilter pass kind clause = .ok (some filter) ↔
      (clause = none ∧ filter = none) ∨ ∃ text condition, clause = some text ∧
        readCondition? text = some condition ∧ filter = some (.compare condition) := by
  cases clause with
  | none => simp [readFilter, eq_comm]
  | some text =>
      cases hread : readCondition? text with
      | none => cases pass <;> simp [readFilter, hread, notApplicable]
      | some condition => simp [readFilter, hread, eq_comm]

/-- A statement is made of a filter once the filter is read. -/
theorem statement_of_readFilter {build : Option Predicate → Statement} : (do
    let filter? ← readFilter pass kind clause
    return filter?.map build) = .ok (some s) ↔
      ∃ filter, readFilter pass kind clause = .ok (some filter) ∧ s = build filter := by
  rw [bind_eq_ok]
  constructor
  · rintro ⟨filter?, hfilter, hstatement⟩
    obtain ⟨filter, rfl, rfl⟩ := Option.map_eq_some_iff.mp (pure_eq_ok.mp hstatement)
    exact ⟨filter, hfilter, rfl⟩
  · rintro ⟨filter, hfilter, rfl⟩
    exact ⟨some filter, hfilter, rfl⟩

/-! ### Insertions -/

/-- The text of an insertion: a table, and its columns and one row in parentheses. -/
structure IsInsertText (text : List Char) (found : InsertPattern) : Prop where
  isName : IsName found.table
  columns_ne_nil : found.columns ≠ []
  isPlain : ∀ c ∈ found.columns, c ≠ ')'
  isLine : isLine found.values = true
  text : ∃ insert before marker behind, SameFold "INSERT INTO ".toList insert ∧
    SameFold ") VALUES".toList marker ∧ IsOptionalSpace before ∧ IsOptionalSpace behind ∧
      text = insert ++ (found.table ++ (before ++ '(' :: (found.columns ++ (marker ++
        (behind ++ '(' :: (found.values ++ [')']))))))

theorem InsertPattern.match?_eq_some {found : InsertPattern} :
    InsertPattern.match? text = some found ↔ IsInsertText text found := by
  constructor
  · intro hmatch
    obtain ⟨afterInsert, hinsert, hmatch⟩ := Option.bind_eq_some_iff.mp hmatch
    obtain ⟨⟨table, afterTable⟩, htable, hmatch⟩ := Option.bind_eq_some_iff.mp hmatch
    simp only at hmatch
    split at hmatch
    swap
    · contradiction
    rename_i afterOpening hopening
    obtain ⟨afterMarker, hmarker, hmatch⟩ := Option.bind_eq_some_iff.mp hmatch
    split at hmatch
    swap
    · contradiction
    rename_i row hrow
    split at hmatch
    swap
    · contradiction
    rename_i hends
    cases hmatch
    simp only [Bool.and_eq_true, Bool.not_eq_true', List.isEmpty_eq_false_iff, beq_iff_eq] at hends
    obtain ⟨⟨hne, hlast⟩, hline⟩ := hends
    obtain ⟨values, rfl⟩ := List.getLast?_eq_some_iff.mp hlast
    -- each part is given back in front of what was left behind it
    obtain ⟨insert, rfl, hinsertSame⟩ := dropKeyword?_eq_some.mp hinsert
    obtain ⟨rfl, hname, -⟩ := readWord?_eq_some.mp htable
    obtain ⟨before, hbefore, hbeforeSpace⟩ := exists_skipSpace afterTable
    obtain ⟨marker, hsplit, hmarkerSame⟩ := dropKeyword?_eq_some.mp hmarker
    obtain ⟨behind, hbehind, hbehindSpace⟩ := exists_skipSpace afterMarker
    have hcolumns := List.takeWhile_append_dropWhile (p := (· != ')')) (l := afterOpening)
    refine ⟨hname, hne, fun c hc => by simpa using List.mem_takeWhile_imp hc, hline, insert, before,
      marker, behind, hinsertSame, hmarkerSame, hbeforeSpace, hbehindSpace, ?_⟩
    rw [List.dropLast_concat, ← hrow, ← hbehind, ← hsplit, hcolumns, ← hopening, ← hbefore]
  · rintro ⟨hname, hne, hplain, hline, insert, before, marker, behind, hinsert, hmarker, hbefore,
      hbehind, rfl⟩
    -- and each part ends where it was written to end
    have hsign : skipSpace (before ++ '(' :: (found.columns ++ (marker ++
        (behind ++ '(' :: (found.values ++ [')']))))) = '(' :: (found.columns ++ (marker ++
          (behind ++ '(' :: (found.values ++ [')'])))) := skipSpace_append hbefore (by simp)
    have hrow : skipSpace (behind ++ '(' :: (found.values ++ [')'])) =
        '(' :: (found.values ++ [')']) := skipSpace_append hbehind (by simp)
    have hstops : StopsAt isWord (before ++ '(' :: (found.columns ++ (marker ++
        (behind ++ '(' :: (found.values ++ [')']))))) := by
      rcases hbefore with rfl | rfl
      · exact stopsAt_cons.mpr (by decide)
      · exact stopsAt_cons.mpr (by decide)
    have htable := readWord?_eq_some.mpr ⟨rfl, hname, hstops⟩
    have hcolumns : ∀ c ∈ found.columns, (c != ')') = true :=
      fun c hc => bne_iff_ne.mpr (hplain c hc)
    have hclosing : StopsAt (· != ')') (marker ++ (behind ++ '(' :: (found.values ++ [')']))) := by
      obtain ⟨c, further, hc, -, rfl⟩ := List.forall₂_cons_left_iff.mp hmarker
      rw [eq_of_upperChars (.inr rfl) (upperChars_of_sameFold (by decide) hc)]
      exact stopsAt_cons.mpr (by decide)
    simp only [InsertPattern.match?, dropKeyword?_append hinsert, Option.bind_eq_bind,
      Option.bind_some, htable, hsign, takeWhile_append_of_stopsAt hcolumns hclosing,
      dropWhile_append_of_stopsAt hcolumns hclosing, dropKeyword?_append hmarker, hrow,
      List.getLast?_concat, List.dropLast_concat, hline]
    simp [hne]

end SqlGateway.Shape
