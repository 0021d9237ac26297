import SqlGateway.Proofs.Shape.Values

/-!
# Plain fragments

The lists and the condition of a plain statement are cut into tokens that state what the shape reads
in them.  A list is read item by item, so what is known of the items carries over to the list.
-/

namespace SqlGateway.Shape

open Text Sql Sql.Parser

variable {α : Type} {item : Step α} {isItem : List Token → α → Prop} {test : List Char → Bool}
  {text left : List Char} {values : List α} {wordFollows : Bool}

/-! ### Gaps -/

theorem isBlank_of_isGap {c : Char} (hc : isGap c = true) : isBlank c = true := by
  simp only [isGap, Bool.or_eq_true, beq_iff_eq] at hc
  rcases hc with rfl | rfl <;> decide

/-- What is skipped before a text is blank. -/
theorem exists_gap (text : List Char) :
    ∃ gap, text = gap ++ skipGap text ∧ ∀ c ∈ gap, isBlank c = true :=
  ⟨text.takeWhile isGap, List.takeWhile_append_dropWhile.symm,
    fun _ hc => isBlank_of_isGap (List.mem_takeWhile_imp hc)⟩

theorem isGap_eq_false {c : Char} (hc : isBlank c = false) : isGap c = false := by
  cases hgap : isGap c with
  | false => rfl
  | true => exact absurd (isBlank_of_isGap hgap) (by simp [hc])

theorem skipGap_cons {c : Char} (hc : isGap c = false) : skipGap (c :: text) = c :: text := by
  simp [skipGap, hc]

theorem skipGap_eq_self (hhead : ∀ c ∈ text.head?, isGap c = false) : skipGap text = text := by
  cases text with
  | nil => rfl
  | cons c text => exact skipGap_cons (hhead c rfl)

theorem skipGap_append {lead : List Char} (hlead : ∀ c ∈ lead, isGap c = true)
    (text : List Char) : skipGap (lead ++ text) = skipGap text := by
  rw [skipGap, List.dropWhile_append_of_pos hlead]
  rfl

/-- Every text is a gap and what is left without it, which begins with no gap. -/
theorem exists_skipGap (text : List Char) :
    ∃ lead, text = lead ++ skipGap text ∧ (∀ c ∈ lead, isGap c = true) ∧
      ∀ c ∈ (skipGap text).head?, isGap c = false :=
  ⟨text.takeWhile isGap, List.takeWhile_append_dropWhile.symm,
    fun _ hc => List.mem_takeWhile_imp hc, stopsAt_dropWhile isGap text⟩

theorem exists_of_skipComma? (hskip : skipComma? text = some left) :
    ∃ rest, skipGap text = ',' :: rest ∧ left = skipGap rest := by
  rw [skipComma?] at hskip
  split at hskip
  · rename_i rest hcomma
    exact ⟨rest, hcomma, (Option.some.inj hskip).symm⟩
  · contradiction

theorem exists_skipComma? (hskip : skipComma? text = some left) :
    ∃ lead gap, text = lead ++ ',' :: (gap ++ left) ∧ (∀ c ∈ lead, isBlank c = true) ∧
      ∀ c ∈ gap, isBlank c = true := by
  obtain ⟨rest, hcomma, rfl⟩ := exists_of_skipComma? hskip
  obtain ⟨lead, hsplit, hlead⟩ := exists_gap text
  obtain ⟨gap, hrest, hgap⟩ := exists_gap rest
  exact ⟨lead, gap, by rw [← hrest, ← hcomma, ← hsplit], hlead, hgap⟩

/-! ### Lists -/

/-- What is known of the items of a reader: what it takes is cut into tokens that state an item. -/
def TokensOf (item : Step α) (isItem : List Token → α → Prop) : Prop :=
  ∀ text value rest, item text = some (value, rest) →
    ∃ front written, text = front ++ rest ∧ isItem written value ∧ Writes front written

theorem TokensOf.padded (hitem : TokensOf item isItem) : TokensOf (padded item) isItem := by
  intro text value rest hread
  obtain ⟨⟨value, behind⟩, hinner, heq⟩ := Option.map_eq_some_iff.mp hread
  cases heq
  obtain ⟨front, written, hfront, hmeaning, hwrites⟩ := hitem _ _ _ hinner
  obtain ⟨lead, hlead, hleadBlank⟩ := exists_gap text
  obtain ⟨rear, hrear, hrearBlank⟩ := exists_gap behind
  refine ⟨lead ++ (front ++ rear), written, ?_, hmeaning, hwrites.padded hleadBlank hrearBlank⟩
  rw [List.append_assoc, List.append_assoc, ← hrear, ← hfront, ← hlead]

/-- Further items are cut into their tokens with a comma before each. -/
theorem TokensOf.exists_further (hitem : TokensOf item isItem) {rounds : Nat}
    (hread : readFurther item rounds text = (values, left)) :
    ∃ front items, text = front ++ left ∧ List.Forall₂ isItem items values ∧
      ∀ rest tokens, Breaks rest → Reads rest tokens → Breaks (front ++ rest) ∧
        Reads (front ++ rest) (items.flatMap (.symbol "," :: ·) ++ tokens) := by
  induction rounds generalizing text values with
  | zero =>
      cases hread
      exact ⟨[], [], rfl, .nil, fun _ _ hbreaks hreads => ⟨hbreaks, hreads⟩⟩
  | succ rounds ih =>
      rw [readFurther] at hread
      split at hread
      · cases hread
        exact ⟨[], [], rfl, .nil, fun _ _ hbreaks hreads => ⟨hbreaks, hreads⟩⟩
      rename_i behind hcomma
      split at hread
      · cases hread
        exact ⟨[], [], rfl, .nil, fun _ _ hbreaks hreads => ⟨hbreaks, hreads⟩⟩
      rename_i value behindItem hvalue
      obtain ⟨lead, gap, hsplit, hlead, hgap⟩ := exists_skipComma? hcomma
      obtain ⟨first, written, hfirst, hmeaning, hwrites⟩ := hitem _ _ _ hvalue
      rcases hrest : readFurther item rounds behindItem with ⟨further, tail⟩
      rw [hrest] at hread
      cases hread
      obtain ⟨front, items, hfront, hitems, hfurther⟩ := ih hrest
      refine ⟨lead ++ ',' :: (gap ++ (first ++ front)), written :: items, ?_,
        .cons hmeaning hitems, fun rest tokens hbreaks hreads => ?_⟩
      · simp only [List.append_assoc, List.cons_append]
        rw [← hfront, ← hfirst, hsplit]
      -- the items behind are cut first, so this one is known to end before them
      obtain ⟨hbreaksFurther, hreadsFurther⟩ := hfurther rest tokens hbreaks hreads
      have hreadsItem := hwrites _ _ hbreaksFurther hreadsFurther
      have hreadsComma := Reads.sign "," (by decide) (by simp [extenders])
        (Reads.gap hgap hreadsItem)
      simp only [List.append_assoc, List.cons_append, List.flatMap_cons]
      refine ⟨?_, Reads.gap hlead hreadsComma⟩
      exact breaks_append (fun c hc => isBreak_of_isBlank (hlead c hc))
        (breaks_cons.mpr (by decide))

/-- A list is cut into the tokens of its items with commas between them. -/
theorem TokensOf.exists_list (hitem : TokensOf item isItem)
    (hread : readWholeList? item text = some values) :
    ∃ items, items ≠ [] ∧ List.Forall₂ isItem items values ∧ Writes text (commaTokens items) := by
  rw [readWholeList?, readList?] at hread
  split at hread
  · rename_i hlist
    split at hlist
    · contradiction
    · rename_i first rest hfirst
      cases hread
      obtain ⟨lead, written, hsplit, hmeaning, hwrites⟩ := hitem.padded _ _ _ hfirst
      rcases hrest : readFurther (Shape.padded item) rest.length rest with ⟨further, tail⟩
      rw [hrest] at hlist
      cases hlist
      obtain ⟨front, items, hfront, hitems, hfurther⟩ := hitem.padded.exists_further hrest
      refine ⟨written :: items, List.cons_ne_nil _ _, .cons hmeaning hitems, ?_⟩
      intro behind tokens hbreaks hreads
      rw [List.append_nil] at hfront
      obtain ⟨hbreaksFurther, hreadsFurther⟩ := hfurther behind tokens hbreaks hreads
      rw [hsplit, hfront, commaTokens, List.append_assoc, List.append_assoc]
      exact hwrites _ _ hbreaksFurther hreadsFurther
  · contradiction

/-! ### Tested items -/

theorem passing_eq_some {value : α} (hread : passing test item text = some (value, left)) :
    test text = true ∧ item text = some (value, left) := by
  rw [passing] at hread
  split at hread
  · rename_i htest
    exact ⟨htest, hread⟩
  · contradiction

theorem padded_of_passing {value : α}
    (hread : padded (passing test item) text = some (value, left)) :
    padded item text = some (value, left) := by
  obtain ⟨⟨value, behind⟩, hinner, heq⟩ := Option.map_eq_some_iff.mp hread
  cases heq
  rw [padded, (passing_eq_some hinner).2]
  rfl

theorem readFurther_of_passing {rounds : Nat}
    (hread : readFurther (padded (passing test item)) rounds text = (values, [])) :
    readFurther (padded item) rounds text = (values, []) := by
  induction rounds generalizing text values with
  | zero => exact hread
  | succ rounds ih =>
      rw [readFurther] at hread ⊢
      split at hread
      · exact hread
      rename_i behind hcomma
      split at hread
      · cases hread
        contradiction
      · rename_i value rest hvalue
        obtain ⟨hvalues, hleft⟩ := Prod.mk.inj hread
        rw [padded_of_passing hvalue]
        have hrest := ih (Prod.ext rfl hleft)
        simp only [hrest, ← hvalues]

/-- A list that is read with a test on each item is read so without it. -/
theorem readWholeList?_of_passing (hread : readWholeList? (passing test item) text = some values) :
    readWholeList? item text = some values := by
  rw [readWholeList?, readList?] at hread ⊢
  split at hread
  · rename_i hlist
    split at hlist
    · contradiction
    · rename_i first rest hfirst
      cases hread
      simp only [Option.some.injEq, Prod.mk.injEq] at hlist
      have hfurther := readFurther_of_passing (Prod.ext rfl hlist.2)
      rw [padded_of_passing hfirst]
      simp only [hfurther, ← hlist.1]
  · contradiction

/-! ### Columns and rows -/

theorem readName?_eq_some_iff {name : List Char} : readName? text = some (name, left) ↔
    text = name ++ left ∧ name ≠ [] ∧ (∀ c ∈ name, isNamePart c = true) ∧
      StopsAt isNamePart left := by
  constructor
  · intro hread
    rw [readName?] at hread
    split at hread
    · contradiction
    · rename_i hempty
      cases hread
      exact ⟨List.takeWhile_append_dropWhile.symm, by simpa using hempty,
        fun c hc => List.mem_takeWhile_imp hc, stopsAt_dropWhile isNamePart text⟩
  · rintro ⟨rfl, hne, hparts, hstops⟩
    rw [readName?, takeWhile_append_of_stopsAt hparts hstops,
      dropWhile_append_of_stopsAt hparts hstops]
    simp [hne]

theorem readName?_eq_some {name : List Char} (hread : readName? text = some (name, left)) :
    text = name ++ left ∧ text.takeWhile isNamePart = name := by
  obtain ⟨rfl, -, hparts, hstops⟩ := readName?_eq_some_iff.mp hread
  exact ⟨rfl, takeWhile_append_of_stopsAt hparts hstops⟩

/-- The columns of an insertion are single words. -/
theorem tokensOf_column :
    TokensOf (passing isPlainColumn readName?)
      fun written name => written = [.word (.bare name)] := by
  intro text name rest hread
  obtain ⟨hplain, hname⟩ := passing_eq_some hread
  obtain ⟨hsplit, htake⟩ := readName?_eq_some hname
  rw [isPlainColumn, htake] at hplain
  exact ⟨name, _, hsplit, rfl, writes_word hplain⟩

theorem readString?_eq_some {inner : List Char} (hread : readString? text = some (inner, left)) :
    ∃ quote, isQuote quote = true ∧ text = (quote :: (doubled quote inner ++ [quote])) ++ left := by
  cases text with
  | nil => contradiction
  | cons quote text =>
      rw [readString?] at hread
      split at hread
      · rename_i hquote
        obtain ⟨hsplit, -⟩ := readQuoted?_eq_some.mp hread
        exact ⟨quote, hquote, by simp [hsplit]⟩
      · contradiction

/-- The items of a row are strings or plain tokens. -/
theorem tokensOf_item : TokensOf (passing isPlainItem readItem?) (IsValue false) := by
  intro text value rest hread
  obtain ⟨hplain, hitem⟩ := passing_eq_some hread
  rw [readItem?] at hitem
  split at hitem
  · rename_i inner behind hstring
    cases hitem
    obtain ⟨quote, hquote, hsplit⟩ := readString?_eq_some hstring
    exact ⟨_, _, hsplit, .string quote _, writes_string _ hquote⟩
  · rename_i hstring
    simp only at hitem
    split at hitem
    · contradiction
    · cases hitem
      rw [isPlainItem, hstring, Option.isSome_none, Bool.false_or] at hplain
      obtain ⟨written, hmeaning, hwrites⟩ := exists_of_isPlainToken hplain
      exact ⟨_, written, List.takeWhile_append_dropWhile.symm, hmeaning, hwrites.of_trim⟩

/-- The columns of a plain insertion. -/
theorem exists_columns {columns : List String} (hread : readColumns? text = some columns)
    (hplain : (match readWholeList? (passing isPlainColumn readName?) (trim text) with
      | some (first :: _) => (Word.bare first).keyword != "SELECT"
      | _ => false) = true) :
    ∃ names : List Word, names ≠ [] ∧ names.map Word.text = columns ∧
      (∀ w ∈ names.head?, w.keyword ≠ "SELECT") ∧
      Writes text (commaTokens (names.map fun w => [.word w])) := by
  split at hplain
  · rename_i first further hlist
    obtain ⟨items, -, hitems, hwrites⟩ := tokensOf_column.exists_list hlist
    have hwords : items = (first :: further).map fun name => [.word (.bare name)] := by
      have heq := List.forall₂_map_right_iff.mpr hitems
      rwa [List.forall₂_eq_eq_eq] at heq
    rw [readColumns?, readWholeList?_of_passing hlist] at hread
    cases hread
    refine ⟨(first :: further).map Word.bare, by simp, by simp [Word.bare],
      by simpa using hplain, Writes.of_trim ?_⟩
    rw [List.map_map]
    rwa [hwords] at hwrites
  · contradiction

theorem readWholeList?_of_readValues {row : List Value} (hread : readValues text = .ok row) :
    readWholeList? readItem? (trim text) = some row := by
  rw [readValues] at hread
  rw [readWholeList?]
  split at hread
  · rename_i hlist
    cases hread
    rw [hlist]
  · contradiction
  · contradiction

/-- The row of a plain insertion. -/
theorem exists_row {row : List Value} (hread : readValues text = .ok row)
    (hplain : (readWholeList? (passing isPlainItem readItem?) (trim text)).isSome = true) :
    ∃ items, items ≠ [] ∧ List.Forall₂ (IsValue false) items row ∧
      Writes text (commaTokens items) := by
  obtain ⟨values, hlist⟩ := Option.isSome_iff_exists.mp hplain
  obtain ⟨items, hne, hitems, hwrites⟩ := tokensOf_item.exists_list hlist
  have hsame := readWholeList?_of_passing hlist
  rw [readWholeList?_of_readValues hread] at hsame
  cases hsame
  exact ⟨items, hne, hitems, hwrites.of_trim⟩

/-! ### Select lists -/

/-- The tokens of an entry of a select list that is read as the given column. -/
def IsField (written : List Token) (column : SelectColumn) : Prop :=
  ∃ entry : Entry, entry.IsPlain ∧ (∃ name, entry.column = .bare name) ∧ entry.words = written ∧
    entry.selectColumn = column

theorem readFieldName?_eq_some {name : List Char}
    (hread : readFieldName? text = some (name, left)) :
    text = name ++ left := by
  obtain ⟨hname, -⟩ := Option.filter_eq_some_iff.mp hread
  exact (readName?_eq_some hname).1

theorem Writes.word_gap {word gap front : List Char} {written : List Token}
    (hwrites : Writes front written) (hword : isOneWord word = true)
    (hgap : ∀ c ∈ gap, isGap c = true) (hne : gap ≠ []) :
    Writes (word ++ (gap ++ front)) (.word (.bare word) :: written) := by
  have hblank : ∀ c ∈ gap, isBlank c = true := fun c hc => isBlank_of_isGap (hgap c hc)
  intro rest tokens hbreaks hreads
  rw [List.append_assoc, List.append_assoc]
  refine Reads.word hword ?_ (Reads.gap hblank (hwrites rest tokens hbreaks hreads))
  exact breaks_append_of_ne_nil (fun c hc => isBreak_of_isBlank (hblank c hc)) hne

/-- At a gap something is skipped. -/
theorem exists_gap_of_isGap {c : Char} (hc : isGap c = true) (text : List Char) :
    ∃ gap, c :: text = gap ++ skipGap text ∧ gap ≠ [] ∧ ∀ d ∈ gap, isGap d = true := by
  obtain ⟨gap, hsplit, hgap, -⟩ := exists_skipGap text
  refine ⟨c :: gap, by rw [List.cons_append, ← hsplit], List.cons_ne_nil _ _, ?_⟩
  exact List.forall_mem_cons.mpr ⟨hc, hgap⟩

theorem isNamePart_toLower (c : Char) : isNamePart c.toLower = isNamePart c := by
  by_cases hc : c.toNat < 128
  · exact forall_ascii (p := fun c => isNamePart c.toLower = isNamePart c) (by decide +kernel) hc
  · rw [toLower_eq_self hc]

/-- A word in letters of any case is made of parts of names if the word itself is. -/
theorem isNamePart_of_isWordOf {keyword : String} {word : List Char}
    (hkeyword : ∀ c ∈ keyword.toList, isNamePart c = true)
    (hword : Value.isWordOf keyword word = true) : ∀ c ∈ word, isNamePart c = true := by
  have hsame : word.map Char.toLower = keyword.toList.map Char.toLower := beq_iff_eq.mp hword
  intro c hc
  have hlower : c.toLower ∈ keyword.toList.map Char.toLower :=
    hsame ▸ List.mem_map_of_mem hc
  obtain ⟨d, hd, heq⟩ := List.mem_map.mp hlower
  rw [← isNamePart_toLower, ← heq, isNamePart_toLower]
  exact hkeyword d hd

/-- The word `AS` and the gap behind it are skipped, or nothing is. -/
theorem skipAs_cases (text : List Char) : skipAs text = text ∨
    ∃ marker gap, text = marker ++ (gap ++ skipAs text) ∧ Value.isWordOf "AS" marker = true ∧
      gap ≠ [] ∧ ∀ c ∈ gap, isGap c = true := by
  unfold skipAs
  split
  · rename_i a s c rest
    split
    · rename_i hmarker
      obtain ⟨hword, hc⟩ := Bool.and_eq_true_iff.mp hmarker
      obtain ⟨gap, hsplit, hne, hgap⟩ := exists_gap_of_isGap hc rest
      have hskip : skipGap (c :: rest) = skipGap rest := List.dropWhile_cons_of_pos hc
      refine .inr ⟨[a, s], gap, ?_, hword, hne, hgap⟩
      rw [hskip, ← hsplit]
      rfl
    · exact .inl rfl
  · exact .inl rfl

/-- A label stands behind a gap, with the word `AS` before it or without. -/
theorem exists_label {label : List Char} (hread : readLabel? text = some (label, left))
    (hplain : (isOneWord label &&
      (hasMarker text || !unlabelling.contains (Word.bare label).keyword)) = true) :
    ∃ (marker : Option Word) (front : List Char), text = front ++ left ∧
      (∀ m ∈ marker, m.keyword = "AS") ∧
      (marker = none → (Word.bare label).keyword ∉ unlabelling) ∧
      ∀ name, isOneWord name = true → Writes (name ++ front)
        (.word (.bare name) :: (marker.toList.map .word ++ [.word (.bare label)])) := by
  obtain ⟨hone, hmarked⟩ := Bool.and_eq_true_iff.mp hplain
  cases text with
  | nil => contradiction
  | cons c text =>
      rw [readLabel?] at hread
      split at hread
      · rename_i hc
        obtain ⟨gap, hsplit, hgapNe, hgap⟩ := exists_gap_of_isGap hc text
        have hlabel := readFieldName?_eq_some hread
        have hskip : skipGap (c :: text) = skipGap text := List.dropWhile_cons_of_pos hc
        rcases skipAs_cases (skipGap text) with
          hnone | ⟨marker, further, hmarker, hword, hne, hmore⟩
        · refine ⟨none, gap ++ label, ?_, by simp, fun _ => ?_, fun name hname =>
            (writes_word hone).word_gap hname hgap hgapNe⟩
          · rw [List.append_assoc, ← hlabel, hnone, ← hsplit]
          · simpa [hasMarker, hskip, hnone] using hmarked
        · have has : IsKeyword "AS" marker := isKeyword_of_isWordOf (by decide) hword
          refine ⟨some (.bare marker), gap ++ (marker ++ (further ++ label)), ?_,
            by simpa using has.keyword_eq, by simp, fun name hname =>
            ((writes_word hone).word_gap has.oneWord hmore hne).word_gap hname hgap hgapNe⟩
          simp only [List.append_assoc]
          rw [← hlabel, ← hmarker, ← hsplit]
      · contradiction

/-- An entry of a plain select list is read as such. -/
theorem tokensOf_field : TokensOf (passing isPlainField readField?) IsField := by
  intro text column left hread
  obtain ⟨hplain, hfield⟩ := passing_eq_some hread
  rw [readField?] at hfield
  split at hfield
  · contradiction
  rename_i name rest hname
  have hsplit := readFieldName?_eq_some hname
  rw [isPlainField, hname] at hplain
  obtain ⟨hcolumn, hlabelled⟩ := Bool.and_eq_true_iff.mp hplain
  have hone := isOneWord_of_isNameBut hcolumn
  have hforms := not_mem_of_isNameBut hcolumn
  rw [List.mem_cons, not_or] at hforms
  have hbare : isBareFrom (Word.bare name).ident = false := by
    have hfrom : upper name ≠ "FROM".toList := fun heq => hforms.1 (by rw [Word.bare, heq]; rfl)
    simpa [isBareFrom, Word.ident, Word.bare] using hfrom
  cases hread : readLabel? rest with
  | none =>
      rw [hread] at hfield
      cases hfield
      refine ⟨name, _, hsplit, ⟨{ column := .bare name, label := none }, ?_, ⟨name, rfl⟩, rfl, rfl⟩,
        writes_word hone⟩
      exact ⟨hforms.2, hbare, by simp, by simp⟩
  | some found =>
      obtain ⟨label, behind⟩ := found
      rw [hread] at hfield hlabelled
      cases hfield
      obtain ⟨marker, front, hlabel, hmarker, himplicit, hwrites⟩ := exists_label hread hlabelled
      refine ⟨name ++ front, _, ?_,
        ⟨{ column := .bare name, label := some (marker, .bare label) }, ?_, ⟨name, rfl⟩, rfl, rfl⟩,
        hwrites name hone⟩
      · rw [List.append_assoc, ← hlabel, ← hsplit]
      · exact ⟨hforms.2, hbare, by simpa using hmarker, by simpa using himplicit⟩

theorem exists_entries {items : List (List Token)} {columns : List SelectColumn}
    (hitems : List.Forall₂ IsField items columns) : ∃ entries : List Entry,
      entries.map Entry.words = items ∧ entries.map Entry.selectColumn = columns ∧
        (∀ entry ∈ entries, entry.IsPlain) ∧
        ∀ entry ∈ entries, ∃ name, entry.column = .bare name := by
  induction hitems with
  | nil => exact ⟨[], rfl, rfl, by simp, by simp⟩
  | cons hfield _ ih =>
      obtain ⟨entry, hplain, hname, rfl, rfl⟩ := hfield
      obtain ⟨entries, rfl, rfl, hplains, hnames⟩ := ih
      exact ⟨entry :: entries, rfl, rfl, List.forall_mem_cons.mpr ⟨hplain, hplains⟩,
        List.forall_mem_cons.mpr ⟨hname, hnames⟩⟩

theorem writes_star : Writes ['*'] [.symbol "*"] :=
  fun _ _ _ hreads => Reads.sign "*" (by decide) (by simp [extenders]) hreads

/-- The columns of a plain query. -/
theorem exists_fields {columns : List SelectColumn} (hread : readFields? text = some columns)
    (hplain : (trim text == ['*'] ||
      match readWholeList? (passing isPlainField readField?) (trim text) with
      | some columns => startsPlainly columns
      | none => false) = true) :
    ∃ written, IsFields written columns ∧ Writes text written := by
  rw [readFields?] at hread
  split at hread
  · rename_i hstar
    cases hread
    refine ⟨_, isFields_star, Writes.of_trim ?_⟩
    rw [hstar]
    exact writes_star
  · rename_i hstar
    rw [Bool.or_eq_true_iff, beq_iff_eq] at hplain
    have hplain := hplain.resolve_left hstar
    split at hplain
    · rename_i found hlist
      obtain ⟨items, hne, hitems, hwrites⟩ := tokensOf_field.exists_list hlist
      have hsame := readWholeList?_of_passing hlist
      rw [hread] at hsame
      cases hsame
      obtain ⟨entries, rfl, rfl, hplains, hnames⟩ := exists_entries hitems
      refine ⟨_, isFields_entries (by simpa using hne) hplains ?_, hwrites.of_trim⟩
      cases entries with
      | nil => simp
      | cons entry entries =>
          obtain ⟨name, hname⟩ := hnames entry List.mem_cons_self
          have hform : (Word.bare name).keyword ∉ selectForms := by
            simpa [startsPlainly, Entry.selectColumn, hname, Word.bare] using hplain
          simpa [hname] using hform
    · contradiction

end SqlGateway.Shape
