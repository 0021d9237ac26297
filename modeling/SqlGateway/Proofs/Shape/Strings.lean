import SqlGateway.Proofs.Shape.Segments
import SqlGateway.Proofs.Shape.Change

/-!
# String literals in changes, lists and conditions

A string in quotes is read in two ways.  In a list of values and in a condition it is scanned from
its first quote on, and each pair of quotes is taken for one; in a change it is cut out of the text
as a token, its ends are dropped, and all pairs are joined at once.  Both undo the same doubling,
because between the ends of a token the quote stands in pairs alone (`isPaired_iff`).

  `'it''s'  ↦  it's`

So there is one string that a token holds, and each of the three places reads it (`HoldsString`).
-/

namespace SqlGateway.Shape

open Text

variable {token seg : List Char} {quote : Char} {value : Value} {s : String}

/-! ### Tokens -/

/-- A token of a string: a quote, a text in which this quote stands only in pairs, and the quote. -/
inductive IsStringToken : List Char → Prop
  | quoted {quote : Char} {inner : List Char} : isQuote quote = true → IsPaired quote inner →
      IsStringToken (quote :: (inner ++ [quote]))

theorem isStringToken_doubled (hquote : isQuote quote = true) (content : List Char) :
    IsStringToken (quote :: (doubled quote content ++ [quote])) :=
  .quoted hquote (isPaired_iff.mpr ⟨content, rfl⟩)

/-- A token of a string is one that a string has been written as. -/
theorem IsStringToken.exists_doubled (htoken : IsStringToken token) :
    ∃ quote s, isQuote quote = true ∧
      token = quote :: (doubled quote (String.toList s) ++ [quote]) := by
  obtain ⟨hquote, hpaired⟩ := htoken
  obtain ⟨content, rfl⟩ := isPaired_iff.mp hpaired
  exact ⟨_, String.ofList content, hquote, by rw [String.toList_ofList]⟩

/-- Among the values of a change the tokens of strings are those that begin with a quote. -/
theorem IsValueText.isStringToken (htoken : IsValueText token)
    (hhead : ∃ c ∈ token.head?, isQuote c = true) : IsStringToken token := by
  cases htoken with
  | quoted content hquote => exact isStringToken_doubled hquote content
  | bare _ hparts =>
      obtain ⟨c, hc, hquote⟩ := hhead
      have hpart := hparts c (List.mem_of_mem_head? hc)
      simp [isValuePart, hquote] at hpart

/-! ### Places -/

/-- An entry of a list stands for the value that its text has as a token of a change. -/
theorem IsEntry.eq_ofToken (hentry : IsEntry isBlank seg value) : value = Value.ofToken seg := by
  cases hentry with
  | bare => rfl
  | @quoted lead content rear quote hlead hquote hrear =>
      have hsplit : lead ++ quote :: (doubled quote content ++ quote :: rear) =
          lead ++ (quote :: (doubled quote content ++ [quote]) ++ rear) := by simp
      rw [← ofToken_quoted hquote, hsplit, Value.ofToken, Value.ofToken, trim_append_left hlead,
        trim_append_right hrear]

/-- A token holds a string: scanned from its first quote on it gives the string, with its ends
dropped it gives the same one, and so do a change that assigns it, a list of values with it as an
entry, and a condition with it as the operand. -/
structure HoldsString (token : List Char) (s : String) : Prop where
  scanned : readString? token = some (s.toList, [])
  stripped : Value.ofToken token = .string s
  accepted : IsValueText token
  assigned : ∀ pass head behind table column filter, IsUpdateHead head table column token →
    IsFilterText behind filter → recognize .update pass (head ++ behind) = .ok (some (.update {
      table := String.ofList table
      assignments := [{ column := String.ofList column, value := .string s }]
      filter }))
  single : readValues token = .ok [.string s]
  listed : ∀ text values, readValues text = .ok values →
    List.Forall₂ (fun seg value => trim seg = token → value = .string s) (segments none text) values
  compared : ∀ text column op, IsConditionText (trim text) column op token →
    readCondition? text = some { column, op, value := .string s }

theorem holdsString_doubled (hquote : isQuote quote = true) (s : String) :
    HoldsString (quote :: (doubled quote s.toList ++ [quote])) s := by
  have hstripped : Value.ofToken (quote :: (doubled quote s.toList ++ [quote])) = .string s := by
    rw [ofToken_quoted hquote, String.ofList_toList]
  have hscanned : readQuoted? quote (doubled quote s.toList ++ [quote]) = some (s.toList, []) :=
    readQuoted?_doubled (by simp)
  refine
    { scanned := by rw [readString?, if_pos hquote, hscanned]
      stripped := hstripped
      accepted := .quoted s.toList hquote
      assigned := ?_
      single := ?_
      listed := ?_
      compared := ?_ }
  · intro pass head behind table column filter hhead hfilter
    rw [recognize, ← hstripped]
    exact recognizeUpdate_eq_ok.mpr ⟨head, behind, _, filter, rfl, .update hhead, hfilter, rfl⟩
  · have hentry : IsEntry isGap ([] ++ quote :: (doubled quote s.toList ++ quote :: []))
        (.string (String.ofList s.toList)) :=
      .quoted (List.forall_mem_nil _) hquote (List.forall_mem_nil _)
    rw [String.ofList_toList, List.nil_append] at hentry
    rw [readValues_eq_ok_iff, trim_quoted hquote]
    exact .single hentry
  · intro text values hread
    have hentries := (areEntries_iff fun _ => id).mp (areEntries_of_readValues hread)
    refine hentries.imp fun seg value hentry htrim => ?_
    rw [hentry.eq_ofToken, ← hstripped, Value.ofToken, Value.ofToken, htrim, trim_quoted hquote]
  · intro text column op hcondition
    have hstands : StandsFor (quote :: (doubled quote s.toList ++ [quote])) (.string s) := by
      have hquoted := StandsFor.quoted s.toList hquote
      rwa [String.ofList_toList] at hquoted
    have hword : ¬IsDigitWord (quote :: (doubled quote s.toList ++ [quote])) := by
      rintro ⟨⟨c, hc, hdigit⟩, -, -⟩
      obtain rfl : quote = c := by simpa using hc
      have hother := of_isQuote (p := fun c => c.isDigit = false) (by decide) (by decide) hquote
      rw [hother] at hdigit
      contradiction
    exact readCondition?_eq_some.mpr ⟨_, hcondition, hstands, .inr hword⟩

/-- Each token of a string holds one string: the scanner of lists and conditions and the reader of a
change's value agree on it, and so do the statements that they read.  Every string is held by the
token that it is written as, between either of the quotes.  The values of changes that begin with a
quote are such tokens. -/
theorem exists_holdsString :
    (∀ token, IsStringToken token → ∃ s, HoldsString token s) ∧
    (∀ quote s, isQuote quote = true →
      IsStringToken (quote :: (doubled quote (String.toList s) ++ [quote])) ∧
        HoldsString (quote :: (doubled quote (String.toList s) ++ [quote])) s) ∧
    ∀ text found, UpdatePattern.match? text = some found →
      (∃ c ∈ found.value.head?, isQuote c = true) → IsStringToken found.value := by
  refine ⟨?_, ?_, ?_⟩
  · intro token htoken
    obtain ⟨quote, s, hquote, rfl⟩ := htoken.exists_doubled
    exact ⟨s, holdsString_doubled hquote s⟩
  · intro quote s hquote
    exact ⟨isStringToken_doubled hquote s.toList, holdsString_doubled hquote s⟩
  · intro text found hmatch hhead
    obtain ⟨head, behind, -, hupdate, -⟩ := UpdatePattern.match?_eq_some.mp hmatch
    exact hupdate.isValue.isStringToken hhead

/-- A string with both quotes, a comma and blanks, in a change, in a list and in a condition. -/
theorem exists_holdsString_statements :
    recognize .update .fast "update t set c = 'it''s, \"x\" '".toList = .ok (some (.update {
        table := "t"
        assignments := [{ column := "c", value := .string "it's, \"x\" " }]
        filter := none })) ∧
      readValues "'it''s, \"x\" '".toList = .ok [.string "it's, \"x\" "] ∧
      readCondition? "c != 'it''s, \"x\" '".toList =
        some { column := "c", op := .neq, value := .string "it's, \"x\" " } := by
  obtain ⟨-, htokens, -⟩ := exists_holdsString
  obtain ⟨-, hholds⟩ := htokens '\'' "it's, \"x\" " rfl
  have hhead : IsUpdateHead "update t set c = 'it''s, \"x\" '".toList ['t'] ['c']
      "'it''s, \"x\" '".toList := by
    refine ⟨⟨by decide, by decide⟩, ⟨by decide, by decide⟩, hholds.accepted,
      "update ".toList, " set ".toList, [' '], [' '], ?_, ?_, .inr rfl, .inr rfl, rfl⟩
    all_goals
      unfold SameFold
      decide
  have hcondition : IsConditionText (trim "c != 'it''s, \"x\" '".toList) "c" .neq
      "'it''s, \"x\" '".toList :=
    ⟨by decide, by decide, [' '], [' '], [], "!=", by decide, by decide, by decide⟩
  exact ⟨hholds.assigned .fast _ [] _ _ _ hhead .none, hholds.single,
    hholds.compared _ _ _ hcondition⟩

end SqlGateway.Shape
