import SqlGateway.Proofs.Sql.Parser.Basic

/-!
# Names that are no types

An operand is first tried as the name of a type with a literal behind it.  Most words can be the
name of a type, and some types go on with further words, but behind a plain name there is no
literal: the words that a type may take end at a sign or at a word of another kind.
-/

namespace SqlGateway.Sql.Parser

variable {α β : Type} {tokens rest : List Token} {symbols : List String} {w : Word}

/-! ### Quiet tokens -/

/-- The words that are literals. -/
def literalWords : List String := ["TRUE", "FALSE", "NULL"]

/-- The words that may follow the first word of a type. -/
def typeWords : List String :=
  ["INTEGER", "LARGE", "OBJECT", "PRECISION", "SIGNED", "TIME", "TYPE", "UNSIGNED", "VARYING",
    "WITH", "WITHOUT", "ZONE"]

/-- The symbols that may follow a plain name: those of a list, and the comparisons. -/
def quietSymbols : List String := [",", ")", "=", "!=", "<>", "<", "<=", ">", ">="]

/-- Whether no literal and no other symbol than those given comes next, also behind the words that
a type may take. -/
def isQuiet (symbols : List String) : List Token → Bool
  | [] => true
  | .word w :: rest =>
    !literalWords.contains w.keyword && (!typeWords.contains w.keyword || isQuiet symbols rest)
  | .symbol spelling :: _ => symbols.contains spelling
  | _ => false

theorem headSymbol_of_isQuiet (hquiet : isQuiet symbols tokens = true) :
    headSymbol tokens ∈ "" :: symbols := by
  cases tokens with
  | nil => exact List.mem_cons_self
  | cons token rest =>
      cases token with
      | word w => exact List.mem_cons_self
      | symbol spelling => exact List.mem_cons_of_mem _ (by simpa [isQuiet] using hquiet)
      | _ => simp [isQuiet] at hquiet

theorem headSymbol_ne_of_isQuiet (hquiet : isQuiet symbols tokens = true)
    (hsymbols : symbols ⊆ quietSymbols) {spelling : String} (hne : spelling ∉ "" :: quietSymbols) :
    headSymbol tokens ≠ spelling := by
  rintro rfl
  exact hne (List.cons_subset_cons "" hsymbols (headSymbol_of_isQuiet hquiet))

/-- The words of a type leave quiet tokens quiet. -/
theorem isQuiet_of_cons (hword : w.keyword ∈ typeWords)
    (hquiet : isQuiet symbols (.word w :: rest) = true) : isQuiet symbols rest = true := by
  simpa [isQuiet, hword] using (Bool.and_eq_true_iff.mp hquiet).2

theorem literal_of_isQuiet (hquiet : isQuiet symbols tokens = true) :
    literal tokens = .error .mismatch := by
  cases tokens with
  | nil => rfl
  | cons token rest =>
      cases token with
      | word w =>
          have hword : w.keyword ∉ literalWords := by
            simpa using (Bool.and_eq_true_iff.mp hquiet).1
          simp only [literalWords, List.mem_cons, List.not_mem_nil, or_false, not_or] at hword
          simp [literal, hword]
      | symbol spelling => rfl
      | _ => simp [isQuiet] at hquiet

/-! ### Parsers that stay among quiet tokens -/

/-- Whether a parser either refuses quiet tokens or leaves quiet tokens. -/
def Settles (parser : Parser α) : Prop :=
  ∀ symbols ⊆ quietSymbols, ∀ tokens, isQuiet symbols tokens = true →
    parser tokens = .error .mismatch ∨
      ∃ value rest, parser tokens = .ok (value, rest) ∧ isQuiet symbols rest = true

theorem settles_pure (value : α) : Settles (pure value : Parser α) :=
  fun _ _ tokens hquiet => .inr ⟨value, tokens, rfl, hquiet⟩

theorem settles_mismatch : Settles (mismatch : Parser α) :=
  fun _ _ _ _ => .inl rfl

theorem Settles.bind {first : Parser α} {next : α → Parser β} (hfirst : Settles first)
    (hnext : ∀ value, Settles (next value)) : Settles (first >>= next) := by
  intro symbols hsymbols tokens hquiet
  rcases hfirst symbols hsymbols tokens hquiet with hfault | ⟨value, rest, hok, hrest⟩
  · exact .inl (by simp [hfault])
  · simpa [hok] using hnext value symbols hsymbols rest hrest

theorem Settles.then_pure {first : Parser α} (hfirst : Settles first) (f : α → β) :
    Settles (first >>= fun value => pure (f value)) :=
  hfirst.bind fun value => settles_pure (f value)

theorem Settles.ite {c : Prop} [Decidable c] {first second : Parser α} (hfirst : Settles first)
    (hsecond : Settles second) : Settles (if c then first else second) := by
  split
  · exact hfirst
  · exact hsecond

theorem Settles.discard {parser : Parser α} (hparser : Settles parser) :
    Settles (discard parser : Parser Unit) := by
  intro symbols hsymbols tokens hquiet
  rcases hparser symbols hsymbols tokens hquiet with hfault | ⟨value, rest, hok, hrest⟩
  · exact .inl (by simp [hfault])
  · exact .inr ⟨Unit.unit, rest, by simp [hok], hrest⟩

theorem isQuiet_of_dropKeywords? {sequence : List String}
    (hsequence : ∀ keyword ∈ sequence, keyword ∈ typeWords) (hquiet : isQuiet symbols tokens = true)
    (hdrop : dropKeywords? sequence tokens = some rest) : isQuiet symbols rest = true := by
  induction sequence generalizing tokens with
  | nil =>
      cases hdrop
      exact hquiet
  | cons keyword sequence ih =>
      obtain ⟨hkeyword, hfurther⟩ := List.forall_mem_cons.mp hsequence
      cases tokens with
      | nil => contradiction
      | cons token tokens =>
          cases token with
          | word w =>
              by_cases hw : w.keyword = keyword
              · rw [dropKeywords?, if_pos (by simp [Token.isKeyword, hw])] at hdrop
                exact ih hfurther (isQuiet_of_cons (hw ▸ hkeyword) hquiet) hdrop
              · simp [dropKeywords?, Token.isKeyword, hw] at hdrop
          | _ => simp [dropKeywords?, Token.isKeyword] at hdrop

theorem settles_keywords? {sequence : List String}
    (hsequence : ∀ keyword ∈ sequence, keyword ∈ typeWords) : Settles (keywords? sequence) := by
  intro symbols hsymbols tokens hquiet
  cases hdrop : dropKeywords? sequence tokens with
  | none => exact .inr ⟨false, tokens, by simp [keywords?, hdrop], hquiet⟩
  | some rest =>
      exact .inr ⟨true, rest, by simp [keywords?, hdrop],
        isQuiet_of_dropKeywords? hsequence hquiet hdrop⟩

theorem keyword?_eq_keywords? (keyword : String) : keyword? keyword = keywords? [keyword] := by
  funext tokens
  cases tokens with
  | nil => rfl
  | cons token rest =>
      cases htoken : token.isKeyword keyword <;>
        simp [keyword?, keywords?, dropKeywords?, htoken]

theorem settles_keyword? {keyword : String} (hkeyword : keyword ∈ typeWords) :
    Settles (keyword? keyword) := by
  rw [keyword?_eq_keywords?]
  exact settles_keywords? (by simpa using hkeyword)

theorem settles_keyword {expected : String} (hkeyword : expected ∈ typeWords) :
    Settles (keyword expected) :=
  (settles_keyword? hkeyword).bind fun _ => .ite (settles_pure _) settles_mismatch

theorem settles_optionalParens (inner : Parser String) : Settles (optionalParens inner) := by
  intro symbols hsymbols tokens hquiet
  have hopening : headSymbol tokens ≠ "(" :=
    headSymbol_ne_of_isQuiet hquiet hsymbols (by decide)
  exact .inr ⟨"", tokens, by simp [optionalParens, symbol?_of_ne hopening], hquiet⟩

theorem settles_inParens (inner : Parser α) : Settles (inParens inner) := by
  intro symbols hsymbols tokens hquiet
  have hopening : headSymbol tokens ≠ "(" :=
    headSymbol_ne_of_isQuiet hquiet hsymbols (by decide)
  exact .inl (by simp [inParens, symbol_of_ne hopening])

/-! ### Types -/

theorem settles_signedness : Settles signedness :=
  (settles_keyword? (by decide)).bind fun _ => .ite (settles_pure _) (settles_pure _)

theorem settles_zone : Settles zone := by
  have hwords : ∀ text : String,
      Settles (keyword "TIME" >>= fun _ => keyword "ZONE" >>= fun _ => pure text) :=
    fun text => (settles_keyword (by decide)).bind fun _ =>
      (settles_keyword (by decide)).then_pure _
  refine (settles_keyword? (by decide)).bind fun _ => .ite (hwords _) ?_
  exact (settles_keyword? (by decide)).bind fun _ => .ite (hwords _) (settles_pure _)

theorem settles_characterType (name : String) : Settles (characterType name) := by
  refine (settles_keyword? (by decide)).bind fun _ => .ite ?_ ?_
  · exact (settles_optionalParens _).then_pure _
  · exact (settles_keywords? (by decide)).bind fun _ =>
      .ite ((settles_optionalParens _).then_pure _) ((settles_optionalParens _).then_pure _)

/-- A type that contains no other one takes only its own words. -/
theorem settles_typeOf? {name : String} {parser : Parser String}
    (htype : typeOf? name = some parser) : Settles parser := by
  -- one case for each row of the table of types, in its order
  unfold typeOf? at htype
  split at htype
  · cases htype
    exact settles_pure _
  split at htype
  · cases htype
    exact (settles_optionalParens _).bind fun _ => settles_signedness.bind fun _ =>
      .ite ((settles_keyword? (by decide)).discard.then_pure _) (settles_pure _)
  split at htype
  · cases htype
    exact (settles_optionalParens _).bind fun _ => settles_signedness.then_pure _
  split at htype
  · cases htype
    exact (settles_optionalParens _).then_pure _
  split at htype
  · cases htype
    exact (settles_optionalParens _).then_pure _
  split at htype
  · cases htype
    exact (settles_optionalParens _).bind fun _ => settles_signedness.then_pure _
  split at htype
  · cases htype
    exact (settles_optionalParens _).then_pure _
  split at htype
  case h_18 =>
    obtain ⟨text, -, rfl⟩ := Option.map_eq_some_iff.mp htype
    exact settles_pure text
  all_goals cases htype
  · exact settles_signedness.then_pure _
  · refine (settles_keyword? (by decide)).bind fun _ => .ite (settles_signedness.then_pure _) ?_
    exact (settles_optionalParens _).bind fun _ => settles_signedness.then_pure _
  · exact settles_characterType _
  · exact settles_characterType _
  · exact (settles_keywords? (by decide)).bind fun _ =>
      .ite ((settles_optionalParens _).then_pure _) ((settles_optionalParens _).then_pure _)
  · exact (settles_optionalParens _).then_pure _
  · exact (settles_inParens _).then_pure _
  · exact (settles_keyword? (by decide)).bind fun _ =>
      .ite ((settles_optionalParens _).then_pure _) ((settles_optionalParens _).then_pure _)
  · exact (settles_inParens _).then_pure _
  · exact (settles_optionalParens _).bind fun _ => settles_zone.then_pure _
  · exact (settles_optionalParens _).bind fun _ => settles_zone.then_pure _
  · exact ((settles_inParens _).then_pure _).then_pure _
  · exact ((settles_inParens _).then_pure _).then_pure _
  · exact ((settles_inParens _).then_pure _).then_pure _
  · exact ((settles_inParens _).then_pure _).then_pure _
  · exact (settles_keyword? (by decide)).bind fun _ => .ite (settles_pure _) (settles_pure _)
  · exact (settles_keyword? (by decide)).bind fun _ => .ite (settles_pure _) (settles_pure _)

/-- A type at the front of quiet tokens takes only its own words.  What an array consists of would
stand behind a bracket that is not there. -/
theorem dataTypeWithin_word (hsymbols : symbols ⊆ quietSymbols)
    (hquiet : isQuiet symbols tokens = true)
    (harray : w.keyword = "ARRAY" → headSymbol tokens ≠ "<") (depth : Nat) :
    dataTypeWithin (depth + 1) (.word w :: tokens) = .error .mismatch ∨
      ∃ type rest, dataTypeWithin (depth + 1) (.word w :: tokens) = .ok ((type, false), rest) ∧
        isQuiet symbols rest = true ∧ (type = .interval → w.keyword = "INTERVAL") := by
  have hopening : headSymbol tokens ≠ "(" :=
    headSymbol_ne_of_isQuiet hquiet hsymbols (by decide)
  by_cases hinterval : w.keyword = "INTERVAL"
  · exact .inr ⟨.interval, tokens, by simp [dataTypeWithin, hinterval], hquiet, fun _ => hinterval⟩
  by_cases hword : w.keyword = "ARRAY"
  · exact .inl (by simp [dataTypeWithin, hword, symbol_of_ne (harray hword)])
  by_cases htable : w.keyword = "TABLE"
  · refine .inr ⟨.known "TABLE", tokens, ?_, hquiet, by simp⟩
    simp [dataTypeWithin, htable, nextIsSymbol_of_ne hopening]
  by_cases hany : w.keyword = "ANY" ∧ tokens.head?.any (Token.isKeyword "TYPE") = true
  · refine .inr ⟨.known "ANY TYPE", tokens.tail, ?_, ?_, by simp⟩
    · simp [dataTypeWithin, hany]
    · cases tokens with
      | nil => rfl
      | cons token rest =>
          cases token with
          | word type =>
              have htype : type.keyword = "TYPE" := by simpa [Token.isKeyword] using hany.2
              exact isQuiet_of_cons (by rw [htype]; decide) hquiet
          | _ => simp [Token.isKeyword] at hany
  cases htype : typeOf? w.keyword with
  | some parser =>
      rcases settles_typeOf? htype symbols hsymbols tokens hquiet with
        hfault | ⟨text, rest, hok, hrest⟩
      · exact .inl (by simp [dataTypeWithin, hany, htype, hfault])
      · refine .inr ⟨.known text, rest, ?_, hrest, by simp⟩
        simp [dataTypeWithin, hany, htype, hok]
  | none =>
      have hpoint : headSymbol tokens ≠ "." :=
        headSymbol_ne_of_isQuiet hquiet hsymbols (by decide)
      refine .inr ⟨.custom (nameText [w.ident]), tokens, ?_, hquiet, by simp⟩
      simp [dataTypeWithin, hany, htype, customType,
        objectName_word hpoint, symbol?_of_ne hopening]

/-- Whether no element of an array type stands behind a sign that could be its bracket. -/
def holdsNoElement : List Token → Bool
  | .symbol "<" :: .word _ :: rest => isQuiet [] rest
  | _ => true

theorem dataTypeWithin_array (harray : w.keyword = "ARRAY") {behind : List Token}
    (helement : holdsNoElement (.symbol "<" :: behind) = true) (depth : Nat) :
    dataTypeWithin (depth + 2) (.word w :: .symbol "<" :: behind) = .error .mismatch := by
  have hinner : dataTypeWithin (depth + 1) behind = .error .mismatch ∨
      ∃ type rest, dataTypeWithin (depth + 1) behind = .ok ((type, false), rest) ∧
        isQuiet [] rest = true := by
    cases behind with
    | nil => exact .inl rfl
    | cons token rest =>
        cases token with
        | word element =>
            have hquiet : isQuiet [] rest = true := helement
            have hless : headSymbol rest ≠ "<" := by
              rintro heq
              simpa [heq] using headSymbol_of_isQuiet hquiet
            rcases dataTypeWithin_word (List.nil_subset _) hquiet (fun _ => hless) depth with
              hfault | ⟨type, left, hok, hleft, -⟩
            · exact .inl hfault
            · exact .inr ⟨type, left, hok, hleft⟩
        | _ => exact .inl rfl
  rcases hinner with hfault | ⟨type, rest, hok, hquiet⟩
  · unfold dataTypeWithin
    simp [harray, hfault]
  · have hless : headSymbol rest = "" := by simpa using headSymbol_of_isQuiet hquiet
    unfold dataTypeWithin
    simp [harray, hok, symbol?_of_ne, symbol_of_ne, hless]

end SqlGateway.Sql.Parser
