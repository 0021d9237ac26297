import SqlGateway.Proofs.Sql.Closed

/-!
# The lexemes of a text

`Lexes` says which lexemes a text is cut into, one after the other and without counting rounds.  The
tokens among them do not depend on how many blanks stand in a gap.
-/

namespace SqlGateway.Sql

open Text

/-- The lexemes of a text, the lexeme before it being `before`. -/
inductive Lexes : Option Lexeme → List Char → List Lexeme → Prop
  | nil {before : Option Lexeme} : Lexes before [] []
  | cons {before : Option Lexeme} {text rest : List Char} {l : Lexeme} {further : List Lexeme} :
      lexOne before text = some (l, rest) → Lexes (some l) rest further →
        Lexes before text (l :: further)

variable {before : Option Lexeme} {text rest : List Char} {lexemes : List Lexeme} {l : Lexeme}

theorem length_lt_of_lexOne (h : lexOne before text = some (l, rest)) :
    rest.length < text.length := by
  cases text with
  | nil => contradiction
  | cons c text =>
      have hle := (lexOne_suffix h).length_le
      simp only [List.length_cons]
      omega

theorem lexAll?_eq_some {rounds : Nat} (hrounds : text.length ≤ rounds) :
    lexAll? rounds before text = some lexemes ↔ Lexes before text lexemes := by
  constructor
  · intro h
    clear hrounds
    induction rounds generalizing before text lexemes with
    | zero =>
        cases text with
        | nil =>
            cases h
            exact .nil
        | cons c text => contradiction
    | succ rounds ih =>
        cases text with
        | nil =>
            cases h
            exact .nil
        | cons c text =>
            simp only [lexAll?] at h
            split at h
            · contradiction
            · rename_i hone
              obtain ⟨further, hfurther, rfl⟩ := Option.map_eq_some_iff.mp h
              exact .cons hone (ih hfurther)
  · intro h
    induction h generalizing rounds with
    | nil => cases rounds <;> rfl
    | cons hone _ ih =>
        rename_i before text rest l further _
        have hshorter := length_lt_of_lexOne hone
        cases rounds with
        | zero => omega
        | succ rounds =>
            cases text with
            | nil => contradiction
            | cons c text => simp [lexAll?, hone, ih (by omega : rest.length ≤ rounds)]

theorem Lexes.unique {lexemes' : List Lexeme} (h : Lexes before text lexemes)
    (h' : Lexes before text lexemes') : lexemes = lexemes' := by
  rw [← lexAll?_eq_some (Nat.le_refl _)] at h h'
  exact Option.some.inj (h.symm.trans h')

theorem tokenize?_eq_some {tokens : List Token} :
    tokenize? text = some tokens ↔
      ∃ lexemes, Lexes none text lexemes ∧ tokensOf lexemes = tokens := by
  simp only [tokenize?, Option.map_eq_some_iff, lexAll?_eq_some (Nat.le_refl _)]

/-- A gap before a text is as good as its beginning. -/
theorem lexOne_blank : lexOne (some .blank) text = lexOne none text := by
  cases text <;> rfl

theorem Lexes.of_none (h : Lexes none text lexemes) : Lexes (some .blank) text lexemes := by
  cases h with
  | nil => exact .nil
  | cons hone hrest => exact .cons (lexOne_blank.trans hone) hrest

theorem Lexes.eq_nil (h : Lexes before [] lexemes) : lexemes = [] := by
  cases h with
  | nil => rfl
  | cons hone => contradiction

theorem Lexes.spacing {c : Char} (hc : isSpacing c = true)
    (h : Lexes (some .blank) text lexemes) : Lexes before (c :: text) (.blank :: lexemes) :=
  .cons (lexOne_spacing hc) h

/-! ### Tokens and gaps -/

@[simp] theorem tokensOf_nil : tokensOf [] = [] := rfl

@[simp] theorem tokensOf_blank : tokensOf (.blank :: lexemes) = tokensOf lexemes := rfl

@[simp] theorem beginsName_blank : beginsName (.blank :: lexemes) = false := rfl

/-- The tokens that a lexeme counts for, before a name or not. -/
def Lexeme.tokens (beforeName : Bool) : Lexeme → List Token
  | blank => []
  | token (.symbol spelling) =>
    [if (spelling == ":" || spelling == "@") && beforeName then .mark spelling
      else .symbol spelling]
  | token t => [t]

/-- What a lexeme counts for depends on the lexemes behind it only by whether a name begins
there. -/
theorem tokensOf_cons (l : Lexeme) (lexemes : List Lexeme) :
    tokensOf (l :: lexemes) = l.tokens (beginsName lexemes) ++ tokensOf lexemes := by
  cases l with
  | blank => rfl
  | token t => cases t <;> rfl

theorem beginsName_cons (l : Lexeme) (lexemes lexemes' : List Lexeme) :
    beginsName (l :: lexemes) = beginsName (l :: lexemes') := by
  cases l with
  | blank => rfl
  | token t => cases t <;> rfl

/-- What a single closing character is read as. -/
def closingLexeme (c : Char) : Lexeme :=
  if c = ';' then .token (.symbol ";") else .blank

theorem lexOne_closing {c : Char} (hc : isClosing c = true) :
    lexOne before (c :: rest) = some (closingLexeme c, rest) := by
  simp only [isClosing, Bool.or_eq_true, beq_iff_eq] at hc
  rcases hc with hc | rfl
  · have hne : c ≠ ';' := by
      rintro rfl
      simp [isSpacing, isBlank] at hc
    rw [lexOne_spacing hc, closingLexeme, if_neg hne]
  · rfl

theorem lexes_closing {rear : List Char} (hrear : ∀ c ∈ rear, isClosing c = true) :
    Lexes before rear (rear.map closingLexeme) := by
  induction rear generalizing before with
  | nil => exact .nil
  | cons c rear ih =>
      obtain ⟨hc, hrest⟩ := List.forall_mem_cons.mp hrear
      exact .cons (lexOne_closing hc) (ih hrest)

theorem beginsName_closing (rear : List Char) : beginsName (rear.map closingLexeme) = false := by
  cases rear with
  | nil => rfl
  | cons c rear => by_cases hc : c = ';' <;> simp [closingLexeme, hc, beginsName]

/-- Of blanks and semicolons only the semicolons are tokens. -/
theorem tokensOf_closing (rear : List Char) :
    tokensOf (rear.map closingLexeme) = List.replicate (rear.count ';') (.symbol ";") := by
  induction rear with
  | nil => rfl
  | cons c rear ih =>
      rw [List.map_cons, tokensOf_cons, ih]
      by_cases hc : c = ';'
      · subst hc
        simp [closingLexeme, Lexeme.tokens, List.replicate_succ]
      · simp [closingLexeme, Lexeme.tokens, hc]

end SqlGateway.Sql
