import Mathlib.Data.List.Forall2
import SqlGateway.Sql.Parser.Command

/-!
# What the parsers do to given tokens

A parser looks at the next tokens only.  Most of what a statement may hold is absent from it, and an
absent clause is told by the next token alone: `headKeyword` and `headSymbol` say what that token
is, and under a condition on them each parser for a clause takes nothing.
-/

namespace SqlGateway.Sql.Parser

variable {α β : Type} {tokens rest : List Token} {w : Word}

/-! ### Sequences -/

@[simp] theorem bind_apply (first : Parser α) (next : α → Parser β) (tokens : List Token) :
    (first >>= next) tokens =
      match first tokens with
      | .ok (value, rest) => next value rest
      | .error fault => .error fault := by
  cases h : first tokens <;> simp [bind, StateT.bind, Except.bind, h]

@[simp] theorem pure_apply (value : α) (tokens : List Token) :
    (pure value : Parser α) tokens = .ok (value, tokens) := rfl

@[simp] theorem map_apply (f : α → β) (parser : Parser α) (tokens : List Token) :
    (f <$> parser) tokens =
      match parser tokens with
      | .ok (value, rest) => .ok (f value, rest)
      | .error fault => .error fault := by
  cases h : parser tokens <;>
    simp [Functor.map, StateT.map, h, bind, Except.bind, pure, Except.pure]

@[simp] theorem discard_apply (parser : Parser α) (tokens : List Token) :
    (discard parser : Parser Unit) tokens =
      match parser tokens with
      | .ok (_, rest) => .ok (Unit.unit, rest)
      | .error fault => .error fault := by
  cases h : parser tokens <;>
    simp [discard, Functor.mapConst, StateT.map, h, bind, Except.bind, pure, Except.pure]

@[simp] theorem get_apply (tokens : List Token) :
    (get : Parser (List Token)) tokens = .ok (tokens, tokens) := rfl

@[simp] theorem set_apply (rest tokens : List Token) :
    (set rest : Parser PUnit) tokens = .ok (PUnit.unit, rest) := rfl

@[simp] theorem liftM_ok_apply (value : α) (tokens : List Token) :
    (liftM (.ok value : Except ParseFault α) : Parser α) tokens = .ok (value, tokens) := rfl

@[simp] theorem mismatch_apply (tokens : List Token) :
    (mismatch : Parser α) tokens = .error .mismatch := rfl

@[simp] theorem peek_apply (tokens : List Token) :
    peek tokens = .ok (tokens.head?, tokens) := rfl

@[simp] theorem next_nil : next [] = .error .mismatch := rfl

@[simp] theorem next_cons (token : Token) : next (token :: rest) = .ok (token, rest) := rfl

/-! ### The next token -/

/-- The keyword that comes next; empty if none does. -/
def headKeyword : List Token → String
  | .word w :: _ => w.keyword
  | _ => ""

/-- The symbol that comes next; empty if none does. -/
def headSymbol : List Token → String
  | .symbol spelling :: _ => spelling
  | .mark spelling :: _ => spelling
  | _ => ""

@[simp] theorem headKeyword_nil : headKeyword [] = "" := rfl

@[simp] theorem headKeyword_word : headKeyword (.word w :: rest) = w.keyword := rfl

@[simp] theorem headKeyword_symbol (spelling : String) :
    headKeyword (.symbol spelling :: rest) = "" := rfl

@[simp] theorem headSymbol_nil : headSymbol [] = "" := rfl

@[simp] theorem headSymbol_word : headSymbol (.word w :: rest) = "" := rfl

@[simp] theorem headSymbol_symbol (spelling : String) :
    headSymbol (.symbol spelling :: rest) = spelling := rfl

@[simp] theorem symbol?_self (spelling : String) :
    symbol? spelling (.symbol spelling :: rest) = .ok (true, rest) := by
  simp [symbol?, Token.isSymbol]

theorem symbol?_of_ne {spelling : String} (hne : ¬headSymbol tokens = spelling) :
    symbol? spelling tokens = .ok (false, tokens) := by
  cases tokens with
  | nil => rfl
  | cons token rest => cases token <;> simp_all [symbol?, Token.isSymbol, headSymbol]

@[simp] theorem symbol_self (spelling : String) :
    symbol spelling (.symbol spelling :: rest) = .ok (Unit.unit, rest) := by
  simp [symbol]

theorem symbol_of_ne {spelling : String} (hne : ¬headSymbol tokens = spelling) :
    symbol spelling tokens = .error .mismatch := by
  simp [symbol, symbol?_of_ne hne]

theorem nextIsSymbol_of_ne {spelling : String} (hne : ¬headSymbol tokens = spelling) :
    nextIsSymbol spelling tokens = .ok (false, tokens) := by
  cases tokens with
  | nil => rfl
  | cons token rest => cases token <;> simp_all [nextIsSymbol, Token.isSymbol, headSymbol]

theorem keyword?_of_eq {keyword : String} (hw : w.keyword = keyword) :
    keyword? keyword (.word w :: rest) = .ok (true, rest) := by
  simp [keyword?, Token.isKeyword, hw]

theorem keyword?_of_ne {keyword : String} (hne : ¬headKeyword tokens = keyword) :
    keyword? keyword tokens = .ok (false, tokens) := by
  cases tokens with
  | nil => rfl
  | cons token rest => cases token <;> simp_all [keyword?, Token.isKeyword, headKeyword]

theorem keyword_of_eq {expected : String} (hw : w.keyword = expected) :
    keyword expected (.word w :: rest) = .ok (Unit.unit, rest) := by
  simp [keyword, keyword?_of_eq hw]

theorem dropKeywords?_of_ne {keyword : String} {keywords : List String}
    (hne : ¬headKeyword tokens = keyword) : dropKeywords? (keyword :: keywords) tokens = none := by
  cases tokens with
  | nil => rfl
  | cons token rest => cases token <;> simp_all [dropKeywords?, Token.isKeyword, headKeyword]

theorem keywords?_of_ne {keyword : String} {keywords : List String}
    (hne : ¬headKeyword tokens = keyword) :
    keywords? (keyword :: keywords) tokens = .ok (false, tokens) := by
  simp [keywords?, dropKeywords?_of_ne hne]

theorem clause?_of_ne {keyword : String} {keywords : List String} {inner : Parser α}
    (hne : ¬headKeyword tokens = keyword) :
    clause? (keyword :: keywords) inner tokens = .ok (none, tokens) := by
  simp [clause?, keywords?_of_ne hne]

theorem oneOf?_of_not_mem {choices : List String} (hmem : headKeyword tokens ∉ choices) :
    oneOf? choices tokens = .ok (none, tokens) := by
  cases tokens with
  | nil => rfl
  | cons token rest => cases token <;> simp_all [oneOf?, headKeyword]

theorem oneOf?_of_mem {choices : List String} (hw : w.keyword ∈ choices) :
    oneOf? choices (.word w :: rest) = .ok (some w.keyword, rest) := by
  simp [oneOf?, hw]

theorem headKeyword_append (hne : tokens ≠ []) :
    headKeyword (tokens ++ rest) = headKeyword tokens := by
  cases tokens with
  | nil => exact absurd rfl hne
  | cons token tokens => cases token <;> rfl

/-! ### The beginning of a clause -/

/-- Tokens that are at their end or go on with one of the given words. -/
def AtClause (words : List String) (tokens : List Token) : Prop :=
  tokens = [] ∨ ∃ w rest, tokens = .word w :: rest ∧ w.keyword ∈ words

theorem atClause_nil (words : List String) : AtClause words [] := .inl rfl

theorem atClause_word {words : List String} (hw : w.keyword ∈ words) :
    AtClause words (.word w :: rest) := .inr ⟨w, rest, rfl, hw⟩

theorem AtClause.mono {words further : List String} (hclause : AtClause words tokens)
    (hwords : words ⊆ further) : AtClause further tokens :=
  hclause.imp_right fun ⟨w, rest, htokens, hw⟩ => ⟨w, rest, htokens, hwords hw⟩

theorem AtClause.headSymbol_eq {words : List String} (hclause : AtClause words tokens) :
    headSymbol tokens = "" := by
  rcases hclause with rfl | ⟨w, rest, rfl, -⟩ <;> rfl

theorem AtClause.headKeyword_mem {words : List String} (hclause : AtClause words tokens) :
    headKeyword tokens ∈ "" :: words := by
  rcases hclause with rfl | ⟨w, rest, rfl, hw⟩
  · exact List.mem_cons_self
  · exact List.mem_cons_of_mem _ hw

theorem AtClause.ne_symbol {words : List String} (hclause : AtClause words tokens)
    {spelling : String} (hspelling : "" ≠ spelling) : ¬headSymbol tokens = spelling := by
  rw [hclause.headSymbol_eq]
  exact hspelling

theorem AtClause.ne_keyword {words : List String} (hclause : AtClause words tokens)
    {keyword : String} (hkeyword : keyword ∉ "" :: words) : ¬headKeyword tokens = keyword := by
  rintro rfl
  exact hkeyword hclause.headKeyword_mem

theorem AtClause.not_mem {words : List String} (hclause : AtClause words tokens)
    {choices : List String} (hchoices : ∀ word ∈ "" :: words, word ∉ choices) :
    headKeyword tokens ∉ choices :=
  hchoices _ hclause.headKeyword_mem

/-! ### Repetition -/

theorem many_of_none {step : Parser (Option α)} (hstep : step tokens = .ok (none, tokens)) :
    many step tokens = .ok ([], tokens) := by
  cases hlength : tokens.length <;> simp [many, collect, hstep, hlength]

theorem commaList_of_single {item : Parser α} {value : α}
    (hitem : item tokens = .ok (value, rest)) (hcomma : headSymbol rest ≠ ",") :
    commaList item tokens = .ok ([value], rest) := by
  have hnone : (do
      if ← symbol? "," then return some (← item) else return none : Parser (Option α)) rest =
        .ok (none, rest) := by
    simp [symbol?_of_ne hcomma, -bind_pure_comp]
  simp [commaList, hitem, many_of_none hnone, -bind_pure_comp]

/-- Items with commas between them, each given by its tokens. -/
def commaTokens : List (List Token) → List Token
  | [] => []
  | first :: further => first ++ further.flatMap (Token.symbol "," :: ·)

theorem length_le_length_flatMap (items : List (List Token)) :
    items.length ≤ (items.flatMap (Token.symbol "," :: ·)).length := by
  induction items with
  | nil => simp
  | cons item items ih =>
      simp only [List.flatMap_cons, List.length_append, List.length_cons]
      omega

/-- The items of a list, each of which is read wherever one of its ends follows. -/
theorem commaList_commaTokens {item : Parser α} (isEnd : List Token → Prop) {values : List α}
    {items : List (List Token)}
    (hitems : List.Forall₂ (fun written value => ∀ tail, isEnd tail →
      item (written ++ tail) = .ok (value, tail)) items values)
    (hne : items ≠ []) (hcomma : ∀ tail, isEnd (.symbol "," :: tail)) (hend : isEnd rest)
    (hlast : headSymbol rest ≠ ",") :
    commaList item (commaTokens items ++ rest) = .ok (values, rest) := by
  -- behind the first item every round takes a comma and one more item
  have hfurther : ∀ {items : List (List Token)} {values : List α} {rounds : Nat},
      List.Forall₂ (fun written value => ∀ tail, isEnd tail →
        item (written ++ tail) = .ok (value, tail)) items values → items.length ≤ rounds →
      collect (do if ← symbol? "," then return some (← item) else return none) rounds
        (items.flatMap (Token.symbol "," :: ·) ++ rest) = .ok (values, rest) := by
    intro items values rounds hitems hrounds
    induction hitems generalizing rounds with
    | nil => cases rounds <;> simp [collect, symbol?_of_ne hlast]
    | cons hitem hitems ih =>
        rename_i written value items values
        cases rounds with
        | zero => simp at hrounds
        | succ rounds =>
            have hbehind : isEnd (items.flatMap (Token.symbol "," :: ·) ++ rest) := by
              cases items with
              | nil => exact hend
              | cons next items => exact hcomma _
            have hrest := @ih rounds (by simpa using hrounds)
            simp [collect, hitem _ hbehind, hrest, -bind_pure_comp]
  cases hitems with
  | nil => exact absurd rfl hne
  | cons hitem hitems =>
      rename_i written value items values
      have hbehind : isEnd (items.flatMap (Token.symbol "," :: ·) ++ rest) := by
        cases items with
        | nil => exact hend
        | cons next items => exact hcomma _
      have hrounds : items.length ≤ (items.flatMap (Token.symbol "," :: ·) ++ rest).length :=
        Nat.le_trans (length_le_length_flatMap items) (by simp)
      have hcollect := hfurther hitems hrounds
      simp only [commaList, many, commaTokens, List.append_assoc, bind_apply, hitem _ hbehind,
        get_apply, hcollect, pure_apply]

/-! ### Names -/

@[simp] theorem ident_word : ident (.word w :: rest) = .ok (w.ident, rest) := by
  simp [ident]

theorem objectName_word (hpoint : headSymbol rest ≠ ".") :
    objectName (.word w :: rest) = .ok ([w.ident], rest) := by
  simp [objectName, many_of_none, symbol?_of_ne hpoint]

/-- The word that begins a clause is no other name. -/
theorem label?_of_clause {reserved words : List String} (hclause : AtClause words tokens)
    (hwords : words ⊆ reserved) (has : "AS" ∉ words) :
    label? reserved tokens = .ok (none, tokens) := by
  rcases hclause with rfl | ⟨w, rest, rfl, hw⟩
  · rfl
  · have hreserved := hwords hw
    have hother : ¬w.keyword = "AS" := fun heq => has (heq ▸ hw)
    simp [label?, keyword?_of_ne, hother, hreserved]

end SqlGateway.Sql.Parser
