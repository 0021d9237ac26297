import SqlGateway.Sql.Lexer

/-!
# Strings with escapes

How the contents of a string may be written between its quotes.  The lexer finds the contents of
exactly the texts that are written so.
-/

namespace SqlGateway.Sql

/-- How contents are written between two quotes: a quote twice, or behind a backslash; any other
character as it is, or, for some, by a letter behind a backslash. -/
inductive Escaped (quote : Char) : List Char → List Char → Prop
  | nil : Escaped quote [] []
  | doubled {written content : List Char} : Escaped quote written content →
      Escaped quote (quote :: quote :: written) (quote :: content)
  | escape {written content : List Char} (c : Char) : '\\' ≠ quote →
      Escaped quote written content → Escaped quote ('\\' :: c :: written) (unescaped c ++ content)
  | plain {written content : List Char} {c : Char} : c ≠ quote → c ≠ '\\' →
      Escaped quote written content → Escaped quote (c :: written) (c :: content)

variable {quote : Char} {text content written rest : List Char}

theorem lexEscaped?_cons_plain {c : Char} (hquote : c ≠ quote) (hescape : c ≠ '\\') :
    lexEscaped? quote (c :: text) =
      (lexEscaped? quote text).map fun (content, behind) => (c :: content, behind) := by
  cases text with
  | nil => simp [lexEscaped?, hquote]
  | cons d text => simp [lexEscaped?, hquote, hescape]

theorem Escaped.lexEscaped? (hwritten : Escaped quote written content)
    (hrest : rest.head? ≠ some quote) :
    lexEscaped? quote (written ++ quote :: rest) = some (content, rest) := by
  induction hwritten with
  | nil =>
      cases rest with
      | nil => simp [Sql.lexEscaped?]
      | cons d rest =>
          have hd : d ≠ quote := by simpa using hrest
          simp [Sql.lexEscaped?, hd]
  | doubled _ ih => simp [Sql.lexEscaped?, ih]
  | escape c hquote _ ih => simp [Sql.lexEscaped?, hquote, ih]
  | plain hquote hescape _ ih =>
      rw [List.cons_append, lexEscaped?_cons_plain hquote hescape, ih]
      rfl

theorem lexEscaped?_eq_some :
    lexEscaped? quote text = some (content, rest) ↔
      ∃ written, Escaped quote written content ∧ text = written ++ quote :: rest ∧
        rest.head? ≠ some quote := by
  constructor
  · intro h
    fun_induction lexEscaped? quote text generalizing content rest with
    -- the end of the text
    | case1 => simp at h
    -- a quote at the end of the text closes
    | case2 =>
        cases h
        exact ⟨[], .nil, rfl, by simp⟩
    -- any other character at the end
    | case3 => simp at h
    -- a doubled quote
    | case4 text ih =>
        obtain ⟨⟨inner, behind⟩, hinner, heq⟩ := Option.map_eq_some_iff.mp h
        cases heq
        obtain ⟨written, hwritten, rfl, hbehind⟩ := ih hinner
        exact ⟨_, .doubled hwritten, rfl, hbehind⟩
    -- a quote before another character closes
    | case5 d text hd =>
        cases h
        exact ⟨[], .nil, rfl, by simpa using hd⟩
    -- a backslash and the character that it escapes
    | case6 d text hquote ih =>
        obtain ⟨⟨inner, behind⟩, hinner, heq⟩ := Option.map_eq_some_iff.mp h
        cases heq
        obtain ⟨written, hwritten, rfl, hbehind⟩ := ih hinner
        exact ⟨_, .escape d hquote hwritten, rfl, hbehind⟩
    -- any other character
    | case7 c d text hquote hescape ih =>
        obtain ⟨⟨inner, behind⟩, hinner, heq⟩ := Option.map_eq_some_iff.mp h
        cases heq
        obtain ⟨written, hwritten, htext, hbehind⟩ := ih hinner
        exact ⟨c :: written, .plain hquote hescape hwritten, by rw [htext]; rfl, hbehind⟩
  · rintro ⟨written, hwritten, rfl, hrest⟩
    exact hwritten.lexEscaped? hrest

end SqlGateway.Sql
