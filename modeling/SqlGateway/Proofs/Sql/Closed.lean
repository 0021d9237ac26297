import SqlGateway.Proofs.Sql.Lexeme

/-!
# What a lexeme does not depend on

A lexeme is as long as it can be, so what follows it decides where it ends.  But every lexeme ends
at a blank or a semicolon that does not stand in quotes, whatever comes behind: how the text goes on
from there can be changed without changing the lexemes before it.
-/

namespace SqlGateway.Sql

open Text

/-! ### Characters that end a lexeme -/

/-- Whether a character ends every lexeme that is not in quotes. -/
def isClosing (c : Char) : Bool :=
  isSpacing c || c == ';'

/-- Whether no lexeme that ends before the text would go on in it. -/
def Closed (text : List Char) : Prop :=
  ∀ c ∈ text.head?, isClosing c = true

@[simp] theorem closed_nil : Closed [] := by
  simp [Closed]

@[simp] theorem closed_cons {c : Char} {text : List Char} :
    Closed (c :: text) ↔ isClosing c = true := by
  simp [Closed]

theorem of_isClosing {p : Char → Prop}
    (hall : ∀ c ∈ [' ', '\t', '\n', '\x0b', '\x0c', '\r', ';'], p c) {c : Char}
    (hc : isClosing c = true) : p c := by
  simp only [isClosing, Bool.or_eq_true, beq_iff_eq] at hc
  rcases hc with hc | rfl
  · exact hall c (List.mem_append_left [';'] (mem_of_isSpacing hc))
  · exact hall ';' (by decide)

theorem isWordPart_of_isClosing {c : Char} (hc : isClosing c = true) : isWordPart c = false :=
  of_isClosing (p := fun c => isWordPart c = false) (by decide) hc

theorem isDigit_of_isClosing {c : Char} (hc : isClosing c = true) : c.isDigit = false :=
  of_isClosing (p := fun c => c.isDigit = false) (by decide) hc

theorem isHexDigit_of_isClosing {c : Char} (hc : isClosing c = true) : isHexDigit c = false :=
  of_isClosing (p := fun c => isHexDigit c = false) (by decide) hc

theorem isNumeric_of_isClosing {c : Char} (hc : isClosing c = true) : isNumeric c = false :=
  of_isClosing (p := fun c => isNumeric c = false) (by decide) hc

theorem isClosing_of_quote {c : Char} (hc : c = '\'' ∨ c = '"') : isClosing c = false := by
  rcases hc with rfl | rfl <;> decide

/-- A step with more text behind what it leaves. -/
def followed (tail : List Char) (step : LexStep) : LexStep :=
  step.map fun found => (found.1, found.2 ++ tail)

variable {text tail rest : List Char}

theorem Closed.ne {c d : Char} (htail : Closed (c :: tail)) (hd : isClosing d = false) : c ≠ d := by
  rintro rfl
  simp [hd] at htail

theorem Closed.head?_append {quote : Char} (htail : Closed tail)
    (hquote : isClosing quote = false) :
    (rest ++ tail).head? ≠ some quote ↔ rest.head? ≠ some quote := by
  cases rest with
  | cons c rest => simp
  | nil =>
      cases tail with
      | nil => simp
      | cons c tail => simpa using htail.ne hquote

theorem Closed.head?_ne {c : Char} (htail : Closed tail) (hc : isClosing c = false) :
    tail.head? ≠ some c := by
  have hhead : ([] ++ tail).head? ≠ some c := (htail.head?_append hc).mpr (by simp)
  simpa using hhead

theorem Closed.beginsString_append {c : Char} (htail : Closed tail) :
    beginsString c (text ++ tail) = beginsString c text := by
  cases text with
  | cons d text => rfl
  | nil =>
      have hsingle : tail.head? ≠ some '\'' := htail.head?_ne (by decide)
      have hdouble : tail.head? ≠ some '"' := htail.head?_ne (by decide)
      simp [beginsString, hsingle, hdouble]

theorem Closed.stopsAt (htail : Closed tail) {test : Char → Bool}
    (htest : ∀ c, isClosing c = true → test c = false) : StopsAt test tail :=
  fun c hc => htest c (htail c hc)

theorem lexWord_append (htail : Closed tail) (front text : List Char) :
    lexWord front (text ++ tail) = followed tail (lexWord front text) := by
  have hpart : StopsAt isWordPart tail := htail.stopsAt fun c => isWordPart_of_isClosing
  simp [lexWord, followed, hpart.takeWhile_append, hpart.dropWhile_append]

/-- A string in quotes ends before anything that is no quote. -/
theorem lexString_append {make : String → Token} {quote : Char} (hquote : isClosing quote = false)
    (htail : Closed tail) {l : Lexeme} :
    lexString make quote (text ++ tail) = some (l, rest ++ tail) ↔
      lexString make quote text = some (l, rest) := by
  have hread : ∀ content : List Char,
      lexEscaped? quote (text ++ tail) = some (content, rest ++ tail) ↔
      lexEscaped? quote text = some (content, rest) := by
    intro content
    rw [lexEscaped?_eq_some, lexEscaped?_eq_some]
    have happend : ∀ written : List Char, text ++ tail = written ++ quote :: (rest ++ tail) ↔
        text = written ++ quote :: rest := by
      intro written
      rw [← List.cons_append, ← List.append_assoc, List.append_cancel_right_eq]
    simp only [htail.head?_append hquote, happend]
  simp [lexString, Option.map_eq_some_iff, hread]

theorem lexPlainString_append {make : List Char → Token} {quote : Char}
    (hquote : isClosing quote = false) (htail : Closed tail) {l : Lexeme} :
    lexPlainString make quote (text ++ tail) = some (l, rest ++ tail) ↔
      lexPlainString make quote text = some (l, rest) := by
  have hread : ∀ content : List Char,
      readQuoted? quote (text ++ tail) = some (content, rest ++ tail) ↔
      readQuoted? quote text = some (content, rest) := by
    intro content
    rw [readQuoted?_eq_some, readQuoted?_eq_some, ← List.cons_append, ← List.append_assoc,
      List.append_cancel_right_eq, htail.head?_append hquote]
  simp [lexPlainString, Option.map_eq_some_iff, hread]

theorem followed_eq_some {step : LexStep} {l : Lexeme} :
    followed tail step = some (l, rest ++ tail) ↔ step = some (l, rest) := by
  cases step <;> simp [followed, Prod.ext_iff]

theorem lexExponent?_append (htail : Closed tail) (e : Char) (text : List Char) :
    lexExponent? (e :: text ++ tail) =
      (lexExponent? (e :: text)).map fun found => (found.1, found.2 ++ tail) := by
  have hdigit : StopsAt Char.isDigit tail := htail.stopsAt fun c => isDigit_of_isClosing
  cases text with
  | nil =>
      cases tail with
      | nil => rfl
      | cons c tail =>
          simp [lexExponent?, htail.ne (d := '+') (by decide), htail.ne (d := '-') (by decide),
            stopsAt_cons.mp hdigit]
  | cons sign text =>
      have htake := hdigit.takeWhile_append text
      have hdrop := hdigit.dropWhile_append text
      have htake' := hdigit.takeWhile_append (sign :: text)
      have hdrop' := hdigit.dropWhile_append (sign :: text)
      rw [List.cons_append] at htake' hdrop'
      simp only [List.cons_append, lexExponent?, htake, hdrop, htake', hdrop']
      split <;> split <;> simp

theorem finishExponent_append (htail : Closed tail) (before : Option Lexeme)
    (front text : List Char) :
    finishExponent before front (text ++ tail) =
      followed tail (finishExponent before front text) := by
  unfold finishExponent
  by_cases hpoint : before.any Lexeme.isPoint = true
  · simp [hpoint, followed]
  · simp only [hpoint]
    cases text with
    | nil =>
        cases tail with
        | nil => rfl
        | cons c tail =>
            have hc := htail.ne (d := 'L') (by decide)
            simp [followed, hc]
    | cons c text =>
        by_cases hc : c = 'L'
        · subst hc
          rfl
        · simp [followed, hc]

theorem finishNumber_append (htail : Closed tail) (before : Option Lexeme)
    (front text : List Char) :
    finishNumber before front (text ++ tail) =
      followed tail (finishNumber before front text) := by
  cases text with
  | nil =>
      cases tail with
      | nil => rfl
      | cons c tail =>
          have hpart := isWordPart_of_isClosing (closed_cons.mp htail)
          simp [finishNumber, htail.ne (d := 'e') (by decide), htail.ne (d := 'E') (by decide),
            hpart, followed]
  | cons c text =>
      have hexponent := lexExponent?_append htail c text
      rw [List.cons_append] at hexponent
      have hshort := finishExponent_append htail before front (c :: text)
      have hword := lexWord_append htail front (c :: text)
      rw [List.cons_append] at hshort hword
      simp only [List.cons_append, finishNumber, hexponent]
      split
      · cases lexExponent? (c :: text) with
        | none => exact hshort
        | some found => exact finishExponent_append htail before _ _
      · split
        · exact hword
        · rfl

/-- What a digit or a point begins is the same whatever follows it behind a gap. -/
theorem lexNumber_append (htail : Closed tail) (before : Option Lexeme) (text : List Char) :
    lexNumber before (text ++ tail) = followed tail (lexNumber before text) := by
  have hdigit : StopsAt Char.isDigit tail := htail.stopsAt fun c => isDigit_of_isClosing
  have hhex : StopsAt isHexDigit tail := htail.stopsAt fun c => isHexDigit_of_isClosing
  have htake := hdigit.takeWhile_append text
  have hdrop := hdigit.dropWhile_append text
  cases hrest : text.dropWhile Char.isDigit with
  | nil =>
      rw [hrest, List.nil_append] at hdrop
      rw [lexNumber_eq before text rfl hrest (by simp) (by simp),
        lexNumber_eq before (text ++ tail) htake hdrop, ← finishNumber_append htail]
      · rfl
      · exact fun _ => htail.head?_ne (by decide)
      · exact htail.head?_ne (by decide)
  | cons c behind =>
      rw [hrest, List.cons_append] at hdrop
      by_cases hpoint : c = '.'
      · subst hpoint
        by_cases hname : text.takeWhile Char.isDigit = [] ∧ behind.head? = some '_'
        · obtain ⟨hwhole, hbehind⟩ := hname
          obtain ⟨further, rfl⟩ := List.head?_eq_some_iff.mp hbehind
          rw [lexNumber_name before hwhole hrest, lexNumber_name before (htake.trans hwhole) hdrop]
          split <;> rfl
        · have hname : text.takeWhile Char.isDigit = [] → behind.head? ≠ some '_' := by
            simpa using hname
          rw [lexNumber_point before rfl hrest hname, lexNumber_point before htake hdrop
              fun hwhole => (htail.head?_append (by decide)).mpr (hname hwhole),
            hdigit.takeWhile_append, hdigit.dropWhile_append,
            finishNumber_append htail]
          split <;> rfl
      · by_cases hx : text.takeWhile Char.isDigit = ['0'] ∧ c = 'x'
        · obtain ⟨hwhole, rfl⟩ := hx
          rw [lexNumber_hex before hwhole hrest, lexNumber_hex before (htake.trans hwhole) hdrop,
            hhex.takeWhile_append, hhex.dropWhile_append]
          rfl
        · have hhead : text.takeWhile Char.isDigit = ['0'] → some c ≠ some 'x' := by
            simpa using hx
          have hhead' : some c ≠ some '.' := by simpa using hpoint
          rw [lexNumber_eq before text rfl hrest hhead hhead',
            lexNumber_eq before (text ++ tail) htake hdrop hhead hhead', ← List.cons_append,
            finishNumber_append htail]

theorem dropWord?_append (htail : Closed tail) {word : List Char}
    (hword : ∀ c ∈ word, isClosing c = false) :
    dropWord? word (text ++ tail) = (dropWord? word text).map (· ++ tail) := by
  induction word generalizing text with
  | nil => rfl
  | cons w word ih =>
      obtain ⟨hw, hrest⟩ := List.forall_mem_cons.mp hword
      cases text with
      | nil =>
          cases tail with
          | nil => rfl
          | cons c tail => simp [dropWord?, Ne.symm (htail.ne hw)]
      | cons c text =>
          by_cases hc : w = c
          · simp [dropWord?, hc, ih hrest]
          · simp [dropWord?, hc]

theorem lexSymbol_append (htail : Closed tail) (htext : text ≠ []) :
    lexSymbol (text ++ tail) = followed tail (lexSymbol text) := by
  -- no symbol reaches into a closed tail, as none has a closing character
  have hword : ∀ s ∈ longSymbols, ∀ c ∈ s.toList, isClosing c = false := by decide
  have hlong : (longSymbols.findSome? fun s =>
        (dropWord? s.toList (text ++ tail)).map fun rest => (Lexeme.token (.symbol s), rest)) =
      followed tail (longSymbols.findSome? fun s =>
        (dropWord? s.toList text).map fun rest => (Lexeme.token (.symbol s), rest)) := by
    generalize longSymbols = symbols at hword ⊢
    induction symbols with
    | nil => rfl
    | cons s symbols ih =>
        obtain ⟨hs, hsymbols⟩ := List.forall_mem_cons.mp hword
        simp only [List.findSome?_cons, dropWord?_append htail hs, ih hsymbols]
        cases dropWord? s.toList text <;> rfl
  unfold lexSymbol
  rw [hlong]
  cases longSymbols.findSome? fun s =>
        (dropWord? s.toList text).map fun rest => (Lexeme.token (.symbol s), rest) with
  | some found => rfl
  | none => 
    cases text with
    | nil => exact absurd rfl htext
    | cons c text => rfl

theorem lexAt_append (htail : Closed tail) (htext : text ≠ []) (htwo : text ≠ ['@']) :
    lexAt (text ++ tail) = followed tail (lexAt text) := by
  cases text with
  | nil => exact absurd rfl htext
  | cons c text =>
      by_cases hat : c = '@'
      · subst hat
        cases text with
        | nil => exact absurd rfl htwo
        | cons d text =>
            by_cases hd : d = ' '
            · subst hd
              rfl
            · simpa [lexAt, hd] using lexWord_append htail _ _
      · by_cases hgreater : c = '>'
        · subst hgreater
          rfl
        · by_cases hquestion : c = '?'
          · subst hquestion
            rfl
          · have hword := lexWord_append htail ['@', c] text
            rw [List.cons_append, lexAt_cons hat hgreater hquestion,
              lexAt_cons hat hgreater hquestion, hword]
            split <;> rfl

theorem skipComment?_cons {c : Char} (hend : ¬(c = '*' ∧ text.head? = some '/')) :
    skipComment? (c :: text) = skipComment? text := by
  cases text with
  | nil => rfl
  | cons d text =>
      have hend : ¬(c = '*' ∧ d = '/') := by simpa using hend
      simp [skipComment?, hend]

theorem length_skipComment? (h : skipComment? text = some rest) :
    rest.length < text.length := by
  fun_induction skipComment? text with
  -- no end in a text of at most one character
  | case1 | case2 => contradiction
  -- the end of the comment
  | case3 c d text hend =>
      cases h
      simp only [List.length_cons]
      omega
  -- a character inside the comment
  | case4 c d text hend ih =>
      have hshorter := ih h
      simp only [List.length_cons] at hshorter ⊢
      omega

theorem skipComment?_append (htail : Closed tail) :
    skipComment? (text ++ tail) = some (rest ++ tail) ↔ skipComment? text = some rest := by
  induction text with
  | nil =>
      refine ⟨fun h => ?_, fun h => by simp [skipComment?] at h⟩
      have hshorter := length_skipComment? h
      simp only [List.length_append, List.nil_append] at hshorter
      omega
  | cons c text ih =>
      by_cases hend : c = '*' ∧ text.head? = some '/'
      · obtain ⟨rfl, hslash⟩ := hend
        obtain ⟨behind, rfl⟩ := List.head?_eq_some_iff.mp hslash
        simp [skipComment?]
      · have hend' : ¬(c = '*' ∧ (text ++ tail).head? = some '/') := by
          intro ⟨hstar, hslash⟩
          exact (htail.head?_append (by decide)).mpr (fun h => hend ⟨hstar, h⟩) hslash
        rw [List.cons_append, skipComment?_cons hend', skipComment?_cons hend, ih]

theorem opensLine_of_append (hline : opensLine (text ++ tail) = false) :
    opensLine text = false := by
  rw [← Bool.not_eq_true] at hline ⊢
  exact fun hopens => hline (opensLine_append hopens tail)

/-- A lexeme is the same whatever follows it behind a gap.  Signs that may take the character behind
them are set apart, and so are comments up to the end of the line. -/
theorem lexOne_append (htail : Closed tail) {before : Option Lexeme} {l : Lexeme}
    (htext : text ≠ []) (hline : opensLine (text ++ tail) = false)
    (hat : text ≠ ['@'] ∧ text ≠ ['@', '@']) :
    lexOne before (text ++ tail) = some (l, rest ++ tail) ↔
      lexOne before text = some (l, rest) := by
  have hsame : ∀ {step step' : LexStep}, step' = followed tail step →
      (step' = some (l, rest ++ tail) ↔ step = some (l, rest)) := by
    rintro step _ rfl
    exact followed_eq_some
  have hlineText := opensLine_of_append hline
  cases text with
  | nil => exact absurd rfl htext
  | cons c text =>
      rw [List.cons_append] at hline ⊢
      -- the first character says which reader takes over
      cases opening c text with
      | spacing hspacing =>
          rw [lexOne_spacing hspacing, lexOne_spacing hspacing]
          exact hsame rfl
      | string hquote =>
          rw [lexOne_string hquote, lexOne_string hquote]
          exact lexString_append (isClosing_of_quote hquote) htail
      | backtick hbacktick =>
          rw [hbacktick, lexOne_backtick, lexOne_backtick]
          exact lexPlainString_append (by decide) htail
      | number hnumber =>
          rw [lexOne_number hnumber, lexOne_number hnumber]
          exact hsame (lexNumber_append htail before (c :: text))
      | line hline' =>
          rw [hlineText] at hline'
          contradiction
      | comment behind hslash hstar =>
          rw [hslash, hstar, List.cons_append, lexOne_comment, lexOne_comment]
          simp only [Option.map_eq_some_iff, Prod.mk.injEq, exists_eq_right_right]
          rw [skipComment?_append htail]
      | letter hbegins =>
          obtain ⟨quote, text, rfl, hquote, ⟨make, hlex⟩ | ⟨make, hlex⟩⟩ := lexOne_prefixed hbegins
          · rw [List.cons_append, hlex, hlex]
            exact lexString_append (isClosing_of_quote hquote) htail
          · rw [List.cons_append, hlex, hlex]
            exact lexPlainString_append (isClosing_of_quote hquote) htail
      | placeholder hsign =>
          have hnumeric : StopsAt isNumeric tail :=
            htail.stopsAt fun c => isNumeric_of_isClosing
          rw [hsign, lexOne_placeholder, lexOne_placeholder, hnumeric.takeWhile_append,
            hnumeric.dropWhile_append]
          exact hsame rfl
      | sign hsign =>
          subst hsign
          refine hsame (lexAt_append htail ?_ ?_)
          · rintro rfl
            exact hat.1 rfl
          · rintro rfl
            exact hat.2 rfl
      | word hword hsign hbegins =>
          have hbegins' : beginsString c (text ++ tail) = false := by
            rw [htail.beginsString_append, hbegins]
          rw [lexOne_word hword hsign hbegins, lexOne_word hword hsign hbegins']
          exact hsame (lexWord_append htail _ _)
      | mark hmark _ hcomment =>
          have hcomment' : ¬(c = '/' ∧ (text ++ tail).head? = some '*') := by
            intro ⟨hslash, hstar⟩
            have hother : isClosing '*' = false := by decide
            exact (htail.head?_append hother).mpr (fun h => hcomment ⟨hslash, h⟩) hstar
          rw [lexOne_mark hmark hline hcomment', lexOne_mark hmark hlineText hcomment]
          exact hsame (lexSymbol_append htail htext)

end SqlGateway.Sql
