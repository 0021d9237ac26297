import SqlGateway.Proofs.Shape.Squeeze
import SqlGateway.Proofs.Sql.Lexes

/-!
# Reading plain text

`Reads` says which tokens a text is cut into, one piece of the text at a time: a word, a number, a
string, a sign or a gap in front of a text adds its token to those of the text.  What has to be
known of the whole text, that its blanks outside quotes are ASCII and which backslashes it has, is
carried along from piece to piece.
-/

namespace SqlGateway.Shape

open Text Sql

variable {c : Char} {text front rest : List Char} {tokens : List Token}

/-! ### Tidy texts -/

/-- Whether every backslash stands before a wildcard, where it is no escape. -/
def escapesWildcards : List Char → Bool
  | [] => true
  | [c] => c != '\\'
  | c :: d :: rest => (c != '\\' || d == '%' || d == '_') && escapesWildcards (d :: rest)

/-- Whether blanks outside quotes are ASCII characters, and there is no escape. -/
structure IsTidy (text : List Char) : Prop where
  spaced : isPlainlySpaced none text = true
  escapes : escapesWildcards text = true

theorem escapesWildcards_of_cons (h : escapesWildcards (c :: text) = true) :
    escapesWildcards text = true := by
  cases text with
  | nil => rfl
  | cons d text => exact (Bool.and_eq_true_iff.mp h).2

theorem escapesWildcards_of_append (h : escapesWildcards (front ++ rest) = true) :
    escapesWildcards rest = true := by
  induction front with
  | nil => exact h
  | cons c front ih => exact ih (escapesWildcards_of_cons h)

theorem IsTidy.of_append (hfront : ∀ c ∈ front, opensQuote c = false)
    (htidy : IsTidy (front ++ rest)) : IsTidy rest where
  spaced := by
    have hspaced := htidy.spaced
    rw [isPlainlySpaced_append, quoteAfter_of_plain (by simp) hfront] at hspaced
    exact (Bool.and_eq_true_iff.mp hspaced).2
  escapes := escapesWildcards_of_append htidy.escapes

/-- Behind the closing quote of a string no quote is open: a doubled quote closes and opens one. -/
theorem isPlainlySpaced_of_readQuoted? {quote : Char} {content : List Char}
    (hquote : opensQuote quote = true) (hread : readQuoted? quote text = some (content, rest))
    (hspaced : isPlainlySpaced (some quote) text = true) : isPlainlySpaced none rest = true := by
  have hclose : nextQuote (some quote) quote = none := by simp [nextQuote]
  have hopen : nextQuote none quote = some quote := by simp [nextQuote, hquote]
  fun_induction readQuoted? quote text generalizing content with
  -- the end of the text
  | case1 => simp at hread
  -- a quote at the end of the text closes
  | case2 =>
      cases hread
      rfl
  -- any other character at the end
  | case3 => simp at hread
  -- a character that is no quote
  | case4 c d text hc ih =>
      obtain ⟨⟨inner, behind⟩, hinner, heq⟩ := Option.map_eq_some_iff.mp hread
      cases heq
      have hstay : nextQuote (some quote) c = some quote := by simp [nextQuote, hc]
      refine ih hinner ?_
      rw [isPlainlySpaced, hstay] at hspaced
      exact (Bool.and_eq_true_iff.mp hspaced).2
  -- a doubled quote
  | case5 c text hc ih =>
      obtain ⟨⟨inner, behind⟩, hinner, heq⟩ := Option.map_eq_some_iff.mp hread
      cases heq
      rw [Decidable.not_not.mp hc] at hspaced
      rw [isPlainlySpaced, hclose, isPlainlySpaced, hopen] at hspaced
      exact ih hinner (Bool.and_eq_true_iff.mp (Bool.and_eq_true_iff.mp hspaced).2).2
  -- a quote before another character closes
  | case6 c d text hc hd =>
      cases hread
      rw [Decidable.not_not.mp hc, isPlainlySpaced, hclose] at hspaced
      exact (Bool.and_eq_true_iff.mp hspaced).2

/-! ### Reading -/

/-- The tokens that a tidy text is cut into.  A point at its front is read as that of a number, so
no word may stand right before it. -/
def Reads (text : List Char) (tokens : List Token) : Prop :=
  IsTidy text → ∀ before : Option Lexeme,
    (before.any Lexeme.isWord = true → text.head? ≠ some '.') →
    ∃ lexemes, Lexes before text lexemes ∧ tokensOf lexemes = tokens

theorem Reads.tokenize? (hreads : Reads text tokens) (htidy : IsTidy text) :
    Sql.tokenize? text = some tokens :=
  tokenize?_eq_some.mpr (hreads htidy none (by simp))

theorem reads_nil : Reads [] [] := fun _ _ _ => ⟨[], .nil, rfl⟩

/-- One lexeme in front of a text. -/
theorem Reads.cons {t : Token} (hreads : Reads rest tokens) (hfront : IsTidy text → IsTidy rest)
    (hone : ∀ before : Option Lexeme, IsTidy text →
      (before.any Lexeme.isWord = true → text.head? ≠ some '.') →
        lexOne before text = some (.token t, rest))
    (hpoint : (Lexeme.token t).isWord = true → rest.head? ≠ some '.')
    (htoken : ∀ lexemes, tokensOf (.token t :: lexemes) = t :: tokensOf lexemes) :
    Reads text (t :: tokens) := by
  intro htidy before hbefore
  obtain ⟨lexemes, hlexes, htokens⟩ :=
    hreads (hfront htidy) (some (.token t)) (by simpa using hpoint)
  exact ⟨.token t :: lexemes, .cons (hone before htidy hbefore) hlexes, by rw [htoken, htokens]⟩

theorem Reads.blank (hc : isBlank c = true) (hreads : Reads rest tokens) :
    Reads (c :: rest) tokens := by
  intro htidy before _
  have hspacing : isSpacing c = true := by
    simpa [isPlainlySpaced, hc] using (Bool.and_eq_true_iff.mp htidy.spaced).1
  have hrest : IsTidy rest :=
    IsTidy.of_append (by simpa using opensQuote_of_isBlank hc)
    (show IsTidy ([c] ++ rest) from htidy)
  obtain ⟨lexemes, hlexes, htokens⟩ := hreads hrest (some .blank) (by simp [Lexeme.isWord])
  exact ⟨.blank :: lexemes, hlexes.spacing hspacing, htokens⟩

theorem Reads.gap (hfront : ∀ c ∈ front, isBlank c = true) (hreads : Reads rest tokens) :
    Reads (front ++ rest) tokens := by
  induction front with
  | nil => exact hreads
  | cons c front ih =>
      obtain ⟨hc, hrest⟩ := List.forall_mem_cons.mp hfront
      exact (ih hrest).blank hc

/-! ### Words -/

/-- Whether a text is one word for the lexer.  Digits at the front belong to a word if it goes on
with a letter that begins neither an exponent nor a hexadecimal number. -/
def isOneWord (word : List Char) : Bool :=
  word.all isWordPart &&
    match word.takeWhile Char.isDigit, word.dropWhile Char.isDigit with
    | [], name => !([[], ['@'], ['@', '@']].contains name)
    | ['0'], 'x' :: _ => false
    | _, c :: _ => c != 'e' && c != 'E'
    | _, [] => false

/-- Whether a character ends a word in a plain text. -/
def isBreak (c : Char) : Bool :=
  isBlank c || [',', '(', ')', '=', '<', '>', '!'].contains c

/-- Whether no word that ends before the text would go on in it. -/
def Breaks (text : List Char) : Prop :=
  ∀ c ∈ text.head?, isBreak c = true

@[simp] theorem breaks_nil : Breaks [] := by
  simp [Breaks]

@[simp] theorem breaks_cons : Breaks (c :: text) ↔ isBreak c = true := by
  simp [Breaks]

/-- Outside quotes a break is an ASCII character. -/
theorem mem_of_isBreak (hbreak : isBreak c = true)
    (hspaced : isPlainlySpaced none (c :: text) = true) :
    c ∈ [' ', '\t', '\n', '\x0b', '\x0c', '\r', ',', '(', ')', '=', '<', '>', '!'] := by
  rcases Bool.or_eq_true_iff.mp hbreak with hc | hc
  · have hspacing : isSpacing c = true := by
      simpa [isPlainlySpaced, hc] using (Bool.and_eq_true_iff.mp hspaced).1
    exact List.mem_append_left _ (mem_of_isSpacing hspacing)
  · exact List.mem_append_right [' ', '\t', '\n', '\x0b', '\x0c', '\r'] (by simpa using hc)

theorem of_breaks {p : Char → Prop} (hall : ∀ c ∈
      [' ', '\t', '\n', '\x0b', '\x0c', '\r', ',', '(', ')', '=', '<', '>', '!'], p c)
    (hbreaks : Breaks text) (hspaced : isPlainlySpaced none text = true) :
    ∀ c ∈ text.head?, p c := by
  cases text with
  | nil => simp
  | cons c text =>
      simpa using hall c (mem_of_isBreak (breaks_cons.mp hbreaks) hspaced)

theorem opensQuote_of_isWordPart (hc : isWordPart c = true) : opensQuote c = false := by
  cases hopens : opensQuote c with
  | false => rfl
  | true =>
      simp only [opensQuote, Bool.or_eq_true, beq_iff_eq] at hopens
      rcases hopens with (rfl | rfl) | rfl <;> exact absurd hc (by decide)

theorem lexWord_append (hfront : ∀ c ∈ front, isWordPart c = true)
    (hrest : StopsAt isWordPart rest) (opening : List Char) :
    lexWord opening (front ++ rest) =
      some (.token (.word (.bare (opening ++ front))), rest) := by
  rw [lexWord, takeWhile_append_of_stopsAt hfront hrest, dropWhile_append_of_stopsAt hfront hrest]

theorem lexAt_word (hfront : ∀ c ∈ front, isWordPart c = true) (hrest : StopsAt isWordPart rest)
    (hne : front ≠ []) (hat : front ≠ ['@']) :
    lexAt (front ++ rest) = some (.token (.word (.bare ('@' :: front))), rest) := by
  cases front with
  | nil => exact absurd rfl hne
  | cons c front =>
      obtain ⟨hc, hback⟩ := List.forall_mem_cons.mp hfront
      have hother : ∀ d : Char, isWordPart d = false → c ≠ d := by
        rintro d hd rfl
        simp [hd] at hc
      by_cases hsecond : c = '@'
      · subst hsecond
        cases front with
        | nil => exact absurd rfl hat
        | cons d front =>
            obtain ⟨hd, hlast⟩ := List.forall_mem_cons.mp hback
            have hblank : d ≠ ' ' := by
              rintro rfl
              exact absurd hd (by decide)
            have hread := lexWord_append hlast hrest ['@', '@', d]
            simpa [lexAt, hblank] using hread
      · rw [List.cons_append, lexAt_cons hsecond (hother '>' (by decide)) (hother '?' (by decide))]
        have hplain : ¬(c = ' ' || c = '\'' || c = '"' || c = '\x60') = true := by
          simp [hother ' ' (by decide), hother '\'' (by decide), hother '"' (by decide),
            hother '\x60' (by decide)]
        rw [if_neg hplain, lexWord_append hback hrest]
        rfl

theorem lexNumber_word {before : Option Lexeme} {digits : List Char}
    (hdigits : ∀ c ∈ digits, c.isDigit = true) (hc : isWordPart c = true)
    (hdigit : c.isDigit = false)
    (hhex : digits = ['0'] → c ≠ 'x') (hexponent : c ≠ 'e' ∧ c ≠ 'E')
    (hfront : ∀ c ∈ front, isWordPart c = true) (hrest : StopsAt isWordPart rest) :
    lexNumber before (digits ++ c :: (front ++ rest)) =
      some (.token (.word (.bare (digits ++ c :: front))), rest) := by
  have hpoint : c ≠ '.' := by
    rintro rfl
    exact absurd hc (by decide)
  have hstops : StopsAt Char.isDigit (c :: (front ++ rest)) := stopsAt_cons.mpr hdigit
  rw [lexNumber_eq before _ (takeWhile_append_of_stopsAt hdigits hstops)
    (dropWhile_append_of_stopsAt hdigits hstops) (by simpa using hhex) (by simpa using hpoint)]
  have hfront' : ∀ d ∈ c :: front, isWordPart d = true := List.forall_mem_cons.mpr ⟨hc, hfront⟩
  have hread := lexWord_append hfront' hrest digits
  simpa [finishNumber, hexponent, hc] using hread

theorem beginsString_of_head (hhead : ∀ d ∈ text.head?, opensQuote d = false) :
    beginsString c text = false := by
  cases text with
  | nil => simp [beginsString]
  | cons d text =>
      have hd : opensQuote d = false := hhead d rfl
      simp only [opensQuote, Bool.or_eq_false_iff, beq_eq_false_iff_ne] at hd
      simp [beginsString, hd]

/-- A word is cut off as a whole where no word part follows. -/
theorem lexOne_oneWord {word : List Char} {before : Option Lexeme} (hword : isOneWord word = true)
    (hrest : StopsAt isWordPart rest) (hquote : ∀ c ∈ rest.head?, opensQuote c = false) :
    lexOne before (word ++ rest) = some (.token (.word (.bare word)), rest) := by
  obtain ⟨hparts, hform⟩ := Bool.and_eq_true_iff.mp hword
  rw [List.all_eq_true] at hparts
  have hsplit := List.takeWhile_append_dropWhile (p := Char.isDigit) (l := word)
  have hdigits : ∀ c ∈ word.takeWhile Char.isDigit, c.isDigit = true :=
    fun c hc => List.mem_takeWhile_imp hc
  have hname := stopsAt_dropWhile Char.isDigit word
  -- digits at the front are begun as a number, which then turns into a word
  generalize word.takeWhile Char.isDigit = digits at hsplit hdigits hform
  generalize word.dropWhile Char.isDigit = name at hsplit hname hform
  subst hsplit
  cases digits with
  | nil =>
      simp only [List.nil_append] at hparts hform ⊢
      cases name with
      | nil => simp at hform
      | cons c name =>
          obtain ⟨hc, hback⟩ := List.forall_mem_cons.mp hparts
          have hdigit : c.isDigit = false := stopsAt_cons.mp hname
          have hstart : isWordStart c = true := by simpa [isWordPart, hdigit] using hc
          by_cases hat : c = '@'
          · subst hat
            rw [List.cons_append, lexOne_at]
            exact lexAt_word hback hrest (by rintro rfl; simp at hform)
              (by rintro rfl; simp at hform)
          · have hbegins : beginsString c (name ++ rest) = false := by
              refine beginsString_of_head ?_
              cases name with
              | nil => exact hquote
              | cons d name =>
                  simpa using opensQuote_of_isWordPart (hback d List.mem_cons_self)
            rw [List.cons_append, lexOne_word hstart hat hbegins, lexWord_append hback hrest]
            rfl
  | cons d digits =>
      have hd := hdigits d List.mem_cons_self
      cases name with
      | nil => simp at hform
      | cons c name =>
          have hform' : (d :: digits = ['0'] → c ≠ 'x') ∧ c ≠ 'e' ∧ c ≠ 'E' := by
            split at hform
            · simp_all
            · simp_all
            · simp_all
            · simp_all
          have hname' := stopsAt_cons.mp hname
          have hc : isWordPart c = true := hparts c (by simp)
          have hback : ∀ d ∈ name, isWordPart d = true := fun d hd => hparts d (by simp [hd])
          have hread : lexNumber before (d :: digits ++ c :: (name ++ rest)) =
              some (.token (.word (.bare (d :: digits ++ c :: name))), rest) :=
            lexNumber_word hdigits hc hname' hform'.1 hform'.2 hback hrest
          rw [List.append_assoc, List.cons_append, List.cons_append, lexOne_number (.inl hd)]
          exact hread

theorem Reads.word {word : List Char} (hword : isOneWord word = true) (hbreaks : Breaks rest)
    (hreads : Reads rest tokens) : Reads (word ++ rest) (.word (.bare word) :: tokens) := by
  have hparts := List.all_eq_true.mp (Bool.and_eq_true_iff.mp hword).1
  have hfront : IsTidy (word ++ rest) → IsTidy rest :=
    IsTidy.of_append fun c hc => opensQuote_of_isWordPart (hparts c hc)
  refine hreads.cons hfront (fun before htidy _ => ?_) (fun _ => ?_) fun _ => rfl
  · refine lexOne_oneWord hword ?_ ?_
    · exact of_breaks (p := fun c => isWordPart c = false) (by decide) hbreaks (hfront htidy).spaced
    · exact of_breaks (p := fun c => opensQuote c = false) (by decide) hbreaks (hfront htidy).spaced
  · intro hhead
    exact absurd (hbreaks '.' hhead) (by decide)

/-! ### Strings -/

/-- Without escapes the grammar reads a string as the short shapes do. -/
theorem lexEscaped?_eq_readQuoted? {quote : Char} (hquote : isQuote quote = true)
    (hescapes : escapesWildcards text = true) :
    lexEscaped? quote text = readQuoted? quote text := by
  have hslash : quote ≠ '\\' ∧ quote ≠ '%' ∧ quote ≠ '_' :=
    of_isQuote (p := fun c => c ≠ '\\' ∧ c ≠ '%' ∧ c ≠ '_') (by decide) (by decide) hquote
  fun_induction lexEscaped? quote text with
  -- at the end of the text there is nothing, a quote or another character
  | case1 => rfl
  | case2 => simp [readQuoted?]
  | case3 c hc => simp [readQuoted?, hc]
  -- a doubled quote
  | case4 text ih =>
      rw [ih (escapesWildcards_of_cons (escapesWildcards_of_cons hescapes))]
      simp [readQuoted?]
  -- a quote before another character
  | case5 d text hd => simp [readQuoted?, hd]
  -- a backslash, which only escapes a sign of a pattern here
  | case6 d text hc ih =>
      rw [ih (escapesWildcards_of_cons (escapesWildcards_of_cons hescapes)),
        readQuoted?_cons_of_ne hc]
      have hwild : d = '%' ∨ d = '_' := by
        simpa using (Bool.and_eq_true_iff.mp hescapes).1
      rcases hwild with rfl | rfl
      · rw [readQuoted?_cons_of_ne (Ne.symm hslash.2.1), Option.map_map]
        rfl
      · rw [readQuoted?_cons_of_ne (Ne.symm hslash.2.2), Option.map_map]
        rfl
  -- any other character
  | case7 c d text hc hescape ih =>
      rw [ih (escapesWildcards_of_cons hescapes), readQuoted?_cons_of_ne hc]

theorem Reads.string {quote : Char} {content : List Char} (hquote : isQuote quote = true)
    (hread : readQuoted? quote text = some (content, rest)) (hreads : Reads rest tokens) :
    Reads (quote :: text) (.string quote (String.ofList content) :: tokens) := by
  have hopens := opensQuote_of_isQuote hquote
  refine hreads.cons (fun htidy => ?_) (fun before htidy _ => ?_) (by simp [Lexeme.isWord])
    fun _ => rfl
  · have hspaced := (Bool.and_eq_true_iff.mp htidy.spaced).2
    rw [show nextQuote none quote = some quote by simp [nextQuote, hopens]] at hspaced
    obtain ⟨htext, -⟩ := readQuoted?_eq_some.mp hread
    refine ⟨isPlainlySpaced_of_readQuoted? hopens hread hspaced, ?_⟩
    have hescapes := escapesWildcards_of_cons htidy.escapes
    rw [htext] at hescapes
    exact escapesWildcards_of_cons (escapesWildcards_of_append hescapes)
  · have hends : quote = '\'' ∨ quote = '"' := by simpa [isQuote] using hquote
    rw [lexOne_string hends, lexString,
      lexEscaped?_eq_readQuoted? hquote (escapesWildcards_of_cons htidy.escapes), hread]
    rfl

/-! ### Numbers -/

theorem finishNumber_of_stopsAt (hrest : StopsAt isWordPart rest) (before : Option Lexeme)
    (digits : List Char) : finishNumber before digits rest =
      some (.token (.number (String.ofList digits) false), rest) := by
  cases rest with
  | nil => rfl
  | cons c rest =>
      have hc : isWordPart c = false := stopsAt_cons.mp hrest
      have hother : ∀ d : Char, isWordPart d = true → c ≠ d := by
        rintro d hd rfl
        simp [hd] at hc
      simp [finishNumber, hother 'e' (by decide), hother 'E' (by decide), hc]

/-- Digits, and perhaps a fraction behind them. -/
inductive IsUnsigned : List Char → Prop
  | whole {digits : List Char} : digits ≠ [] → (∀ c ∈ digits, c.isDigit = true) → IsUnsigned digits
  | fraction {digits fraction : List Char} : (∀ c ∈ digits, c.isDigit = true) → fraction ≠ [] →
      (∀ c ∈ fraction, c.isDigit = true) → IsUnsigned (digits ++ '.' :: fraction)

theorem isWordPart_of_isDigit (hc : c.isDigit = true) : isWordPart c = true := by
  simp [isWordPart, hc]

theorem IsUnsigned.opensQuote {number : List Char} (hnumber : IsUnsigned number) :
    ∀ c ∈ number, opensQuote c = false := by
  have hdigit : ∀ c : Char, c.isDigit = true → Shape.opensQuote c = false :=
    fun c hc => opensQuote_of_isWordPart (isWordPart_of_isDigit hc)
  intro c hc
  cases hnumber with
  | whole _ hdigits => exact hdigit c (hdigits c hc)
  | fraction hdigits _ hfraction =>
      rcases List.mem_append.mp hc with hmem | hmem
      · exact hdigit c (hdigits c hmem)
      · rcases List.mem_cons.mp hmem with rfl | hmem
        · rfl
        · exact hdigit c (hfraction c hmem)

/-- A number is cut off as a whole where neither a word part nor a point follows. -/
theorem lexOne_unsigned {number : List Char} {before : Option Lexeme} (hnumber : IsUnsigned number)
    (hrest : StopsAt isWordPart rest) (hpoint : rest.head? ≠ some '.')
    (hbefore : before.any Lexeme.isWord = true → (number ++ rest).head? ≠ some '.') :
    lexOne before (number ++ rest) =
      some (.token (.number (String.ofList number) false), rest) := by
  have hdigit : StopsAt Char.isDigit rest := by
    intro c hc
    have hpart := hrest c hc
    rw [isWordPart, Bool.or_eq_false_iff] at hpart
    exact hpart.2
  cases hnumber with
  | whole hne hdigits =>
      have htake := takeWhile_append_of_stopsAt hdigits hdigit
      have hdrop := dropWhile_append_of_stopsAt hdigits hdigit
      have hx : number = ['0'] → rest.head? ≠ some 'x' := by
        intro _ hhead
        exact absurd (hrest 'x' hhead) (by decide)
      have hread : lexNumber before (number ++ rest) = _ :=
        (lexNumber_eq before _ htake hdrop hx hpoint).trans (finishNumber_of_stopsAt hrest before _)
      cases number with
      | nil => exact absurd rfl hne
      | cons c number => exact (lexOne_number (.inl (hdigits c List.mem_cons_self))).trans hread
  | fraction hdigits hne hfraction =>
      rename_i digits fraction
      have htake := takeWhile_append_of_stopsAt hfraction hdigit
      have hdrop := dropWhile_append_of_stopsAt hfraction hdigit
      have hstop : StopsAt Char.isDigit ('.' :: (fraction ++ rest)) := stopsAt_cons.mpr (by decide)
      -- a point before an underscore would be the start of a name
      have hname : digits = [] → (fraction ++ rest).head? ≠ some '_' := by
        cases fraction with
        | nil => exact absurd rfl hne
        | cons c fraction =>
            rintro - hhead
            obtain rfl : c = '_' := by simpa using hhead
            exact absurd (hfraction '_' List.mem_cons_self) (by decide)
      have hread : lexNumber before (digits ++ '.' :: (fraction ++ rest)) =
          some (.token (.number (String.ofList (digits ++ '.' :: fraction)) false), rest) := by
        rw [lexNumber_point before (takeWhile_append_of_stopsAt hdigits hstop)
          (dropWhile_append_of_stopsAt hdigits hstop) hname, htake, hdrop, if_neg,
          finishNumber_of_stopsAt hrest]
        cases digits with
        | nil =>
            have hword : ¬before.any Lexeme.isWord = true := fun h => hbefore h rfl
            simp [hword, hne]
        | cons c digits => simp
      rw [List.append_assoc, List.cons_append]
      cases digits with
      | nil => exact (lexOne_number (.inr rfl)).trans hread
      | cons c digits => exact (lexOne_number (.inl (hdigits c List.mem_cons_self))).trans hread

theorem Reads.number {number : List Char} (hnumber : IsUnsigned number) (hbreaks : Breaks rest)
    (hreads : Reads rest tokens) :
    Reads (number ++ rest) (.number (String.ofList number) false :: tokens) := by
  have hfront : IsTidy (number ++ rest) → IsTidy rest := IsTidy.of_append hnumber.opensQuote
  refine hreads.cons hfront (fun before htidy hbefore => ?_) (by simp [Lexeme.isWord]) fun _ => rfl
  refine lexOne_unsigned hnumber ?_ (fun hhead => ?_) hbefore
  · exact of_breaks (p := fun c => isWordPart c = false) (by decide) hbreaks (hfront htidy).spaced
  · exact absurd (hbreaks '.' hhead) (by decide)

/-! ### Signs -/

/-- The signs of plain statements. -/
def plainSigns : List String :=
  [",", "(", ")", "*", "-", "=", "!=", "<>", "<", "<=", ">", ">="]

/-- The characters that go on with a sign to a longer symbol or a comment. -/
def extenders (sign : String) : List Char :=
  match sign with
  | "-" => ['-', '>']
  | "=" => ['=', '>']
  | "<" => ['=', '>', '<', '@']
  | "<=" => ['>']
  | ">" => ['=', '>']
  | _ => []

theorem lexSymbol_sign {sign : String} (hsign : sign ∈ plainSigns)
    (hrest : ∀ c ∈ rest.head?, c ∉ extenders sign) :
    lexSymbol (sign.toList ++ rest) = some (.token (.symbol sign), rest) := by
  simp only [plainSigns, List.mem_cons, List.not_mem_nil, or_false] at hsign
  rcases hsign with rfl | rfl | rfl | rfl | rfl | rfl | rfl | rfl | rfl | rfl | rfl | rfl <;>
    cases rest with
    | nil => rfl
    | cons c rest =>
        simp only [extenders, List.head?_cons, Option.mem_def, Option.some.injEq, forall_eq',
          List.mem_cons, List.not_mem_nil, or_false, not_or] at hrest
        simp [lexSymbol, longSymbols, dropWord?, eq_comm, hrest]

/-- A sign is cut off where nothing follows that would make it longer. -/
theorem lexOne_sign {sign : String} {before : Option Lexeme} (hsign : sign ∈ plainSigns)
    (hrest : ∀ c ∈ rest.head?, c ∉ extenders sign) :
    lexOne before (sign.toList ++ rest) = some (.token (.symbol sign), rest) := by
  have hsymbol := lexSymbol_sign hsign hrest
  obtain ⟨c, back, hspelling, hmark, hcomment, hline⟩ : ∃ c back, sign.toList = c :: back ∧
      isMark c = true ∧ c ≠ '/' ∧ opensLine (c :: (back ++ rest)) = false := by
    -- of the signs only the minus can open a comment
    have hminus : sign = "-" → opensLine ('-' :: rest) = false := by
      rintro rfl
      cases rest with
      | nil => rfl
      | cons c rest =>
          have hc : c ≠ '-' := by
            rintro rfl
            exact hrest '-' rfl (by decide)
          unfold opensLine
          split <;> simp_all
    simp only [plainSigns, List.mem_cons, List.not_mem_nil, or_false] at hsign
    rcases hsign with rfl | rfl | rfl | rfl | rfl | rfl | rfl | rfl | rfl | rfl | rfl | rfl
    case inr.inr.inr.inr.inl =>
      exact ⟨'-', [], rfl, by decide, by decide, hminus rfl⟩
    all_goals exact ⟨_, _, rfl, by decide, by decide, rfl⟩
  rw [hspelling, List.cons_append] at hsymbol ⊢
  rw [lexOne_mark hmark hline fun h => hcomment h.1]
  exact hsymbol

theorem Reads.sign (sign : String) (hsign : sign ∈ plainSigns)
    (hrest : ∀ c ∈ rest.head?, c ∉ extenders sign) (hreads : Reads rest tokens) :
    Reads (sign.toList ++ rest) (.symbol sign :: tokens) := by
  have hall : ∀ s ∈ plainSigns, (∀ c ∈ s.toList, opensQuote c = false) ∧
      (s == ":" || s == "@") = false := by decide
  obtain ⟨hquotes, hmark⟩ := hall sign hsign
  refine hreads.cons (IsTidy.of_append hquotes) (fun before _ _ => lexOne_sign hsign hrest)
    (by simp [Lexeme.isWord]) fun lexemes => ?_
  simp only [tokensOf, hmark, Bool.false_and, Bool.false_eq_true, if_false]

end SqlGateway.Shape
