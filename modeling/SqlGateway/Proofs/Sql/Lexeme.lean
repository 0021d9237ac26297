import SqlGateway.Proofs.Sql.Escaped
import SqlGateway.Proofs.Text.Ascii
import SqlGateway.Proofs.Text.Doubled
import SqlGateway.Proofs.Text.Prefix

/-!
# The lexeme at the front of a text

What comes first in a text decides how its first lexeme is read.  There is one lemma for each way,
under a condition on the first characters alone, so that proofs about lexemes go by these ways and
need not open the lexer.
-/

namespace SqlGateway.Sql

open Text

/-- Whether a character separates tokens: the ASCII blanks. -/
def isSpacing (c : Char) : Bool :=
  isBlank c && c.val < 128

theorem isBlank_of_isSpacing {c : Char} (hc : isSpacing c = true) : isBlank c = true := by
  simp only [isSpacing, Bool.and_eq_true] at hc
  exact hc.1

theorem mem_of_isSpacing {c : Char} (hc : isSpacing c = true) :
    c ∈ [' ', '\t', '\n', '\x0b', '\x0c', '\r'] := by
  have hascii : c.toNat < 128 := by
    simp only [isSpacing, Bool.and_eq_true, decide_eq_true_eq] at hc
    exact hc.2
  revert hc
  exact forall_ascii
    (p := fun c => isSpacing c = true → c ∈ [' ', '\t', '\n', '\x0b', '\x0c', '\r'])
    (by decide) hascii

/-- Whether a text begins a comment up to the end of the line. -/
def opensLine : List Char → Bool
  | '#' :: _ => true
  | '-' :: '-' :: c :: _ => isBlank c
  | _ => false

theorem opensLine_eq_true {text : List Char} :
    opensLine text = true ↔ (∃ rest, text = '#' :: rest) ∨
      ∃ c rest, text = '-' :: '-' :: c :: rest ∧ isBlank c = true := by
  unfold opensLine
  split <;> simp_all

theorem opensLine_append {text : List Char} (hline : opensLine text = true) (behind : List Char) :
    opensLine (text ++ behind) = true := by
  rcases opensLine_eq_true.mp hline with ⟨rest, rfl⟩ | ⟨c, rest, rfl, hc⟩
  · rfl
  · exact hc

/-- Whether a letter begins a string of a kind of its own. -/
def beginsString (c : Char) (rest : List Char) : Bool :=
  (['b', 'B', 'n', 'N', 'x', 'X'].contains c && rest.head? == some '\'') ||
    (['b', 'B'].contains c && rest.head? == some '"')

/-- Whether a character can only be a symbol or the beginning of one or of a comment. -/
def isMark (c : Char) : Bool :=
  !(isWordStart c || isBlank c || c.isDigit || ['\'', '"', '\x60', '.', '?', '#'].contains c)

theorem isDigit_of_isWordStart {c : Char} (hc : isWordStart c = true) : c.isDigit = false := by
  cases hdigit : c.isDigit with
  | false => rfl
  | true =>
      have hascii : c.toNat < 128 := toNat_lt_of_isAlphanum (by simp [Char.isAlphanum, hdigit])
      revert hc hdigit
      exact forall_ascii
        (p := fun c => isWordStart c = true → c.isDigit = true → true = false) (by decide) hascii

/-- Beyond ASCII every character can begin a word. -/
theorem isBlank_of_not_spacing {c : Char} (hword : ¬isWordStart c = true)
    (hspacing : ¬isSpacing c = true) : isBlank c = false := by
  simp only [isWordStart, Bool.or_eq_true, decide_eq_true_eq, not_or, UInt32.not_le] at hword
  simpa [isSpacing, hword.2] using hspacing

/-! ### The ways to read a lexeme -/

variable {before : Option Lexeme} {c : Char} {rest : List Char}

theorem lexOne_spacing (hc : isSpacing c = true) :
    lexOne before (c :: rest) = some (.blank, rest) := by
  have hmem := mem_of_isSpacing hc
  simp only [List.mem_cons, List.not_mem_nil, or_false] at hmem
  rcases hmem with rfl | rfl | rfl | rfl | rfl | rfl <;> rfl

theorem lexOne_string (hc : c = '\'' ∨ c = '"') :
    lexOne before (c :: rest) = lexString (.string c) c rest := by
  rcases hc with rfl | rfl <;> rfl

theorem lexOne_backtick :
    lexOne before ('\x60' :: rest) =
      lexPlainString (fun text => .word (.quoted text)) '\x60' rest := rfl

theorem lexOne_number (hc : c.isDigit = true ∨ c = '.') :
    lexOne before (c :: rest) = lexNumber before (c :: rest) := by
  have hne : ∀ d : Char, d.isDigit = false ∧ d ≠ '.' → c ≠ d := by
    rintro d ⟨hd, hpoint⟩ rfl
    simp [hd, hpoint] at hc
  simp (disch := decide) [lexOne, hne, hc]

theorem lexOne_word (hc : isWordStart c = true) (hat : c ≠ '@')
    (hbegins : beginsString c rest = false) :
    lexOne before (c :: rest) = lexWord [c] rest := by
  have hne : ∀ d : Char, isWordStart d = false → c ≠ d := by
    rintro d hd rfl
    simp [hd] at hc
  have hdigit := isDigit_of_isWordStart hc
  simp (disch := decide) [lexOne, hne, hc, hdigit]
  split <;> first | exact absurd rfl (hne _ (by decide)) | simp_all [beginsString]

theorem lexOne_prefixed (hbegins : beginsString c rest = true) :
    ∃ quote text, rest = quote :: text ∧ (quote = '\'' ∨ quote = '"') ∧
      ((∃ make, ∀ before text, lexOne before (c :: quote :: text) = lexString make quote text) ∨
        ∃ make, ∀ before text, lexOne before (c :: quote :: text) =
          lexPlainString make quote text) := by
  simp only [beginsString, Bool.or_eq_true, Bool.and_eq_true, List.contains_eq_mem,
    decide_eq_true_eq, beq_iff_eq, List.head?_eq_some_iff, List.mem_cons, List.not_mem_nil,
    or_false] at hbegins
  obtain ⟨hc, text, rfl⟩ | ⟨hc, text, rfl⟩ := hbegins
  · refine ⟨'\'', text, rfl, .inl rfl, ?_⟩
    rcases hc with rfl | rfl | rfl | rfl | rfl | rfl
    · exact .inr ⟨fun text => .bytes '\'' (String.ofList text), fun _ _ => rfl⟩
    · exact .inr ⟨fun text => .bytes '\'' (String.ofList text), fun _ _ => rfl⟩
    · exact .inl ⟨_, fun _ _ => rfl⟩
    · exact .inl ⟨_, fun _ _ => rfl⟩
    · exact .inl ⟨_, fun _ _ => rfl⟩
    · exact .inl ⟨_, fun _ _ => rfl⟩
  · refine ⟨'"', text, rfl, .inr rfl, .inr ?_⟩
    rcases hc with rfl | rfl
    · exact ⟨fun text => .bytes '"' (String.ofList text), fun _ _ => rfl⟩
    · exact ⟨fun text => .bytes '"' (String.ofList text), fun _ _ => rfl⟩

theorem lexOne_at : lexOne before ('@' :: rest) = lexAt rest := rfl

theorem lexAt_cons (hat : c ≠ '@') (hgreater : c ≠ '>') (hquestion : c ≠ '?') :
    lexAt (c :: rest) =
      if c = ' ' || c = '\'' || c = '"' || c = '\x60' then
        some (.token (.symbol "@"), c :: rest)
      else lexWord ['@', c] rest := by
  simp [lexAt, hat]

theorem lexOne_placeholder :
    lexOne before ('?' :: rest) =
      some (.token (.placeholder (String.ofList ('?' :: rest.takeWhile isNumeric))),
        rest.dropWhile isNumeric) := rfl

theorem lexOne_comment :
    lexOne before ('/' :: '*' :: rest) =
      (skipComment? rest).map fun afterwards => (.blank, afterwards) := rfl

theorem lexOne_line {text : List Char} (htext : opensLine text = true) :
    lexOne before text = some (.blank, (text.dropWhile (· != '\n')).drop 1) := by
  rcases opensLine_eq_true.mp htext with ⟨rest, rfl⟩ | ⟨c, rest, rfl, hc⟩
  · rfl
  · simp [lexOne, hc, lexLineComment, Char.isDigit]

theorem lexOne_line_end {text : List Char} (hfree : '\n' ∉ text) (htext : opensLine text = true) :
    lexOne before text = some (.blank, []) := by
  have hall : ∀ c ∈ text, (c != '\n') = true := by
    intro c hc
    simpa using fun heq : c = '\n' => hfree (heq ▸ hc)
  have hnone := dropWhile_append_of_stopsAt hall stopsAt_nil
  rw [List.append_nil] at hnone
  rw [lexOne_line htext, hnone]
  rfl

theorem lexOne_line_break {line behind : List Char} (hfree : '\n' ∉ line)
    (hline : opensLine (line ++ '\n' :: behind) = true) :
    lexOne before (line ++ '\n' :: behind) = some (.blank, behind) := by
  have hall : ∀ c ∈ line, (c != '\n') = true := by
    intro c hc
    simpa using fun heq : c = '\n' => hfree (heq ▸ hc)
  rw [lexOne_line hline, dropWhile_append_of_stopsAt hall (by simp)]
  rfl

theorem lexOne_mark (hc : isMark c = true) (hline : opensLine (c :: rest) = false)
    (hcomment : ¬(c = '/' ∧ rest.head? = some '*')) :
    lexOne before (c :: rest) = lexSymbol (c :: rest) := by
  have hne : ∀ d : Char, isMark d = false → c ≠ d := by
    rintro d hd rfl
    simp [hd] at hc
  simp [isMark] at hc
  simp (disch := decide) [lexOne, hne, hc]
  split <;> first | exact absurd rfl (hne _ (by decide)) | simp_all [opensLine]

/-- The ways to read the lexeme at the front of a text. -/
inductive Opening (c : Char) (rest : List Char) : Prop
  | spacing (hspacing : isSpacing c = true)
  | string (hquote : c = '\'' ∨ c = '"')
  | backtick (hbacktick : c = '\x60')
  | number (hnumber : c.isDigit = true ∨ c = '.')
  | line (hline : opensLine (c :: rest) = true)
  | comment (behind : List Char) (hslash : c = '/') (hstar : rest = '*' :: behind)
  | letter (hbegins : beginsString c rest = true)
  | placeholder (hsign : c = '?')
  | sign (hsign : c = '@')
  | word (hword : isWordStart c = true) (hsign : c ≠ '@') (hbegins : beginsString c rest = false)
  | mark (hmark : isMark c = true) (hline : opensLine (c :: rest) = false)
      (hcomment : ¬(c = '/' ∧ rest.head? = some '*'))

/-- Every text that is not empty is read in one of these ways. -/
theorem opening (c : Char) (rest : List Char) : Opening c rest := by
  by_cases hspacing : isSpacing c = true
  · exact .spacing hspacing
  by_cases hquote : c = '\'' ∨ c = '"'
  · exact .string hquote
  by_cases hbacktick : c = '\x60'
  · exact .backtick hbacktick
  by_cases hnumber : c.isDigit = true ∨ c = '.'
  · exact .number hnumber
  by_cases hline : opensLine (c :: rest) = true
  · exact .line hline
  by_cases hcomment : c = '/' ∧ rest.head? = some '*'
  · obtain ⟨behind, hbehind⟩ := List.head?_eq_some_iff.mp hcomment.2
    exact .comment behind hcomment.1 hbehind
  by_cases hbegins : beginsString c rest = true
  · exact .letter hbegins
  by_cases hplaceholder : c = '?'
  · exact .placeholder hplaceholder
  by_cases hsign : c = '@'
  · exact .sign hsign
  by_cases hword : isWordStart c = true
  · exact .word hword hsign (by simpa using hbegins)
  have hsharp : c ≠ '#' := by
    rintro rfl
    simp [opensLine] at hline
  have hblank := isBlank_of_not_spacing hword hspacing
  have hmark : isMark c = true := by
    simp_all [isMark]
  exact .mark hmark (by simpa using hline) hcomment

/-! ### Numbers -/

/-- What the digits at the front of a text and what follows them amount to. -/
theorem lexNumber_eq (before : Option Lexeme) (text : List Char) {whole rest : List Char}
    (hwhole : text.takeWhile Char.isDigit = whole) (hrest : text.dropWhile Char.isDigit = rest)
    (hx : whole = ['0'] → rest.head? ≠ some 'x') (hpoint : rest.head? ≠ some '.') :
    lexNumber before text = finishNumber before whole rest := by
  unfold lexNumber
  simp only [hwhole, hrest]
  split <;> simp_all

theorem lexNumber_hex (before : Option Lexeme) {text behind : List Char}
    (hwhole : text.takeWhile Char.isDigit = ['0'])
    (hrest : text.dropWhile Char.isDigit = 'x' :: behind) :
    lexNumber before text = some (.token (.hex (String.ofList (behind.takeWhile isHexDigit))),
      behind.dropWhile isHexDigit) := by
  unfold lexNumber
  simp only [hwhole, hrest]

theorem lexNumber_point (before : Option Lexeme) {text whole behind : List Char}
    (hwhole : text.takeWhile Char.isDigit = whole)
    (hrest : text.dropWhile Char.isDigit = '.' :: behind)
    (hname : whole = [] → behind.head? ≠ some '_') :
    lexNumber before text =
      if whole.isEmpty && (before.any Lexeme.isWord || (behind.takeWhile Char.isDigit).isEmpty) then
        some (.token (.symbol "."), behind)
      else
        finishNumber before (whole ++ '.' :: behind.takeWhile Char.isDigit)
          (behind.dropWhile Char.isDigit) := by
  unfold lexNumber
  simp only [hwhole, hrest]
  split
  · simp_all
  · simp_all
  · simp_all
  · simp_all

theorem lexNumber_name (before : Option Lexeme) {text behind : List Char}
    (hwhole : text.takeWhile Char.isDigit = [])
    (hrest : text.dropWhile Char.isDigit = '.' :: '_' :: behind) :
    lexNumber before text =
      if before.any Lexeme.isWord then some (.token (.symbol "."), '_' :: behind) else none := by
  unfold lexNumber
  simp only [hwhole, hrest]

/-! ### Every lexeme takes characters -/

variable {text : List Char} {l : Lexeme}

theorem lexWord_suffix {front : List Char} (h : lexWord front text = some (l, rest)) :
    rest <:+ text := by
  cases h
  exact List.dropWhile_suffix _

theorem lexString_suffix {make : String → Token} {quote : Char}
    (h : lexString make quote text = some (l, rest)) : rest <:+ text := by
  obtain ⟨⟨content, behind⟩, hread, heq⟩ := Option.map_eq_some_iff.mp h
  cases heq
  obtain ⟨written, -, rfl, -⟩ := lexEscaped?_eq_some.mp hread
  exact ⟨written ++ [quote], by simp⟩

theorem lexPlainString_suffix {make : List Char → Token} {quote : Char}
    (h : lexPlainString make quote text = some (l, rest)) : rest <:+ text := by
  obtain ⟨⟨content, behind⟩, hread, heq⟩ := Option.map_eq_some_iff.mp h
  cases heq
  obtain ⟨rfl, -⟩ := readQuoted?_eq_some.mp hread
  exact ⟨doubled quote content ++ [quote], by simp⟩

theorem lexExponent?_suffix {exponent : List Char}
    (h : lexExponent? text = some (exponent, rest)) : rest <:+ text := by
  unfold lexExponent? at h
  split at h
  · rename_i e sign text
    dsimp only at h
    split at h
    · split at h
      · contradiction
      · cases h
        exact (List.dropWhile_suffix _).trans ⟨[e, sign], rfl⟩
    · split at h
      · contradiction
      · cases h
        exact (List.dropWhile_suffix _).trans ⟨[e], rfl⟩
  · contradiction

theorem finishExponent_suffix {before : Option Lexeme} {front : List Char}
    (h : finishExponent before front text = some (l, rest)) : rest <:+ text := by
  unfold finishExponent at h
  split at h
  · cases h
    exact List.suffix_refl _
  · split at h
    · cases h
      exact List.suffix_cons _ _
    · cases h
      exact List.suffix_refl _

theorem finishNumber_suffix {before : Option Lexeme} {front : List Char}
    (h : finishNumber before front text = some (l, rest)) : rest <:+ text := by
  cases text with
  | nil =>
      cases h
      exact List.suffix_refl _
  | cons c text =>
      simp only [finishNumber] at h
      split at h
      · split at h
        · exact (finishExponent_suffix h).trans (lexExponent?_suffix ‹_›)
        · exact finishExponent_suffix h
      · split at h
        · exact lexWord_suffix h
        · cases h
          exact List.suffix_refl _

/-- A digit or a point belongs to what it begins. -/
theorem lexNumber_suffix {c : Char} (hc : c.isDigit = true ∨ c = '.')
    (h : lexNumber before (c :: text) = some (l, rest)) : rest <:+ text := by
  have hdigits : c.isDigit = true → (c :: text).dropWhile Char.isDigit <:+ text := by
    intro hdigit
    rw [List.dropWhile_cons_of_pos hdigit]
    exact List.dropWhile_suffix _
  have hbehind : ∀ {d : Char} {behind : List Char},
      (c :: text).dropWhile Char.isDigit = d :: behind → behind <:+ text := by
    intro d behind hrest
    rcases hc with hdigit | rfl
    · have hsuffix := hdigits hdigit
      rw [hrest] at hsuffix
      exact (List.suffix_cons d behind).trans hsuffix
    · cases hrest
      exact List.suffix_refl _
  unfold lexNumber at h
  dsimp only at h
  split at h
  · rename_i behind _ hrest
    cases h
    exact (List.dropWhile_suffix _).trans (hbehind hrest)
  · rename_i behind _ hrest
    split at h
    · cases h
      exact hbehind hrest
    · contradiction
  · rename_i behind hrest _
    split at h
    · cases h
      exact hbehind hrest
    · exact ((finishNumber_suffix h).trans (List.dropWhile_suffix _)).trans (hbehind hrest)
  · rename_i hpoint _ _
    rcases hc with hdigit | rfl
    · exact (finishNumber_suffix h).trans (hdigits hdigit)
    · exact absurd rfl (hpoint text)

theorem dropWord?_suffix {word : List Char} (h : dropWord? word text = some rest) :
    rest <:+ text := by
  induction word generalizing text with
  | nil =>
      cases h
      exact List.suffix_refl _
  | cons w word ih =>
      cases text with
      | nil => contradiction
      | cons c text =>
          simp only [dropWord?] at h
          split at h
          · exact (ih h).trans (List.suffix_cons c text)
          · contradiction

theorem lexSymbol_suffix (h : lexSymbol (c :: text) = some (l, rest)) : rest <:+ text := by
  have hnonempty : ∀ s ∈ longSymbols, s.toList ≠ [] := by decide
  unfold lexSymbol at h
  split at h
  · rename_i found hfound
    cases h
    obtain ⟨s, hs, hword⟩ := List.exists_of_findSome?_eq_some hfound
    obtain ⟨behind, hdrop, heq⟩ := Option.map_eq_some_iff.mp hword
    cases heq
    obtain ⟨w, word, hspelling⟩ := List.exists_cons_of_ne_nil (hnonempty s hs)
    rw [hspelling, dropWord?] at hdrop
    split at hdrop
    · exact dropWord?_suffix hdrop
    · contradiction
  · cases h
    exact List.suffix_refl _

theorem lexAt_suffix (h : lexAt text = some (l, rest)) : rest <:+ text := by
  unfold lexAt at h
  split at h
  · cases h
    exact ⟨_, List.append_nil _⟩
  · cases h
    exact List.suffix_cons _ _
  · exact (lexWord_suffix h).trans ⟨['@', _], rfl⟩
  · cases h
    exact List.suffix_cons _ _
  · cases h
    exact List.suffix_cons _ _
  · split at h
    · cases h
      exact List.suffix_refl _
    · exact (lexWord_suffix h).trans (List.suffix_cons _ _)
  · cases h
    exact List.suffix_refl _

theorem skipComment?_suffix (h : skipComment? text = some rest) : rest <:+ text := by
  fun_induction skipComment? text with
  -- no end in a text of at most one character
  | case1 | case2 => contradiction
  -- the end of the comment
  | case3 c d text hend =>
      cases h
      exact ⟨[c, d], rfl⟩
  -- a character inside the comment
  | case4 c d text hend ih => exact (ih h).trans (List.suffix_cons _ _)

/-- What a lexeme leaves is a part of the text behind its first character. -/
theorem lexOne_suffix (h : lexOne before (c :: text) = some (l, rest)) : rest <:+ text := by
  cases opening c text with
  | spacing hspacing =>
      rw [lexOne_spacing hspacing] at h
      cases h
      exact List.suffix_refl _
  | string hquote =>
      rw [lexOne_string hquote] at h
      exact lexString_suffix h
  | backtick hbacktick =>
      rw [hbacktick, lexOne_backtick] at h
      exact lexPlainString_suffix h
  | number hnumber =>
      rw [lexOne_number hnumber] at h
      exact lexNumber_suffix hnumber h
  | line hline =>
      rw [lexOne_line hline] at h
      cases h
      have hc : c ≠ '\n' := by
        rintro rfl
        simp [opensLine] at hline
      have hdrop : (c :: text).dropWhile (· != '\n') = text.dropWhile (· != '\n') :=
        List.dropWhile_cons_of_pos (by simpa using hc)
      rw [hdrop]
      exact (List.drop_suffix _ _).trans (List.dropWhile_suffix _)
  | comment behind hslash hstar =>
      rw [hslash, hstar, lexOne_comment] at h
      obtain ⟨afterwards, hskip, heq⟩ := Option.map_eq_some_iff.mp h
      cases heq
      rw [hstar]
      exact (skipComment?_suffix hskip).trans (List.suffix_cons _ _)
  | letter hbegins =>
      obtain ⟨quote, text, rfl, hquote, ⟨make, hlex⟩ | ⟨make, hlex⟩⟩ := lexOne_prefixed hbegins
      · rw [hlex] at h
        exact (lexString_suffix h).trans (List.suffix_cons _ _)
      · rw [hlex] at h
        exact (lexPlainString_suffix h).trans (List.suffix_cons _ _)
  | placeholder hsign =>
      rw [hsign, lexOne_placeholder] at h
      cases h
      exact List.dropWhile_suffix _
  | sign hsign =>
      rw [hsign, lexOne_at] at h
      exact lexAt_suffix h
  | word hword hsign hbegins =>
      rw [lexOne_word hword hsign hbegins] at h
      exact lexWord_suffix h
  | mark hmark hline hcomment =>
      rw [lexOne_mark hmark hline hcomment] at h
      exact lexSymbol_suffix h

end SqlGateway.Sql
