import SqlGateway.Proofs.Shape.Core
import SqlGateway.Proofs.Sql.Lexes

/-!
# Texts whose lexemes the normal form keeps

The normal form and the lexer find quotes and comments by rules of their own.  Where the rules agree
on a text, joining its blanks changes none of its tokens.  Where they do not, a comment may swallow
what follows its line, or a string may lose some of its blanks.
-/

namespace SqlGateway.Shape

open Text Sql

/-! ### Which texts are kept -/

/-- Whether a comment up to the end of its line swallows no token: the line has no end, or the end
stands in what the normal form takes for quotes, or only gaps follow, on what becomes the same
line. -/
def keepsLine (quote : Option Char) (piece rest : List Char) : Bool :=
  piece.getLast? != some '\n' || (quoteAfter quote piece.dropLast).isSome ||
    (tokenize? rest == some [] && !(squeeze none true rest).contains '\n')

/-- Whether joining blanks leaves the lexeme at the front of a text what it is.  `piece` is how the
lexeme is written, and `rest` is what follows it. -/
def keepsPiece (quote : Option Char) (piece rest : List Char) : Bool :=
  if opensLine (piece ++ rest) then keepsLine quote piece rest
  else
    ['/', '*'].isPrefixOf piece || piece.all isSpacing || squeeze quote false piece == piece

/-- What a text may not end with, because it would take what stands behind the text. -/
def openEnds : List (List Char) := [['-', '-'], ['@'], ['@', '@']]

/-- Whether joining the blanks of a text keeps its lexemes, at most `rounds` of them. -/
def keepsLexemes (quote : Option Char) (before : Option Lexeme) : Nat → List Char → Bool
  | _, [] => true
  | 0, _ :: _ => false
  | rounds + 1, text =>
    match lexOne before text with
    | none => false
    | some (l, rest) =>
      let piece := text.take (text.length - rest.length)
      !openEnds.contains text && keepsPiece quote piece rest &&
        keepsLexemes (quoteAfter quote piece) (some l) rounds rest

/-- Whether the normal form keeps the tokens of a text: the blanks that it cuts off or joins are
ASCII characters, and joining them keeps the lexemes. -/
def keepsTokens (text : List Char) : Bool :=
  let lead := text.takeWhile isBlank
  let rear := text.drop (lead.length + (core text).length)
  lead.all isSpacing && rear.all isClosing && isPlainlySpaced none (core text) &&
    keepsLexemes none none (core text).length (core text)

/-- A text whose lexemes are kept, with the lexemes. -/
inductive Kept : Option Char → Option Lexeme → List Char → List Lexeme → Prop
  | nil {quote : Option Char} {before : Option Lexeme} : Kept quote before [] []
  | cons {quote : Option Char} {before : Option Lexeme} {piece rest : List Char} {l : Lexeme}
      {further : List Lexeme} : piece ≠ [] → lexOne before (piece ++ rest) = some (l, rest) →
      piece ++ rest ∉ openEnds → keepsPiece quote piece rest = true →
      Kept (quoteAfter quote piece) (some l) rest further →
      Kept quote before (piece ++ rest) (l :: further)

variable {quote : Option Char} {before : Option Lexeme} {text rest : List Char}
  {lexemes : List Lexeme}

theorem exists_kept {rounds : Nat} (hkeeps : keepsLexemes quote before rounds text = true) :
    ∃ lexemes, Kept quote before text lexemes := by
  induction rounds generalizing quote before text with
  | zero =>
      cases text with
      | nil => exact ⟨[], .nil⟩
      | cons c text => contradiction
  | succ rounds ih =>
      cases text with
      | nil => exact ⟨[], .nil⟩
      | cons c text =>
          simp only [keepsLexemes] at hkeeps
          split at hkeeps
          · contradiction
          · rename_i l rest hone
            simp only [Bool.and_eq_true, Bool.not_eq_eq_eq_not, Bool.not_true,
              List.contains_eq_mem, decide_eq_false_iff_not] at hkeeps
            obtain ⟨⟨hends, hpiece⟩, hrest⟩ := hkeeps
            obtain ⟨further, hfurther⟩ := ih hrest
            obtain ⟨piece, hsplit⟩ := (lexOne_suffix hone).trans (List.suffix_cons c text)
            have htake : (c :: text).take ((c :: text).length - rest.length) = piece := by
              rw [← hsplit]
              simp
            rw [htake] at hpiece hfurther
            have hne : piece ≠ [] := by
              rintro rfl
              have hshorter := length_lt_of_lexOne hone
              rw [← hsplit] at hshorter
              exact absurd hshorter (Nat.lt_irrefl _)
            rw [← hsplit] at hone hends ⊢
            exact ⟨l :: further, .cons hne hone hends hpiece hfurther⟩

theorem Kept.lexes (hkept : Kept quote before text lexemes) : Lexes before text lexemes := by
  induction hkept with
  | nil => exact .nil
  | cons _ hone _ _ _ ih => exact .cons hone ih

/-! ### The lexemes with the blanks joined -/

theorem mem_squeeze {pending : Bool} {c : Char} (hc : c ∈ squeeze quote pending text) :
    c ∈ text ∨ c = ' ' := by
  induction text generalizing quote pending with
  | nil => contradiction
  | cons d text ih =>
      cases quote with
      | some q =>
          rcases List.mem_cons.mp hc with rfl | hc
          · exact .inl List.mem_cons_self
          · exact (ih hc).imp_left (List.mem_cons_of_mem d)
      | none =>
          cases hd : isBlank d with
          | true =>
              rw [squeeze_blank hd] at hc
              exact (ih hc).imp_left (List.mem_cons_of_mem d)
          | false =>
              have hplain : c ∈ squeeze none false (d :: text) → c ∈ d :: text ∨ c = ' ' := by
                rw [squeeze_plain hd]
                intro hc
                rcases List.mem_cons.mp hc with rfl | hc
                · exact .inl List.mem_cons_self
                · exact (ih hc).imp_left (List.mem_cons_of_mem d)
              cases pending with
              | false => exact hplain hc
              | true =>
                  rw [squeeze_pending hd] at hc
                  rcases List.mem_cons.mp hc with rfl | hc
                  · exact .inr rfl
                  · exact hplain hc

theorem pendingAfter_of_quoteAfter {pending : Bool}
    (hpending : quote.isSome = true → pending = false)
    (hquote : (quoteAfter quote text).isSome = true) : pendingAfter quote pending text = false := by
  induction text generalizing quote pending with
  | nil => exact hpending hquote
  | cons c text ih =>
      refine ih ?_ hquote
      cases quote with
      | some q => exact fun _ => hpending rfl
      | none =>
          intro hnext
          cases hc : isBlank c with
          | false => rfl
          | true =>
              rw [nextQuote_of_isBlank hc] at hnext
              contradiction

/-- A character that is written comes behind at most one space. -/
theorem exists_squeeze_cons {pending : Bool} {c : Char}
    (hpending : quote.isSome = true → pending = false)
    (hc : quote.isSome = true ∨ isBlank c = false) (rest : List Char) :
    squeeze quote pending (c :: rest) = c :: squeeze (nextQuote quote c) false rest ∨
      squeeze quote pending (c :: rest) = ' ' :: c :: squeeze (nextQuote quote c) false rest := by
  cases pending with
  | false => exact .inl (squeeze_cons_false hc)
  | true =>
      cases quote with
      | some q => simp at hpending
      | none =>
          have hblank : isBlank c = false := by simpa using hc
          exact .inr (by rw [squeeze_pending hblank, squeeze_plain hblank])

/-- A comment ends where it did. -/
theorem skipComment?_squeeze (hskip : skipComment? text = some rest) :
    ∃ skipped, text = skipped ++ rest ∧ ∀ quote pending, (quote.isSome = true → pending = false) →
      skipComment? (squeeze quote pending text) =
        some (squeeze (quoteAfter quote skipped) false rest) := by
  fun_induction skipComment? text with
  -- no end in a text of at most one character
  | case1 | case2 => contradiction
  -- the end of the comment
  | case3 c d behind hend =>
      cases hskip
      simp only [Bool.and_eq_true, decide_eq_true_eq] at hend
      obtain ⟨rfl, rfl⟩ := hend
      refine ⟨['*', '/'], rfl, fun quote pending hpending => ?_⟩
      have hstar : isBlank '*' = false := by decide
      have hslash : ∀ quote, squeeze quote false ('/' :: rest) =
          '/' :: squeeze (nextQuote quote '/') false rest :=
        fun quote => squeeze_cons_false (.inr (by decide))
      rcases exists_squeeze_cons hpending (.inr hstar) ('/' :: rest) with heq | heq
      · rw [heq, hslash]
        rfl
      · rw [heq, hslash]
        rfl
  -- a character inside the comment
  | case4 c d text hend ih =>
      obtain ⟨skipped, hsplit, hsqueezed⟩ := ih hskip
      refine ⟨c :: skipped, by rw [hsplit]; rfl, fun quote pending hpending => ?_⟩
      by_cases hgap : quote = none ∧ isBlank c = true
      · obtain ⟨rfl, hblank⟩ := hgap
        rw [squeeze_blank hblank, hsqueezed none true (by simp), quoteAfter_cons,
          nextQuote_of_isBlank hblank]
      · have hc : quote.isSome = true ∨ isBlank c = false := by
          cases quote with
          | some q => exact .inl rfl
          | none => exact .inr (by simpa using hgap)
        -- a star and a slash that were apart still have a space between them
        have hnext : ¬(c = '*' ∧
            (squeeze (nextQuote quote c) false (d :: text)).head? = some '/') := by
          rintro ⟨hstar, hslash⟩
          by_cases hwritten : (nextQuote quote c).isSome = true ∨ isBlank d = false
          · rw [squeeze_cons_false hwritten] at hslash
            simp_all
          · simp only [not_or, Option.not_isSome_iff_eq_none, Bool.not_eq_false] at hwritten
            rw [hwritten.1, squeeze_blank hwritten.2] at hslash
            rcases @squeeze_none_true text with hnone | ⟨further, hsome⟩
            · simp [hnone] at hslash
            · simp [hsome] at hslash
        have hbehind := hsqueezed (nextQuote quote c) false (by simp)
        rcases exists_squeeze_cons hpending hc (d :: text) with heq | heq
        · rw [heq, skipComment?_cons hnext, hbehind, quoteAfter_cons]
        · rw [heq, skipComment?_cons (by simp), skipComment?_cons hnext, hbehind, quoteAfter_cons]

/-- A comment up to the end of its line is one still. -/
theorem opensLine_squeeze (hline : opensLine text = true)
    (hlast : ∀ c ∈ text.getLast?, isBlank c = false) :
    opensLine (squeeze quote false text) = true := by
  rcases opensLine_eq_true.mp hline with ⟨text, rfl⟩ | ⟨d, text, rfl, hd⟩
  · rw [squeeze_cons_false (.inr (by decide))]
    rfl
  · rw [squeeze_cons_false (.inr (by decide)), squeeze_cons_false (.inr (by decide))]
    have hend : ∀ c ∈ (d :: text).getLast?, isBlank c = false := by simpa using hlast
    have hsame := @getLast?_squeeze (nextQuote (nextQuote quote '-') '-') false (d :: text) hend
    generalize nextQuote (nextQuote quote '-') '-' = quote at hsame
    cases quote with
    | some q => exact hd
    | none =>
        rw [squeeze_blank hd] at hsame ⊢
        rcases @squeeze_none_true text with hnone | ⟨further, hsome⟩
        · rw [hnone, eq_comm, List.getLast?_nil, List.getLast?_eq_none_iff] at hsame
          contradiction
        · rw [hsome]
          rfl

theorem opensLine_alike {tail tail' : List Char} (halike : Alike tail tail')
    (htext : text ≠ []) (hline : opensLine (text ++ tail) = false) :
    opensLine (text ++ tail') = false := by
  cases halike with
  | done => exact hline
  | @gap c further tail' hc htail' =>
      have hblank := isBlank_of_isSpacing hc
      refine Bool.eq_false_iff.mpr fun hopen => ?_
      rcases text with _ | ⟨a, text⟩
      · exact htext rfl
      rcases opensLine_eq_true.mp hopen with ⟨behind, heq⟩ | ⟨d, behind, heq, hd⟩
      · cases heq
        simp [opensLine] at hline
      · rcases text with _ | ⟨b, _ | ⟨e, text⟩⟩
        · rcases htail' with rfl | ⟨behind, rfl⟩ <;> simp at heq
        · cases heq
          simp [opensLine, hblank] at hline
        · cases heq
          simp [opensLine, hd] at hline

/-- A lexeme is the same before a text that goes on alike. -/
theorem lexOne_alike {tail tail' : List Char} (halike : Alike tail tail') {l : Lexeme}
    (htext : text ≠ []) (hline : opensLine (text ++ tail) = false)
    (hone : lexOne before (text ++ tail) = some (l, rest ++ tail)) :
    lexOne before (text ++ tail') = some (l, rest ++ tail') := by
  have hline' := opensLine_alike halike htext hline
  cases halike with
  | done => exact hone
  | @gap c further tail' hc htail' =>
      have hclosing : isClosing c = true := by simp [isClosing, hc]
      have hclosed : Closed (c :: further) := closed_cons.mpr hclosing
      have hclosed' : Closed tail' := by
        rcases htail' with rfl | ⟨behind, rfl⟩ <;> simp [isClosing, isSpacing, isBlank]
      have hword : ∀ front, lexWord front further ≠ some (l, rest ++ c :: further) := by
        intro front hlex
        have hlength := (lexWord_suffix hlex).length_le
        simp only [List.length_append, List.length_cons] at hlength
        omega
      by_cases hat : text = ['@'] ∨ text = ['@', '@']
      · -- an at-sign before a blank other than a space would have taken the blank
        have hspace : c = ' ' := by
          refine Decidable.byContradiction fun hother => ?_
          have hsingle : c ≠ '\'' := hclosed.ne (by decide)
          have hdouble : c ≠ '"' := hclosed.ne (by decide)
          have hbacktick : c ≠ '\x60' := hclosed.ne (by decide)
          rcases hat with rfl | rfl
          · have hone : lexAt (c :: further) = some (l, rest ++ c :: further) := hone
            rw [lexAt_cons (hclosed.ne (by decide)) (hclosed.ne (by decide))
              (hclosed.ne (by decide))] at hone
            simp [hother, hsingle, hdouble, hbacktick, hword] at hone
          · have hone : lexAt ('@' :: c :: further) = some (l, rest ++ c :: further) := hone
            simp [lexAt, hword] at hone
        subst hspace
        have hrest : rest = [] := by
          rcases hat with rfl | rfl
          · have hone : some (Lexeme.token (.symbol "@"), ' ' :: further) =
                some (l, rest ++ ' ' :: further) := hone
            simpa using congrArg (Option.map Prod.snd) hone
          · have hone : some (Lexeme.token (.symbol "@@"), ' ' :: further) =
                some (l, rest ++ ' ' :: further) := hone
            simpa using congrArg (Option.map Prod.snd) hone
        subst hrest
        rcases hat with rfl | rfl
        · cases hone
          rcases htail' with rfl | ⟨behind, rfl⟩ <;> rfl
        · cases hone
          rcases htail' with rfl | ⟨behind, rfl⟩ <;> rfl
      · rw [not_or] at hat
        rw [lexOne_append hclosed' htext hline' hat]
        exact (lexOne_append hclosed htext hline hat).mp hone

/-- The same lexemes but for the number of blanks in a gap, as far as tokens go. -/
def SameTokens (lexemes lexemes' : List Lexeme) : Prop :=
  tokensOf lexemes' = tokensOf lexemes ∧ beginsName lexemes' = beginsName lexemes

theorem SameTokens.cons (l : Lexeme) {lexemes lexemes' : List Lexeme}
    (hsame : SameTokens lexemes lexemes') : SameTokens (l :: lexemes) (l :: lexemes') := by
  refine ⟨?_, beginsName_cons l lexemes' lexemes⟩
  rw [tokensOf_cons, tokensOf_cons, hsame.1, hsame.2]

/-- A comment up to the end of its line that swallows no token. -/
theorem squeeze_line {piece : List Char} {l : Lexeme} {further : List Lexeme}
    (hline : opensLine (piece ++ rest) = true)
    (hone : lexOne before (piece ++ rest) = some (l, rest))
    (hkeeps : keepsLine quote piece rest = true)
    (hlast : ∀ c ∈ (piece ++ rest).getLast?, isBlank c = false)
    (hfurther : Lexes (some l) rest further)
    (hrest : ∃ lexemes', Lexes (some l) (squeeze (quoteAfter quote piece) false rest) lexemes' ∧
      SameTokens further lexemes') :
    ∃ lexemes', Lexes before (squeeze quote false (piece ++ rest)) lexemes' ∧
      SameTokens (l :: further) lexemes' := by
  have hopens : opensLine (squeeze quote false (piece ++ rest)) = true :=
    opensLine_squeeze hline hlast
  have hfree : ∀ {quote : Option Char} {pending : Bool} {line : List Char}, '\n' ∉ line →
      '\n' ∉ squeeze quote pending line := by
    intro quote pending line hnot hmem
    rcases mem_squeeze hmem with hmem | hmem
    · exact hnot hmem
    · exact absurd hmem (by decide)
  -- the comment ends at the first line break, or it goes on to the end of the text
  by_cases hend : '\n' ∈ piece ++ rest
  · obtain ⟨line, behind, hsplit, hnot⟩ := List.eq_append_cons_of_mem hend
    have hbreak : lexOne before (line ++ '\n' :: behind) = some (.blank, behind) :=
      lexOne_line_break hnot (hsplit ▸ hline)
    rw [← hsplit, hone] at hbreak
    cases hbreak
    have hpiece : piece = line ++ ['\n'] := List.append_cancel_right (by simpa using hsplit)
    subst hpiece
    rw [hsplit, squeeze_append] at hopens ⊢
    simp only [keepsLine, List.getLast?_concat, List.dropLast_concat, bne_self_eq_false,
      Bool.false_or, Bool.or_eq_true, Bool.and_eq_true, beq_iff_eq, Bool.not_eq_eq_eq_not,
      Bool.not_true, List.contains_eq_mem, decide_eq_false_iff_not] at hkeeps
    -- outside quotes the break is joined with what follows, so no token may stand there
    rcases hquote : quoteAfter quote line with _ | q
    · simp only [hquote, Option.isSome_none, Bool.false_eq_true, false_or] at hkeeps
      obtain ⟨htokens, hnext⟩ := hkeeps
      have hblank : isBlank '\n' = true := by decide
      rw [hquote] at hopens
      rw [squeeze_blank hblank] at hopens ⊢
      have hwhole : '\n' ∉ squeeze quote false line ++ squeeze none true rest := by
        simp [hfree hnot, hnext]
      have hempty : tokensOf further = [] := by
        obtain ⟨lexemes, hlexes, hnone⟩ := tokenize?_eq_some.mp htokens
        rw [hfurther.unique hlexes.of_none, hnone]
      exact ⟨[.blank], .cons (lexOne_line_end hwhole hopens) .nil, hempty.symm, rfl⟩
    · rw [hquote] at hopens
      rw [squeeze_quoted] at hopens ⊢
      have hpending : pendingAfter quote false line = false :=
        pendingAfter_of_quoteAfter (by simp) (by simp [hquote])
      rw [hpending] at hopens ⊢
      have hafter : quoteAfter quote (line ++ ['\n']) = nextQuote (some q) '\n' := by
        rw [quoteAfter_append, hquote]
        rfl
      rw [hafter] at hrest
      obtain ⟨lexemes', hlexes, hsame⟩ := hrest
      exact ⟨.blank :: lexemes', .cons (lexOne_line_break (hfree hnot) hopens) hlexes,
        hsame.cons .blank⟩
  · rw [lexOne_line_end hend hline] at hone
    cases hone
    rw [hfurther.eq_nil]
    exact ⟨[.blank], .cons (lexOne_line_end (hfree hend) hopens) .nil, rfl, rfl⟩

/-- A lexeme that is no comment up to the end of its line. -/
theorem squeeze_piece {piece : List Char} {l : Lexeme} {further : List Lexeme}
    (hne : piece ≠ []) (hline : opensLine (piece ++ rest) = false)
    (hone : lexOne before (piece ++ rest) = some (l, rest))
    (hkeeps : ['/', '*'].isPrefixOf piece = true ∨ squeeze quote false piece = piece)
    (hspaced : isPlainlySpaced (quoteAfter quote piece) rest = true)
    (hrest : ∃ lexemes', Lexes (some l) (squeeze (quoteAfter quote piece) false rest) lexemes' ∧
      SameTokens further lexemes') :
    ∃ lexemes', Lexes before (squeeze quote false (piece ++ rest)) lexemes' ∧
      SameTokens (l :: further) lexemes' := by
  obtain ⟨lexemes', hlexes, hsame⟩ := hrest
  refine ⟨l :: lexemes', .cons ?_ hlexes, hsame.cons l⟩
  rcases hkeeps with hopens | hkept
  · obtain ⟨inner, rfl⟩ := List.isPrefixOf_iff_prefix.mp hopens
    obtain ⟨afterwards, hskip, heq⟩ := Option.map_eq_some_iff.mp hone
    cases heq
    have hskip : skipComment? (inner ++ rest) = some rest := hskip
    obtain ⟨skipped, hsplit, hsqueezed⟩ := skipComment?_squeeze hskip
    have hinner : inner = skipped := List.append_cancel_right hsplit
    subst hinner
    have hslash : isBlank '/' = false := by decide
    have hstar : isBlank '*' = false := by decide
    change lexOne before (squeeze quote false ('/' :: '*' :: (inner ++ rest))) = _
    rw [squeeze_cons_false (.inr hslash), squeeze_cons_false (.inr hstar), lexOne_comment,
      hsqueezed _ _ (by simp)]
    rfl
  · rw [squeeze_append_of_kept hkept]
    obtain ⟨front, tail, tail', rfl, hsqueezed, halike⟩ := exists_alike hspaced
    rw [hsqueezed, ← List.append_assoc]
    rw [← List.append_assoc] at hline hone
    exact lexOne_alike halike (by simp [hne]) hline hone

/-- Joining the blanks of a text that is kept leaves its tokens as they are, also where blanks have
been passed just before the text. -/
theorem Kept.squeeze (hkept : Kept quote before text lexemes)
    (hspaced : isPlainlySpaced quote text = true)
    (hlast : ∀ c ∈ text.getLast?, isBlank c = false) :
    (∃ lexemes', Lexes before (Shape.squeeze quote false text) lexemes' ∧
      SameTokens lexemes lexemes') ∧
    (quote = none → before = some .blank → ∀ before', ∃ lexemes',
      Lexes before' (Shape.squeeze none true text) lexemes' ∧
        SameTokens (.blank :: lexemes) lexemes') := by
  induction hkept with
  | nil =>
      exact ⟨⟨[], .nil, rfl, rfl⟩, fun _ _ _ => ⟨[], .nil, rfl, rfl⟩⟩
  | cons hne hone hends hpiece hfurther ih =>
      rename_i quote before piece rest l further
      rw [isPlainlySpaced_append, Bool.and_eq_true] at hspaced
      obtain ⟨hpieceSpaced, hrestSpaced⟩ := hspaced
      have hrestLast : ∀ c ∈ rest.getLast?, isBlank c = false := by
        intro c hc
        refine hlast c ?_
        rw [List.getLast?_append, hc]
        rfl
      obtain ⟨hrest, hgap⟩ := ih hrestSpaced hrestLast
      obtain ⟨c, inner, rfl⟩ := List.exists_cons_of_ne_nil hne
      by_cases hblank : quote = none ∧ isBlank c = true
      · -- a blank outside quotes is read alone; it is pending before what follows it
        obtain ⟨rfl, hblank⟩ := hblank
        have hspacing : isSpacing c = true := by
          simp only [isPlainlySpaced, Option.isSome_none, hblank, Bool.not_true, Bool.or_self,
            Bool.false_or, Bool.and_eq_true] at hpieceSpaced
          exact hpieceSpaced.1
        rw [List.cons_append, lexOne_spacing hspacing] at hone
        have hinner : inner = [] := by simpa using congrArg (Option.map Prod.snd) hone
        subst hinner
        cases hone
        have hafter : quoteAfter none [c] = none := nextQuote_of_isBlank hblank
        have hpassed := hgap hafter rfl
        rw [List.singleton_append, squeeze_blank hblank, squeeze_blank hblank]
        refine ⟨hpassed before, fun _ _ before' => ?_⟩
        obtain ⟨lexemes', hlexes, hsame⟩ := hpassed before'
        exact ⟨lexemes', hlexes, hsame⟩
      · have hfirst : ∃ lexemes', Lexes before (Shape.squeeze quote false (c :: inner ++ rest))
            lexemes' ∧ SameTokens (l :: further) lexemes' := by
          by_cases hline : opensLine (c :: inner ++ rest) = true
          · rw [keepsPiece, if_pos hline] at hpiece
            exact squeeze_line hline hone hpiece hlast hfurther.lexes hrest
          · rw [keepsPiece, if_neg hline] at hpiece
            simp only [Bool.or_eq_true, beq_iff_eq] at hpiece
            rw [Bool.not_eq_true] at hline
            refine squeeze_piece hne hline hone ?_ hrestSpaced hrest
            rcases hpiece with (hcomment | hspacing) | hkept
            · exact .inl hcomment
            · -- in quotes a single blank is written as it is
              rw [List.all_cons, Bool.and_eq_true] at hspacing
              rw [List.cons_append, lexOne_spacing hspacing.1] at hone
              have hinner : inner = [] := by simpa using congrArg (Option.map Prod.snd) hone
              subst hinner
              cases quote with
              | some q => exact .inr rfl
              | none => exact absurd ⟨rfl, isBlank_of_isSpacing hspacing.1⟩ hblank
            · exact .inr hkept
        refine ⟨hfirst, fun hquote hbefore before' => ?_⟩
        subst hquote hbefore
        obtain ⟨lexemes', hlexes, hsame⟩ := hfirst
        have hc : isBlank c = false := by simpa using hblank
        have hspace : isSpacing ' ' = true := by decide
        rw [List.cons_append, squeeze_pending hc]
        exact ⟨.blank :: lexemes', hlexes.spacing hspace, hsame.cons .blank⟩

/-! ### What is cut off -/

theorem opensLine_append_closing {rear : List Char} (hrear : ∀ c ∈ rear, isClosing c = true)
    (hends : text ∉ openEnds) (hline : opensLine text = false) (htext : text ≠ []) :
    opensLine (text ++ rear) = false := by
  refine Bool.eq_false_iff.mpr fun hopen => ?_
  rcases opensLine_eq_true.mp hopen with ⟨behind, heq⟩ | ⟨d, behind, heq, hd⟩
  · rcases text with _ | ⟨a, text⟩
    · exact htext rfl
    · cases heq
      simp [opensLine] at hline
  · rcases text with _ | ⟨a, _ | ⟨b, _ | ⟨e, text⟩⟩⟩
    · exact htext rfl
    · rw [List.singleton_append, List.cons.injEq] at heq
      rw [heq.2] at hrear
      exact absurd (hrear '-' List.mem_cons_self) (by decide)
    · cases heq
      simp [openEnds] at hends
    · cases heq
      simp [opensLine, hd] at hline

/-- Blanks and semicolons behind a text that is kept add no token but semicolons. -/
theorem Kept.lexes_append (hkept : Kept quote before text lexemes) {rear : List Char}
    (hrear : ∀ c ∈ rear, isClosing c = true) :
    ∃ lexemes' count, count ≤ rear.count ';' ∧ Lexes before (text ++ rear) lexemes' ∧
      tokensOf lexemes' = tokensOf lexemes ++ List.replicate count (.symbol ";") ∧
      beginsName lexemes' = beginsName lexemes := by
  induction hkept with
  | nil =>
      exact ⟨rear.map closingLexeme, _, Nat.le_refl _, lexes_closing hrear,
        tokensOf_closing rear, beginsName_closing rear⟩
  | cons hne hone hends hpiece hfurther ih =>
      rename_i quote before piece rest l further
      obtain ⟨lexemes', count, hcount, hlexes, htokens, hname⟩ := ih
      -- it is enough that the first lexeme ends where it did
      have hstep : lexOne before (piece ++ rest ++ rear) = some (l, rest ++ rear) →
          ∃ lexemes' count, count ≤ rear.count ';' ∧
            Lexes before (piece ++ rest ++ rear) lexemes' ∧
            tokensOf lexemes' =
              tokensOf (l :: further) ++ List.replicate count (.symbol ";") ∧
            beginsName lexemes' = beginsName (l :: further) := by
        intro hone'
        refine ⟨l :: lexemes', count, hcount, .cons hone' hlexes, ?_, beginsName_cons _ _ _⟩
        rw [tokensOf_cons, tokensOf_cons, htokens, hname, List.append_assoc]
      by_cases hline : opensLine (piece ++ rest) = true
      · have hline' := opensLine_append hline rear
        by_cases hend : '\n' ∈ piece ++ rest
        · obtain ⟨line, behind, hsplit, hnot⟩ := List.eq_append_cons_of_mem hend
          apply hstep
          rw [hsplit] at hone hline hline' ⊢
          rw [lexOne_line_break hnot hline] at hone
          rw [List.append_assoc, List.cons_append] at hline' ⊢
          cases hone
          exact lexOne_line_break hnot hline'
        · -- the comment goes on up to the end of a line among what stands behind the text
          rw [lexOne_line_end hend hline] at hone
          cases hone
          have hnone := hfurther.lexes.eq_nil
          subst hnone
          by_cases hrearEnd : '\n' ∈ rear
          · obtain ⟨line, behind, rfl, hnot⟩ := List.eq_append_cons_of_mem hrearEnd
            have hbehind : ∀ c ∈ behind, isClosing c = true :=
              fun c hc => hrear c (by simp [hc])
            have hfree : '\n' ∉ piece ++ [] ++ line := by simpa [hnot] using hend
            rw [← List.append_assoc] at hline' ⊢
            refine ⟨.blank :: behind.map closingLexeme, behind.count ';', ?_,
              .cons (lexOne_line_break hfree hline') (lexes_closing hbehind),
              tokensOf_closing behind, rfl⟩
            simp only [List.count_append, List.count_cons]
            omega
          · have hfree : '\n' ∉ piece ++ [] ++ rear := by simpa [hrearEnd] using hend
            exact ⟨[.blank], 0, Nat.zero_le _, .cons (lexOne_line_end hfree hline') .nil, rfl, rfl⟩
      · rw [Bool.not_eq_true] at hline
        have hclosed : Closed rear := fun c hc => hrear c (List.mem_of_mem_head? hc)
        have htext : piece ++ rest ≠ [] := by simp [hne]
        have hat : piece ++ rest ≠ ['@'] ∧ piece ++ rest ≠ ['@', '@'] := by
          simp only [openEnds, List.mem_cons, List.not_mem_nil, or_false, not_or] at hends
          exact hends.2
        exact hstep ((lexOne_append hclosed htext
          (opensLine_append_closing hrear hends hline htext) hat).mpr hone)

/-! ### The tokens of the normal form -/

theorem lexes_spacing {lead : List Char} (hlead : ∀ c ∈ lead, isSpacing c = true)
    (hlexes : Lexes none text lexemes) :
    ∃ lexemes', Lexes none (lead ++ text) lexemes' ∧ tokensOf lexemes' = tokensOf lexemes := by
  induction lead with
  | nil => exact ⟨lexemes, hlexes, rfl⟩
  | cons c lead ih =>
      obtain ⟨hc, hrest⟩ := List.forall_mem_cons.mp hlead
      obtain ⟨lexemes', hlexes', htokens⟩ := ih hrest
      exact ⟨.blank :: lexemes', hlexes'.of_none.spacing hc, htokens⟩

/-- If a text is kept, its normal form has the tokens of the text, but perhaps for one semicolon at
the end. -/
theorem tokenize?_normalize (hkeeps : keepsTokens text = true) :
    ∃ tokens, tokenize? (normalize text) = some tokens ∧
      (tokenize? text = some tokens ∨ tokenize? text = some (tokens ++ [.symbol ";"])) := by
  simp only [keepsTokens, Bool.and_eq_true, List.all_eq_true] at hkeeps
  obtain ⟨⟨⟨hlead, hrear⟩, hspaced⟩, hlexemes⟩ := hkeeps
  obtain ⟨gap, blanks, htext, hgap, hblanks⟩ := exists_core_append text
  have hcount : (gap ++ (finalSemicolon text ++ blanks)).count ';' ≤ 1 :=
    count_semicolon_le hgap hblanks
  generalize gap ++ (finalSemicolon text ++ blanks) = rear at htext hcount
  have hdrop : text.drop ((text.takeWhile isBlank).length + (core text).length) = rear := by
    refine (congrArg (List.drop _) htext).trans ?_
    rw [← List.append_assoc, ← List.length_append, List.drop_left]
  rw [hdrop] at hrear
  obtain ⟨lexemes, hkept⟩ := exists_kept hlexemes
  have hlast : ∀ c ∈ (core text).getLast?, isBlank c = false :=
    fun c hc => isBlank_of_getLast?_core hc
  obtain ⟨⟨normal, hnormal, hsame⟩, -⟩ := hkept.squeeze hspaced hlast
  obtain ⟨behind, count, hle, hbehind, htokens, -⟩ := hkept.lexes_append hrear
  obtain ⟨whole, hwhole, hwholeTokens⟩ := lexes_spacing hlead hbehind
  rw [← htext] at hwhole
  refine ⟨tokensOf lexemes, ?_, ?_⟩
  · rw [normalize_eq_squeeze]
    exact tokenize?_eq_some.mpr ⟨normal, hnormal, hsame.1⟩
  · have hread := tokenize?_eq_some.mpr ⟨whole, hwhole, rfl⟩
    rw [hwholeTokens, htokens] at hread
    have hcases : count = 0 ∨ count = 1 := by omega
    rcases hcases with rfl | rfl
    · exact .inl (by simpa using hread)
    · exact .inr hread

end SqlGateway.Shape
