import SqlGateway.Proofs.Shape.Core

/-!
# What joining blanks keeps

Joining blanks is one pass over a text, and `Joins` has a constructor for each thing the pass can
do to a character.  Whatever is said here of a text and its normal form holds of every step of that
relation:

* the quote that is open is the same,
* the quoted parts are the same,
* the characters other than blanks outside quotes are the same, and they stand apart where they
  stood apart,
* what is written outside quotes has single spaces and no other blanks.

The ends of the text are treated apart: the core is what the pass goes over, and around it there
are only blanks and the final semicolon.
-/

namespace SqlGateway.Shape

open Text

variable {quote : Option Char} {pending apart : Bool} {c : Char} {text out front rest : List Char}

/-! ### The pass over a text -/

/-- What the pass writes for a text.  Blanks are never pending inside quotes, as the space for them
is written before the quote that opens. -/
inductive Joins : Option Char → Bool → List Char → List Char → Prop
  | nil {quote : Option Char} {pending : Bool} : Joins quote pending [] []
  | quoted {q c : Char} {text out : List Char} :
      Joins (nextQuote (some q) c) false text out → Joins (some q) false (c :: text) (c :: out)
  | blank {pending : Bool} {c : Char} {text out : List Char} : isBlank c = true →
      Joins none true text out → Joins none pending (c :: text) out
  | plain {c : Char} {text out : List Char} : isBlank c = false →
      Joins (nextQuote none c) false text out → Joins none false (c :: text) (c :: out)
  | spaced {c : Char} {text out : List Char} : isBlank c = false →
      Joins (nextQuote none c) false text out → Joins none true (c :: text) (' ' :: c :: out)

theorem joins_squeeze (hpending : quote.isSome = true → pending = false) :
    Joins quote pending text (squeeze quote pending text) := by
  induction text generalizing quote pending with
  | nil => exact .nil
  | cons c text ih =>
      cases quote with
      | some q =>
          obtain rfl := hpending rfl
          rw [squeeze_quoted]
          exact .quoted (ih fun _ => rfl)
      | none =>
          cases hc : isBlank c with
          | true =>
              rw [squeeze_blank hc]
              exact .blank hc (ih (by simp))
          | false =>
              cases pending with
              | false =>
                  rw [squeeze_plain hc]
                  exact .plain hc (ih fun _ => rfl)
              | true =>
                  rw [squeeze_pending hc, squeeze_plain hc]
                  exact .spaced hc (ih fun _ => rfl)

theorem Joins.squeeze_eq (h : Joins quote pending text out) : squeeze quote pending text = out := by
  induction h with
  | nil => rfl
  | quoted _ ih => rw [squeeze_quoted, ih]
  | blank hc _ ih => rw [squeeze_blank hc, ih]
  | plain hc _ ih => rw [squeeze_plain hc, ih]
  | spaced hc _ ih => rw [squeeze_pending hc, squeeze_plain hc, ih]

/-- What has been written is written again as it is. -/
theorem Joins.again (h : Joins quote pending text out) : Joins quote false out out := by
  induction h with
  | nil => exact .nil
  | quoted _ ih => exact .quoted ih
  | blank _ _ ih => exact ih
  | plain hc _ ih => exact .plain hc ih
  | spaced hc _ ih => exact .blank (by decide) (.spaced hc ih)

theorem squeeze_squeeze : squeeze none false (squeeze none false text) = squeeze none false text :=
  (joins_squeeze (by simp)).again.squeeze_eq

theorem Joins.quoteAfter_eq (h : Joins quote pending text out) :
    quoteAfter quote out = quoteAfter quote text := by
  induction h with
  | nil => rfl
  | quoted _ ih => exact ih
  | blank hc _ ih => rw [ih, quoteAfter_cons, nextQuote_of_isBlank hc]
  | plain _ _ ih => exact ih
  | spaced _ _ ih => exact ih

/-! ### The quoted parts of a text -/

/-- The quoted parts of a text with a character in front of it, where `before` and `behind` are the
quotes that are open on the two sides of the character. -/
def withChar (before behind : Option Char) (c : Char) (parts : List (List Char)) :
    List (List Char) :=
  match before, behind with
  | none, none => parts
  | some _, none => [c] :: parts
  | _, some _ => parts.modifyHead (c :: ·)

/-- The parts of a text from a quote that opens to the one that closes it, both included.  If a
quote is open already, the first is what is left of its part, and the last may not be closed. -/
def quotedParts (quote : Option Char) : List Char → List (List Char)
  | [] => if quote.isSome then [[]] else []
  | c :: rest => withChar quote (nextQuote quote c) c (quotedParts (nextQuote quote c) rest)

theorem quotedParts_cons : quotedParts quote (c :: rest) =
    withChar quote (nextQuote quote c) c (quotedParts (nextQuote quote c) rest) := rfl

/-- Characters outside quotes are in no part. -/
theorem quotedParts_outside (hc : nextQuote none c = none) :
    quotedParts none (c :: text) = quotedParts none text := by
  rw [quotedParts_cons, hc]
  rfl

theorem quotedParts_ne_nil (hquote : quote.isSome = true) : quotedParts quote text ≠ [] := by
  induction text generalizing quote with
  | nil => simp [quotedParts, hquote]
  | cons c text ih =>
      obtain ⟨q, rfl⟩ := Option.isSome_iff_exists.mp hquote
      rw [quotedParts_cons]
      cases hnext : nextQuote (some q) c with
      | none => simp [withChar]
      | some p => simpa [withChar] using ih (Option.isSome_some (a := p))

theorem quotedParts_of_plain (htext : ∀ c ∈ text, opensQuote c = false) :
    quotedParts none text = [] := by
  induction text with
  | nil => rfl
  | cons c text ih =>
      obtain ⟨hc, hrest⟩ := List.forall_mem_cons.mp htext
      rw [quotedParts_outside (by simp [nextQuote, hc]), ih hrest]

/-- Where no quote is open a text can be cut without cutting a quoted part. -/
theorem quotedParts_append (hfront : quoteAfter quote front = none) :
    quotedParts quote (front ++ rest) = quotedParts quote front ++ quotedParts none rest := by
  induction front generalizing quote with
  | nil =>
      obtain rfl := hfront
      rfl
  | cons c front ih =>
      rw [List.cons_append, quotedParts_cons, quotedParts_cons, ih hfront]
      cases hnext : nextQuote quote c with
      | none => cases quote <;> rfl
      | some q =>
          -- the part that the character belongs to goes on in the front
          have hne : quotedParts (some q) front ≠ [] := quotedParts_ne_nil rfl
          obtain ⟨part, parts, hparts⟩ := List.exists_cons_of_ne_nil hne
          rw [hparts]
          cases quote <;> rfl

theorem Joins.quotedParts_eq (h : Joins quote pending text out) :
    quotedParts quote out = quotedParts quote text := by
  induction h with
  | nil => rfl
  | quoted _ ih => rw [quotedParts_cons, quotedParts_cons, ih]
  | blank hc _ ih => rw [ih, quotedParts_outside (nextQuote_of_isBlank hc)]
  | plain _ _ ih => rw [quotedParts_cons, quotedParts_cons, ih]
  | spaced _ _ ih =>
      have hspace : nextQuote none ' ' = none := rfl
      rw [quotedParts_outside hspace, quotedParts_cons, quotedParts_cons, ih]

/-! ### The characters that stay -/

/-- The characters of a text other than blanks outside quotes, each with whether a blank stands
before it that is not one of them.  `apart` says whether one stands before the text. -/
def solids (quote : Option Char) (apart : Bool) : List Char → List (Bool × Char)
  | [] => []
  | c :: rest =>
    if quote.isNone && isBlank c then solids quote true rest
    else (apart, c) :: solids (nextQuote quote c) false rest

theorem solids_blank (hc : isBlank c = true) :
    solids none apart (c :: text) = solids none true text := by
  simp [solids, hc]

theorem solids_solid (hc : quote.isSome = true ∨ isBlank c = false) :
    solids quote apart (c :: text) = (apart, c) :: solids (nextQuote quote c) false text := by
  have hkept : (quote.isNone && isBlank c) = false := by
    rcases hc with hc | hc
    · obtain ⟨q, rfl⟩ := Option.isSome_iff_exists.mp hc
      rfl
    · rw [hc, Bool.and_false]
  rw [solids, hkept]
  rfl

theorem solids_blanks_append {blanks : List Char} (hblanks : ∀ c ∈ blanks, isBlank c = true) :
    solids none apart (blanks ++ rest) = solids none (apart || !blanks.isEmpty) rest := by
  induction blanks generalizing apart with
  | nil => simp
  | cons c blanks ih =>
      obtain ⟨hc, hrest⟩ := List.forall_mem_cons.mp hblanks
      rw [List.cons_append, solids_blank hc, ih hrest]
      simp

theorem solids_blanks {blanks : List Char} (hblanks : ∀ c ∈ blanks, isBlank c = true) :
    solids none apart blanks = [] := by
  rw [← List.append_nil blanks, solids_blanks_append hblanks]
  rfl

theorem exists_solids_append (quote : Option Char) (apart : Bool) (front rest : List Char) :
    ∃ apart', solids quote apart (front ++ rest) =
      solids quote apart front ++ solids (quoteAfter quote front) apart' rest := by
  induction front generalizing quote apart with
  | nil => exact ⟨apart, rfl⟩
  | cons c front ih =>
      by_cases hc : quote.isSome = true ∨ isBlank c = false
      · obtain ⟨apart', happend⟩ := ih (nextQuote quote c) false
        refine ⟨apart', ?_⟩
        rw [List.cons_append, solids_solid hc, solids_solid hc, happend]
        rfl
      · obtain ⟨hnone, hblank⟩ : quote = none ∧ isBlank c = true := by simpa using hc
        obtain rfl := hnone
        obtain ⟨apart', happend⟩ := ih none true
        refine ⟨apart', ?_⟩
        rw [List.cons_append, solids_blank hblank, solids_blank hblank, happend, quoteAfter_cons,
          nextQuote_of_isBlank hblank]

/-- What the pass writes has the same characters, apart where they were apart.  Blanks that are
pending count as standing before the text. -/
theorem Joins.solids_eq (h : Joins quote pending text out) :
    solids quote apart out = solids quote (apart || pending) text := by
  induction h generalizing apart with
  | nil => rfl
  | quoted _ ih =>
      rw [solids_solid (.inl rfl), solids_solid (.inl rfl), ih, Bool.or_false, Bool.or_false]
  | blank hc _ ih => rw [ih, solids_blank hc, Bool.or_true]
  | plain hc _ ih =>
      rw [solids_solid (.inr hc), solids_solid (.inr hc), ih, Bool.or_false, Bool.or_false]
  | spaced hc _ ih =>
      have hspace : isBlank ' ' = true := by decide
      rw [solids_blank hspace, solids_solid (.inr hc), solids_solid (.inr hc), ih, Bool.or_true]
      rfl

/-! ### The blanks that are left -/

/-- A blank that stands in a text with another character in front stands behind that character. -/
theorem exists_front_of_cons {d : Char} (hd : isBlank d = false) (hc : isBlank c = true)
    (hsplit : d :: out = front ++ c :: rest) :
    ∃ behind, front = d :: behind ∧ out = behind ++ c :: rest := by
  cases front with
  | nil =>
      obtain ⟨rfl, -⟩ := List.cons.inj hsplit
      rw [hd] at hc
      contradiction
  | cons e front =>
      obtain ⟨rfl, hout⟩ := List.cons.inj hsplit
      exact ⟨front, rfl, hout⟩

/-- A blank that is written outside quotes is a space, and what follows it is not blank. -/
theorem Joins.space_of_isBlank (h : Joins quote pending text out) (hout : out = front ++ c :: rest)
    (hfront : quoteAfter quote front = none) (hc : isBlank c = true) :
    c = ' ' ∧ ∀ d ∈ rest.head?, isBlank d = false := by
  induction h generalizing front with
  | nil => simp at hout
  | quoted _ ih =>
      cases front with
      | nil => contradiction
      | cons d front =>
          obtain ⟨rfl, htail⟩ := List.cons.inj hout
          exact ih htail hfront
  | blank _ _ ih => exact ih hout hfront
  | plain hplain _ ih =>
      obtain ⟨behind, rfl, htail⟩ := exists_front_of_cons hplain hc hout
      exact ih htail hfront
  | spaced hplain _ ih =>
      cases front with
      | nil =>
          obtain ⟨rfl, rfl⟩ := List.cons.inj hout
          exact ⟨rfl, by simpa using hplain⟩
      | cons d front =>
          obtain ⟨rfl, htail⟩ := List.cons.inj hout
          obtain ⟨behind, rfl, hfurther⟩ := exists_front_of_cons hplain hc htail
          exact ih hfurther hfront

/-! ### A text and its normal form -/

/-- Around the core no quote opens. -/
theorem exists_plain_core (text : List Char) :
    ∃ lead rear, text = lead ++ (core text ++ rear) ∧ (∀ c ∈ lead, opensQuote c = false) ∧
      ∀ c ∈ rear, opensQuote c = false := by
  obtain ⟨gap, rear, htext, hgap, hrear⟩ := exists_core_append text
  refine ⟨_, _, htext, fun c hc => opensQuote_of_isBlank (List.mem_takeWhile_imp hc), ?_⟩
  intro c hc
  simp only [List.mem_append, finalSemicolon] at hc
  rcases hc with hc | hc | hc
  · exact opensQuote_of_isBlank (hgap c hc)
  · split at hc
    · obtain rfl := List.mem_singleton.mp hc
      rfl
    · contradiction
  · exact opensQuote_of_isBlank (hrear c hc)

/-- The quotes of a text are closed exactly if those of its core are. -/
theorem quoteAfter_core : quoteAfter none (core text) = quoteAfter none text := by
  obtain ⟨lead, rear, htext, hlead, hrear⟩ := exists_plain_core text
  have hopen : ∀ q ∈ quoteAfter none (core text), opensQuote q = true :=
    fun q hq => opensQuote_of_quoteAfter (by simp) hq
  conv_rhs => rw [htext]
  rw [quoteAfter_append, quoteAfter_of_plain (by simp) hlead, quoteAfter_append,
    quoteAfter_of_plain hopen hrear]

/-- Around the core there are no quoted parts. -/
theorem quotedParts_core (hclosed : quoteAfter none text = none) :
    quotedParts none (core text) = quotedParts none text := by
  rw [← quoteAfter_core] at hclosed
  obtain ⟨lead, rear, htext, hlead, hrear⟩ := exists_plain_core text
  conv_rhs => rw [htext]
  rw [quotedParts_append (quoteAfter_of_plain (by simp) hlead), quotedParts_of_plain hlead,
    quotedParts_append hclosed, quotedParts_of_plain hrear, List.nil_append, List.append_nil]

/-- Around the core only the final semicolon is not a blank. -/
theorem exists_solids_core (hclosed : quoteAfter none text = none) :
    ∃ apart, solids none true text =
      solids none true (core text) ++ (finalSemicolon text).map (apart, ·) := by
  rw [← quoteAfter_core] at hclosed
  obtain ⟨gap, rear, htext, hgap, hrear⟩ := exists_core_append text
  have hlead : ∀ c ∈ text.takeWhile isBlank, isBlank c = true :=
    fun c hc => List.mem_takeWhile_imp hc
  obtain ⟨apart, happend⟩ := exists_solids_append none true (core text)
    (gap ++ (finalSemicolon text ++ rear))
  rw [hclosed, solids_blanks_append hgap] at happend
  refine ⟨apart || !gap.isEmpty, ?_⟩
  conv_lhs => rw [htext]
  rw [solids_blanks_append hlead, Bool.true_or, happend, finalSemicolon]
  split
  · have hsemicolon : isBlank ';' = false := by decide
    rw [List.singleton_append, solids_solid (.inr hsemicolon)]
    exact congrArg _ (congrArg _ (solids_blanks hrear))
  · rw [List.nil_append, solids_blanks hrear]
    rfl

/-- What a text and its normal form have in common, and where they differ. -/
structure IsNormalForm (text normal : List Char) : Prop where
  first : ∀ c ∈ normal.head?, isBlank c = false
  last : ∀ c ∈ normal.getLast?, isBlank c = false
  closed : quoteAfter none normal = none
  /-- Outside quotes a blank is a single space. -/
  spaces : ∀ front c rest, normal = front ++ c :: rest → quoteAfter none front = none →
    isBlank c = true → c = ' ' ∧ ∀ d ∈ rest.head?, isBlank d = false
  quoted : quotedParts none normal = quotedParts none text
  /-- The other characters are those of the text but for its final semicolon, and those are apart
  that are apart in the text. -/
  solid : ∃ apart, solids none true text =
    solids none true normal ++ (finalSemicolon text).map (apart, ·)

theorem head?_normalize (text : List Char) :
    ∀ c ∈ (normalize text).head?, isBlank c = false := by
  intro c hc
  have hfirst : ∀ d ∈ (core text).head?, isBlank d = false :=
    fun d hd => isBlank_of_head?_core hd
  rw [normalize_eq_squeeze, head?_squeeze hfirst] at hc
  exact hfirst c hc

theorem getLast?_normalize (text : List Char) :
    ∀ c ∈ (normalize text).getLast?, isBlank c = false := by
  intro c hc
  have hlast : ∀ d ∈ (core text).getLast?, isBlank d = false :=
    fun d hd => isBlank_of_getLast?_core hd
  rw [normalize_eq_squeeze, getLast?_squeeze hlast] at hc
  exact hlast c hc

/-- Where every quote is closed the normal form only joins blanks outside quotes, and drops those at
the ends and the final semicolon. -/
theorem isNormalForm_normalize (hclosed : quoteAfter none text = none) :
    IsNormalForm text (normalize text) := by
  have hjoins : Joins none false (core text) (normalize text) := by
    rw [normalize_eq_squeeze]
    exact joins_squeeze (by simp)
  have hsolids : solids none true (normalize text) = solids none true (core text) :=
    hjoins.solids_eq
  obtain ⟨apart, hcore⟩ := exists_solids_core hclosed
  exact {
    first := head?_normalize text
    last := getLast?_normalize text
    closed := by rw [hjoins.quoteAfter_eq, quoteAfter_core, hclosed]
    spaces := fun _ _ _ hsplit hfront hc => hjoins.space_of_isBlank hsplit hfront hc
    quoted := by rw [hjoins.quotedParts_eq, quotedParts_core hclosed]
    solid := ⟨apart, by rw [hcore, hsolids]⟩ }

/-- A second pass finds only a semicolon to drop. -/
theorem normalize_normalize (hlast : (normalize text).getLast? ≠ some ';') :
    normalize (normalize text) = normalize text := by
  have htrim : trim (normalize text) = normalize text := by
    rw [trim, trimStart_eq_self (head?_normalize text), trimEnd_eq_self (getLast?_normalize text)]
  have hcore : core (normalize text) = normalize text := by
    rw [core, htrim, dropSemicolon, if_neg hlast]
  rw [normalize_eq_squeeze (normalize text), hcore, normalize_eq_squeeze, squeeze_squeeze]

/-- The normal form changes blanks outside quotes and one final semicolon, and the normal form of a
normal form is the same unless a semicolon is still at its end. -/
theorem normalize_exact :
    (∀ text, quoteAfter none text = none → IsNormalForm text (normalize text)) ∧
      ∀ text, (normalize text).getLast? ≠ some ';' →
        normalize (normalize text) = normalize text :=
  ⟨fun _ hclosed => isNormalForm_normalize hclosed, fun _ hlast => normalize_normalize hlast⟩

theorem normalize_exact_quotes :
    IsNormalForm "\u00a0DELETE\t FROM t WHERE a  = 'it''s  ; ' AND b = \"`  '\" \u2003; \n".toList
        "DELETE FROM t WHERE a = 'it''s  ; ' AND b = \"`  '\"".toList ∧
      normalize "DELETE FROM t WHERE a = 'it''s  ; ' AND b = \"`  '\"".toList =
        "DELETE FROM t WHERE a = 'it''s  ; ' AND b = \"`  '\"".toList := by
  have hnormal :
      normalize "\u00a0DELETE\t FROM t WHERE a  = 'it''s  ; ' AND b = \"`  '\" \u2003; \n".toList =
        "DELETE FROM t WHERE a = 'it''s  ; ' AND b = \"`  '\"".toList := by
    decide +kernel
  rw [← hnormal]
  exact ⟨normalize_exact.1 _ (by decide +kernel), normalize_exact.2 _ (by decide +kernel)⟩

end SqlGateway.Shape
