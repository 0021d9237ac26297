import SqlGateway.Proofs.Shape.Fragments
import SqlGateway.Proofs.Shape.Items

/-!
# Lists of values by their segments

A text is first looked at without the reader of lists: quotes open and close, and the commas outside
them cut the text into segments.  What the reader takes is then said segment by segment
(`readValues_eq_ok_iff`): each holds one quoted literal with gaps around it, or one bare token.  So
the values come in the order of the text, one for each segment, and a segment of any other form
makes the reader refuse the whole text, be it a second row, a clause behind the row, or a quote that
is never closed.

A literal with a doubled quote inside is seen here as two literals side by side.  This does not
matter, since there is nothing between the two.
-/

namespace SqlGateway.Shape

open Text

variable {quote : Option Char} {text seg rest lead rear : List Char} {value : Value}
  {values : List Value} {gap : Char → Bool}

/-! ### Segments -/

/-- The quote that is open behind a character.  The back quote, which counts for the normal form, is
a character like any other here. -/
def openBehind : Option Char → Char → Option Char
  | none, c => if isQuote c then some c else none
  | some q, c => if c = q then none else some q

/-- The quote that is open behind a text. -/
def openAfter (quote : Option Char) (text : List Char) : Option Char :=
  text.foldl openBehind quote

/-- The characters outside the quoted literals of a text. -/
def outside : Option Char → List Char → List Char
  | _, [] => []
  | quote, c :: rest =>
    let further := outside (openBehind quote c) rest
    if quote.isNone && !isQuote c then c :: further else further

/-- The segments of a text, between the commas outside its quoted literals. -/
def segments : Option Char → List Char → List (List Char)
  | _, [] => [[]]
  | quote, c :: rest =>
    let further := segments (openBehind quote c) rest
    if quote.isNone && c == ',' then [] :: further else further.modifyHead (c :: ·)

theorem openAfter_append (quote : Option Char) (front rest : List Char) :
    openAfter quote (front ++ rest) = openAfter (openAfter quote front) rest :=
  List.foldl_append

theorem openAfter_cons (quote : Option Char) (c : Char) (rest : List Char) :
    openAfter quote (c :: rest) = openAfter (openBehind quote c) rest :=
  rfl

theorem outside_append (quote : Option Char) (front rest : List Char) :
    outside quote (front ++ rest) =
      outside quote front ++ outside (openAfter quote front) rest := by
  induction front generalizing quote with
  | nil => rfl
  | cons c front ih =>
      rw [List.cons_append, outside, outside, openAfter_cons, ih]
      split <;> rfl

/-- A text without quotes is outside. -/
theorem outside_of_unquoted (htext : ∀ c ∈ text, isQuote c = false) :
    outside none text = text ∧ openAfter none text = none := by
  induction text with
  | nil => exact ⟨rfl, rfl⟩
  | cons c text ih =>
      obtain ⟨hc, hrest⟩ := List.forall_mem_cons.mp htext
      obtain ⟨houtside, hopen⟩ := ih hrest
      have hbehind : openBehind none c = none := by simp [openBehind, hc]
      rw [outside, openAfter_cons, hbehind, houtside, hopen]
      simp [hc]

theorem segments_ne_nil (quote : Option Char) (text : List Char) : segments quote text ≠ [] := by
  induction text generalizing quote with
  | nil => simp [segments]
  | cons c text ih =>
      rw [segments]
      split
      · simp
      · simpa using ih _

/-- There is one segment more than there are commas outside. -/
theorem length_segments (quote : Option Char) (text : List Char) :
    (segments quote text).length = (outside quote text).count ',' + 1 := by
  induction text generalizing quote with
  | nil => rfl
  | cons c text ih =>
      rw [segments, outside]
      by_cases hcomma : (quote.isNone && c == ',') = true
      · obtain ⟨hquote, hc⟩ := Bool.and_eq_true_iff.mp hcomma
        rw [beq_iff_eq] at hc
        subst hc
        simp [hquote, ih, isQuote]
      · simp only [hcomma, if_false, Bool.false_eq_true]
        split
        · have hc : c ≠ ',' := by
            rintro rfl
            simp_all
          simp [ih, hc]
        · simp [ih]

theorem segments_append (quote : Option Char) (hseg : ',' ∉ outside quote seg) (rest : List Char) :
    segments quote (seg ++ rest) =
      (segments (openAfter quote seg) rest).modifyHead (seg ++ ·) := by
  induction seg generalizing quote with
  | nil =>
      change segments quote rest = (segments quote rest).modifyHead fun tail => tail
      cases segments quote rest <;> rfl
  | cons c seg ih =>
      have hcomma : (quote.isNone && c == ',') = false := by
        cases hcase : quote.isNone && c == ',' with
        | false => rfl
        | true =>
            obtain ⟨hquote, hc⟩ := Bool.and_eq_true_iff.mp hcase
            rw [beq_iff_eq] at hc
            subst hc
            simp [outside, hquote, isQuote] at hseg
      have hrest : ',' ∉ outside (openBehind quote c) seg := by
        rw [outside] at hseg
        split at hseg
        · exact List.not_mem_of_not_mem_cons hseg
        · exact hseg
      rw [List.cons_append, segments, hcomma, if_neg (by decide), ih _ hrest, openAfter_cons]
      cases segments (openAfter (openBehind quote c) seg) rest <;> rfl

theorem segments_append_comma (hopen : openAfter none seg = none) (hseg : ',' ∉ outside none seg)
    (rest : List Char) : segments none (seg ++ ',' :: rest) = seg :: segments none rest := by
  have hcomma : segments none (',' :: rest) = [] :: segments none rest := rfl
  rw [segments_append none hseg, hopen, hcomma, List.modifyHead_cons, List.append_nil]

theorem segments_eq_singleton (hseg : ',' ∉ outside none seg) : segments none seg = [seg] := by
  have hsegments := segments_append none hseg []
  rwa [List.append_nil, segments, List.modifyHead_cons, List.append_nil] at hsegments

/-- A text is its first segment alone, or this segment, a comma, and the further segments. -/
theorem segments_eq_cons {further : List (List Char)} (h : segments quote text = seg :: further) :
    (further = [] ∧ text = seg) ∨
      ∃ rest, text = seg ++ ',' :: rest ∧ further = segments none rest := by
  induction text generalizing quote seg with
  | nil =>
      cases h
      exact .inl ⟨rfl, rfl⟩
  | cons c text ih =>
      rw [segments] at h
      split at h
      · rename_i hcomma
        obtain ⟨hquote, hc⟩ := Bool.and_eq_true_iff.mp hcomma
        rw [Option.isNone_iff_eq_none] at hquote
        rw [beq_iff_eq] at hc
        subst hquote hc
        cases h
        exact .inr ⟨text, rfl, rfl⟩
      · cases hsegments : segments (openBehind quote c) text with
        | nil => exact absurd hsegments (segments_ne_nil _ _)
        | cons first others =>
            rw [hsegments] at h
            cases h
            rcases ih hsegments with ⟨hnone, htext⟩ | ⟨rest, htext, hfurther⟩
            · exact .inl ⟨hnone, by rw [htext]⟩
            · exact .inr ⟨rest, by rw [htext, List.cons_append], hfurther⟩

/-! ### Entries -/

/-- The text of one entry with the value that it stands for: a quoted literal between gaps, or a
bare token, which has no quote, no parenthesis and no comma in it and is not all gap. -/
inductive IsEntry (gap : Char → Bool) : List Char → Value → Prop
  | quoted {lead content rear : List Char} {quote : Char} : (∀ c ∈ lead, gap c = true) →
      isQuote quote = true → (∀ c ∈ rear, gap c = true) →
        IsEntry gap (lead ++ quote :: (doubled quote content ++ quote :: rear))
          (.string (String.ofList content))
  | bare {token : List Char} : (∀ c ∈ token, isTokenPart c = true) →
      (∃ c ∈ token, isGap c = false) → IsEntry gap token (Value.ofToken token)

theorem isQuote_of_isTokenPart {c : Char} (hc : isTokenPart c = true) : isQuote c = false := by
  simp_all [isTokenPart, isQuote]

theorem isTokenPart_of_isBlank {c : Char} (hc : isBlank c = true) : isTokenPart c = true := by
  cases hpart : isTokenPart c with
  | true => rfl
  | false =>
      simp only [isTokenPart, Bool.not_eq_false', Bool.or_eq_true, beq_iff_eq] at hpart
      rcases hpart with (((rfl | rfl) | rfl) | rfl) | rfl <;> exact absurd hc (by decide)

theorem isQuote_of_isBlank {c : Char} (hc : isBlank c = true) : isQuote c = false :=
  isQuote_of_isTokenPart (isTokenPart_of_isBlank hc)

/-- Behind the closing quote of a literal all is as it was before the opening one. -/
theorem openAfter_doubled {quote : Char} (hquote : isQuote quote = true)
    (content rest : List Char) :
    openAfter (some quote) (doubled quote content ++ quote :: rest) = openAfter none rest ∧
      outside (some quote) (doubled quote content ++ quote :: rest) = outside none rest := by
  have hcloses : openBehind (some quote) quote = none := by simp [openBehind]
  have hopens : openBehind none quote = some quote := by simp [openBehind, hquote]
  induction content with
  | nil =>
      rw [doubled_nil, List.nil_append, openAfter_cons, outside, hcloses]
      exact ⟨rfl, rfl⟩
  | cons c content ih =>
      by_cases hc : c = quote
      · subst hc
        rw [doubled_cons_self, List.cons_append, List.cons_append, openAfter_cons, openAfter_cons,
          outside, outside, hcloses, hopens, hquote]
        exact ih
      · have hstays : openBehind (some quote) c = some quote := by simp [openBehind, hc]
        rw [doubled_cons_of_ne hc, List.cons_append, openAfter_cons, outside, hstays]
        exact ih

section Entry

variable (hblank : ∀ c, gap c = true → isBlank c = true)
include hblank

/-- Behind an entry no quote is open, and outside its literal only parts of bare tokens stand. -/
theorem IsEntry.closed (hentry : IsEntry gap seg value) :
    openAfter none seg = none ∧ ∀ c ∈ outside none seg, isTokenPart c = true := by
  cases hentry with
  | @quoted lead content rear quote hlead hquote hrear =>
      have hparts : ∀ {blanks : List Char}, (∀ c ∈ blanks, gap c = true) →
          ∀ c ∈ blanks, isTokenPart c = true :=
        fun hblanks c hc => isTokenPart_of_isBlank (hblank c (hblanks c hc))
      have hopens : openBehind none quote = some quote := by simp [openBehind, hquote]
      obtain ⟨hleadOutside, hleadOpen⟩ :=
        outside_of_unquoted fun c hc => isQuote_of_isTokenPart (hparts hlead c hc)
      obtain ⟨hrearOutside, hrearOpen⟩ :=
        outside_of_unquoted fun c hc => isQuote_of_isTokenPart (hparts hrear c hc)
      obtain ⟨hopen, houtside⟩ := openAfter_doubled hquote content rear
      rw [openAfter_append, outside_append, hleadOpen, hleadOutside, openAfter_cons, outside,
        hopens, hopen, houtside, hrearOpen, hrearOutside, hquote]
      exact ⟨rfl, List.forall_mem_append.mpr ⟨hparts hlead, hparts hrear⟩⟩
  | bare htoken hsolid =>
      obtain ⟨houtside, hopen⟩ :=
        outside_of_unquoted fun c hc => isQuote_of_isTokenPart (htoken c hc)
      exact ⟨hopen, by rwa [houtside]⟩

theorem IsEntry.comma_not_mem (hentry : IsEntry gap seg value) : ',' ∉ outside none seg :=
  fun hcomma => absurd ((hentry.closed hblank).2 ',' hcomma) (by decide)

end Entry

/-- Gaps at the front of an entry belong to it. -/
theorem IsEntry.append_left (hentry : IsEntry gap seg value) (hlead : ∀ c ∈ lead, gap c = true)
    (hblank : ∀ c ∈ lead, isBlank c = true) : IsEntry gap (lead ++ seg) value := by
  cases hentry with
  | @quoted front content rear quote hfront hquote hrear =>
      rw [← List.append_assoc]
      exact .quoted (List.forall_mem_append.mpr ⟨hlead, hfront⟩) hquote hrear
  | bare htoken hsolid =>
      obtain ⟨c, hc, hgap⟩ := hsolid
      have hvalue : Value.ofToken seg = Value.ofToken (lead ++ seg) := by
        rw [Value.ofToken, Value.ofToken, trim_append_left hblank]
      rw [hvalue]
      exact .bare (List.forall_mem_append.mpr
        ⟨fun c hc => isTokenPart_of_isBlank (hblank c hc), htoken⟩)
        ⟨c, List.mem_append_right _ hc, hgap⟩

/-- Gaps at the end of an entry belong to it. -/
theorem IsEntry.append_right (hentry : IsEntry gap seg value) (hrear : ∀ c ∈ rear, gap c = true)
    (hblank : ∀ c ∈ rear, isBlank c = true) : IsEntry gap (seg ++ rear) value := by
  cases hentry with
  | @quoted front content gaps quote hfront hquote hgaps =>
      rw [List.append_assoc, List.cons_append, List.append_assoc, List.cons_append]
      exact .quoted hfront hquote (List.forall_mem_append.mpr ⟨hgaps, hrear⟩)
  | bare htoken hsolid =>
      obtain ⟨c, hc, hgap⟩ := hsolid
      have hvalue : Value.ofToken seg = Value.ofToken (seg ++ rear) := by
        rw [Value.ofToken, Value.ofToken, trim_append_right hblank]
      rw [hvalue]
      exact .bare (List.forall_mem_append.mpr
        ⟨htoken, fun c hc => isTokenPart_of_isBlank (hblank c hc)⟩)
        ⟨c, List.mem_append_left _ hc, hgap⟩

theorem IsEntry.mono {wider : Char → Bool} (hwider : ∀ c, gap c = true → wider c = true)
    (hentry : IsEntry gap seg value) : IsEntry wider seg value := by
  cases hentry with
  | quoted hlead hquote hrear =>
      exact .quoted (fun c hc => hwider c (hlead c hc)) hquote fun c hc => hwider c (hrear c hc)
  | bare htoken hsolid => exact .bare htoken hsolid

/-- Entries with commas between them, with the values that they stand for. -/
inductive AreEntries (gap : Char → Bool) : List Char → List Value → Prop
  | single {seg : List Char} {value : Value} : IsEntry gap seg value → AreEntries gap seg [value]
  | comma {seg rest : List Char} {value : Value} {values : List Value} : IsEntry gap seg value →
      AreEntries gap rest values → AreEntries gap (seg ++ ',' :: rest) (value :: values)

/-- A text consists of entries exactly if each of its segments is one. -/
theorem areEntries_iff (hblank : ∀ c, gap c = true → isBlank c = true) :
    AreEntries gap text values ↔ List.Forall₂ (IsEntry gap) (segments none text) values := by
  constructor
  · intro hentries
    induction hentries with
    | single hentry =>
        rw [segments_eq_singleton (hentry.comma_not_mem hblank)]
        exact .cons hentry .nil
    | comma hentry _ ih =>
        rw [segments_append_comma (hentry.closed hblank).1 (hentry.comma_not_mem hblank)]
        exact .cons hentry ih
  · intro hentries
    induction values generalizing text with
    | nil =>
        rw [List.forall₂_nil_right_iff] at hentries
        exact absurd hentries (segments_ne_nil none text)
    | cons first further ih =>
        obtain ⟨seg, others, hentry, hothers, hsegments⟩ := List.forall₂_cons_right_iff.mp hentries
        rcases segments_eq_cons hsegments with ⟨rfl, rfl⟩ | ⟨rest, rfl, rfl⟩
        · rw [List.forall₂_nil_left_iff] at hothers
          subst hothers
          exact .single hentry
        · exact .comma hentry (ih hothers)

/-! ### What the reader takes -/

theorem isTokenPart_of_isGap {c : Char} (hc : isGap c = true) : isTokenPart c = true :=
  isTokenPart_of_isBlank (isBlank_of_isGap hc)

/-- What the reader takes for an item is an entry, with the gaps on both sides of it. -/
theorem exists_entry (hread : padded readItem? text = some (value, rest)) :
    ∃ seg, text = seg ++ rest ∧ IsEntry isGap seg value := by
  obtain ⟨⟨item, behind⟩, hitem, heq⟩ := Option.map_eq_some_iff.mp hread
  cases heq
  obtain ⟨lead, htext, hlead, hsolid⟩ := exists_skipGap text
  obtain ⟨rear, hbehind, hrear, -⟩ := exists_skipGap behind
  rw [readItem?] at hitem
  split at hitem
  · rename_i inner left hstring
    cases hitem
    obtain ⟨quote, hquote, hsplit⟩ := readString?_eq_some hstring
    refine ⟨_, ?_, .quoted hlead hquote hrear⟩
    rw [hsplit] at htext
    rw [htext]
    conv_lhs => rw [hbehind]
    simp only [List.append_assoc, List.cons_append, List.nil_append]
  · simp only at hitem
    split at hitem
    · contradiction
    · rename_i hne
      cases hitem
      have hsplit : skipGap text = (skipGap text).takeWhile isTokenPart ++
          (skipGap text).dropWhile isTokenPart := List.takeWhile_append_dropWhile.symm
      have hparts : ∀ c ∈ (skipGap text).takeWhile isTokenPart, isTokenPart c = true :=
        fun c hc => List.mem_takeWhile_imp hc
      have hstop : skipGap ((skipGap text).dropWhile isTokenPart) =
          (skipGap text).dropWhile isTokenPart := by
        refine skipGap_eq_self fun c hc => ?_
        have hpart := stopsAt_dropWhile isTokenPart (skipGap text) c hc
        cases hgap : isGap c with
        | false => rfl
        | true => simp [isTokenPart_of_isGap hgap] at hpart
      generalize (skipGap text).takeWhile isTokenPart = token at *
      generalize (skipGap text).dropWhile isTokenPart = left at *
      rw [hstop]
      refine ⟨lead ++ token, by rw [htext, hsplit, List.append_assoc], ?_⟩
      refine (IsEntry.bare hparts ?_).append_left hlead fun c hc => isBlank_of_isGap (hlead c hc)
      cases token with
      | nil => simp at hne
      | cons c token => exact ⟨c, List.mem_cons_self, hsolid c (by rw [hsplit]; rfl)⟩

/-- An entry is read where nothing or a comma follows it. -/
theorem IsEntry.isSegment (hentry : IsEntry isGap seg value) : IsSegment readItem? seg value := by
  intro rest hrest
  cases hentry with
  | @quoted lead content rear quote hlead hquote hrear =>
      have hgap : isGap quote = false := isGap_eq_false (isBlank_of_isQuote hquote)
      have hother : (rear ++ rest).head? ≠ some quote := by
        cases rear with
        | nil =>
            intro hhead
            rw [hrest quote hhead] at hquote
            contradiction
        | cons c rear =>
            rintro ⟨⟩
            rw [hrear quote List.mem_cons_self] at hgap
            contradiction
      have hsplit : lead ++ quote :: (doubled quote content ++ quote :: rear) ++ rest =
          lead ++ quote :: (doubled quote content ++ quote :: (rear ++ rest)) := by simp
      rw [hsplit, padded, skipGap_append hlead, skipGap_cons hgap, readItem?, readString?,
        if_pos hquote, readQuoted?_doubled hother]
      simp only [Option.map_some, skipGap_append hrear, skipGap_of_atComma hrest]
  | bare htoken hsolid =>
      obtain ⟨lead, hseg, hlead, hhead⟩ := exists_skipGap seg
      cases hskip : skipGap seg with
      | nil =>
          -- nothing is left, but not all of the token is gap
          obtain ⟨c, hc, hgap⟩ := hsolid
          rw [hskip, List.append_nil] at hseg
          rw [hlead c (hseg ▸ hc)] at hgap
          contradiction
      | cons c solid =>
          rw [hskip] at hseg hhead
          have hparts : ∀ d ∈ c :: solid, isTokenPart d = true :=
            fun d hd => htoken d (hseg ▸ List.mem_append_right _ hd)
          have hquote : isQuote c = false := isQuote_of_isTokenPart (hparts c List.mem_cons_self)
          have hstops : StopsAt isTokenPart rest := hrest.stopsAt (by decide)
          have hvalue : Value.ofToken seg = Value.ofToken (c :: solid) := by
            rw [hseg, Value.ofToken, Value.ofToken,
              trim_append_left fun d hd => isBlank_of_isGap (hlead d hd)]
          have hitem : readItem? (c :: solid ++ rest) = some (Value.ofToken seg, rest) := by
            have hstring : readString? (c :: solid ++ rest) = none := by
              simp [readString?, hquote]
            rw [readItem?, hstring, takeWhile_append_of_stopsAt hparts hstops,
              dropWhile_append_of_stopsAt hparts hstops, hvalue]
            rfl
          have hfront : skipGap (seg ++ rest) = c :: solid ++ rest := by
            rw [hseg, List.append_assoc, skipGap_append hlead]
            exact skipGap_cons (hhead c rfl)
          rw [padded, hfront, hitem]
          simp only [Option.map_some, skipGap_of_atComma hrest]

theorem takesSegments_item : TakesSegments readItem? (IsEntry isGap) where
  exists_segment := exists_entry
  isSegment := IsEntry.isSegment

theorem areEntries_iff_intercalate : AreEntries gap text values ↔ ∃ segs, segs ≠ [] ∧
    List.Forall₂ (IsEntry gap) segs values ∧ text = [','].intercalate segs := by
  constructor
  · intro hentries
    induction hentries with
    | @single seg value hentry =>
        exact ⟨[seg], List.cons_ne_nil _ _, .cons hentry .nil, by simp⟩
    | @comma seg rest value values hentry _ ih =>
        obtain ⟨segs, hne, hsegs, rfl⟩ := ih
        refine ⟨seg :: segs, List.cons_ne_nil _ _, .cons hentry hsegs, ?_⟩
        rw [List.intercalate_cons_of_ne_nil hne, List.append_assoc]
        rfl
  · rintro ⟨segs, hne, hsegs, rfl⟩
    induction hsegs with
    | nil => exact absurd rfl hne
    | @cons seg value segs values hentry hfurther ih =>
        cases hfurther with
        | nil => simpa using AreEntries.single hentry
        | cons hnext hmore =>
            rw [List.intercalate_cons_cons, List.append_assoc]
            exact .comma hentry (ih (List.cons_ne_nil _ _))

/-- The reader takes a list exactly if it consists of entries. -/
theorem readList?_eq_some_iff :
    readList? readItem? text = some (values, []) ↔ AreEntries isGap text values := by
  rw [takesSegments_item.readList?_eq_some_iff, areEntries_iff_intercalate]

/-- Without the blanks around it, a list of values is read exactly if it consists of entries, and is
read as their values. -/
theorem readValues_eq_ok_iff :
    readValues text = .ok values ↔ AreEntries isGap (trim text) values := by
  rw [← readList?_eq_some_iff, readValues]
  rcases readList? readItem? (trim text) with _ | ⟨read, _ | ⟨c, left⟩⟩
  · simp
  · simp
  · simp

/-! ### Blanks around a list -/

theorem AreEntries.mono {wider : Char → Bool} (hwider : ∀ c, gap c = true → wider c = true)
    (hentries : AreEntries gap text values) : AreEntries wider text values := by
  induction hentries with
  | single hentry => exact .single (hentry.mono hwider)
  | comma hentry _ ih => exact .comma (hentry.mono hwider) ih

theorem AreEntries.append_left (hentries : AreEntries isBlank text values)
    (hlead : ∀ c ∈ lead, isBlank c = true) : AreEntries isBlank (lead ++ text) values := by
  cases hentries with
  | single hentry => exact .single (hentry.append_left hlead hlead)
  | comma hentry hrest =>
      rw [← List.append_assoc]
      exact .comma (hentry.append_left hlead hlead) hrest

theorem AreEntries.append_right (hentries : AreEntries isBlank text values)
    (hrear : ∀ c ∈ rear, isBlank c = true) : AreEntries isBlank (text ++ rear) values := by
  induction hentries with
  | single hentry => exact .single (hentry.append_right hrear hrear)
  | comma hentry _ ih =>
      rw [List.append_assoc, List.cons_append]
      exact .comma hentry ih

/-- The values that are read are those of the entries, with whatever blanks around the list. -/
theorem areEntries_of_readValues (hread : readValues text = .ok values) :
    AreEntries isBlank text values := by
  obtain ⟨lead, rear, htext, hlead, hrear⟩ := exists_trim_append text
  have hentries := (readValues_eq_ok_iff.mp hread).mono fun _ => isBlank_of_isGap
  rw [htext]
  exact (hentries.append_right hrear).append_left hlead

/-! ### Malformed lists -/

/-- A text is no list of values. -/
inductive IsMalformed (text : List Char) : Prop
  /-- A parenthesis stands outside the quotes. -/
  | parenthesis : '(' ∈ outside none text ∨ ')' ∈ outside none text → IsMalformed text
  /-- A quote is never closed. -/
  | unterminated : openAfter none text ≠ none → IsMalformed text
  /-- A quote stands inside a bare token, behind something that is not blank. -/
  | quoteInToken {token rest : List Char} {quote : Char} :
      token ++ quote :: rest ∈ segments none text → (∀ c ∈ token, isQuote c = false) →
        (∃ c ∈ token, isBlank c = false) → isQuote quote = true → IsMalformed text
  /-- Between a closing quote and the next comma something is not blank.  A quote behind which the
  same one stands is no closing one. -/
  | textBehindQuote {front behind : List Char} {quote : Char} :
      front ++ quote :: behind ∈ segments none text → openAfter none front = some quote →
        behind.head? ≠ some quote → (∃ c ∈ behind, isBlank c = false) → IsMalformed text

/-- Outside the literals of entries there are commas and parts of bare tokens alone, and behind the
last one no quote is open. -/
theorem AreEntries.closed (hentries : AreEntries isBlank text values) :
    openAfter none text = none ∧ ∀ c ∈ outside none text, c = ',' ∨ isTokenPart c = true := by
  induction hentries with
  | single hentry =>
      obtain ⟨hopen, hparts⟩ := hentry.closed fun _ => id
      exact ⟨hopen, fun c hc => .inr (hparts c hc)⟩
  | @comma seg rest value values hentry _ ih =>
      obtain ⟨hopen, hparts⟩ := hentry.closed fun _ => id
      obtain ⟨hrestOpen, hrestParts⟩ := ih
      have hcomma : outside none (',' :: rest) = ',' :: outside none rest := rfl
      rw [openAfter_append, outside_append, hopen, hcomma]
      refine ⟨hrestOpen, fun c hc => ?_⟩
      rw [List.mem_append, List.mem_cons] at hc
      rcases hc with hc | hc | hc
      · exact .inr (hparts c hc)
      · exact .inl hc
      · exact hrestParts c hc

theorem AreEntries.exists_entry (hentries : AreEntries isBlank text values)
    (hseg : seg ∈ segments none text) : ∃ value, IsEntry isBlank seg value :=
  exists_forall₂_iff.mp ⟨values, (areEntries_iff fun _ => id).mp hentries⟩ seg hseg

/-- Behind the closing quote of a literal there is what follows the literal. -/
theorem eq_of_doubled {content front behind : List Char} {quote closing : Char}
    (hquote : isQuote quote = true) (hrear : ∀ c ∈ rear, isQuote c = false)
    (hsplit : doubled quote content ++ quote :: rear = front ++ closing :: behind)
    (hopen : openAfter (some quote) front = some closing) (hcloses : behind.head? ≠ some closing) :
    behind = rear := by
  have hbehind : ∀ c, openBehind (some quote) c = if c = quote then none else some quote :=
    fun _ => rfl
  have hopens : openBehind none quote = some quote := by simp [openBehind, hquote]
  induction content generalizing front with
  | nil =>
      cases front with
      | nil =>
          cases hsplit
          rfl
      | cons c front =>
          -- the literal is closed by now, and nothing behind it opens another one
          simp only [doubled_nil, List.nil_append, List.cons_append, List.cons.injEq] at hsplit
          obtain ⟨hc, rfl⟩ := hsplit
          have hclosed := (outside_of_unquoted fun d hd => hrear d (List.mem_append_left _ hd)).2
          rw [← hc, openAfter_cons, hbehind, if_pos rfl, hclosed] at hopen
          contradiction
  | cons c content ih =>
      by_cases hc : c = quote
      · rw [hc, doubled_cons_self] at hsplit
        rcases front with _ | ⟨d, _ | ⟨e, front⟩⟩
        · simp only [List.nil_append, List.cons_append, List.cons.injEq] at hsplit
          obtain ⟨rfl, rfl⟩ := hsplit
          simp at hcloses
        · simp only [List.nil_append, List.cons_append, List.cons.injEq] at hsplit
          rw [← hsplit.1, openAfter_cons, hbehind, if_pos rfl] at hopen
          contradiction
        · simp only [List.cons_append, List.cons.injEq] at hsplit
          obtain ⟨hd, he, hsplit⟩ := hsplit
          rw [← hd, ← he, openAfter_cons, openAfter_cons, hbehind, if_pos rfl, hopens] at hopen
          exact ih hsplit hopen
      · rw [doubled_cons_of_ne hc] at hsplit
        cases front with
        | nil =>
            simp only [List.nil_append, List.cons_append, List.cons.injEq] at hsplit
            cases hopen
            exact absurd hsplit.1 hc
        | cons d front =>
            simp only [List.cons_append, List.cons.injEq] at hsplit
            obtain ⟨hd, hsplit⟩ := hsplit
            rw [← hd, openAfter_cons, hbehind, if_neg hc] at hopen
            exact ih hsplit hopen

theorem IsEntry.not_quoteInToken {token : List Char} {quote : Char}
    (hentry : IsEntry isBlank (token ++ quote :: rest) value)
    (htoken : ∀ c ∈ token, isQuote c = false) (hquote : isQuote quote = true) :
    ∀ c ∈ token, isBlank c = true := by
  generalize htext : token ++ quote :: rest = text at hentry
  cases hentry with
  | @quoted lead content rear opening hlead hopening hrear =>
      -- the token ends where the first quote stands, as the blanks before the literal do
      have hstops : ∀ {q : Char} {tail : List Char}, isQuote q = true →
          StopsAt (fun c => !isQuote c) (q :: tail) := fun hq => stopsAt_cons.mpr (by simp [hq])
      have hfirst := congrArg (List.takeWhile fun c => !isQuote c) htext
      rw [takeWhile_append_of_stopsAt (by simpa using htoken) (hstops hquote),
        takeWhile_append_of_stopsAt (fun c hc => by simp [isQuote_of_isBlank (hlead c hc)])
          (hstops hopening)] at hfirst
      rwa [hfirst]
  | bare hparts hsolid =>
      have hpart := hparts quote (htext ▸ List.mem_append_right _ List.mem_cons_self)
      rw [isQuote_of_isTokenPart hpart] at hquote
      contradiction

theorem IsEntry.not_textBehindQuote {front behind : List Char} {quote : Char}
    (hentry : IsEntry isBlank (front ++ quote :: behind) value)
    (hopen : openAfter none front = some quote) (hcloses : behind.head? ≠ some quote) :
    ∀ c ∈ behind, isBlank c = true := by
  generalize htext : front ++ quote :: behind = text at hentry
  cases hentry with
  | @quoted lead content rear opening hlead hopening hrear =>
      have hclosed : ∀ {blanks : List Char}, (∀ c ∈ blanks, isBlank c = true) →
          openAfter none blanks = none :=
        fun hblanks => (outside_of_unquoted fun c hc => isQuote_of_isBlank (hblanks c hc)).2
      rcases List.append_eq_append_iff.mp htext with ⟨inner, hinner, -⟩ | ⟨inner, hinner, hsplit⟩
      · rw [hclosed fun c hc => hlead c (hinner ▸ List.mem_append_left _ hc)] at hopen
        contradiction
      · rw [hinner, openAfter_append, hclosed hlead] at hopen
        cases inner with
        | nil => contradiction
        | cons c inner =>
            simp only [List.cons_append, List.cons.injEq] at hsplit
            obtain ⟨rfl, hsplit⟩ := hsplit
            rw [openAfter_cons, openBehind, if_pos hopening] at hopen
            have hbehind := eq_of_doubled hopening (fun c hc => isQuote_of_isBlank (hrear c hc))
              hsplit hopen hcloses
            rwa [hbehind]
  | bare hparts hsolid =>
      have hfront := (outside_of_unquoted fun c hc => isQuote_of_isTokenPart
        (hparts c (htext ▸ List.mem_append_left _ hc))).2
      rw [hfront] at hopen
      contradiction

theorem AreEntries.not_isMalformed (hentries : AreEntries isBlank text values) :
    ¬IsMalformed text := by
  obtain ⟨hopen, hparts⟩ := hentries.closed
  rintro (hparenthesis | hunterminated | ⟨hseg, htoken, hsolid, hquote⟩ |
    ⟨hseg, hfront, hcloses, hsolid⟩)
  · rcases hparenthesis with hmem | hmem <;> rcases hparts _ hmem with h | h <;>
      exact absurd h (by decide)
  · exact hunterminated hopen
  · obtain ⟨value, hentry⟩ := hentries.exists_entry hseg
    obtain ⟨c, hc, hblank⟩ := hsolid
    rw [hentry.not_quoteInToken htoken hquote c hc] at hblank
    contradiction
  · obtain ⟨value, hentry⟩ := hentries.exists_entry hseg
    obtain ⟨c, hc, hblank⟩ := hsolid
    rw [hentry.not_textBehindQuote hfront hcloses c hc] at hblank
    contradiction

/-- Reading lists of values is exact.  What is written for values, with a comma and a space between
them, is read as these values.  Of any text that is read, each segment is an entry and gives one
value, so there is one value more than there are commas outside the quotes, and the values stand in
the order of the text.  A malformed text is refused. -/
theorem readValues_exact :
    (∀ values : List Value, values ≠ [] → (∀ value ∈ values, value.IsAtom) →
      readValues (listText Value.sqlChars values) = .ok values) ∧
    (∀ text values, readValues text = .ok values →
      values.length = (outside none text).count ',' + 1 ∧
        List.Forall₂ (IsEntry isBlank) (segments none text) values) ∧
    ∀ text, IsMalformed text → ∃ fault, readValues text = .error fault := by
  refine ⟨fun values hne hvalues => readValues_listText hne hvalues, fun text values hread => ?_,
    fun text hmalformed => ?_⟩
  · have hentries := (areEntries_iff fun _ => id).mp (areEntries_of_readValues hread)
    exact ⟨by rw [← hentries.length_eq, length_segments], hentries⟩
  · cases hread : readValues text with
    | error fault => exact ⟨fault, rfl⟩
    | ok values => exact absurd hmalformed (areEntries_of_readValues hread).not_isMalformed

/-- A row with quotes, commas and parentheses inside a string, and a second row behind the first. -/
theorem readValues_exact_rows :
    readValues "'it''s, (\"a\")\n ', -1, NULL".toList =
        .ok [.string "it's, (\"a\")\n ", .int (-1), .null] ∧
      IsMalformed "1), (2".toList ∧ ∃ fault, readValues "1), (2".toList = .error fault := by
  obtain ⟨hwritten, -, hrefused⟩ := readValues_exact
  have hrow := hwritten [.string "it's, (\"a\")\n ", .int (-1), .null] (by simp) (by
    intro value hvalue
    simp only [List.mem_cons, List.not_mem_nil, or_false] at hvalue
    rcases hvalue with rfl | rfl | rfl
    · exact .string _
    · exact .int (by decide)
    · exact .null)
  have hmalformed : IsMalformed "1), (2".toList := .parenthesis (.inl (by decide))
  exact ⟨hrow, hmalformed, hrefused _ hmalformed⟩

end SqlGateway.Shape
