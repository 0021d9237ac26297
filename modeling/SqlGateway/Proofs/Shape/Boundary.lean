import SqlGateway.Proofs.Shape.Items
import SqlGateway.Proofs.Shape.Pattern

/-!
# Where a query is cut

The select list and the condition of a query are the shortest that the rest of the shape allows.  A
select list holds no word `FROM`, as it is no name of a column, so the list ends where it was
written to end.  An order consists of words, so no end of a comparison passes for a part of one:
such an end holds a quote or a sign, or it is a number.
-/

namespace SqlGateway.Shape

open Decimal Text Sql

variable {text front rest word : List Char}

/-! ### The word `FROM` -/

/-- The word `FROM`, in any case. -/
structure IsFrom (word : List Char) : Prop where
  isWordOf : Value.isWordOf "FROM" word = true
  parts : ∀ c ∈ word, isNamePart c = true

theorem IsFrom.length_eq (hword : IsFrom word) : word.length = 4 := by
  have hlength := congrArg List.length (beq_iff_eq.mp hword.isWordOf)
  simpa using hlength

theorem IsFrom.ne_nil (hword : IsFrom word) : word ≠ [] :=
  List.ne_nil_of_length_eq_add_one hword.length_eq

/-- A text in which the word `FROM` stands on its own, with no part of a name on either side. -/
def HoldsFrom (text : List Char) : Prop :=
  ∃ before word after, text = before ++ (word ++ after) ∧ IsFrom word ∧
    (∀ c ∈ before.getLast?, isNamePart c = false) ∧ StopsAt isNamePart after

theorem not_holdsFrom_of_gap (htext : ∀ c ∈ text, isNamePart c = false) : ¬HoldsFrom text := by
  rintro ⟨before, word, after, rfl, hword, -, -⟩
  cases word with
  | nil => exact hword.ne_nil rfl
  | cons c word =>
      have hc := htext c (by simp)
      rw [hword.parts c List.mem_cons_self] at hc
      contradiction

theorem not_holdsFrom_of_short (hshort : text.length < 4) : ¬HoldsFrom text := by
  rintro ⟨before, word, after, rfl, hword, -, -⟩
  simp only [List.length_append, hword.length_eq] at hshort
  omega

/-- A name is all that it holds. -/
theorem not_holdsFrom_of_name (hparts : ∀ c ∈ text, isNamePart c = true)
    (hother : Value.isWordOf "FROM" text = false) : ¬HoldsFrom text := by
  rintro ⟨before, word, after, rfl, hword, hbefore, hafter⟩
  obtain ⟨hbeforeParts, hrest⟩ := List.forall_mem_append.mp hparts
  obtain ⟨-, hafterParts⟩ := List.forall_mem_append.mp hrest
  have hbeforeNil : before = [] := by
    rw [← List.getLast?_eq_none_iff, Option.eq_none_iff_forall_not_mem]
    intro c hc
    have hlast := hbefore c hc
    rw [hbeforeParts c (List.mem_of_mem_getLast? hc)] at hlast
    contradiction
  have hafterNil : after = [] := by
    rw [← List.head?_eq_none_iff, Option.eq_none_iff_forall_not_mem]
    intro c hc
    have hfirst := hafter c hc
    rw [hafterParts c (List.mem_of_mem_head? hc)] at hfirst
    contradiction
  rw [hbeforeNil, hafterNil, List.append_nil, List.nil_append, hword.isWordOf] at hother
  contradiction

/-- Where no two parts of names meet, a word stands on one side. -/
theorem not_holdsFrom_append (hfront : ¬HoldsFrom front) (hrest : ¬HoldsFrom rest)
    (hmeet : (∀ c ∈ front.getLast?, isNamePart c = false) ∨ StopsAt isNamePart rest) :
    ¬HoldsFrom (front ++ rest) := by
  rintro ⟨before, word, after, hsplit, hword, hbefore, hafter⟩
  rcases List.append_eq_append_iff.mp hsplit with ⟨more, rfl, rfl⟩ | ⟨more, rfl, hmore⟩
  · refine hrest ⟨more, word, after, rfl, hword, fun c hc => hbefore c ?_, hafter⟩
    rw [Option.mem_def] at hc ⊢
    rw [List.getLast?_append, hc]
    rfl
  rcases List.append_eq_append_iff.mp hmore with ⟨behind, rfl, rfl⟩ | ⟨behind, rfl, rfl⟩
  · refine hfront ⟨before, word, behind, rfl, hword, hbefore, fun c hc => hafter c ?_⟩
    rw [Option.mem_def] at hc ⊢
    rw [List.head?_append, hc]
    rfl
  · -- the word is cut: either part of it may be empty, but not both are there
    cases behind with
    | nil =>
        rw [List.append_nil] at hword
        exact hfront ⟨before, more, [], by simp, hword, hbefore, stopsAt_nil⟩
    | cons d behind =>
        have hd : isNamePart d = true := hword.parts d (by simp)
        rcases hmeet with hlast | hfirst
        · cases hend : more.getLast? with
          | none =>
              rw [List.getLast?_eq_none_iff] at hend
              subst hend
              exact hrest ⟨[], d :: behind, after, rfl, hword, by simp, hafter⟩
          | some c =>
              have hc := hlast c (by rw [List.getLast?_append, hend]; rfl)
              rw [hword.parts c (List.mem_append_left _ (List.mem_of_getLast? hend))] at hc
              contradiction
        · rw [hfirst d rfl] at hd
          contradiction

theorem not_holdsFrom_gap_append (hfront : ∀ c ∈ front, isNamePart c = false)
    (hrest : ¬HoldsFrom rest) : ¬HoldsFrom (front ++ rest) :=
  not_holdsFrom_append (not_holdsFrom_of_gap hfront) hrest
    (.inl fun c hc => hfront c (List.mem_of_mem_getLast? hc))

/-! ### Select lists -/

theorem isNamePart_of_isBlank {c : Char} (hc : isBlank c = true) : isNamePart c = false := by
  cases hpart : isNamePart c with
  | false => rfl
  | true =>
      rw [isBlank_of_isBarePart (isBarePart_of_isNamePart hpart)] at hc
      contradiction

theorem isNamePart_of_isGap {c : Char} (hc : isGap c = true) : isNamePart c = false :=
  isNamePart_of_isBlank (isBlank_of_isGap hc)

/-- A reader that takes no `FROM`. -/
def LacksFrom {α : Type} (item : Step α) : Prop :=
  ∀ text value rest, item text = some (value, rest) →
    ∃ front, text = front ++ rest ∧ ¬HoldsFrom front

theorem readFieldName?_lacksFrom {name : List Char}
    (hread : readFieldName? text = some (name, rest)) :
    text = name ++ rest ∧ ¬HoldsFrom name ∧ StopsAt isNamePart rest := by
  obtain ⟨hname, hkeyword⟩ := Option.filter_eq_some_iff.mp hread
  obtain ⟨hsplit, -, hparts, hstops⟩ := readName?_eq_some_iff.mp hname
  refine ⟨hsplit, not_holdsFrom_of_name hparts ?_, hstops⟩
  cases hfrom : Value.isWordOf "FROM" name with
  | false => rfl
  | true =>
      have hany : isSelectKeyword name = true :=
        List.any_eq_true.mpr ⟨"FROM", by decide, hfrom⟩
      simp [hany] at hkeyword

/-- The word `AS` is no `FROM`. -/
theorem skipAs_lacksFrom (text : List Char) : ∃ front, text = front ++ skipAs text ∧
    ¬HoldsFrom front ∧ ∀ c ∈ front.getLast?, isNamePart c = false := by
  rcases skipAs_cases text with hnone | ⟨marker, gap, hsplit, hmarker, hne, hgap⟩
  · exact ⟨[], hnone.symm, not_holdsFrom_of_gap (List.forall_mem_nil _), by simp⟩
  · have hparts : ∀ d ∈ gap, isNamePart d = false := fun d hd => isNamePart_of_isGap (hgap d hd)
    have hshort : marker.length < 4 := by
      have hlength := congrArg List.length (beq_iff_eq.mp hmarker)
      simp only [List.length_map] at hlength
      rw [hlength]
      decide
    refine ⟨marker ++ gap, by rw [List.append_assoc, ← hsplit], ?_, ?_⟩
    · exact not_holdsFrom_append (not_holdsFrom_of_short hshort) (not_holdsFrom_of_gap hparts)
        (.inr fun d hd => hparts d (List.mem_of_mem_head? hd))
    · intro d hd
      rw [List.getLast?_append_of_ne_nil _ hne] at hd
      exact hparts d (List.mem_of_mem_getLast? hd)

theorem readLabel?_lacksFrom {label : List Char} (hread : readLabel? text = some (label, rest)) :
    ∃ front, text = front ++ rest ∧ ¬HoldsFrom front ∧ StopsAt isNamePart front := by
  cases text with
  | nil => contradiction
  | cons c text =>
      rw [readLabel?] at hread
      split at hread
      · rename_i hc
        obtain ⟨hlabel, hname, -⟩ := readFieldName?_lacksFrom hread
        obtain ⟨gap, hgap, hgapParts, -⟩ := exists_skipGap text
        obtain ⟨marker, hmarker, hmarkerFrom, hmeet⟩ := skipAs_lacksFrom (skipGap text)
        refine ⟨c :: gap ++ (marker ++ label), ?_, ?_, stopsAt_cons.mpr (isNamePart_of_isGap hc)⟩
        · simp only [List.cons_append, List.append_assoc]
          rw [← hlabel, ← hmarker, ← hgap]
        · refine not_holdsFrom_gap_append ?_ (not_holdsFrom_append hmarkerFrom hname (.inl hmeet))
          exact List.forall_mem_cons.mpr
            ⟨isNamePart_of_isGap hc, fun d hd => isNamePart_of_isGap (hgapParts d hd)⟩
      · contradiction

theorem lacksFrom_field : LacksFrom readField? := by
  intro text column rest hread
  rw [readField?] at hread
  split at hread
  · contradiction
  rename_i name behind hname
  obtain ⟨rfl, hnameFrom, -⟩ := readFieldName?_lacksFrom hname
  split at hread
  · rename_i label left hlabel
    cases hread
    obtain ⟨front, rfl, hfront, hstops⟩ := readLabel?_lacksFrom hlabel
    exact ⟨name ++ front, (List.append_assoc ..).symm,
      not_holdsFrom_append hnameFrom hfront (.inr hstops)⟩
  · cases hread
    exact ⟨name, rfl, hnameFrom⟩

theorem LacksFrom.padded {α : Type} {item : Step α} (hitem : LacksFrom item) :
    LacksFrom (padded item) := by
  intro text value rest hread
  obtain ⟨⟨value, behind⟩, hinner, heq⟩ := Option.map_eq_some_iff.mp hread
  cases heq
  obtain ⟨front, hfront, hfrom⟩ := hitem _ _ _ hinner
  obtain ⟨lead, hlead, hleadGap, -⟩ := exists_skipGap text
  obtain ⟨rear, hrear, hrearGap, -⟩ := exists_skipGap behind
  refine ⟨lead ++ (front ++ rear), ?_, ?_⟩
  · rw [List.append_assoc, List.append_assoc, ← hrear, ← hfront, ← hlead]
  · have hgap : ∀ c ∈ rear, isNamePart c = false := fun c hc => isNamePart_of_isGap (hrearGap c hc)
    refine not_holdsFrom_gap_append (fun c hc => isNamePart_of_isGap (hleadGap c hc)) ?_
    exact not_holdsFrom_append hfrom (not_holdsFrom_of_gap hgap)
      (.inr fun c hc => hgap c (List.mem_of_mem_head? hc))

/-- Behind the first item of a list every further one follows a comma. -/
theorem LacksFrom.further {α : Type} {item : Step α} (hitem : LacksFrom item) {rounds : Nat}
    {values : List α} (hread : readFurther item rounds text = (values, rest)) :
    ∃ front, text = front ++ rest ∧ ¬HoldsFrom front ∧ StopsAt isNamePart front := by
  have hnone : ∀ text, ∃ front, text = front ++ text ∧ ¬HoldsFrom front ∧
      StopsAt isNamePart front :=
    fun text => ⟨[], rfl, not_holdsFrom_of_gap (List.forall_mem_nil _), stopsAt_nil⟩
  induction rounds generalizing text values with
  | zero =>
      cases hread
      exact hnone _
  | succ rounds ih =>
      rw [readFurther] at hread
      split at hread
      · cases hread
        exact hnone _
      rename_i behind hcomma
      split at hread
      · cases hread
        exact hnone _
      rename_i value behindItem hvalue
      obtain ⟨lead, gap, rfl, hlead, hgap⟩ := exists_skipComma? hcomma
      obtain ⟨first, rfl, hfirst⟩ := hitem _ _ _ hvalue
      rcases hrest : readFurther item rounds behindItem with ⟨further, tail⟩
      rw [hrest] at hread
      cases hread
      obtain ⟨front, rfl, hfront, hstops⟩ := ih hrest
      have hseparator : ∀ c ∈ lead ++ ',' :: gap, isNamePart c = false :=
        List.forall_mem_append.mpr ⟨fun c hc => isNamePart_of_isBlank (hlead c hc),
          List.forall_mem_cons.mpr ⟨by decide, fun c hc => isNamePart_of_isBlank (hgap c hc)⟩⟩
      refine ⟨(lead ++ ',' :: gap) ++ (first ++ front), by simp,
        not_holdsFrom_gap_append hseparator (not_holdsFrom_append hfirst hfront (.inr hstops)), ?_⟩
      intro c hc
      rw [List.head?_append_of_ne_nil _ (by simp)] at hc
      exact hseparator c (List.mem_of_mem_head? hc)

theorem LacksFrom.whole {α : Type} {item : Step α} (hitem : LacksFrom item) {values : List α}
    (hread : readWholeList? item text = some values) : ¬HoldsFrom text := by
  rw [readWholeList?, readList?] at hread
  split at hread
  · rename_i hlist
    split at hlist
    · contradiction
    · rename_i first behind hfirst
      cases hread
      obtain ⟨front, rfl, hfront⟩ := hitem.padded _ _ _ hfirst
      rcases hrest : readFurther (Shape.padded item) behind.length behind with ⟨further, tail⟩
      rw [hrest] at hlist
      cases hlist
      obtain ⟨others, rfl, hothers, hstops⟩ := hitem.padded.further hrest
      rw [List.append_nil]
      exact not_holdsFrom_append hfront hothers (.inr hstops)
  · contradiction

/-- In a select list that can be read there is no `FROM`. -/
theorem not_holdsFrom_of_readFields? {columns : List SelectColumn}
    (hread : readFields? text = some columns) : ¬HoldsFrom text := by
  have htrimmed : ¬HoldsFrom (trim text) := by
    rw [readFields?] at hread
    split at hread
    · rename_i hstar
      rw [hstar]
      exact not_holdsFrom_of_gap (by decide)
    · exact lacksFrom_field.whole hread
  obtain ⟨lead, rear, hsplit, hlead, hrear⟩ := exists_trim_append text
  have hgap : ∀ c ∈ rear, isNamePart c = false := fun c hc => isNamePart_of_isBlank (hrear c hc)
  rw [hsplit]
  refine not_holdsFrom_gap_append (fun c hc => isNamePart_of_isBlank (hlead c hc)) ?_
  exact not_holdsFrom_append htrimmed (not_holdsFrom_of_gap hgap)
    (.inr fun c hc => hgap c (List.mem_of_mem_head? hc))

/-- No letter beyond ASCII passes for one of the word `FROM`. -/
theorem letter_of_sameFold {w c : Char} (hw : w ∈ "FROM".toList) (hfold : sameFold w c = true) :
    c.toLower = w.toLower ∧ isNamePart c = true := by
  by_cases hc : c.toNat < 128
  · have hall : ∀ w ∈ "FROM".toList, sameFold w c = true →
        c.toLower = w.toLower ∧ isNamePart c = true :=
      forall_ascii (p := fun c => ∀ w ∈ "FROM".toList, sameFold w c = true →
        c.toLower = w.toLower ∧ isNamePart c = true) (by decide +kernel) hc
    exact hall w hw hfold
  · have hsame : fold w = fold c := beq_iff_eq.mp hfold
    have hascii : ∀ w ∈ "FROM".toList, (0 < (fold w).toNat ∧ (fold w).toNat < 128) ∧
        fold w ≠ 's' ∧ fold w ≠ 'k' := by decide
    obtain ⟨hrange, hs, hk⟩ := hascii w hw
    rw [hsame] at hrange hs hk
    rcases eq_of_fold_ascii (Nat.not_lt.mp hc) hrange with ⟨-, h⟩ | ⟨-, h⟩
    · exact absurd h hs
    · exact absurd h hk

theorem letters_of_sameFold {letters : List Char} (hsame : SameFold letters word)
    (hletters : ∀ w ∈ letters, w ∈ "FROM".toList) :
    word.map Char.toLower = letters.map Char.toLower ∧ ∀ c ∈ word, isNamePart c = true := by
  induction hsame with
  | nil => exact ⟨rfl, List.forall_mem_nil _⟩
  | cons hfold _ ih =>
      obtain ⟨hw, hrest⟩ := List.forall_mem_cons.mp hletters
      obtain ⟨hlower, hpart⟩ := letter_of_sameFold hw hfold
      obtain ⟨hlowers, hparts⟩ := ih hrest
      exact ⟨by rw [List.map_cons, List.map_cons, hlower, hlowers],
        List.forall_mem_cons.mpr ⟨hpart, hparts⟩⟩

/-- What passes for the word `FROM` is this word. -/
theorem isFrom_of_sameFold (hword : SameFold "FROM".toList word) : IsFrom word := by
  obtain ⟨hlower, hparts⟩ := letters_of_sameFold hword fun _ hw => hw
  exact ⟨beq_iff_eq.mpr hlower, hparts⟩

/-- A text in which no `FROM` begins, if a space follows the text. -/
def HidesFrom (text : List Char) : Prop :=
  ∀ before after rest, text = before ++ after → after ≠ [] →
    dropKeyword? " FROM ".toList (after ++ ' ' :: rest) = none

/-- In a select list that can be read no `FROM` begins. -/
theorem hidesFrom_of_readFields? {columns : List SelectColumn}
    (hread : readFields? text = some columns) : HidesFrom text := by
  intro before after rest hsplit hafter
  rw [Option.eq_none_iff_forall_ne_some]
  intro behind hdrop
  refine not_holdsFrom_of_readFields? hread ?_
  obtain ⟨inner, hspace, hdrop⟩ := eq_of_dropKeyword?_cons (.inl rfl) hdrop
  obtain ⟨after, rfl⟩ : ∃ tail, after = ' ' :: tail := by
    cases after with
    | nil => exact absurd rfl hafter
    | cons c after => exact ⟨after, by rw [(List.cons.inj hspace).1]⟩
  obtain rfl : after ++ ' ' :: rest = inner := (List.cons.inj hspace).2
  change dropKeyword? ("FROM".toList ++ [' ']) _ = _ at hdrop
  rw [dropKeyword?_append_word, Option.bind_eq_some_iff] at hdrop
  obtain ⟨tail, hword, hblank⟩ := hdrop
  obtain ⟨word, hcut, hsame⟩ := dropKeyword?_eq_some.mp hword
  obtain ⟨tail, rfl, -⟩ := eq_of_dropKeyword?_cons (.inl rfl) hblank
  have hfrom := isFrom_of_sameFold hsame
  have hend : ∃ more, after = word ++ more ∧ StopsAt isNamePart more := by
    rcases List.append_eq_append_iff.mp hcut with ⟨more, rfl, hmore⟩ | ⟨more, rfl, hmore⟩
    · cases more with
      | nil => exact ⟨[], by simp, stopsAt_nil⟩
      | cons c more =>
          -- the word would hold the space behind the text
          obtain rfl : ' ' = c := (List.cons.inj hmore).1
          exact absurd (hfrom.parts ' ' (by simp)) (by decide)
    · refine ⟨more, rfl, fun c hc => ?_⟩
      obtain ⟨more, rfl⟩ := List.head?_eq_some_iff.mp hc
      obtain rfl : ' ' = c := (List.cons.inj hmore).1
      decide
  obtain ⟨more, rfl, hstops⟩ := hend
  rw [hsplit]
  refine ⟨before ++ [' '], word, more, by simp, hfrom, fun c hc => ?_, hstops⟩
  rw [List.getLast?_concat] at hc
  cases hc
  decide

/-! ### Orders -/

theorem isName_of_isIdentifier (hname : isIdentifier name = true) : IsName name.toList where
  ne_nil := toList_ne_nil_of_isIdentifier hname
  parts c hc := forall_ascii (p := fun c => isIdentifierPart c = true → isWord c = true) (by decide)
    (toNat_lt_of_isIdentifierPart (isIdentifierPart_of_mem hname hc))
    (isIdentifierPart_of_mem hname hc)

theorem readOrder?_append {tail : String} (hname : isIdentifier name = true)
    (htail : tail ∈ ["", " ASC", " DESC"]) :
    readOrder? (" ORDER BY ".toList ++ (name.toList ++ tail.toList)) =
      some (some (name.toList, if tail = "" then none else some (tail.toList.drop 1))) := by
  have hspace : AtSpace tail.toList := by
    simp only [List.mem_cons, List.not_mem_nil, or_false] at htail
    rcases htail with rfl | rfl | rfl <;> simp [AtSpace]
  have hword : readWord? (name.toList ++ tail.toList) = some (name.toList, tail.toList) :=
    readWord?_eq_some.mpr ⟨rfl, isName_of_isIdentifier hname, hspace.stopsAt (by decide)⟩
  have hempty : (" ORDER BY ".toList ++ (name.toList ++ tail.toList)).isEmpty = false := rfl
  simp only [readOrder?, hempty, Bool.false_eq_true, if_false,
    dropKeyword?_append (SameFold.refl _), hword]
  simp only [List.mem_cons, List.not_mem_nil, or_false] at htail
  rcases htail with rfl | rfl | rfl
  · rfl
  · rfl
  · rfl

/-- A sort key is written with nothing behind its column, or with its direction. -/
theorem exists_orderTail (marked : Bool) (key : OrderKey) : ∃ tail ∈ ["", " ASC", " DESC"],
    key.sqlText marked = key.column ++ tail ∧
      (if tail = "" then none else some (tail.toList.drop 1)).any (Value.isWordOf "DESC") =
        (key.direction == .descending) := by
  obtain ⟨column, direction⟩ := key
  cases direction with
  | ascending =>
      cases marked with
      | true => exact ⟨" ASC", by simp, rfl, rfl⟩
      | false => exact ⟨"", by simp, rfl, rfl⟩
  | descending => exact ⟨" DESC", by simp, rfl, rfl⟩

/-- An order is read back. -/
theorem exists_readOrder? (marked : Bool) {order : List OrderKey} (hlength : order.length ≤ 1)
    (hnames : ∀ key ∈ order, isIdentifier key.column = true) :
    ∃ found, readOrder? (orderText marked order).toList = some found ∧ orderOf found = order := by
  rcases order with _ | ⟨key, _ | ⟨next, further⟩⟩
  · exact ⟨none, rfl, rfl⟩
  · obtain ⟨tail, htail, hkey, hdirection⟩ := exists_orderTail marked key
    have htext : (orderText marked [key]).toList =
        " ORDER BY ".toList ++ (key.column.toList ++ tail.toList) := by
      simp [orderText, hkey]
    refine ⟨_, by rw [htext, readOrder?_append (hnames key List.mem_cons_self) htail], ?_⟩
    obtain ⟨column, direction⟩ := key
    rw [orderOf, hdirection, String.ofList_toList]
    cases direction <;> rfl
  · simp at hlength

/-- The characters of signs and quotes. -/
def solidSigns : List Char := ['=', '<', '>', '\'']

theorem not_mem_of_sameFold {c : Char} (hword : ∀ w ∈ word, w ∈ skeletonChars)
    (hfront : SameFold word front) (hc : c ∈ solidSigns) : c ∉ front := by
  have hother : ∀ w ∈ skeletonChars, ∀ c ∈ solidSigns, sameFold w c = false := by decide
  induction hfront with
  | nil => exact List.not_mem_nil
  | @cons w d word front hfold _ ih =>
      obtain ⟨hw, hrest⟩ := List.forall_mem_cons.mp hword
      rw [List.mem_cons, not_or]
      refine ⟨?_, ih hrest⟩
      rintro rfl
      rw [hother w hw c hc] at hfold
      contradiction

/-- An order is made of words. -/
theorem not_mem_of_readOrder? {c : Char} {found : Option (List Char × Option (List Char))}
    (hread : readOrder? text = some found) (hc : c ∈ solidSigns) : c ∉ text := by
  rw [readOrder?] at hread
  split at hread
  · rename_i hempty
    simp [List.isEmpty_iff.mp hempty]
  split at hread
  · contradiction
  rename_i rest hdrop
  obtain ⟨marker, rfl, hmarker⟩ := dropKeyword?_eq_some.mp hdrop
  have hplain : c ∉ marker := not_mem_of_sameFold (by decide) hmarker hc
  have hsigns : ∀ c ∈ solidSigns, isWord c = false := by decide
  have hname : ∀ {column : List Char}, IsName column → c ∉ column := by
    intro column hcolumn hmem
    have hpart := hcolumn.parts c hmem
    rw [hsigns c hc] at hpart
    contradiction
  split at hread
  · contradiction
  · rename_i column hword
    obtain ⟨rfl, hcolumn, -⟩ := readWord?_eq_some.mp hword
    simp [hplain, hname hcolumn]
  · rename_i column tail _ hword
    obtain ⟨rfl, hcolumn, -⟩ := readWord?_eq_some.mp hword
    have hdirection : ∀ direction : String, (∀ w ∈ direction.toList, w ∈ skeletonChars) →
        dropKeyword? direction.toList tail = some [] → c ∉ tail := by
      intro direction hletters hdrop
      obtain ⟨front, rfl, hfront⟩ := dropKeyword?_eq_some.mp hdrop
      simpa using not_mem_of_sameFold hletters hfront hc
    split at hread
    · rename_i hends
      rw [Bool.or_eq_true, beq_iff_eq, beq_iff_eq] at hends
      have htail : c ∉ tail := by
        rcases hends with hasc | hdesc
        · exact hdirection " ASC" (by decide) hasc
        · exact hdirection " DESC" (by decide) hdesc
      simp [hplain, hname hcolumn, htail]
    · contradiction

/-- An order begins with a space and the word `ORDER`. -/
theorem exists_order_of_readOrder? {found : Option (List Char × Option (List Char))}
    (hne : text ≠ []) (hread : readOrder? text = some found) :
    ∃ behind, text = ' ' :: behind ∧ ∀ c ∈ behind.head?, sameFold 'O' c = true := by
  have hempty : ¬text.isEmpty = true := by simpa using hne
  rw [readOrder?, if_neg hempty] at hread
  split at hread
  · contradiction
  rename_i rest hdrop
  obtain ⟨behind, rfl, horder⟩ := eq_of_dropKeyword?_cons (.inl rfl) hdrop
  refine ⟨behind, rfl, fun c hc => ?_⟩
  obtain ⟨word, rfl, hword⟩ := dropKeyword?_eq_some.mp horder
  obtain ⟨d, word, hd, -, rfl⟩ := List.forall₂_cons_left_iff.mp hword
  cases hc
  exact hd

/-! ### Conditions -/

variable {c : Comparison}

theorem last_symbol (hop : c.op ∈ [Operator.eq, .neq, .gt, .gte, .lt, .lte]) :
    ∃ d ∈ solidSigns, c.op.symbol.toList.getLast? = some d := by
  simp only [List.mem_cons, List.not_mem_nil, or_false] at hop
  rcases hop with hop | hop | hop | hop | hop | hop
  all_goals
    rw [hop]
    refine ⟨_, ?_, rfl⟩
    decide

/-- No end of a number is the front of an order: it has no space inside, and no letter at its
front. -/
theorem ne_append_of_int (n : Int) {more after behind : List Char} (hafter : after ≠ [])
    (hspace : after ++ rest = ' ' :: behind)
    (horder : ∀ c ∈ behind.head?, sameFold 'O' c = true) :
    ' ' :: (toString n).toList ≠ more ++ after := by
  intro hmore
  cases more with
  | nil =>
      rw [← List.nil_append after, ← hmore, List.cons_append, List.cons.injEq] at hspace
      cases hdigits : (toString n).toList with
      | nil => exact absurd hdigits (toString_int_ne_nil n)
      | cons d digits =>
          rw [hdigits] at hspace
          have hletter := upperChars_of_sameFold (by decide)
            (horder d (by rw [← hspace.2]; rfl))
          have hstart := (isWordStart_of_upperChars (by decide) hletter).1
          rcases mem_toString_int d (hdigits ▸ List.mem_cons_self) with hdigit | rfl
          · rw [isDigit_of_isWordStart hstart] at hdigit
            contradiction
          · contradiction
  | cons d more =>
      have hspaceMem : ' ' ∈ after := by
        cases after with
        | nil => exact absurd rfl hafter
        | cons e after => exact (List.cons.inj hspace).1 ▸ List.mem_cons_self
      have hdigits : ' ' ∈ (toString n).toList := by
        rw [(List.cons.inj hmore).2]
        exact List.mem_append_right more hspaceMem
      rcases mem_toString_int ' ' hdigits with h | h <;> contradiction

/-- An end of a string has its last quote. -/
theorem quote_mem_of_string (text : String) {more after : List Char} (hafter : after ≠ [])
    (hmore : ' ' :: (Value.string text).sqlChars = more ++ after) : '\'' ∈ after := by
  have hlast : (more ++ after).getLast? = some '\'' := by
    rw [← hmore, Value.sqlChars, ← List.cons_append, ← List.cons_append, List.getLast?_concat]
  rw [List.getLast?_append_of_ne_nil _ hafter] at hlast
  exact List.mem_of_getLast? hlast

/-- No end of a comparison is accepted as an order, or together with one. -/
theorem readOrder?_eq_none (hc : c.IsShort) {before after : List Char}
    (hsplit : c.sqlText.toList = before ++ after) (hafter : after ≠ []) :
    readOrder? (after ++ rest) = none := by
  rw [Option.eq_none_iff_forall_ne_some]
  intro found hread
  have hplain : ∀ d ∈ solidSigns, d ∉ after := fun d hd hmem =>
    not_mem_of_readOrder? hread hd (List.mem_append_left rest hmem)
  obtain ⟨behind, hspace, horder⟩ := exists_order_of_readOrder? (by simp [hafter]) hread
  have hvalue : ∀ more, ' ' :: c.value.sqlChars ≠ more ++ after := by
    intro more hmore
    rcases hc.isOperand with ⟨n, hn⟩ | ⟨text, htext⟩
    · rw [hn, Value.sqlChars] at hmore
      exact ne_append_of_int n hafter hspace horder hmore
    · rw [htext] at hmore
      exact hplain '\'' (by decide) (quote_mem_of_string text hafter hmore)
  -- an end that is longer than the operand and its space has the end of the sign
  rw [toList_comparison, List.append_cons, ← List.append_assoc] at hsplit
  rcases List.append_eq_append_iff.mp hsplit with ⟨more, rfl, hmore⟩ | ⟨more, hmore, rfl⟩
  · exact hvalue more hmore
  · obtain ⟨d, hd, hlast⟩ := last_symbol hc.op
    have hsymbol : c.op.symbol.toList ≠ [] := by
      intro hnil
      simp [hnil] at hlast
    have hend := congrArg List.getLast? hmore
    rw [List.getLast?_append_of_ne_nil _ hsymbol, hlast] at hend
    cases more with
    | nil => exact hvalue [] rfl
    | cons e more =>
        rw [List.getLast?_append_of_ne_nil _ (List.cons_ne_nil e more)] at hend
        exact hplain d hd (List.mem_append_left _ (List.mem_of_getLast? hend.symm))

end SqlGateway.Shape
