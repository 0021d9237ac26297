import SqlGateway.Proofs.Plan
import SqlGateway.Proofs.Shape.Change
import SqlGateway.Proofs.Shape.SelectList

/-!
# Short statements are planned as written

The text of a short statement is its own normal form, it has the shape of its kind, and the shape
reads the statement back.  A text between quotes may hold anything but a line break: it is a piece
of the normal form as a whole, and no shape is cut inside it.
-/

namespace SqlGateway.Shape

open Decimal Text

variable {name table : String} {value : Value} {c : Comparison} {columns : List SelectColumn}
  {filter : Option Predicate} {order : List OrderKey} {marked : Bool} {front : List Char}

/-! ### The normal form -/

theorem isPiece_identifier (hname : isIdentifier name = true) : IsPiece name.toList :=
  .solid (toList_ne_nil_of_isIdentifier hname) fun d hd => by
    have hpart := isIdentifierPart_of_mem hname hd
    exact forall_ascii (p := fun d => isIdentifierPart d = true → isSolid d = true ∧ d ≠ ';')
      (by decide) (toNat_lt_of_isIdentifierPart hpart) hpart

theorem isPiece_value (hvalue : value.IsShort) : IsPiece value.sqlChars := by
  rcases sqlChars_cases hvalue.isAtom with ⟨text, -, htext⟩ | ⟨-, hne, hbare⟩
  · rw [htext]
    exact .quoted rfl text.toList
  · exact .solid hne fun d hd =>
      of_isBareChar (p := fun d => isSolid d = true ∧ d ≠ ';') (by decide) (hbare d hd)

/-- The symbols of short comparisons are made of four signs. -/
theorem mem_symbol (hc : c.IsShort) :
    c.op.symbol.toList ≠ [] ∧ ∀ d ∈ c.op.symbol.toList, d ∈ ['=', '!', '<', '>'] := by
  have hall : ∀ op ∈ [Operator.eq, .neq, .gt, .gte, .lt, .lte],
      op.symbol.toList ≠ [] ∧ ∀ d ∈ op.symbol.toList, d ∈ ['=', '!', '<', '>'] := by
    decide
  exact hall c.op hc.op

theorem isPiece_comparison (hc : c.IsShort) : IsPiece c.sqlText.toList := by
  obtain ⟨hne, hsigns⟩ := mem_symbol hc
  have hsolid : ∀ d ∈ ['=', '!', '<', '>'], isSolid d = true ∧ d ≠ ';' := by decide
  have hsymbol : IsPiece c.op.symbol.toList := .solid hne fun d hd => hsolid d (hsigns d hd)
  rw [toList_comparison]
  exact (isPiece_identifier hc.isIdentifier).join (hsymbol.join (isPiece_value hc.isShort))

theorem isPiece_listText {β : Type} {write : β → List Char} {entries : List β} (hne : entries ≠ [])
    (hentries : ∀ entry ∈ entries, IsPiece (write entry)) : IsPiece (listText write entries) := by
  induction entries with
  | nil => exact absurd rfl hne
  | cons entry entries ih =>
      obtain ⟨hentry, hrest⟩ := List.forall_mem_cons.mp hentries
      cases entries with
      | nil => simpa [listText] using hentry
      | cons next entries =>
          have hcomma : IsPiece [','] := .solid (by simp) (by decide)
          rw [listText_cons_cons]
          exact (hentry.append hcomma).join (ih (by simp) hrest)

theorem isPiece_columns (hcolumns : IsShortList columns) :
    IsPiece (fieldsText columns) := by
  rw [fieldsText]
  cases hcolumns with
  | star => exact .solid (by decide) (by decide)
  | named hne hcolumns =>
      refine isPiece_listText hne fun column hcolumn => ?_
      obtain ⟨name, label, rfl, ⟨hname, -⟩, hlabel⟩ := hcolumns column hcolumn
      cases label with
      | none => exact isPiece_identifier hname
      | some label =>
          have htext : (SelectColumn.named name (some label)).sqlText.toList =
              name.toList ++ ' ' :: ("AS".toList ++ ' ' :: label.toList) := by
            simp [SelectColumn.sqlText]
          rw [htext]
          exact (isPiece_identifier hname).join
            (.join (.solid (by decide) (by decide)) (isPiece_identifier (hlabel label rfl).1))

theorem isPiece_where (hfront : IsPiece front) (hfilter : IsShortFilter filter) :
    IsPiece (front ++ (whereText filter).toList) := by
  cases hfilter with
  | none => simpa [whereText] using hfront
  | @compare c hc =>
      have htext : (whereText (some (.compare c))).toList =
          ' ' :: ("WHERE".toList ++ ' ' :: c.sqlText.toList) := by
        simp [whereText, Predicate.sqlText]
      rw [htext]
      exact hfront.join (.join (.solid (by decide) (by decide)) (isPiece_comparison hc))

theorem isPiece_order (marked : Bool) (hfront : IsPiece front) (hlength : order.length ≤ 1)
    (hnames : ∀ key ∈ order, isIdentifier key.column = true) :
    IsPiece (front ++ (orderText marked order).toList) := by
  rcases order with _ | ⟨key, _ | ⟨next, further⟩⟩
  · simpa [orderText] using hfront
  · obtain ⟨tail, htail, hkey, -⟩ := exists_orderTail marked key
    have hname : IsPiece key.column.toList := isPiece_identifier (hnames key List.mem_cons_self)
    have hasc : IsPiece "ASC".toList := .solid (by decide) (by decide)
    have hdesc : IsPiece "DESC".toList := .solid (by decide) (by decide)
    have hpiece : IsPiece (key.column.toList ++ tail.toList) := by
      simp only [List.mem_cons, List.not_mem_nil, or_false] at htail
      rcases htail with rfl | rfl | rfl
      · simpa using hname
      · exact hname.join hasc
      · exact hname.join hdesc
    have htext : (orderText marked [key]).toList =
        ' ' :: ("ORDER".toList ++ ' ' ::
          ("BY".toList ++ ' ' :: (key.column.toList ++ tail.toList))) := by
      simp [orderText, hkey]
    rw [htext]
    exact hfront.join (.join (.solid (by decide) (by decide))
      (.join (.solid (by decide) (by decide)) hpiece))
  · simp at hlength

/-! ### Texts of one line -/

theorem mem_of_mem_doubled {quote d : Char} {content : List Char} (hd : d ∈ doubled quote content) :
    d ∈ content := by
  obtain ⟨e, he, hd⟩ := List.mem_flatMap.mp hd
  split at hd <;> simp_all

theorem doubled_eq_self {quote : Char} {content : List Char} (hcontent : quote ∉ content) :
    doubled quote content = content := by
  induction content with
  | nil => rfl
  | cons d content ih =>
      rw [List.mem_cons, not_or] at hcontent
      rw [doubled_cons_of_ne (Ne.symm hcontent.1), ih hcontent.2]

theorem newline_not_mem_value (hvalue : value.IsShort) : '\n' ∉ value.sqlChars := by
  intro hmem
  rcases sqlChars_cases hvalue.isAtom with ⟨text, rfl, htext⟩ | ⟨-, -, hbare⟩
  · cases hvalue with
    | string hline =>
        rw [htext] at hmem
        simp only [List.mem_cons, List.mem_append, List.not_mem_nil, or_false] at hmem
        rcases hmem with hquote | hmem | hquote
        · contradiction
        · exact hline (mem_of_mem_doubled hmem)
        · contradiction
  · exact absurd (hbare '\n' hmem) (by decide)

theorem newline_not_mem_identifier (hname : isIdentifier name = true) : '\n' ∉ name.toList :=
  not_mem_of_isIdentifier hname (by decide)

theorem newline_not_mem_comparison (hc : c.IsShort) : '\n' ∉ c.sqlText.toList := by
  have hsymbol : '\n' ∉ c.op.symbol.toList := by
    intro hmem
    have hsign := (mem_symbol hc).2 '\n' hmem
    contradiction
  rw [toList_comparison]
  simp [newline_not_mem_identifier hc.isIdentifier, hsymbol, newline_not_mem_value hc.isShort]

theorem mem_listText {β : Type} {write : β → List Char} {entries : List β} {d : Char}
    (hd : d ∈ listText write entries) : d = ',' ∨ d = ' ' ∨ ∃ entry ∈ entries, d ∈ write entry := by
  induction entries with
  | nil => simp [listText] at hd
  | cons entry entries ih =>
      cases entries with
      | nil => exact .inr (.inr ⟨entry, List.mem_cons_self, by simpa [listText] using hd⟩)
      | cons next entries =>
          rw [listText_cons_cons, List.mem_append, List.mem_append, List.mem_singleton,
            List.mem_cons] at hd
          rcases hd with (hd | rfl) | rfl | hd
          · exact .inr (.inr ⟨entry, List.mem_cons_self, hd⟩)
          · exact .inl rfl
          · exact .inr (.inl rfl)
          · rcases ih hd with hcomma | hspace | ⟨entry, hentry, hd⟩
            · exact .inl hcomma
            · exact .inr (.inl hspace)
            · exact .inr (.inr ⟨entry, List.mem_cons_of_mem _ hentry, hd⟩)

theorem newline_not_mem_listText {β : Type} {write : β → List Char} {entries : List β}
    (hentries : ∀ entry ∈ entries, '\n' ∉ write entry) : '\n' ∉ listText write entries := by
  intro hmem
  rcases mem_listText hmem with hcomma | hspace | ⟨entry, hentry, hmem⟩
  · contradiction
  · contradiction
  · exact hentries entry hentry hmem

theorem newline_not_mem_columns (hcolumns : IsShortList columns) :
    '\n' ∉ fieldsText columns := by
  rw [fieldsText]
  cases hcolumns with
  | star => decide
  | named _ hcolumns =>
      refine newline_not_mem_listText fun column hcolumn => ?_
      obtain ⟨name, label, rfl, ⟨hname, -⟩, hlabel⟩ := hcolumns column hcolumn
      cases label with
      | none => exact newline_not_mem_identifier hname
      | some label =>
          simp [SelectColumn.sqlText, newline_not_mem_identifier hname,
            newline_not_mem_identifier (hlabel label rfl).1]

/-! ### Shapes -/

section Shapes

variable {text rest word : List Char} {kind other : StatementKind}

/-- The first letter of the shape of a kind. -/
def firstLetter : StatementKind → Char
  | .select => 'S'
  | .insert => 'I'
  | .update => 'U'
  | .delete => 'D'

/-- Whether a text begins with a letter, up to case. -/
def BeginsWith (letter : Char) (text : List Char) : Prop :=
  ∃ c rest, text = c :: rest ∧ upperChars c = [letter]

theorem beginsWith_of_dropKeyword? {letter : Char} (hletter : letter ∈ skeletonChars)
    (hdrop : dropKeyword? (letter :: word) text = some rest) : BeginsWith letter text := by
  obtain ⟨front, rfl, hfront⟩ := dropKeyword?_eq_some.mp hdrop
  obtain ⟨c, front, hc, -, rfl⟩ := List.forall₂_cons_left_iff.mp hfront
  exact ⟨c, front ++ rest, rfl, upperChars_of_sameFold hletter hc⟩

theorem beginsWith_of_hasShape (hshape : hasShape text kind = true) :
    BeginsWith (firstLetter kind) text := by
  have hbind : ∀ {α : Type} {letter : Char} {word : List Char} {next : List Char → Option α},
      letter ∈ skeletonChars → ((dropKeyword? (letter :: word) text).bind next).isSome = true →
        BeginsWith letter text := by
    intro α letter word next hletter hsome
    obtain ⟨found, hfound⟩ := Option.isSome_iff_exists.mp hsome
    obtain ⟨rest, hdrop, -⟩ := Option.bind_eq_some_iff.mp hfound
    exact beginsWith_of_dropKeyword? hletter hdrop
  cases kind with
  | delete => exact hbind (by decide) hshape
  | update => exact hbind (by decide) hshape
  | insert => exact hbind (by decide) hshape
  | select =>
      rw [hasShape, isSelect, Bool.or_eq_true] at hshape
      rcases hshape with hseveral | hunconditional
      · rw [SelectPattern.hasSeveralFields] at hseveral
        split at hseveral
        · rename_i fields rest hfields
          obtain ⟨behind, hdrop, -⟩ := Option.bind_eq_some_iff.mp hfields
          exact beginsWith_of_dropKeyword? (by decide) hdrop
        · contradiction
      · exact hbind (by decide) hunconditional

/-- No text has the shapes of two kinds. -/
theorem hasShape_unique (hkind : hasShape text kind = true) (hother : hasShape text other = true) :
    kind = other := by
  obtain ⟨c, rest, rfl, hc⟩ := beginsWith_of_hasShape hkind
  obtain ⟨d, behind, heq, hd⟩ := beginsWith_of_hasShape hother
  cases heq
  have hletters : firstLetter kind = firstLetter other := by
    rw [hc] at hd
    exact (List.cons.inj hd).1
  cases kind <;> cases other <;> first | rfl | contradiction

/-- So the order in which the shapes are looked at does not matter. -/
theorem classify_eq_some : classify text = some kind ↔ hasShape text kind = true := by
  constructor
  · intro hclassify
    exact List.find?_some hclassify
  · intro hshape
    cases hfound : classify text with
    | none =>
        have hnone := List.find?_eq_none.mp hfound kind (by cases kind <;> decide)
        exact absurd hshape hnone
    | some other => rw [hasShape_unique hshape (List.find?_some hfound)]

end Shapes

/-! ### Texts -/

theorem toList_intercalate {β : Type} (write : β → String) (entries : List β) :
    (", ".intercalate (entries.map write)).toList =
      listText (fun entry => (write entry).toList) entries := by
  rw [String.toList_intercalate, List.map_map]
  rfl

theorem toList_select : ((Statement.select ⟨table, columns, filter, order, none, none⟩).sqlText
    marked).toList = "SELECT ".toList ++ (fieldsText columns ++ (" FROM ".toList ++ (table.toList ++
      ((whereText filter).toList ++ (orderText marked order).toList)))) := by
  simp [Statement.sqlText, SelectStatement.sqlText, fieldsText,
    ← toList_intercalate SelectColumn.sqlText columns]

theorem toList_insert {columns : List String} {values : List Value} :
    ((Statement.insert ⟨table, columns, [values]⟩).sqlText marked).toList =
      "INSERT INTO ".toList ++ (table.toList ++ ([' '] ++ '(' :: (listText String.toList columns ++
        (") VALUES".toList ++ ([' '] ++ '(' :: (listText Value.sqlChars values ++ [')'])))))) := by
  have hcolumns := toList_intercalate id columns
  have hvalues := toList_intercalate Value.sqlText values
  simp only [List.map_id_fun, id, Value.sqlText, String.toList_ofList] at hcolumns hvalues
  rw [Statement.sqlText]
  unfold InsertStatement.sqlText rowText
  simp [hcolumns, hvalues]

theorem toList_update {column : String} :
    ((Statement.update ⟨table, [⟨column, value⟩], filter⟩).sqlText marked).toList =
      ("UPDATE ".toList ++ (table.toList ++ (" SET ".toList ++ (column.toList ++ ([' '] ++ '=' ::
        ([' '] ++ value.sqlChars)))))) ++ (whereText filter).toList := by
  simp [Statement.sqlText, UpdateStatement.sqlText, Assignment.sqlText, Value.sqlText]

theorem toList_delete : ((Statement.delete ⟨table, filter⟩).sqlText marked).toList =
    ("DELETE FROM ".toList ++ table.toList) ++ (whereText filter).toList := by
  simp [Statement.sqlText, DeleteStatement.sqlText]

/-! ### Removals and changes -/

/-- A text that has the shape of a statement, and from which the shape reads that statement. -/
structure IsReadAs (text : List Char) (s : Statement) : Prop where
  classify_eq : classify text = some s.kind
  recognize_eq : recognize s.kind .fast text = .ok (some s)

theorem isFilterText_whereText (hfilter : IsShortFilter filter) :
    IsFilterText (whereText filter).toList filter := by
  cases hfilter with
  | none => exact .none
  | @compare c hc =>
      have hline : isLine c.sqlText.toList = true := by
        simp [isLine, (isPiece_comparison hc).ne_nil, newline_not_mem_comparison hc]
      have htext : (whereText (some (.compare c))).toList =
          " WHERE ".toList ++ c.sqlText.toList := by
        simp [whereText, Predicate.sqlText]
      rw [htext]
      exact .condition (.refl _) hline (readCondition?_sqlText hc)

theorem exists_isClause (kind : StatementKind) (hfilter : IsShortFilter filter) :
    ∃ clause, IsClause (whereText filter).toList clause ∧
      readFilter .fast kind clause = .ok (some filter) :=
  exists_readFilter_iff.mpr (isFilterText_whereText hfilter)

/-- A removal is read back. -/
theorem isReadAs_delete (htable : isIdentifier table = true) (hfilter : IsShortFilter filter) :
    IsReadAs ((Statement.delete ⟨table, filter⟩).sqlText marked).toList
      (.delete ⟨table, filter⟩) := by
  have hhead : IsDeleteHead ("DELETE FROM ".toList ++ table.toList) table.toList :=
    ⟨isName_of_isIdentifier htable, _, .refl _, rfl⟩
  obtain ⟨clause, hclause, -⟩ := exists_isClause .delete hfilter
  rw [toList_delete]
  constructor
  · refine classify_eq_some.mpr ?_
    rw [Statement.kind, hasShape, isDelete, DeletePattern.match?_append hhead hclause.atSpace,
      readClause?_eq_some.mpr hclause]
    rfl
  · refine recognizeDelete_eq_ok.mpr ⟨_, _, _, filter, rfl, .delete hhead,
      isFilterText_whereText hfilter, ?_⟩
    rw [String.ofList_toList]

/-- A plain value is a string or one word. -/
theorem isWord_sqlChars (hvalue : value.IsPlain) (hstring : ∀ text, value ≠ .string text) :
    ∀ d ∈ value.sqlChars, isWord d = true := by
  cases hvalue.isShort with
  | null =>
      rw [Value.sqlChars]
      decide
  | bool b => cases b <;> (rw [Value.sqlChars]; decide)
  | @int n _ =>
      rcases toList_toString_int n with ⟨-, hdigits⟩ | ⟨hnegative, -⟩
      · rw [Value.sqlChars, hdigits]
        intro d hd
        have hdigit := isDigit_of_mem_toDigits d hd
        exact forall_ascii (p := fun d => d.isDigit = true → isWord d = true) (by decide)
          (toNat_lt_of_isDigit hdigit) hdigit
      · have hnonneg := hvalue.nonneg n rfl
        omega
  | @string text _ => exact absurd rfl (hstring text)

/-- A plain value is read in both ways in which the shape of a change is looked for. -/
theorem readPlainValue?_append (hvalue : value.IsPlain) {rest : List Char} (hrest : AtSpace rest) :
    readPlainValue? (value.sqlChars ++ rest) = some (value.sqlChars, rest) := by
  rcases sqlChars_cases hvalue.isShort.isAtom with ⟨text, rfl, htext⟩ | ⟨hstring, hne, hbare⟩
  · have hplain : ∀ d ∈ text.toList, (d != '\'') = true := fun d hd =>
      bne_iff_ne.mpr fun hquote => hvalue.unquoted text rfl (hquote ▸ hd)
    have hdoubled : doubled '\'' text.toList = text.toList :=
      doubled_eq_self (hvalue.unquoted text rfl)
    have hstops : StopsAt (· != '\'') ('\'' :: rest) := stopsAt_cons.mpr rfl
    rw [htext, hdoubled, List.cons_append, List.append_assoc, List.singleton_append,
      readPlainValue?, if_pos (by decide : isQuote '\'' = true),
      takeWhile_append_of_stopsAt hplain hstops, dropWhile_append_of_stopsAt hplain hstops]
  · have hwords := isWord_sqlChars hvalue hstring
    have hword : readWord? (value.sqlChars ++ rest) = some (value.sqlChars, rest) :=
      readWord?_eq_some.mpr ⟨rfl, ⟨hne, hwords⟩, hrest.stopsAt (by decide)⟩
    cases hchars : value.sqlChars with
    | nil => exact absurd hchars hne
    | cons d chars =>
        have hquote := isQuote_of_isBareChar (hbare d (hchars ▸ List.mem_cons_self))
        rw [hchars] at hword
        rw [List.cons_append, readPlainValue?, hquote]
        exact hword

theorem isValueText_sqlChars (hvalue : value.IsShort) : IsValueText value.sqlChars := by
  rcases sqlChars_cases hvalue.isAtom with ⟨text, -, htext⟩ | ⟨-, hne, hbare⟩
  · rw [htext]
    exact .quoted _ rfl
  · exact .bare hne fun d hd =>
      of_isBareChar (p := fun d => isValuePart d = true) (by decide) (hbare d hd)

/-- A change is read back. -/
theorem isReadAs_update {column : String} (htable : isIdentifier table = true)
    (hcolumn : isIdentifier column = true) (hvalue : value.IsPlain)
    (hfilter : IsShortFilter filter) :
    IsReadAs ((Statement.update ⟨table, [⟨column, value⟩], filter⟩).sqlText marked).toList
      (.update ⟨table, [⟨column, value⟩], filter⟩) := by
  have hhead : IsUpdateHead ("UPDATE ".toList ++ (table.toList ++ (" SET ".toList ++
      (column.toList ++ ([' '] ++ '=' :: ([' '] ++ value.sqlChars)))))) table.toList column.toList
        value.sqlChars :=
    ⟨isName_of_isIdentifier htable, isName_of_isIdentifier hcolumn,
      isValueText_sqlChars hvalue.isShort, _, _, _, _, .refl _, .refl _, .inr rfl, .inr rfl, rfl⟩
  obtain ⟨clause, hclause, -⟩ := exists_isClause .update hfilter
  rw [toList_update]
  constructor
  · refine classify_eq_some.mpr ?_
    rw [Statement.kind, hasShape, isUpdate, UpdatePattern.isPlain,
      UpdatePattern.matchWith?_append hhead (readPlainValue?_append hvalue hclause.atSpace),
      readClause?_eq_some.mpr hclause]
    rfl
  · refine recognizeUpdate_eq_ok.mpr ⟨_, _, _, filter, rfl, .update hhead,
      isFilterText_whereText hfilter, ?_⟩
    rw [String.ofList_toList, String.ofList_toList, ofToken_sqlChars hvalue.isShort.isAtom]

/-! ### Insertions -/

/-- An insertion is read back. -/
theorem isReadAs_insert {columns : List String} {values : List Value}
    (htable : isIdentifier table = true) (hne : columns ≠ [])
    (hcolumns : ∀ column ∈ columns, isIdentifier column = true)
    (hlength : values.length = columns.length) (hvalues : ∀ value ∈ values, value.IsShort) :
    IsReadAs ((Statement.insert ⟨table, columns, [values]⟩).sqlText marked).toList
      (.insert ⟨table, columns, [values]⟩) := by
  have hvaluesNe : values ≠ [] := by
    rintro rfl
    exact hne (List.length_eq_zero_iff.mp hlength.symm)
  have hcolumnsNe : listText String.toList columns ≠ [] :=
    (isPiece_listText hne fun column hcolumn => isPiece_identifier (hcolumns column hcolumn)).ne_nil
  -- the columns end at the first closing parenthesis, and the values at the last one
  have hatoms : ∀ value ∈ values, value.IsAtom := fun value hvalue => (hvalues value hvalue).isAtom
  have hclosing : ∀ d ∈ listText String.toList columns, d ≠ ')' := by
    rintro d hd rfl
    rcases mem_listText hd with h | h | ⟨column, hcolumn, hmem⟩
    · contradiction
    · contradiction
    · exact not_mem_of_isIdentifier (hcolumns column hcolumn) (by decide) hmem
  have hline : isLine (listText Value.sqlChars values) = true := by
    have hnonempty := (isPiece_listText hvaluesNe fun value hvalue =>
      isPiece_value (hvalues value hvalue)).ne_nil
    have hnewline : '\n' ∉ listText Value.sqlChars values :=
      newline_not_mem_listText fun value hvalue => newline_not_mem_value (hvalues value hvalue)
    simp [isLine, hnonempty, hnewline]
  have hmatch : InsertPattern.match? ((Statement.insert ⟨table, columns, [values]⟩).sqlText
      marked).toList =
        some ⟨table.toList, listText String.toList columns, listText Value.sqlChars values⟩ :=
    InsertPattern.match?_eq_some.mpr ⟨isName_of_isIdentifier htable, hcolumnsNe, hclosing, hline, _,
      _, _, _, .refl _, .refl _, .inr rfl, .inr rfl, toList_insert⟩
  constructor
  · refine classify_eq_some.mpr ?_
    rw [Statement.kind, hasShape, isInsert, hmatch]
    rfl
  · rw [Statement.kind, recognize, recognizeInsert, hmatch]
    simp only [readColumns?_listText hne hcolumns, readValues_listText hvaluesNe hatoms, hlength,
      if_true, String.ofList_toList]

/-! ### Queries -/

section Queries

variable {tail : List Char} {found : Option (List Char × Option (List Char))}

/-- In front of an order, or of nothing, there is no condition. -/
theorem atSpace_of_readOrder? (hread : readOrder? tail = some found) : AtSpace tail := by
  cases tail with
  | nil => simp [AtSpace]
  | cons d tail =>
      obtain ⟨behind, hsplit, -⟩ := exists_order_of_readOrder? (by simp) hread
      rw [hsplit]
      simp [AtSpace]

theorem dropKeyword?_where_of_readOrder? (hread : readOrder? tail = some found) :
    dropKeyword? " WHERE ".toList tail = none := by
  rw [Option.eq_none_iff_forall_ne_some]
  intro rest hdrop
  cases tail with
  | nil => contradiction
  | cons d tail =>
      obtain ⟨behind, hsplit, hletter⟩ := exists_order_of_readOrder? (by simp) hread
      rw [hsplit] at hdrop
      obtain ⟨further, heq, hwhere⟩ := eq_of_dropKeyword?_cons (.inl rfl) hdrop
      cases heq
      obtain ⟨c, behind, rfl, hc⟩ := beginsWith_of_dropKeyword? (by decide) hwhere
      rw [upperChars_of_sameFold (by decide) (hletter c rfl)] at hc
      contradiction

/-- The condition and the order of a query are cut where they meet. -/
theorem readClauseAndOrder?_append (hfilter : IsShortFilter filter)
    (hread : readOrder? tail = some found) :
    readClauseAndOrder? ((whereText filter).toList ++ tail) =
      some (filter.map fun clause => clause.sqlText.toList, found) := by
  cases hfilter with
  | none =>
      change readClauseAndOrder? tail = _
      rw [readClauseAndOrder?, dropKeyword?_where_of_readOrder? hread]
      simp only [hread, Option.map_some, Option.map_none]
  | @compare c hc =>
      have htext : (whereText (some (.compare c))).toList ++ tail =
          " WHERE ".toList ++ (c.sqlText.toList ++ tail) := by
        simp [whereText, Predicate.sqlText]
      have hshortest : shortest? readOrder? (c.sqlText.toList ++ tail) =
          some (c.sqlText.toList, found) :=
        shortest?_append (isPiece_comparison hc).ne_nil (newline_not_mem_comparison hc) hread
          fun before after hsplit hafter _ => readOrder?_eq_none hc hsplit hafter
      rw [htext, readClauseAndOrder?, dropKeyword?_append (.refl _)]
      simp only [hshortest, Option.map_some, Predicate.sqlText]

/-- The select list of a query is cut at the word `FROM`, whatever is made of the rest. -/
theorem shortest?_columns {β : Type} {accept : List Char → Option β} {result : β}
    (hfrom : ∀ text, dropKeyword? " FROM ".toList text = none → accept text = none)
    (hcolumns : IsShortList columns) (hresult : accept (" FROM ".toList ++ tail) = some result) :
    shortest? accept
        (fieldsText columns ++ (" FROM ".toList ++ tail)) =
      some (fieldsText columns, result) := by
  refine shortest?_append (isPiece_columns hcolumns).ne_nil
    (newline_not_mem_columns hcolumns) hresult ?_
  intro before after hsplit hafter _
  exact hfrom _ (hidesFrom_of_readFields? (readFields?_fieldsText hcolumns) before after
    ("FROM ".toList ++ tail) hsplit hafter)

theorem readTail?_append (htable : isIdentifier table = true) (hfilter : IsShortFilter filter)
    (hread : readOrder? tail = some found) :
    readTail? (" FROM ".toList ++ (table.toList ++ ((whereText filter).toList ++ tail))) =
      some (table.toList, filter.map fun clause => clause.sqlText.toList, found) := by
  have hspace : AtSpace ((whereText filter).toList ++ tail) := by
    cases hfilter with
    | none => exact atSpace_of_readOrder? hread
    | compare _ => simp [whereText, AtSpace]
  have hword : readWord? (table.toList ++ ((whereText filter).toList ++ tail)) =
      some (table.toList, (whereText filter).toList ++ tail) :=
    readWord?_eq_some.mpr ⟨rfl, isName_of_isIdentifier htable, hspace.stopsAt (by decide)⟩
  simp only [readTail?, dropKeyword?_append (.refl _), Option.bind_eq_bind, Option.bind_some, hword,
    readClauseAndOrder?_append hfilter hread]
  rfl

theorem readTableAndOrder?_append (htable : isIdentifier table = true)
    (hread : readOrder? tail = some found) :
    readTableAndOrder? (" FROM ".toList ++ (table.toList ++ tail)) =
      some (table.toList, found) := by
  have hword : readWord? (table.toList ++ tail) = some (table.toList, tail) :=
    readWord?_eq_some.mpr ⟨rfl, isName_of_isIdentifier htable,
      (atSpace_of_readOrder? hread).stopsAt (by decide)⟩
  simp only [readTableAndOrder?, dropKeyword?_append (.refl _), Option.bind_eq_bind,
    Option.bind_some, hword, hread]
  rfl

/-- A query is for several columns, or has no condition. -/
theorem isSelect_append (htable : isIdentifier table = true) (hcolumns : IsShortList columns)
    (hseveral : filter.isSome = true → 2 ≤ columns.length) (hread : readOrder? tail = some found) :
    isSelect ("SELECT ".toList ++ (fieldsText columns ++ (" FROM ".toList ++ (table.toList ++
      ((whereText filter).toList ++ tail))))) = true := by
  rw [isSelect, Bool.or_eq_true]
  by_cases hlength : 2 ≤ columns.length
  · left
    -- two columns have a comma between them
    have hcomma : (fieldsText columns).contains ',' = true := by
      rcases columns with _ | ⟨first, _ | ⟨second, columns⟩⟩
      · simp at hlength
      · simp at hlength
      · rw [fieldsText, listText_cons_cons]
        simp
    rw [SelectPattern.hasSeveralFields, dropKeyword?_append (.refl _), Option.bind_some,
      shortest?_columns (fun _ hnone => hnone) hcolumns (dropKeyword?_append (.refl _) _)]
    exact hcomma
  · right
    obtain rfl : filter = none := by
      cases filter with
      | none => rfl
      | some clause => exact absurd (hseveral rfl) hlength
    have hfrom : ∀ text, dropKeyword? " FROM ".toList text = none →
        readTableAndOrder? text = none := by
      intro text hnone
      rw [readTableAndOrder?, hnone]
      rfl
    rw [SelectPattern.isUnconditional, dropKeyword?_append (.refl _), Option.bind_some]
    change (shortest? readTableAndOrder?
      (_ ++ (" FROM ".toList ++ (table.toList ++ tail)))).isSome = _
    rw [shortest?_columns hfrom hcolumns (readTableAndOrder?_append htable hread)]
    rfl

/-- A query is read back. -/
theorem isReadAs_select (htable : isIdentifier table = true) (hcolumns : IsShortList columns)
    (hfilter : IsShortFilter filter) (hseveral : filter.isSome = true → 2 ≤ columns.length)
    (hlength : order.length ≤ 1) (hnames : ∀ key ∈ order, isIdentifier key.column = true) :
    IsReadAs ((Statement.select ⟨table, columns, filter, order, none, none⟩).sqlText marked).toList
      (.select ⟨table, columns, filter, order, none, none⟩) := by
  obtain ⟨found, hread, horder⟩ := exists_readOrder? marked hlength hnames
  have hfrom : ∀ text, dropKeyword? " FROM ".toList text = none → readTail? text = none := by
    intro text hnone
    rw [readTail?, hnone]
    rfl
  have hshortest := shortest?_columns hfrom hcolumns (readTail?_append htable hfilter hread)
  have hmatch : SelectPattern.match? ((Statement.select ⟨table, columns, filter, order, none,
      none⟩).sqlText marked).toList = some ⟨fieldsText columns, table.toList,
        filter.map fun clause => clause.sqlText.toList, found⟩ := by
    rw [toList_select]
    simp only [SelectPattern.match?, dropKeyword?_append (.refl _), Option.bind_eq_bind,
      Option.bind_some, hshortest]
    rfl
  constructor
  · rw [toList_select]
    exact classify_eq_some.mpr (isSelect_append htable hcolumns hseveral hread)
  · rw [Statement.kind, recognize, recognizeSelect, hmatch]
    simp only [readFields?_fieldsText hcolumns, horder, String.ofList_toList]
    cases hfilter with
    | none => rfl
    | compare hc => simp only [Option.map_some, Predicate.sqlText, readCondition?_sqlText hc]

end Queries

/-! ### Statements -/

section Statements

variable {s : Statement}

/-- A short statement is read back from its text. -/
theorem isReadAs_sqlText (hs : s.IsShort) : IsReadAs (s.sqlText marked).toList s := by
  cases hs with
  | select htable hcolumns hfilter hseveral hlength hnames =>
      exact isReadAs_select htable hcolumns hfilter hseveral hlength hnames
  | insert htable hne hcolumns hlength hvalues =>
      exact isReadAs_insert htable hne hcolumns hlength hvalues
  | update htable hcolumn hvalue hfilter => exact isReadAs_update htable hcolumn hvalue hfilter
  | delete htable hfilter => exact isReadAs_delete htable hfilter

/-- The text of a short statement is a piece of the normal form. -/
theorem isPiece_sqlText (hs : s.IsShort) : IsPiece (s.sqlText marked).toList := by
  have hkeyword : ∀ word ∈ ["SELECT", "FROM", "INSERT", "INTO", "VALUES", "UPDATE", "SET", "=",
      "DELETE", "(", ")"], IsPiece word.toList := by
    intro word hword
    have hall : ∀ word ∈ ["SELECT", "FROM", "INSERT", "INTO", "VALUES", "UPDATE", "SET", "=",
        "DELETE", "(", ")"], word.toList ≠ [] ∧ ∀ c ∈ word.toList, isSolid c = true ∧ c ≠ ';' := by
      decide
    obtain ⟨hne, hsolid⟩ := hall word hword
    exact .solid hne hsolid
  cases hs with
  | @select table columns filter order htable hcolumns hfilter _ hlength hnames =>
      have htail := isPiece_order marked (isPiece_where (isPiece_identifier htable) hfilter) hlength
        hnames
      rw [List.append_assoc] at htail
      rw [toList_select]
      exact (hkeyword "SELECT" (by simp)).join ((isPiece_columns hcolumns).join
        ((hkeyword "FROM" (by simp)).join htail))
  | @insert table columns values htable hne hcolumns hlength hvalues =>
      have hvaluesNe : values ≠ [] := by
        rintro rfl
        exact hne (List.length_eq_zero_iff.mp hlength.symm)
      have hcolumnsPiece : IsPiece (listText String.toList columns) :=
        isPiece_listText hne fun column hcolumn => isPiece_identifier (hcolumns column hcolumn)
      have hvaluesPiece : IsPiece (listText Value.sqlChars values) :=
        isPiece_listText hvaluesNe fun value hvalue => isPiece_value (hvalues value hvalue)
      have hlist := (hkeyword "(" (by simp)).append (hcolumnsPiece.append (hkeyword ")" (by simp)))
      have hrow := (hkeyword "(" (by simp)).append (hvaluesPiece.append (hkeyword ")" (by simp)))
      have hpiece := (hkeyword "INSERT" (by simp)).join ((hkeyword "INTO" (by simp)).join
        ((isPiece_identifier htable).join (hlist.join ((hkeyword "VALUES" (by simp)).join hrow))))
      rw [toList_insert]
      simpa using hpiece
  | @update table column value filter htable hcolumn hvalue hfilter =>
      rw [toList_update]
      refine isPiece_where ?_ hfilter
      exact (hkeyword "UPDATE" (by simp)).join ((isPiece_identifier htable).join
        ((hkeyword "SET" (by simp)).join ((isPiece_identifier hcolumn).join
          ((hkeyword "=" (by simp)).join (isPiece_value hvalue.isShort)))))
  | @delete table filter htable hfilter =>
      rw [toList_delete]
      refine isPiece_where ?_ hfilter
      exact (hkeyword "DELETE" (by simp)).join
        ((hkeyword "FROM" (by simp)).join (isPiece_identifier htable))

/-- A comparison with a number or a text passes the checks as it is. -/
theorem checked_eq_self (hc : c.IsShort) : c.checked = .ok c := by
  rw [Comparison.checked, check_bind_eq_ok]
  refine ⟨checkIdentifier_eq_ok.mpr hc.isIdentifier, ?_⟩
  obtain ⟨column, op, value⟩ := c
  have hop := hc.op
  simp only [List.mem_cons, List.not_mem_nil, or_false] at hop
  rcases hc.isOperand with ⟨n, rfl⟩ | ⟨text, rfl⟩
  · rcases hop with rfl | rfl | rfl | rfl | rfl | rfl <;> rfl
  · rcases hop with rfl | rfl | rfl | rfl | rfl | rfl <;> rfl

theorem isPlain_of_isShortList (hcolumns : IsShortList columns) :
    ∀ column ∈ columns, column.IsPlain := by
  cases hcolumns with
  | star => simp [SelectColumn.IsPlain]
  | named _ hcolumns =>
      intro column hcolumn
      obtain ⟨name, label, rfl, ⟨hname, -⟩, hlabel⟩ := hcolumns column hcolumn
      exact ⟨hname, fun text htext => (hlabel text htext).1⟩

/-- A short statement becomes a request. -/
theorem exists_toRequest (hs : s.IsShort) : ∃ request, s.toRequest = .ok request := by
  have hfilters : ∀ {filter : Option Predicate}, IsShortFilter filter →
      ∃ filters, Predicate.filtersOf filter = .ok filters := by
    intro filter hfilter
    cases hfilter with
    | none => exact ⟨[], rfl⟩
    | @compare c hc =>
        exact ⟨_, Predicate.filters_compare_eq_ok.mpr ⟨c, checked_eq_self hc, rfl⟩⟩
  cases hs with
  | select htable hcolumns hfilter _ _ hnames =>
      obtain ⟨filters, hfilters⟩ := hfilters hfilter
      obtain ⟨columnText, hselect⟩ := exists_selectText (isPlain_of_isShortList hcolumns)
      exact ⟨_, SelectStatement.toRequest_eq_ok.mpr ⟨htable, columnText, filters, hselect, hfilters,
        hnames, rfl⟩⟩
  | insert htable _ hcolumns hlength _ =>
      exact ⟨_, InsertStatement.toRequest_eq_ok.mpr
        ⟨htable, hcolumns, by simp, by simpa using hlength, rfl⟩⟩
  | update htable hcolumn _ hfilter =>
      obtain ⟨filters, hfilters⟩ := hfilters hfilter
      exact ⟨_, UpdateStatement.toRequest_eq_ok.mpr
        ⟨htable, by simp, by simpa using hcolumn, filters, hfilters, rfl⟩⟩
  | delete htable hfilter =>
      obtain ⟨filters, hfilters⟩ := hfilters hfilter
      exact ⟨_, DeleteStatement.toRequest_eq_ok.mpr ⟨htable, filters, hfilters, rfl⟩⟩

end Statements

end SqlGateway.Shape

namespace SqlGateway.Plan

open Shape

variable {allowed : Option (List String)} {s : Statement} {text : List Char}

theorem found_of_isReadAs (hread : IsReadAs text s) : found text = .ok (.simple, s) := by
  rw [found, hread.classify_eq]
  simp only [hread.recognize_eq]
  rfl

/-- A short statement that is written as a text and planned comes out as it was, without the
grammar, whatever its strings hold. -/
theorem ofSql_sqlText (hs : s.IsShort) (hallowed : ∀ tables ∈ allowed, s.table ∈ tables)
    (marked : Bool) : ∃ plan, Plan.ofSql allowed (s.sqlText marked) = .ok plan ∧
      plan.route = .simple ∧ plan.statement = s := by
  obtain ⟨request, hrequest⟩ := exists_toRequest hs
  refine ⟨⟨.simple, s, request⟩, ofSql_eq_ok.mpr ⟨?_, hallowed, hrequest⟩, rfl, rfl⟩
  rw [(isPiece_sqlText hs).normalize_eq]
  exact found_of_isReadAs (isReadAs_sqlText hs)

/-- A row whose text looks like the parts of three shapes. -/
theorem ofSql_sqlText_row : ∃ plan, Plan.ofSql (some ["t"])
    "INSERT INTO t (a, b) VALUES ('it''s ) VALUES (1) WHERE x = 1;  ', -5)" = .ok plan ∧
      plan.route = .simple ∧ plan.statement = .insert
        ⟨"t", ["a", "b"], [[.string "it's ) VALUES (1) WHERE x = 1;  ", .int (-5)]]⟩ := by
  have hshort : (Statement.insert ⟨"t", ["a", "b"],
      [[.string "it's ) VALUES (1) WHERE x = 1;  ", .int (-5)]]⟩).IsShort := by
    refine .insert (by decide) (by simp) (by decide) rfl ?_
    simp only [List.mem_cons, List.not_mem_nil, or_false]
    rintro value (rfl | rfl)
    · exact .string (by decide)
    · exact .int (by decide)
  exact ofSql_sqlText hshort (by simp [Statement.table]) false

end SqlGateway.Plan
