import SqlGateway.Proofs.Shape.Reads
import SqlGateway.Proofs.Sql.Parser.Command
import SqlGateway.Shape.Recognize

/-!
# Plain short statements

The shapes read a short statement by themselves, without the grammar, and for some texts the two do
not read the same: the grammar has words of its own, such as `NULL` in a condition, numbers with an
exponent, and escapes in strings.  `isPlain` says of a text that has a shape whether it is free of
these.  It goes along with the readers of the shape and puts a test on each name and each value that
they find.
-/

namespace SqlGateway.Shape

open Text Sql Sql.Parser

/-! ### Names and values -/

/-- Whether a text is one word for the grammar, and none of the given keywords. -/
def isNameBut (forms : List String) (word : List Char) : Bool :=
  isOneWord word && !forms.contains (Word.bare word).keyword

/-- Whether a value is the least integer.  The grammar reads its digits apart from its sign, and
without the sign they are out of range. -/
def isLeast : Value → Bool
  | .int n => n == Decimal.minInt64
  | _ => false

/-- Whether a word is a literal in any case of ASCII letters. -/
def isLiteralWord (word : List Char) : Bool :=
  Value.isWordOf "true" word || Value.isWordOf "false" word || Value.isWordOf "null" word

/-- Whether a bare token of an assignment or a row is a number or a word, and means the same to the
grammar, where a word follows or not. -/
def isPlainToken (wordFollows : Bool) (token : List Char) : Bool :=
  if Value.isIntegerShape token || Value.isDecimalShape token then
    !isLeast (Value.ofTrimmedToken token)
  else isLiteralWord token || isNameBut (formWords wordFollows) token

/-- Whether the right side of a comparison means the same to the grammar, where a word follows or
not. -/
def isPlainOperand (wordFollows : Bool) (text : List Char) : Bool :=
  (reachesEnd (readStringValue? text)).isSome ||
    match reachesEnd (readNumber? text) with
    | some value => !isLeast value
    | none => isNameBut (formWords wordFollows ++ quantifiers) (text.takeWhile isNamePart)

/-! ### Conditions -/

/-- A text without the sign of a comparison. -/
def dropSign : List Char → List Char
  | '=' :: rest => rest
  | text => ((readInequality? text).map Prod.snd).getD text

/-- Whether a condition means the same to the grammar, where a word follows or not. -/
def isPlainCondition (wordFollows : Bool) (clause : List Char) : Bool :=
  match readName? (trim clause) with
  | none => true
  | some (column, rest) =>
    isNameBut (formWords false) column &&
      isPlainOperand wordFollows (skipGap (dropSign (skipGap rest)))

/-! ### Lists -/

/-- A reader with a test on the text that it reads from. -/
def passing {α : Type} (test : List Char → Bool) (item : Step α) : Step α := fun text =>
  if test text then item text else none

/-- Whether a column of an insertion is one word. -/
def isPlainColumn (text : List Char) : Bool :=
  isOneWord (text.takeWhile isNamePart)

/-- Whether an item of a row means the same to the grammar. -/
def isPlainItem (text : List Char) : Bool :=
  (readString? text).isSome || isPlainToken false (trim (text.takeWhile isTokenPart))

/-- Whether the word `AS` stands before a label. -/
def hasMarker (text : List Char) : Bool :=
  skipAs (skipGap text) != skipGap text

/-- Whether an entry of a select list means the same to the grammar. -/
def isPlainField (text : List Char) : Bool :=
  match readFieldName? text with
  | none => true
  | some (name, rest) =>
    isNameBut ("FROM" :: formWords true) name &&
      match readLabel? rest with
      | none => true
      | some (label, _) =>
        isOneWord label && (hasMarker rest || !unlabelling.contains (Word.bare label).keyword)

/-! ### Statements -/

/-- Whether the first column of a select list is no word that changes a `SELECT`. -/
def startsPlainly : List SelectColumn → Bool
  | .named name _ :: _ => !selectForms.contains (Word.bare name.toList).keyword
  | _ => true

/-- Whether an order means the same to the grammar. -/
def isPlainOrder (order : List Char × Option (List Char)) : Bool :=
  isNameBut (formWords order.2.isSome) order.1 &&
    order.2.all fun direction =>
      (Word.bare direction).keyword != "DESC" || Value.isWordOf "DESC" direction

/-- Whether a removal means the same to the grammar. -/
def DeletePattern.isPlain (found : DeletePattern) : Bool :=
  isNameBut tableForms found.table && found.clause.all (isPlainCondition false)

/-- Whether a change means the same to the grammar. -/
def UpdatePattern.isPlainFor (found : UpdatePattern) : Bool :=
  isNameBut ("REPLACE" :: tableForms) found.table && isOneWord found.column &&
    (found.value.head?.any isQuote || isPlainToken found.clause.isSome (trim found.value)) &&
    found.clause.all (isPlainCondition false)

/-- Whether an insertion means the same to the grammar. -/
def InsertPattern.isPlain (found : InsertPattern) : Bool :=
  isNameBut insertForms found.table &&
    (match readWholeList? (passing isPlainColumn readName?) (trim found.columns) with
    | some (first :: _) => (Word.bare first).keyword != "SELECT"
    | _ => false) &&
    (readWholeList? (passing isPlainItem readItem?) (trim found.values)).isSome

/-- Whether a query means the same to the grammar. -/
def SelectPattern.isPlain (found : SelectPattern) : Bool :=
  (trim found.fields == ['*'] ||
    match readWholeList? (passing isPlainField readField?) (trim found.fields) with
    | some columns => startsPlainly columns
    | none => false) &&
    isNameBut tableForms found.table && found.clause.all (isPlainCondition found.order.isSome) &&
    found.order.all isPlainOrder

/-- Whether a text of a given kind is read alike by its shape and by the grammar. -/
def isPlain (kind : StatementKind) (text : List Char) : Bool :=
  escapesWildcards text &&
    match kind with
    | .delete => (DeletePattern.match? text).all DeletePattern.isPlain
    | .update => (UpdatePattern.match? text).all UpdatePattern.isPlainFor
    | .insert => (InsertPattern.match? text).all InsertPattern.isPlain
    | .select => (SelectPattern.match? text).all SelectPattern.isPlain

end SqlGateway.Shape
