import SqlGateway.Proofs.Json.Scalar

/-!
# Reading JSON back

What is written as JSON is read back as it was, if its text stands for it: a double is written in
decimal and may come back as another number, and an object that has a key twice is no value of its
own.  Arrays and objects are read by a reader for the values inside them, which may go one level
less deep, so the proof goes by induction on the value and asks at each level how deep it nests.
-/

namespace SqlGateway.Json

open Decimal Text

variable {rest : List Char}

/-! ### Depth and exactness -/

mutual

/-- How deep arrays and objects nest in a value. -/
def depth : Json → Nat
  | .array items => itemsDepth items + 1
  | .object fields => fieldsDepth fields + 1
  | _ => 0

/-- How deep arrays and objects nest in the items of an array. -/
def itemsDepth : List Json → Nat
  | [] => 0
  | item :: rest => max (depth item) (itemsDepth rest)

/-- How deep arrays and objects nest in the fields of an object. -/
def fieldsDepth : List (String × Json) → Nat
  | [] => 0
  | (_, value) :: rest => max (depth value) (fieldsDepth rest)

end

/-- Whether the text of a value stands for the value itself: it has no doubles, its whole numbers
fit 64 bits, with or without a sign, and no object has a key twice. -/
inductive IsExact : Json → Prop
  | null : IsExact .null
  | bool (b : Bool) : IsExact (.bool b)
  | int {n : Int} : minInt64 ≤ n → n ≤ maxUInt64 → IsExact (.number (.int n))
  | string (s : String) : IsExact (.string s)
  | array {items : List Json} : (∀ item ∈ items, IsExact item) → IsExact (.array items)
  | object {fields : List (String × Json)} : (fields.map Prod.fst).Nodup →
      (∀ field ∈ fields, IsExact field.2) → IsExact (.object fields)

theorem depth_le_itemsDepth {items : List Json} {item : Json} (hitem : item ∈ items) :
    item.depth ≤ itemsDepth items := by
  induction items with
  | nil => contradiction
  | cons first items ih =>
      rw [itemsDepth]
      rcases List.mem_cons.mp hitem with rfl | hitem
      · exact Nat.le_max_left _ _
      · exact Nat.le_trans (ih hitem) (Nat.le_max_right _ _)

theorem depth_le_fieldsDepth {fields : List (String × Json)} {field : String × Json}
    (hfield : field ∈ fields) : field.2.depth ≤ fieldsDepth fields := by
  induction fields with
  | nil => contradiction
  | cons first fields ih =>
      rw [fieldsDepth]
      rcases List.mem_cons.mp hfield with rfl | hfield
      · exact Nat.le_max_left _ _
      · exact Nat.le_trans (ih hfield) (Nat.le_max_right _ _)

/-! ### Where a value begins -/

/-- Where no blank stands, none is skipped. -/
theorem skipBlanks_cons {c : Char} (hc : c ∉ [' ', '\n', '\t', '\r']) :
    skipBlanks (c :: rest) = c :: rest := by
  simp only [List.mem_cons, List.not_mem_nil, or_false, not_or] at hc
  simp [skipBlanks, hc]

/-- The characters that no value begins with: blanks and closing brackets. -/
def isBoundary (c : Char) : Bool :=
  c == ' ' || c == '\n' || c == '\t' || c == '\r' || c == ']' || c == '}'

theorem skipBlanks_of_isBoundary {c : Char} (hc : isBoundary c = false) :
    skipBlanks (c :: rest) = c :: rest := by
  apply skipBlanks_cons
  simp only [isBoundary, Bool.or_eq_false_iff, beq_eq_false_iff_ne] at hc
  simp [hc]

theorem head?_chars (value : Json) (hvalue : value.IsExact) :
    ∃ c text, value.chars = c :: text ∧ isBoundary c = false := by
  cases hvalue with
  | null => exact ⟨_, _, rfl, by decide⟩
  | bool b => cases b <;> exact ⟨_, _, rfl, by decide⟩
  | @int n _ _ =>
      rw [chars, Number.text]
      cases htext : (toString n).toList with
      | nil => exact absurd htext (toString_int_ne_nil n)
      | cons c text =>
          refine ⟨c, text, rfl, ?_⟩
          rcases mem_toString_int c (htext ▸ List.mem_cons_self) with hdigit | rfl
          · exact forall_ascii (p := fun c => c.isDigit = true → isBoundary c = false) (by decide)
              (toNat_lt_of_isDigit hdigit) hdigit
          · decide
  | string s =>
      rw [chars, stringChars]
      exact ⟨_, _, rfl, by decide⟩
  | array _ =>
      rw [chars]
      exact ⟨_, _, rfl, by decide⟩
  | object _ _ =>
      rw [chars]
      exact ⟨_, _, rfl, by decide⟩

theorem skipBlanks_chars {value : Json} (hvalue : value.IsExact) (rest : List Char) :
    skipBlanks (value.chars ++ rest) = value.chars ++ rest := by
  obtain ⟨c, text, htext, hc⟩ := head?_chars value hvalue
  rw [htext, List.cons_append]
  exact skipBlanks_of_isBoundary hc

/-! ### Arrays and objects -/

/-- Whether a reader takes a value off a text that does not go on like a number. -/
def IsReadBy (reader : Step Json) (value : Json) : Prop :=
  ∀ rest, StopsAt isNumberPart rest → reader (value.chars ++ rest) = some (value, rest)

variable {reader : Step Json}

theorem readItems?_itemChars {items : List Json} (hne : items ≠ [])
    (hexact : ∀ item ∈ items, item.IsExact) (hread : ∀ item ∈ items, IsReadBy reader item)
    {rounds : Nat} (hrounds : items.length ≤ rounds) (rest : List Char) :
    readItems? reader rounds (itemChars items ++ ']' :: rest) = some (items, rest) := by
  induction items generalizing rounds with
  | nil => exact absurd rfl hne
  | cons item items ih =>
      obtain ⟨hitem, hitems⟩ := List.forall_mem_cons.mp hexact
      obtain ⟨hfirst, hothers⟩ := List.forall_mem_cons.mp hread
      cases rounds with
      | zero => simp at hrounds
      | succ rounds =>
          have hrounds : items.length ≤ rounds := Nat.le_of_succ_le_succ hrounds
          -- the last item stands before the bracket, every other one before a comma
          cases items with
          | nil =>
              have hclosing := hfirst (']' :: rest) (stopsAt_cons.mpr (by decide))
              rw [itemChars, readItems?, skipBlanks_chars hitem, hclosing]
              simp [skipBlanks_cons (c := ']') (by decide)]
          | cons next items =>
              have hcomma := hfirst (',' :: (itemChars (next :: items) ++ ']' :: rest))
                (stopsAt_cons.mpr (by decide))
              rw [itemChars, List.append_assoc, List.cons_append, readItems?,
                skipBlanks_chars hitem, hcomma]
              simp only [Option.bind_eq_bind, Option.bind_some,
                skipBlanks_cons (c := ',') (by decide),
                ih (List.cons_ne_nil next items) hitems hothers hrounds, Option.map_some]

theorem readFields?_fieldChars {fields : List (String × Json)} (hne : fields ≠ [])
    (hexact : ∀ field ∈ fields, field.2.IsExact)
    (hread : ∀ field ∈ fields, IsReadBy reader field.2)
    {rounds : Nat} (hrounds : fields.length ≤ rounds) (rest : List Char) :
    readFields? reader rounds (fieldChars fields ++ '}' :: rest) = some (fields, rest) := by
  induction fields generalizing rounds with
  | nil => exact absurd rfl hne
  | cons field fields ih =>
      obtain ⟨key, value⟩ := field
      obtain ⟨hvalue, hvalues⟩ := List.forall_mem_cons.mp hexact
      obtain ⟨hfirst, hothers⟩ := List.forall_mem_cons.mp hread
      cases rounds with
      | zero => simp at hrounds
      | succ rounds =>
          have hrounds : fields.length ≤ rounds := Nat.le_of_succ_le_succ hrounds
          -- a key ends at its quote, so only the value has to know what stands behind it
          cases fields with
          | nil =>
              obtain ⟨text, htext, hkey⟩ :=
                readString?_stringChars key (':' :: (value.chars ++ '}' :: rest))
              have hclosing := hfirst ('}' :: rest) (stopsAt_cons.mpr (by decide))
              rw [fieldChars, List.append_assoc, List.cons_append, htext, readFields?,
                skipBlanks_cons (c := '"') (by decide)]
              simp only [hkey, Option.bind_eq_bind, Option.bind_some,
                skipBlanks_cons (c := ':') (by decide), skipBlanks_chars hvalue, hclosing,
                skipBlanks_cons (c := '}') (by decide)]
          | cons next fields =>
              obtain ⟨text, htext, hkey⟩ := readString?_stringChars key
                (':' :: (value.chars ++ ',' :: (fieldChars (next :: fields) ++ '}' :: rest)))
              have hcomma := hfirst (',' :: (fieldChars (next :: fields) ++ '}' :: rest))
                (stopsAt_cons.mpr (by decide))
              rw [fieldChars, List.append_assoc, List.cons_append, List.append_assoc,
                List.cons_append, htext, readFields?, skipBlanks_cons (c := '"') (by decide)]
              simp only [hkey, Option.bind_eq_bind, Option.bind_some,
                skipBlanks_cons (c := ':') (by decide), skipBlanks_chars hvalue, hcomma,
                skipBlanks_cons (c := ',') (by decide),
                ih (List.cons_ne_nil next fields) hvalues hothers hrounds, Option.map_some]

theorem length_le_itemChars {items : List Json} (hexact : ∀ item ∈ items, item.IsExact) :
    items.length ≤ (itemChars items).length := by
  induction items with
  | nil => exact Nat.zero_le _
  | cons item items ih =>
      obtain ⟨hitem, hitems⟩ := List.forall_mem_cons.mp hexact
      obtain ⟨c, text, htext, -⟩ := head?_chars item hitem
      have hrest := ih hitems
      cases items with
      | nil => simp [itemChars, htext]
      | cons next items =>
          rw [itemChars, List.length_append, List.length_cons, htext]
          simp only [List.length_cons] at hrest ⊢
          omega

theorem length_le_fieldChars (fields : List (String × Json)) :
    fields.length ≤ (fieldChars fields).length := by
  induction fields with
  | nil => exact Nat.zero_le _
  | cons field fields ih =>
      obtain ⟨key, value⟩ := field
      cases fields with
      | nil => simp [fieldChars, stringChars]
      | cons next fields =>
          simp only [fieldChars, stringChars, List.length_append, List.length_cons] at ih ⊢
          omega

theorem readContainer?_array {items : List Json} (hexact : ∀ item ∈ items, item.IsExact)
    (hread : ∀ item ∈ items, IsReadBy reader item) (rest : List Char) :
    readContainer? reader '[' (itemChars items ++ ']' :: rest) = some (.array items, rest) := by
  rw [readContainer?, if_pos rfl]
  cases items with
  | nil =>
      rw [itemChars, List.nil_append, skipBlanks_cons (by decide)]
      rfl
  | cons item items =>
      obtain ⟨c, text, htext, hc⟩ : ∃ c text,
          itemChars (item :: items) ++ ']' :: rest = c :: text ∧ isBoundary c = false := by
        obtain ⟨c, text, htext, hc⟩ := head?_chars item (hexact item List.mem_cons_self)
        cases items <;> exact ⟨c, _, by rw [itemChars, htext]; rfl, hc⟩
      -- the reader goes as many rounds as the text has characters
      have hlength : (item :: items).length ≤
          (itemChars (item :: items) ++ ']' :: rest).length := by
        rw [List.length_append]
        exact Nat.le_add_right_of_le (length_le_itemChars hexact)
      have hitems := readItems?_itemChars (List.cons_ne_nil item items) hexact hread hlength rest
      rw [htext] at hitems ⊢
      rw [skipBlanks_of_isBoundary hc]
      split
      · rename_i heq
        cases heq
        contradiction
      · rw [hitems]
        rfl

theorem readContainer?_object {fields : List (String × Json)}
    (hexact : ∀ field ∈ fields, field.2.IsExact)
    (hread : ∀ field ∈ fields, IsReadBy reader field.2) (rest : List Char) :
    readContainer? reader '{' (fieldChars fields ++ '}' :: rest) =
      some (.object fields, rest) := by
  rw [readContainer?, if_neg (by decide)]
  cases fields with
  | nil =>
      rw [fieldChars, List.nil_append, skipBlanks_cons (by decide)]
      rfl
  | cons field fields =>
      obtain ⟨text, htext⟩ : ∃ text,
          fieldChars (field :: fields) ++ '}' :: rest = '"' :: text := by
        cases fields <;> exact ⟨_, by rw [fieldChars, stringChars]; rfl⟩
      have hlength : (field :: fields).length ≤
          (fieldChars (field :: fields) ++ '}' :: rest).length := by
        rw [List.length_append]
        exact Nat.le_add_right_of_le (length_le_fieldChars _)
      have hfields :=
        readFields?_fieldChars (List.cons_ne_nil field fields) hexact hread hlength rest
      rw [htext] at hfields ⊢
      rw [skipBlanks_cons (by decide)]
      simp only [hfields, Option.map_some]
      rfl

/-! ### Values -/

theorem readValue?_number {depth : Nat} {text : List Char}
    (htext : ∀ c ∈ text.head?, c.isDigit = true ∨ c = '-') :
    readValue? (depth + 1) text = (readNumber? text).map fun (n, rest) => (.number n, rest) := by
  rw [readValue?.eq_def]
  simp only
  split
  all_goals first
    | rfl
    | exact absurd (htext _ rfl) (by decide)

/-- A value is read back by a reader that may go as deep as the value nests. -/
theorem isReadBy_readValue? {value : Json} (hvalue : value.IsExact) {depth : Nat}
    (hdepth : value.depth ≤ depth) : IsReadBy (readValue? (depth + 1)) value := by
  induction hvalue generalizing depth with
  | null => exact fun rest _ => rfl
  | bool b => cases b <;> exact fun rest _ => rfl
  | @int n hleast hgreatest =>
      intro rest hrest
      rw [chars, Number.text, readValue?_number, readNumber?_toString hleast hgreatest hrest]
      · rfl
      · intro c hc
        rw [List.head?_append_of_ne_nil _ (toString_int_ne_nil n)] at hc
        exact mem_toString_int c (List.mem_of_mem_head? hc)
  | string s =>
      intro rest _
      obtain ⟨text, htext, hread⟩ := readString?_stringChars s rest
      rw [chars, htext, readValue?, hread]
      rfl
  | @array items hitems ih =>
      intro rest _
      -- what stands inside may go one level less deep
      rw [Json.depth] at hdepth
      obtain ⟨inner, rfl⟩ := Nat.exists_eq_add_one.mpr (Nat.zero_lt_of_lt hdepth)
      have hinner : itemsDepth items ≤ inner := Nat.le_of_succ_le_succ hdepth
      have hread : ∀ item ∈ items, IsReadBy (readValue? (inner + 1)) item :=
        fun item hitem => ih item hitem (Nat.le_trans (depth_le_itemsDepth hitem) hinner)
      rw [chars, List.cons_append, List.append_assoc, List.singleton_append, readValue?,
        if_neg (Nat.succ_ne_zero inner), readContainer?_array hitems hread]
  | @object fields hnodup hfields ih =>
      intro rest _
      -- what stands inside may go one level less deep
      rw [Json.depth] at hdepth
      obtain ⟨inner, rfl⟩ := Nat.exists_eq_add_one.mpr (Nat.zero_lt_of_lt hdepth)
      have hinner : fieldsDepth fields ≤ inner := Nat.le_of_succ_le_succ hdepth
      have hread : ∀ field ∈ fields, IsReadBy (readValue? (inner + 1)) field.2 :=
        fun field hfield => ih field hfield (Nat.le_trans (depth_le_fieldsDepth hfield) hinner)
      rw [chars, List.cons_append, List.append_assoc, List.singleton_append, readValue?,
        if_neg (Nat.succ_ne_zero inner), readContainer?_object hfields hread]

/-- What is written is read back, if it does not nest too deep. -/
theorem read?_write {value : Json} (hvalue : value.IsExact) (hdepth : value.depth < nestingLimit) :
    read? (write value) = some value := by
  have hread : readValue? nestingLimit (value.chars ++ []) = some (value, []) :=
    isReadBy_readValue? hvalue (Nat.le_pred_of_lt hdepth) [] stopsAt_nil
  rw [List.append_nil] at hread
  have hskip := skipBlanks_chars hvalue []
  rw [List.append_nil] at hskip
  rw [read?, readWithin?, write, String.toList_ofList, hskip, hread]
  rfl

end SqlGateway.Json
