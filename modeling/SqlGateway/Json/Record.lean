import SqlGateway.Json.Basic
import SqlGateway.Decimal.Digits

/-!
# Records and variants in JSON

How typed data are laid out in JSON.  A record is an object with its fields by name, or an array
with its fields in order; unknown names are ignored, and a name that the record knows may not come
twice.  A variant without data is its name; one with data is an object whose only field is named for
it.
-/

namespace SqlGateway.Json

/-- A string. -/
def asString? : Json → Option String
  | .string s => some s
  | _ => none

/-- The items of an array. -/
def asArray? : Json → Option (List Json)
  | .array items => some items
  | _ => none

/-- An object as a row, each repeated key in its first place with its last value. -/
def asRow? : Json → Option (List (String × Json))
  | .object fields => some (mergedFields [] fields)
  | _ => none

/-- A whole number between zero and `bound`. -/
def asCount? (bound : Nat) : Json → Option Nat
  | .number (.int n) => if 0 ≤ n && n ≤ bound then some n.toNat else none
  | _ => none

/-- Null for nothing, anything else as the given reader has it. -/
def asOption? {α : Type} (read? : Json → Option α) : Json → Option (Option α)
  | .null => some none
  | value => (read? value).map some

/-- An array whose items the given reader has. -/
def asList? {α : Type} (read? : Json → Option α) (value : Json) : Option (List α) := do
  (← value.asArray?).mapM read?

/-- The values of the fields `names` of a record, none for one that is left out.  An array may leave
out the last fields, but no more than `spare` of them. -/
def asRecord? (names : List String) (spare : Nat) : Json → Option (List (Option Json))
  | .object fields =>
    if names.any fun name => 1 < fields.countP fun field => field.1 == name then none
    else some (names.map fun name => getField? name fields)
  | .array items =>
    if items.length ≤ names.length && names.length ≤ items.length + spare then
      some (items.map some ++ List.replicate (names.length - items.length) none)
    else none
  | _ => none

/-- A variant: its name, and its data if it has some. -/
def asVariant? : Json → Option (String × Json)
  | .string name => some (name, .null)
  | .object [(name, data)] => some (name, data)
  | _ => none

/-- A field that must be there. -/
def required? {α : Type} (read? : Json → Option α) : Option Json → Option α
  | some value => read? value
  | none => none

/-- A field that may be left out or be null. -/
def optional? {α : Type} (read? : Json → Option α) : Option Json → Option (Option α)
  | some value => asOption? read? value
  | none => some none

/-- Null for nothing. -/
def ofOption {α : Type} (write : α → Json) : Option α → Json
  | none => .null
  | some value => write value

/-- A count. -/
def ofCount (n : Nat) : Json :=
  .number (.int n)

end SqlGateway.Json
