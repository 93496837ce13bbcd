import SkinRelay.Json.Record
import SkinRelay.Json.Value

/-!
Schemas: what a JSON text must look like to denote a value of a given type, and how the value is
written. One schema gives both the reader and the writer of its type.
-/

namespace SkinRelay.Json

/-- Whether a field may be missing, when it then has its default, and whether it is left out when
it is written and has its default. -/
inductive Presence where
  | required
  | defaulted
  | elided
  deriving DecidableEq, Repr

mutual

inductive Schema where
  | text
  | flag
  | int64
  | list (item : Schema)
  | option (value : Schema)
  | record (fields : Fields)

/-- The fields of a record in their order. -/
inductive Fields where
  | nil
  | cons (key : String) (presence : Presence) (schema : Schema) (rest : Fields)

end

mutual

/-- The values of a schema. -/
@[reducible] def Schema.Carrier : Schema → Type
  | .text => String
  | .flag => Bool
  | .int64 => Int64
  | .list item => List item.Carrier
  | .option value => Option value.Carrier
  | .record fields => fields.Carrier

@[reducible] def Fields.Carrier : Fields → Type
  | .nil => Unit
  | .cons _ _ schema rest => schema.Carrier × rest.Carrier

end

mutual

/-- The value of a field that is missing. -/
def Schema.default : (schema : Schema) → schema.Carrier
  | .text => ""
  | .flag => false
  | .int64 => 0
  | .list _ => []
  | .option _ => none
  | .record fields => fields.default

def Fields.default : (fields : Fields) → fields.Carrier
  | .nil => ()
  | .cons _ _ schema rest => (schema.default, rest.default)

end

mutual

def Schema.isDefault : (schema : Schema) → schema.Carrier → Bool
  | .text, s => s.isEmpty
  | .flag, b => !b
  | .int64, n => n == 0
  | .list _, items => items.isEmpty
  | .option _, value => value.isNone
  | .record fields, values => fields.isDefault values

def Fields.isDefault : (fields : Fields) → fields.Carrier → Bool
  | .nil, _ => true
  | .cons _ _ schema rest, (value, values) => schema.isDefault value && rest.isDefault values

end

/-! ### Writing -/

mutual

/-- The JSON value that denotes a value of the schema. -/
def Schema.toValue : (schema : Schema) → schema.Carrier → Value
  | .text, s => .text s
  | .flag, b => .flag b
  | .int64, n => .number n.toInt
  | .list item, items => .list (items.map item.toValue)
  | .option _, none => .null
  | .option value, some v => value.toValue v
  | .record fields, values => .object (fields.toMembers values)

def Fields.toMembers : (fields : Fields) → fields.Carrier → List (String × Value)
  | .nil, _ => []
  | .cons key presence schema rest, (value, values) =>
    if presence = .elided ∧ schema.isDefault value then rest.toMembers values
    else (key, schema.toValue value) :: rest.toMembers values

end

/-- The JSON text of a value. -/
def Schema.write (schema : Schema) (value : schema.Carrier) : String :=
  (schema.toValue value).render

/-! ### Reading -/

/-- The fields of a record that have been seen so far. -/
@[reducible] def Fields.Slots : Fields → Type
  | .nil => Unit
  | .cons _ _ schema rest => Option schema.Carrier × rest.Slots

def Fields.empty : (fields : Fields) → fields.Slots
  | .nil => ()
  | .cons _ _ _ rest => (none, rest.empty)

/-- The record, unless a required field is missing. -/
def Fields.complete? : (fields : Fields) → fields.Slots → Option fields.Carrier
  | .nil, _ => some ()
  | .cons _ presence schema rest, (slot, slots) =>
    match slot, presence with
    | none, .required => none
    | none, _ => (rest.complete? slots).map (schema.default, ·)
    | some value, _ => (rest.complete? slots).map (value, ·)

mutual

/-- The reader of a schema. -/
def Schema.reader : (schema : Schema) → Reader schema.Carrier
  | .text => Reader.text
  | .flag => Reader.flag
  | .int64 => Reader.int64
  | .list item => Reader.list item.reader
  | .option value => Reader.option value.reader
  | .record fields =>
    Reader.record fields.empty fields.lookup fields.sequence fields.complete?

/-- What a key does in a record with these fields, `none` for an unknown key. -/
def Fields.lookup : (fields : Fields) → String → Option (Entry fields.Slots)
  | .nil, _ => none
  | .cons name _ schema rest, key =>
    if key = name then some (Entry.front schema.reader) else (rest.lookup key).map Entry.behind

def Fields.sequence : (fields : Fields) → Sequence fields.Slots
  | .nil => Sequence.nil
  | .cons _ _ schema rest => Sequence.cons schema.reader rest.sequence

end

/-- The value that a whole text denotes: nothing but blanks may follow it. -/
def Schema.read (schema : Schema) (s : Bytes) : Except Fault schema.Carrier :=
  match schema.reader.run s with
  | .error f => .error f
  | .ok (value, rest) =>
    match skipBlank rest with
    | [] => .ok value
    | _ :: _ => .error .malformed

end SkinRelay.Json
