import SkinRelay.Json.Schema

/-!
Formats: a schema together with the type whose values it writes and reads.
-/

namespace SkinRelay.Json

/-- How the values of `α` are laid out. No value is lost on the way out and back. -/
structure Format (α : Type) where
  schema : Schema
  ofCarrier : schema.Carrier → α
  toCarrier : α → schema.Carrier
  ofCarrier_toCarrier : ∀ a, ofCarrier (toCarrier a) = a

namespace Format

/-- Text without any meaning of its own. -/
def text : Format String := ⟨.text, id, id, fun _ => rfl⟩

def list (item : Format α) : Format (List α) where
  schema := .list item.schema
  ofCarrier := List.map item.ofCarrier
  toCarrier := List.map item.toCarrier
  ofCarrier_toCarrier as := by
    induction as with
    | nil => rfl
    | cons a as ih => simp [item.ofCarrier_toCarrier] at ih ⊢; exact ih

def option (value : Format α) : Format (Option α) where
  schema := .option value.schema
  ofCarrier := Option.map value.ofCarrier
  toCarrier := Option.map value.toCarrier
  ofCarrier_toCarrier a := by cases a <;> simp [value.ofCarrier_toCarrier]

/-- The value that a whole text denotes. -/
def read (format : Format α) (s : Bytes) : Except Fault α :=
  match format.schema.read s with
  | .error f => .error f
  | .ok value => .ok (format.ofCarrier value)

def toValue (format : Format α) (a : α) : Value := format.schema.toValue (format.toCarrier a)

/-- The JSON text of a value. -/
def write (format : Format α) (a : α) : String := (format.toValue a).render

end Format

end SkinRelay.Json
