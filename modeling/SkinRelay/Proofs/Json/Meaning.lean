import SkinRelay.Json.Schema
import SkinRelay.Proofs.Json.Grammar

/-!
What a value means to a schema. The members of an object are put into the fields one after another, an
unknown one being passed over.
-/

namespace SkinRelay.Json

variable {α σ : Type}

namespace Node

def text? : Node → Option String
  | .text t => t
  | _ => none

def flag? : Node → Option Bool
  | .flag b => some b
  | _ => none

def int64? : Node → Option Int64
  | .number n => n.bind fun n => (Reader.toInt64 n).toOption
  | _ => none

def list? (item : Node → Option α) : Node → Option (List α)
  | .list nodes => nodes.mapM item
  | _ => none

def option? (value : Node → Option α) : Node → Option (Option α)
  | .null => some none
  | node => (value node).map some

/-- The fields after these members, which must have keys that can be read. -/
def putAll (put : σ → String → Node → Option σ) (st : σ) (members : List (Option String × Node)) :
    Option σ :=
  members.foldlM (fun st m => m.1.bind fun key => put st key m.2) st

/-- The fields of a list when none is asked for. -/
def arrangeNil : List Node → Option Unit
  | [] => some ()
  | _ :: _ => none

/-- The fields of a list when one more is asked for at the front. -/
def arrangeCons (value : Node → Option α) (fields : List Node → Option σ) :
    List Node → Option (Option α × σ)
  | [] => (fields []).map (none, ·)
  | node :: nodes => (value node).bind fun v => (fields nodes).map (some v, ·)

/-- A record, which is an object or a list of its fields. -/
def record? (empty : σ) (put : σ → String → Node → Option σ) (arrange : List Node → Option σ)
    (complete? : σ → Option α) : Node → Option α
  | .object members => (putAll put empty members).bind complete?
  | .list nodes => (arrange nodes).bind complete?
  | _ => none

end Node

mutual

/-- The value that a node denotes in a schema. -/
def Schema.denote : (schema : Schema) → Node → Option schema.Carrier
  | .text => Node.text?
  | .flag => Node.flag?
  | .int64 => Node.int64?
  | .list item => Node.list? item.denote
  | .option value => Node.option? value.denote
  | .record fields => Node.record? fields.empty fields.put fields.arrange fields.complete?

/-- The fields after a member: its own must be free. -/
def Fields.put : (fields : Fields) → fields.Slots → String → Node → Option fields.Slots
  | .nil, st, _, _ => some st
  | .cons name _ schema rest, (slot, st), key, node =>
    if key = name then
      if slot.isSome then none else (schema.denote node).map fun v => (some v, st)
    else (rest.put st key node).map (slot, ·)

/-- The fields in their order. The last ones may be missing. -/
def Fields.arrange : (fields : Fields) → List Node → Option fields.Slots
  | .nil => Node.arrangeNil
  | .cons _ _ schema rest => Node.arrangeCons schema.denote rest.arrange

end

end SkinRelay.Json
