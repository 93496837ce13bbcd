import SkinRelay.Table

/-!
Expiring tables: a value lives for a fixed time, counted from when it was put in, however often
it is read.
-/

namespace SkinRelay

/-- A value and when it was put in. -/
structure Dated (ν : Type) where
  value : ν
  since : Nat
  deriving DecidableEq, Repr

structure Expiring (κ ν : Type) where
  /-- How long a value lives. -/
  lifetime : Nat
  entries : Table κ (Dated ν) := {}
  deriving DecidableEq, Repr

namespace Expiring

variable [DecidableEq κ]

/-- A value whose age has reached the lifetime is gone. -/
def isAlive (t : Expiring κ ν) (now : Nat) (entry : Dated ν) : Bool :=
  now < entry.since + t.lifetime

def get? (t : Expiring κ ν) (now : Nat) (key : κ) : Option ν :=
  ((t.entries.get? key).filter (t.isAlive now)).map (·.value)

/-- Puts in a value, which takes the place of an older one of the same key. -/
def insert (t : Expiring κ ν) (now : Nat) (key : κ) (value : ν) : Expiring κ ν :=
  { t with entries := t.entries.insert key ⟨value, now⟩ }

/-- Takes out what is no longer alive. -/
def sweep (t : Expiring κ ν) (now : Nat) : Expiring κ ν :=
  { t with entries := ⟨t.entries.entries.filter fun e => t.isAlive now e.2⟩ }

theorem get?_insert_self (t : Expiring κ ν) (now later : Nat) (key : κ) (value : ν) :
    (t.insert now key value).get? later key =
      if later < now + t.lifetime then some value else none := by
  by_cases h : later < now + t.lifetime <;> simp [get?, insert, isAlive, Option.filter, h]

theorem get?_insert_of_ne (t : Expiring κ ν) (now later : Nat) {key j : κ} (value : ν)
    (h : j ≠ key) : (t.insert now key value).get? later j = t.get? later j := by
  simp only [get?, insert, Table.get?_insert, h, if_false]
  rfl

end Expiring

end SkinRelay
