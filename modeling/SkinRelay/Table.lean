/-!
Tables: finite maps, kept as the list of their entries in the order in which the keys came.
-/

namespace SkinRelay

structure Table (κ ν : Type) where
  entries : List (κ × ν) := []
  deriving DecidableEq, Repr, Inhabited

namespace Table

variable [DecidableEq κ]

/-- The value that belongs to a key. -/
def get? (t : Table κ ν) (key : κ) : Option ν := (t.entries.find? (·.1 = key)).map (·.2)

def contains (t : Table κ ν) (key : κ) : Bool := (t.get? key).isSome

/-- The entries with a new value for a key, whose place is kept if it had one. -/
def insertEntry (key : κ) (value : ν) : List (κ × ν) → List (κ × ν)
  | [] => [(key, value)]
  | (k, v) :: rest =>
    if k = key then (key, value) :: rest else (k, v) :: insertEntry key value rest

def insert (t : Table κ ν) (key : κ) (value : ν) : Table κ ν := ⟨insertEntry key value t.entries⟩

def erase (t : Table κ ν) (key : κ) : Table κ ν := ⟨t.entries.filter (·.1 ≠ key)⟩

def keys (t : Table κ ν) : List κ := t.entries.map (·.1)

def values (t : Table κ ν) : List ν := t.entries.map (·.2)

def size (t : Table κ ν) : Nat := t.entries.length

theorem find?_insertEntry (key j : κ) (value : ν) (entries : List (κ × ν)) :
    ((insertEntry key value entries).find? (·.1 = j)).map (·.2) =
      if j = key then some value else (entries.find? (·.1 = j)).map (·.2) := by
  induction entries with
  | nil =>
    by_cases h : j = key
    · simp [insertEntry, h]
    · simp [insertEntry, h, Ne.symm h]
  | cons e rest ih =>
    obtain ⟨k, v⟩ := e
    by_cases hk : k = key
    · subst hk
      by_cases h : j = k
      · simp [insertEntry, h]
      · simp [insertEntry, h, Ne.symm h]
    · by_cases hj : k = j
      · subst hj
        simp [insertEntry, hk]
      · simpa [insertEntry, hk, hj] using ih

@[simp] theorem get?_insert (t : Table κ ν) (key j : κ) (value : ν) :
    (t.insert key value).get? j = if j = key then some value else t.get? j :=
  find?_insertEntry key j value t.entries

@[simp] theorem get?_erase (t : Table κ ν) (key j : κ) :
    (t.erase key).get? j = if j = key then none else t.get? j := by
  obtain ⟨entries⟩ := t
  simp only [erase, get?]
  induction entries with
  | nil => simp
  | cons e rest ih =>
    obtain ⟨k, v⟩ := e
    by_cases hk : k = key
    · by_cases hj : j = key
      · simp [hj]
      · simpa [hk, hj, Ne.symm hj] using ih
    · by_cases hj : k = j
      · subst hj
        simp [hk]
      · simpa [hk, hj] using ih

end Table

end SkinRelay
