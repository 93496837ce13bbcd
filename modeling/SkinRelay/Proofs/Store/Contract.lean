import SkinRelay.Proofs.Directory
import SkinRelay.Proofs.Expiring
import SkinRelay.Store.Database
import SkinRelay.Store.Memory

/-!
The contract of stores of names: a record is found under every casing of its name until something
else is recorded there, if it is found at all (`LawfulNameStore`), and it is found until it expires,
for which every store has its own rule (`ExpiringNameStore`). Both stores keep it.
-/

namespace SkinRelay

class LawfulNameStore (σ : Type) [NameStore σ] : Prop where
  /-- Under a name that was just recorded nothing else is found. -/
  lookup_record_self : ∀ (store : σ) (earlier now : Nat) (username query : String)
    (uuid : Option String) (r : NameRecord), Username.key query = Username.key username →
    NameStore.lookup (NameStore.record store earlier username uuid) now query = some r →
      r = { username, uuid }
  /-- Under other names nothing is found that was not there before. -/
  lookup_record_other : ∀ (store : σ) (earlier now : Nat) (username query : String)
    (uuid : Option String) (r : NameRecord), Username.key query ≠ Username.key username →
    NameStore.lookup (NameStore.record store earlier username uuid) now query = some r →
      NameStore.lookup store now query = some r

instance : LawfulNameStore MemoryStore where
  lookup_record_self store earlier now username query uuid r hkey hfound := by
    simp only [NameStore.lookup, NameStore.record, MemoryStore.lookup, MemoryStore.record, hkey,
      Expiring.get?_insert_self] at hfound
    split at hfound
    · exact (Option.some.inj hfound).symm
    · cases hfound
  lookup_record_other store earlier now username query uuid r hkey hfound := by
    simpa only [NameStore.lookup, NameStore.record, MemoryStore.lookup, MemoryStore.record,
      Expiring.get?_insert_of_ne _ _ _ _ hkey] using hfound

instance : LawfulNameStore DatabaseStore where
  lookup_record_self store earlier now username query uuid r hkey hfound := by
    obtain ⟨row, hrow, hr⟩ := Option.bind_eq_some_iff.mp hfound
    simp only [DatabaseStore.execute, DatabaseStore.lookupStatement, NameStore.record,
      DatabaseStore.record, DatabaseStore.recordStatement, hkey, Table.get?_insert, if_true,
      Option.some.injEq] at hrow
    subst hrow
    unfold NameRow.record? at hr
    split at hr
    · cases hr
    · exact (Option.some.inj hr).symm
  lookup_record_other store earlier now username query uuid r hkey hfound := by
    simpa only [NameStore.lookup, NameStore.record, DatabaseStore.lookup, DatabaseStore.record,
      DatabaseStore.execute, DatabaseStore.lookupStatement, DatabaseStore.recordStatement,
      Table.get?_insert, hkey, if_false] using hfound

/-- A store that forgets a record when it expires, and not before. -/
class ExpiringNameStore (σ : Type) [NameStore σ] extends LawfulNameStore σ where
  /-- Whether a store still believes at `now` what was recorded in it at `since`. -/
  believes : σ → (since now : Nat) → Bool
  isSome_lookup_record : ∀ (store : σ) (since now : Nat) (username query : String)
    (uuid : Option String), Username.key query = Username.key username →
    (NameStore.lookup (NameStore.record store since username uuid) now query).isSome =
      believes store since now
  /-- Under other names everything is found that was there before. -/
  lookup_record_kept : ∀ (store : σ) (since now : Nat) (username query : String)
    (uuid : Option String) (r : NameRecord), Username.key query ≠ Username.key username →
    NameStore.lookup store now query = some r →
      NameStore.lookup (NameStore.record store since username uuid) now query = some r
  /-- What is gone does not come back by itself. -/
  lookup_eq_none_of_le : ∀ (store : σ) (now later : Nat) (query : String), now ≤ later →
    NameStore.lookup store now query = none → NameStore.lookup store later query = none

namespace ExpiringNameStore

variable {σ : Type} [NameStore σ] [ExpiringNameStore σ] {store : σ} {since now : Nat}
  {username query : String} {uuid : Option String}

/-- A record is found, under every casing of its name, until it expires. -/
theorem lookup_of_believed (same : Username.key query = Username.key username)
    (believed : believes store since now = true) :
    NameStore.lookup (NameStore.record store since username uuid) now query =
      some { username, uuid } := by
  rw [← isSome_lookup_record store since now username query uuid same] at believed
  obtain ⟨r, hr⟩ := Option.isSome_iff_exists.mp believed
  rw [hr, LawfulNameStore.lookup_record_self _ _ _ _ _ _ _ same hr]

/-- A record does not touch other names. -/
theorem lookup_of_ne (other : Username.key query ≠ Username.key username) :
    NameStore.lookup (NameStore.record store since username uuid) now query =
      NameStore.lookup store now query := by
  apply Option.ext
  intro r
  constructor
  · exact LawfulNameStore.lookup_record_other _ _ _ _ _ _ _ other
  · exact lookup_record_kept _ _ _ _ _ _ _ other

end ExpiringNameStore

instance : ExpiringNameStore MemoryStore where
  believes s since now := now < since + s.records.lifetime
  isSome_lookup_record s since now username query uuid same := by
    simp only [NameStore.lookup, NameStore.record, MemoryStore.lookup, MemoryStore.record, same,
      Expiring.get?_insert_self]
    split <;> simp_all
  lookup_record_kept s since now username query uuid r other found := by
    simpa only [NameStore.lookup, NameStore.record, MemoryStore.lookup, MemoryStore.record,
      Expiring.get?_insert_of_ne _ _ _ _ other] using found
  lookup_eq_none_of_le s now later query hle gone := Expiring.get?_eq_none_of_le gone hle

instance : ExpiringNameStore DatabaseStore where
  believes _ since now := now < since + NameRecord.lifetime
  isSome_lookup_record s since now username query uuid same := by
    simp only [NameStore.lookup, NameStore.record, DatabaseStore.lookup, DatabaseStore.record,
      DatabaseStore.execute, DatabaseStore.lookupStatement, DatabaseStore.recordStatement,
      Table.get?_insert, same, if_true, Option.bind_some, NameRow.record?]
    split <;> simp <;> omega
  lookup_record_kept s since now username query uuid r other found := by
    simpa only [NameStore.lookup, NameStore.record, DatabaseStore.lookup, DatabaseStore.record,
      DatabaseStore.execute, DatabaseStore.lookupStatement, DatabaseStore.recordStatement,
      Table.get?_insert, other, if_false] using found
  lookup_eq_none_of_le s now later query hle gone := by
    simp only [NameStore.lookup, DatabaseStore.lookup, Option.bind_eq_none_iff] at gone ⊢
    intro row hrow
    have hold := gone row hrow
    unfold NameRow.record? at hold ⊢
    split at hold
    · rw [if_pos (by omega)]
    · cases hold

namespace Directory

variable {σ : Type} [NameStore σ] (d : Directory)

/-- Whether all that a store says is true. -/
def AgreesWith (store : σ) : Prop :=
  ∀ (now : Nat) (query : String) (r : NameRecord), NameStore.lookup store now query = some r →
    r.uuid = (d.account (Username.key query)).map (·.id)

variable {d}

/-- A true record leaves a store true. -/
theorem AgreesWith.record [LawfulNameStore σ] {store : σ} (h : d.AgreesWith store) (now : Nat)
    {username : String} {uuid : Option String}
    (right : uuid = (d.account (Username.key username)).map (·.id)) :
    d.AgreesWith (NameStore.record store now username uuid) := by
  intro later query r hfound
  by_cases hkey : Username.key query = Username.key username
  · obtain rfl := LawfulNameStore.lookup_record_self _ _ _ _ _ _ _ hkey hfound
    rw [hkey]
    exact right
  · exact h later query r (LawfulNameStore.lookup_record_other _ _ _ _ _ _ _ hkey hfound)

end Directory

end SkinRelay
