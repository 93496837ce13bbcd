import Mathlib.Data.List.TakeWhile
import Mathlib.Tactic.Common
import SkinRelay.Url

/-!
The authority of a URL of the web: it ends before the first slash, question mark or hash, and host and
port do not depend on what follows it (`authority_append`).
-/

namespace SkinRelay.Url

/-- Where a prefix ends inside a text, it ends there whatever follows the text. -/
theorem span_append {p : Char → Bool} {s rest : List Char} {c : Char}
    (h : s.dropWhile p = c :: rest) (x : List Char) :
    (s ++ x).takeWhile p = s.takeWhile p ∧ (s ++ x).dropWhile p = c :: (rest ++ x) := by
  have hdrop : (s ++ x).dropWhile p = c :: (rest ++ x) := by
    rw [List.dropWhile_append, h]
    rfl
  refine ⟨?_, hdrop⟩
  have hwhole := List.takeWhile_append_dropWhile (p := p) (l := s ++ x)
  have hpart := List.takeWhile_append_dropWhile (p := p) (l := s)
  rw [hdrop] at hwhole
  rw [h] at hpart
  have hsame : s.takeWhile p ++ c :: (rest ++ x) = s ++ x := by
    rw [← List.cons_append, ← List.append_assoc, hpart]
  exact List.append_cancel_right (hwhole.trans hsame.symm)

/-- Characters that do not end an authority. -/
def InAuthority (s : List Char) : Prop := ∀ c ∈ s, endsAuthority true c = false

/-- What can follow an authority: nothing, or something that ends it. -/
def EndsAuthority (s : List Char) : Prop := ∀ c, s.head? = some c → endsAuthority true c = true

/-- A text falls into its authority and what follows. -/
theorem exists_authority (s : List Char) :
    ∃ a t, s = a ++ t ∧ InAuthority a ∧ EndsAuthority t := by
  refine ⟨s.takeWhile (!endsAuthority true ·), s.dropWhile (!endsAuthority true ·),
    List.takeWhile_append_dropWhile.symm, ?_, ?_⟩
  · intro c hc
    simpa using List.mem_takeWhile_imp hc
  · intro c hc
    have hend := List.head?_dropWhile_not (!endsAuthority true ·) s
    rw [hc] at hend
    simpa using hend

variable {a t : List Char} {usual : Option Nat}

theorem takeWhile_authority (ha : InAuthority a) (ht : EndsAuthority t) :
    (a ++ t).takeWhile (!endsAuthority true ·) = a ∧
      (a ++ t).dropWhile (!endsAuthority true ·) = t := by
  have hall : ∀ c ∈ a, (!endsAuthority true c) = true := fun c hc => by simp [ha c hc]
  have hnone : t.takeWhile (!endsAuthority true ·) = [] ∧
      t.dropWhile (!endsAuthority true ·) = t := by
    cases t with
    | nil => exact ⟨rfl, rfl⟩
    | cons c t => simp [ht c rfl]
  rw [List.takeWhile_append_of_pos hall, List.dropWhile_append_of_pos hall, hnone.1, hnone.2,
    List.append_nil]
  exact ⟨rfl, rfl⟩

/-! ### User information -/

theorem mem_of_splitUserinfo? {s user after : List Char}
    (h : splitUserinfo? s = some (user, after)) : ∀ c ∈ after, c ∈ s := by
  induction s generalizing user with
  | nil => cases h
  | cons c s ih =>
    simp only [splitUserinfo?] at h
    split at h
    · rename_i hsplit
      cases h
      exact fun d hd => List.mem_cons_of_mem c (ih hsplit d hd)
    · split at h
      · cases h
        exact fun d hd => List.mem_cons_of_mem c hd
      · cases h

/-- The user information ends inside the authority. -/
theorem dropUserinfo_append (ha : InAuthority a) (ht : EndsAuthority t) :
    dropUserinfo true (a ++ t) =
      match splitUserinfo? a with
      | none => .ok (false, a ++ t)
      | some (user, after) =>
        if user.isEmpty && after.isEmpty && !t.isEmpty then .error .emptyHost
        else .ok (!user.isEmpty && user != [':'], after ++ t) := by
  obtain ⟨htake, hdrop⟩ := takeWhile_authority ha ht
  cases hsplit : splitUserinfo? a <;> simp only [dropUserinfo, htake, hdrop, hsplit]

/-! ### Hosts and ports -/

theorem takeHost_append (ht : EndsAuthority t) (ha : InAuthority a) (inBrackets : Bool) :
    takeHost true inBrackets (a ++ t) =
      ((takeHost true inBrackets a).1, (takeHost true inBrackets a).2 ++ t) := by
  induction a generalizing inBrackets with
  | nil =>
    cases t with
    | nil => rfl
    | cons c t => simp [takeHost, ht c rfl]
  | cons c a ih =>
    obtain ⟨hc, ha⟩ := List.forall_mem_cons.mp ha
    simp only [List.cons_append, takeHost]
    split
    · rfl
    · rw [ih ha]

/-- Inside an authority only a colon ends the host. -/
theorem takeHost_rest (ha : InAuthority a) (inBrackets : Bool) :
    (takeHost true inBrackets a).2 = [] ∨
      ∃ ps, (takeHost true inBrackets a).2 = ':' :: ps ∧ InAuthority ps := by
  induction a generalizing inBrackets with
  | nil => exact .inl rfl
  | cons c a ih =>
    obtain ⟨hc, ha⟩ := List.forall_mem_cons.mp ha
    simp only [takeHost]
    split
    · rename_i hcolon
      rw [hc] at hcolon
      simp only [Bool.not_eq_eq_eq_not, Bool.not_true, Bool.false_eq_true, or_false] at hcolon
      exact .inr ⟨a, by rw [hcolon.1], ha⟩
    · exact ih ha _

/-- The port of some digits, when this follows them. -/
def portOf (usual : Option Nat) (ds rest : List Char) : Except UrlFault (Option Nat × List Char) :=
  if 65535 < ds.foldl (fun n c => n * 10 + (c.toNat - 0x30)) 0 then .error .port
  else if rest.head?.all (endsAuthority true) then
    .ok (if ds.isEmpty ∨ some (ds.foldl (fun n c => n * 10 + (c.toNat - 0x30)) 0) = usual then none
      else some (ds.foldl (fun n c => n * 10 + (c.toNat - 0x30)) 0), rest)
  else .error .port

theorem takePort_eq (s : List Char) :
    takePort usual s = portOf usual (s.takeWhile Char.isDigit) (s.dropWhile Char.isDigit) := by
  unfold takePort portOf
  dsimp only
  split
  · rfl
  · cases s.dropWhile Char.isDigit with
    | nil => rfl
    | cons c rest => rfl

theorem not_isDigit_of_endsAuthority {c : Char} (h : endsAuthority true c = true) :
    c.isDigit = false := by
  simp only [endsAuthority, Bool.true_and, Bool.or_eq_true, beq_iff_eq] at h
  rcases h with ((rfl | rfl) | rfl) | rfl <;> rfl

theorem takePort_append (ht : EndsAuthority t) (ha : InAuthority a) :
    takePort usual (a ++ t) = (takePort usual a).map fun r => (r.1, t) := by
  have hnone : t.takeWhile Char.isDigit = [] ∧ t.dropWhile Char.isDigit = t := by
    cases t with
    | nil => exact ⟨rfl, rfl⟩
    | cons c t => simp [not_isDigit_of_endsAuthority (ht c rfl)]
  have hend : t.head?.all (endsAuthority true) = true := by
    cases t with
    | nil => rfl
    | cons c t => exact ht c rfl
  rw [takePort_eq, takePort_eq]
  cases hrest : a.dropWhile Char.isDigit with
  | nil =>
    have hdigits : ∀ c ∈ a, c.isDigit = true := List.dropWhile_eq_nil_iff.mp hrest
    rw [List.takeWhile_append_of_pos hdigits, List.dropWhile_append_of_pos hdigits, hnone.1,
      hnone.2, List.append_nil, List.takeWhile_eq_self_iff.mpr hdigits]
    simp only [portOf, hend, List.head?_nil, Option.all_none, if_true]
    split
    · rfl
    · rfl
  | cons c rest =>
    have hc : endsAuthority true c = false :=
      ha c ((List.dropWhile_sublist _).subset (hrest ▸ List.mem_cons_self))
    obtain ⟨htake, hdrop⟩ := span_append hrest t
    rw [hdrop, htake]
    simp only [portOf, List.head?_cons, Option.all_some, hc, Bool.false_eq_true, if_false, ite_self]
    rfl

/-! ### Whole authorities -/

/-- Host and port of a server, without user information. -/
def server (usual : Option Nat) (s : List Char) :
    Except UrlFault (Option Host × Option Nat × List Char) :=
  if (takeHost true false s).1.isEmpty then .error .emptyHost
  else
    match webHost (takeHost true false s).1 with
    | .error fault => .error fault
    | .ok host =>
      match (takeHost true false s).2 with
      | ':' :: rest => (takePort usual rest).map fun r => (some host, r.1, r.2)
      | rest => .ok (some host, none, rest)

theorem authority_eq (s : List Char) :
    authority .web usual s = (dropUserinfo true s).bind fun r => server usual r.2 := by
  show (dropUserinfo true s).bind _ = _
  cases dropUserinfo true s with
  | error fault => rfl
  | ok r =>
    show (if (takeHost true false r.2).1.isEmpty = true then _ else _) = server usual r.2
    unfold server
    by_cases hempty : (takeHost true false r.2).1.isEmpty = true
    · rw [if_pos hempty, if_pos hempty]
      rfl
    · rw [if_neg hempty, if_neg hempty]
      show (webHost (takeHost true false r.2).1).bind _ = _
      cases webHost (takeHost true false r.2).1 with
      | error fault => rfl
      | ok host =>
        show (match (takeHost true false r.2).2 with | ':' :: _ => _ | _ => _) = _
        dsimp only
        split
        · rename_i rest _
          cases takePort usual rest <;> rfl
        · rfl

theorem server_append (ht : EndsAuthority t) (ha : InAuthority a) :
    server usual (a ++ t) = (server usual a).map fun r => (r.1, r.2.1, t) := by
  unfold server
  simp only [takeHost_append ht ha]
  split
  · rfl
  · cases webHost (takeHost true false a).1 with
    | error fault => rfl
    | ok host =>
      dsimp only
      rcases takeHost_rest ha false with hrest | ⟨ps, hrest, hps⟩
      · rw [hrest]
        cases t with
        | nil => rfl
        | cons c t =>
          have hc : c ≠ ':' := by
            rintro rfl
            exact absurd (ht ':' rfl) (by decide)
          simp only [List.nil_append, Except.map]
          split
          · rename_i heq
            cases heq
            exact absurd rfl hc
          · rfl
      · simp only [hrest, List.cons_append, takePort_append ht hps]
        cases takePort usual ps <;> rfl

/-- Host and port are those of the authority alone, and what follows it is left. -/
theorem authority_append (ha : InAuthority a) (ht : EndsAuthority t) :
    authority .web usual (a ++ t) = (authority .web usual a).map fun r => (r.1, r.2.1, t) := by
  have hnil : EndsAuthority [] := by
    intro c hc
    cases hc
  have halone := dropUserinfo_append ha hnil
  rw [List.append_nil] at halone
  rw [authority_eq, authority_eq, dropUserinfo_append ha ht, halone]
  cases hsplit : splitUserinfo? a with
  | none => simp only [Except.bind, server_append ht ha]
  | some parts =>
    obtain ⟨user, after⟩ := parts
    have hafter : InAuthority after := fun c hc => ha c (mem_of_splitUserinfo? hsplit c hc)
    simp only [List.isEmpty_nil, Bool.not_true, Bool.and_false, Bool.false_eq_true, if_false,
      List.append_nil]
    by_cases hempty : (user.isEmpty && after.isEmpty && !t.isEmpty) = true
    · -- An authority that is just an `@` has no host, whatever follows it.
      rw [if_pos hempty]
      simp only [Bool.and_eq_true, List.isEmpty_iff] at hempty
      rw [hempty.1.2]
      rfl
    · rw [if_neg hempty]
      exact server_append ht hafter

end SkinRelay.Url
