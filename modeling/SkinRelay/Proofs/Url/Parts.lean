import SkinRelay.Proofs.Url.Authority
import SkinRelay.Proofs.Url.Segments

/-!
The parts of a URL of the web. Its path and its query come from what follows the authority, and
nothing else does (`exists_parts`).
-/

namespace SkinRelay.Url

/-! ### What is read of a text -/

section

variable {α : Type} {p : α → Bool} {xs ys : List α}

/-- A text that ends in something that stays is trimmed at its front only. -/
theorem trimBoth_of_getLast? {a : α} (hlast : xs.getLast? = some a) (ha : p a = false) :
    Text.trimBoth p xs = xs.dropWhile p := by
  obtain ⟨front, rfl⟩ := List.getLast?_eq_some_iff.mp hlast
  have hdrop : ∃ rest, (front ++ [a]).dropWhile p = rest ++ [a] := by
    rw [List.dropWhile_append]
    split
    · exact ⟨[], by simp [ha]⟩
    · exact ⟨_, rfl⟩
  obtain ⟨rest, hrest⟩ := hdrop
  rw [Text.trimBoth, hrest, List.reverse_append]
  simp [ha]

/-- What stays can be put behind such a text before it is trimmed or afterwards. -/
theorem trimBoth_append {a : α} (hlast : xs.getLast? = some a) (ha : p a = false)
    (hys : ∀ b ∈ ys, p b = false) : Text.trimBoth p (xs ++ ys) = Text.trimBoth p xs ++ ys := by
  have hdrop : (xs ++ ys).dropWhile p = xs.dropWhile p ++ ys := by
    have hne : xs.dropWhile p ≠ [] := by
      intro hnil
      have htrimmed := List.dropWhile_eq_nil_iff.mp hnil a (List.mem_of_getLast? hlast)
      rw [ha] at htrimmed
      cases htrimmed
    rw [List.dropWhile_append, if_neg (by simpa using hne)]
  rw [trimBoth_of_getLast? hlast ha, ← hdrop]
  cases hends : ys.getLast? with
  | none =>
    rw [List.getLast?_eq_none_iff] at hends
    subst hends
    rw [List.append_nil, trimBoth_of_getLast? hlast ha]
  | some b =>
    refine trimBoth_of_getLast? ?_ (hys b (List.mem_of_getLast? hends))
    rw [List.getLast?_append, hends]
    rfl

end

theorem clean_append {text : String} {x : List Char} (hlast : text.toList.getLast? = some '/')
    (hx : ∀ c ∈ x, isTrimmed c = false ∧ isDropped c = false) :
    clean (text ++ String.ofList x) = clean text ++ x := by
  have hkept : x.filter (!isDropped ·) = x :=
    List.filter_eq_self.mpr fun c hc => by simp [(hx c hc).2]
  rw [clean, String.toList_append, String.toList_ofList,
    trimBoth_append hlast rfl fun c hc => (hx c hc).1, List.filter_append, hkept]
  rfl

/-! ### Schemes -/

variable {text : String} {base : Url}

/-- The scheme ends with its colon, whatever follows that. -/
theorem exists_scheme {s scheme rest : List Char} (h : takeScheme? s = some (scheme, rest)) :
    ∃ front, s = front ++ rest ∧ ∀ y, takeScheme? (front ++ y) = some (scheme, y) := by
  cases s with
  | nil => cases h
  | cons c s =>
    simp only [takeScheme?] at h
    split at h
    · rename_i halpha
      have hc : isSchemeChar c = true := by simp [isSchemeChar, Char.isAlphanum, halpha]
      have hall : ∀ d ∈ c :: s.takeWhile isSchemeChar, isSchemeChar d = true := by
        rw [List.forall_mem_cons]
        exact ⟨hc, fun d hd => List.mem_takeWhile_imp hd⟩
      split at h
      · rename_i hdrop
        cases h
        rw [List.dropWhile_cons_of_pos hc] at hdrop
        refine ⟨c :: s.takeWhile isSchemeChar ++ [':'], ?_, fun y => ?_⟩
        · have hsplit := List.takeWhile_append_dropWhile (p := isSchemeChar) (l := s)
          rw [hdrop] at hsplit
          rw [List.append_assoc, List.cons_append]
          exact congrArg (c :: ·) hsplit.symm
        · have hcolon : isSchemeChar ':' = false := by decide
          rw [List.append_assoc, List.cons_append, takeScheme?, if_pos halpha, ← List.cons_append,
            List.dropWhile_append_of_pos hall, List.takeWhile_append_of_pos hall]
          simp [hcolon, List.takeWhile_cons_of_pos hc]
      · cases h
    · cases h

/-! ### Whole URLs -/

/-- A slash can be put behind what follows an authority. -/
theorem EndsAuthority.slashed {t : List Char} (h : EndsAuthority t) (x : List Char) :
    EndsAuthority (slashed t ++ x) := by
  intro c hc
  cases t with
  | nil =>
    cases hc
    rfl
  | cons d t =>
    refine h c ?_
    unfold Url.slashed at hc
    split at hc
    · exact hc
    · exact hc

theorem ofAuthority_eq_ok {scheme s : List Char} {kind : Kind}
    (h : ofAuthority scheme kind s = .ok base) :
    ∃ host port rest, authority kind (usualPort scheme) s = .ok (host, port, rest) ∧
      base = ⟨scheme, host, port, (pathAndQuery kind.isSpecial rest).1,
        (pathAndQuery kind.isSpecial rest).2⟩ := by
  change (authority kind (usualPort scheme) s).bind _ = _ at h
  cases hauthority : authority kind (usualPort scheme) s with
  | error fault =>
    rw [hauthority] at h
    cases h
  | ok parts =>
    obtain ⟨host, port, rest⟩ := parts
    rw [hauthority] at h
    cases h
    exact ⟨host, port, rest, rfl, rfl⟩

theorem ofAuthority_of_ok {scheme s rest : List Char} {host : Option Host} {port : Option Nat}
    {kind : Kind} (h : authority kind (usualPort scheme) s = .ok (host, port, rest)) :
    ofAuthority scheme kind s = .ok ⟨scheme, host, port, (pathAndQuery kind.isSpecial rest).1,
      (pathAndQuery kind.isSpecial rest).2⟩ := by
  change (authority kind (usualPort scheme) s).bind _ = _
  rw [h]
  rfl

theorem scheme_of_parse {scheme rest : List Char} (h : parse text = .ok base)
    (hscheme : takeScheme? (clean text) = some (scheme, rest)) : base.scheme = scheme := by
  simp only [parse, hscheme] at h
  split at h
  · obtain ⟨_, _, _, -, rfl⟩ := ofAuthority_eq_ok h
    rfl
  · split at h
    · split at h
      · rename_i after _
        cases hhost : fileHost after with
        | error fault =>
          rw [hhost] at h
          cases h
        | ok host =>
          rw [hhost] at h
          cases h
          rfl
      · cases h
        rfl
    · cases h
      rfl
  · split at h
    · obtain ⟨_, _, _, -, rfl⟩ := ofAuthority_eq_ok h
      rfl
    · cases h
      rfl

theorem kind_of_isWeb (web : base.isWeb = true) : kind base.scheme = .web := by
  rw [isWeb, Bool.or_eq_true, decide_eq_true_eq, decide_eq_true_eq] at web
  rcases web with h | h <;> rw [h] <;> decide

/-- A URL of a web server comes from what is in front of its authority, its authority, and what
follows it. Another text that has the first two in common leads to the same server, with a path and
a query of its own. -/
structure HasParts (text : String) (base : Url) (front a t : List Char) : Prop where
  clean : clean text = front ++ a ++ t
  nonempty : a ≠ []
  inAuthority : InAuthority a
  ends : EndsAuthority t
  path : base.path = (pathAndQuery true t).1
  query : base.query = (pathAndQuery true t).2
  parse : ∀ {text' : String} {t' : List Char}, Url.clean text' = front ++ a ++ t' →
    EndsAuthority t' → Url.parse text' =
      .ok { base with path := (pathAndQuery true t').1, query := (pathAndQuery true t').2 }

theorem exists_parts (h : parse text = .ok base) (web : base.isWeb = true) :
    ∃ front a t, HasParts text base front a t := by
  cases hscheme : takeScheme? (clean text) with
  | none => simp [parse, hscheme] at h
  | some found =>
    obtain ⟨scheme, rest⟩ := found
    obtain rfl := scheme_of_parse h hscheme
    have hkind := kind_of_isWeb web
    obtain ⟨front, hfront, hany⟩ := exists_scheme hscheme
    obtain ⟨a, t, hsplit, ha, ht⟩ :=
      exists_authority (rest.dropWhile fun c => c = '/' ∨ c = '\\')
    have hslashes := List.takeWhile_append_dropWhile
      (p := fun c => decide (c = '/' ∨ c = '\\')) (l := rest)
    simp only [parse, hscheme, hkind] at h
    obtain ⟨host, port, rest', hauthority, hbase⟩ := ofAuthority_eq_ok h
    rw [hsplit, authority_append ha ht] at hauthority
    cases halone : authority .web (usualPort base.scheme) a with
    | error fault =>
      rw [halone] at hauthority
      cases hauthority
    | ok parts =>
      rw [halone] at hauthority
      cases hauthority
      have hne : a ≠ [] := by
        rintro rfl
        cases halone
      refine ⟨front ++ rest.takeWhile (fun c => c = '/' ∨ c = '\\'), a, t, ?_, hne, ha, ht, ?_, ?_, ?_⟩
      · rw [hfront, List.append_assoc, List.append_assoc, ← hsplit, hslashes]
      · exact congrArg Url.path hbase
      · exact congrArg Url.query hbase
      · intro text' t' hclean ht'
        have hdrop : (rest.takeWhile (fun c => c = '/' ∨ c = '\\') ++ (a ++ t')).dropWhile
            (fun c => decide (c = '/' ∨ c = '\\')) = a ++ t' := by
          rw [List.dropWhile_append_of_pos fun c hc => by simpa using List.mem_takeWhile_imp hc]
          cases a with
          | nil => exact absurd rfl hne
          | cons c a =>
            have hc := ha c List.mem_cons_self
            refine List.dropWhile_cons_of_neg ?_
            rw [decide_eq_true_eq]
            rintro (rfl | rfl)
            · cases hc
            · cases hc
        have hall := @authority_append a t' (usualPort base.scheme) ha ht'
        rw [halone] at hall
        rw [List.append_assoc, List.append_assoc] at hclean
        simp only [parse, hclean, hany, hkind, hdrop, ofAuthority_of_ok hall]
        rw [hbase]
        rfl

end SkinRelay.Url
