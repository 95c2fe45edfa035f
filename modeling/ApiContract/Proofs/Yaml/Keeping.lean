import ApiContract.Proofs.Yaml.Scans
import ApiContract.Value.Sharing

/-!
Maps whose texts are all read back, wherever they stand. That is so if no text has a next line (U+0085) or an
escape before a space, and if no key is too long with its escapes (`isKept_of_hasTexts`).
-/

namespace ApiContract

namespace Value

variable {key text : String → Bool}

mutual

/-- Whether the keys and the other texts in a value satisfy `key` and `text`. -/
def hasTexts (key text : String → Bool) : Value → Bool
  | str s => text s
  | list vs => haveTexts key text vs
  | map fs => fieldsHaveTexts key text fs
  | shared _ v => v.hasTexts key text
  | _ => true

/-- Whether the texts in values are such. -/
def haveTexts (key text : String → Bool) : List Value → Bool
  | [] => true
  | v :: vs => v.hasTexts key text && haveTexts key text vs

/-- Whether the keys of fields and the texts in them are such. -/
def fieldsHaveTexts (key text : String → Bool) : List (String × Value) → Bool
  | [] => true
  | (k, v) :: fs => key k && v.hasTexts key text && fieldsHaveTexts key text fs

end

mutual

/-- The numbered form of a value has no other texts. -/
theorem hasTexts_link : (v : Value) → v.hasTexts key text = true → ∀ names seen : List Identity,
    (link names seen v).1.hasTexts key text = true
  | list vs, h, names, seen => haveTexts_link vs h names seen
  | map fs, h, names, seen => fieldsHaveTexts_link fs h names seen
  | shared id v, h, names, seen => by
    rw [link]
    split
    · exact hasTexts_link v h names seen
    · split_ifs
      · rfl
      · exact hasTexts_link v h names _
  | str _, h, _, _ => h
  | null, _, _, _ | bool _, _, _, _ | int _, _, _, _ | real _, _, _, _ | bytes _, _, _, _ | date _, _, _, _
  | moment _ _, _, _, _ | set _, _, _, _ | pair _ _, _, _, _ | table _, _, _, _ | torn _, _, _, _
  | again _ _, _, _, _ => rfl

theorem haveTexts_link : (vs : List Value) → haveTexts key text vs = true → ∀ names seen : List Identity,
    haveTexts key text (linkAll names seen vs).1 = true
  | [], _, _, _ => rfl
  | v :: vs, h, names, seen =>
    have hvs := Bool.and_eq_true_iff.1 h
    Bool.and_eq_true_iff.2 ⟨hasTexts_link v hvs.1 names seen, haveTexts_link vs hvs.2 names _⟩

theorem fieldsHaveTexts_link : (fs : List (String × Value)) → fieldsHaveTexts key text fs = true →
    ∀ names seen : List Identity, fieldsHaveTexts key text (linkFields names seen fs).1 = true
  | [], _, _, _ => rfl
  | (_, v) :: fs, h, names, seen => by
    obtain ⟨hv, hfs⟩ := Bool.and_eq_true_iff.1 h
    obtain ⟨hk, hv⟩ := Bool.and_eq_true_iff.1 hv
    exact Bool.and_eq_true_iff.2 ⟨Bool.and_eq_true_iff.2 ⟨hk, hasTexts_link v hv names seen⟩,
      fieldsHaveTexts_link fs hfs names _⟩

end

/-- Whether all texts in a map that is a text of its own are read back. -/
def isKept (v : Value) : Bool :=
  match v.linked with
  | map fs => fieldsKeep 0 fs
  | _ => true

end Value

namespace Yaml

variable {s : String} {n : ℕ}

/-- Whether a text is read back wherever it stands, but as a key. -/
def isSteady (s : String) : Bool := !s.toList.contains nextLine && !hasSpacedEscape s.toList

/-- Whether a text is read back as a key wherever it stands. -/
def isSteadyKey (s : String) : Bool :=
  isSteady s && decide (2 + (s.toList.flatMap encode).length ≤ Scanner.keyReach)

lemma isLossy_of_isSteady (h : isSteady s = true) (n : ℕ) : isLossy n true true s.toList = false := by
  have hspaced : hasSpacedEscape s.toList = false := by simpa using (Bool.and_eq_true_iff.1 h).2
  have htail : hasSpacedEscape s.toList.tail = false := by
    cases hs : s.toList with
    | nil => rfl
    | cons c cs =>
      rw [hs, hasSpacedEscape, Bool.or_eq_false_iff] at hspaced
      exact hspaced.2
  rw [isLossy, if_pos rfl, htail, Bool.and_false]

lemma keepsText_of_isSteady (h : isSteady s = true) (n : ℕ) : keepsText false n s = true := by
  rw [keepsText]
  split
  · rfl
  · exact (Bool.and_eq_true_iff.1 h).1
  · rw [if_neg Bool.false_ne_true, isLossy_of_isSteady h, Bool.not_false]

lemma keepsText_of_isSteadyKey (h : isSteadyKey s = true) (inKey : Bool) (n : ℕ) :
    keepsText inKey n s = true := by
  obtain ⟨hsteady, hlength⟩ := Bool.and_eq_true_iff.1 h
  cases inKey with
  | false => exact keepsText_of_isSteady hsteady n
  | true =>
    rw [keepsText]
    split
    · rfl
    · exact (Bool.and_eq_true_iff.1 hsteady).1
    · exact hlength

end Yaml

namespace Value

open Yaml

mutual

/-- Steady texts in a value are read back. -/
theorem keeps_of_hasTexts :
    (v : Value) → v.hasTexts isSteadyKey isSteady = true → ∀ (i : ℕ) (inMapping fresh : Bool),
    v.keeps i inMapping fresh = true
  | str _, h, i, _, _ => keepsText_of_isSteady h (i + 2)
  | list vs, h, _, _, _ => itemsKeep_of_haveTexts vs h _
  | map fs, h, i, _, _ => fieldsKeep_of_fieldsHaveTexts fs h (i + 2)
  | shared _ v, h, i, inMapping, _ => keeps_of_hasTexts v h i inMapping false
  | null, _, _, _, _ | bool _, _, _, _, _ | int _, _, _, _, _ | real _, _, _, _, _ | bytes _, _, _, _, _
  | date _, _, _, _, _ | moment _ _, _, _, _, _ | set _, _, _, _, _ | pair _ _, _, _, _, _ | table _, _, _, _, _
  | torn _, _, _, _, _ | again _ _, _, _, _, _ => rfl

theorem itemsKeep_of_haveTexts : (vs : List Value) → haveTexts isSteadyKey isSteady vs = true → ∀ j : ℕ,
    itemsKeep j vs = true
  | [], _, _ => rfl
  | v :: vs, h, j =>
    have hvs := Bool.and_eq_true_iff.1 h
    Bool.and_eq_true_iff.2 ⟨keeps_of_hasTexts v hvs.1 j false true, itemsKeep_of_haveTexts vs hvs.2 j⟩

theorem fieldsKeep_of_fieldsHaveTexts :
    (fs : List (String × Value)) → fieldsHaveTexts isSteadyKey isSteady fs = true →
    ∀ j : ℕ, fieldsKeep j fs = true
  | [], _, _ => rfl
  | (k, v) :: fs, h, j => by
    obtain ⟨hv, hfs⟩ := Bool.and_eq_true_iff.1 h
    obtain ⟨hk, hv⟩ := Bool.and_eq_true_iff.1 hv
    exact Bool.and_eq_true_iff.2
      ⟨Bool.and_eq_true_iff.2 ⟨keepsText_of_isSteadyKey hk _ _, keeps_of_hasTexts v hv j true _⟩,
      fieldsKeep_of_fieldsHaveTexts fs hfs j⟩

end

/-- **A map with steady texts is read back.** -/
theorem isKept_of_hasTexts {v : Value} (h : v.hasTexts isSteadyKey isSteady = true) : v.isKept = true := by
  have hlinked := hasTexts_link v h v.repeated []
  rw [isKept]
  split
  · rename_i fs hfs
    rw [← linked, hfs] at hlinked
    exact fieldsKeep_of_fieldsHaveTexts fs hlinked 0
  · rfl

end Value

end ApiContract
