import ApiContract.Proofs.Fields
import ApiContract.Proofs.Value.Json
import ApiContract.Proofs.Value.JsonReading

/-!
Writing JSON by its grammar. A value of JSON without fractions (`Value.isJson`) can be written unless one of
its whole numbers is too long (`failsOnly_of_isJson`), and in every layout its text stands for the value
(`spells_write`). What is written for it is therefore read as the value again.
-/

namespace ApiContract

/-! ### Values of JSON -/

namespace Value

mutual

/-- The value apart from all identities. -/
def erased : Value → Value
  | list vs => list (erasedAll vs)
  | map fs => map (erasedFields fs)
  | set vs => set (erasedAll vs)
  | pair a b => pair a.erased b.erased
  | table es => table (erasedEntries es)
  | shared _ v => v.erased
  | v => v

/-- Values apart from all identities. -/
def erasedAll : List Value → List Value
  | [] => []
  | v :: vs => v.erased :: erasedAll vs

/-- Fields apart from all identities. -/
def erasedFields : List (String × Value) → List (String × Value)
  | [] => []
  | (k, v) :: fs => (k, v.erased) :: erasedFields fs

/-- Entries apart from all identities. -/
def erasedEntries : List (Value × Value) → List (Value × Value)
  | [] => []
  | (k, v) :: es => (k.erased, v.erased) :: erasedEntries es

end

mutual

/-- Whether a value is one of JSON without fractions. The whole numbers in it satisfy `p`, and things that are
in several places may be in it if `shares` says so. -/
def isJson (p : ℤ → Bool) (shares : Bool) : Value → Bool
  | null | bool _ | str _ => true
  | int n => p n
  | list vs => areJson p shares vs
  | map fs => decide (keys fs).Nodup && fieldsAreJson p shares fs
  | shared _ v => shares && v.isJson p shares
  | _ => false

/-- Whether values are ones of JSON. -/
def areJson (p : ℤ → Bool) (shares : Bool) : List Value → Bool
  | [] => true
  | v :: vs => v.isJson p shares && areJson p shares vs

/-- Whether the values of fields are ones of JSON. -/
def fieldsAreJson (p : ℤ → Bool) (shares : Bool) : List (String × Value) → Bool
  | [] => true
  | (_, v) :: fs => v.isJson p shares && fieldsAreJson p shares fs

end

variable {p : ℤ → Bool} {shares : Bool}

lemma areJson_iff {vs : List Value} : areJson p shares vs = true ↔ ∀ v ∈ vs, v.isJson p shares = true := by
  induction vs with
  | nil => exact iff_of_true rfl nofun
  | cons v vs ih => rw [areJson, Bool.and_eq_true, ih, List.forall_mem_cons]

lemma fieldsAreJson_iff {fs : List (String × Value)} :
    fieldsAreJson p shares fs = true ↔ ∀ f ∈ fs, f.2.isJson p shares = true := by
  induction fs with
  | nil => exact iff_of_true rfl nofun
  | cons f fs ih => rw [fieldsAreJson, Bool.and_eq_true, ih, List.forall_mem_cons]

lemma isJson_list {vs : List Value} (h : ∀ v ∈ vs, v.isJson p shares = true) :
    (list vs).isJson p shares = true :=
  areJson_iff.2 h

lemma isJson_map {fs : List (String × Value)} (hkeys : (keys fs).Nodup)
    (h : ∀ f ∈ fs, f.2.isJson p shares = true) : (map fs).isJson p shares = true :=
  Bool.and_eq_true_iff.2 ⟨decide_eq_true hkeys, fieldsAreJson_iff.2 h⟩

lemma keys_copiedFields (n : ℕ) (fs : List (String × Value)) : keys (copiedFields n fs) = keys fs := by
  induction fs with
  | nil => rfl
  | cons f fs ih => rw [copiedFields, keys_cons, keys_cons, ih]

mutual

/-- A copy of a value of JSON is one of JSON. -/
theorem isJson_copied (n : ℕ) : (v : Value) → (v.copied n).isJson p shares = v.isJson p shares
  | null | bool _ | int _ | real _ | str _ | bytes _ | date _ | moment _ _ | set _ | pair _ _ | table _
  | again _ _ | torn _ => rfl
  | list vs => by
    simp only [copied, isJson]
    exact areJson_copiedAll n vs
  | map fs => by
    simp only [copied, isJson, keys_copiedFields, fieldsAreJson_copiedFields n fs]
  | shared _ v => by
    simp only [copied, isJson, isJson_copied n v]

theorem areJson_copiedAll (n : ℕ) : (vs : List Value) →
    areJson p shares (copiedAll n vs) = areJson p shares vs
  | [] => rfl
  | v :: vs => by
    simp only [copiedAll, areJson, isJson_copied n v, areJson_copiedAll n vs]

theorem fieldsAreJson_copiedFields (n : ℕ) : (fs : List (String × Value)) →
    fieldsAreJson p shares (copiedFields n fs) = fieldsAreJson p shares fs
  | [] => rfl
  | (_, v) :: fs => by
    simp only [copiedFields, fieldsAreJson, isJson_copied n v, fieldsAreJson_copiedFields n fs]

end

mutual

/-- A value in which nothing is in several places has no identities to lose. -/
theorem erased_of_isJson : (v : Value) → v.isJson p false = true → v.erased = v
  | null, _ | bool _, _ | int _, _ | real _, _ | str _, _ | bytes _, _ | date _, _ | moment _ _, _
  | again _ _, _ => rfl
  | list vs, h => by
    simp only [erased, erasedAll_of_areJson vs h]
  | map fs, h => by
    simp only [erased, erasedFields_of_fieldsAreJson fs (Bool.and_eq_true_iff.1 h).2]
  | shared _ v, h => by
    simp only [isJson, Bool.false_and, Bool.false_eq_true] at h
  | set _, h | pair _ _, h | table _, h => by
    simp only [isJson, Bool.false_eq_true] at h

theorem erasedAll_of_areJson : (vs : List Value) → areJson p false vs = true → erasedAll vs = vs
  | [], _ => rfl
  | v :: vs, h => by
    obtain ⟨hv, hvs⟩ := Bool.and_eq_true_iff.1 h
    rw [erasedAll, erased_of_isJson v hv, erasedAll_of_areJson vs hvs]

theorem erasedFields_of_fieldsAreJson : (fs : List (String × Value)) → fieldsAreJson p false fs = true →
    erasedFields fs = fs
  | [], _ => rfl
  | (_, v) :: fs, h => by
    obtain ⟨hv, hfs⟩ := Bool.and_eq_true_iff.1 h
    rw [erasedFields, erased_of_isJson v hv, erasedFields_of_fieldsAreJson fs hfs]

end

end Value

namespace Json

open ApiContract.Number ApiContract.Text

variable {p : ℤ → Bool} {shares : Bool}

/-! ### Texts and numbers -/

lemma spellsUnit_hex {n : ℕ} (h : n < 0x10000) : SpellsUnit n ('\\' :: 'u' :: hex 4 n) := by
  have hdigit : ∀ m, IsHexDigit (m % 16) (hexDigit (m % 16)) := fun m =>
    ⟨Nat.mod_lt m (by decide), .inl rfl⟩
  have hunit := SpellsUnit.mk (hdigit (n / 16 / 16 / 16)) (hdigit (n / 16 / 16)) (hdigit (n / 16)) (hdigit n)
  have hn : n / 16 / 16 / 16 % 16 * 4096 + n / 16 / 16 % 16 * 256 + n / 16 % 16 * 16 + n % 16 = n := by omega
  rw [hn] at hunit
  exact hunit

lemma escapeChar_cases (c : Char) :
    (∃ x, (x, c) ∈ shortEscapes ∧ escapeChar c = ['\\', x]) ∨
      (c.toNat < 0x20 ∧ escapeChar c = '\\' :: 'u' :: hex 4 c.toNat) ∨
      0x20 ≤ c.toNat ∧ c ≠ '"' ∧ c ≠ '\\' ∧ escapeChar c = [c] := by
  unfold escapeChar
  simp only [beq_iff_eq]
  split_ifs with h₁ h₂ h₃ h₄ h₅ h₆ h₇ h₈
  · exact .inl ⟨'"', by simp [h₁, shortEscapes], rfl⟩
  · exact .inl ⟨'\\', by simp [h₂, shortEscapes], rfl⟩
  · exact .inl ⟨'n', by simp [h₃, shortEscapes], rfl⟩
  · exact .inl ⟨'r', by simp [h₄, shortEscapes], rfl⟩
  · exact .inl ⟨'t', by simp [h₅, shortEscapes], rfl⟩
  · exact .inl ⟨'b', by simp [h₆, shortEscapes], rfl⟩
  · exact .inl ⟨'f', by simp [h₇, shortEscapes], rfl⟩
  · exact .inr (.inl ⟨h₈, rfl⟩)
  · exact .inr (.inr ⟨not_lt.1 h₈, h₁, h₂, rfl⟩)

/-- What is written for a text stands for it. -/
lemma spellsText_flatMap (s : List Char) : SpellsText s (s.flatMap escapeChar) := by
  induction s with
  | nil => exact .nil
  | cons c s ih =>
    rw [List.flatMap_cons]
    obtain ⟨x, hx, hc⟩ | ⟨hlt, hc⟩ | ⟨hle, hquote, hslash, hc⟩ := escapeChar_cases c
    · rw [hc]
      exact .short hx ih
    · rw [hc]
      exact .unit (spellsUnit_hex (by omega)) ih
    · rw [hc]
      exact .plain hle hquote hslash ih

/-- The digits of a number do not begin with a zero. -/
lemma head?_toDigits {n : ℕ} (h : 0 < n) : (Nat.toDigits 10 n).head? ≠ some '0' := by
  induction n using Nat.strong_induction_on with
  | _ n ih =>
    by_cases hn : n < 10
    · have hall : ∀ m < 10, 0 < m → (Nat.toDigits 10 m).head? ≠ some '0' := by decide
      exact hall n hn h
    · obtain ⟨c, cs, hcs⟩ := List.exists_cons_of_ne_nil (Nat.toDigits_ne_nil (n := n / 10) (b := 10))
      have hdiv := ih (n / 10) (by omega) (by omega)
      rw [Nat.toDigits_of_base_le (by decide) (not_lt.1 hn), hcs, List.cons_append, List.head?_cons]
      rwa [hcs, List.head?_cons] at hdiv

lemma isWhole_toDigits (n : ℕ) : IsWhole (Nat.toDigits 10 n) := by
  refine ⟨⟨Nat.toDigits_ne_nil, fun c hc => Nat.isDigit_of_mem_toDigits (by decide) le_rfl hc⟩, ?_⟩
  rcases Nat.eq_zero_or_pos n with rfl | hn
  · exact .inl rfl
  · exact .inr (head?_toDigits hn)

/-- What is written for a whole number stands for it. -/
lemma spellsNumber_intText (n : ℤ) : SpellsNumber (.int n) (intText n).toList := by
  cases n with
  | ofNat n =>
    have hwhole := SpellsNumber.whole false (isWhole_toDigits n)
    rw [Nat.ofDigitChars_ten_toDigits] at hwhole
    rw [intText, Nat.toList_repr]
    exact hwhole
  | negSucc n =>
    have hwhole := SpellsNumber.whole true (isWhole_toDigits (n + 1))
    rw [Nat.ofDigitChars_ten_toDigits] at hwhole
    rw [intText, String.toList_append, Nat.toList_repr]
    exact hwhole

lemma eq_intText_of_int {n : ℤ} {s : String} (h : int n = .ok s) : s = intText n := by
  unfold int at h
  generalize isLong n = b at h
  cases b <;> cases h
  rfl

/-! ### Values -/

lemma all_isSpace_newline (d : Depth) : (newline d).all isSpace := by
  cases d with
  | none => rfl
  | some n => simp [newline, isSpace]

lemma text_append_colon (k : String) (d : Depth) : ∃ w, w.all isSpace ∧ ∀ cs : List Char,
    text k ++ colon d ++ cs = '"' :: (k.toList.flatMap escapeChar ++ '"' :: ([] ++ ':' :: (w ++ cs))) := by
  cases d with
  | none => exact ⟨[], rfl, fun cs => by simp [text, colon]⟩
  | some n => exact ⟨[' '], rfl, fun cs => by simp [text, colon]⟩

section Rows

variable {α : Type} (row : List α → List Char → Prop) {item : α → List Char → Prop}

/-- What stands between brackets is a row of items, if spaces around an item make a row of one item and a comma
makes one row of two. -/
lemma exists_row_of_bracketed
    (one : ∀ {a w cs w'}, w.all isSpace → item a cs → w'.all isSpace → row [a] (w ++ (cs ++ w')))
    (more : ∀ {as bs cs ds}, row as cs → row bs ds → row (as ++ bs) (cs ++ ',' :: ds))
    (d : Depth) {as : List α} {xs : List (List Char)} (h : List.Forall₂ item as xs)
    (opening closing : Char) : as = [] ∧ bracketed d opening closing xs = [opening, closing] ∨
      ∃ cs, row as cs ∧ bracketed d opening closing xs = opening :: (cs ++ [closing]) := by
  have hrow : ∀ {a as x xs}, item a x → List.Forall₂ item as xs → row (a :: as)
      (newline d.next ++ x ++ xs.flatMap (fun i => ',' :: newline d.next ++ i) ++ newline d) := by
    intro a as x xs hx h
    induction h generalizing a x with
    | nil =>
      rw [List.flatMap_nil, List.append_nil, List.append_assoc]
      exact one (all_isSpace_newline _) hx (all_isSpace_newline d)
    | cons hy _ ih =>
      have hone : row [a] (newline d.next ++ (x ++ [])) := one (all_isSpace_newline d.next) hx rfl
      rw [List.append_nil] at hone
      simpa using more hone (ih hy)
  cases h with
  | nil => exact .inl ⟨rfl, rfl⟩
  | cons hx h => exact .inr ⟨_, hrow hx h, by rw [bracketed]; simp⟩

end Rows

/-- A field is written as its key and what stands for its value. -/
def IsField (f : String × Value) (cs : List Char) : Prop :=
  ∃ d x, Spells (.value f.2) x ∧ cs = text f.1 ++ colon d ++ x

lemma spells_field {f : String × Value} {w cs w' : List Char} (hw : w.all isSpace) (h : IsField f cs)
    (hw' : w'.all isSpace) : Spells (.fields [f]) (w ++ (cs ++ w')) := by
  obtain ⟨k, v⟩ := f
  obtain ⟨d, x, hx, rfl⟩ := h
  obtain ⟨w₂, hw₂, htext⟩ := text_append_colon k d
  have hfield : Spells (.fields [(String.ofList k.toList, v)])
      (w ++ ('"' :: (k.toList.flatMap escapeChar ++ '"' :: ([] ++ ':' :: (w₂ ++ (x ++ w')))))) :=
    .field hw (spellsText_flatMap k.toList) rfl hw₂ hx hw'
  rw [String.ofList_toList] at hfield
  rw [htext]
  simpa using hfield

lemma keys_erasedFields (fs : List (String × Value)) : keys (Value.erasedFields fs) = keys fs := by
  induction fs with
  | nil => rfl
  | cons f fs ih =>
    rw [Value.erasedFields, keys_cons, keys_cons, ih]

mutual

/-- **The text of a value of JSON stands for the value.** -/
theorem spells_write (d : Depth) : (v : Value) → v.isJson p shares = true → ∀ cs, write d v = .ok cs →
    Spells (.value v.erased) cs
  | .null => by
    rintro - _ ⟨⟩
    exact .null
  | .bool true => by
    rintro - _ ⟨⟩
    exact .yes
  | .bool false => by
    rintro - _ ⟨⟩
    exact .no
  | .int n => by
    intro _ cs h
    simp only [write] at h
    obtain ⟨s, hs, rfl⟩ := map_eq_ok_iff.1 h
    rw [eq_intText_of_int hs]
    exact .number (spellsNumber_intText n)
  | .str s => by
    rintro - _ ⟨⟩
    have htext := Spells.text (spellsText_flatMap s.toList)
    rwa [String.ofList_toList] at htext
  | .list vs => by
    intro hv cs h
    simp only [write] at h
    obtain ⟨xs, hxs, rfl⟩ := map_eq_ok_iff.1 h
    have hitems := spells_writeItems d.next vs hv xs hxs
    simp only [Value.erased]
    obtain ⟨hnil, hcs⟩ | ⟨cs, hrow, hcs⟩ := exists_row_of_bracketed (fun vs => Spells (.items vs))
      (fun hw h hw' => .item hw h hw') (fun h h' => .moreItems h h') d hitems '[' ']'
    · rw [hnil, hcs]
      exact .emptyList (w := []) rfl
    · rw [hcs]
      exact .list hrow
  | .map fs => by
    intro hv cs h
    obtain ⟨hkeys, hfs⟩ := Bool.and_eq_true_iff.1 hv
    have hkeys := of_decide_eq_true hkeys
    simp only [write] at h
    obtain ⟨xs, hxs, rfl⟩ := map_eq_ok_iff.1 h
    have hfields := spells_writeFields d.next fs hfs xs hxs
    simp only [Value.erased]
    obtain ⟨hnil, hcs⟩ | ⟨cs, hrow, hcs⟩ := exists_row_of_bracketed (fun fs => Spells (.fields fs))
      spells_field (fun h h' => .moreFields h h') d hfields '\x7b' '\x7d'
    · rw [hnil, hcs]
      exact .emptyMap (w := []) rfl
    · rw [← keys_erasedFields] at hkeys
      rw [hcs, ← fieldsOf_of_nodup hkeys]
      exact .map hrow
  | .shared _ v => by
    intro hv cs h
    simp only [write] at h
    exact spells_write d v (Bool.and_eq_true_iff.1 hv).2 cs h
  | .real _ | .bytes _ | .date _ | .moment _ _ | .set _ | .pair _ _ | .table _ | .again _ _ | .torn _ => by
    intro hv
    simp only [Value.isJson, Bool.false_eq_true] at hv

theorem spells_writeItems (d : Depth) : (vs : List Value) → Value.areJson p shares vs = true →
    ∀ xs, writeItems d vs = .ok xs → List.Forall₂ (fun v => Spells (.value v)) (Value.erasedAll vs) xs
  | [] => by
    rintro - _ ⟨⟩
    exact .nil
  | v :: vs => by
    intro hv xs h
    obtain ⟨hv, hvs⟩ := Bool.and_eq_true_iff.1 hv
    simp only [writeItems] at h
    obtain ⟨x, hx, h⟩ := bind_eq_ok_iff.1 h
    obtain ⟨xs, hxs, h⟩ := bind_eq_ok_iff.1 h
    cases h
    exact .cons (spells_write d v hv x hx) (spells_writeItems d vs hvs xs hxs)

theorem spells_writeFields (d : Depth) : (fs : List (String × Value)) → Value.fieldsAreJson p shares fs = true →
    ∀ xs, writeFields d fs = .ok xs → List.Forall₂ IsField (Value.erasedFields fs) xs
  | [] => by
    rintro - _ ⟨⟩
    exact .nil
  | (k, v) :: fs => by
    intro hv xs h
    obtain ⟨hv, hfs⟩ := Bool.and_eq_true_iff.1 hv
    simp only [writeFields] at h
    obtain ⟨x, hx, h⟩ := bind_eq_ok_iff.1 h
    obtain ⟨xs, hxs, h⟩ := bind_eq_ok_iff.1 h
    cases h
    exact .cons ⟨d, x, spells_write d v hv x hx, rfl⟩ (spells_writeFields d fs hfs xs hxs)

end

/-! ### What can be written -/

/-- Why a value of JSON cannot be written: a whole number that satisfies `p` is too long. -/
def IsTooLong (p : ℤ → Bool) (o : Obstacle) : Prop := o = .longInt ∧ ∃ n, p n = true ∧ isLong n = true

mutual

/-- **Only a number that is too long keeps a value of JSON from being written.** -/
theorem failsOnly_of_isJson : (v : Value) → v.isJson p shares = true → FailsOnly (IsTooLong p) v
  | .null => fun _ => ⟨fun _ _ => nofun, fun _ _ _ => nofun⟩
  | .bool b => fun _ => .bool b
  | .int n => by
    intro hn
    have hlong : ∀ d o, write d (.int n) = .error o → IsTooLong p o := by
      intro d o ho
      simp only [write] at ho
      have ho := map_eq_error_iff.1 ho
      unfold int at ho
      cases hl : isLong n with
      | true =>
        rw [hl] at ho
        cases ho
        exact ⟨rfl, n, hn, hl⟩
      | false =>
        rw [hl] at ho
        cases ho
    exact ⟨hlong, fun _ => hlong⟩
  | .str s => fun _ => .str s
  | .list vs => fun h => .list (failsOnly_of_areJson vs h)
  | .map fs => fun h => .map (failsOnly_of_fieldsAreJson fs (Bool.and_eq_true_iff.1 h).2)
  | .shared _ v => fun h => .shared (failsOnly_of_isJson v (Bool.and_eq_true_iff.1 h).2)
  | .real _ | .bytes _ | .date _ | .moment _ _ | .set _ | .pair _ _ | .table _ | .again _ _ | .torn _ => by
    intro h
    simp only [Value.isJson, Bool.false_eq_true] at h

theorem failsOnly_of_areJson : (vs : List Value) → Value.areJson p shares vs = true →
    ∀ v ∈ vs, FailsOnly (IsTooLong p) v
  | [] => fun _ => nofun
  | v :: vs => by
    intro h
    obtain ⟨hv, hvs⟩ := Bool.and_eq_true_iff.1 h
    exact List.forall_mem_cons.2 ⟨failsOnly_of_isJson v hv, failsOnly_of_areJson vs hvs⟩

theorem failsOnly_of_fieldsAreJson : (fs : List (String × Value)) →
    Value.fieldsAreJson p shares fs = true → ∀ f ∈ fs, FailsOnly (IsTooLong p) f.2
  | [] => fun _ => nofun
  | (_, v) :: fs => by
    intro h
    obtain ⟨hv, hfs⟩ := Bool.and_eq_true_iff.1 h
    exact List.forall_mem_cons.2 ⟨failsOnly_of_isJson v hv, failsOnly_of_fieldsAreJson fs hfs⟩

end

end Json

end ApiContract
