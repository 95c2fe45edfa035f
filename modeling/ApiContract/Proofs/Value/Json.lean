import ApiContract.Proofs.Except
import ApiContract.Value.Sharing
import ApiContract.Value.Torn

/-!
What keeps a value from being written in JSON. It is the same in every layout (`write_failAlike`) and for
every copy of the value (`write_copied`), and a map or a list is kept from it by one of its parts only. A
torn text keeps a value from having characters but not from having letters, so both ways are looked at
(`FailsOnly`).
-/

namespace ApiContract.Json

variable {d : Depth} {P : Obstacle → Prop} {v : Value}

/-! ### Layouts -/

mutual

/-- **A value that cannot be written in one layout cannot be written in any other.** -/
theorem write_failAlike (d d' : Depth) : (v : Value) → FailAlike (write d v) (write d' v)
  | .null | .bool true | .bool false | .real _ | .str _ => by
    simp only [write]
    exact failAlike_ok _ _
  | .int n => by
    simp only [write]
    exact fun _ => .rfl
  | .bytes _ | .date _ | .moment _ _ | .set _ | .again _ _ | .torn _ => fun _ => .rfl
  | .list items => by
    simp only [write]
    exact (writeItems_failAlike d.next d'.next items).map _ _
  | .map fields => by
    simp only [write]
    exact (writeFields_failAlike d.next d'.next fields).map _ _
  | .pair a b => by
    simp only [write]
    exact (write_failAlike d.next d'.next a).bind fun _ _ =>
      (write_failAlike d.next d'.next b).bind fun _ _ => failAlike_ok _ _
  | .table entries => by
    simp only [write]
    exact (writeEntries_failAlike d.next d'.next entries).map _ _
  | .shared _ v => by
    simp only [write]
    exact write_failAlike d d' v

theorem writeItems_failAlike (d d' : Depth) :
    (vs : List Value) → FailAlike (writeItems d vs) (writeItems d' vs)
  | [] => failAlike_ok _ _
  | v :: vs => by
    simp only [writeItems]
    exact (write_failAlike d d' v).bind fun _ _ =>
      (writeItems_failAlike d d' vs).bind fun _ _ => failAlike_ok _ _

theorem writeFields_failAlike (d d' : Depth) :
    (fs : List (String × Value)) → FailAlike (writeFields d fs) (writeFields d' fs)
  | [] => failAlike_ok _ _
  | (_, v) :: fs => by
    simp only [writeFields]
    exact (write_failAlike d d' v).bind fun _ _ =>
      (writeFields_failAlike d d' fs).bind fun _ _ => failAlike_ok _ _

theorem writeEntries_failAlike (d d' : Depth) :
    (es : List (Value × Value)) → FailAlike (writeEntries d es) (writeEntries d' es)
  | [] => failAlike_ok _ _
  | (k, v) :: es => by
    simp only [writeEntries]
    cases keyText k with
    | error o => exact fun _ => .rfl
    | ok key =>
      exact (write_failAlike d d' v).bind fun _ _ =>
        (writeEntries_failAlike d d' es).bind fun _ _ => failAlike_ok _ _

end

/-! ### Copies -/

lemma keyText_copied (n : Nat) : (v : Value) → keyText (v.copied n) = keyText v
  | .null | .bool _ | .int _ | .real _ | .str _ | .list _ | .map _ | .bytes _ | .date _
  | .moment _ _ | .set _ | .pair _ _ | .table _ | .again _ _ | .torn _ => rfl
  | .shared _ v => by
    simp only [Value.copied, keyText]
    exact keyText_copied n v

mutual

/-- **A copy of a value is written as the value is.** -/
theorem write_copied (n : Nat) (d : Depth) : (v : Value) → write d (v.copied n) = write d v
  | .null | .bool _ | .int _ | .real _ | .str _ | .bytes _ | .date _ | .moment _ _ | .set _
  | .again _ _ | .torn _ => rfl
  | .list items => by
    simp only [Value.copied, write, writeItems_copied n d.next items]
  | .map fields => by
    simp only [Value.copied, write, writeFields_copied n d.next fields]
  | .pair a b => by
    simp only [Value.copied, write, write_copied n d.next a, write_copied n d.next b]
  | .table entries => by
    simp only [Value.copied, write, writeEntries_copied n d.next entries]
  | .shared _ v => by
    simp only [Value.copied, write, write_copied n d v]

theorem writeItems_copied (n : Nat) (d : Depth) :
    (vs : List Value) → writeItems d (Value.copiedAll n vs) = writeItems d vs
  | [] => rfl
  | v :: vs => by
    simp only [Value.copiedAll, writeItems, write_copied n d v, writeItems_copied n d vs]

theorem writeFields_copied (n : Nat) (d : Depth) :
    (fs : List (String × Value)) → writeFields d (Value.copiedFields n fs) = writeFields d fs
  | [] => rfl
  | (_, v) :: fs => by
    simp only [Value.copiedFields, writeFields, write_copied n d v, writeFields_copied n d fs]

theorem writeEntries_copied (n : Nat) (d : Depth) :
    (es : List (Value × Value)) → writeEntries d (Value.copiedEntries n es) = writeEntries d es
  | [] => rfl
  | (k, v) :: es => by
    simp only [Value.copiedEntries, writeEntries, keyText_copied n k, write_copied n d v,
      writeEntries_copied n d es]

end

lemma filledAll_eq_map (f : Text.Surrogate → Char) (vs : List Value) :
    Value.filledAll f vs = vs.map (Value.filled f) := by
  induction vs with
  | nil => rfl
  | cons v vs ih => rw [Value.filledAll, ih, List.map_cons]

lemma filledFields_eq_map (f : Text.Surrogate → Char) (fs : List (String × Value)) :
    Value.filledFields f fs = fs.map fun e => (e.1, e.2.filled f) := by
  induction fs with
  | nil => rfl
  | cons e fs ih => rw [Value.filledFields, ih, List.map_cons]

lemma isAtom_filled (f : Text.Surrogate → Char) (v : Value) : (v.filled f).isAtom = v.isAtom := by
  cases v <;> rfl

lemma isFixed_filled (f : Text.Surrogate → Char) (v : Value) : (v.filled f).isFixed = v.isFixed := by
  cases v with
  | pair a b => simp only [Value.filled, Value.isFixed, isAtom_filled]
  | _ => rfl

mutual

/-- Torn texts are filled in a copy as they are in the value. -/
theorem filled_copied (f : Text.Surrogate → Char) (n : Nat) : (v : Value) →
    (v.copied n).filled f = (v.filled f).copied n
  | .null | .bool _ | .int _ | .real _ | .str _ | .bytes _ | .date _ | .moment _ _ | .again _ _
  | .torn _ => rfl
  | .list items => by
    simp only [Value.copied, Value.filled, filledAll_copied f n items]
  | .map fields => by
    simp only [Value.copied, Value.filled, filledFields_copied f n fields]
  | .set items => by
    simp only [Value.copied, Value.filled, filledAll_copied f n items]
  | .pair a b => by
    simp only [Value.copied, Value.filled, filled_copied f n a, filled_copied f n b]
  | .table entries => by
    simp only [Value.copied, Value.filled, filledEntries_copied f n entries]
  | .shared _ v => by
    simp only [Value.copied, Value.filled, filled_copied f n v, isFixed_filled f v]

theorem filledAll_copied (f : Text.Surrogate → Char) (n : Nat) : (vs : List Value) →
    Value.filledAll f (Value.copiedAll n vs) = Value.copiedAll n (Value.filledAll f vs)
  | [] => rfl
  | v :: vs => by
    simp only [Value.copiedAll, Value.filledAll, filled_copied f n v, filledAll_copied f n vs]

theorem filledFields_copied (f : Text.Surrogate → Char) (n : Nat) : (fs : List (String × Value)) →
    Value.filledFields f (Value.copiedFields n fs) = Value.copiedFields n (Value.filledFields f fs)
  | [] => rfl
  | (_, v) :: fs => by
    simp only [Value.copiedFields, Value.filledFields, filled_copied f n v, filledFields_copied f n fs]

theorem filledEntries_copied (f : Text.Surrogate → Char) (n : Nat) : (es : List (Value × Value)) →
    Value.filledEntries f (Value.copiedEntries n es) = Value.copiedEntries n (Value.filledEntries f es)
  | [] => rfl
  | (k, v) :: es => by
    simp only [Value.copiedEntries, Value.filledEntries, filled_copied f n k, filled_copied f n v,
      filledEntries_copied f n es]

end

/-! ### Parts -/

/-- What keeps a value from being written satisfies `P`: as it is, or with characters in the place of
surrogates. -/
structure FailsOnly (P : Obstacle → Prop) (v : Value) : Prop where
  whole : ∀ d o, write d v = .error o → P o
  filled : ∀ f d o, write d (v.filled f) = .error o → P o

lemma FailsOnly.mono {Q : Obstacle → Prop} (h : FailsOnly P v) (hpq : ∀ o, P o → Q o) : FailsOnly Q v :=
  ⟨fun d o ho => hpq o (h.whole d o ho), fun f d o ho => hpq o (h.filled f d o ho)⟩

lemma FailsOnly.str (s : String) : FailsOnly P (.str s) := ⟨fun _ _ => nofun, fun _ _ _ => nofun⟩

lemma FailsOnly.bool (b : Bool) : FailsOnly P (.bool b) := by
  cases b <;> exact ⟨fun _ _ => nofun, fun _ _ _ => nofun⟩

lemma FailsOnly.shared {id : Identity} (h : FailsOnly P v) : FailsOnly P (.shared id v) :=
  ⟨h.whole, h.filled⟩

lemma FailsOnly.copied (h : FailsOnly P v) (n : Nat) : FailsOnly P (v.copied n) := by
  refine ⟨fun d o ho => ?_, fun f d o ho => ?_⟩
  · rw [write_copied] at ho
    exact h.whole d o ho
  · rw [filled_copied, write_copied] at ho
    exact h.filled f d o ho

lemma of_writeItems_eq_error {vs : List Value} {o : Obstacle}
    (h : ∀ v ∈ vs, ∀ d o, write d v = .error o → P o) (ho : writeItems d vs = .error o) : P o := by
  induction vs with
  | nil => cases ho
  | cons v vs ih =>
    simp only [writeItems] at ho
    rcases bind_eq_error_iff.1 ho with hv | ⟨x, -, ho⟩
    · exact h v List.mem_cons_self d o hv
    · rcases bind_eq_error_iff.1 ho with hvs | ⟨xs, -, ho⟩
      · exact ih (fun v hv => h v (List.mem_cons_of_mem _ hv)) hvs
      · cases ho

lemma FailsOnly.list {vs : List Value} (h : ∀ v ∈ vs, FailsOnly P v) : FailsOnly P (.list vs) := by
  refine ⟨fun d o ho => ?_, fun f d o ho => ?_⟩
  · simp only [write] at ho
    exact of_writeItems_eq_error (fun v hv => (h v hv).whole) (map_eq_error_iff.1 ho)
  · simp only [Value.filled, write, filledAll_eq_map] at ho
    exact of_writeItems_eq_error (List.forall_mem_map.2 fun v hv => (h v hv).filled f)
      (map_eq_error_iff.1 ho)

lemma of_writeFields_eq_error {fs : List (String × Value)} {o : Obstacle}
    (h : ∀ e ∈ fs, ∀ d o, write d e.2 = .error o → P o) (ho : writeFields d fs = .error o) : P o := by
  induction fs with
  | nil => cases ho
  | cons e fs ih =>
    simp only [writeFields] at ho
    rcases bind_eq_error_iff.1 ho with hv | ⟨x, -, ho⟩
    · exact h e List.mem_cons_self d o hv
    · rcases bind_eq_error_iff.1 ho with hfs | ⟨xs, -, ho⟩
      · exact ih (fun e he => h e (List.mem_cons_of_mem _ he)) hfs
      · cases ho

lemma FailsOnly.map {fs : List (String × Value)} (h : ∀ e ∈ fs, FailsOnly P e.2) :
    FailsOnly P (.map fs) := by
  refine ⟨fun d o ho => ?_, fun f d o ho => ?_⟩
  · simp only [write] at ho
    exact of_writeFields_eq_error (fun e he => (h e he).whole) (map_eq_error_iff.1 ho)
  · simp only [Value.filled, write, filledFields_eq_map] at ho
    exact of_writeFields_eq_error (List.forall_mem_map.2 fun e he => (h e he).filled f)
      (map_eq_error_iff.1 ho)

/-! ### Obstacles -/

end ApiContract.Json
