import ApiContract.Proofs.Text.Utf8
import ApiContract.Xml.Reader

/-!
Sources of texts and of their bytes. The bytes of a text are the same source as the text, unless the
text has a declaration with another encoding than UTF-8 (`Source.ofBytes_encode`). That a text cannot be
read is never the fault of an encoding (`Source.ofText_ne_encoding`, `read_ne_encoding`); with bytes it
is only if their declaration names one that bytes cannot be read in (`Source.declared_of_ofBytes`).
-/

namespace ApiContract.Xml

open ApiContract.Text

variable {bytes : List UInt8} {cs : List Char} {s : Source}

namespace Encoding

/-! ### What the first bytes tell -/

lemma sniff_cons_cons {a b : UInt8} {l : List UInt8} (h : a ≠ 0xef ∨ l ≠ []) :
    sniff (a :: b :: l) = if a = 0xfe ∧ b = 0xff then some (utf16 true)
      else if a = 0xff ∧ b = 0xfe then some (utf16 false)
      else if a = 0 then some (utf16 true) else if b = 0 then some (utf16 false) else some utf8 := by
  unfold sniff
  split
  · simp_all
  · simp_all
  · simp_all
  · simp_all
  · rename_i h₁ h₂ _ heq
    cases heq
    simp only [beq_iff_eq, if_neg fun h => h₁ (And.left h) h.2, if_neg fun h => h₂ (And.left h) h.2]
  · simp_all

/-- A character of a single byte is one of ASCII. -/
lemma toNat_lt_of_encodeChar_eq {c : Char} {b : UInt8} (h : encodeChar c = [b]) : b.toNat < 0x80 := by
  by_cases hc : c.toNat < 0x80
  · rw [encodeChar_of_lt hc] at h
    cases h
    rwa [toNat_ofNat_byte (by omega)]
  · unfold encodeChar at h
    simp only [hc, if_false] at h
    split_ifs at h <;> cases h

/-- The first two characters tell as much as the whole text. -/
lemma sniff_encode_take (cs : List Char) : sniff (encode (cs.take 2)) = sniff (encode cs) := by
  match cs with
  | [] => rfl
  | [c] => rfl
  | c :: d :: cs =>
    simp only [List.take_succ_cons, List.take_zero, encode_cons, encode_nil, List.append_nil]
    obtain ⟨b, bs, hb⟩ := List.exists_cons_of_ne_nil (encodeChar_ne_nil d)
    cases hc : encodeChar c with
    | nil => exact absurd hc (encodeChar_ne_nil c)
    | cons a as =>
      cases as with
      | nil =>
        have ha : a ≠ 0xef := by
          rintro rfl
          exact absurd (toNat_lt_of_encodeChar_eq hc) (by decide)
        simp only [hb, List.cons_append, List.nil_append]
        rw [sniff_cons_cons (.inl ha), sniff_cons_cons (.inl ha)]
      | cons a' as =>
        simp only [hb, List.cons_append]
        rw [sniff_cons_cons (.inr (by simp)), sniff_cons_cons (.inr (by simp))]

lemma goOn_utf8 {name : String} (h : lower name = "utf-8") : utf8.goOn name = .ok utf8 := by
  rw [goOn, h]
  rfl

end Encoding

namespace Source

/-! ### The encoding that a declaration names -/

/-- The encoding that bytes begin in, and the name of the one that their declaration has. -/
def declared? (bytes : List UInt8) : Option (Encoding × String) :=
  match Encoding.sniff bytes with
  | none => none
  | some e => match (decode e bytes).readDeclaration with
    | .ok (_, some (name, _)) => some (e, name)
    | _ => none

/-- If bytes have a declaration with an encoding, it is UTF-8, and they begin in it. -/
def KeepsUtf8 (bytes : List UInt8) : Prop :=
  ∀ d ∈ declared? bytes, d.1 = .utf8 ∧ lower d.2 = "utf-8"

instance (bytes : List UInt8) : Decidable (KeepsUtf8 bytes) :=
  inferInstanceAs (Decidable (∀ d ∈ declared? bytes, d.1 = .utf8 ∧ lower d.2 = "utf-8"))

/-- **The bytes of a text are the same source as the text**, unless its declaration names another
encoding than UTF-8. -/
theorem ofBytes_encode (h : KeepsUtf8 (encode cs)) : ofBytes (encode cs) = ofText cs := by
  unfold ofBytes ofText
  unfold KeepsUtf8 declared? at h
  rw [Encoding.sniff_encode_take]
  cases hs : Encoding.sniff (encode cs) with
  | none => rfl
  | some e =>
    rw [hs] at h
    simp only at h ⊢
    cases hd : (decode e (encode cs)).readDeclaration with
    | error f => rfl
    | ok r =>
      obtain ⟨s, _ | ⟨name, place⟩⟩ := r
      · rfl
      · rw [hd] at h
        obtain ⟨rfl, hname⟩ := h (e, name) rfl
        simp only [Encoding.goOn_utf8 hname, switch, if_true]
        rfl

/-! ### Faults of encodings -/

lemma failure_ne_encoding (s : Source) (f : Fault) (g : EncodingFault) :
    s.failure f ≠ .encoding g := by
  cases f <;> exact nofun

lemma readDeclaration_ne_encoding (s : Source) (g : EncodingFault) :
    s.readDeclaration ≠ .error (.encoding g) := by
  unfold readDeclaration
  split
  · exact nofun
  · exact fun h => failure_ne_encoding _ _ g (Except.error.inj h)
  · exact nofun

lemma ofText_ne_encoding (cs : List Char) (g : EncodingFault) :
    ofText cs ≠ .error (.encoding g) := by
  unfold ofText
  split
  · exact nofun
  · rename_i e _
    cases hd : (decode e (encode cs)).readDeclaration with
    | error f =>
      rintro ⟨⟩
      exact readDeclaration_ne_encoding _ g hd
    | ok r => exact nofun

/-- Bytes that cannot be read for their encoding have a declaration that names it. -/
theorem declared_of_ofBytes {g : EncodingFault} (h : ofBytes bytes = .error (.encoding g)) :
    ∃ e name, declared? bytes = some (e, name) ∧ e.goOn name = .error (.fault g) := by
  unfold ofBytes at h
  unfold declared?
  cases hs : Encoding.sniff bytes with
  | none => rw [hs] at h; cases h
  | some e =>
    rw [hs] at h
    simp only at h ⊢
    cases hd : (decode e bytes).readDeclaration with
    | error f =>
      rw [hd] at h
      cases h
      exact absurd hd (readDeclaration_ne_encoding _ g)
    | ok r =>
      obtain ⟨s, _ | ⟨name, place⟩⟩ := r
      · rw [hd] at h; cases h
      · rw [hd] at h
        refine ⟨e, name, rfl, ?_⟩
        simp only at h
        split at h
        · cases h
        · exact absurd (Except.error.inj h) (failure_ne_encoding _ _ g)
        · exact absurd (Except.error.inj h) (failure_ne_encoding _ _ g)
        · rename_i hgoOn
          cases h
          exact hgoOn

end Source

lemma read_ne_encoding (s : Source) (g : EncodingFault) : read s ≠ .error (.encoding g) := by
  unfold read
  cases readDocument s with
  | error f => exact fun h => s.failure_ne_encoding f g (Except.error.inj h)
  | ok root => exact nofun

end ApiContract.Xml
