import ApiContract.Proofs.Xml.Ends
import ApiContract.Proofs.Xml.Source

/-!
The ends of texts that are decoded. A blank that is none of ASCII stays a character of its own at the
beginning of a text, and it spoils the end of one, whatever the text is taken for. No document begins or
ends so (`readDocument_ne_ok_of_isOddBlank`).
-/

namespace ApiContract.Xml

open ApiContract.Text

variable {e : Encoding} {c : Char} {cs : List Char} {s s' : Source}

/-! ### Blanks that are none of ASCII -/

lemma toNat_of_isSpace (h : isSpace c = true) :
    c.toNat = 0x20 ∨ c.toNat = 0x09 ∨ c.toNat = 0x0a ∨ c.toNat = 0x0d := by
  simp only [isSpace, Bool.or_eq_true, beq_iff_eq] at h
  rcases h with ((rfl | rfl) | rfl) | rfl <;> decide

/-- Nothing may stand for such a blank where a document begins or ends. -/
lemma apart_of_isOddBlank (h : isOddBlank c = true) :
    ¬(c = '<' ∨ isSpace c = true) ∧ ¬(c = '>' ∨ isSpace c = true) ∧ c ≠ byteOrderMark := by
  have hn := toNat_of_isOddBlank h
  have hspace : isSpace c ≠ true := by
    intro hc
    have := toNat_of_isSpace hc
    omega
  refine ⟨?_, ?_, ?_⟩
  · rintro (rfl | hc)
    · exact absurd hn (by decide)
    · exact hspace hc
  · rintro (rfl | hc)
    · exact absurd hn (by decide)
    · exact hspace hc
  · rintro rfl
    exact absurd hn (by decide)

namespace Encoding

/-! ### Bytes of UTF-8 -/

lemma decodeUtf8_encodeChar (c : Char) : ∃ shown, (isAllowed c = true ∨ c.toNat < 128 → shown = [c]) ∧
    ∀ bytes, decodeUtf8 (encodeChar c ++ bytes) = shown ++ decodeUtf8 bytes := by
  obtain ⟨lead, tail, hc, hpiece⟩ := firstPiece_encodeChar c
  have hchar := hpiece []
  rw [List.append_nil] at hchar
  have hlength : tailLength lead = tail.length := by
    rw [firstPiece] at hchar
    split at hchar
    · cases hchar
    · rename_i n hn
      simp only at hchar
      split at hchar
      · rw [← (Prod.mk.inj hchar).2, tailLength, if_neg, hn, Option.getD_some]
        rintro hlead
        rcases Bool.or_eq_true_iff.1 hlead with hlead | hlead <;> rw [beq_iff_eq.1 hlead] at hn <;>
          cases hn
      · cases hchar
  refine ⟨sequence lead tail, fun hallowed => ?_, fun bytes => ?_⟩
  · simp only [sequence, hchar, hallowed, if_true]
  · rw [hc, List.cons_append, decodeUtf8]
    simp only [hlength, List.take_left, lt_irrefl, if_false, List.drop_left]

lemma exists_decodeUtf8_append (cs : List Char) (bytes : List UInt8) :
    ∃ w, decodeUtf8 (encode cs ++ bytes) = w ++ decodeUtf8 bytes := by
  induction cs with
  | nil => exact ⟨[], rfl⟩
  | cons c cs ih =>
    obtain ⟨w, hw⟩ := ih
    obtain ⟨shown, -, hshown⟩ := decodeUtf8_encodeChar c
    exact ⟨shown ++ w, by rw [encode_cons, List.append_assoc, hshown, hw, List.append_assoc]⟩

lemma sniff_cases {bytes : List UInt8} (h : sniff bytes = some e) :
    e = utf8 ∨ ∃ big, e = utf16 big := by
  unfold sniff at h
  repeat' split at h
  all_goals cases h
  all_goals first | exact .inl rfl | exact .inr ⟨_, rfl⟩

/-! ### Units of sixteen bits -/

lemma toNat_ofNat (n : ℕ) : (Char.ofNat n).toNat = if n.isValidChar then n else 0 := by
  by_cases h : n.isValidChar
  · rw [if_pos h, Char.ofNat, dif_pos h]
    rfl
  · rw [if_neg h, Char.ofNat, dif_neg h]
    rfl

lemma decodeUnits_eq_nil {us : List ℕ} (h : decodeUnits us = []) : us = [] := by
  unfold decodeUnits at h
  repeat' split at h
  all_goals first | rfl | cases h

lemma decodeUnits_cons_of_lt {u : ℕ} (h : u < 0xd800) (us : List ℕ) :
    decodeUnits (u :: us) = Char.ofNat u :: decodeUnits us := by
  rw [decodeUnits.eq_def]
  simp only
  rw [if_neg (by omega), if_neg (by omega)]

/-- A character at the end of units that is of ASCII, and not null, is the last unit. -/
def IsLast (u : ℕ) (c : Char) : Prop := 0 < c.toNat → c.toNat < 0x80 → c.toNat = u

lemma isLast_cons {x : Char} {us : List ℕ} {u v : ℕ} (hu : (v :: us).getLast? = some u)
    (hx : us = [] → IsLast u x)
    (ih : us.getLast? = some u → ∀ c ∈ (decodeUnits us).getLast?, IsLast u c) :
    ∀ c ∈ (x :: decodeUnits us).getLast?, IsLast u c := by
  intro c hc
  cases us with
  | nil =>
    cases hc
    exact hx rfl
  | cons v' us =>
    have hne : decodeUnits (v' :: us) ≠ [] := fun h => List.cons_ne_nil _ _ (decodeUnits_eq_nil h)
    rw [List.getLast?_cons_of_ne_nil hne] at hc
    exact ih (by rwa [List.getLast?_cons_cons] at hu) c hc

lemma isLast_of_mem_getLast? {us : List ℕ} {u : ℕ} (hu : us.getLast? = some u) :
    ∀ c ∈ (decodeUnits us).getLast?, IsLast u c := by
  fun_induction decodeUnits us with
  | case1 => cases hu
  | case2 =>
    rintro _ ⟨⟩ - hc
    exact absurd hc (by decide)
  | case3 v hv v' us ih =>
    rw [List.getLast?_cons_cons] at hu
    refine isLast_cons hu (fun _ _ hc => ?_) ih
    -- the two units are one character beyond sixteen bits
    have : (0x10000 + (v - 0xd800) * 0x400 + v' % 0x400).isValidChar := by
      right
      omega
    rw [toNat_ofNat, if_pos this] at hc
    omega
  | case4 v us hv hstray ih =>
    refine isLast_cons hu (fun _ hc => ?_) ih
    exact absurd hc (by decide)
  | case5 v us hv hstray ih =>
    refine isLast_cons hu (fun hus hc _ => ?_) ih
    subst hus
    cases hu
    rw [toNat_ofNat] at hc ⊢
    split at hc
    · rw [if_pos ‹_›]; rfl
    · cases hc

/-- The last of an even number of bytes is in the last unit. -/
lemma getLast?_units (big : Bool) (x y : UInt8) : (bytes : List UInt8) → bytes.length % 2 = 0 →
    (units big (bytes ++ [x, y])).getLast? =
      some (if big then x.toNat * 256 + y.toNat else y.toNat * 256 + x.toNat)
  | [], _ => rfl
  | [_], h => by cases h
  | a :: b :: bytes, h => by
    have ih := getLast?_units big x y bytes (by simp only [List.length_cons] at h; omega)
    have hne : units big (bytes ++ [x, y]) ≠ [] := by
      intro hnil
      rw [hnil] at ih
      cases ih
    rw [List.cons_append, List.cons_append, units, List.getLast?_cons_of_ne_nil hne, ih]

/-! ### Texts with a blank that is none of ASCII at an end -/

lemma toNat_of_mem_encodeChar {b : UInt8} (hc : isOddBlank c = true) (hb : b ∈ encodeChar c) :
    0x1c ≤ b.toNat ∧ b.toNat ≤ 0x1f ∨ 0x80 ≤ b.toNat := by
  rcases toNat_of_isOddBlank hc with hn | hn
  · rw [encodeChar_of_lt (by omega), List.mem_singleton] at hb
    rw [hb, toNat_ofNat_byte (by omega)]
    exact .inl hn
  · exact .inr (le_of_mem_encodeChar (by omega) hb)

lemma isAllowed_of_isOddBlank (hc : isOddBlank c = true) : isAllowed c = true ∨ c.toNat < 128 := by
  rcases toNat_of_isOddBlank hc with hn | hn
  · exact .inr (by omega)
  · left
    simp only [isAllowed, Bool.and_eq_true, Bool.or_eq_true, decide_eq_true_eq, bne_iff_ne]
    omega

/-- The bytes of such a blank beyond ASCII: the first one is no part of a byte order mark. -/
lemma exists_lead_of_le (h : 0x85 ≤ c.toNat) (h' : c.toNat ≤ 0x3000) :
    ∃ a b tail, encodeChar c = a :: b :: tail ∧ a.toNat ≤ 0xe3 := by
  unfold encodeChar
  simp only [if_neg (show ¬c.toNat < 0x80 by omega)]
  split_ifs with h₁ h₂
  · exact ⟨_, _, _, rfl, by rw [toNat_ofNat_byte] <;> omega⟩
  · exact ⟨_, _, _, rfl, by rw [toNat_ofNat_byte] <;> omega⟩
  · omega

/-- A text that begins with such a blank is taken for UTF-8, or for units of two bytes if the null
character follows. -/
lemma sniff_of_isOddBlank (hc : isOddBlank c = true) (cs : List Char) :
    sniff (encode (c :: cs)) = some utf8 ∨
    c.toNat < 0x80 ∧ sniff (encode (c :: cs)) = some (utf16 false) ∧ ∃ bytes, encode cs = 0 :: bytes := by
  have hmark : ∀ {a : UInt8}, a.toNat ≤ 0xe3 → a ≠ 0xef ∧ a ≠ 0xfe ∧ a ≠ 0xff := by
    rintro a ha
    refine ⟨?_, ?_, ?_⟩ <;> rintro rfl <;> exact absurd ha (by decide)
  rcases toNat_of_isOddBlank hc with hn | ⟨hn, hn'⟩
  · have ha : (UInt8.ofNat c.toNat).toNat = c.toNat := toNat_ofNat_byte (by omega)
    obtain ⟨h₁, h₂, h₃⟩ := hmark (a := UInt8.ofNat c.toNat) (by omega)
    have h₀ : UInt8.ofNat c.toNat ≠ 0 := by
      rintro h
      rw [h, show (0 : UInt8).toNat = 0 from rfl] at ha
      omega
    have h₄ : UInt8.ofNat c.toNat ≠ 0x3c := by
      rintro h
      rw [h, show (0x3c : UInt8).toNat = 0x3c from rfl] at ha
      omega
    rw [encode_cons, encodeChar_of_lt (by omega), List.singleton_append]
    cases hcs : encode cs with
    | nil => simp [sniff, h₀, h₁, h₂, h₃, h₄]
    | cons b bytes =>
      rw [sniff_cons_cons (.inl h₁), if_neg fun h => h₂ h.1, if_neg fun h => h₃ h.1, if_neg h₀]
      split
      · rename_i hb
        rw [hb]
        exact .inr ⟨by omega, rfl, bytes, rfl⟩
      · exact .inl rfl
  · obtain ⟨a, b, tail, hbytes, ha⟩ := exists_lead_of_le hn hn'
    have hhigh : ∀ x ∈ encodeChar c, x ≠ 0 := by
      rintro x hx rfl
      exact absurd (le_of_mem_encodeChar (by omega) hx) (by decide)
    obtain ⟨h₁, h₂, h₃⟩ := hmark ha
    rw [encode_cons, hbytes, List.cons_append, List.cons_append, sniff_cons_cons (.inl h₁),
      if_neg fun h => h₂ h.1, if_neg fun h => h₃ h.1, if_neg (hhigh a (by simp [hbytes])),
      if_neg (hhigh b (by simp [hbytes]))]
    exact .inl rfl

/-- Such a blank is the first character of a text, whatever this is taken for. -/
lemma head?_decode_of_isOddBlank (hc : isOddBlank c = true)
    (he : sniff (encode (c :: cs)) = some e) : (e.decode (encode (c :: cs))).head? = some c := by
  rcases sniff_of_isOddBlank hc cs with hs | ⟨hlow, hs, bytes, hbytes⟩
  · cases hs.symm.trans he
    obtain ⟨shown, hshown, hdecode⟩ := decodeUtf8_encodeChar c
    rw [decode, encode_cons, hdecode, hshown (isAllowed_of_isOddBlank hc)]
    rfl
  · cases hs.symm.trans he
    have hn := toNat_of_isOddBlank hc
    have hb : (UInt8.ofNat c.toNat).toNat = c.toNat := toNat_ofNat_byte (by omega)
    have hunit : (0 : UInt8).toNat * 256 + (UInt8.ofNat c.toNat).toNat = c.toNat := by
      rw [hb, show (0 : UInt8).toNat = 0 from rfl, Nat.zero_mul, Nat.zero_add]
    rw [decode, encode_cons, encodeChar_of_lt hlow, hbytes, List.singleton_append, units,
      if_neg Bool.false_ne_true, hunit, decodeUnits_cons_of_lt (by omega), List.head?_cons,
      Char.ofNat_toNat]

/-- Units of two bytes do not end well if their last byte is one of such a blank. -/
lemma not_endsWell_decodeUnits (big : Bool) {bytes : List UInt8} {y : UInt8}
    (hy : 0x1c ≤ y.toNat ∧ y.toNat ≤ 0x1f ∨ 0x80 ≤ y.toNat) (heven : (bytes ++ [y]).length % 2 = 0) :
    ¬EndsWell (decodeUnits (units big (bytes ++ [y]))) := by
  intro hends
  obtain ⟨w, x, rfl⟩ : ∃ w x, bytes = w ++ [x] := by
    refine (List.eq_nil_or_concat' _).resolve_left ?_
    rintro rfl
    cases heven
  rw [List.append_assoc] at hends heven
  have hu := getLast?_units big x y w (by simp at heven; omega)
  obtain ⟨c, hc⟩ : ∃ c, (decodeUnits (units big (w ++ [x, y]))).getLast? = some c := by
    refine Option.ne_none_iff_exists'.1 fun hnone => ?_
    rw [decodeUnits_eq_nil (List.getLast?_eq_none_iff.1 hnone)] at hu
    cases hu
  have hend : c.toNat = 0x3e ∨ c.toNat = 0x20 ∨ c.toNat = 0x09 ∨ c.toNat = 0x0a ∨ c.toNat = 0x0d :=
    (hends c hc).imp (fun h => by rw [h]; rfl) toNat_of_isSpace
  have hunit := isLast_of_mem_getLast? hu c hc (by omega) (by omega)
  split at hunit <;> omega

/-- No text ends well with such a blank, whatever it is taken for, if no byte is left over. -/
lemma not_endsWell_decode_of_isOddBlank (hc : isOddBlank c = true)
    (he : sniff (encode (cs ++ [c])) = some e)
    (heven : (e.alphabet == .sixteenBit && (encode (cs ++ [c])).length % 2 == 1) = false) :
    ¬EndsWell (e.decode (encode (cs ++ [c]))) := by
  have hbytes : encode (cs ++ [c]) = encode cs ++ (encodeChar c ++ []) := by
    rw [encode_append, encode_cons, encode_nil]
  rcases sniff_cases he with rfl | ⟨big, rfl⟩
  · intro hends
    obtain ⟨w, hw⟩ := exists_decodeUtf8_append cs (encodeChar c ++ [])
    obtain ⟨shown, hshown, hdecode⟩ := decodeUtf8_encodeChar c
    rw [decode, hbytes, hw, hdecode, hshown (isAllowed_of_isOddBlank hc), decodeUtf8,
      List.append_nil] at hends
    exact (apart_of_isOddBlank hc).2.1 (hends c (by simp))
  · obtain ⟨w, y, hy⟩ := (List.eq_nil_or_concat' _).resolve_left (encodeChar_ne_nil c)
    rw [hbytes, List.append_nil, hy, ← List.append_assoc] at heven ⊢
    refine not_endsWell_decodeUnits big (toNat_of_mem_encodeChar hc ?_) (by simpa [alphabet] using heven)
    rw [hy]
    exact List.mem_concat_self

end Encoding

namespace Source

lemma readDeclaration_cases {n : Option (String × List Char)}
    (h : s.readDeclaration = .ok (s', n)) :
    s'.rest <:+ s.rest ∧ s'.isOdd = s.isOdd ∧ (s'.rest = s.rest ∨ s.rest.head? = some '<') := by
  unfold readDeclaration at h
  split at h
  · cases h
    exact ⟨List.suffix_refl _, rfl, .inl rfl⟩
  · cases h
  · rename_i hread
    cases h
    unfold Declaration.read? at hread
    split at hread
    · rename_i r hcs
      split at hread
      · rename_i after hscan
        obtain ⟨-, rfl⟩ := Prod.mk.inj (Option.some.inj hread)
        rw [hcs]
        exact ⟨(suffix_of_closed (scanInstruction_closed hscan)).trans
          (List.suffix_append ['<', '?'] r), rfl, .inr rfl⟩
      · cases hread
    · cases hread

lemma rest_ofChars_suffix (a : Alphabet) (odd : Bool) (cs : List Char) :
    (ofChars a odd cs).rest <:+ cs := by
  rw [ofChars]
  simp only
  split
  · exact List.drop_suffix 1 cs
  · exact List.suffix_refl cs

lemma rest_ofChars (a : Alphabet) (odd : Bool) (h : cs.head? ≠ some byteOrderMark) :
    (ofChars a odd cs).rest = cs := by
  rw [ofChars, if_neg h]

end Source

/-- A text that is a document ends well in the characters of its bytes, and begins well there after
a byte order mark. -/
lemma ends_of_ofText {root : Node} (hs : Source.ofText cs = .ok s) (hroot : readDocument s = .ok root) :
    ∃ e, Encoding.sniff (encode cs) = some e ∧ BeginsWell (Source.decode e (encode cs)).rest ∧
      EndsWell (e.decode (encode cs)) ∧ (Source.decode e (encode cs)).isOdd = false := by
  obtain ⟨hne, hbegins, hends, heven⟩ := ends_of_readDocument hroot
  unfold Source.ofText at hs
  rw [Encoding.sniff_encode_take] at hs
  cases he : Encoding.sniff (encode cs) with
  | none =>
    rw [he] at hs
    cases hs
    exact absurd rfl hne
  | some e =>
    rw [he] at hs
    simp only at hs
    obtain ⟨⟨s', n⟩, hdeclaration, rfl⟩ := map_eq_ok_iff.1 hs
    obtain ⟨hsuffix, hodd, hfirst⟩ := Source.readDeclaration_cases hdeclaration
    refine ⟨e, rfl, ?_, hends.of_suffix (hsuffix.trans (Source.rest_ofChars_suffix _ _ _)) hne,
      hodd ▸ heven⟩
    -- a declaration that was read stands at the beginning, with its `<`
    rcases hfirst with hrest | hhead
    · rwa [hrest] at hbegins
    · intro c hc
      rw [hhead] at hc
      exact .inl (Option.some.inj hc).symm

/-- **No document begins or ends with a blank that is none of ASCII.** -/
theorem readDocument_ne_ok_of_isOddBlank {ds : List Char} {root : Node} (hc : isOddBlank c = true)
    (hcs : cs = c :: ds ∨ cs = ds ++ [c]) (hs : Source.ofText cs = .ok s) : readDocument s ≠ .ok root := by
  intro hroot
  obtain ⟨e, he, hbegins, hends, heven⟩ := ends_of_ofText hs hroot
  obtain ⟨hfront, -, hmark⟩ := apart_of_isOddBlank hc
  rcases hcs with rfl | rfl
  · have hhead := Encoding.head?_decode_of_isOddBlank hc he
    -- a byte order mark may be dropped in front, but no blank is one
    rw [Source.decode, Source.rest_ofChars] at hbegins
    · exact hfront (hbegins c hhead)
    · rw [hhead]
      exact fun h => hmark (Option.some.inj h)
  · exact Encoding.not_endsWell_decode_of_isOddBlank hc he heven hends

end ApiContract.Xml
