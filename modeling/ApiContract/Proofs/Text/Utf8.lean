import ApiContract.Proofs.Front
import ApiContract.Proofs.Text.Blank
import ApiContract.Text.Utf8

/-!
Texts and their bytes. What a text is encoded as is cut into its characters again (`pieces_encode`), so
that a lenient reader finds the text. Of blanks around a text, its bytes lose those that are blanks of
ASCII (`trim_encode`). A lenient reader may read bytes in two parts, cut before a byte that begins a
character (`decodeLenient_append`).
-/

namespace ApiContract.Text

variable {lead b : UInt8} {tail : List UInt8} {c : Char} {cs : List Char}

/-! ### The bytes of a character -/

lemma toNat_ofNat_byte {n : ℕ} (h : n < 256) : (UInt8.ofNat n).toNat = n :=
  UInt8.toNat_ofNat_of_lt' h

lemma toNat_lt_or (c : Char) : c.toNat < 0xd800 ∨ 0xdfff < c.toNat ∧ c.toNat < 0x110000 := c.valid

lemma tailLength?_of_toNat (b : UInt8) : tailLength? b =
    if b.toNat < 0x80 then some 0 else if b.toNat < 0xc2 then none
    else if b.toNat < 0xe0 then some 1 else if b.toNat < 0xf0 then some 2
    else if b.toNat < 0xf5 then some 3 else none := by
  simp only [tailLength?, UInt8.lt_iff_toNat_lt, UInt8.reduceToNat]

/-- A byte that is not the first one of its character has six of its bits. -/
lemma toNat_low (n : ℕ) : (UInt8.ofNat (0x80 + n % 64)).toNat = 0x80 + n % 64 :=
  toNat_ofNat_byte (by omega)

lemma isContinuation_low (n : ℕ) : isContinuation (UInt8.ofNat (0x80 + n % 64)) = true := by
  simp only [isContinuation, Bool.and_eq_true, decide_eq_true_eq, UInt8.le_iff_toNat_le,
    UInt8.lt_iff_toNat_lt, toNat_low, UInt8.reduceToNat]
  omega

/-- A second byte may follow all first bytes but four, and each of these up to a bound or from one
on. -/
lemma mayFollow_of_toNat (hb : isContinuation b = true)
    (h₀ : lead.toNat = 0xe0 → 0xa0 ≤ b.toNat) (h₁ : lead.toNat = 0xed → b.toNat < 0xa0)
    (h₂ : lead.toNat = 0xf0 → 0x90 ≤ b.toNat) (h₃ : lead.toNat = 0xf4 → b.toNat < 0x90) :
    mayFollow lead b = true := by
  simp only [mayFollow, hb, Bool.true_and, beq_iff_eq, ← UInt8.toNat_inj, UInt8.le_iff_toNat_le,
    UInt8.lt_iff_toNat_lt, UInt8.reduceToNat]
  split_ifs <;> simp <;> omega

/-- Bytes that fit a first byte are the tail of a character, whatever follows them. -/
lemma firstPiece_append (hlead : tailLength? lead = some (b :: tail).length)
    (hb : mayFollow lead b = true) (ht : ∀ x ∈ tail, isContinuation x = true)
    (hc : codePoint lead (b :: tail) = c.toNat) (rest : List UInt8) :
    firstPiece lead (b :: tail ++ rest) = (.char c, (b :: tail).length) := by
  have htail : fittingTail lead (b :: tail).length (b :: tail ++ rest) = b :: tail := by
    rw [fittingTail, List.take_left]
    simp only [hb, if_true, List.takeWhile_eq_self_iff.2 ht]
  simp only [firstPiece, hlead, htail, if_true, hc, Char.ofNat_toNat]

/-- A character of two bytes. -/
lemma firstPiece_two (h : 0x80 ≤ c.toNat) (h' : c.toNat < 0x800) (rest : List UInt8) :
    firstPiece (UInt8.ofNat (0xc0 + c.toNat / 64)) ([UInt8.ofNat (0x80 + c.toNat % 64)] ++ rest) =
      (.char c, 1) := by
  have hlead := toNat_ofNat_byte (n := 0xc0 + c.toNat / 64) (by omega)
  refine firstPiece_append ?_ (mayFollow_of_toNat (isContinuation_low _) ?_ ?_ ?_ ?_)
    (List.forall_mem_nil _) ?_ rest
  · rw [tailLength?_of_toNat, hlead, if_neg (by omega), if_neg (by omega), if_pos (by omega)]
    rfl
  · omega
  · omega
  · omega
  · omega
  · simp only [codePoint, List.length_cons, List.length_nil, List.foldl_cons, List.foldl_nil, hlead, toNat_low]
    omega

/-- A character of three bytes. The second one keeps away from the surrogates and from shorter characters. -/
lemma firstPiece_three (h : 0x800 ≤ c.toNat) (h' : c.toNat < 0x10000) (rest : List UInt8) :
    firstPiece (UInt8.ofNat (0xe0 + c.toNat / 4096)) ([UInt8.ofNat (0x80 + c.toNat / 64 % 64),
      UInt8.ofNat (0x80 + c.toNat % 64)] ++ rest) = (.char c, 2) := by
  have hc := toNat_lt_or c
  have hlead := toNat_ofNat_byte (n := 0xe0 + c.toNat / 4096) (by omega)
  refine firstPiece_append ?_ (mayFollow_of_toNat (isContinuation_low _) ?_ ?_ ?_ ?_)
    (List.forall_mem_singleton.2 (isContinuation_low _)) ?_ rest
  · rw [tailLength?_of_toNat, hlead, if_neg (by omega), if_neg (by omega), if_neg (by omega),
      if_pos (by omega)]
    rfl
  · rw [hlead, toNat_low]; omega
  · rw [hlead, toNat_low]; omega
  · omega
  · omega
  · simp only [codePoint, List.length_cons, List.length_nil, List.foldl_cons, List.foldl_nil, hlead, toNat_low]
    omega

/-- A character of four bytes. The second one keeps away from shorter characters and from the end of all
characters. -/
lemma firstPiece_four (h : 0x10000 ≤ c.toNat) (rest : List UInt8) :
    firstPiece (UInt8.ofNat (0xf0 + c.toNat / 262144)) ([UInt8.ofNat (0x80 + c.toNat / 4096 % 64),
      UInt8.ofNat (0x80 + c.toNat / 64 % 64), UInt8.ofNat (0x80 + c.toNat % 64)] ++ rest) = (.char c, 3) := by
  have hc := toNat_lt_or c
  have hlead := toNat_ofNat_byte (n := 0xf0 + c.toNat / 262144) (by omega)
  refine firstPiece_append ?_ (mayFollow_of_toNat (isContinuation_low _) ?_ ?_ ?_ ?_)
    (List.forall_mem_cons.2 ⟨isContinuation_low _, List.forall_mem_singleton.2 (isContinuation_low _)⟩) ?_ rest
  · rw [tailLength?_of_toNat, hlead, if_neg (by omega), if_neg (by omega), if_neg (by omega),
      if_neg (by omega), if_pos (by omega)]
    rfl
  · omega
  · omega
  · rw [hlead, toNat_low]; omega
  · rw [hlead, toNat_low]; omega
  · simp only [codePoint, List.length_cons, List.length_nil, List.foldl_cons, List.foldl_nil, hlead, toNat_low]
    omega

/-- The first piece of bytes that begin with those of a character is this character. -/
lemma firstPiece_encodeChar (c : Char) : ∃ lead tail, encodeChar c = lead :: tail ∧
    ∀ rest, firstPiece lead (tail ++ rest) = (.char c, tail.length) := by
  unfold encodeChar
  simp only [Nat.pow_eq, Nat.pow_zero, Nat.pow_one, Nat.div_one]
  split_ifs with h₁ h₂ h₃
  · have hlead := toNat_ofNat_byte (n := c.toNat) (by omega)
    refine ⟨_, _, rfl, fun rest => ?_⟩
    simp [firstPiece, tailLength?_of_toNat, fittingTail, codePoint, hlead, h₁]
  · exact ⟨_, _, rfl, firstPiece_two (Nat.le_of_not_lt h₁) h₂⟩
  · exact ⟨_, _, rfl, firstPiece_three (Nat.le_of_not_lt h₂) h₃⟩
  · exact ⟨_, _, rfl, firstPiece_four (Nat.le_of_not_lt h₃)⟩

/-- A character of ASCII is one byte. -/
lemma encodeChar_of_lt (h : c.toNat < 0x80) : encodeChar c = [UInt8.ofNat c.toNat] := by
  simp only [encodeChar, h, if_true]

/-- All bytes of other characters are beyond ASCII. -/
lemma le_of_mem_encodeChar (h : 0x80 ≤ c.toNat) (hb : b ∈ encodeChar c) : 0x80 ≤ b.toNat := by
  have hc := toNat_lt_or c
  have hbyte : ∃ n, 0x80 ≤ n ∧ n < 256 ∧ b = UInt8.ofNat n := by
    unfold encodeChar at hb
    simp only [Nat.pow_eq, Nat.pow_zero, Nat.pow_one, Nat.div_one] at hb
    split_ifs at hb with h₁ h₂ h₃ <;> simp only [List.mem_cons, List.not_mem_nil, or_false] at hb
    · omega
    · rcases hb with rfl | rfl <;> exact ⟨_, by omega, by omega, rfl⟩
    · rcases hb with rfl | rfl | rfl <;> exact ⟨_, by omega, by omega, rfl⟩
    · rcases hb with rfl | rfl | rfl | rfl <;> exact ⟨_, by omega, by omega, rfl⟩
  obtain ⟨n, hn, hn', rfl⟩ := hbyte
  rw [toNat_ofNat_byte hn']
  exact hn

lemma encodeChar_ne_nil (c : Char) : encodeChar c ≠ [] := by
  obtain ⟨lead, tail, h, -⟩ := firstPiece_encodeChar c
  rw [h]
  exact List.cons_ne_nil lead tail

/-! ### The bytes of a text -/

@[simp] lemma encode_nil : encode [] = [] := rfl

@[simp] lemma encode_cons (c : Char) (cs : List Char) : encode (c :: cs) = encodeChar c ++ encode cs :=
  List.flatMap_cons

@[simp] lemma encode_append (cs ds : List Char) : encode (cs ++ ds) = encode cs ++ encode ds :=
  List.flatMap_append

/-- **The bytes of a text are cut into its characters.** -/
theorem pieces_encode (cs : List Char) : pieces (encode cs) = cs.map .char := by
  induction cs with
  | nil => rw [encode_nil, pieces, List.map_nil]
  | cons c cs ih =>
    obtain ⟨lead, tail, hc, hpiece⟩ := firstPiece_encodeChar c
    rw [encode_cons, hc, List.cons_append, pieces, hpiece, List.drop_left, ih, List.map_cons]

theorem decodeLenient_encode (cs : List Char) : decodeLenient (encode cs) = cs := by
  rw [decodeLenient, pieces_encode, List.map_map]
  exact List.map_id cs

/-! ### Blanks at the ends -/

/-- A blank of ASCII. -/
def isPlainBlank (c : Char) : Bool := c == ' ' || (9 ≤ c.toNat && c.toNat ≤ 13)

lemma isBlankByte_of_le (h : 0x80 ≤ b.toNat) : isBlankByte b = false := by
  simp only [isBlankByte, Bool.or_eq_false_iff, beq_eq_false_iff_ne, ne_eq, ← UInt8.toNat_inj,
    Bool.and_eq_false_iff, decide_eq_false_iff_not, UInt8.le_iff_toNat_le, UInt8.reduceToNat]
  omega

lemma isBlankByte_ofNat (h : c.toNat < 0x80) :
    isBlankByte (UInt8.ofNat c.toNat) = isPlainBlank c := by
  have hb := toNat_ofNat_byte (n := c.toNat) (by omega)
  have hspace : (UInt8.ofNat c.toNat == 32) = (c == ' ') := by
    rw [Bool.eq_iff_iff, beq_iff_eq, beq_iff_eq, ← UInt8.toNat_inj, hb, ← Char.toNat_inj]
    rfl
  simp only [isBlankByte, isPlainBlank, hspace, UInt8.le_iff_toNat_le, hb, UInt8.reduceToNat]

lemma isPlainBlank_of_le (h : 0x80 ≤ c.toNat) : isPlainBlank c = false := by
  have hc : c ≠ ' ' := by rintro rfl; exact absurd h (by decide)
  simp only [isPlainBlank, Bool.or_eq_false_iff, beq_eq_false_iff_ne, ne_eq, hc, not_false_eq_true,
    Bool.and_eq_false_iff, decide_eq_false_iff_not, true_and]
  omega

lemma dropWhile_encode (cs : List Char) :
    (encode cs).dropWhile isBlankByte = encode (cs.dropWhile isPlainBlank) := by
  induction cs with
  | nil => rfl
  | cons c cs ih =>
    by_cases hc : c.toNat < 0x80
    · rw [encode_cons, encodeChar_of_lt hc, List.singleton_append, List.dropWhile_cons,
        List.dropWhile_cons, isBlankByte_ofNat hc]
      split
      · exact ih
      · rw [encode_cons, encodeChar_of_lt hc, List.singleton_append]
    · have hc : 0x80 ≤ c.toNat := by omega
      obtain ⟨b, bs, hbs⟩ := List.exists_cons_of_ne_nil (encodeChar_ne_nil c)
      have hb := isBlankByte_of_le (le_of_mem_encodeChar hc (hbs ▸ List.mem_cons_self))
      rw [List.dropWhile_cons_of_neg (by simp [isPlainBlank_of_le hc]), encode_cons, hbs,
        List.cons_append, List.dropWhile_cons_of_neg (by simp [hb])]

lemma rdropWhile_encode (cs : List Char) :
    (encode cs).rdropWhile isBlankByte = encode (cs.rdropWhile isPlainBlank) := by
  induction cs using List.reverseRecOn with
  | nil => rfl
  | append_singleton cs c ih =>
    rw [encode_append, encode_cons, encode_nil, List.append_nil]
    by_cases hc : c.toNat < 0x80
    · rw [encodeChar_of_lt hc, List.rdropWhile_concat, List.rdropWhile_concat, isBlankByte_ofNat hc]
      split
      · exact ih
      · rw [encode_append, encode_cons, encodeChar_of_lt hc, encode_nil, List.append_nil]
    · have hc : 0x80 ≤ c.toNat := by omega
      obtain ⟨bs, b, hbs⟩ := (List.eq_nil_or_concat' _).resolve_left (encodeChar_ne_nil c)
      have hmem : b ∈ encodeChar c := by rw [hbs]; exact List.mem_concat_self
      have hb := isBlankByte_of_le (le_of_mem_encodeChar hc hmem)
      rw [List.rdropWhile_concat_neg _ _ _ (by simp [isPlainBlank_of_le hc]), encode_append,
        encode_cons, encode_nil, List.append_nil, hbs, ← List.append_assoc,
        List.rdropWhile_concat_neg _ _ _ (by simp [hb])]

/-- **The bytes of a text lose the blanks of ASCII at its ends, and no others.** -/
theorem trim_encode (cs : List Char) :
    trim isBlankByte (encode cs) = encode (trim isPlainBlank cs) := by
  rw [trim_eq, dropWhile_encode, rdropWhile_encode, trim_eq]

/-! ### Blanks of Unicode at the ends -/

/-- A blank that is none of ASCII. -/
def isOddBlank (c : Char) : Bool := isBlank c && !isPlainBlank c

lemma toNat_of_isOddBlank (h : isOddBlank c = true) :
    0x1c ≤ c.toNat ∧ c.toNat ≤ 0x1f ∨ 0x85 ≤ c.toNat ∧ c.toNat ≤ 0x3000 := by
  obtain ⟨hblank, hplain⟩ := Bool.and_eq_true_iff.1 h
  have hspace : c.toNat ≠ 0x20 := by
    intro hc
    have : c = ' ' := Char.toNat_inj.1 hc
    rw [this] at hplain
    cases hplain
  have hplain : ¬(9 ≤ c.toNat ∧ c.toNat ≤ 13) := by
    intro hc
    simp [isPlainBlank, hc] at hplain
  obtain ⟨r, hr, hc⟩ := List.any_eq_true.1 hblank
  simp only [Bool.and_eq_true, decide_eq_true_eq] at hc
  simp only [blankRanges, List.mem_cons, List.not_mem_nil, or_false] at hr
  rcases hr with rfl | rfl | rfl | rfl | rfl | rfl | rfl | rfl | rfl | rfl <;> simp at hc <;> omega

lemma isBlank_of_isPlainBlank (h : isPlainBlank c = true) : isBlank c = true := by
  rcases Bool.or_eq_true_iff.1 h with h | h
  · rw [beq_iff_eq.1 h]
    rfl
  · exact List.any_eq_true.2 ⟨(0x09, 0x0d), by simp [blankRanges], h⟩

lemma dropWhile_eq_or {α : Type} {p q : α → Bool} (hpq : ∀ x, p x = true → q x = true) (l : List α) :
    l.dropWhile q = l.dropWhile p ∨
      ∃ x m, l.dropWhile p = x :: m ∧ q x = true ∧ p x = false := by
  induction l with
  | nil => exact .inl rfl
  | cons x l ih =>
    by_cases hp : p x = true
    · rw [List.dropWhile_cons_of_pos (hpq x hp), List.dropWhile_cons_of_pos hp]
      exact ih
    · by_cases hq : q x = true
      · exact .inr ⟨x, l, List.dropWhile_cons_of_neg hp, hq, Bool.eq_false_iff.2 hp⟩
      · rw [List.dropWhile_cons_of_neg hq, List.dropWhile_cons_of_neg hp]
        exact .inl rfl

/-- Where a text loses more at its ends than its bytes do, these begin or end with a blank that is none
of ASCII. -/
lemma exists_isOddBlank (h : trim isBlank cs ≠ trim isPlainBlank cs) :
    ∃ c ds, isOddBlank c = true ∧ (trim isPlainBlank cs = c :: ds ∨ trim isPlainBlank cs = ds ++ [c]) := by
  have hodd : ∀ {c}, isBlank c = true → isPlainBlank c = false → isOddBlank c = true :=
    fun hb hp => by rw [isOddBlank, hb, hp]; rfl
  rcases dropWhile_eq_or (fun _ => isBlank_of_isPlainBlank) cs with heq | ⟨c, m, hm, hb, hp⟩
  · rcases dropWhile_eq_or (fun _ => isBlank_of_isPlainBlank) (cs.dropWhile isPlainBlank).reverse with
      htail | ⟨c, m, hm, hb, hp⟩
    · exact absurd (by rw [trim, trim, heq, htail]) h
    · exact ⟨c, m.reverse, hodd hb hp, .inr (by rw [trim, hm, List.reverse_cons])⟩
  · refine ⟨c, m.rdropWhile isPlainBlank, hodd hb hp, .inl ?_⟩
    rw [trim, hm, List.rdropWhile, List.reverse_cons, List.dropWhile_append]
    split
    · rename_i hempty
      rw [List.isEmpty_iff.1 hempty, List.dropWhile_cons_of_neg (by simp [hp])]
      rfl
    · rw [List.reverse_append]
      rfl

/-! ### Where the bytes may be cut -/

/-- What a lenient reader puts in the place of a piece. -/
def Piece.replaced : Piece → Char
  | .char c => c
  | .flaw _ _ => '\ufffd'

lemma decodeLenient_nil : decodeLenient [] = [] := by rw [decodeLenient, pieces, List.map_nil]

lemma decodeLenient_cons (lead : UInt8) (bytes : List UInt8) : decodeLenient (lead :: bytes) =
    (firstPiece lead bytes).1.replaced :: decodeLenient (bytes.drop (firstPiece lead bytes).2) := by
  rw [decodeLenient, pieces, List.map_cons]
  rfl

section Cut

variable {bytes rest : List UInt8} (hrest : ∀ b ∈ rest.head?, isContinuation b = false)
include hrest

/-- A tail ends before a byte that is no continuation, as it does at the end of the bytes. -/
lemma fittingTail_append (lead : UInt8) (n : ℕ) :
    fittingTail lead n (bytes ++ rest) = fittingTail lead n bytes := by
  have hstop : ∀ k, ∀ b ∈ (rest.take k).head?, isContinuation b = false := by
    intro k b hb
    cases k with
    | zero => cases hb
    | succ k => exact hrest b (by rwa [List.head?_take, if_neg k.succ_ne_zero] at hb)
  specialize hstop (n - bytes.length)
  rw [fittingTail, fittingTail, List.take_append]
  generalize rest.take (n - bytes.length) = r at hstop
  cases bytes.take n with
  | nil =>
    cases r with
    | nil => rfl
    | cons b r => simp [mayFollow, hstop b rfl]
  | cons b t =>
    have htail : (t ++ r).takeWhile isContinuation = t.takeWhile isContinuation := by
      rw [List.takeWhile_append]
      split
      · rename_i hlen
        have ht := (List.takeWhile_prefix isContinuation (l := t)).eq_of_length hlen
        rw [takeWhile_of_head? hstop, List.append_nil, ht]
      · rfl
    simp only [List.cons_append, htail]

/-- The first piece does not reach beyond the cut, nor does what stands for it depend on what follows. -/
lemma firstPiece_cut (lead : UInt8) (bytes : List UInt8) :
    (firstPiece lead (bytes ++ rest)).1.replaced = (firstPiece lead bytes).1.replaced ∧
      (firstPiece lead (bytes ++ rest)).2 = (firstPiece lead bytes).2 := by
  unfold firstPiece
  cases tailLength? lead with
  | none => exact ⟨rfl, rfl⟩
  | some n =>
    simp only [fittingTail_append hrest]
    split <;> exact ⟨rfl, rfl⟩

end Cut

lemma length_fittingTail_le (lead : UInt8) (n : ℕ) (bytes : List UInt8) :
    (fittingTail lead n bytes).length ≤ bytes.length := by
  have htake : (bytes.take n).length ≤ bytes.length := List.length_take_le' n bytes
  unfold fittingTail
  split
  · exact Nat.zero_le _
  · rename_i b t ht
    have hwhile := (List.takeWhile_prefix isContinuation (l := t)).length_le
    rw [ht] at htake
    split
    · exact le_trans (Nat.succ_le_succ hwhile) htake
    · exact Nat.zero_le _

/-- The first piece takes no more bytes than there are. -/
lemma firstPiece_le (lead : UInt8) (bytes : List UInt8) : (firstPiece lead bytes).2 ≤ bytes.length := by
  unfold firstPiece
  cases tailLength? lead with
  | none => exact Nat.zero_le _
  | some n =>
    have hlen := length_fittingTail_le lead n bytes
    dsimp only
    split
    · rename_i h
      exact h ▸ hlen
    · exact hlen

/-- **Bytes may be cut before one that is no continuation.** A lenient reader finds in the two parts what
it finds in the whole. -/
theorem decodeLenient_append {bytes rest : List UInt8} (hrest : ∀ b ∈ rest.head?, isContinuation b = false) :
    decodeLenient (bytes ++ rest) = decodeLenient bytes ++ decodeLenient rest := by
  -- a piece may take several bytes, so the induction is on how many are left
  induction hn : bytes.length using Nat.strong_induction_on generalizing bytes with
  | _ n ih =>
    cases bytes with
    | nil => rw [decodeLenient_nil, List.nil_append, List.nil_append]
    | cons lead bytes =>
      obtain ⟨hpiece, htaken⟩ := firstPiece_cut hrest lead bytes
      have hle := firstPiece_le lead bytes
      have hlt : (bytes.drop (firstPiece lead bytes).2).length < n := by
        rw [List.length_drop, ← hn, List.length_cons]
        omega
      rw [List.cons_append, decodeLenient_cons, decodeLenient_cons, hpiece, htaken,
        List.drop_append_of_le_length hle, ih _ hlt rfl, List.cons_append]

/-- A byte of ASCII is one character, whatever follows it. -/
lemma decodeLenient_cons_of_lt {bytes : List UInt8} (h : b.toNat < 0x80) :
    decodeLenient (b :: bytes) = Char.ofNat b.toNat :: decodeLenient bytes := by
  have hpiece : firstPiece b bytes = (.char (Char.ofNat b.toNat), 0) := by
    simp [firstPiece, tailLength?_of_toNat, fittingTail, codePoint, h]
  rw [decodeLenient_cons, hpiece, List.drop_zero, Piece.replaced]

lemma isContinuation_of_lt (h : b.toNat < 0x80) : isContinuation b = false := by
  have : ¬0x80 ≤ b := by rw [UInt8.le_iff_toNat_le]; exact Nat.not_le.2 h
  rw [isContinuation, decide_eq_false this, Bool.false_and]

lemma lt_of_isBlankByte (h : isBlankByte b = true) : b.toNat < 0x80 := by
  by_contra hle
  rw [isBlankByte_of_le (not_lt.1 hle)] at h
  cases h

/-- Blanks of ASCII are decoded to blanks. -/
lemma isBlank_of_mem_decodeLenient {bytes : List UInt8} (h : ∀ b ∈ bytes, isBlankByte b = true) :
    ∀ c ∈ decodeLenient bytes, isBlank c = true := by
  induction bytes with
  | nil => simp [decodeLenient_nil]
  | cons b bytes ih =>
    obtain ⟨hb, hbytes⟩ := List.forall_mem_cons.1 h
    have hlt := lt_of_isBlankByte hb
    have hc : (Char.ofNat b.toNat).toNat = b.toNat := by
      rw [Char.ofNat, dif_pos (.inl (by omega))]
      rfl
    have hblank := isBlankByte_ofNat (c := Char.ofNat b.toNat) (by rwa [hc])
    rw [hc, UInt8.ofNat_toNat, hb] at hblank
    rw [decodeLenient_cons_of_lt hlt, List.forall_mem_cons]
    exact ⟨isBlank_of_isPlainBlank hblank.symm, ih hbytes⟩

/-- Bytes between blanks are decoded as they are alone. -/
lemma decodeLenient_padded {l bytes r : List UInt8} (hl : ∀ b ∈ l, isBlankByte b = true)
    (hr : ∀ b ∈ r, isBlankByte b = true) :
    decodeLenient (l ++ bytes ++ r) = decodeLenient l ++ decodeLenient bytes ++ decodeLenient r := by
  have hcut : ∀ b ∈ r.head?, isContinuation b = false := fun b hb =>
    isContinuation_of_lt (lt_of_isBlankByte (hr b (List.mem_of_mem_head? hb)))
  rw [decodeLenient_append hcut, List.append_cancel_right_eq]
  induction l with
  | nil => rw [decodeLenient_nil, List.nil_append, List.nil_append]
  | cons b l ih =>
    obtain ⟨hb, hl⟩ := List.forall_mem_cons.1 hl
    rw [List.cons_append, decodeLenient_cons_of_lt (lt_of_isBlankByte hb),
      decodeLenient_cons_of_lt (lt_of_isBlankByte hb), ih hl, List.cons_append]

end ApiContract.Text
