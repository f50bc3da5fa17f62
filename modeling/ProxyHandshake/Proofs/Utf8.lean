import ProxyHandshake.Bytes.Utf8

/-!
# Reading back what was encoded

Every text is read back from its UTF-8 form.  A byte below 0x80 in this form is a character of its own,
so line ends and other marks are found among the bytes just where they are in the text.

No other bytes are read as this text.  What is shown for bytes that are no text stands for many of them,
and so does a text in which the replacement character occurs; every other text is shown for its own bytes
alone.
-/

namespace ProxyHandshake.Utf8

/-! ## Single bytes -/

theorem toNat_ofNat_of_lt {n : Nat} (hn : n < 256) : (UInt8.ofNat n).toNat = n := by
  simp [Nat.mod_eq_of_lt hn]

/-- A byte behind the first of a character, in the range that the first allows. -/
theorem readTail_next
    {low high : UInt8} {n : Nat} (hn : n < 64) (hlow : low.toNat ≤ n + 128)
    (hhigh : n + 128 ≤ high.toNat) (count bits : Nat) (rest : Bytes) :
    readTail low high (count + 1) bits (UInt8.ofNat (n + 128) :: rest) =
      readTail 0x80 0xBF count (bits * 64 + n) rest := by
  have hnext : (UInt8.ofNat (n + 128)).toNat = n + 128 := toNat_ofNat_of_lt (by omega)
  have hrange : low ≤ UInt8.ofNat (n + 128) ∧ UInt8.ofNat (n + 128) ≤ high := by
    rw [UInt8.le_iff_toNat_le, UInt8.le_iff_toNat_le, hnext]
    exact ⟨hlow, hhigh⟩
  rw [readTail, if_pos hrange, hnext, Nat.add_sub_cancel]

/-- The bytes behind the first two of a character may have any bits. -/
theorem readTail_any {n : Nat} (hn : n < 64) (count bits : Nat) (rest : Bytes) :
    readTail 0x80 0xBF (count + 1) bits (UInt8.ofNat (n + 128) :: rest) =
      readTail 0x80 0xBF count (bits * 64 + n) rest := by
  refine readTail_next hn ?_ ?_ count bits rest
  · change 128 ≤ _
    omega
  · change _ ≤ 191
    omega

theorem leadOf?_eq (b : UInt8) :
    leadOf? b =
      if 0xC2 ≤ b.toNat ∧ b.toNat ≤ 0xDF then some (1, 0x80, 0xBF, b.toNat - 0xC0)
      else if b.toNat = 0xE0 then some (2, 0xA0, 0xBF, 0)
      else if b.toNat = 0xED then some (2, 0x80, 0x9F, 0xD)
      else if 0xE1 ≤ b.toNat ∧ b.toNat ≤ 0xEF then some (2, 0x80, 0xBF, b.toNat - 0xE0)
      else if b.toNat = 0xF0 then some (3, 0x90, 0xBF, 0)
      else if b.toNat = 0xF4 then some (3, 0x80, 0x8F, 4)
      else if 0xF1 ≤ b.toNat ∧ b.toNat ≤ 0xF3 then some (3, 0x80, 0xBF, b.toNat - 0xF0)
      else none := by
  simp [leadOf?, UInt8.le_iff_toNat_le, ← UInt8.toNat_inj]

theorem lead_two {n : Nat} (hlow : 0x80 ≤ n) (hhigh : n < 0x800) :
    leadOf? (UInt8.ofNat (n / 64 % 32 + 192)) = some (1, 0x80, 0xBF, n / 64) := by
  have hfirst : (UInt8.ofNat (n / 64 % 32 + 192)).toNat = n / 64 % 32 + 192 :=
    toNat_ofNat_of_lt (by omega)
  have hbits : n / 64 % 32 + 192 - 0xC0 = n / 64 := by omega
  rw [leadOf?_eq, hfirst, if_pos (by omega), hbits]

theorem lead_three {n : Nat} (hlow : 0x800 ≤ n) (hhigh : n < 0x10000)
    (hscalar : n < 0xD800 ∨ 0xDFFF < n) :
    ∃ low high, leadOf? (UInt8.ofNat (n / 4096 % 16 + 224)) = some (2, low, high, n / 4096) ∧
      low.toNat ≤ n / 64 % 64 + 128 ∧ n / 64 % 64 + 128 ≤ high.toNat := by
  have hfirst : (UInt8.ofNat (n / 4096 % 16 + 224)).toNat = n / 4096 % 16 + 224 :=
    toNat_ofNat_of_lt (by omega)
  rw [leadOf?_eq, hfirst]
  -- Behind the lowest first byte the second rules out what has a shorter form, and behind 0xED the
  -- surrogates.
  by_cases hlowest : n / 4096 = 0
  · refine ⟨0xA0, 0xBF, by rw [hlowest]; rfl, ?_, ?_⟩
    · change 160 ≤ _
      omega
    · change _ ≤ 191
      omega
  · by_cases hsurrogate : n / 4096 = 13
    · refine ⟨0x80, 0x9F, by rw [hsurrogate]; rfl, ?_, ?_⟩
      · change 128 ≤ _
        omega
      · change _ ≤ 159
        omega
    · have hbits : n / 4096 % 16 + 224 - 0xE0 = n / 4096 := by omega
      rw [if_neg (by omega), if_neg (by omega), if_neg (by omega), if_pos (by omega), hbits]
      refine ⟨0x80, 0xBF, rfl, ?_, ?_⟩
      · change 128 ≤ _
        omega
      · change _ ≤ 191
        omega

theorem lead_four {n : Nat} (hlow : 0x10000 ≤ n) (hhigh : n < 0x110000) :
    ∃ low high, leadOf? (UInt8.ofNat (n / 262144 % 8 + 240)) = some (3, low, high, n / 262144) ∧
      low.toNat ≤ n / 4096 % 64 + 128 ∧ n / 4096 % 64 + 128 ≤ high.toNat := by
  have hfirst : (UInt8.ofNat (n / 262144 % 8 + 240)).toNat = n / 262144 % 8 + 240 :=
    toNat_ofNat_of_lt (by omega)
  rw [leadOf?_eq, hfirst]
  by_cases hlowest : n / 262144 = 0
  · refine ⟨0x90, 0xBF, by rw [hlowest]; rfl, ?_, ?_⟩
    · change 144 ≤ _
      omega
    · change _ ≤ 191
      omega
  · by_cases hhighest : n / 262144 = 4
    · refine ⟨0x80, 0x8F, by rw [hhighest]; rfl, ?_, ?_⟩
      · change 128 ≤ _
        omega
      · change _ ≤ 143
        omega
    · have hbits : n / 262144 % 8 + 240 - 0xF0 = n / 262144 := by omega
      rw [if_neg (by omega), if_neg (by omega), if_neg (by omega), if_neg (by omega),
        if_neg (by omega), if_neg (by omega), if_pos (by omega), hbits]
      refine ⟨0x80, 0xBF, rfl, ?_, ?_⟩
      · change 128 ≤ _
        omega
      · change _ ≤ 191
        omega

/-! ## Single characters -/

/-- A character cannot be a surrogate, nor lie beyond the last code point. -/
theorem toNat_cases (c : Char) : c.toNat < 0xD800 ∨ 0xDFFF < c.toNat ∧ c.toNat < 0x110000 := by
  have hvalid := c.valid
  simpa [UInt32.isValidChar, Nat.isValidChar] using hvalid

theorem readChar_ascii {n : Nat} (hn : n < 0x80) (rest : Bytes) :
    readChar (UInt8.ofNat n) rest = (some (Char.ofNat n), rest) := by
  have hb : (UInt8.ofNat n).toNat = n := toNat_ofNat_of_lt (by omega)
  have hlt : UInt8.ofNat n < 0x80 := by
    rw [UInt8.lt_iff_toNat_lt, hb]
    exact hn
  rw [readChar, if_pos hlt, hb]

theorem readChar_of_lead
    {n : Nat} {low high : UInt8} {count bits : Nat} (hlow : 0x80 ≤ n) (hhigh : n < 0x100)
    (hlead : leadOf? (UInt8.ofNat n) = some (count, low, high, bits)) (rest : Bytes) :
    readChar (UInt8.ofNat n) rest = readTail low high count bits rest := by
  have hlarge : ¬ UInt8.ofNat n < 0x80 := by
    rw [UInt8.lt_iff_toNat_lt, toNat_ofNat_of_lt hhigh]
    exact Nat.not_lt.mpr hlow
  rw [readChar, if_neg hlarge, hlead]

/-- The bytes of a character are read as this character, whatever is behind them. -/
theorem readChar_utf8EncodeChar (c : Char) :
    ∃ b behind, String.utf8EncodeChar c = b :: behind ∧
      ∀ rest, readChar b (behind ++ rest) = (some c, rest) := by
  have hc : Char.ofNat c.val.toNat = c := Char.ofNat_toNat c
  have hscalar : c.val.toNat < 0xD800 ∨ 0xDFFF < c.val.toNat ∧ c.val.toNat < 0x110000 :=
    toNat_cases c
  unfold String.utf8EncodeChar
  simp only
  generalize c.val.toNat = n at hc hscalar ⊢
  split
  · refine ⟨_, _, rfl, fun rest => ?_⟩
    rw [List.nil_append, readChar_ascii (by omega), hc]
  · split
    · have hlead := lead_two (n := n) (by omega) (by omega)
      have hbits : n / 64 * 64 + n % 64 = n := by omega
      refine ⟨_, _, rfl, fun rest => ?_⟩
      rw [readChar_of_lead (by omega) (by omega) hlead, List.singleton_append,
        readTail_any (by omega), readTail, hbits, hc]
    · split
      · obtain ⟨low, high, hlead, hlow, hhigh⟩ :=
          lead_three (n := n) (by omega) (by omega) (by omega)
        have hbits : (n / 4096 * 64 + n / 64 % 64) * 64 + n % 64 = n := by omega
        refine ⟨_, _, rfl, fun rest => ?_⟩
        rw [readChar_of_lead (by omega) (by omega) hlead, List.cons_append, List.singleton_append,
          readTail_next (by omega) hlow hhigh, readTail_any (by omega), readTail, hbits, hc]
      · obtain ⟨low, high, hlead, hlow, hhigh⟩ := lead_four (n := n) (by omega) (by omega)
        have hbits :
            ((n / 262144 * 64 + n / 4096 % 64) * 64 + n / 64 % 64) * 64 + n % 64 = n := by
          omega
        refine ⟨_, _, rfl, fun rest => ?_⟩
        rw [readChar_of_lead (by omega) (by omega) hlead, List.cons_append, List.cons_append,
          List.singleton_append, readTail_next (by omega) hlow hhigh, readTail_any (by omega),
          readTail_any (by omega), readTail, hbits, hc]

/-- A character is a byte of its own, or all its bytes are large. -/
theorem utf8EncodeChar_cases (c : Char) :
    (c.toNat < 0x80 ∧ String.utf8EncodeChar c = [UInt8.ofNat c.toNat]) ∨
      (0x80 ≤ c.toNat ∧ ∀ b ∈ String.utf8EncodeChar c, 0x80 ≤ b.toNat) := by
  change (c.val.toNat < 0x80 ∧ _ = [UInt8.ofNat c.val.toNat]) ∨ (0x80 ≤ c.val.toNat ∧ _)
  unfold String.utf8EncodeChar
  simp only
  generalize c.val.toNat = n
  split
  · exact .inl ⟨by omega, rfl⟩
  · refine .inr ⟨by omega, ?_⟩
    split
    · simp only [List.forall_mem_cons]
      refine ⟨?_, ?_, by simp⟩ <;> rw [toNat_ofNat_of_lt (by omega)] <;> omega
    · split
      · simp only [List.forall_mem_cons]
        refine ⟨?_, ?_, ?_, by simp⟩ <;> rw [toNat_ofNat_of_lt (by omega)] <;> omega
      · simp only [List.forall_mem_cons]
        refine ⟨?_, ?_, ?_, ?_, by simp⟩ <;> rw [toNat_ofNat_of_lt (by omega)] <;> omega

/-- A small character is a byte of its own. -/
theorem utf8EncodeChar_of_lt {c : Char} (hc : c.toNat < 0x80) :
    String.utf8EncodeChar c = [UInt8.ofNat c.toNat] := by
  rcases utf8EncodeChar_cases c with ⟨_, hencoded⟩ | ⟨hlarge, _⟩
  · exact hencoded
  · omega

theorem readChar_of_lt {c : Char} (hc : c.toNat < 0x80) (rest : Bytes) :
    readChar (UInt8.ofNat c.toNat) rest = (some c, rest) := by
  rw [readChar_ascii hc, Char.ofNat_toNat]

/-! ## Texts -/

theorem encodeChars_cons (c : Char) (chars : List Char) :
    encodeChars (c :: chars) = String.utf8EncodeChar c ++ encodeChars chars := rfl

theorem encodeChars_append (chars more : List Char) :
    encodeChars (chars ++ more) = encodeChars chars ++ encodeChars more :=
  List.flatMap_append

/-- A text is read character by character, whatever is behind it. -/
theorem read_encodeChars_append (chars : List Char) (bytes : Bytes) :
    read (encodeChars chars ++ bytes) = chars.map some ++ read bytes := by
  induction chars with
  | nil => rfl
  | cons c chars ih =>
      obtain ⟨b, behind, hencoded, hread⟩ := readChar_utf8EncodeChar c
      rw [encodeChars_cons, hencoded, List.append_assoc, List.cons_append, read, hread, ih,
        List.map_cons, List.cons_append]

theorem read_encodeChars (chars : List Char) : read (encodeChars chars) = chars.map some := by
  have hread := read_encodeChars_append chars []
  rwa [List.append_nil, read, List.append_nil] at hread

theorem whole?_map_some {α : Type} (list : List α) : whole? (list.map some) = some list := by
  induction list with
  | nil => rfl
  | cons a list ih => rw [List.map_cons, whole?, ih, Option.map_some]

/-- Every text is read back. -/
theorem decodeChars?_encodeChars (chars : List Char) :
    decodeChars? (encodeChars chars) = some chars := by
  rw [decodeChars?, read_encodeChars, whole?_map_some]

theorem decode?_encode (text : String) : decode? (encode text) = some text := by
  rw [decode?, encode, decodeChars?_encodeChars, Option.map_some, String.ofList_toList]

/-- A small byte of a text is one of its characters. -/
theorem mem_of_mem_encodeChars
    {chars : List Char} {b : UInt8} (hb : b ∈ encodeChars chars) (hsmall : b.toNat < 0x80) :
    Char.ofNat b.toNat ∈ chars := by
  obtain ⟨c, hc, hmem⟩ := List.mem_flatMap.mp hb
  rcases utf8EncodeChar_cases c with ⟨hascii, hencoded⟩ | ⟨_, hlarge⟩
  · rw [hencoded, List.mem_singleton] at hmem
    rw [hmem, toNat_ofNat_of_lt (by omega), Char.ofNat_toNat]
    exact hc
  · have := hlarge b hmem
    omega

theorem mem_encodeChars
    {chars : List Char} {c : Char} (hc : c ∈ chars) (hsmall : c.toNat < 0x80) :
    UInt8.ofNat c.toNat ∈ encodeChars chars := by
  refine List.mem_flatMap.mpr ⟨c, hc, ?_⟩
  rw [utf8EncodeChar_of_lt hsmall]
  exact List.mem_singleton_self _

/-- A text of small bytes has one for each character. -/
theorem map_encodeChars
    {chars : List Char} (hsmall : ∀ b ∈ encodeChars chars, b.toNat < 0x80) :
    (encodeChars chars).map (fun b => Char.ofNat b.toNat) = chars := by
  induction chars with
  | nil => rfl
  | cons c chars ih =>
      rw [encodeChars_cons] at hsmall ⊢
      obtain ⟨hc, hchars⟩ := List.forall_mem_append.mp hsmall
      rcases utf8EncodeChar_cases c with ⟨hascii, hencoded⟩ | ⟨_, hlarge⟩
      · rw [hencoded, List.map_append, ih hchars, List.map_singleton,
          toNat_ofNat_of_lt (by omega), Char.ofNat_toNat, List.singleton_append]
      · obtain ⟨b, behind, hencoded, _⟩ := readChar_utf8EncodeChar c
        have hb : b ∈ String.utf8EncodeChar c := by simp [hencoded]
        exact absurd (hc b hb) (Nat.not_lt.mpr (hlarge b hb))

theorem toNat_ofNat_char {n : Nat} (hn : n < 0x80) : (Char.ofNat n).toNat = n := by
  have hvalid : n.isValidChar := .inl (by omega)
  rw [Char.ofNat, dif_pos hvalid]
  rfl

/-- Small bytes are the form of the text that has a character for each of them. -/
theorem encodeChars_map {bytes : Bytes} (hsmall : ∀ b ∈ bytes, b.toNat < 0x80) :
    encodeChars (bytes.map fun b => Char.ofNat b.toNat) = bytes := by
  induction bytes with
  | nil => rfl
  | cons b bytes ih =>
      obtain ⟨hb, hbytes⟩ := List.forall_mem_cons.mp hsmall
      have hchar := toNat_ofNat_char hb
      rw [List.map_cons, encodeChars_cons, utf8EncodeChar_of_lt (by omega), ih hbytes, hchar,
        UInt8.ofNat_toNat, List.singleton_append]

theorem length_le_encodeChars (chars : List Char) :
    chars.length ≤ (encodeChars chars).length := by
  induction chars with
  | nil => exact Nat.le_refl 0
  | cons c chars ih =>
      obtain ⟨b, behind, hencoded, _⟩ := readChar_utf8EncodeChar c
      rw [encodeChars_cons, hencoded, List.length_append, List.length_cons, List.length_cons]
      omega

/-! ## Only texts are read -/

section

variable {b low high : UInt8} {count bits k m n : Nat} {bytes rest behind : Bytes} {c : Char}

theorem toNat_ofNat_scalar (hn : n < 0xD800 ∨ 0xDFFF < n ∧ n < 0x110000) :
    (Char.ofNat n).val.toNat = n := by
  have hvalid : n.isValidChar := hn
  rw [Char.ofNat, dif_pos hvalid]
  rfl

/-- The bytes of a character, by its number. -/
theorem utf8EncodeChar_ofNat (hn : n < 0xD800 ∨ 0xDFFF < n ∧ n < 0x110000) :
    String.utf8EncodeChar (Char.ofNat n) =
      if n ≤ 0x7F then [UInt8.ofNat n]
      else if n ≤ 0x7FF then [UInt8.ofNat (n / 64 % 32 + 192), UInt8.ofNat (n % 64 + 128)]
      else if n ≤ 0xFFFF then
        [UInt8.ofNat (n / 4096 % 16 + 224), UInt8.ofNat (n / 64 % 64 + 128),
          UInt8.ofNat (n % 64 + 128)]
      else
        [UInt8.ofNat (n / 262144 % 8 + 240), UInt8.ofNat (n / 4096 % 64 + 128),
          UInt8.ofNat (n / 64 % 64 + 128), UInt8.ofNat (n % 64 + 128)] := by
  unfold String.utf8EncodeChar
  simp only [toNat_ofNat_scalar hn]

/-- What the first byte of a character of several bytes says about the others. -/
theorem leadOf?_eq_some (hlead : leadOf? b = some (count, low, high, bits)) :
    (0x80 ≤ low.toNat ∧ high.toNat ≤ 0xBF) ∧
      ((count = 1 ∧ b.toNat = bits + 0xC0 ∧ 2 ≤ bits ∧ bits < 32) ∨
        (count = 2 ∧ b.toNat = bits + 0xE0 ∧ bits < 16 ∧ (bits = 0 → 0xA0 ≤ low.toNat) ∧
          (bits = 13 → high.toNat ≤ 0x9F)) ∨
        (count = 3 ∧ b.toNat = bits + 0xF0 ∧ bits ≤ 4 ∧ (bits = 0 → 0x90 ≤ low.toNat) ∧
          (bits = 4 → high.toNat ≤ 0x8F))) := by
  have h80 : (0x80 : UInt8).toNat = 0x80 := rfl
  have hBF : (0xBF : UInt8).toNat = 0xBF := rfl
  have hA0 : (0xA0 : UInt8).toNat = 0xA0 := rfl
  have h9F : (0x9F : UInt8).toNat = 0x9F := rfl
  have h90 : (0x90 : UInt8).toNat = 0x90 := rfl
  have h8F : (0x8F : UInt8).toNat = 0x8F := rfl
  rw [leadOf?_eq] at hlead
  repeat' split at hlead
  all_goals cases hlead
  all_goals omega

theorem readTail_done (hread : readTail low high 0 bits bytes = (some c, behind)) :
    Char.ofNat bits = c ∧ bytes = behind := by
  simpa [readTail] using hread

/-- Behind the first byte of a character there is a byte in the range that the first allows. -/
theorem readTail_eq_some
    (hlow : 0x80 ≤ low.toNat) (hhigh : high.toNat ≤ 0xBF)
    (hread : readTail low high (count + 1) bits bytes = (some c, behind)) :
    ∃ n < 64, ∃ rest, bytes = UInt8.ofNat (n + 128) :: rest ∧
      low.toNat ≤ n + 128 ∧ n + 128 ≤ high.toNat ∧
      readTail 0x80 0xBF count (bits * 64 + n) rest = (some c, behind) := by
  cases bytes with
  | nil => simp [readTail] at hread
  | cons b rest =>
      rw [readTail] at hread
      split at hread
      next hrange =>
        rw [UInt8.le_iff_toNat_le, UInt8.le_iff_toNat_le] at hrange
        have hsum : b.toNat - 0x80 + 128 = b.toNat := by omega
        refine ⟨b.toNat - 0x80, by omega, rest, ?_, by omega, by omega, hread⟩
        rw [hsum, UInt8.ofNat_toNat]
      next => simp at hread

theorem utf8EncodeChar_two
    (hb : b.toNat = bits + 0xC0) (hbits : 2 ≤ bits ∧ bits < 32) (hn : n < 64) :
    String.utf8EncodeChar (Char.ofNat (bits * 64 + n)) = [b, UInt8.ofNat (n + 128)] := by
  have hfirst : (bits * 64 + n) / 64 % 32 + 192 = b.toNat := by omega
  have hlast : (bits * 64 + n) % 64 = n := by omega
  rw [utf8EncodeChar_ofNat (by omega), if_neg (by omega), if_pos (by omega), hfirst, hlast,
    UInt8.ofNat_toNat]

theorem utf8EncodeChar_three
    (hb : b.toNat = bits + 0xE0) (hbits : bits < 16) (hm : m < 64) (hn : n < 64)
    (hlowest : bits = 0 → 0xA0 ≤ m + 128) (hsurrogate : bits = 13 → m + 128 ≤ 0x9F) :
    String.utf8EncodeChar (Char.ofNat ((bits * 64 + m) * 64 + n)) =
      [b, UInt8.ofNat (m + 128), UInt8.ofNat (n + 128)] := by
  have hfirst : ((bits * 64 + m) * 64 + n) / 4096 % 16 + 224 = b.toNat := by omega
  have hsecond : ((bits * 64 + m) * 64 + n) / 64 % 64 = m := by omega
  have hlast : ((bits * 64 + m) * 64 + n) % 64 = n := by omega
  rw [utf8EncodeChar_ofNat (by omega), if_neg (by omega), if_neg (by omega), if_pos (by omega),
    hfirst, hsecond, hlast, UInt8.ofNat_toNat]

theorem utf8EncodeChar_four
    (hb : b.toNat = bits + 0xF0) (hbits : bits ≤ 4) (hk : k < 64) (hm : m < 64) (hn : n < 64)
    (hlowest : bits = 0 → 0x90 ≤ k + 128) (hhighest : bits = 4 → k + 128 ≤ 0x8F) :
    String.utf8EncodeChar (Char.ofNat (((bits * 64 + k) * 64 + m) * 64 + n)) =
      [b, UInt8.ofNat (k + 128), UInt8.ofNat (m + 128), UInt8.ofNat (n + 128)] := by
  have hfirst : (((bits * 64 + k) * 64 + m) * 64 + n) / 262144 % 8 + 240 = b.toNat := by omega
  have hsecond : (((bits * 64 + k) * 64 + m) * 64 + n) / 4096 % 64 = k := by omega
  have hthird : (((bits * 64 + k) * 64 + m) * 64 + n) / 64 % 64 = m := by omega
  have hlast : (((bits * 64 + k) * 64 + m) * 64 + n) % 64 = n := by omega
  rw [utf8EncodeChar_ofNat (by omega), if_neg (by omega), if_neg (by omega), if_neg (by omega),
    hfirst, hsecond, hthird, hlast, UInt8.ofNat_toNat]

/-- A character is read from its own bytes only. -/
theorem readChar_eq_some (hread : readChar b rest = (some c, behind)) :
    b :: rest = String.utf8EncodeChar c ++ behind := by
  unfold readChar at hread
  split at hread
  next hsmall =>
    simp only [Prod.mk.injEq, Option.some.injEq] at hread
    obtain ⟨rfl, rfl⟩ := hread
    rw [UInt8.lt_iff_toNat_lt] at hsmall
    change b.toNat < 128 at hsmall
    rw [utf8EncodeChar_ofNat (by omega), if_pos (by omega), UInt8.ofNat_toNat,
      List.singleton_append]
  next =>
    split at hread
    next => simp at hread
    next count low high bits hlead =>
      obtain ⟨⟨hlow, hhigh⟩, hcases⟩ := leadOf?_eq_some hlead
      rcases hcases with ⟨rfl, hb, hbits⟩ | ⟨rfl, hb, hbits, hlowest, hsurrogate⟩ |
        ⟨rfl, hb, hbits, hlowest, hhighest⟩
      · obtain ⟨n, hn, rest, rfl, -, -, hread⟩ := readTail_eq_some hlow hhigh hread
        obtain ⟨rfl, rfl⟩ := readTail_done hread
        rw [utf8EncodeChar_two hb hbits hn]
        rfl
      · obtain ⟨m, hm, rest, rfl, hfrom, hto, hread⟩ := readTail_eq_some hlow hhigh hread
        obtain ⟨n, hn, rest, rfl, -, -, hread⟩ := readTail_eq_some (by decide) (by decide) hread
        obtain ⟨rfl, rfl⟩ := readTail_done hread
        rw [utf8EncodeChar_three hb hbits hm hn (by omega) (by omega)]
        rfl
      · obtain ⟨k, hk, rest, rfl, hfrom, hto, hread⟩ := readTail_eq_some hlow hhigh hread
        obtain ⟨m, hm, rest, rfl, -, -, hread⟩ := readTail_eq_some (by decide) (by decide) hread
        obtain ⟨n, hn, rest, rfl, -, -, hread⟩ := readTail_eq_some (by decide) (by decide) hread
        obtain ⟨rfl, rfl⟩ := readTail_done hread
        rw [utf8EncodeChar_four hb hbits hk hm hn (by omega) (by omega)]
        rfl

theorem read_eq_map_some_iff {chars : List Char} :
    read bytes = chars.map some ↔ bytes = encodeChars chars := by
  refine ⟨fun hread => ?_, fun heq => heq ▸ read_encodeChars chars⟩
  induction chars generalizing bytes with
  | nil =>
      cases bytes with
      | nil => rfl
      | cons b rest => simp [read] at hread
  | cons c chars ih =>
      cases bytes with
      | nil => simp [read] at hread
      | cons b rest =>
          rw [read, List.map_cons, List.cons.injEq] at hread
          have hchar : readChar b rest = (some c, (readChar b rest).2) := Prod.ext hread.1 rfl
          rw [readChar_eq_some hchar, ih hread.2, encodeChars_cons]

theorem whole?_eq_some_iff {α : Type} {list : List (Option α)} {whole : List α} :
    whole? list = some whole ↔ list = whole.map some := by
  refine ⟨fun hwhole => ?_, fun heq => heq ▸ whole?_map_some whole⟩
  induction list generalizing whole with
  | nil =>
      cases hwhole
      rfl
  | cons member list ih =>
      cases member with
      | none => simp [whole?] at hwhole
      | some a =>
          rw [whole?, Option.map_eq_some_iff] at hwhole
          obtain ⟨others, hothers, rfl⟩ := hwhole
          rw [ih hothers, List.map_cons]

/-- A text is read from its own bytes only. -/
theorem decodeChars?_eq_some_iff {chars : List Char} :
    decodeChars? bytes = some chars ↔ bytes = encodeChars chars := by
  rw [decodeChars?, whole?_eq_some_iff, read_eq_map_some_iff]

end

/-! ## What is shown -/

theorem toList_decodeLossy (bytes : Bytes) :
    (decodeLossy bytes).toList = (read bytes).map (·.getD replacement) :=
  String.toList_ofList

/-- A text is shown as it is. -/
theorem toList_decodeLossy_encodeChars (chars : List Char) :
    (decodeLossy (encodeChars chars)).toList = chars := by
  rw [toList_decodeLossy, read_encodeChars, List.map_map]
  exact List.map_id chars

/-- Whether the bytes are a text in which the replacement character does not occur. -/
def IsClear (bytes : Bytes) : Prop :=
  ∃ chars, replacement ∉ chars ∧ bytes = encodeChars chars

theorem map_some_map_getD {α : Type} {default : α} {list : List (Option α)}
    (hdefault : default ∉ list.map (·.getD default)) :
    (list.map (·.getD default)).map some = list := by
  rw [List.map_map]
  refine (List.map_congr_left fun member hmember => ?_).trans (List.map_id list)
  cases member with
  | none => exact absurd (List.mem_map.mpr ⟨none, hmember, rfl⟩) hdefault
  | some a => rfl

/-- Where the replacement character does not show, the bytes are the text that is shown. -/
theorem eq_encodeChars_of_shown {bytes : Bytes} {chars : List Char}
    (hclear : replacement ∉ chars) (hshown : (decodeLossy bytes).toList = chars) :
    bytes = encodeChars chars := by
  rw [toList_decodeLossy] at hshown
  subst hshown
  rw [← read_eq_map_some_iff, map_some_map_getD hclear]

/-- No other bytes are shown alike exactly if the bytes are a clear text.  Otherwise the text that is
shown has other bytes, or a byte that begins no character can stand for one of its replacements. -/
theorem isClear_iff_forall_shown {bytes : Bytes} :
    IsClear bytes ↔ ∀ other, decodeLossy other = decodeLossy bytes → other = bytes := by
  constructor
  · rintro ⟨chars, hclear, rfl⟩ other hother
    refine eq_encodeChars_of_shown hclear ?_
    rw [hother, toList_decodeLossy_encodeChars]
  · intro halone
    have hbytes : encodeChars (decodeLossy bytes).toList = bytes :=
      halone _ (String.toList_inj.mp (toList_decodeLossy_encodeChars _))
    refine ⟨(decodeLossy bytes).toList, fun hmem => ?_, hbytes.symm⟩
    obtain ⟨front, back, hsplit⟩ := List.append_of_mem hmem
    -- No character begins with 0xFF, so this byte is shown by a replacement of its own.
    let other := encodeChars front ++ 0xFF :: encodeChars back
    have hread : read other = front.map some ++ none :: back.map some := by
      rw [read_encodeChars_append, read, ← read_encodeChars back]
      rfl
    have hother : decodeLossy other = decodeLossy bytes := by
      rw [← String.toList_inj, toList_decodeLossy, hread, hsplit]
      simp [Function.comp_def]
    have hlength := congrArg List.length ((halone other hother).trans hbytes.symm)
    have hsize : (String.utf8EncodeChar replacement).length = 3 := rfl
    rw [hsplit, encodeChars_append, encodeChars_cons] at hlength
    simp only [other, List.length_append, List.length_cons] at hlength
    omega

end ProxyHandshake.Utf8
