import ProxyHandshake.Bytes.Base64
import ProxyHandshake.Proofs.Utf8

/-!
# Base64 in both directions

What is written is read back, and only what is written is read: a text that decodes is the encoding
of the bytes that it decodes to.  The second half rests on the last group.  Its equals signs have to
fill it up, and the bits that its last symbol has too many have to be zero, so there is one text for
each list of bytes.
-/

namespace ProxyHandshake.Base64

/-! ## Symbols -/

def symbolByte (n : Nat) : UInt8 :=
  UInt8.ofNat (symbol n).toNat

theorem value?_symbolByte {n : Nat} (hn : n < 64) : value? (symbolByte n) = some n := by
  have hall : ∀ n < 64, value? (symbolByte n) = some n := by decide +kernel
  exact hall n hn

theorem eq_symbolByte {b : UInt8} {n : Nat} (hvalue : value? b = some n) :
    n < 64 ∧ b = symbolByte n := by
  have hall : ∀ k < 256, ∀ n ∈ value? (UInt8.ofNat k), n < 64 ∧ UInt8.ofNat k = symbolByte n := by
    decide +kernel
  have hb := hall b.toNat b.toNat_lt n
  rw [UInt8.ofNat_toNat] at hb
  exact hb hvalue

theorem symbolByte_ne_padding {n : Nat} (hn : n < 64) : symbolByte n ≠ padding := by
  intro heq
  have hvalue := value?_symbolByte hn
  rw [heq] at hvalue
  cases hvalue

theorem toNat_symbol {n : Nat} (hn : n < 64) : (symbol n).toNat < 0x80 := by
  have hall : ∀ n < 64, (symbol n).toNat < 0x80 := by decide +kernel
  exact hall n hn

/-! ## The groups that are written -/

/-- The bytes of the text that writes `bytes`. -/
def write (bytes : Bytes) : Bytes :=
  Utf8.encodeChars (encodeChars bytes)

theorem encodeChars_symbol {n : Nat} (hn : n < 64) (rest : List Char) :
    Utf8.encodeChars (symbol n :: rest) = symbolByte n :: Utf8.encodeChars rest := by
  rw [Utf8.encodeChars_cons]
  rcases Utf8.utf8EncodeChar_cases (symbol n) with ⟨_, hencoded⟩ | ⟨hlarge, _⟩
  · rw [hencoded]
    rfl
  · have hsmall := toNat_symbol hn
    omega

@[simp] theorem write_nil : write [] = [] := rfl

theorem write_one (a : UInt8) :
    write [a] =
      [symbolByte (a.toNat / 4), symbolByte (a.toNat % 4 * 16), padding, padding] := by
  have ha := a.toNat_lt
  have hend : Utf8.encodeChars ['=', '='] = [padding, padding] := by decide
  rw [write, encodeChars, encodeChars_symbol (by omega), encodeChars_symbol (by omega), hend]

theorem write_two (a b : UInt8) :
    let n := a.toNat * 256 + b.toNat
    write [a, b] =
      [symbolByte (n / 1024), symbolByte (n / 16 % 64), symbolByte (n % 16 * 4), padding] := by
  have ha := a.toNat_lt
  have hb := b.toNat_lt
  have hend : Utf8.encodeChars ['='] = [padding] := by decide
  rw [write, encodeChars, encodeChars_symbol (by omega), encodeChars_symbol (by omega),
    encodeChars_symbol (by omega), hend]

theorem write_three (a b c : UInt8) (rest : Bytes) :
    let n := (a.toNat * 256 + b.toNat) * 256 + c.toNat
    write (a :: b :: c :: rest) =
      symbolByte (n / 262144) :: symbolByte (n / 4096 % 64) :: symbolByte (n / 64 % 64) ::
        symbolByte (n % 64) :: write rest := by
  have ha := a.toNat_lt
  have hb := b.toNat_lt
  have hc := c.toNat_lt
  rw [write, encodeChars, encodeChars_symbol (by omega), encodeChars_symbol (by omega),
    encodeChars_symbol (by omega), encodeChars_symbol (by omega), write]

/-! ## Reading what was written -/

theorem valueAt_symbolByte {n : Nat} (hn : n < 64) (offset : Nat) :
    valueAt offset (symbolByte n) = .ok n := by
  rw [valueAt, value?_symbolByte hn]

theorem decodeGroups_cons {i j k l : Nat} (hi : i < 64) (hj : j < 64) (hk : k < 64) (hl : l < 64)
    (start : Nat) {rest : Bytes} (hrest : rest ≠ []) :
    let n := ((i * 64 + j) * 64 + k) * 64 + l
    decodeGroups start
        (symbolByte i :: symbolByte j :: symbolByte k :: symbolByte l :: rest) =
      (decodeGroups (start + 4) rest).map fun behind =>
        UInt8.ofNat (n / 65536) :: UInt8.ofNat (n / 256 % 256) :: UInt8.ofNat (n % 256) ::
          behind := by
  obtain ⟨e, rest, rfl⟩ := List.exists_cons_of_ne_nil hrest
  simp only [decodeGroups, valueAt_symbolByte hi, valueAt_symbolByte hj, valueAt_symbolByte hk,
    valueAt_symbolByte hl]
  cases decodeGroups (start + 4) (e :: rest) with
  | ok behind => rfl
  | error cause => rfl

theorem decodeLast_four {i j k l : Nat} (hi : i < 64) (hj : j < 64) (hk : k < 64) (hl : l < 64)
    (start : Nat) :
    let n := ((i * 64 + j) * 64 + k) * 64 + l
    decodeLast start [symbolByte i, symbolByte j, symbolByte k, symbolByte l] =
      .ok [UInt8.ofNat (n / 65536), UInt8.ofNat (n / 256 % 256), UInt8.ofNat (n % 256)] := by
  simp [decodeLast, readGroup, symbolByte_ne_padding, valueAt_symbolByte, hi, hj, hk, hl]

theorem decodeLast_three {i j k : Nat} (hi : i < 64) (hj : j < 64) (hk : k < 64)
    (hzero : k % 4 = 0) (start : Nat) :
    let n := (i * 64 + j) * 64 + k
    decodeLast start [symbolByte i, symbolByte j, symbolByte k, padding] =
      .ok [UInt8.ofNat (n / 1024), UInt8.ofNat (n / 4 % 256)] := by
  have hlast : ((i * 64 + j) * 64 + k) % 4 = 0 := by omega
  simp [decodeLast, readGroup, symbolByte_ne_padding, valueAt_symbolByte, hi, hj, hk, hlast]

theorem decodeLast_two {i j : Nat} (hi : i < 64) (hj : j < 64) (hzero : j % 16 = 0)
    (start : Nat) :
    decodeLast start [symbolByte i, symbolByte j, padding, padding] =
      .ok [UInt8.ofNat ((i * 64 + j) / 16)] := by
  have hlast : (i * 64 + j) % 16 = 0 := by omega
  simp [decodeLast, readGroup, symbolByte_ne_padding, valueAt_symbolByte, hi, hj, hlast]

theorem write_ne_nil {bytes : Bytes} (hbytes : bytes ≠ []) : write bytes ≠ [] := by
  rcases bytes with _ | ⟨a, _ | ⟨b, _ | ⟨c, rest⟩⟩⟩
  · exact absurd rfl hbytes
  · simp [write_one]
  · simp [write_two]
  · simp [write_three]

/-! Each group is read as the bytes that it writes. -/

theorem ofNat_one (a : UInt8) :
    UInt8.ofNat ((a.toNat / 4 * 64 + a.toNat % 4 * 16) / 16) = a := by
  have ha := a.toNat_lt
  have hvalue : (a.toNat / 4 * 64 + a.toNat % 4 * 16) / 16 = a.toNat := by omega
  rw [hvalue, UInt8.ofNat_toNat]

theorem ofNat_two (a b : UInt8) :
    let n := a.toNat * 256 + b.toNat
    let m := (n / 1024 * 64 + n / 16 % 64) * 64 + n % 16 * 4
    UInt8.ofNat (m / 1024) = a ∧ UInt8.ofNat (m / 4 % 256) = b := by
  have ha := a.toNat_lt
  have hb := b.toNat_lt
  intro n m
  have hm : m = n * 4 := by omega
  have hfirst : m / 1024 = a.toNat := by omega
  have hsecond : m / 4 % 256 = b.toNat := by omega
  rw [hfirst, hsecond]
  exact ⟨UInt8.ofNat_toNat, UInt8.ofNat_toNat⟩

theorem ofNat_three (a b c : UInt8) :
    let n := (a.toNat * 256 + b.toNat) * 256 + c.toNat
    let m := ((n / 262144 * 64 + n / 4096 % 64) * 64 + n / 64 % 64) * 64 + n % 64
    UInt8.ofNat (m / 65536) = a ∧ UInt8.ofNat (m / 256 % 256) = b ∧
      UInt8.ofNat (m % 256) = c := by
  have ha := a.toNat_lt
  have hb := b.toNat_lt
  have hc := c.toNat_lt
  intro n m
  have hm : m = n := by omega
  have hfirst : m / 65536 = a.toNat := by omega
  have hsecond : m / 256 % 256 = b.toNat := by omega
  have hthird : m % 256 = c.toNat := by omega
  rw [hfirst, hsecond, hthird]
  exact ⟨UInt8.ofNat_toNat, UInt8.ofNat_toNat, UInt8.ofNat_toNat⟩

theorem decodeGroups_write (start : Nat) (bytes : Bytes) :
    decodeGroups start (write bytes) = .ok bytes := by
  induction bytes using encodeChars.induct generalizing start with
  | case1 => rfl
  | case2 a =>
      have ha := a.toNat_lt
      rw [write_one, decodeGroups, decodeLast_two (by omega) (by omega) (by omega), ofNat_one]
      all_goals simp
  | case3 a b =>
      have ha := a.toNat_lt
      have hb := b.toNat_lt
      obtain ⟨hfirst, hsecond⟩ := ofNat_two a b
      rw [write_two, decodeGroups, decodeLast_three (by omega) (by omega) (by omega) (by omega),
        hfirst, hsecond]
      all_goals simp
  | case4 a b c rest ih =>
      have ha := a.toNat_lt
      have hb := b.toNat_lt
      have hc := c.toNat_lt
      obtain ⟨hfirst, hsecond, hthird⟩ := ofNat_three a b c
      rw [write_three]
      by_cases hrest : rest = []
      · subst hrest
        rw [write_nil, decodeGroups,
          decodeLast_four (by omega) (by omega) (by omega) (by omega), hfirst, hsecond, hthird]
        all_goals simp
      · rw [decodeGroups_cons (by omega) (by omega) (by omega) (by omega) start
          (write_ne_nil hrest), ih, hfirst, hsecond, hthird]
        rfl

theorem length_write (bytes : Bytes) : (write bytes).length % 4 = 0 := by
  induction bytes using encodeChars.induct with
  | case1 => rfl
  | case2 a => simp [write_one]
  | case3 a b => simp [write_two]
  | case4 a b c rest ih =>
      rw [write_three]
      simp only [List.length_cons]
      omega

/-- What is written is read back. -/
theorem decode_encode (bytes : Bytes) : decode (encode bytes) = .ok bytes := by
  have hbytes : Utf8.encode (encode bytes) = write bytes := by
    rw [Utf8.encode, encode, String.toList_ofList, write]
  have hstray : strayEnd? (write bytes) = none := by
    have hlength := length_write bytes
    unfold strayEnd?
    split
    · rfl
    · rw [if_neg (by omega)]
  rw [decode, hbytes, decodeBytes, hstray]
  exact decodeGroups_write 0 bytes

/-! ## Writing what was read -/

theorem eq_of_valueAt
    {offset n : Nat} {b : UInt8} (hvalue : valueAt offset b = .ok n) :
    n < 64 ∧ b = symbolByte n := by
  unfold valueAt at hvalue
  split at hvalue
  next m hm =>
    cases hvalue
    exact eq_symbolByte hm
  next => cases hvalue

/-- The last group is made of symbols, and then of equals signs. -/
theorem eq_of_readGroup
    {start pads padsAfter : Nat} {values valuesAfter : List Nat} {last lastAfter : UInt8}
    {group : Bytes}
    (hread : readGroup start values last pads group = .ok (valuesAfter, lastAfter, padsAfter)) :
    ∃ more count,
      valuesAfter = values ++ more ∧ padsAfter = pads + count ∧
      group = more.map symbolByte ++ List.replicate count padding ∧
      (∀ n ∈ more, n < 64) ∧ (0 < pads → more = []) := by
  induction group generalizing values last pads with
  | nil =>
      rw [readGroup] at hread
      cases hread
      exact ⟨[], 0, by simp, rfl, rfl, by simp, fun _ => rfl⟩
  | cons b group ih =>
      rw [readGroup] at hread
      split at hread
      next hpadding =>
        split at hread
        · cases hread
        · obtain ⟨more, count, hvalues, hpads, hgroup, hsmall, hnone⟩ := ih hread
          obtain rfl := hnone (Nat.succ_pos pads)
          refine ⟨[], count + 1, hvalues, by omega, ?_, hsmall, fun _ => rfl⟩
          rw [hgroup, hpadding]
          rfl
      next =>
        split at hread
        · cases hread
        next hpads =>
          split at hread
          · cases hread
          next n hvalue =>
            obtain ⟨hn, rfl⟩ := eq_of_valueAt hvalue
            obtain ⟨more, count, hvalues, hcount, hgroup, hsmall, _⟩ := ih hread
            refine ⟨n :: more, count, by simp [hvalues], by omega, by simp [hgroup], ?_, ?_⟩
            · exact List.forall_mem_cons.mpr ⟨hn, hsmall⟩
            · intro hpositive
              omega

/-! Each group writes the symbols that it was read from. -/

theorem write_group {i j k l : Nat} (hi : i < 64) (hj : j < 64) (hk : k < 64) (hl : l < 64)
    (rest : Bytes) :
    let n := ((i * 64 + j) * 64 + k) * 64 + l
    write (UInt8.ofNat (n / 65536) :: UInt8.ofNat (n / 256 % 256) :: UInt8.ofNat (n % 256) ::
        rest) =
      symbolByte i :: symbolByte j :: symbolByte k :: symbolByte l :: write rest := by
  intro n
  have hn : n < 16777216 := by omega
  have hsame : (n / 65536 % 256 * 256 + n / 256 % 256 % 256) * 256 + n % 256 % 256 = n := by omega
  have hfirst : n / 262144 = i := by omega
  have hsecond : n / 4096 % 64 = j := by omega
  have hthird : n / 64 % 64 = k := by omega
  have hfourth : n % 64 = l := by omega
  rw [write_three]
  simp only [UInt8.toNat_ofNat', Nat.reducePow, hsame, hfirst, hsecond, hthird, hfourth]

theorem write_pair {i j k : Nat} (hi : i < 64) (hj : j < 64) (hk : k < 64) (hzero : k % 4 = 0) :
    let n := (i * 64 + j) * 64 + k
    write [UInt8.ofNat (n / 1024), UInt8.ofNat (n / 4 % 256)] =
      [symbolByte i, symbolByte j, symbolByte k, padding] := by
  intro n
  have hn : n < 262144 := by omega
  have hsame : n / 1024 % 256 * 256 + n / 4 % 256 % 256 = n / 4 := by omega
  have hfirst : n / 4 / 1024 = i := by omega
  have hsecond : n / 4 / 16 % 64 = j := by omega
  have hthird : n / 4 % 16 * 4 = k := by omega
  rw [write_two]
  simp only [UInt8.toNat_ofNat', Nat.reducePow, hsame, hfirst, hsecond, hthird]

theorem write_single {i j : Nat} (hi : i < 64) (hj : j < 64) (hzero : j % 16 = 0) :
    write [UInt8.ofNat ((i * 64 + j) / 16)] = [symbolByte i, symbolByte j, padding, padding] := by
  have hfirst : (i * 64 + j) / 16 % 256 / 4 = i := by omega
  have hsecond : (i * 64 + j) / 16 % 256 % 4 * 16 = j := by omega
  rw [write_one]
  simp only [UInt8.toNat_ofNat', Nat.reducePow, hfirst, hsecond]

theorem write_of_decodeLast
    {start : Nat} {group bytes : Bytes} (hgroup : group.length ≤ 4)
    (hdecode : decodeLast start group = .ok bytes) : write bytes = group := by
  unfold decodeLast at hdecode
  split at hdecode
  · cases hdecode
  next values last pads hread =>
    obtain ⟨more, count, hvalues, hpads, hbytes, hsmall, _⟩ := eq_of_readGroup hread
    rw [List.nil_append] at hvalues
    rw [Nat.zero_add] at hpads
    subst hvalues hpads
    rw [hbytes] at hgroup ⊢
    simp only [List.length_append, List.length_map, List.length_replicate] at hgroup
    split at hdecode
    · cases hdecode
    split at hdecode
    · cases hdecode
    -- Two symbols at least, and equals signs up to four.
    rcases values with _ | ⟨i, _ | ⟨j, _ | ⟨k, _ | ⟨l, _ | ⟨_, more⟩⟩⟩⟩⟩
    · simp at *
    · simp at *
    · obtain rfl : pads = 2 := by simp only [List.length_cons, List.length_nil] at *; omega
      obtain ⟨hi, hj⟩ : i < 64 ∧ j < 64 := by simpa using hsmall
      simp only at hdecode
      split at hdecode
      · cases hdecode
      · cases hdecode
        exact write_single hi hj (by omega)
    · obtain rfl : pads = 1 := by simp only [List.length_cons, List.length_nil] at *; omega
      obtain ⟨hi, hj, hk⟩ : i < 64 ∧ j < 64 ∧ k < 64 := by simpa using hsmall
      simp only at hdecode
      split at hdecode
      · cases hdecode
      · cases hdecode
        exact write_pair hi hj hk (by omega)
    · obtain rfl : pads = 0 := by simp only [List.length_cons, List.length_nil] at *; omega
      obtain ⟨hi, hj, hk, hl⟩ : i < 64 ∧ j < 64 ∧ k < 64 ∧ l < 64 := by simpa using hsmall
      cases hdecode
      exact write_group hi hj hk hl []
    · simp only [List.length_cons] at hgroup
      omega

/-- What a group that is not the last one was read from. -/
theorem of_decodeGroups_cons
    {start : Nat} {a b c d e : UInt8} {rest bytes : Bytes}
    (hdecode : decodeGroups start (a :: b :: c :: d :: e :: rest) = .ok bytes) :
    ∃ i j k l behind,
      valueAt start a = .ok i ∧ valueAt (start + 1) b = .ok j ∧
      valueAt (start + 2) c = .ok k ∧ valueAt (start + 3) d = .ok l ∧
      decodeGroups (start + 4) (e :: rest) = .ok behind ∧
      bytes =
        let n := ((i * 64 + j) * 64 + k) * 64 + l
        UInt8.ofNat (n / 65536) :: UInt8.ofNat (n / 256 % 256) :: UInt8.ofNat (n % 256) ::
          behind := by
  simp only [decodeGroups, bind, Except.bind, pure, Except.pure] at hdecode
  split at hdecode
  · cases hdecode
  next i hfirst =>
  split at hdecode
  · cases hdecode
  next j hsecond =>
  split at hdecode
  · cases hdecode
  next k hthird =>
  split at hdecode
  · cases hdecode
  next l hfourth =>
  split at hdecode
  · cases hdecode
  next behind hbehind =>
  exact ⟨i, j, k, l, behind, hfirst, hsecond, hthird, hfourth, hbehind,
    (Except.ok.inj hdecode).symm⟩

theorem length_le_four
    {group : Bytes} (hshort : ∀ a b c d e rest, group ≠ a :: b :: c :: d :: e :: rest) :
    group.length ≤ 4 := by
  rcases group with _ | ⟨a, _ | ⟨b, _ | ⟨c, _ | ⟨d, _ | ⟨e, rest⟩⟩⟩⟩⟩
  · simp
  · simp
  · simp
  · simp
  · simp
  · exact (hshort a b c d e rest rfl).elim

theorem write_of_decodeGroups
    {start : Nat} {text bytes : Bytes} (hdecode : decodeGroups start text = .ok bytes) :
    write bytes = text := by
  induction start, text using decodeGroups.induct generalizing bytes with
  | case1 start a b c d e rest ih =>
      obtain ⟨i, j, k, l, behind, hfirst, hsecond, hthird, hfourth, hbehind, rfl⟩ :=
        of_decodeGroups_cons hdecode
      obtain ⟨hi, rfl⟩ := eq_of_valueAt hfirst
      obtain ⟨hj, rfl⟩ := eq_of_valueAt hsecond
      obtain ⟨hk, rfl⟩ := eq_of_valueAt hthird
      obtain ⟨hl, rfl⟩ := eq_of_valueAt hfourth
      rw [write_group hi hj hk hl, ih hbehind]
  | case2 =>
      cases hdecode
      rfl
  | case3 start group hshort hnonempty =>
      rw [decodeGroups] at hdecode
      · exact write_of_decodeLast (length_le_four hshort) hdecode
      · exact hshort
      · exact hnonempty

/-- Only what is written is read. -/
theorem encode_of_decode {text : String} {bytes : Bytes} (hdecode : decode text = .ok bytes) :
    encode bytes = text := by
  unfold decode decodeBytes at hdecode
  split at hdecode
  · cases hdecode
  · have hwrite := write_of_decodeGroups hdecode
    have hread := congrArg Utf8.decodeChars? hwrite
    rw [write, Utf8.encode, Utf8.decodeChars?_encodeChars, Utf8.decodeChars?_encodeChars,
      Option.some.injEq] at hread
    rw [encode, hread, String.ofList_toList]

end ProxyHandshake.Base64
