import ProxyHandshake.Http.Header
import ProxyHandshake.Proofs.Text
import ProxyHandshake.Proofs.Utf8

/-!
# Headers and their values

A name is spelled in any case, in visible characters.  A value that was a text is read as this text if it
is plain, and not at all otherwise.  Every plain text can be a value.

What is removed from a list of headers or put into it changes the values of one name, and those of no
other.
-/

namespace ProxyHandshake

/-! ## Names -/

/-- The characters of a name are visible, and neither colons nor capitals. -/
theorem visible_of_isLegal {c : Char} (hc : c.isLower = true ∨ isTokenMark c = true) :
    0x20 < c.toNat ∧ c.toNat < 0x7F ∧ c ≠ ':' ∧ ¬ (65 ≤ c.toNat ∧ c.toNat ≤ 90) := by
  have hcolon : ':'.toNat = 58 := rfl
  rcases hc with hlower | hmark
  · have hbounds := Text.isLower_bounds hlower
    exact ⟨by omega, by omega, by rintro rfl; omega, by omega⟩
  · rw [isTokenMark, Bool.or_eq_true, List.contains_iff_mem] at hmark
    rcases hmark with hdigit | hmem
    · have hbounds := Text.isDigit_bounds hdigit
      exact ⟨by omega, by omega, by rintro rfl; omega, by omega⟩
    · have hmarks : ∀ d ∈ "!#$%&'*+-.^_\x60|~".toList,
          0x20 < d.toNat ∧ d.toNat < 0x7F ∧ d ≠ ':' ∧ ¬ (65 ≤ d.toNat ∧ d.toNat ≤ 90) :=
        Text.forall_mem_of_all (by decide)
      exact hmarks c hmem

theorem toLower_cases (c : Char) : c.toLower = c ∨ (65 ≤ c.toNat ∧ c.toNat ≤ 90) := by
  unfold Char.toLower
  split
  next hupper =>
    simp only [UInt32.le_iff_toNat_le] at hupper
    exact .inr hupper
  next => exact .inl rfl

theorem toLower_of_isLegal {c : Char} (hc : c.isLower = true ∨ isTokenMark c = true) :
    c.toLower = c :=
  (toLower_cases c).resolve_right (visible_of_isLegal hc).2.2.2

namespace HeaderName

/-- Names are kept in small letters. -/
theorem lowerChars_text (name : HeaderName) :
    Text.lowerChars name.text.toList = name.text.toList := by
  have hlegal := name.legal
  rw [isHeaderName, Bool.and_eq_true, List.all_eq_true] at hlegal
  have hsame : ∀ c ∈ name.text.toList, c.toLower = c := fun c hc =>
    toLower_of_isLegal (by simpa using hlegal.2 c hc)
  rw [Text.lowerChars, List.map_congr_left hsame, List.map_id']

/-- A spelling of a name is visible, too. -/
theorem visible_of_spelled
    {name : HeaderName} {spelling : List Char}
    (hspelled : Text.lowerChars spelling = name.text.toList) {c : Char} (hc : c ∈ spelling) :
    0x20 < c.toNat ∧ c.toNat < 0x7F ∧ c ≠ ':' := by
  have hlegal := name.legal
  rw [isHeaderName, Bool.and_eq_true, List.all_eq_true] at hlegal
  have hmem : c.toLower ∈ name.text.toList := by
    rw [← hspelled]
    exact List.mem_map_of_mem hc
  obtain ⟨hlow, hhigh, hunmarked, -⟩ :=
    visible_of_isLegal (c := c.toLower) (by simpa using hlegal.2 _ hmem)
  have hcolon : ':'.toNat = 58 := rfl
  rcases toLower_cases c with hsame | hupper
  · rw [hsame] at hlow hhigh hunmarked
    exact ⟨hlow, hhigh, hunmarked⟩
  · exact ⟨by omega, by omega, by rintro rfl; omega⟩

theorem trimChars_of_spelled
    {name : HeaderName} {spelling : List Char}
    (hspelled : Text.lowerChars spelling = name.text.toList) :
    Text.trimChars spelling = spelling :=
  Text.trimChars_of_unblank fun _ hc =>
    Text.isBlank_of_visible (visible_of_spelled hspelled hc).1 (visible_of_spelled hspelled hc).2.1

/-- The texts that spell a name are those that are the name in small letters, unless they are too long. -/
theorem ofText?_eq_some_iff {text : String} {name : HeaderName} :
    ofText? text = some name ↔ Text.lower text = name.text ∧ text.length ≤ longest := by
  rw [ofText?]
  constructor
  · intro hread
    split at hread
    · next hlegal =>
      obtain rfl := Option.some.inj hread
      exact ⟨rfl, hlegal.2⟩
    · cases hread
  · rintro ⟨hlower, hlength⟩
    rw [dif_pos ⟨hlower ▸ name.legal, hlength⟩]
    simp only [hlower]

theorem ofText?_spelling
    {name : HeaderName} {spelling : List Char}
    (hspelled : Text.lowerChars spelling = name.text.toList) (hshort : spelling.length ≤ longest) :
    ofText? (String.ofList spelling) = some name := by
  refine ofText?_eq_some_iff.mpr ⟨?_, by rwa [String.length_ofList]⟩
  rw [Text.lower, String.toList_ofList, hspelled, String.ofList_toList]

end HeaderName

/-! ## Values -/

/-- A text of visible characters, blanks and tabs. -/
def Text.IsPlain (text : List Char) : Prop :=
  ∀ c ∈ text, c = '\t' ∨ (0x20 ≤ c.toNat ∧ c.toNat < 0x7F)

namespace HeaderValue

theorem isTextByte_iff (b : UInt8) :
    isTextByte b = true ↔ b.toNat = 9 ∨ (0x20 ≤ b.toNat ∧ b.toNat < 0x7F) := by
  simp [isTextByte, UInt8.le_iff_toNat_le, UInt8.lt_iff_toNat_lt, ← UInt8.toNat_inj]

/-- Of a text, either every character is kept, or nothing. -/
theorem text?_encodeChars
    {value : HeaderValue} {chars : List Char} (hbytes : value.bytes = Utf8.encodeChars chars) :
    value.text? = if (Utf8.encodeChars chars).all isTextByte then some chars else none := by
  rw [text?, hbytes]
  split
  next hplain =>
    refine congrArg some (Utf8.map_encodeChars fun b hb => ?_)
    have hbounds := (isTextByte_iff b).mp (List.all_eq_true.mp hplain b hb)
    omega
  next => rfl

theorem all_isTextByte {chars : List Char} (hchars : Text.IsPlain chars) :
    (Utf8.encodeChars chars).all isTextByte = true := by
  rw [List.all_eq_true]
  intro b hb
  obtain ⟨c, hc, hmem⟩ := List.mem_flatMap.mp hb
  have hplain : c.toNat = 9 ∨ (0x20 ≤ c.toNat ∧ c.toNat < 0x7F) := by
    rcases hchars c hc with rfl | hvisible
    · exact .inl rfl
    · exact .inr hvisible
  rcases Utf8.utf8EncodeChar_cases c with ⟨_, hencoded⟩ | ⟨hlarge, _⟩
  · have hb : b.toNat = c.toNat := by
      rw [hencoded, List.mem_singleton] at hmem
      rw [hmem, Utf8.toNat_ofNat_of_lt (by omega)]
    rw [isTextByte_iff, hb]
    exact hplain
  · omega

theorem all_isHeaderByte {bytes : Bytes} (hplain : bytes.all isTextByte = true) :
    bytes.all isHeaderByte = true := by
  rw [List.all_eq_true] at hplain ⊢
  intro b hb
  have hbounds := (isTextByte_iff b).mp (hplain b hb)
  simp only [isHeaderByte, Bool.or_eq_true, beq_iff_eq, Bool.and_eq_true, decide_eq_true_eq,
    bne_iff_ne, UInt8.le_iff_toNat_le, ne_eq, ← UInt8.toNat_inj]
  simp only [UInt8.reduceToNat]
  omega

theorem bytes_of_ofBytes? {bytes : Bytes} {value : HeaderValue}
    (hvalue : ofBytes? bytes = some value) : value.bytes = bytes := by
  rw [ofBytes?] at hvalue
  split at hvalue
  · rw [← Option.some.inj hvalue]
  · cases hvalue

/-- A value is read as the plain text whose bytes it holds. -/
theorem text?_eq_some_iff {value : HeaderValue} {text : List Char} :
    value.text? = some text ↔ value.bytes = Utf8.encodeChars text ∧ Text.IsPlain text := by
  constructor
  · intro hread
    rw [text?] at hread
    split at hread
    · next hplain =>
      obtain rfl := Option.some.inj hread
      rw [List.all_eq_true] at hplain
      have hbounds (b : UInt8) (hb : b ∈ value.bytes) := (isTextByte_iff b).mp (hplain b hb)
      refine ⟨(Utf8.encodeChars_map fun b hb => ?_).symm, List.forall_mem_map.mpr fun b hb => ?_⟩
      · have := hbounds b hb
        omega
      · have hb := hbounds b hb
        rw [Utf8.toNat_ofNat_char (by omega)]
        exact hb.imp_left fun htab => by rw [htab]
    · cases hread
  · rintro ⟨hbytes, hplain⟩
    rw [text?_encodeChars hbytes, if_pos (all_isTextByte hplain)]

/-- Every plain text is a value, and is read as it is. -/
theorem exists_of_isPlain {text : String} (hplain : Text.IsPlain text.toList) :
    ∃ value, ofText? text = some value ∧ value.text? = some text.toList := by
  have hlegal : (Utf8.encode text).all isHeaderByte = true := all_isHeaderByte (all_isTextByte hplain)
  refine ⟨⟨Utf8.encode text, hlegal, false⟩, ?_, text?_eq_some_iff.mpr ⟨rfl, hplain⟩⟩
  rw [ofText?, ofBytes?, dif_pos hlegal]

end HeaderValue

/-! ## Lists of headers -/

namespace Headers

theorem foldl_remove (removed : List HeaderName) (headers : Headers) :
    removed.foldl remove headers =
      ⟨headers.entries.filter fun entry => decide (entry.1 ∉ removed)⟩ := by
  induction removed generalizing headers with
  | nil => exact congrArg mk (List.filter_eq_self.mpr (by simp)).symm
  | cons name removed ih =>
      rw [List.foldl_cons, ih, remove, mk.injEq, List.filter_filter]
      refine List.filter_congr fun entry _ => ?_
      simp [Bool.and_comm]

theorem mem_names_foldl_remove (removed : List HeaderName) (headers : Headers) (name : HeaderName) :
    name ∈ (removed.foldl remove headers).names ↔ name ∈ headers.names ∧ name ∉ removed := by
  simp only [foldl_remove, names, List.mem_map, List.mem_filter, decide_eq_true_eq]
  constructor
  · rintro ⟨entry, ⟨hmem, hkept⟩, rfl⟩
    exact ⟨⟨entry, hmem, rfl⟩, hkept⟩
  · rintro ⟨⟨entry, hmem, rfl⟩, hkept⟩
    exact ⟨entry, ⟨hmem, hkept⟩, rfl⟩

theorem values_remove (headers : Headers) (name other : HeaderName) :
    (headers.remove name).values other = if other = name then [] else headers.values other := by
  obtain ⟨entries⟩ := headers
  rw [remove, values, values]
  induction entries with
  | nil => simp
  | cons entry entries ih =>
      by_cases hname : entry.1 = name
      · by_cases hother : entry.1 = other
        · simp_all
        · simp_all
      · by_cases hother : entry.1 = other
        · simp_all
        · simp_all

theorem values_append (headers : Headers) (name other : HeaderName) (value : HeaderValue) :
    (headers.append name value).values other =
      headers.values other ++ if name = other then [value] else [] := by
  rw [append, values, values, List.filterMap_append]
  by_cases hother : name = other
  · simp [hother]
  · simp [hother]

theorem values_put (headers : Headers) (name other : HeaderName) (value : HeaderValue) :
    (headers.put name value).values other =
      if other = name then [value] else headers.values other := by
  rw [put, values_append, values_remove]
  by_cases hother : other = name
  · simp [hother]
  · simp [hother, Ne.symm hother]

theorem values_foldl_remove (names : List HeaderName) (headers : Headers) (name : HeaderName) :
    (names.foldl remove headers).values name =
      if name ∈ names then [] else headers.values name := by
  induction names generalizing headers with
  | nil => simp
  | cons first names ih =>
      rw [List.foldl_cons, ih, values_remove]
      by_cases hfirst : name = first
      · simp [hfirst]
      · simp [hfirst]

end Headers

end ProxyHandshake
