import ProxyHandshake.Proofs.Connect.Head

/-!
# Heads that are read back as they were written

A proxy writes its status as three digits between the version and a reason, and each header on a line
of its own.  The reason is free text up to the end of its line, and a value may hold colons and blanks,
so the reader has to stop at the first sign of each kind and not at a later one.
-/

namespace ProxyHandshake

/-! ## The status -/

namespace Status

theorem toDigits_code (status : Status) :
    Nat.toDigits 10 status.code =
      [Nat.digitChar (status.code / 10 / 10), Nat.digitChar (status.code / 10 % 10),
        Nat.digitChar (status.code % 10)] := by
  obtain ⟨hlow, hhigh⟩ := status.inRange
  rw [Nat.toDigits_of_base_le (by decide) (by omega), Nat.toDigits_of_base_le (by decide) (by omega),
    Nat.toDigits_of_lt_base (by omega)]
  rfl

/-- A code is read from its digits. -/
theorem ofChars?_toDigits (status : Status) :
    ofChars? (Nat.toDigits 10 status.code) = some status := by
  obtain ⟨hlow, hhigh⟩ := status.inRange
  have hfirst : status.code / 10 / 10 < 10 := by omega
  have hsecond : status.code / 10 % 10 < 10 := Nat.mod_lt _ (by decide)
  have hthird : status.code % 10 < 10 := Nat.mod_lt _ (by decide)
  have hsum : (48 + status.code / 10 / 10 - 48) * 100 + (48 + status.code / 10 % 10 - 48) * 10 +
      (48 + status.code % 10 - 48) = status.code := by
    omega
  have hdigits : ((Nat.digitChar (status.code / 10 / 10)).isDigit &&
      (Nat.digitChar (status.code / 10 % 10)).isDigit &&
      (Nat.digitChar (status.code % 10)).isDigit) = true := by
    simp only [Nat.isDigit_digitChar, hfirst, hsecond, hthird, decide_true, Bool.and_true]
  rw [toDigits_code, ofChars?, if_pos hdigits, Nat.toNat_digitChar_of_lt_ten hfirst,
    Nat.toNat_digitChar_of_lt_ten hsecond, Nat.toNat_digitChar_of_lt_ten hthird, hsum, ofCode?,
    dif_pos status.inRange]

end Status

namespace Connect

def statusLine (status : Status) (reason : String) : String :=
  "HTTP/1.1 " ++ toString status.code ++ " " ++ reason

theorem toList_statusLine (status : Status) (reason : String) :
    (statusLine status reason).toList =
      "HTTP/1.1".toList ++ ' ' :: (Nat.toDigits 10 status.code ++ ' ' :: reason.toList) := by
  have hversion : "HTTP/1.1 ".toList = "HTTP/1.1".toList ++ [' '] := by decide
  simp only [statusLine, String.toList_append, hversion, Nat.toString_eq_ofList_toDigits,
    String.toList_ofList, List.append_assoc, List.singleton_append]
  rfl

/-- Whatever the reason is, the status is read from the digits in front of it. -/
theorem readStatus_statusLine (status : Status) (reason : String) :
    readStatus (statusLine status reason).toList = .ok status := by
  have hcode : Text.pieces (· == ' ') (Nat.toDigits 10 status.code ++ ' ' :: reason.toList) =
      Nat.toDigits 10 status.code :: Text.pieces (· == ' ') reason.toList :=
    Text.pieces_append (Text.beq_eq_false_of_mem (Text.not_mem_toDigits rfl _)) rfl _
  have hversion (behind : List Char) : Text.pieces (· == ' ') ("HTTP/1.1".toList ++ ' ' :: behind) =
      "HTTP/1.1".toList :: Text.pieces (· == ' ') behind :=
    Text.pieces_append (Text.beq_eq_false_of_mem (by decide)) rfl _
  have hknown : (Text.behind? "HTTP/1.".toList "HTTP/1.1".toList).isNone = false := by decide
  rw [readStatus, toList_statusLine]
  simp only [hversion, hcode, hknown, status.ofChars?_toDigits, Bool.false_eq_true, if_false]

theorem not_mem_statusLine {reason : String} (hreason : '\r' ∉ reason.toList) (status : Status) :
    '\r' ∉ (statusLine status reason).toList := by
  have hcode : '\r' ∉ Nat.toDigits 10 status.code := Text.not_mem_toDigits rfl _
  rw [toList_statusLine]
  simp [hcode, hreason]

end Connect

/-! ## Plain headers -/

theorem toLower_isLegal {c : Char} (hc : c.isAlpha = true ∨ isTokenMark c = true) :
    (c.toLower.isLower || isTokenMark c.toLower) = true := by
  have hletters : ∀ n < 0x80, (Char.ofNat n).isAlpha = true → (Char.ofNat n).toLower.isLower = true := by
    decide +kernel
  rcases hc with hletter | hmark
  · have hsmall : c.toNat < 0x80 := by
      rcases Bool.or_eq_true_iff.mp hletter with hupper | hlower
      · have := Text.isUpper_bounds hupper
        omega
      · have := Text.isLower_bounds hlower
        omega
    have hlower := hletters c.toNat hsmall
    rw [Char.ofNat_toNat] at hlower
    rw [hlower hletter, Bool.true_or]
  · rw [toLower_of_isLegal (.inr hmark), hmark, Bool.or_true]

/-- A header as a proxy writes it: a token for the name, and visible text, blanks and tabs for the
value, with nothing blank around it. -/
structure PlainHeader where
  token : String
  nonempty : token.toList ≠ []
  legal : ∀ c ∈ token.toList, c.isAlpha = true ∨ isTokenMark c = true
  text : String
  plain : Text.IsPlain text.toList
  trimmed : Text.IsTrimmed text.toList

namespace PlainHeader

def line (header : PlainHeader) : String :=
  header.token ++ ": " ++ header.text

theorem isHeaderName_token (header : PlainHeader) :
    isHeaderName (Text.lower header.token).toList = true := by
  have hnonempty : (Text.lowerChars header.token.toList).isEmpty = false := by
    simpa [Text.lowerChars] using header.nonempty
  rw [Text.lower, String.toList_ofList, isHeaderName, hnonempty, Text.lowerChars, List.all_map,
    Bool.not_false, Bool.true_and, List.all_eq_true]
  exact fun c hc => toLower_isLegal (header.legal c hc)

def name (header : PlainHeader) : HeaderName :=
  ⟨Text.lower header.token, header.isHeaderName_token⟩

def value (header : PlainHeader) : HeaderValue :=
  { bytes := Utf8.encode header.text
    legal := HeaderValue.all_isHeaderByte (HeaderValue.all_isTextByte header.plain) }

theorem isGap_space : ∀ c ∈ [' '], c = ' ' ∨ c = '\t' :=
  List.forall_mem_singleton.mpr (.inl rfl)

/-- The header as a line of a head, which could have other blanks in front of the value. -/
def toLine (header : PlainHeader) : HeaderLine where
  name := header.name
  spelling := header.token.toList
  spelled := String.toList_ofList.symm
  gap := [' ']
  blank := isGap_space
  value := header.value

variable (header : PlainHeader)

theorem name_eq_iff (name : HeaderName) :
    header.name = name ↔ Text.lower header.token = name.text := by
  obtain ⟨text, legal⟩ := name
  rw [PlainHeader.name, HeaderName.mk.injEq]

theorem bytes_toLine : header.toLine.bytes = Utf8.encode header.line := by
  have hgap : ": ".toList = [':', ' '] := rfl
  simp only [HeaderLine.bytes, toLine, value, line, Utf8.encode, String.toList_append, hgap,
    Utf8.encodeChars_append]

theorem isText_toLine : header.toLine.IsText :=
  ⟨header.text.toList, rfl⟩

/-- Nothing is lost of the value. -/
theorem header_toLine : header.toLine.header = (header.name, header.value) := by
  have htext : header.toLine.text = header.text.toList := by
    change (Utf8.decodeChars? (Utf8.encodeChars header.text.toList)).getD [] = _
    rw [Utf8.decodeChars?_encodeChars, Option.getD_some]
  have hlegal : (Utf8.encodeChars header.text.toList).all isHeaderByte = true := header.value.legal
  rw [HeaderLine.header, htext, header.trimmed.trimChars, HeaderValue.ofBytes?, dif_pos hlegal]
  rfl

end PlainHeader

/-! ## Heads -/

namespace Connect

/-- The head that says `status` with a reason, and then the headers. -/
def writtenHead (status : Status) (reason : String) (headers : List PlainHeader) : Bytes :=
  headOf (Utf8.encode (statusLine status reason) :: headers.map fun header => Utf8.encode header.line)

theorem writtenHead_eq (status : Status) (reason : String) (headers : List PlainHeader) :
    writtenHead status reason headers =
      headOf (Utf8.encodeChars (statusLine status reason).toList ::
        (headers.map PlainHeader.toLine).map HeaderLine.bytes) := by
  simp only [writtenHead, Utf8.encode, List.map_map, Function.comp_def, PlainHeader.bytes_toLine]

/-- The values of a name are those that were written under it, in their order. -/
theorem values_map_plain (headers : List PlainHeader) (name : HeaderName) :
    (Headers.values ⟨headers.map fun header => (header.name, header.value)⟩ name).map
        HeaderValue.bytes =
      (headers.filter fun header => Text.lower header.token = name.text).map
        fun header => Utf8.encode header.text := by
  rw [Headers.values]
  induction headers with
  | nil => rfl
  | cons header headers ih =>
      have hsame := header.name_eq_iff name
      by_cases hname : header.name = name
      · have hbytes : header.value.bytes = Utf8.encode header.text := rfl
        simpa [hname, hsame.mp hname, hbytes] using ih
      · simpa [hname, mt hsame.mpr hname] using ih

/-- A head that is not too long is read back: the status, and every value under its name in small
letters, in the order in which they were written. -/
theorem parseHead_writtenHead
    (status : Status) {reason : String} (hreason : '\r' ∉ reason.toList) {headers : List PlainHeader}
    (hshort : (writtenHead status reason headers).length ≤ maxHead) :
    ∃ parsed : Headers,
      parseHead (writtenHead status reason headers) = .ok (status, parsed) ∧
      (parsed.entries.map fun (name, value) => (name.text, value.bytes)) =
        headers.map (fun header => (Text.lower header.token, Utf8.encode header.text)) ∧
      ∀ name : HeaderName, (parsed.values name).map HeaderValue.bytes =
        (headers.filter fun header => Text.lower header.token = name.text).map
          fun header => Utf8.encode header.text := by
  rw [writtenHead_eq] at hshort
  have htext : ∀ line ∈ headers.map PlainHeader.toLine, line.IsText :=
    List.forall_mem_map.mpr fun header _ => header.isText_toLine
  have hparse := parseHead_headOf (not_mem_statusLine hreason status)
    (readStatus_statusLine status reason) htext (length_spelling_le_longest hshort)
  simp only [List.map_map, Function.comp_def, PlainHeader.header_toLine] at hparse
  refine ⟨⟨headers.map fun header => (header.name, header.value)⟩, ?_, ?_, values_map_plain headers⟩
  · rw [writtenHead_eq]
    simpa only [List.map_map, Function.comp_def] using hparse
  · rw [List.map_map]
    rfl

/-! ### Colons, blanks and a name in two spellings -/

def spelledTwice : List PlainHeader :=
  [{ token := "X-Note", nonempty := by decide, legal := Text.forall_mem_of_all (by decide),
     text := "HTTP/1.1 407: no", plain := Text.forall_mem_of_all (by decide),
     trimmed := by decide },
    { token := "x|~", nonempty := by decide, legal := Text.forall_mem_of_all (by decide),
      text := ":\t:", plain := Text.forall_mem_of_all (by decide),
      trimmed := by decide },
    { token := "x-nOTE", nonempty := by decide, legal := Text.forall_mem_of_all (by decide),
      text := "", plain := List.forall_mem_nil _, trimmed := by decide }]

theorem parseHead_writtenHead_spelledTwice :
    ∃ parsed : Headers,
      parseHead (writtenHead .ok " caf\u00E9: \n" spelledTwice) = .ok (.ok, parsed) ∧
      (parsed.values ⟨"x-note", by decide⟩).map HeaderValue.bytes =
        [Utf8.encode "HTTP/1.1 407: no", []] := by
  have hreason : '\r' ∉ " caf\u00E9: \n".toList := by decide
  have hshort : (writtenHead .ok " caf\u00E9: \n" spelledTwice).length ≤ maxHead := by decide
  obtain ⟨parsed, hparse, -, hvalues⟩ := parseHead_writtenHead .ok hreason hshort
  exact ⟨parsed, hparse, hvalues _⟩

end Connect
end ProxyHandshake
