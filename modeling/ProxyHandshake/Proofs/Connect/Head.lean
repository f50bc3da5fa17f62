import ProxyHandshake.Proofs.Connect.Lines
import ProxyHandshake.Proofs.Header

/-!
# Heads that a proxy writes

A proxy writes its answer line by line: the status, the headers, and an empty line.  Such a head is
read to its end, and if all of it is text, the status and the headers are read back from it; blanks
around a value are lost.
-/

namespace ProxyHandshake

/-! ## Lines -/

/-- A line with a header, whose name may be spelled with capitals. -/
structure HeaderLine where
  name : HeaderName
  spelling : List Char
  spelled : Text.lowerChars spelling = name.text.toList
  gap : List Char
  blank : ∀ c ∈ gap, c = ' ' ∨ c = '\t'
  value : HeaderValue

namespace HeaderLine

def bytes (line : HeaderLine) : Bytes :=
  Utf8.encodeChars (line.spelling ++ ':' :: line.gap) ++ line.value.bytes

def text (line : HeaderLine) : List Char :=
  (Utf8.decodeChars? line.value.bytes).getD []

def IsText (line : HeaderLine) : Prop :=
  ∃ text, line.value.bytes = Utf8.encodeChars text

/-- The header that is read from the line. -/
def header (line : HeaderLine) : HeaderName × HeaderValue :=
  (line.name, (HeaderValue.ofBytes? (Utf8.encodeChars (Text.trimChars line.text))).getD line.value)

/-- The number of bytes that the line announces, as a `Content-Length`. -/
def length (line : HeaderLine) : Nat :=
  (Text.readNumber (Text.trimChars line.text)).toOption.getD 0

end HeaderLine

/-! ## What stands in a line -/

/-- Nothing in the value of a header ends a line. -/
theorem not_mem_of_isHeaderByte {bytes : Bytes} (hlegal : bytes.all isHeaderByte = true) :
    13 ∉ bytes :=
  fun hmem => absurd (List.all_eq_true.mp hlegal 13 hmem) (by decide)

namespace HeaderLine

variable {line : HeaderLine}

theorem visible_of_mem_spelling {c : Char} (hc : c ∈ line.spelling) :
    0x20 < c.toNat ∧ c.toNat < 0x7F ∧ c ≠ ':' :=
  HeaderName.visible_of_spelled line.spelled hc

theorem trimChars_spelling : Text.trimChars line.spelling = line.spelling :=
  HeaderName.trimChars_of_spelled line.spelled

theorem ofText?_spelling (hshort : line.spelling.length ≤ HeaderName.longest) :
    HeaderName.ofText? (String.ofList line.spelling) = some line.name :=
  HeaderName.ofText?_spelling line.spelled hshort

/-- The characters of the line, if its value is text. -/
def chars (line : HeaderLine) : List Char :=
  line.spelling ++ ':' :: (line.gap ++ line.text)

theorem encodeChars_text (htext : line.IsText) : Utf8.encodeChars line.text = line.value.bytes := by
  obtain ⟨text, htext⟩ := htext
  rw [HeaderLine.text, htext, Utf8.decodeChars?_encodeChars, Option.getD_some]

theorem encodeChars_chars (htext : line.IsText) : Utf8.encodeChars line.chars = line.bytes := by
  have hsplit : line.chars = (line.spelling ++ ':' :: line.gap) ++ line.text := by simp [chars]
  rw [hsplit, Utf8.encodeChars_append, encodeChars_text htext, bytes]

/-- What remains of a value without the blanks around it is a value again. -/
theorem header_eq (htext : line.IsText) :
    HeaderValue.ofBytes? (Utf8.encodeChars (Text.trimChars line.text)) = some line.header.2 := by
  have hlegal : (Utf8.encodeChars (Text.trimChars line.text)).all isHeaderByte = true := by
    rw [List.all_eq_true]
    intro b hb
    obtain ⟨c, hc, hmem⟩ := List.mem_flatMap.mp hb
    have hvalue : b ∈ line.value.bytes := by
      rw [← encodeChars_text htext]
      exact List.mem_flatMap.mpr ⟨c, Text.mem_trimChars hc, hmem⟩
    exact List.all_eq_true.mp line.value.legal b hvalue
  rw [header, HeaderValue.ofBytes?, dif_pos hlegal, Option.getD_some]

theorem isBlank_of_mem_gap {c : Char} (hc : c ∈ line.gap) : Text.isBlank c = true := by
  rcases line.blank c hc with rfl | rfl <;> rfl

theorem readHeader_chars
    (htext : line.IsText) (hshort : line.spelling.length ≤ HeaderName.longest) :
    Connect.readHeader line.chars = .ok line.header := by
  have hcut : Text.cutFirst? (· == ':') line.chars = some (line.spelling, line.gap ++ line.text) := by
    refine Text.cutFirst?_append (fun c hc => ?_) rfl _
    exact beq_eq_false_iff_ne.mpr (visible_of_mem_spelling hc).2.2
  have htrim : Text.trimChars (line.gap ++ line.text) = Text.trimChars line.text :=
    Text.trimChars_append_blanks (fun _ hc => isBlank_of_mem_gap hc) _
  simp only [Connect.readHeader, hcut, trimChars_spelling, ofText?_spelling hshort, htrim,
    header_eq htext]
  rfl

theorem not_mem_front : '\r' ∉ line.spelling ++ ':' :: line.gap := by
  intro hmem
  rw [List.mem_append, List.mem_cons] at hmem
  rcases hmem with hspelling | hcolon | hgap
  · exact absurd (visible_of_mem_spelling hspelling).1 (by decide)
  · exact absurd hcolon (by decide)
  · rcases line.blank _ hgap with hspace | htab
    · exact absurd hspace (by decide)
    · exact absurd htab (by decide)

/-- Nothing in a line ends it. -/
theorem not_mem_bytes : 13 ∉ line.bytes := by
  intro hmem
  rcases List.mem_append.mp hmem with hfront | hvalue
  · exact not_mem_front (Utf8.mem_of_mem_encodeChars hfront (by decide))
  · exact not_mem_of_isHeaderByte line.value.legal hvalue

theorem not_mem_chars (htext : line.IsText) : '\r' ∉ line.chars := by
  intro hmem
  have hbyte : 13 ∈ Utf8.encodeChars line.chars := Utf8.mem_encodeChars hmem (by decide)
  rw [encodeChars_chars htext] at hbyte
  exact not_mem_bytes hbyte

theorem bytes_ne_nil : line.bytes ≠ [] := by
  have hcolon : ':' ∈ line.spelling ++ ':' :: line.gap := by simp
  have hbyte := Utf8.mem_encodeChars hcolon (by decide)
  exact List.append_ne_nil_of_left_ne_nil (List.ne_nil_of_mem hbyte) _

theorem length_spelling_le : line.spelling.length ≤ line.bytes.length := by
  have hfront := Utf8.length_le_encodeChars (line.spelling ++ ':' :: line.gap)
  rw [List.length_append] at hfront
  rw [bytes, List.length_append]
  omega

end HeaderLine

/-! ## Reading the lines -/

namespace Connect

def textOf (lines : List (List Char)) : List Char :=
  lines.flatMap (· ++ ['\r', '\n']) ++ ['\r', '\n']

theorem encodeChars_textOf (lines : List (List Char)) :
    Utf8.encodeChars (textOf lines) = headOf (lines.map Utf8.encodeChars) := by
  have hend : Utf8.encodeChars ['\r', '\n'] = lineEnd := by decide
  induction lines with
  | nil => exact hend
  | cons line lines ih =>
      rw [textOf, headOf] at ih ⊢
      simp only [List.flatMap_cons, List.map_cons, List.append_assoc, Utf8.encodeChars_append,
        hend] at ih ⊢
      rw [ih]

theorem lines_append {line : List Char} (hline : '\r' ∉ line) (rest : List Char) :
    lines (line ++ '\r' :: '\n' :: rest) = line :: lines rest := by
  induction line with
  | nil => rfl
  | cons c line ih =>
      rw [List.mem_cons, not_or] at hline
      rw [List.cons_append, lines, ih hline.2, Text.growFirst]
      rintro _ rfl
      exact absurd rfl hline.1

theorem lines_textOf {text : List (List Char)} (htext : ∀ line ∈ text, '\r' ∉ line) :
    lines (textOf text) = text ++ [[], []] := by
  induction text with
  | nil => rfl
  | cons line text ih =>
      obtain ⟨hline, htext⟩ := List.forall_mem_cons.mp htext
      have hsplit : textOf (line :: text) = line ++ '\r' :: '\n' :: textOf text := by simp [textOf]
      rw [hsplit, lines_append hline, ih htext, List.cons_append]

theorem readHeaders_chars
    {lines : List HeaderLine} (htext : ∀ line ∈ lines, line.IsText)
    (hshort : ∀ line ∈ lines, line.spelling.length ≤ HeaderName.longest) (rest : List (List Char)) :
    readHeaders (lines.map HeaderLine.chars ++ [] :: rest) = .ok (lines.map HeaderLine.header) := by
  induction lines with
  | nil => rfl
  | cons line lines ih =>
      obtain ⟨hline, htext⟩ := List.forall_mem_cons.mp htext
      obtain ⟨hname, hshort⟩ := List.forall_mem_cons.mp hshort
      have hnonempty : line.chars ≠ [] := by simp [HeaderLine.chars]
      rw [List.map_cons, List.cons_append, readHeaders, if_neg hnonempty,
        HeaderLine.readHeader_chars hline hname, ih htext hshort, List.map_cons]
      rfl

/-- In a head that is not too long, no name is. -/
theorem length_spelling_le_longest
    {first : Bytes} {lines : List HeaderLine}
    (hshort : (headOf (first :: lines.map HeaderLine.bytes)).length ≤ maxHead) :
    ∀ line ∈ lines, line.spelling.length ≤ HeaderName.longest := by
  intro line hline
  have hbytes := length_le_headOf
    (List.mem_cons_of_mem first (List.mem_map_of_mem (f := HeaderLine.bytes) hline))
  have hspelling := line.length_spelling_le
  have hlongest : maxHead ≤ HeaderName.longest := by decide
  omega

/-- Status and headers are read back from a head that is text. -/
theorem parseHead_headOf
    {first : List Char} {status : Status} {lines : List HeaderLine} (hfirst : '\r' ∉ first)
    (hstatus : readStatus first = .ok status) (htext : ∀ line ∈ lines, line.IsText)
    (hshort : ∀ line ∈ lines, line.spelling.length ≤ HeaderName.longest) :
    parseHead (headOf (Utf8.encodeChars first :: lines.map HeaderLine.bytes)) =
      .ok (status, ⟨lines.map HeaderLine.header⟩) := by
  have hbytes : lines.map HeaderLine.bytes = (lines.map HeaderLine.chars).map Utf8.encodeChars := by
    rw [List.map_map]
    exact List.map_congr_left fun line hline => (HeaderLine.encodeChars_chars (htext line hline)).symm
  have hreturns : ∀ line ∈ first :: lines.map HeaderLine.chars, '\r' ∉ line := by
    refine List.forall_mem_cons.mpr ⟨hfirst, List.forall_mem_map.mpr fun line hline => ?_⟩
    exact HeaderLine.not_mem_chars (htext line hline)
  rw [hbytes, ← List.map_cons, ← encodeChars_textOf, parseHead, Utf8.decodeChars?_encodeChars]
  simp only [lines_textOf hreturns, List.cons_append, hstatus,
    readHeaders_chars htext hshort]
  rfl

end Connect

end ProxyHandshake
