import ProxyHandshake.Proofs.Text
import ProxyHandshake.Proofs.Utf8
import ProxyHandshake.Url.Parser

/-!
# Hosts in visible characters

Whatever text a URL was read from, its host is written in visible characters of ASCII: an international
name in Punycode, an address in digits, and everything else that a host of another kind may hold with
percent signs.  So a line that names a host is a single line.  None of these characters ends the host in
a URL, so that what is behind it is not taken for a part of it.  The name in a web address holds neither a
colon nor a bracket and does not look like a number, so that it is never taken for an address.
-/

namespace ProxyHandshake

/-- A text without blanks and control characters, in ASCII. -/
def Text.IsVisible (text : List Char) : Prop :=
  ∀ c ∈ text, 0x20 < c.toNat ∧ c.toNat < 0x7F

/-- A character that comes before the host in a URL, or behind it. -/
def isHostMark (c : Char) : Bool :=
  "#/?@\\".toList.contains c

/-- A character that can stand in a host or a port. -/
def isHostChar (c : Char) : Bool :=
  0x20 < c.toNat && c.toNat < 0x7F && !isHostMark c

theorem isHostChar_of_not_mem
    {c : Char} (hlow : 0x20 < c.toNat) (hhigh : c.toNat < 0x7F) {excluded : List Char}
    (hmarks : "#/?@\\".toList ⊆ excluded) (hc : c ∉ excluded) : isHostChar c = true := by
  have hunmarked : isHostMark c = false := by
    rw [isHostMark, ← Bool.not_eq_true, List.contains_iff_mem]
    exact fun hmem => hc (hmarks hmem)
  simp [isHostChar, hlow, hhigh, hunmarked]

def Text.IsHostText (text : List Char) : Prop :=
  ∀ c ∈ text, isHostChar c = true

namespace Text

instance (text : List Char) : Decidable (IsHostText text) :=
  List.decidableBAll _ text

theorem IsHostText.isVisible {text : List Char} (htext : IsHostText text) : IsVisible text := by
  intro c hc
  have hchar := htext c hc
  simp only [isHostChar, Bool.and_eq_true, decide_eq_true_eq] at hchar
  exact hchar.1

theorem IsHostText.isHostMark_eq_false
    {text : List Char} (htext : IsHostText text) {c : Char} (hc : c ∈ text) :
    isHostMark c = false := by
  have hchar := htext c hc
  simp only [isHostChar, Bool.and_eq_true, Bool.not_eq_true'] at hchar
  exact hchar.2

theorem IsHostText.append
    {text more : List Char} (htext : IsHostText text) (hmore : IsHostText more) :
    IsHostText (text ++ more) :=
  List.forall_mem_append.mpr ⟨htext, hmore⟩

theorem IsHostText.cons
    {c : Char} {text : List Char} (hc : isHostChar c = true) (htext : IsHostText text) :
    IsHostText (c :: text) :=
  List.forall_mem_cons.mpr ⟨hc, htext⟩

theorem isHostText_nil : IsHostText [] := List.forall_mem_nil _

theorem isHostChar_toLower {c : Char} (hc : isHostChar c = true) :
    isHostChar c.toLower = true := by
  -- There are few enough of these characters to try them all.
  have hall : ∀ n < 0x7F, isHostChar (Char.ofNat n) = true →
      isHostChar (Char.ofNat n).toLower = true := by
    decide
  have hbound : c.toNat < 0x7F := by
    simp only [isHostChar, Bool.and_eq_true, decide_eq_true_eq] at hc
    exact hc.1.2
  simpa only [Char.ofNat_toNat, hc, forall_const] using hall c.toNat hbound

theorem isHostText_lowerChars {text : List Char} (htext : IsHostText text) :
    IsHostText (lowerChars text) :=
  List.forall_mem_map.mpr fun c hc => isHostChar_toLower (htext c hc)

/-! ## Numbers -/

theorem isHostChar_digitChar {n : Nat} (hn : n < 16) : isHostChar (Nat.digitChar n) = true := by
  have hall : ∀ n < 16, isHostChar (Nat.digitChar n) = true := by decide
  exact hall n hn

theorem isHostText_toDigits {base : Nat} (hbase : 1 < base) (hsmall : base ≤ 16) (n : Nat) :
    IsHostText (Nat.toDigits base n) := by
  intro c hc
  obtain ⟨d, hd, rfl⟩ := exists_of_mem_toDigits hbase hc
  exact isHostChar_digitChar (by omega)

theorem isHostText_toString (n : Nat) : IsHostText (toString n).toList := by
  rw [Nat.toString_eq_ofList_toDigits, String.toList_ofList]
  exact isHostText_toDigits (by decide) (by decide) n

end Text

/-! ## Names -/

namespace Percent

theorem isHostChar_hexDigit {n : Nat} (hn : n < 16) : isHostChar (hexDigit n) = true := by
  have hall : ∀ n < 16, isHostChar (hexDigit n) = true := by decide
  exact hall n hn

theorem isHostText_encodeByte (b : UInt8) : Text.IsHostText (encodeByte b) := by
  have hb := b.toNat_lt
  have hhigh := isHostChar_hexDigit (n := b.toNat / 16) (by omega)
  have hlow := isHostChar_hexDigit (n := b.toNat % 16) (by omega)
  exact ((Text.isHostText_nil.cons hlow).cons hhigh).cons (by decide)

/-- What is not encoded is a visible character, unless it is one that a host may not hold. -/
theorem isHostText_encodeChars
    (special : List Char) {text : List Char} (htext : ∀ c ∈ text, Host.isForbidden c = false) :
    Text.IsHostText (encodeChars special text) := by
  intro c hc
  obtain ⟨d, hd, hmem⟩ := List.mem_flatMap.mp hc
  rw [encodeChar] at hmem
  split at hmem
  · obtain ⟨b, _, hmem⟩ := List.mem_flatMap.mp hmem
    exact isHostText_encodeByte b c hmem
  · next hplain =>
    obtain rfl := List.mem_singleton.mp hmem
    have hallowed : c ∉ "\x00\t\n\r #/:<>?@[\\]^|".toList := by
      simpa [Host.isForbidden] using htext c hd
    have hspace : c.toNat ≠ 0x20 := by
      intro hc
      obtain rfl : c = ' ' := Char.toNat_inj.mp hc
      exact hallowed (by decide)
    simp only [isControl, Text.isAscii, Bool.or_eq_true, Bool.not_eq_true', decide_eq_true_eq,
      decide_eq_false_iff_not, beq_iff_eq, not_or] at hplain
    exact isHostChar_of_not_mem (by omega) (by omega) (by decide) hallowed

end Percent

namespace Idna

/-- A character that a name in ASCII can hold. -/
def isNameChar (c : Char) : Bool :=
  Text.isAscii c && !isForbidden c

/-- A text in such characters. -/
def IsName (text : List Char) : Prop :=
  ∀ c ∈ text, isNameChar c = true

instance (text : List Char) : Decidable (IsName text) :=
  List.decidableBAll _ text

theorem isHostChar_of_isNameChar {c : Char} (hc : isNameChar c = true) : isHostChar c = true := by
  simp only [isNameChar, Text.isAscii, isForbidden, Bool.and_eq_true, Bool.not_eq_true',
    decide_eq_true_eq, Bool.or_eq_false_iff, decide_eq_false_iff_not, beq_eq_false_iff_ne,
    List.contains_eq_mem] at hc
  obtain ⟨hascii, ⟨hlow, hhigh⟩, hallowed⟩ := hc
  exact isHostChar_of_not_mem (by omega) (by omega) (by decide) hallowed

theorem IsName.isHostText {name : List Char} (hname : IsName name) : Text.IsHostText name :=
  fun c hc => isHostChar_of_isNameChar (hname c hc)

namespace Punycode

theorem isNameChar_digit {n : Nat} (hn : n < 36) : isNameChar (digit n) = true := by
  have hall : ∀ n < 36, isNameChar (digit n) = true := by decide
  exact hall n hn

theorem isName_encodeNumber (q k bias : Nat) : IsName (encodeNumber q k bias) := by
  induction q, k using encodeNumber.induct bias with
  | case1 q k hsmall =>
      have hlimit := threshold_le k bias
      rw [encodeNumber, dif_pos hsmall]
      exact List.forall_mem_singleton.mpr (isNameChar_digit (by omega))
  | case2 q k hlarge ih =>
      have hlimit := threshold_le k bias
      have hmod := Nat.mod_lt (q - threshold k bias) (y := base - threshold k bias)
        (by unfold base; omega)
      rw [encodeNumber, dif_neg hlarge]
      exact List.forall_mem_cons.mpr ⟨isNameChar_digit (by unfold base at *; omega), ih⟩

theorem isName_placeAll
    (basic code : Nat) (codes : List Nat) {writing : Writing}
    (hwritten : IsName writing.written) :
    IsName (writing.placeAll basic code codes).written := by
  induction codes generalizing writing with
  | nil => exact hwritten
  | cons c codes ih =>
      rw [Writing.placeAll]
      split
      · exact ih hwritten
      · split
        · exact ih (List.forall_mem_append.mpr ⟨hwritten, isName_encodeNumber _ _ _⟩)
        · exact ih hwritten

theorem isName_run
    (basic : Nat) (codes : List Nat) (fuel : Nat) {writing : Writing}
    (hwritten : IsName writing.written) :
    IsName (Writing.run basic codes fuel writing) := by
  induction fuel generalizing writing with
  | zero => exact hwritten
  | succ fuel ih =>
      rw [Writing.run]
      split
      · exact hwritten
      · exact ih (isName_placeAll basic _ codes hwritten)

/-- The ASCII characters of a label stand for themselves, and the places of the others are digits. -/
theorem isName_encode {label : List Char} (hlabel : IsName (label.filter Text.isAscii)) :
    IsName (encode label) := by
  refine isName_run _ _ _ ?_
  simp only
  split
  · exact List.forall_mem_nil _
  · exact List.forall_mem_append.mpr ⟨hlabel, List.forall_mem_singleton.mpr (by decide)⟩

end Punycode

theorem isName_filter_isAscii {label : List Char} (hfits : labelFits label = true) :
    IsName (label.filter Text.isAscii) := by
  intro c hc
  obtain ⟨hmem, hascii⟩ := List.mem_filter.mp hc
  rw [labelFits, Bool.and_eq_true, List.all_eq_true] at hfits
  have hallowed := hfits.2 c hmem
  rw [hascii] at hallowed
  rw [isNameChar, hascii]
  exact (Bool.and_eq_true_iff.mp hallowed).2

theorem isName_asciiLabel {label : List Char} (hfits : labelFits label = true) :
    IsName (asciiLabel label) := by
  have hascii := isName_filter_isAscii hfits
  rw [asciiLabel]
  split
  · next hall =>
    rwa [List.filter_eq_self.mpr (List.all_eq_true.mp hall)] at hascii
  · have hmark : IsName ['x', 'n', '-', '-'] := by decide
    exact List.forall_mem_append.mpr ⟨hmark, Punycode.isName_encode hascii⟩

theorem labelFits_of_readLabel? {label read : List Char} (hread : readLabel? label = some read) :
    labelFits read = true := by
  unfold readLabel? at hread
  split at hread
  · next places =>
    cases hdecode : Punycode.decode? places with
    | none => simp [hdecode] at hread
    | some decoded =>
        simp only [hdecode, Option.bind_eq_bind, Option.bind_some] at hread
        split at hread
        · cases hread
        · next hrules =>
          obtain rfl := Option.some.inj hread
          simp only [Bool.or_eq_true, not_or, Bool.not_eq_true', Bool.not_eq_false] at hrules
          exact hrules.1.2
  · split at hread
    · next hfits =>
      obtain rfl := Option.some.inj hread
      exact hfits
    · cases hread

theorem labelFits_of_mapM
    {pieces labels : List (List Char)} (hlabels : pieces.mapM readLabel? = some labels) :
    ∀ label ∈ labels, labelFits label = true := by
  induction pieces generalizing labels with
  | nil =>
      obtain rfl : labels = [] := by simpa using hlabels.symm
      exact List.forall_mem_nil _
  | cons piece pieces ih =>
      simp only [List.mapM_cons, Option.bind_eq_bind, Option.bind_eq_some_iff, Option.pure_def,
        Option.some.injEq] at hlabels
      obtain ⟨label, hlabel, others, hothers, rfl⟩ := hlabels
      exact List.forall_mem_cons.mpr ⟨labelFits_of_readLabel? hlabel, ih hothers⟩

theorem isName_toAscii? {name ascii : List Char} (hname : toAscii? name = some ascii) :
    IsName ascii := by
  unfold toAscii? at hname
  simp only at hname
  split at hname
  · next hplain =>
    split at hname
    · cases hname
    · next hallowed =>
      obtain rfl := Option.some.inj hname
      intro c hc
      have hascii := List.all_eq_true.mp (Bool.and_eq_true_iff.mp hplain).1 c hc
      rw [List.any_eq_true, not_exists] at hallowed
      rw [isNameChar, hascii]
      simpa [hc] using hallowed c
  · simp only [Option.bind_eq_bind, Option.bind_eq_some_iff] at hname
    obtain ⟨mapped, _, labels, hlabels, hname⟩ := hname
    split at hname
    · cases hname
    · obtain rfl := Option.some.inj hname
      refine Text.forall_mem_joinPieces (by decide) (List.forall_mem_map.mpr fun label hlabel => ?_)
      exact isName_asciiLabel (labelFits_of_mapM hlabels label hlabel)

end Idna

/-! ## Hosts -/

theorem Ipv4.isHostText_text (address : Ipv4) : Text.IsHostText address.text.toList := by
  have hdot : Text.IsHostText (toString ".").toList := by decide
  have hnumber := Text.isHostText_toString
  simp only [text, String.toList_append]
  exact ((((((hnumber _).append hdot).append (hnumber _)).append hdot).append
    (hnumber _)).append hdot).append (hnumber _)

theorem Ipv6.isHostText_groupsText (pieces : List UInt16) : Text.IsHostText (groupsText pieces) :=
  Text.forall_mem_joinPieces (by decide)
    (List.forall_mem_map.mpr fun piece _ =>
      Text.isHostText_toDigits (by decide) (by decide) piece.toNat)

theorem Ipv6.isHostText_chars (address : Ipv6) : Text.IsHostText address.chars := by
  have hcolons : Text.IsHostText [':', ':'] := by decide
  unfold chars
  simp only
  split
  · exact ((isHostText_groupsText _).append hcolons).append (isHostText_groupsText _)
  · exact isHostText_groupsText _

theorem Ipv6.colon_mem_chars (address : Ipv6) : ':' ∈ address.chars := by
  unfold chars
  simp only
  split
  · simp
  · apply Text.mem_joinPieces
    rw [List.length_map, address.length_pieces]
    decide

/-- The text for the authentication service is a host like the other, and no name. -/
theorem Ipv6.isHostText_mixedText (address : Ipv6) :
    Text.IsHostText address.mixedText.toList ∧ ':' ∈ address.mixedText.toList := by
  unfold mixedText
  split
  · have hfront : Text.IsHostText (toString "::ffff:").toList := by decide
    have hdot : Text.IsHostText (toString ".").toList := by decide
    have hcolon : ':' ∈ (toString "::ffff:").toList := by decide
    have hnumber := Text.isHostText_toString
    simp only [String.toList_append, List.mem_append]
    constructor
    · exact ((((((hfront.append (hnumber _)).append hdot).append (hnumber _)).append hdot).append
        (hnumber _)).append hdot).append (hnumber _)
    · exact .inl (.inl (.inl (.inl (.inl (.inl (.inl hcolon))))))
  · rw [text, String.toList_ofList]
    exact ⟨address.isHostText_chars, address.colon_mem_chars⟩

namespace Host

/-- The hosts that URLs are read with. -/
def IsRead (host : Host) : Prop :=
  ∃ text, parse text = .ok host ∨ parseOpaque text = .ok host

theorem exists_of_parseBracketed
    {inside : List Char} {host : Host} (hread : parseBracketed inside = .ok host) :
    ∃ address, host = .ipv6 address := by
  unfold parseBracketed at hread
  split at hread
  · split at hread
    · exact ⟨_, (Except.ok.inj hread).symm⟩
    · cases hread
  · cases hread

/-- The name in a web address cannot be taken for an address. -/
theorem isName_of_parse
    {text : List Char} {name : String} (hread : parse text = .ok (.domain name)) :
    Idna.IsName name.toList ∧ Ipv4.looksNumeric name.toList = false := by
  unfold parse at hread
  split at hread
  · obtain ⟨address, hbracketed⟩ := exists_of_parseBracketed hread
    cases hbracketed
  · split at hread
    · cases hread
    · cases hread
    · next ascii _ hascii =>
      split at hread
      · split at hread <;> cases hread
      · next hnumeric =>
        obtain rfl : String.ofList ascii = name := Host.domain.inj (Except.ok.inj hread)
        obtain ⟨decoded, _, hname⟩ := Option.bind_eq_some_iff.mp hascii
        rw [String.toList_ofList]
        exact ⟨Idna.isName_toAscii? hname, Bool.eq_false_iff.mpr hnumeric⟩

theorem isHostText_ipv6 (address : Ipv6) : Text.IsHostText (Host.ipv6 address).text.toList := by
  have hopen : Text.IsHostText "[".toList := by decide
  have hclose : Text.IsHostText "]".toList := by decide
  simp only [text, Ipv6.text, String.toList_append, String.toList_ofList]
  exact (hopen.append address.isHostText_chars).append hclose

theorem isHostText_of_parse {text : List Char} {host : Host} (hread : parse text = .ok host) :
    Text.IsHostText host.text.toList := by
  cases host with
  | domain name => exact (isName_of_parse hread).1.isHostText
  | ipv4 address => exact address.isHostText_text
  | ipv6 address => exact isHostText_ipv6 address

theorem isHostText_of_parseOpaque
    {text : List Char} {host : Host} (hread : parseOpaque text = .ok host) :
    Text.IsHostText host.text.toList := by
  unfold parseOpaque at hread
  split at hread
  · obtain ⟨address, rfl⟩ := exists_of_parseBracketed hread
    exact isHostText_ipv6 address
  · split at hread
    · cases hread
    · next hallowed =>
      obtain rfl := Except.ok.inj hread
      rw [Host.text, Percent.encode, String.toList_ofList]
      exact Percent.isHostText_encodeChars [] fun c hc =>
        Bool.eq_false_iff.mpr fun hforbidden => hallowed (List.any_eq_true.mpr ⟨c, hc, hforbidden⟩)

theorem IsRead.isHostText_text {host : Host} (hread : host.IsRead) :
    Text.IsHostText host.text.toList := by
  obtain ⟨text, hparse | hopaque⟩ := hread
  · exact isHostText_of_parse hparse
  · exact isHostText_of_parseOpaque hopaque

end Host

end ProxyHandshake
