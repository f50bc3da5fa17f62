import ProxyHandshake.Proofs.Letters
import ProxyHandshake.Proofs.Url.Host

/-!
# Addresses and their texts

An address stands in a URL in one text, from which it can be read again, so that two addresses never have the
same text.  The text of an IPv4 address looks like a number and that of an IPv6 address begins with a bracket,
and no name in a web address does either.
-/

namespace ProxyHandshake

open Text

/-! ## IPv4 -/

namespace Ipv4

/-- The four numbers of an address. -/
def bytes (address : Ipv4) : List Nat :=
  let n := address.value.toNat
  [n / 16777216, n / 65536 % 256, n / 256 % 256, n % 256]

theorem bytes_inj {a b : Ipv4} : a.bytes = b.bytes ↔ a = b := by
  constructor
  · intro heq
    simp only [bytes, List.cons.injEq, and_true] at heq
    have hvalue : a.value.toNat = b.value.toNat := by omega
    cases a
    cases b
    exact congrArg Ipv4.mk (UInt32.toNat_inj.mp hvalue)
  · rintro rfl
    rfl

theorem toList_text (address : Ipv4) :
    address.text.toList = joinPieces '.' (address.bytes.map (Nat.toDigits 10)) := by
  have hdot : (toString ".").toList = ['.'] := rfl
  simp [text, hdot, bytes, joinPieces]

theorem pieces_text (address : Ipv4) :
    pieces (· == '.') address.text.toList = address.bytes.map (Nat.toDigits 10) := by
  rw [toList_text]
  apply pieces_joinPieces
  · simp [bytes]
  · exact List.forall_mem_map.mpr fun n _ => not_mem_toDigits (by decide) n

theorem text_inj {a b : Ipv4} : a.text = b.text ↔ a = b := by
  constructor
  · intro heq
    have hpieces : a.bytes.map (Nat.toDigits 10) = b.bytes.map (Nat.toDigits 10) := by
      rw [← pieces_text, heq, pieces_text]
    have hbytes : a.bytes = b.bytes :=
      (List.map_inj_right fun _ _ => (toDigits_inj (by decide) (by decide)).mp).mp hpieces
    exact bytes_inj.mp hbytes
  · rintro rfl
    rfl

theorem looksNumeric_text (address : Ipv4) : looksNumeric address.text.toList = true := by
  have hdigits : (Nat.toDigits 10 (address.value.toNat % 256)).all Char.isDigit = true :=
    List.all_eq_true.mpr fun _ hc => Nat.isDigit_of_mem_toDigits (by decide) (by decide) hc
  simp [looksNumeric, partsOf, pieces_text, bytes, hdigits]

theorem text_subset (address : Ipv4) : address.text.toList ⊆ ".0123456789".toList := by
  have hall : ∀ d < 10, Nat.digitChar d ∈ ".0123456789".toList := by decide
  rw [toList_text]
  refine fun c => forall_mem_joinPieces (by decide) (List.forall_mem_map.mpr fun n _ c hc => ?_) c
  obtain ⟨d, hd, rfl⟩ := exists_of_mem_toDigits (by decide) hc
  exact hall d hd

theorem isAlpha_eq_false (address : Ipv4) : ∀ c ∈ address.text.toList, c.isAlpha = false := by
  have hall : ∀ c ∈ ".0123456789".toList, c.isAlpha = false := by simp
  exact fun c hc => hall c (address.text_subset hc)

theorem lowerChars_text (address : Ipv4) : lowerChars address.text.toList = address.text.toList :=
  (lowerChars_eq_iff address.isAlpha_eq_false).mpr rfl

end Ipv4

/-! ## IPv6 -/

namespace Ipv6

/-! ### Pieces -/

theorem readPiece?_pieceText (n : UInt16) : readPiece? (pieceText n) = some n := by
  have hlength : (pieceText n).length ≤ 4 :=
    (Nat.length_toDigits_le_iff (by decide) (by decide)).mpr n.toNat_lt
  have hdigits : (pieceText n).all isHexDigit = true := by
    rw [List.all_eq_true]
    intro c hc
    obtain ⟨d, hd, rfl⟩ := exists_of_mem_toDigits (by decide) hc
    exact isHexDigit_digitChar hd
  have hvalue : numeral 16 (pieceText n) = n.toNat := numeral_toDigits (by decide) (by decide) n.toNat
  rw [readPiece?, if_pos ⟨Nat.toDigits_ne_nil, hlength, hdigits⟩, hvalue, UInt16.ofNat_toNat]

theorem colon_not_mem_pieceText (n : UInt16) : ':' ∉ pieceText n := by
  intro hmem
  obtain ⟨d, hd, hcolon⟩ := exists_of_mem_toDigits (by decide) hmem
  have hhex := isHexDigit_digitChar hd
  rw [← hcolon] at hhex
  revert hhex
  decide

theorem readGroups?_map_pieceText (dotted : Bool) (pieces : List UInt16) :
    readGroups? dotted (pieces.map pieceText) = some pieces := by
  induction pieces with
  | nil => rfl
  | cons n pieces ih =>
      cases pieces with
      | nil => simp [readGroups?, readPiece?_pieceText]
      | cons next pieces =>
          rw [List.map_cons] at ih ⊢
          simp [readGroups?, readPiece?_pieceText, ih]

theorem groupsText_cons (n : UInt16) (pieces : List UInt16) :
    ∃ c rest, c ≠ ':' ∧ groupsText (n :: pieces) = c :: rest := by
  obtain ⟨c, digits, hdigits⟩ := List.exists_cons_of_ne_nil (Nat.toDigits_ne_nil (b := 16) (n := n.toNat))
  have hcolon : c ≠ ':' := by
    rintro rfl
    apply colon_not_mem_pieceText n
    rw [pieceText, hdigits]
    exact List.mem_cons_self
  refine ⟨c, ?_⟩
  cases pieces with
  | nil => exact ⟨digits, hcolon, hdigits⟩
  | cons next pieces => exact ⟨_, hcolon, by rw [groupsText, List.map_cons, pieceText, hdigits]; rfl⟩

theorem readRun?_groupsText (dotted : Bool) (pieces : List UInt16) :
    readRun? dotted (groupsText pieces) = some pieces := by
  cases pieces with
  | nil => rfl
  | cons n pieces =>
      have hnonempty : groupsText (n :: pieces) ≠ [] := by
        obtain ⟨c, rest, -, htext⟩ := groupsText_cons n pieces
        rw [htext]
        exact List.cons_ne_nil c rest
      have hgroups : Text.pieces (· == ':') (groupsText (n :: pieces)) =
          (n :: pieces).map pieceText :=
        pieces_joinPieces (List.cons_ne_nil _ _)
          (List.forall_mem_map.mpr fun n _ => colon_not_mem_pieceText n)
      rw [readRun?, if_neg hnonempty, hgroups, readGroups?_map_pieceText]

/-! ### Two colons -/

theorem cutDouble?_cons {c : Char} {rest : List Char} (hc : c ≠ ':' ∨ rest.head? ≠ some ':') :
    cutDouble? (c :: rest) = (cutDouble? rest).map fun cut => (c :: cut.1, cut.2) := by
  rw [cutDouble?]
  rintro more rfl rfl
  simp at hc

theorem cutDouble?_append {piece : List Char} (hpiece : ':' ∉ piece) (rest : List Char) :
    cutDouble? (piece ++ rest) = (cutDouble? rest).map fun cut => (piece ++ cut.1, cut.2) := by
  induction piece with
  | nil => simp
  | cons c piece ih =>
      obtain ⟨hc, hpiece⟩ := List.ne_and_not_mem_of_not_mem_cons hpiece
      rw [List.cons_append, cutDouble?_cons (.inl hc.symm), ih hpiece, Option.map_map]
      rfl

/-- Between groups there is never more than one colon. -/
theorem cutDouble?_groupsText (pieces : List UInt16) (rest : List Char) :
    cutDouble? (groupsText pieces ++ rest) =
      (cutDouble? rest).map fun cut => (groupsText pieces ++ cut.1, cut.2) := by
  induction pieces with
  | nil => simp [groupsText, joinPieces]
  | cons n pieces ih =>
      cases pieces with
      | nil => exact cutDouble?_append (colon_not_mem_pieceText n) rest
      | cons next pieces =>
          have hjoin : groupsText (n :: next :: pieces) =
              pieceText n ++ ':' :: groupsText (next :: pieces) := rfl
          have hsingle : (groupsText (next :: pieces) ++ rest).head? ≠ some ':' := by
            obtain ⟨c, others, hc, htext⟩ := groupsText_cons next pieces
            rw [htext]
            exact fun hcolon => hc (Option.some.inj hcolon)
          rw [hjoin, List.append_assoc, cutDouble?_append (colon_not_mem_pieceText n),
            List.cons_append, cutDouble?_cons (.inr hsingle), ih]
          simp [Function.comp_def]

/-! ### Runs of zeros -/

theorem exists_zeroRun (pieces : List UInt16) :
    ∃ back, pieces = List.replicate (zeroRun pieces) 0 ++ back := by
  induction pieces with
  | nil => exact ⟨[], rfl⟩
  | cons n pieces ih =>
      rw [zeroRun]
      split
      next hzero =>
        obtain ⟨back, hback⟩ := ih
        refine ⟨back, ?_⟩
        rw [List.replicate_succ, List.cons_append, ← hback, hzero]
      next => exact ⟨n :: pieces, rfl⟩

/-- The longest run is a run of zeros, and it starts behind what is in front of it. -/
theorem exists_longestRun
    {pieces : List UInt16} {start : Nat} (hrun : (longestRun start pieces).2 ≠ 0) :
    ∃ front back, pieces = front ++ List.replicate (longestRun start pieces).2 0 ++ back ∧
      (longestRun start pieces).1 = start + front.length := by
  induction pieces generalizing start with
  | nil => exact absurd rfl hrun
  | cons n pieces ih =>
      rw [longestRun]
      split
      next =>
        obtain ⟨back, hback⟩ := exists_zeroRun (n :: pieces)
        exact ⟨[], back, hback, rfl⟩
      next hlonger =>
        have hlater : (longestRun (start + 1) pieces).2 ≠ 0 := by omega
        obtain ⟨front, back, hsplit, hstart⟩ := ih hlater
        refine ⟨n :: front, back, ?_, ?_⟩
        · rw [List.cons_append, List.cons_append, ← hsplit]
        · rw [hstart, List.length_cons]
          omega

/-! ### Reading what was written -/

theorem ofPieces?_pieces (address : Ipv6) : ofPieces? address.pieces = some address := by
  rw [ofPieces?, dif_pos address.length_pieces]

theorem parse?_groupsText (pieces : List UInt16) :
    parse? (groupsText pieces) = ofPieces? pieces := by
  have hcut : cutDouble? (groupsText pieces) = none := by
    have hnone := cutDouble?_groupsText pieces []
    rwa [List.append_nil] at hnone
  rw [parse?, hcut]
  simp only [readRun?_groupsText, Option.bind_some]

/-- Two colons stand for the zeros that are missing. -/
theorem parse?_double
    {front back : List UInt16} {zeros : Nat} (hzeros : zeros ≠ 0)
    (hlength : front.length + zeros + back.length = 8) :
    parse? (groupsText front ++ [':', ':'] ++ groupsText back) =
      ofPieces? (front ++ List.replicate zeros 0 ++ back) := by
  have hcut : cutDouble? (groupsText front ++ [':', ':'] ++ groupsText back) =
      some (groupsText front, groupsText back) := by
    rw [List.append_assoc, cutDouble?_groupsText]
    simp [cutDouble?]
  have hmissing : 8 - (front.length + back.length) = zeros := by omega
  have hroom : ¬ 8 ≤ front.length + back.length := by omega
  rw [parse?, hcut]
  simp only [readRun?_groupsText, Option.bind_eq_bind, Option.bind_some, hmissing, hroom, if_false]

/-- An address is read back from its text. -/
theorem parse?_chars (address : Ipv6) : parse? address.chars = some address := by
  unfold chars
  simp only
  split
  next hlong =>
    have hrun : (longestRun 0 address.pieces).2 ≠ 0 := by omega
    obtain ⟨front, back, hsplit, hstart⟩ := exists_longestRun hrun
    generalize longestRun 0 address.pieces = run at *
    have hlength := congrArg List.length hsplit
    simp only [address.length_pieces, List.length_append, List.length_replicate] at hlength
    have hfront : address.pieces.take run.1 = front := by
      rw [hsplit, List.append_assoc, hstart, Nat.zero_add, List.take_left]
    have hback : address.pieces.drop (run.1 + run.2) = back := by
      have hskipped : run.1 + run.2 = (front ++ List.replicate run.2 0).length := by
        simp [hstart]
      rw [hskipped, hsplit, List.drop_left]
    rw [hfront, hback, parse?_double hrun hlength.symm, ← hsplit, ofPieces?_pieces]
  next => rw [parse?_groupsText, ofPieces?_pieces]

theorem chars_inj {a b : Ipv6} : a.chars = b.chars ↔ a = b := by
  constructor
  · intro heq
    have hread := parse?_chars a
    rw [heq, parse?_chars b] at hread
    exact (Option.some.inj hread).symm
  · rintro rfl
    rfl

theorem groupsText_subset (pieces : List UInt16) :
    groupsText pieces ⊆ ":0123456789abcdef".toList := by
  have hall : ∀ d < 16, Nat.digitChar d ∈ ":0123456789abcdef".toList := by decide
  refine fun c => forall_mem_joinPieces (by decide) (List.forall_mem_map.mpr fun n _ c hc => ?_) c
  obtain ⟨d, hd, rfl⟩ := exists_of_mem_toDigits (by decide) hc
  exact hall d hd

theorem chars_subset (address : Ipv6) : address.chars ⊆ ":0123456789abcdef".toList := by
  unfold chars
  simp only
  split
  · exact List.append_subset.mpr
      ⟨List.append_subset.mpr ⟨groupsText_subset _, by decide⟩, groupsText_subset _⟩
  · exact groupsText_subset _

end Ipv6

/-! ## Hosts -/

namespace Host

/-- Whether two hosts are the same.  Names may be written with letters of either case. -/
def SameHost : Host → Host → Prop
  | .domain name, .domain other => sameLetters name other = true
  | host, other => host = other

theorem lowerChars_ipv6 (address : Ipv6) :
    lowerChars (Host.ipv6 address).text.toList = '[' :: (address.chars ++ [']']) := by
  have hall : ∀ c ∈ ":0123456789abcdef".toList, c.isUpper = false := by simp
  have hsmall : lowerChars address.chars = address.chars :=
    lowerChars_eq_self fun c hc => hall c (address.chars_subset hc)
  have hclose : lowerChars [']'] = [']'] := rfl
  have htext : (Host.ipv6 address).text.toList = '[' :: (address.chars ++ [']']) := by
    simp [text, Ipv6.text]
  rw [htext, lowerChars, List.map_cons, List.map_append, ← lowerChars, ← lowerChars, hsmall, hclose]
  rfl

theorem lowerChars_ne_ipv4
    {name : List Char} (hname : Ipv4.looksNumeric name = false) (address : Ipv4) :
    lowerChars name ≠ lowerChars address.text.toList := by
  rw [address.lowerChars_text, ne_eq, lowerChars_eq_iff address.isAlpha_eq_false]
  rintro rfl
  rw [address.looksNumeric_text] at hname
  cases hname

theorem lowerChars_ne_ipv6 {text : List Char} (htext : '[' ∉ text) (address : Ipv6) :
    lowerChars text ≠ lowerChars (Host.ipv6 address).text.toList := by
  rw [lowerChars_ipv6]
  intro heq
  apply htext
  rw [← mem_lowerChars_iff (by decide), heq]
  exact List.mem_cons_self

theorem bracket_not_mem_name {name : List Char} (hname : Idna.IsName name) : '[' ∉ name :=
  fun hmem => absurd (hname '[' hmem) (by decide)

theorem bracket_not_mem_ipv4 (address : Ipv4) : '[' ∉ address.text.toList :=
  fun hmem => absurd (address.text_subset hmem) (by decide)

/-- The hosts of web addresses are the same exactly if their texts differ in nothing but the case of
letters, of whatever kinds they are. -/
theorem lowerChars_text_eq_iff
    {place otherPlace : List Char} {host other : Host} (hhost : parse place = .ok host)
    (hother : parse otherPlace = .ok other) :
    lowerChars host.text.toList = lowerChars other.text.toList ↔ host.SameHost other := by
  cases host with
  | domain name =>
      obtain ⟨hname, hnumeric⟩ := isName_of_parse hhost
      have hbracket := bracket_not_mem_name hname
      cases other with
      | domain other => exact beq_iff_eq.symm
      | ipv4 address => exact iff_of_false (lowerChars_ne_ipv4 hnumeric address) Host.noConfusion
      | ipv6 address => exact iff_of_false (lowerChars_ne_ipv6 hbracket address) Host.noConfusion
  | ipv4 address =>
      have hbracket := bracket_not_mem_ipv4 address
      cases other with
      | domain other =>
          have hnumeric := (isName_of_parse hother).2
          exact iff_of_false (lowerChars_ne_ipv4 hnumeric address).symm Host.noConfusion
      | ipv4 other =>
          simp only [text, address.lowerChars_text, other.lowerChars_text, String.toList_inj,
            Ipv4.text_inj, SameHost, Host.ipv4.injEq]
      | ipv6 other => exact iff_of_false (lowerChars_ne_ipv6 hbracket other) Host.noConfusion
  | ipv6 address =>
      cases other with
      | domain other =>
          have hbracket := bracket_not_mem_name (isName_of_parse hother).1
          exact iff_of_false (lowerChars_ne_ipv6 hbracket address).symm Host.noConfusion
      | ipv4 other =>
          have hbracket := bracket_not_mem_ipv4 other
          exact iff_of_false (lowerChars_ne_ipv6 hbracket address).symm Host.noConfusion
      | ipv6 other =>
          simp only [lowerChars_ipv6, List.cons.injEq, true_and, List.append_cancel_right_eq,
            Ipv6.chars_inj, SameHost, Host.ipv6.injEq]

end Host

end ProxyHandshake
