import ProxyHandshake.Proofs.Text
import ProxyHandshake.Proofs.Unicode.Composition
import ProxyHandshake.Proofs.Utf8
import ProxyHandshake.Url.Host

/-!
# Hosts with a sign

The sign that separates a user from a host stands in no host of a web address, however it is written: it is
not lost when the host is decoded, mapped, composed and taken out of Punycode, and the label in which it
ends up is refused.
-/

namespace ProxyHandshake

open Text

/-! ## Punycode -/

namespace Idna

namespace Punycode

/-- The digits of a number are read away, and no sign is one of them. -/
theorem mem_of_decodeNumber
    {i weight k bias sum : Nat} {text rest : List Char}
    (hread : decodeNumber i weight k bias text = some (sum, rest)) (hmem : '@' ∈ text) :
    '@' ∈ rest := by
  induction text generalizing i weight k with
  | nil => cases hmem
  | cons c text ih =>
      rw [decodeNumber] at hread
      simp only [Option.bind_eq_bind, Option.bind_eq_some_iff] at hread
      obtain ⟨d, hdigit, hread⟩ := hread
      have hrest : '@' ∈ text := by
        rcases List.mem_cons.mp hmem with rfl | hmem
        · cases hdigit
        · exact hmem
      split at hread
      · cases hread
      · split at hread
        · cases hread
          exact hrest
        · split at hread
          · cases hread
          · exact ih hread hrest

theorem mem_insertAt (i : Nat) {c d : Char} {text : List Char} (hc : c ∈ text) :
    c ∈ insertAt i d text := by
  rw [← List.take_append_drop i text, List.mem_append] at hc
  simp only [insertAt, List.mem_append, List.mem_cons]
  exact hc.imp id .inr

/-- The label keeps its sign, and the places of the inserted characters hold none. -/
theorem mem_of_decodeFrom
    {code i bias : Nat} {label text decoded : List Char}
    (hdecode : decodeFrom code i bias label text = some decoded) (hmem : '@' ∈ label ++ text) :
    '@' ∈ decoded := by
  fun_induction decodeFrom code i bias label text with
  | case1 code i bias label =>
      cases hdecode
      simpa using hmem
  | case2 => cases hdecode
  | case3 => cases hdecode
  | case4 code i bias label text hnonempty sum rest hread count c hc ih =>
      apply ih hdecode
      rw [List.mem_append] at hmem ⊢
      exact hmem.imp (mem_insertAt _) (mem_of_decodeNumber hread)

theorem mem_of_decode? {text decoded : List Char} (hdecode : decode? text = some decoded)
    (hmem : '@' ∈ text) : '@' ∈ decoded := by
  unfold decode? at hdecode
  split at hdecode
  · cases hdecode
  next basic places _ hcut =>
    split at hdecode
    · apply mem_of_decodeFrom hdecode
      rw [eq_of_cutLast? hcut] at hmem
      simpa using hmem
    · cases hdecode
  · exact mem_of_decodeFrom hdecode (List.mem_append_right [] hmem)

end Punycode

/-! ## Names -/

theorem labelFits_eq_false {label : List Char} (hmem : '@' ∈ label) : labelFits label = false := by
  rw [labelFits, Bool.and_eq_false_iff]
  right
  rw [List.all_eq_false]
  exact ⟨'@', hmem, by decide⟩

theorem readLabel?_eq_none {label : List Char} (hmem : '@' ∈ label) : readLabel? label = none := by
  unfold readLabel?
  split
  next places =>
    have hplaces : '@' ∈ places := by simpa using hmem
    cases hdecode : Punycode.decode? places with
    | none => rfl
    | some decoded =>
        have hfits := labelFits_eq_false (Punycode.mem_of_decode? hdecode hplaces)
        simp only [Option.bind_eq_bind, Option.bind_some, hfits, Bool.not_false, Bool.or_true,
          Bool.true_or, if_true]
  next => rw [labelFits_eq_false hmem, if_neg Bool.false_ne_true]

theorem mem_of_mapChars? {name mapped : List Char} (hmap : mapChars? name = some mapped)
    (hmem : '@' ∈ name) : '@' ∈ mapped := by
  induction name generalizing mapped with
  | nil => cases hmem
  | cons c name ih =>
      simp only [mapChars?, Option.bind_eq_bind, Option.bind_eq_some_iff, Option.some.injEq] at hmap
      obtain ⟨first, hfirst, others, hothers, rfl⟩ := hmap
      rcases List.mem_cons.mp hmem with rfl | hmem
      · obtain rfl : ['@'] = first := Option.some.inj hfirst
        exact List.mem_cons_self
      · exact List.mem_append_right first (ih hothers hmem)

theorem mapM_readLabel?_eq_none {labels : List (List Char)} {label : List Char}
    (hlabel : label ∈ labels) (hmem : '@' ∈ label) : labels.mapM readLabel? = none := by
  induction labels with
  | nil => cases hlabel
  | cons first labels ih =>
      rw [List.mapM_cons]
      rcases List.mem_cons.mp hlabel with rfl | hlabel
      · rw [readLabel?_eq_none hmem]
        rfl
      · rw [ih hlabel]
        cases readLabel? first <;> rfl

/-- A name with a sign has no ASCII form. -/
theorem toAscii?_eq_none {name : List Char} (hmem : '@' ∈ name) : toAscii? name = none := by
  have hplain : '@' ∈ lowerChars name := List.mem_map.mpr ⟨'@', hmem, rfl⟩
  have hforbidden : (lowerChars name).any isForbidden = true :=
    List.any_eq_true.mpr ⟨'@', hplain, by decide⟩
  unfold toAscii?
  simp only [hforbidden, if_true]
  split
  · rfl
  · cases hmap : mapChars? name with
    | none => rfl
    | some mapped =>
        have hdot : '@' ≠ '.' := by decide
        obtain ⟨label, hlabel, hsign⟩ :=
          exists_mem_pieces (Unicode.mem_normalForm (mem_of_mapChars? hmap hmem)) hdot
        simp [mapM_readLabel?_eq_none hlabel hsign]

end Idna

/-! ## Hosts -/

/-- Decoding takes only percent signs and hexadecimal digits away. -/
theorem Percent.mem_decode {bytes : Bytes} (hmem : 0x40 ∈ bytes) : 0x40 ∈ decode bytes := by
  fun_induction decode bytes with
  | case1 a b rest hhex ih =>
      rw [Bool.and_eq_true] at hhex
      have hdigit (d : UInt8) (hd : isHexByte d = true) : (0x40 : UInt8) ≠ d := by
        rintro rfl
        cases hd
      have hrest : 0x40 ∈ rest := by
        simpa [hdigit a hhex.1, hdigit b hhex.2] using hmem
      exact List.mem_cons_of_mem _ (ih hrest)
  | case2 a b rest hplain ih =>
      rcases List.mem_cons.mp hmem with hpercent | hmem
      · cases hpercent
      · exact List.mem_cons_of_mem _ (ih hmem)
  | case3 a rest hother ih =>
      rcases List.mem_cons.mp hmem with rfl | hmem
      · exact List.mem_cons_self
      · exact List.mem_cons_of_mem _ (ih hmem)
  | case4 => exact hmem

/-- No text with a sign is the host of a web address. -/
theorem Host.parse_eq_invalidName {text : List Char} (hmem : '@' ∈ text)
    (hfirst : text.head? ≠ some '[') : parse text = .error .invalidName := by
  have hnone :
      (Utf8.decodeChars? (Percent.decode (Utf8.encodeChars text))).bind Idna.toAscii? = none := by
    rw [Option.bind_eq_none_iff]
    intro name hname
    apply Idna.toAscii?_eq_none
    have hbyte : 0x40 ∈ Percent.decode (Utf8.encodeChars text) :=
      Percent.mem_decode (Utf8.mem_encodeChars hmem (by decide))
    rw [Utf8.decodeChars?_eq_some_iff.mp hname] at hbyte
    exact Utf8.mem_of_mem_encodeChars hbyte (by decide)
  unfold parse
  split
  next inside => exact absurd rfl hfirst
  next => rw [hnone]

end ProxyHandshake
