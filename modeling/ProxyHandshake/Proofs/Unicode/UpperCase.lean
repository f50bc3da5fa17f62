import ProxyHandshake.Text.Blank
import ProxyHandshake.Unicode.UpperCase

/-!
# Signs in upper case

Case is a matter of letters: what separates names, and what is blank, is its own upper case, and is the
upper case of nothing else.  So a text in upper case has its signs where the text has them.
-/

namespace ProxyHandshake.Unicode

/-! ## What a table can give -/

/-- The last item that is counted starts no later than `code`. -/
theorem first_le_of_startedBy
    {β : Type} {ranges : Array (Item β)} {code lo hi n : Nat}
    (hstarted : startedBy ranges code lo hi = n + 1) :
    lo = n + 1 ∨ ∃ item, ranges[n]? = some item ∧ item.first ≤ code := by
  fun_induction startedBy ranges code lo hi with
  | case1 lo hi hless hnone => exact .inl hstarted
  | case2 lo hi hless item hitem hfirst ih =>
      rcases ih hstarted with hmiddle | hfound
      · obtain rfl : (lo + hi) / 2 = n := by omega
        exact .inr ⟨item, hitem, hfirst⟩
      · exact .inr hfound
  | case3 lo hi hless item hitem hlater ih => exact ih hstarted
  | case4 lo hi hempty => exact .inl hstarted

theorem mem_of_itemOf?
    {β : Type} {ranges : Array (Item β)} {code : Nat} {item : Item β}
    (hitem : itemOf? ranges code = some item) :
    item ∈ ranges ∧ item.first ≤ code ∧ code ≤ item.last := by
  unfold itemOf? at hitem
  split at hitem
  next => cases hitem
  next n hstarted =>
    obtain ⟨hfound, hlast⟩ := Option.filter_eq_some_iff.mp hitem
    refine ⟨Array.mem_of_getElem? hfound, ?_, of_decide_eq_true hlast⟩
    rcases first_le_of_startedBy hstarted with hnone | ⟨other, hother, hfirst⟩
    · omega
    · rw [hother, Option.some.injEq] at hfound
      rwa [← hfound]

theorem mem_ranges_of_image?
    {map : CharMap} {c : Char} {image : List Char} (himage : map.image? c = some image) :
    ∃ item ∈ map.ranges, ∃ offset ≤ item.last - item.first,
      image = item.value.target.map fun code => Char.ofNat (code + offset) := by
  simp only [CharMap.image?, bind, Option.bind_eq_some_iff] at himage
  obtain ⟨item, hitem, himage⟩ := himage
  obtain ⟨hmem, -, hlast⟩ := mem_of_itemOf? hitem
  split at himage
  next => exact ⟨item, hmem, c.toNat - item.first, by omega, (Option.some.inj himage).symm⟩
  next => cases himage

/-- The items of a table, from the characters of its text. -/
theorem toList_ranges_ofText (chars : List Char) :
    (CharMap.ofText (String.ofList chars)).ranges.toList =
      (((parts '\n' chars).flatMap (parts ' ')).filter (· ≠ [])).map Item.ofMapping := by
  simp only [CharMap.ofText, items, String.toList_ofList, Array.toList_map]

/-! ## Signs -/

/-- What stands between words and names, and in none of them. -/
def isSign (c : Char) : Bool :=
  Text.isBlank c || c == '@' || c == '\\'

theorem isSign_iff (c : Char) :
    isSign c = true ↔ Text.isBlank c = true ∨ c.toNat = 0x40 ∨ c.toNat = 0x5C := by
  have hat : c = '@' ↔ c.toNat = 0x40 := Char.toNat_inj.symm
  have hbackslash : c = '\\' ↔ c.toNat = 0x5C := Char.toNat_inj.symm
  simp only [isSign, Bool.or_eq_true, beq_iff_eq, hat, hbackslash, or_assoc]

/-- A number that is no code point stands for the first one. -/
theorem toNat_charOfNat (n : Nat) : (Char.ofNat n).toNat = n ∨ (Char.ofNat n).toNat = 0 := by
  by_cases hvalid : n.isValidChar
  · exact .inl (by rw [Char.ofNat, dif_pos hvalid]; rfl)
  · exact .inr (by rw [Char.ofNat, dif_neg hvalid]; rfl)

/-- Stretches of code points that hold no sign. -/
def clearStretches : List (Nat × Nat) :=
  [(0x41, 0x5B), (0xA1, 0x167F), (0x1681, 0x1FFF), (0x2060, 0x2FFF), (0x3001, 0x10FFFF)]

theorem isSign_ofNat_of_clear
    {n low high : Nat} (hclear : (low, high) ∈ clearStretches) (hlow : low ≤ n) (hhigh : n ≤ high) :
    isSign (Char.ofNat n) = false := by
  refine Bool.eq_false_iff.mpr fun hsign => ?_
  simp only [isSign_iff, Text.isBlank, Bool.or_eq_true, Bool.and_eq_true, decide_eq_true_eq,
    beq_iff_eq] at hsign
  simp only [clearStretches, List.mem_cons, Prod.mk.injEq, List.not_mem_nil, or_false] at hclear
  have hcode := toNat_charOfNat n
  omega

/-- An item by which some characters go to something, and none to a sign. -/
def Item.isLetters (item : Item Image) : Bool :=
  !item.value.target.isEmpty && item.value.target.all fun code =>
    clearStretches.any fun (low, high) => low ≤ code && code + (item.last - item.first) ≤ high

set_option maxRecDepth 20000 in
theorem isLetters_upperCaseTable : upperCaseTable.ranges.toList.all Item.isLetters = true := by
  -- The text of the table has to be taken for a list of characters before it can be computed with.
  obtain ⟨chars, htable, hletters⟩ : ∃ chars, upperCaseTable = CharMap.ofText (String.ofList chars) ∧
      (CharMap.ofText (String.ofList chars)).ranges.toList.all Item.isLetters = true := by
    refine ⟨_, rfl, ?_⟩
    rw [toList_ranges_ofText]
    decide +kernel
  rw [htable, hletters]

theorem image?_upperCaseTable
    {c : Char} {image : List Char} (himage : upperCaseTable.image? c = some image) :
    image ≠ [] ∧ ∀ d ∈ image, isSign d = false := by
  obtain ⟨item, hitem, offset, hoffset, rfl⟩ := mem_ranges_of_image? himage
  have hletters := List.all_eq_true.mp isLetters_upperCaseTable item (Array.mem_toList_iff.mpr hitem)
  rw [Item.isLetters, Bool.and_eq_true, List.all_eq_true] at hletters
  refine ⟨by simpa using hletters.1, fun d hd => ?_⟩
  obtain ⟨code, hcode, rfl⟩ := List.mem_map.mp hd
  obtain ⟨⟨low, high⟩, hclear, hbounds⟩ := List.any_eq_true.mp (hletters.2 code hcode)
  rw [Bool.and_eq_true, decide_eq_true_eq, decide_eq_true_eq] at hbounds
  exact isSign_ofNat_of_clear hclear (by omega) (by omega)

theorem upperCaseOf_ne_nil (c : Char) : upperCaseOf c ≠ [] := by
  unfold upperCaseOf
  split
  next => exact List.cons_ne_nil _ _
  next =>
    cases himage : upperCaseTable.image? c with
    | none => exact List.cons_ne_nil _ _
    | some image => exact (image?_upperCaseTable himage).1

theorem toUpper_of_isSign {c : Char} (hascii : c.toNat < 0x80) (hsign : isSign c.toUpper = true) :
    c.toUpper = c := by
  have hall : ∀ n < 0x80, isSign (Char.ofNat n).toUpper = true →
      (Char.ofNat n).toUpper = Char.ofNat n := by decide +kernel
  have hchar := hall c.toNat hascii
  rw [Char.ofNat_toNat] at hchar
  exact hchar hsign

/-- A sign is the upper case of nothing but itself. -/
theorem eq_of_mem_upperCaseOf {c d : Char} (hd : d ∈ upperCaseOf c) (hsign : isSign d = true) :
    d = c := by
  unfold upperCaseOf at hd
  split at hd
  next =>
    obtain rfl := List.mem_singleton.mp hd
    exact toUpper_of_isSign (by assumption) hsign
  next =>
    cases himage : upperCaseTable.image? c with
    | none => simpa [himage] using hd
    | some image =>
        rw [himage] at hd
        rw [(image?_upperCaseTable himage).2 d hd] at hsign
        cases hsign

/-! ## Texts -/

theorem upperCaseChars_eq_nil_iff (text : List Char) : upperCaseChars text = [] ↔ text = [] := by
  cases text with
  | nil => rfl
  | cons c text => simp [upperCaseChars, upperCaseOf_ne_nil]

theorem upperCaseChars_append (text more : List Char) :
    upperCaseChars (text ++ more) = upperCaseChars text ++ upperCaseChars more :=
  List.flatMap_append

theorem upperCaseChars_cons (c : Char) (text : List Char) :
    upperCaseChars (c :: text) = upperCaseOf c ++ upperCaseChars text :=
  List.flatMap_cons

theorem count_upperCaseChars_at (text : List Char) :
    (upperCaseChars text).count '@' = text.count '@' := by
  induction text with
  | nil => rfl
  | cons c text ih =>
      rw [upperCaseChars_cons, List.count_append, ih, List.count_cons, Nat.add_comm]
      by_cases hc : c = '@'
      · subst hc
        rfl
      · have hnone : '@' ∉ upperCaseOf c := fun hmem =>
          hc (eq_of_mem_upperCaseOf hmem (by decide)).symm
        simp [hc, List.count_eq_zero_of_not_mem hnone]

theorem getLast?_upperCaseChars_at (text : List Char) :
    (upperCaseChars text).getLast? = some '@' ↔ text.getLast? = some '@' := by
  rcases List.eq_nil_or_concat text with rfl | ⟨front, last, rfl⟩
  · rfl
  · have hlast : upperCaseChars (front ++ [last]) = upperCaseChars front ++ upperCaseOf last := by
      rw [upperCaseChars_append, upperCaseChars_cons]
      exact congrArg _ (List.append_nil _)
    have hsome := List.getLast?_eq_some_getLast (upperCaseOf_ne_nil last)
    rw [List.concat_eq_append, hlast, List.getLast?_concat, List.getLast?_append, hsome,
      Option.some_or, ← hsome, Option.some.injEq]
    constructor
    · intro hmem
      exact (eq_of_mem_upperCaseOf (List.mem_of_getLast? hmem) (by decide)).symm
    · rintro rfl
      decide

/-- A text in upper case begins with a blank only if the text does. -/
theorem isBlank_head_upperCaseChars
    {c : Char} {text : List Char} (hc : Text.isBlank c = false) :
    ∀ d ∈ (upperCaseChars (c :: text)).head?, Text.isBlank d = false := by
  intro d hd
  have hsome := List.head?_eq_some_head (upperCaseOf_ne_nil c)
  rw [upperCaseChars_cons, List.head?_append, hsome, Option.some_or, ← hsome] at hd
  cases hblank : Text.isBlank d with
  | false => rfl
  | true =>
      have hsign : isSign d = true := by simp [isSign, hblank]
      rw [eq_of_mem_upperCaseOf (List.mem_of_mem_head? hd) hsign, hc] at hblank
      cases hblank

end ProxyHandshake.Unicode
