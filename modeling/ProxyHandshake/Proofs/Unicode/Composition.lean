import ProxyHandshake.Proofs.Unicode.UpperCase
import ProxyHandshake.Unicode.Normal

/-!
# Signs in composed texts

The sign that separates a user from a host is neither taken apart nor put together with anything, so a text
in its composed normal form holds the sign if the text did.
-/

namespace ProxyHandshake.Unicode

/-! ## Taking apart -/

theorem mem_insertMark {c d : Char} {text : List Char} (hd : d ∈ c :: text) :
    d ∈ insertMark c text := by
  induction text with
  | nil => exact hd
  | cons first text ih =>
      rw [insertMark]
      split
      · simp only [List.mem_cons] at hd ih ⊢
        rcases hd with hd | hd | hd
        · exact .inr (ih (.inl hd))
        · exact .inl hd
        · exact .inr (ih (.inr hd))
      · exact hd

theorem mem_orderMarks {c : Char} {text : List Char} (hc : c ∈ text) : c ∈ orderMarks text := by
  induction text with
  | nil => exact hc
  | cons first text ih =>
      rw [orderMarks]
      apply mem_insertMark
      rcases List.mem_cons.mp hc with rfl | hc
      · exact List.mem_cons_self
      · exact List.mem_cons_of_mem _ (ih hc)

/-! ## Putting together -/

/-- An item by which nothing is put together with the sign. -/
def Item.leavesSign (item : Item Image) : Bool :=
  (decide (item.last < '@'.toNat) || decide ('@'.toNat < item.first)) &&
    !item.value.target.contains '@'.toNat

set_option maxRecDepth 60000 in
theorem leavesSign_compositionTable :
    compositionTable.ranges.toList.all Item.leavesSign = true := by
  -- As for the table of capitals, the text has to be a list of characters first.
  obtain ⟨chars, htable, hleaves⟩ :
      ∃ chars, compositionTable = CharMap.ofText (String.ofList chars) ∧
        (CharMap.ofText (String.ofList chars)).ranges.toList.all Item.leavesSign = true := by
    refine ⟨_, rfl, ?_⟩
    rw [toList_ranges_ofText]
    decide +kernel
  rw [htable, hleaves]

theorem value?_compositionTable
    {c : Char} {target : List Nat} (hvalue : compositionTable.value? c = some target) :
    c ≠ '@' ∧ '@'.toNat ∉ target := by
  obtain ⟨item, hitem, rfl⟩ := Option.map_eq_some_iff.mp hvalue
  obtain ⟨hmem, hfirst, hlast⟩ := mem_of_itemOf? hitem
  have hleaves :=
    List.all_eq_true.mp leavesSign_compositionTable item (Array.mem_toList_iff.mpr hmem)
  simp only [Item.leavesSign, Bool.and_eq_true, Bool.or_eq_true, decide_eq_true_eq,
    Bool.not_eq_true', List.contains_eq_mem, decide_eq_false_iff_not] at hleaves
  refine ⟨?_, hleaves.2⟩
  rintro rfl
  omega

theorem mem_of_compositeIn
    {second : Nat} {target : List Nat} {c : Char} (hcomposite : compositeIn second target = some c) :
    second ∈ target := by
  fun_induction compositeIn second target with
  | case1 code rest => exact List.mem_cons_self
  | case2 first code rest hfirst ih =>
      exact List.mem_cons_of_mem _ (List.mem_cons_of_mem _ (ih hcomposite))
  | case3 target hshort => cases hcomposite

theorem leadBase_le_of_hangulSyllable?
    {c d syllable : Char} (hsyllable : hangulSyllable? c d = some syllable) :
    leadBase ≤ c.toNat ∧ leadBase ≤ d.toNat := by
  have hvowel : leadBase ≤ vowelBase := by decide
  have hopen : leadBase ≤ hangulBase := by decide
  have htail : leadBase ≤ tailBase := by decide
  unfold hangulSyllable? at hsyllable
  split at hsyllable
  · omega
  · split at hsyllable
    · omega
    · cases hsyllable

/-- Nothing is put together with the sign. -/
theorem ne_of_composite? {c d e : Char} (hcomposite : composite? c d = some e) :
    c ≠ '@' ∧ d ≠ '@' := by
  unfold composite? at hcomposite
  split at hcomposite
  next hsyllable =>
    have hsign : '@'.toNat < leadBase := by decide
    obtain ⟨hc, hd⟩ := leadBase_le_of_hangulSyllable? hsyllable
    constructor
    · rintro rfl
      omega
    · rintro rfl
      omega
  next =>
    obtain ⟨target, htarget, hcomposite⟩ := Option.bind_eq_some_iff.mp hcomposite
    obtain ⟨hc, htarget⟩ := value?_compositionTable htarget
    refine ⟨hc, ?_⟩
    rintro rfl
    exact htarget (mem_of_compositeIn hcomposite)

theorem mem_composeOnto
    {base : Char} {kept text : List Char} {last : Nat} (hmem : '@' ∈ base :: kept ++ text) :
    '@' ∈ composeOnto base kept last text := by
  fun_induction composeOnto base kept last text with
  | case1 base kept last => simpa using hmem
  | case2 base kept last d rest visible c hcomposite ih =>
      -- What is put together are two other characters.
      have hothers : base ≠ '@' ∧ d ≠ '@' := by
        split at hcomposite
        · exact ne_of_composite? hcomposite
        · cases hcomposite
      apply ih
      simp only [List.cons_append, List.mem_cons, List.mem_append] at hmem ⊢
      rcases hmem with hbase | hkept | hd | hrest
      · exact absurd hbase.symm hothers.1
      · exact .inr (.inl hkept)
      · exact absurd hd.symm hothers.2
      · exact .inr (.inr hrest)
  | case3 base kept last d rest visible hnone hstarter ih =>
      rw [List.mem_append] at hmem ⊢
      exact hmem.imp id ih
  | case4 base kept last d rest visible hnone hmark ih =>
      apply ih
      simpa using hmem

theorem mem_compose {text : List Char} (hmem : '@' ∈ text) : '@' ∈ compose text := by
  induction text with
  | nil => exact hmem
  | cons c text ih =>
      rw [compose]
      split
      · exact mem_composeOnto hmem
      next hmark =>
        rcases List.mem_cons.mp hmem with rfl | hmem
        · exact List.mem_cons_self
        · exact List.mem_cons_of_mem _ (ih hmem)

/-- The sign stays in the composed normal form. -/
theorem mem_normalForm {text : List Char} (hmem : '@' ∈ text) : '@' ∈ normalForm text := by
  rw [normalForm]
  split
  · exact hmem
  · exact mem_compose (mem_orderMarks (List.mem_flatMap.mpr ⟨'@', hmem, List.mem_cons_self⟩))

end ProxyHandshake.Unicode
