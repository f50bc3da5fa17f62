import ProxyHandshake.Proofs.Text
import Mathlib

/-!
# Letters in either case

A text in small letters has its blanks where they were before, and every sign that is no letter.
-/

namespace ProxyHandshake.Text

/-- A sign that is no letter is not what a letter becomes. -/
theorem toLower_eq_iff {mark : Char} (hmark : mark.isAlpha = false) (c : Char) :
    c.toLower = mark ↔ c = mark := by
  by_cases hupper : c.isUpper = true
  · have halpha : c.isAlpha = true := by simp [Char.isAlpha, hupper]
    refine iff_of_false (fun heq => ?_) (fun heq => ?_)
    · rw [← heq, Char.isAlpha_toLower_eq_isAlpha, halpha] at hmark
      cases hmark
    · rw [← heq, halpha] at hmark
      cases hmark
  · rw [Char.toLower_eq_of_not_isUpper hupper]

theorem isBlank_toLower (c : Char) : isBlank c.toLower = isBlank c := by
  have hletter {d : Char} (hd : d.isAlpha = true) : isBlank d = false := by
    obtain ⟨hlow, hhigh⟩ := visible_of_isAlphanum (c := d) (by simp [Char.isAlphanum, hd])
    exact isBlank_of_visible hlow hhigh
  by_cases hupper : c.isUpper = true
  · have halpha : c.isAlpha = true := by simp [Char.isAlpha, hupper]
    rw [hletter halpha, hletter (c.isAlpha_toLower_eq_isAlpha.trans halpha)]
  · rw [Char.toLower_eq_of_not_isUpper hupper]

theorem dropWhile_lowerChars
    {p : Char → Bool} (hp : ∀ c : Char, p c.toLower = p c) (text : List Char) :
    (lowerChars text).dropWhile p = lowerChars (text.dropWhile p) := by
  have hsame : p ∘ Char.toLower = p := funext hp
  rw [lowerChars, List.dropWhile_map, hsame, lowerChars]

theorem dropEnd_lowerChars
    {p : Char → Bool} (hp : ∀ c : Char, p c.toLower = p c) (text : List Char) :
    dropEnd p (lowerChars text) = lowerChars (dropEnd p text) := by
  have hreverse : (lowerChars text).reverse = lowerChars text.reverse := List.map_reverse.symm
  rw [dropEnd, hreverse, dropWhile_lowerChars hp]
  exact List.map_reverse.symm

theorem trimChars_lowerChars (text : List Char) :
    trimChars (lowerChars text) = lowerChars (trimChars text) := by
  rw [trimChars, dropWhile_lowerChars isBlank_toLower, dropEnd_lowerChars isBlank_toLower, trimChars]

theorem isTrimmed_lowerChars {text : List Char} : IsTrimmed (lowerChars text) ↔ IsTrimmed text := by
  rw [isTrimmed_iff, isTrimmed_iff, trimChars_lowerChars]
  constructor
  · intro hsame
    apply (trimChars_sublist text).eq_of_length
    simpa [lowerChars] using congrArg List.length hsame
  · intro hsame
    rw [hsame]

theorem lowerChars_eq_self {text : List Char} (htext : ∀ c ∈ text, c.isUpper = false) :
    lowerChars text = text := by
  have hsame : ∀ c ∈ text, c.toLower = c := fun c hc =>
    Char.toLower_eq_of_not_isUpper (by simp [htext c hc])
  rw [lowerChars, List.map_congr_left hsame, List.map_id']

theorem isUpper_eq_false_of_mem_lowerChars {text : List Char} {c : Char} (hc : c ∈ lowerChars text) :
    c.isUpper = false := by
  obtain ⟨d, -, rfl⟩ := List.mem_map.mp hc
  exact d.isUpper_toLower_eq_false

theorem mem_lowerChars_iff {mark : Char} (hmark : mark.isAlpha = false) (text : List Char) :
    mark ∈ lowerChars text ↔ mark ∈ text := by
  simp only [lowerChars, List.mem_map, toLower_eq_iff hmark, exists_eq_right]

/-- Only a text without letters becomes one. -/
theorem lowerChars_eq_iff {text plain : List Char} (hplain : ∀ c ∈ plain, c.isAlpha = false) :
    lowerChars text = plain ↔ text = plain := by
  induction plain generalizing text with
  | nil => exact List.map_eq_nil_iff
  | cons mark plain ih =>
      obtain ⟨hmark, hplain⟩ := List.forall_mem_cons.mp hplain
      cases text with
      | nil => simp [lowerChars]
      | cons c text =>
          rw [lowerChars, List.map_cons, List.cons.injEq, List.cons.injEq, toLower_eq_iff hmark,
            ← lowerChars, ih hplain]

end ProxyHandshake.Text
