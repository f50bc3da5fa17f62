import ProxyHandshake.Text.Blank
import ProxyHandshake.Text.Number
import ProxyHandshake.Text.Split
import Mathlib.Data.List.TakeWhile

/-!
# Trimming, cutting and reading numbers

A text that neither begins nor ends with a blank is left as it is by trimming, and blanks in front of
a text make no difference.  The pieces between marks are the only texts without marks that make the whole
when they are joined.  The texts that are read as a number are its decimal numerals, with any number of
zeros and perhaps a plus sign in front.
-/

namespace ProxyHandshake.Text

/-- A property of all members of a list, decided member by member. -/
theorem forall_mem_of_all
    {α : Type} {p : α → Prop} [DecidablePred p] {list : List α}
    (hall : (list.all fun a => p a) = true) : ∀ a ∈ list, p a :=
  fun a ha => of_decide_eq_true (List.all_eq_true.mp hall a ha)

/-! ## Trimming -/

theorem dropWhile_eq_self
    {p : Char → Bool} {text : List Char} (hfirst : ∀ c ∈ text.head?, p c = false) :
    text.dropWhile p = text := by
  cases text with
  | nil => rfl
  | cons c rest => exact List.dropWhile_cons_of_neg (by simpa using hfirst c)

theorem dropEnd_eq_self
    {p : Char → Bool} {text : List Char} (hlast : ∀ c ∈ text.getLast?, p c = false) :
    dropEnd p text = text := by
  have hreverse : text.reverse.dropWhile p = text.reverse :=
    dropWhile_eq_self (by simpa using hlast)
  rw [dropEnd, hreverse, List.reverse_reverse]

theorem trimChars_eq_self
    {text : List Char} (hfirst : ∀ c ∈ text.head?, isBlank c = false)
    (hlast : ∀ c ∈ text.getLast?, isBlank c = false) :
    trimChars text = text := by
  rw [trimChars, dropWhile_eq_self hfirst, dropEnd_eq_self hlast]

/-- Whether a text neither begins nor ends with a blank. -/
structure IsTrimmed (text : List Char) : Prop where
  first : ∀ c ∈ text.head?, isBlank c = false
  last : ∀ c ∈ text.getLast?, isBlank c = false

theorem IsTrimmed.trimChars {text : List Char} (htext : IsTrimmed text) : trimChars text = text :=
  trimChars_eq_self htext.first htext.last

theorem trimChars_of_unblank {text : List Char} (htext : ∀ c ∈ text, isBlank c = false) :
    trimChars text = text :=
  trimChars_eq_self (fun c hc => htext c (List.mem_of_mem_head? hc))
    (fun c hc => htext c (List.mem_of_mem_getLast? hc))

theorem trimChars_append_blanks
    {gap : List Char} (hgap : ∀ c ∈ gap, isBlank c = true) (text : List Char) :
    trimChars (gap ++ text) = trimChars text := by
  rw [trimChars, List.dropWhile_append_of_pos hgap, trimChars]

theorem dropEnd_isPrefix (p : Char → Bool) (text : List Char) : dropEnd p text <+: text := by
  rw [dropEnd, ← List.reverse_suffix, List.reverse_reverse]
  exact List.dropWhile_suffix p

theorem dropEnd_eq_nil_iff {p : Char → Bool} {text : List Char} :
    dropEnd p text = [] ↔ ∀ c ∈ text, p c = true := by
  simp [dropEnd, List.dropWhile_eq_nil_iff]

/-- What is dropped at the end satisfies the condition. -/
theorem exists_dropEnd (p : Char → Bool) (text : List Char) :
    ∃ rest, text = dropEnd p text ++ rest ∧ ∀ c ∈ rest, p c = true := by
  refine ⟨(text.reverse.takeWhile p).reverse, ?_, fun c hc => ?_⟩
  · rw [dropEnd, ← List.reverse_append, List.takeWhile_append_dropWhile, List.reverse_reverse]
  · exact List.all_eq_true.mp List.all_takeWhile c (List.mem_reverse.mp hc)

theorem mem_head?_of_dropEnd
    {p : Char → Bool} {text : List Char} {c : Char} (hc : c ∈ (dropEnd p text).head?) :
    c ∈ text.head? := by
  obtain ⟨behind, hbehind⟩ := dropEnd_isPrefix p text
  rw [Option.mem_def] at hc
  rw [← hbehind, List.head?_append, hc]
  rfl

theorem dropEnd_append_right
    {p : Char → Bool} {gap : List Char} (hgap : ∀ c ∈ gap, p c = true) (text : List Char) :
    dropEnd p (text ++ gap) = dropEnd p text := by
  rw [dropEnd, List.reverse_append, List.dropWhile_append_of_pos (by simpa using hgap), dropEnd]

theorem trimChars_append_right
    {gap : List Char} (hgap : ∀ c ∈ gap, isBlank c = true) (text : List Char) :
    trimChars (text ++ gap) = trimChars text := by
  rw [trimChars, trimChars, List.dropWhile_append]
  split
  next hempty =>
    have hnone : gap.dropWhile isBlank = [] := by
      have hdrop : (gap ++ []).dropWhile isBlank = [].dropWhile isBlank :=
        List.dropWhile_append_of_pos hgap
      rwa [List.append_nil] at hdrop
    rw [List.isEmpty_iff.mp hempty, hnone]
  next => exact dropEnd_append_right hgap _

theorem trimChars_sublist (text : List Char) : (trimChars text).Sublist text :=
  (dropEnd_isPrefix _ _).sublist.trans (List.dropWhile_suffix isBlank).sublist

theorem mem_trimChars {text : List Char} {c : Char} (hc : c ∈ trimChars text) : c ∈ text :=
  (trimChars_sublist text).mem hc

theorem not_of_mem_head?_dropWhile
    {p : Char → Bool} {text : List Char} {c : Char} (hc : c ∈ (text.dropWhile p).head?) :
    p c = false := by
  have hfirst := List.head?_dropWhile_not p text
  rw [Option.mem_def] at hc
  rwa [hc] at hfirst

theorem not_of_mem_getLast?_dropEnd
    {p : Char → Bool} {text : List Char} {c : Char} (hc : c ∈ (dropEnd p text).getLast?) :
    p c = false := by
  rw [dropEnd, List.getLast?_reverse] at hc
  exact not_of_mem_head?_dropWhile hc

theorem isTrimmed_trimChars (text : List Char) : IsTrimmed (trimChars text) where
  first _ hc := not_of_mem_head?_dropWhile (mem_head?_of_dropEnd hc)
  last _ hc := not_of_mem_getLast?_dropEnd hc

/-- Trimming once is enough. -/
theorem trimChars_trimChars (text : List Char) : trimChars (trimChars text) = trimChars text :=
  (isTrimmed_trimChars text).trimChars

theorem isTrimmed_iff {text : List Char} : IsTrimmed text ↔ trimChars text = text :=
  ⟨IsTrimmed.trimChars, fun htrim => htrim ▸ isTrimmed_trimChars text⟩

instance : DecidablePred IsTrimmed := fun _ => decidable_of_iff _ isTrimmed_iff.symm

theorem all_isBlank_of_trimChars {text : List Char} (hempty : trimChars text = []) :
    text.all isBlank = true := by
  have hbehind : (text.dropWhile isBlank).all isBlank = true :=
    List.all_eq_true.mpr (dropEnd_eq_nil_iff.mp hempty)
  rw [← List.takeWhile_append_dropWhile (p := isBlank) (l := text), List.all_append,
    List.all_takeWhile, hbehind]
  rfl

theorem trimChars_eq_nil_iff {text : List Char} : trimChars text = [] ↔ text.all isBlank = true := by
  refine ⟨all_isBlank_of_trimChars, fun hblank => ?_⟩
  have htrim := trimChars_append_right (List.all_eq_true.mp hblank) []
  exact htrim

theorem dropWhile_append_cons
    {p : Char → Bool} {mark : Char} (hmark : p mark = false) (front back : List Char) :
    (front ++ mark :: back).dropWhile p = front.dropWhile p ++ mark :: back := by
  induction front with
  | nil => simp [hmark]
  | cons c front ih => cases hc : p c <;> simp [hc, ih]

theorem dropEnd_append_cons
    {p : Char → Bool} {mark : Char} (hmark : p mark = false) (front back : List Char) :
    dropEnd p (front ++ mark :: back) = front ++ mark :: dropEnd p back := by
  have hreverse : (front ++ mark :: back).reverse = back.reverse ++ mark :: front.reverse := by simp
  rw [dropEnd, hreverse, dropWhile_append_cons hmark, dropEnd]
  simp

/-- Around a character that is not blank, the text in front loses the blanks at its beginning, and the
text behind those at its end. -/
theorem trimChars_append_cons {mark : Char} (hmark : isBlank mark = false) (front back : List Char) :
    trimChars (front ++ mark :: back) =
      front.dropWhile isBlank ++ mark :: dropEnd isBlank back := by
  rw [trimChars, dropWhile_append_cons hmark, dropEnd_append_cons hmark]

theorem mem_trimChars_of_unblank
    {c : Char} {text : List Char} (hc : c ∈ text) (hunblank : isBlank c = false) :
    c ∈ trimChars text := by
  obtain ⟨front, back, rfl⟩ := List.append_of_mem hc
  rw [trimChars_append_cons hunblank]
  exact List.mem_append_right _ List.mem_cons_self

/-- What trimming takes away are blanks on both sides. -/
theorem exists_gaps (text : List Char) :
    ∃ left right, text = left ++ trimChars text ++ right ∧ ∀ c ∈ left ++ right, isBlank c = true := by
  obtain ⟨right, hright, hblank⟩ := exists_dropEnd isBlank (text.dropWhile isBlank)
  refine ⟨text.takeWhile isBlank, right, ?_, List.forall_mem_append.mpr ⟨?_, hblank⟩⟩
  · rw [trimChars, List.append_assoc, ← hright, List.takeWhile_append_dropWhile]
  · exact List.all_eq_true.mp List.all_takeWhile

/-- Whether a text has nothing but blanks around `inner`. -/
def IsPadded (text inner : List Char) : Prop :=
  ∃ left right, text = left ++ inner ++ right ∧ ∀ c ∈ left ++ right, isBlank c = true

theorem IsPadded.trimChars {text inner : List Char} (htext : IsPadded text inner)
    (hinner : IsTrimmed inner) : trimChars text = inner := by
  obtain ⟨left, right, rfl, hblank⟩ := htext
  obtain ⟨hleft, hright⟩ := List.forall_mem_append.mp hblank
  rw [trimChars_append_right hright, trimChars_append_blanks hleft, hinner.trimChars]

theorem head?_append_cons {front : List Char} (hfront : front ≠ []) (mark : Char) (back : List Char) :
    (front ++ mark :: back).head? = front.head? := by
  obtain ⟨c, rest, rfl⟩ := List.exists_cons_of_ne_nil hfront
  rfl

theorem getLast?_append_cons {back : List Char} (hback : back ≠ []) (front : List Char) (mark : Char) :
    (front ++ mark :: back).getLast? = back.getLast? := by
  rw [List.getLast?_append, List.getLast?_cons, Option.some_or, List.getLast?_eq_some_getLast hback,
    Option.getD_some]

/-- A sign between two texts leaves their ends as they are. -/
theorem IsTrimmed.append_cons
    {front back : List Char} (hfront : IsTrimmed front) (hback : IsTrimmed back)
    (hnonempty : front ≠ [] ∧ back ≠ []) (mark : Char) : IsTrimmed (front ++ mark :: back) where
  first := by
    rw [head?_append_cons hnonempty.1]
    exact hfront.first
  last := by
    rw [getLast?_append_cons hnonempty.2]
    exact hback.last

/-! ## Letters and digits -/

theorem isDigit_bounds {c : Char} (hc : c.isDigit = true) : 48 ≤ c.toNat ∧ c.toNat ≤ 57 := by
  obtain ⟨hlow, hhigh⟩ := Bool.and_eq_true_iff.mp hc
  exact ⟨UInt32.le_iff_toNat_le.mp (of_decide_eq_true hlow),
    UInt32.le_iff_toNat_le.mp (of_decide_eq_true hhigh)⟩

theorem isUpper_bounds {c : Char} (hc : c.isUpper = true) : 65 ≤ c.toNat ∧ c.toNat ≤ 90 := by
  obtain ⟨hlow, hhigh⟩ := of_decide_eq_true hc
  exact ⟨UInt32.le_iff_toNat_le.mp hlow, UInt32.le_iff_toNat_le.mp hhigh⟩

theorem isLower_bounds {c : Char} (hc : c.isLower = true) : 97 ≤ c.toNat ∧ c.toNat ≤ 122 := by
  obtain ⟨hlow, hhigh⟩ := Bool.and_eq_true_iff.mp hc
  exact ⟨UInt32.le_iff_toNat_le.mp (of_decide_eq_true hlow),
    UInt32.le_iff_toNat_le.mp (of_decide_eq_true hhigh)⟩

theorem visible_of_isAlphanum {c : Char} (hc : c.isAlphanum = true) :
    0x20 < c.toNat ∧ c.toNat < 0x7F := by
  rcases Bool.or_eq_true_iff.mp hc with halpha | hdigit
  · rcases Bool.or_eq_true_iff.mp halpha with hupper | hlower
    · have := isUpper_bounds hupper
      omega
    · have := isLower_bounds hlower
      omega
  · have := isDigit_bounds hdigit
    omega

theorem isBlank_of_visible {c : Char} (hlow : 0x20 < c.toNat) (hhigh : c.toNat < 0x7F) :
    isBlank c = false := by
  simp only [isBlank, Bool.or_eq_false_iff, Bool.and_eq_false_iff, decide_eq_false_iff_not,
    beq_eq_false_iff_ne]
  omega

/-! ## Cutting -/

theorem beq_eq_false_of_mem {mark : Char} {text : List Char} (hmark : mark ∉ text) :
    ∀ c ∈ text, (c == mark) = false :=
  fun _ hc => beq_eq_false_iff_ne.mpr fun heq => hmark (heq ▸ hc)

theorem pieces_append
    {α : Type} {p : α → Bool} {before : List α} {mark : α}
    (hbefore : ∀ a ∈ before, p a = false) (hmark : p mark = true) (behind : List α) :
    pieces p (before ++ mark :: behind) = before :: pieces p behind := by
  induction before with
  | nil => simp [pieces, hmark]
  | cons a before ih =>
      have ha : p a = false := hbefore a List.mem_cons_self
      have hrest := ih fun b hb => hbefore b (List.mem_cons_of_mem a hb)
      simp [pieces, ha, hrest, growFirst]

theorem growFirst_ne_nil {α : Type} (a : α) (list : List (List α)) : growFirst a list ≠ [] := by
  cases list <;> exact List.cons_ne_nil _ _

theorem pieces_ne_nil {α : Type} (p : α → Bool) (list : List α) : pieces p list ≠ [] := by
  cases list with
  | nil => exact List.cons_ne_nil _ _
  | cons a list =>
      rw [pieces]
      split
      · exact List.cons_ne_nil _ _
      · exact growFirst_ne_nil a _

theorem joinPieces_cons
    {α : Type} (mark : α) (piece : List α) {others : List (List α)} (hothers : others ≠ []) :
    joinPieces mark (piece :: others) = piece ++ mark :: joinPieces mark others := by
  obtain ⟨next, others, rfl⟩ := List.exists_cons_of_ne_nil hothers
  rfl

theorem joinPieces_growFirst
    {α : Type} (mark a : α) {list : List (List α)} (hlist : list ≠ []) :
    joinPieces mark (growFirst a list) = a :: joinPieces mark list := by
  obtain ⟨piece, others, rfl⟩ := List.exists_cons_of_ne_nil hlist
  cases others <;> rfl

/-- Joining the pieces again undoes the cuts. -/
theorem joinPieces_pieces (mark : Char) (text : List Char) :
    joinPieces mark (pieces (· == mark) text) = text := by
  induction text with
  | nil => rfl
  | cons c text ih =>
      rw [pieces]
      split
      next hmark =>
        rw [joinPieces_cons mark [] (pieces_ne_nil _ _), ih, beq_iff_eq.mp hmark, List.nil_append]
      next => rw [joinPieces_growFirst mark c (pieces_ne_nil _ _), ih]

theorem not_mem_of_mem_pieces
    {mark : Char} {piece text : List Char} (hpiece : piece ∈ pieces (· == mark) text) :
    mark ∉ piece := by
  induction text generalizing piece with
  | nil =>
      rw [pieces, List.mem_singleton] at hpiece
      simp [hpiece]
  | cons c text ih =>
      obtain ⟨first, others, hrest⟩ := List.exists_cons_of_ne_nil (pieces_ne_nil (· == mark) text)
      rw [hrest] at ih
      obtain ⟨hfirst, hothers⟩ :=
        List.forall_mem_cons.mp fun (piece : List Char) (hpiece : piece ∈ first :: others) =>
          ih hpiece
      rw [pieces, hrest] at hpiece
      split at hpiece
      next =>
        rcases List.mem_cons.mp hpiece with rfl | hpiece
        · exact List.not_mem_nil
        · exact ih hpiece
      next hc =>
        rcases List.mem_cons.mp hpiece with rfl | hpiece
        · rw [List.mem_cons, not_or]
          exact ⟨fun heq => hc (beq_iff_eq.mpr heq.symm), hfirst⟩
        · exact hothers _ hpiece

theorem mem_joinPieces
    {α : Type} {mark : α} {pieces : List (List α)} (hseveral : 2 ≤ pieces.length) :
    mark ∈ joinPieces mark pieces := by
  obtain _ | ⟨first, _ | ⟨second, others⟩⟩ := pieces
  · simp at hseveral
  · simp at hseveral
  · exact List.mem_append_right first List.mem_cons_self

theorem mem_of_mem_joinPieces
    {α : Type} {mark a : α} {pieces : List (List α)} (ha : a ∈ joinPieces mark pieces) :
    a = mark ∨ ∃ piece ∈ pieces, a ∈ piece := by
  induction pieces with
  | nil => cases ha
  | cons piece others ih =>
      cases others with
      | nil => exact .inr ⟨piece, List.mem_cons_self, ha⟩
      | cons next others =>
          rw [joinPieces_cons mark piece (List.cons_ne_nil next others), List.mem_append,
            List.mem_cons] at ha
          rcases ha with hpiece | hmark | hothers
          · exact .inr ⟨piece, List.mem_cons_self, hpiece⟩
          · exact .inl hmark
          · refine (ih hothers).imp id ?_
            rintro ⟨other, hother, ha⟩
            exact ⟨other, List.mem_cons_of_mem piece hother, ha⟩

theorem forall_mem_joinPieces
    {α : Type} {P : α → Prop} {mark : α} (hmark : P mark) {pieces : List (List α)}
    (hpieces : ∀ piece ∈ pieces, ∀ a ∈ piece, P a) : ∀ a ∈ joinPieces mark pieces, P a := by
  intro a ha
  rcases mem_of_mem_joinPieces ha with rfl | ⟨piece, hpiece, ha⟩
  · exact hmark
  · exact hpieces piece hpiece a ha

/-- What is no mark stands in one of the pieces. -/
theorem exists_mem_pieces
    {mark c : Char} {text : List Char} (hc : c ∈ text) (hplain : c ≠ mark) :
    ∃ piece ∈ pieces (· == mark) text, c ∈ piece := by
  rw [← joinPieces_pieces mark text] at hc
  exact (mem_of_mem_joinPieces hc).resolve_left hplain

theorem pieces_eq_singleton
    {α : Type} {p : α → Bool} {list : List α} (hlist : ∀ a ∈ list, p a = false) :
    pieces p list = [list] := by
  induction list with
  | nil => rfl
  | cons a list ih =>
      obtain ⟨ha, hlist⟩ := List.forall_mem_cons.mp hlist
      simp [pieces, ha, ih hlist, growFirst]

/-- Texts without marks are the pieces of what they make when they are joined. -/
theorem pieces_joinPieces
    {mark : Char} {texts : List (List Char)} (hnonempty : texts ≠ [])
    (htexts : ∀ text ∈ texts, mark ∉ text) :
    pieces (· == mark) (joinPieces mark texts) = texts := by
  induction texts with
  | nil => exact absurd rfl hnonempty
  | cons text texts ih =>
      obtain ⟨htext, hothers⟩ := List.forall_mem_cons.mp htexts
      by_cases hlast : texts = []
      · subst hlast
        exact pieces_eq_singleton (beq_eq_false_of_mem htext)
      · rw [joinPieces_cons mark text hlast,
          pieces_append (beq_eq_false_of_mem htext) (beq_self_eq_true mark), ih hlast hothers]

theorem cutFirst?_append_left
    {α : Type} {p : α → Bool} {front : List α} (hfront : ∀ a ∈ front, p a = false)
    (rest : List α) :
    cutFirst? p (front ++ rest) =
      (cutFirst? p rest).map fun cut => (front ++ cut.1, cut.2) := by
  induction front with
  | nil => simp
  | cons a front ih =>
      obtain ⟨ha, hfront⟩ := List.forall_mem_cons.mp hfront
      simp [cutFirst?, ha, ih hfront, Function.comp_def]

theorem cutFirst?_append
    {α : Type} {p : α → Bool} {before : List α} {mark : α}
    (hbefore : ∀ a ∈ before, p a = false) (hmark : p mark = true) (behind : List α) :
    cutFirst? p (before ++ mark :: behind) = some (before, behind) := by
  rw [cutFirst?_append_left hbefore]
  simp [cutFirst?, hmark]

theorem cutFirst?_eq_none
    {α : Type} {p : α → Bool} {list : List α} (hlist : ∀ a ∈ list, p a = false) :
    cutFirst? p list = none := by
  induction list with
  | nil => rfl
  | cons a list ih =>
      obtain ⟨ha, hlist⟩ := List.forall_mem_cons.mp hlist
      simp [cutFirst?, ha, ih hlist]

theorem of_mem_cutFirst?
    {α : Type} {p : α → Bool} {list before behind : List α}
    (hcut : cutFirst? p list = some (before, behind)) : ∀ a ∈ before, p a = false := by
  induction list generalizing before with
  | nil => cases hcut
  | cons a list ih =>
      rw [cutFirst?] at hcut
      split at hcut
      · cases hcut
        exact List.forall_mem_nil _
      next ha =>
        obtain ⟨⟨front, _⟩, hrest, heq⟩ := Option.map_eq_some_iff.mp hcut
        cases heq
        exact List.forall_mem_cons.mpr ⟨by simpa using ha, ih hrest⟩

/-- What is in front of the first `mark`, and what is behind it, is determined. -/
theorem append_cons_inj
    {mark : Char} {before other behind rest : List Char} (hbefore : mark ∉ before)
    (hother : mark ∉ other) :
    before ++ mark :: behind = other ++ mark :: rest ↔ before = other ∧ behind = rest := by
  have hmark : (mark == mark) = true := beq_self_eq_true mark
  constructor
  · intro heq
    have hcut := cutFirst?_append (beq_eq_false_of_mem hbefore) hmark behind
    rw [heq, cutFirst?_append (beq_eq_false_of_mem hother) hmark] at hcut
    simpa [eq_comm] using hcut
  · rintro ⟨rfl, rfl⟩
    rfl

theorem cutLast?_eq_none
    {α : Type} {p : α → Bool} {list : List α} (hlist : ∀ a ∈ list, p a = false) :
    cutLast? p list = none := by
  induction list with
  | nil => rfl
  | cons a list ih =>
      obtain ⟨ha, hlist⟩ := List.forall_mem_cons.mp hlist
      simp [cutLast?, ha, ih hlist]

theorem cutLast?_append
    {α : Type} {p : α → Bool} {mark : α} {behind : List α} (hbehind : ∀ a ∈ behind, p a = false)
    (hmark : p mark = true) (before : List α) :
    cutLast? p (before ++ mark :: behind) = some (before, behind) := by
  induction before with
  | nil => simp [cutLast?, cutLast?_eq_none hbehind, hmark]
  | cons a before ih => simp [cutLast?, ih]

theorem eq_of_cutLast?
    {mark : Char} {list before behind : List Char}
    (hcut : cutLast? (· == mark) list = some (before, behind)) :
    list = before ++ mark :: behind := by
  induction list generalizing before with
  | nil => cases hcut
  | cons a list ih =>
      rw [cutLast?] at hcut
      split at hcut
      next front back hrest =>
        obtain ⟨rfl, rfl⟩ := Prod.mk.inj (Option.some.inj hcut)
        rw [ih hrest, List.cons_append]
      next =>
        split at hcut
        next hmark =>
          obtain ⟨rfl, rfl⟩ := Prod.mk.inj (Option.some.inj hcut)
          rw [beq_iff_eq.mp hmark, List.nil_append]
        next => cases hcut

/-- What is behind the last `mark`, and what is in front of it, is determined. -/
theorem append_cons_inj_last
    {mark : Char} {before other behind rest : List Char} (hbehind : mark ∉ behind)
    (hrest : mark ∉ rest) :
    before ++ mark :: behind = other ++ mark :: rest ↔ before = other ∧ behind = rest := by
  have hmark : (mark == mark) = true := beq_self_eq_true mark
  constructor
  · intro heq
    have hcut := cutLast?_append (beq_eq_false_of_mem hbehind) hmark before
    rw [heq, cutLast?_append (beq_eq_false_of_mem hrest) hmark] at hcut
    simpa [eq_comm] using hcut
  · rintro ⟨rfl, rfl⟩
    rfl

theorem exists_last_of_mem {mark : Char} {text : List Char} (hmem : mark ∈ text) :
    ∃ before behind, text = before ++ mark :: behind ∧ mark ∉ behind := by
  obtain ⟨behind, before, hsplit, hbehind⟩ :=
    List.eq_append_cons_of_mem (List.mem_reverse.mpr hmem)
  refine ⟨before.reverse, behind.reverse, ?_, by simpa using hbehind⟩
  rw [← List.reverse_reverse text, hsplit]
  simp

/-! ## Numbers -/

theorem exists_of_mem_toDigits {base n : Nat} (hbase : 1 < base) {c : Char}
    (hc : c ∈ Nat.toDigits base n) : ∃ d < base, c = Nat.digitChar d := by
  induction n using Nat.strongRecOn with
  | ind n ih =>
      rw [Nat.toDigits_eq_if hbase] at hc
      split at hc
      next hsmall => exact ⟨n, hsmall, List.mem_singleton.mp hc⟩
      next =>
        rcases List.mem_append.mp hc with hfront | hlast
        · exact ih _ (Nat.div_lt_self (by omega) hbase) hfront
        · exact ⟨n % base, Nat.mod_lt n (by omega), List.mem_singleton.mp hlast⟩

theorem not_mem_toDigits {c : Char} (hc : c.isDigit = false) (n : Nat) :
    c ∉ Nat.toDigits 10 n := fun hmem => by
  rw [Nat.isDigit_of_mem_toDigits (by decide) (by decide) hmem] at hc
  cases hc

theorem digitValue_digitChar {d : Nat} (hd : d < 16) : digitValue (Nat.digitChar d) = d := by
  have hall : ∀ d < 16, digitValue (Nat.digitChar d) = d := by decide
  exact hall d hd

theorem isHexDigit_digitChar {d : Nat} (hd : d < 16) : isHexDigit (Nat.digitChar d) = true := by
  have hall : ∀ d < 16, isHexDigit (Nat.digitChar d) = true := by decide
  exact hall d hd

/-- A number is read back from its digits. -/
theorem numeral_toDigits {base : Nat} (hbase : 1 < base) (hsmall : base ≤ 16) (n : Nat) :
    numeral base (Nat.toDigits base n) = n := by
  induction n using Nat.strongRecOn with
  | ind n ih =>
      rw [Nat.toDigits_eq_if hbase]
      split
      next hless =>
        have hvalue := digitValue_digitChar (d := n) (by omega)
        simp [numeral, hvalue]
      next =>
        have hmod : n % base < base := Nat.mod_lt n (by omega)
        have hfront := ih (n / base) (Nat.div_lt_self (by omega) hbase)
        calc numeral base (Nat.toDigits base (n / base) ++ [Nat.digitChar (n % base)])
          _ = base * numeral base (Nat.toDigits base (n / base)) +
                digitValue (Nat.digitChar (n % base)) := by
              simp only [numeral, List.foldl_append, List.foldl_cons, List.foldl_nil]
          _ = base * (n / base) + n % base := by
              rw [hfront, digitValue_digitChar (by omega)]
          _ = n := Nat.div_add_mod n base

theorem toDigits_inj {base : Nat} (hbase : 1 < base) (hsmall : base ≤ 16) {n m : Nat} :
    Nat.toDigits base n = Nat.toDigits base m ↔ n = m := by
  constructor
  · intro heq
    rw [← numeral_toDigits hbase hsmall n, heq, numeral_toDigits hbase hsmall m]
  · rintro rfl
    rfl

/-- Whether `text` writes the number `n`, and `n` is not too large. -/
def Writes (text : List Char) (n : Nat) : Prop :=
  ∃ digits, (text = digits ∨ text = '+' :: digits) ∧ digits ≠ [] ∧
    (∀ c ∈ digits, c.isDigit = true) ∧ numeral 10 digits = n ∧ n < numberLimit

theorem le_foldl_digits (digits : List Char) (n : Nat) :
    n ≤ digits.foldl (fun n c => 10 * n + digitValue c) n := by
  induction digits generalizing n with
  | nil => exact Nat.le_refl n
  | cons c digits ih =>
      have hstep : n ≤ 10 * n + digitValue c := by omega
      exact Nat.le_trans hstep (ih _)

/-- The digits are read whole, unless the number gets too large on the way; then it is too large in
the end. -/
theorem readDigits_eq_ok_iff (digits : List Char) {n : Nat} (hn : n < numberLimit) (m : Nat) :
    readDigits n digits = .ok m ↔
      (∀ c ∈ digits, c.isDigit = true) ∧
        digits.foldl (fun n c => 10 * n + digitValue c) n = m ∧ m < numberLimit := by
  induction digits generalizing n with
  | nil =>
      simp only [readDigits, Except.ok.injEq, List.foldl_nil]
      constructor
      · rintro rfl
        exact ⟨List.forall_mem_nil _, rfl, hn⟩
      · exact fun hm => hm.2.1
  | cons c digits ih =>
      simp only [readDigits, List.foldl_cons, List.forall_mem_cons]
      by_cases hdigit : c.isDigit = true
      · by_cases hlarge : numberLimit ≤ 10 * n + digitValue c
        · have hle := le_foldl_digits digits (10 * n + digitValue c)
          simp only [hdigit, hlarge, Bool.not_true, Bool.false_eq_true, if_false, if_true,
            reduceCtorEq, true_and, false_iff]
          rintro ⟨_, rfl, hm⟩
          omega
        · simp only [hdigit, hlarge, Bool.not_true, Bool.false_eq_true, if_false, true_and]
          exact ih (Nat.lt_of_not_le hlarge)
      · simp [hdigit]

theorem readNumber_of_ne_plus {c : Char} (hc : c ≠ '+') (rest : List Char) :
    readNumber (c :: rest) = readDigits 0 (c :: rest) := by
  rw [readNumber]
  · exact List.cons_ne_nil c rest
  · rintro heq
    exact hc (List.cons.inj heq).1
  · rintro digits heq
    exact hc (List.cons.inj heq).1

theorem readNumber_eq_ok_iff (text : List Char) (n : Nat) :
    readNumber text = .ok n ↔ Writes text n := by
  have hlimit : 0 < numberLimit := by decide
  cases text with
  | nil => simp [readNumber, Writes]
  | cons c rest =>
      by_cases hc : c = '+'
      · subst hc
        cases rest with
        | nil => simp [readNumber, Writes]
        | cons d rest =>
            rw [readNumber, readDigits_eq_ok_iff _ hlimit]
            · constructor
              · rintro ⟨hdigits, hnumeral⟩
                exact ⟨d :: rest, .inr rfl, List.cons_ne_nil _ _, hdigits, hnumeral⟩
              · rintro ⟨digits, rfl | heq, _, hdigits, hnumeral⟩
                · exact absurd (hdigits '+' List.mem_cons_self) (by decide)
                · obtain rfl := (List.cons.inj heq).2
                  exact ⟨hdigits, hnumeral⟩
            · simp
      · rw [readNumber_of_ne_plus hc, readDigits_eq_ok_iff _ hlimit]
        constructor
        · rintro ⟨hdigits, hnumeral⟩
          exact ⟨c :: rest, .inl rfl, List.cons_ne_nil _ _, hdigits, hnumeral⟩
        · rintro ⟨digits, rfl | heq, _, hdigits, hnumeral⟩
          · exact ⟨hdigits, hnumeral⟩
          · exact absurd (List.cons.inj heq).1 hc

end ProxyHandshake.Text
