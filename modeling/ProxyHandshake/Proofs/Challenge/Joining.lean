import ProxyHandshake.Proofs.Challenge.Writing

/-!
# Headers joined by commas

Headers can be written behind one another, with commas between them, and the challenges of all are
read from the whole.  Two things can go wrong: a header that leaves quotes open hides the comma behind
it, and one that begins with a parameter adds it to the last challenge of the header before it.

A header that does neither is called whole.  Every list of challenges that is written is whole.
-/

namespace ProxyHandshake
namespace Challenge

/-! ## Open quotes -/

/-- Whether a reader is inside quotes, and whether a backslash comes just before, when it has read one
more character. -/
def scanChar (state : Bool × Bool) (c : Char) : Bool × Bool :=
  if state.2 then (state.1, false)
  else if c = '\\' ∧ state.1 then (state.1, true)
  else if c = '"' then (!state.1, false)
  else (state.1, false)

def scan (quoted escaped : Bool) (text : List Char) : Bool × Bool :=
  text.foldl scanChar (quoted, escaped)

/-- Whether all quotes are closed at the end of `text`. -/
def IsClosed (text : List Char) : Prop :=
  scan false false text = (false, false)

instance (text : List Char) : Decidable (IsClosed text) :=
  inferInstanceAs (Decidable (_ = _))

theorem IsClosed.append
    {text more : List Char} (htext : IsClosed text) (hmore : IsClosed more) :
    IsClosed (text ++ more) := by
  rw [IsClosed, scan] at htext hmore ⊢
  rw [List.foldl_append, htext, hmore]

/-- Reading goes on in the state that `c` leaves, and a comma outside quotes begins an item. -/
theorem split_cons (quoted escaped : Bool) (c : Char) (rest : List Char) :
    let state := scanChar (quoted, escaped) c
    split quoted escaped (c :: rest) =
      if c = ',' ∧ quoted = false ∧ escaped = false then [] :: split state.1 state.2 rest
      else Text.growFirst c (split state.1 state.2 rest) := by
  rw [split, scanChar]
  cases escaped with
  | true => simp
  | false =>
      by_cases hescape : c = '\\' ∧ quoted
      · simp [hescape]
      · by_cases hquote : c = '"'
        · simp [hquote]
        · cases quoted <;> simp_all

theorem split_ne_nil (quoted escaped : Bool) (text : List Char) :
    split quoted escaped text ≠ [] := by
  cases text with
  | nil => simp [split]
  | cons c text =>
      rw [split_cons]
      split
      · exact List.cons_ne_nil _ _
      · exact Text.growFirst_ne_nil c _

theorem growFirst_append
    {pieces : List (List Char)} (hpieces : pieces ≠ []) (c : Char) (more : List (List Char)) :
    Text.growFirst c (pieces ++ more) = Text.growFirst c pieces ++ more := by
  obtain ⟨piece, others, rfl⟩ := List.exists_cons_of_ne_nil hpieces
  rfl

theorem length_growFirst {pieces : List (List Char)} (hpieces : pieces ≠ []) (c : Char) :
    (Text.growFirst c pieces).length = pieces.length := by
  obtain ⟨piece, others, rfl⟩ := List.exists_cons_of_ne_nil hpieces
  rfl

/-- A comma behind closed quotes separates what is before it from what is behind. -/
theorem split_comma
    {quoted escaped : Bool} {text : List Char} (hclosed : scan quoted escaped text = (false, false))
    (rest : List Char) :
    split quoted escaped (text ++ ',' :: rest) =
      split quoted escaped text ++ split false false rest := by
  induction text generalizing quoted escaped with
  | nil =>
      obtain ⟨rfl, rfl⟩ := Prod.mk.inj hclosed
      simp [split]
  | cons c text ih =>
      have hrest : scan (scanChar (quoted, escaped) c).1 (scanChar (quoted, escaped) c).2 text =
          (false, false) := hclosed
      rw [List.cons_append, split_cons, split_cons quoted escaped c text, ih hrest]
      split
      · rfl
      · exact growFirst_append (split_ne_nil _ _ _) c _

/-- The last item of `text` and the first item of the rest are one. -/
theorem length_split_append (quoted escaped : Bool) (text rest : List Char) :
    (split quoted escaped (text ++ rest)).length + 1 =
      (split quoted escaped text).length +
        (split (scan quoted escaped text).1 (scan quoted escaped text).2 rest).length := by
  induction text generalizing quoted escaped with
  | nil =>
      simp only [List.nil_append, scan, List.foldl_nil, split, List.length_singleton]
      omega
  | cons c text ih =>
      have hrest := ih (scanChar (quoted, escaped) c).1 (scanChar (quoted, escaped) c).2
      rw [List.cons_append, split_cons, split_cons quoted escaped c text]
      have hscan : scan quoted escaped (c :: text) =
          scan (scanChar (quoted, escaped) c).1 (scanChar (quoted, escaped) c).2 text := rfl
      rw [hscan]
      split
      · simp only [List.length_cons]
        omega
      · rw [length_growFirst (split_ne_nil _ _ _), length_growFirst (split_ne_nil _ _ _)]
        exact hrest

theorem length_grow (text : List Char) {pieces : List (List Char)} (hpieces : pieces ≠ []) :
    (grow text pieces).length = pieces.length := by
  obtain ⟨piece, others, rfl⟩ := List.exists_cons_of_ne_nil hpieces
  rw [grow_cons, List.length_cons, List.length_cons]

/-- A comma behind an uncut text separates, so the quotes in the text are closed. -/
theorem Uncut.isClosed {text : List Char} (htext : Uncut false text false) : IsClosed text := by
  have hwhole : (split false false text).length = 1 := by
    have huncut := htext []
    rw [List.append_nil] at huncut
    rw [huncut, length_grow text (split_ne_nil _ _ _)]
    rfl
  have hcut : (split false false (text ++ [','])).length = 2 := by
    rw [htext, length_grow text (split_ne_nil _ _ _)]
    rfl
  have hbehind := length_split_append false false text [',']
  rw [IsClosed]
  generalize scan false false text = state at hbehind ⊢
  obtain ⟨quoted, escaped⟩ := state
  cases quoted <;> cases escaped <;> simp [hwhole, hcut, split, Text.growFirst] at hbehind ⊢

/-! ## First items -/

/-- Whether an item gives a parameter to the challenge before it: the first character behind its
first word is an equals sign. -/
def continues (item : List Char) : Bool :=
  match (Text.trimChars item).dropWhile fun c => !(Text.isBlank c || c == '=') with
  | [] => false
  | c :: _ => !Text.isBlank c

/-- Whether the first item that is not blank begins a challenge. -/
def beginsAnew : List (List Char) → Bool
  | [] => true
  | item :: rest => if (Text.trimChars item).isEmpty then beginsAnew rest else !continues item

theorem continueLast_append
    {recent : List Challenge} (hrecent : recent ≠ []) (done : List Challenge) (item : List Char) :
    continueLast (recent ++ done) item = continueLast recent item ++ done ∧
      continueLast recent item ≠ [] := by
  obtain ⟨challenge, earlier, rfl⟩ := List.exists_cons_of_ne_nil hrecent
  simp only [List.cons_append, continueLast]
  cases readParam? item <;> simp

theorem readItem_of_empty
    {item : List Char} (hempty : Text.trimChars item = []) (done : List Challenge) :
    readItem done item = done := by
  simp [readItem, hempty]

/-- Once a challenge has begun, the challenges before it do not matter. -/
theorem readItem_recent
    {recent : List Challenge} (hrecent : recent ≠ []) (done : List Challenge) (item : List Char) :
    readItem (recent ++ done) item = readItem recent item ++ done ∧ readItem recent item ≠ [] := by
  simp only [readItem]
  split
  · split
    · exact ⟨rfl, hrecent⟩
    · exact ⟨rfl, List.cons_ne_nil _ _⟩
  · split
    · exact ⟨rfl, List.cons_ne_nil _ _⟩
    · exact continueLast_append hrecent done _

theorem readItem_anew
    {item : List Char} (hitem : continues item = false) (hnonempty : Text.trimChars item ≠ [])
    (done : List Challenge) :
    readItem done item = readItem [] item ++ done ∧ readItem [] item ≠ [] := by
  rw [continues] at hitem
  simp only [readItem]
  generalize Text.trimChars item = item at hitem hnonempty ⊢
  have hword := List.takeWhile_append_dropWhile (p := fun c => !(Text.isBlank c || c == '='))
    (l := item)
  cases hbehind : item.dropWhile fun c => !(Text.isBlank c || c == '=') with
  | nil =>
      rw [hbehind, List.append_nil] at hword
      simp only [hword]
      simp [hnonempty]
  | cons c rest =>
      have hblank : Text.isBlank c = true := by
        rw [hbehind] at hitem
        simpa using hitem
      simp [hblank]

theorem foldl_readItem_append
    {recent : List Challenge} (hrecent : recent ≠ []) (done : List Challenge)
    (items : List (List Char)) :
    items.foldl readItem (recent ++ done) = items.foldl readItem recent ++ done := by
  induction items generalizing recent with
  | nil => rfl
  | cons item items ih =>
      obtain ⟨hread, hnonempty⟩ := readItem_recent hrecent done item
      rw [List.foldl_cons, List.foldl_cons, hread, ih hnonempty]

theorem foldl_readItem_anew
    {items : List (List Char)} (hitems : beginsAnew items = true) (done : List Challenge) :
    items.foldl readItem done = items.foldl readItem [] ++ done := by
  induction items with
  | nil => rfl
  | cons item items ih =>
      rw [beginsAnew] at hitems
      rw [List.foldl_cons, List.foldl_cons]
      by_cases hempty : Text.trimChars item = []
      · rw [readItem_of_empty hempty, readItem_of_empty hempty]
        exact ih (by simpa [hempty] using hitems)
      · have hcontinues : continues item = false := by simpa [hempty] using hitems
        obtain ⟨hread, hnonempty⟩ := readItem_anew hcontinues hempty done
        rw [hread, foldl_readItem_append hnonempty]

/-- An item that is read as a challenge with nothing before it is no parameter. -/
theorem beginsAnew_cons
    {item : List Char} (hread : readItem [] item ≠ []) (rest : List (List Char)) :
    beginsAnew (item :: rest) = true := by
  have hnonempty : Text.trimChars item ≠ [] := fun hempty => hread (readItem_of_empty hempty [])
  have hcontinues : continues item = false := by
    rw [continues]
    cases hbehind : (Text.trimChars item).dropWhile fun c => !(Text.isBlank c || c == '=') with
    | nil => rfl
    | cons c behind =>
        by_cases hblank : Text.isBlank c = true
        · simp only [hblank, Bool.not_true]
        · have hnothing : readItem [] item = [] := by
            simp only [readItem, hbehind, hblank, continueLast]
            rfl
          exact absurd hnothing hread
  simp [beginsAnew, hnonempty, hcontinues]

theorem beginsAnew_append
    {items more : List (List Char)} (hitems : beginsAnew items = true)
    (hmore : beginsAnew more = true) :
    beginsAnew (items ++ more) = true := by
  induction items with
  | nil => exact hmore
  | cons item items ih =>
      rw [beginsAnew] at hitems
      rw [List.cons_append, beginsAnew]
      split at hitems
      next hempty =>
        rw [if_pos hempty]
        exact ih hitems
      next hempty =>
        rw [if_neg hempty]
        exact hitems

/-! ## Whole headers -/

/-- A header that can stand next to others. -/
structure IsWhole (text : List Char) : Prop where
  closed : IsClosed text
  anew : beginsAnew (items text) = true

theorem isWhole_iff (text : List Char) :
    IsWhole text ↔ IsClosed text ∧ beginsAnew (items text) = true :=
  ⟨fun hwhole => ⟨hwhole.closed, hwhole.anew⟩, fun ⟨hclosed, hanew⟩ => ⟨hclosed, hanew⟩⟩

instance (text : List Char) : Decidable (IsWhole text) :=
  decidable_of_iff _ (isWhole_iff text).symm

theorem items_comma {text : List Char} (htext : IsClosed text) (rest : List Char) :
    items (text ++ ',' :: rest) = items text ++ items rest :=
  split_comma htext rest

theorem IsWhole.comma {text more : List Char} (htext : IsWhole text) (hmore : IsWhole more) :
    IsWhole (text ++ ',' :: more) where
  closed := by
    have hcomma : IsClosed [','] := by decide
    exact htext.closed.append (hcomma.append hmore.closed)
  anew := by
    rw [items_comma htext.closed]
    exact beginsAnew_append htext.anew hmore.anew

theorem readChars_comma
    {text more : List Char} (htext : IsClosed text) (hmore : beginsAnew (items more) = true) :
    readChars (text ++ ',' :: more) = readChars text ++ readChars more := by
  rw [readChars, items_comma htext, List.foldl_append, foldl_readItem_anew hmore,
    List.reverse_append]
  rfl

/-- Whole headers are read as if each stood alone. -/
theorem readChars_joinPieces {texts : List (List Char)} (htexts : ∀ text ∈ texts, IsWhole text) :
    readChars (Text.joinPieces ',' texts) = texts.flatMap readChars ∧
      IsWhole (Text.joinPieces ',' texts) := by
  induction texts with
  | nil => exact ⟨rfl, by decide⟩
  | cons text texts ih =>
      have htext := htexts text List.mem_cons_self
      obtain ⟨hread, hwhole⟩ := ih fun other hother => htexts other (List.mem_cons_of_mem text hother)
      cases texts with
      | nil => simpa [Text.joinPieces] using htext
      | cons next texts =>
          rw [Text.joinPieces, readChars_comma htext.closed hwhole.anew, hread,
            List.flatMap_cons (x := text)]
          · exact ⟨rfl, htext.comma hwhole⟩
          · simp

/-! ## Lists of challenges that are written -/

theorem isClosed_separated {pieces : List (List Char)} (hpieces : ∀ piece ∈ pieces, IsClosed piece) :
    IsClosed (separated pieces) := by
  induction pieces with
  | nil => decide
  | cons piece pieces ih =>
      have hpiece := hpieces piece List.mem_cons_self
      have hrest := ih fun other hother => hpieces other (List.mem_cons_of_mem piece hother)
      cases pieces with
      | nil => simpa [separated] using hpiece
      | cons next pieces =>
          have hcomma : IsClosed [',', ' '] := by decide
          simpa [separated, List.intercalate_cons_cons] using hpiece.append (hcomma.append hrest)

theorem WellFormed.readItem_head
    {challenge : Challenge} (hchallenge : WellFormed challenge) :
    ∃ piece pieces, challenge.parts = piece :: pieces ∧ readItem [] piece ≠ [] := by
  cases hchallenge with
  | bare scheme hscheme =>
      refine ⟨_, _, rfl, ?_⟩
      rw [readItem_word hscheme]
      exact List.cons_ne_nil _ _
  | token scheme text hscheme htext =>
      have hlast := List.getLast?_eq_some_getLast htext.nonempty
      have hunblank := (htext.plain _ (List.getLast_mem htext.nonempty)).1
      refine ⟨_, _, rfl, ?_⟩
      rw [readItem_begin hscheme hlast hunblank]
      exact List.cons_ne_nil _ _
  | params scheme params hscheme hnonempty hparams =>
      obtain ⟨param, params, rfl⟩ := List.exists_cons_of_ne_nil hnonempty
      refine ⟨_, _, rfl, ?_⟩
      rw [readItem_begin hscheme (getLast?_writeParam param) (by decide)]
      exact List.cons_ne_nil _ _

theorem WellFormed.isWhole_write {challenge : Challenge} (hchallenge : WellFormed challenge) :
    IsWhole challenge.write := by
  have huncut := hchallenge.uncut_parts
  obtain ⟨piece, pieces, hparts, hread⟩ := hchallenge.readItem_head
  rw [write_eq]
  refine ⟨isClosed_separated fun piece hpiece => (huncut piece hpiece).isClosed, ?_⟩
  rw [hparts] at huncut ⊢
  rw [split_separated huncut]
  exact beginsAnew_cons hread _

theorem WellFormed.readChars_write {challenge : Challenge} (hchallenge : WellFormed challenge) :
    readChars challenge.write = [challenge] := by
  have huncut := hchallenge.uncut_parts
  have hfold := hchallenge.foldl_parts []
  obtain ⟨piece, pieces, hparts, _⟩ := hchallenge.readItem_head
  rw [write_eq, readChars]
  rw [hparts] at huncut hfold ⊢
  rw [split_separated huncut, List.foldl_cons, foldl_readItem_blank, ← List.foldl_cons, hfold]
  rfl

theorem flatMap_readChars_write
    {challenges : List Challenge} (hchallenges : ∀ challenge ∈ challenges, WellFormed challenge) :
    (challenges.map write).flatMap readChars = challenges := by
  induction challenges with
  | nil => rfl
  | cons challenge challenges ih =>
      obtain ⟨hfirst, hothers⟩ := List.forall_mem_cons.mp hchallenges
      rw [List.map_cons, List.flatMap_cons, hfirst.readChars_write, ih hothers,
        List.singleton_append]

/-! ## Blanks -/

theorem items_blank (text : List Char) :
    ∃ piece others, items text = piece :: others ∧ items (' ' :: text) = (' ' :: piece) :: others := by
  obtain ⟨piece, others, hitems⟩ := List.exists_cons_of_ne_nil (split_ne_nil false false text)
  refine ⟨piece, others, hitems, ?_⟩
  rw [items, split_cons]
  simp [scanChar, hitems, Text.growFirst]

theorem readChars_blank (text : List Char) : readChars (' ' :: text) = readChars text := by
  obtain ⟨piece, others, hitems, hblank⟩ := items_blank text
  rw [readChars, readChars, hitems, hblank, List.foldl_cons, List.foldl_cons, readItem_blank]

theorem IsWhole.blank {text : List Char} (htext : IsWhole text) : IsWhole (' ' :: text) where
  closed := by
    have hblank : IsClosed [' '] := by decide
    exact hblank.append htext.closed
  anew := by
    obtain ⟨piece, others, hitems, hblank⟩ := items_blank text
    have hanew := htext.anew
    have hgap : ∀ c ∈ [' '], Text.isBlank c = true := List.forall_mem_singleton.mpr rfl
    have htrim : Text.trimChars (' ' :: piece) = Text.trimChars piece :=
      Text.trimChars_append_blanks hgap piece
    rw [hitems, beginsAnew] at hanew
    rw [hblank, beginsAnew, htrim, continues, htrim]
    exact hanew

/-- A comma and a blank separate as well as a comma. -/
theorem separated_eq_joinPieces (text : List Char) (texts : List (List Char)) :
    separated (text :: texts) = Text.joinPieces ',' (text :: texts.map (' ' :: ·)) := by
  induction texts generalizing text with
  | nil => simp [separated, Text.joinPieces]
  | cons next texts ih =>
      have hblank : separated ((' ' :: next) :: texts) = ' ' :: separated (next :: texts) :=
        separated_cons_append [' '] next texts
      rw [List.map_cons, Text.joinPieces, ← ih, hblank]
      · simp [separated, List.intercalate_cons_cons]
      · simp

theorem readChars_separated {texts : List (List Char)} (htexts : ∀ text ∈ texts, IsWhole text) :
    readChars (separated texts) = texts.flatMap readChars := by
  cases texts with
  | nil => rfl
  | cons text texts =>
      obtain ⟨hfirst, hothers⟩ := List.forall_mem_cons.mp htexts
      have hwhole : ∀ other ∈ text :: texts.map (' ' :: ·), IsWhole other := by
        simp only [List.forall_mem_cons, List.forall_mem_map]
        exact ⟨hfirst, fun other hother => (hothers other hother).blank⟩
      simp only [separated_eq_joinPieces, (readChars_joinPieces hwhole).1, List.flatMap_cons,
        List.flatMap_map, readChars_blank]

end Challenge
end ProxyHandshake
