import ProxyHandshake.Challenge.Writer
import ProxyHandshake.Proofs.Text

/-!
# Reading what was written

A header that lists challenges is read back to just these challenges, whatever stands between the
quotes of their parameters.

Three steps lead there.  No comma of a written piece separates anything, so the items of the header
are the pieces that were written.  Every item is taken for what it is: one that begins a challenge,
or one that continues the last.  And a value loses its quotes and backslashes again.
-/

namespace ProxyHandshake
namespace Challenge

/-! ## Items -/

/-- Put `text` in front of the first piece. -/
def grow (text : List Char) (pieces : List (List Char)) : List (List Char) :=
  text.foldr Text.growFirst pieces

theorem grow_cons (text first : List Char) (others : List (List Char)) :
    grow text (first :: others) = (text ++ first) :: others := by
  induction text with
  | nil => rfl
  | cons c text ih =>
      change Text.growFirst c (grow text (first :: others)) = _
      rw [ih]
      rfl

/-- Nothing in `text` separates items; `before` and `after` say whether it begins and ends inside
quotes. -/
def Uncut (before : Bool) (text : List Char) (after : Bool) : Prop :=
  ∀ rest, split before false (text ++ rest) = grow text (split after false rest)

theorem Uncut.append
    {before between after : Bool} {text more : List Char} (htext : Uncut before text between)
    (hmore : Uncut between more after) :
    Uncut before (text ++ more) after := by
  intro rest
  rw [List.append_assoc, htext, hmore, grow, grow, grow, List.foldr_append]

theorem uncut_nil (quoted : Bool) : Uncut quoted [] quoted := fun _ => rfl

theorem uncut_quote (quoted : Bool) : Uncut quoted ['"'] (!quoted) := by
  intro rest
  simp [split, grow]

theorem uncut_escaped (c : Char) : Uncut true ['\\', c] true := by
  intro rest
  simp [split, grow]

theorem uncut_plain
    {quoted : Bool} {c : Char} (hquote : c ≠ '"') (hescape : quoted = true → c ≠ '\\')
    (hcomma : quoted = false → c ≠ ',') :
    Uncut quoted [c] quoted := by
  intro rest
  cases quoted with
  | true => simp [split, grow, hquote, hescape]
  | false => simp [split, grow, hquote, hcomma]

/-- Outside quotes it is enough that there are no commas and no quotes. -/
theorem uncut_of_unmarked {text : List Char} (htext : ∀ c ∈ text, c ≠ ',' ∧ c ≠ '"') :
    Uncut false text false := by
  induction text with
  | nil => exact uncut_nil false
  | cons c text ih =>
      obtain ⟨hcomma, hquote⟩ := htext c List.mem_cons_self
      have hfirst : Uncut false [c] false := uncut_plain hquote (by simp) fun _ => hcomma
      exact hfirst.append (ih fun d hd => htext d (List.mem_cons_of_mem c hd))

theorem escape_cons (c : Char) (text : List Char) :
    escape (c :: text) = (if c = '"' ∨ c = '\\' then ['\\', c] else [c]) ++ escape text :=
  rfl

theorem uncut_escape (text : List Char) : Uncut true (escape text) true := by
  induction text with
  | nil => exact uncut_nil true
  | cons c text ih =>
      rw [escape_cons]
      refine Uncut.append ?_ ih
      by_cases hmark : c = '"' ∨ c = '\\'
      · rw [if_pos hmark]
        exact uncut_escaped c
      · rw [if_neg hmark]
        rw [not_or] at hmark
        exact uncut_plain hmark.1 (fun _ => hmark.2) (by simp)

theorem uncut_writeValue (value : List Char) : Uncut false (writeValue value) false :=
  (uncut_quote false).append ((uncut_escape value).append (uncut_quote true))

theorem uncut_of_blank {gap : List Char} (hgap : ∀ c ∈ gap, Text.isBlank c = true) :
    Uncut false gap false := by
  refine uncut_of_unmarked fun c hc => ⟨?_, ?_⟩
  · rintro rfl
    exact absurd (hgap ',' hc) (by decide)
  · rintro rfl
    exact absurd (hgap '"' hc) (by decide)

theorem IsWord.uncut {word : List Char} (hword : IsWord word) : Uncut false word false :=
  uncut_of_unmarked fun c hc => (hword.unmarked c hc).2

/-- A parameter is written without gaps. -/
theorem writeParam_eq (param : String × String) : writeParam param = writeSpaced [] [] param :=
  rfl

theorem uncut_writeSpaced
    {param : String × String} (hname : IsWord param.1.toList) {before behind : List Char}
    (hbefore : ∀ c ∈ before, Text.isBlank c = true)
    (hbehind : ∀ c ∈ behind, Text.isBlank c = true) :
    Uncut false (writeSpaced before behind param) false := by
  have hequals : Uncut false ['='] false := uncut_plain (by decide) (by decide) (by decide)
  have hvalue := (uncut_of_blank hbehind).append (uncut_writeValue param.2.toList)
  exact hname.uncut.append ((uncut_of_blank hbefore).append (hequals.append hvalue))

theorem uncut_writeParam {param : String × String} (hname : IsWord param.1.toList) :
    Uncut false (writeParam param) false :=
  uncut_writeSpaced hname (List.forall_mem_nil _) (List.forall_mem_nil _)

theorem split_separated
    {piece : List Char} {pieces : List (List Char)}
    (hpieces : ∀ text ∈ piece :: pieces, Uncut false text false) :
    items (separated (piece :: pieces)) = piece :: pieces.map (' ' :: ·) := by
  induction pieces generalizing piece with
  | nil =>
      have hpiece := hpieces piece List.mem_cons_self []
      simpa [separated, items, split, grow_cons] using hpiece
  | cons next pieces ih =>
      have hpiece := hpieces piece List.mem_cons_self
      have hrest := ih fun text htext => hpieces text (List.mem_cons_of_mem piece htext)
      have hblank : split false false (' ' :: separated (next :: pieces)) =
          Text.growFirst ' ' (items (separated (next :: pieces))) := by
        simp [split, items]
      have hcomma : split false false (',' :: ' ' :: separated (next :: pieces)) =
          [] :: split false false (' ' :: separated (next :: pieces)) := by
        simp [split]
      have hjoined : separated (piece :: next :: pieces) =
          piece ++ ',' :: ' ' :: separated (next :: pieces) := by
        simp [separated, List.intercalate_cons_cons]
      rw [items, hjoined, hpiece, hcomma, hblank, hrest, grow_cons]
      simp [Text.growFirst]

/-! ## Parameters -/

theorem unescape_cons {c : Char} (hc : c ≠ '\\') (rest : List Char) :
    unescape (c :: rest) = c :: unescape rest := by
  rw [unescape]
  · intro hescape _
    exact hc hescape
  · intro _ _ hescape _
    exact hc hescape

theorem unescape_escape (text : List Char) : unescape (escape text) = text := by
  induction text with
  | nil => rfl
  | cons c text ih =>
      rw [escape_cons]
      by_cases hmark : c = '"' ∨ c = '\\'
      · rw [if_pos hmark]
        change c :: unescape (escape text) = _
        rw [ih]
      · rw [if_neg hmark, List.singleton_append, unescape_cons (not_or.mp hmark).2, ih]

theorem unquote_writeValue (value : List Char) : unquote (writeValue value) = value := by
  simp [writeValue, unquote, unescape_escape]

theorem getLast?_writeValue (value : List Char) : (writeValue value).getLast? = some '"' := by
  rw [writeValue, ← List.cons_append, List.getLast?_concat]

theorem getLast?_writeSpaced (before behind : List Char) (param : String × String) :
    (writeSpaced before behind param).getLast? = some '"' := by
  simp [writeSpaced, getLast?_writeValue, List.getLast?_append, List.getLast?_cons]

theorem getLast?_writeParam (param : String × String) :
    (writeParam param).getLast? = some '"' :=
  getLast?_writeSpaced [] [] param

theorem trimChars_writeValue (value : List Char) :
    Text.trimChars (writeValue value) = writeValue value := by
  refine Text.trimChars_eq_self ?_ ?_
  · intro c hc
    obtain rfl : '"' = c := by simpa [writeValue] using hc
    rfl
  · rw [getLast?_writeValue]
    rintro _ ⟨⟩
    rfl

/-- Gaps are trimmed away from a name and from a value. -/
theorem readParam?_writeSpaced
    {param : String × String} (hname : IsWord param.1.toList) {before behind : List Char}
    (hbefore : ∀ c ∈ before, Text.isBlank c = true)
    (hbehind : ∀ c ∈ behind, Text.isBlank c = true) :
    readParam? (writeSpaced before behind param) = some param := by
  have hfront : ∀ c ∈ param.1.toList ++ before, (c == '=') = false := by
    intro c hc
    rw [beq_eq_false_iff_ne]
    rcases List.mem_append.mp hc with hc | hc
    · exact (hname.unmarked c hc).1
    · rintro rfl
      exact absurd (hbefore '=' hc) (by decide)
  have hcut : Text.cutFirst? (· == '=') (writeSpaced before behind param) =
      some (param.1.toList ++ before, behind ++ writeValue param.2.toList) := by
    rw [writeSpaced, ← List.append_assoc]
    exact Text.cutFirst?_append hfront rfl _
  have hblank : param.1.toList.any Text.isBlank = false := by
    simpa using hname.unblank
  simp only [readParam?, hcut, Text.trimChars_append_right hbefore,
    Text.trimChars_of_unblank hname.unblank, Text.trimChars_append_blanks hbehind,
    trimChars_writeValue, unquote_writeValue, hblank, Bool.or_false,
    List.isEmpty_eq_false_iff.mpr hname.nonempty]
  simp

/-- What ends with a quote is no token. -/
theorem isToken68_of_quote {text : List Char} (hlast : text.getLast? = some '"') :
    isToken68 text = false := by
  have hbody : Text.dropEnd (· == '=') text = text := by
    refine Text.dropEnd_eq_self ?_
    rw [hlast]
    rintro _ ⟨⟩
    rfl
  have hall : text.all isToken68Char = false :=
    List.all_eq_false.mpr ⟨'"', List.mem_of_getLast? hlast, Bool.false_ne_true⟩
  rw [isToken68, hbody, hall, Bool.and_false]

/-! ## What an item is taken for -/

theorem readItem_blank (done : List Challenge) (item : List Char) :
    readItem done (' ' :: item) = readItem done item := by
  have hblank : ∀ c ∈ [' '], Text.isBlank c = true := List.forall_mem_singleton.mpr rfl
  rw [readItem, readItem, ← List.singleton_append, Text.trimChars_append_blanks hblank]

/-- A word is what stands in front of the blank or equals sign behind it. -/
theorem IsWord.span {word : List Char} (hword : IsWord word) (rest : List Char) :
    let inWord := fun c => !(Text.isBlank c || c == '=')
    (word ++ rest).takeWhile inWord = word ++ rest.takeWhile inWord ∧
      (word ++ rest).dropWhile inWord = rest.dropWhile inWord := by
  have hinWord : ∀ c ∈ word, (!(Text.isBlank c || c == '=')) = true := by
    intro c hc
    simp [hword.unblank c hc, (hword.unmarked c hc).1]
  exact ⟨List.takeWhile_append_of_pos hinWord, List.dropWhile_append_of_pos hinWord⟩

theorem IsWord.trimChars_append
    {word rest : List Char} {last : Char} (hword : IsWord word) (hlast : rest.getLast? = some last)
    (hunblank : Text.isBlank last = false) :
    Text.trimChars (word ++ rest) = word ++ rest := by
  obtain ⟨c, more, rfl⟩ := List.exists_cons_of_ne_nil hword.nonempty
  refine Text.trimChars_eq_self ?_ ?_
  · simpa using hword.unblank c List.mem_cons_self
  · rw [List.getLast?_append, hlast]
    simpa using hunblank

theorem trimChars_writeSpaced
    {param : String × String} (hname : IsWord param.1.toList) (before behind : List Char) :
    Text.trimChars (writeSpaced before behind param) = writeSpaced before behind param := by
  have hlast : (before ++ '=' :: (behind ++ writeValue param.2.toList)).getLast? = some '"' := by
    simp [getLast?_writeValue, List.getLast?_append, List.getLast?_cons]
  exact hname.trimChars_append hlast (by decide)

theorem readItem_word {word : List Char} (hword : IsWord word) (done : List Challenge) :
    readItem done word = bare (String.ofList word) :: done := by
  obtain ⟨htake, hdrop⟩ := hword.span []
  rw [List.append_nil, List.takeWhile_nil, List.append_nil] at htake
  rw [List.append_nil, List.dropWhile_nil] at hdrop
  simp only [readItem, Text.trimChars_of_unblank hword.unblank, htake, hdrop]
  simp [hword.nonempty]

/-- An item of more than a word is told by what ends its first word. -/
theorem readItem_append
    {word rest : List Char} {mark : Char} (hword : IsWord word)
    (hmark : (Text.isBlank mark || mark == '=') = true)
    (htrim : Text.trimChars (word ++ mark :: rest) = word ++ mark :: rest)
    (done : List Challenge) :
    readItem done (word ++ mark :: rest) =
      if Text.isBlank mark then begin word rest :: done
      else continueLast done (word ++ mark :: rest) := by
  obtain ⟨htake, hdrop⟩ := hword.span (mark :: rest)
  simp only [List.takeWhile_cons, hmark, Bool.not_true, Bool.false_eq_true, if_false,
    List.append_nil] at htake
  simp only [List.dropWhile_cons, hmark, Bool.not_true, Bool.false_eq_true, if_false] at hdrop
  simp only [readItem, htrim, htake, hdrop]

theorem readItem_begin
    {word rest : List Char} {last : Char} (hword : IsWord word)
    (hlast : rest.getLast? = some last) (hunblank : Text.isBlank last = false)
    (done : List Challenge) :
    readItem done (word ++ ' ' :: rest) = begin word rest :: done := by
  have hblank : Text.isBlank ' ' = true := by decide
  have hlast' : (' ' :: rest).getLast? = some last := by
    rw [List.getLast?_cons, hlast]
    rfl
  have htrim := hword.trimChars_append hlast' hunblank
  rw [readItem_append hword (by decide) htrim, if_pos hblank]

/-- A gap behind the equals sign makes no difference. -/
theorem readItem_writeSpaced
    {param : String × String} (hname : IsWord param.1.toList) {behind : List Char}
    (hbehind : ∀ c ∈ behind, Text.isBlank c = true) (challenge : Challenge)
    (done : List Challenge) :
    readItem (challenge :: done) (writeSpaced [] behind param) =
      { challenge with params := challenge.params ++ [param] } :: done := by
  have hblank : ¬ Text.isBlank '=' = true := by decide
  have htrim := trimChars_writeSpaced hname [] behind
  have hread := readParam?_writeSpaced hname (List.forall_mem_nil _) hbehind
  rw [writeSpaced, List.nil_append] at htrim hread ⊢
  rw [readItem_append hname (by decide) htrim, if_neg hblank]
  simp only [continueLast, hread]

/-! ## Tokens -/

theorem visible_of_isToken68Char {c : Char} (hc : isToken68Char c = true) :
    0x20 < c.toNat ∧ c.toNat < 0x7F := by
  rcases Bool.or_eq_true_iff.mp hc with halphanum | hmark
  · exact Text.visible_of_isAlphanum halphanum
  · have hmarks : ∀ d ∈ "-._~+/".toList, 0x20 < d.toNat ∧ d.toNat < 0x7F :=
      Text.forall_mem_of_all (by decide)
    exact hmarks c (by simpa using hmark)

/-- A token is made of characters without a meaning for lists. -/
theorem plain_of_isToken68Char {c : Char} (hc : isToken68Char c = true) :
    Text.isBlank c = false ∧ c ≠ '=' ∧ c ≠ ',' ∧ c ≠ '"' := by
  refine ⟨?_, ?_, ?_, ?_⟩
  · obtain ⟨hlow, hhigh⟩ := visible_of_isToken68Char hc
    exact Text.isBlank_of_visible hlow hhigh
  · rintro rfl
    exact absurd hc (by decide)
  · rintro rfl
    exact absurd hc (by decide)
  · rintro rfl
    exact absurd hc (by decide)

theorem IsToken.isToken68 {text : List Char} (htext : IsToken text) : isToken68 text = true := by
  obtain ⟨body, count, rfl, hnonempty, hbody⟩ := htext
  have hlast : ∀ c ∈ body.getLast?, (c == '=') = false := by
    intro c hc
    have hsymbol := hbody c (List.mem_of_mem_getLast? hc)
    exact beq_eq_false_iff_ne.mpr (plain_of_isToken68Char hsymbol).2.1
  have hdrop : Text.dropEnd (· == '=') (body ++ List.replicate count '=') = body := by
    have hreplicate : ∀ c ∈ List.replicate count '=', (c == '=') = true := by simp
    rw [Text.dropEnd, List.reverse_append, List.reverse_replicate,
      List.dropWhile_append_of_pos hreplicate]
    exact Text.dropEnd_eq_self hlast
  rw [Challenge.isToken68, hdrop]
  simpa [hnonempty] using hbody

theorem IsToken.nonempty {text : List Char} (htext : IsToken text) : text ≠ [] := by
  obtain ⟨body, count, rfl, hnonempty, _⟩ := htext
  simp [hnonempty]

theorem IsToken.plain {text : List Char} (htext : IsToken text) :
    ∀ c ∈ text, Text.isBlank c = false ∧ c ≠ ',' ∧ c ≠ '"' := by
  obtain ⟨body, count, rfl, hnonempty, hbody⟩ := htext
  intro c hc
  rcases List.mem_append.mp hc with hc | hc
  · obtain ⟨hblank, _, hcomma, hquote⟩ := plain_of_isToken68Char (hbody c hc)
    exact ⟨hblank, hcomma, hquote⟩
  · obtain rfl := List.eq_of_mem_replicate hc
    decide

theorem IsToken.visible {text : List Char} (htext : IsToken text) :
    ∀ c ∈ text, 0x20 < c.toNat ∧ c.toNat < 0x7F := by
  obtain ⟨body, count, rfl, _, hbody⟩ := htext
  intro c hc
  rcases List.mem_append.mp hc with hc | hc
  · exact visible_of_isToken68Char (hbody c hc)
  · obtain rfl := List.eq_of_mem_replicate hc
    decide

/-! ## Challenges -/

/-- What stands between the commas of a challenge. -/
def parts (challenge : Challenge) : List (List Char) :=
  match challenge.token68, challenge.params with
  | some text, _ => [challenge.scheme.toList ++ ' ' :: text.toList]
  | none, [] => [challenge.scheme.toList]
  | none, param :: params =>
    (challenge.scheme.toList ++ ' ' :: writeParam param) :: params.map writeParam

theorem parts_ne_nil (challenge : Challenge) : challenge.parts ≠ [] := by
  rcases challenge with ⟨scheme, _ | text, _ | ⟨param, params⟩⟩ <;> simp [parts]

theorem separated_cons_append (text piece : List Char) (pieces : List (List Char)) :
    separated ((text ++ piece) :: pieces) = text ++ separated (piece :: pieces) := by
  cases pieces with
  | nil => simp [separated]
  | cons next pieces => simp [separated, List.intercalate_cons_cons]

theorem separated_append
    {pieces more : List (List Char)} (hpieces : pieces ≠ []) (hmore : more ≠ []) :
    separated (pieces ++ more) = separated pieces ++ ',' :: ' ' :: separated more := by
  induction pieces with
  | nil => exact absurd rfl hpieces
  | cons piece pieces ih =>
      cases pieces with
      | nil =>
          obtain ⟨next, others, rfl⟩ := List.exists_cons_of_ne_nil hmore
          simp [separated, List.intercalate_cons_cons]
      | cons next pieces =>
          have hrest := ih (List.cons_ne_nil _ _)
          simp only [separated, List.cons_append, List.intercalate_cons_cons] at hrest ⊢
          simp [hrest]

theorem write_eq (challenge : Challenge) : challenge.write = separated challenge.parts := by
  rcases challenge with ⟨scheme, _ | text, _ | ⟨param, params⟩⟩
  · simp [write, parts, separated]
  · have hjoined := separated_cons_append (scheme.toList ++ [' ']) (writeParam param)
      (params.map writeParam)
    simpa [write, parts] using hjoined.symm
  · simp [write, parts, separated]
  · simp [write, parts, separated]

theorem writeAll_eq (challenges : List Challenge) :
    writeAll challenges = String.ofList (separated (challenges.flatMap parts)) := by
  have hjoined : separated (challenges.map write) = separated (challenges.flatMap parts) := by
    induction challenges with
    | nil => rfl
    | cons challenge challenges ih =>
        cases challenges with
        | nil => simp [separated, write_eq]
        | cons next challenges =>
            have hmore : (next :: challenges).flatMap parts ≠ [] := by
              simp [parts_ne_nil]
            rw [List.flatMap_cons, separated_append challenge.parts_ne_nil hmore, ← ih, ← write_eq]
            simp [separated, List.intercalate_cons_cons]
  rw [writeAll, hjoined]

theorem uncut_begin
    {word rest : List Char} (hword : IsWord word) (hrest : Uncut false rest false) :
    Uncut false (word ++ ' ' :: rest) false := by
  have hblank : Uncut false [' '] false := uncut_plain (by decide) (by decide) (by decide)
  exact hword.uncut.append (hblank.append hrest)

theorem WellFormed.uncut_parts
    {challenge : Challenge} (hchallenge : WellFormed challenge) :
    ∀ piece ∈ challenge.parts, Uncut false piece false := by
  cases hchallenge with
  | bare scheme hscheme =>
      simpa [parts] using hscheme.uncut
  | token scheme text hscheme htext =>
      have huncut : Uncut false text.toList false :=
        uncut_of_unmarked fun c hc => (htext.plain c hc).2
      simpa [parts] using uncut_begin hscheme huncut
  | params scheme params hscheme hnonempty hparams =>
      obtain ⟨param, params, rfl⟩ := List.exists_cons_of_ne_nil hnonempty
      have hfirst := uncut_writeParam (hparams param List.mem_cons_self)
      simp only [parts, List.forall_mem_cons, List.forall_mem_map]
      refine ⟨uncut_begin hscheme hfirst, fun other hother => ?_⟩
      exact uncut_writeParam (hparams other (List.mem_cons_of_mem param hother))

theorem foldl_readItem_params
    {params : List (String × String)} (hparams : ∀ param ∈ params, IsWord param.1.toList)
    (challenge : Challenge) (done : List Challenge) :
    (params.map writeParam).foldl readItem (challenge :: done) =
      { challenge with params := challenge.params ++ params } :: done := by
  induction params generalizing challenge with
  | nil => simp
  | cons param params ih =>
      have hparam := readItem_writeSpaced (hparams param List.mem_cons_self)
        (List.forall_mem_nil _) challenge done
      rw [← writeParam_eq] at hparam
      have hrest := ih fun other hother => hparams other (List.mem_cons_of_mem param hother)
      rw [List.map_cons, List.foldl_cons, hparam, hrest, List.append_assoc]
      rfl

theorem begin_token {text : List Char} (htext : IsToken text) (scheme : List Char) :
    begin scheme text = ⟨String.ofList scheme, some (String.ofList text), []⟩ := by
  have htrim : Text.trimChars text = text :=
    Text.trimChars_of_unblank fun c hc => (htext.plain c hc).1
  simp only [begin, htrim, htext.isToken68, if_true]

theorem begin_writeSpaced
    {param : String × String} (hname : IsWord param.1.toList) {before behind : List Char}
    (hbefore : ∀ c ∈ before, Text.isBlank c = true)
    (hbehind : ∀ c ∈ behind, Text.isBlank c = true) (scheme : List Char) :
    begin scheme (writeSpaced before behind param) = ⟨String.ofList scheme, none, [param]⟩ := by
  have hread := readParam?_writeSpaced hname hbefore hbehind
  have htoken := isToken68_of_quote (getLast?_writeSpaced before behind param)
  simp [begin, trimChars_writeSpaced hname, htoken, hread]

theorem begin_writeParam
    {param : String × String} (hname : IsWord param.1.toList) (scheme : List Char) :
    begin scheme (writeParam param) = ⟨String.ofList scheme, none, [param]⟩ :=
  begin_writeSpaced hname (List.forall_mem_nil _) (List.forall_mem_nil _) scheme

/-- The pieces of a challenge are read as this challenge. -/
theorem WellFormed.foldl_parts
    {challenge : Challenge} (hchallenge : WellFormed challenge) (done : List Challenge) :
    challenge.parts.foldl readItem done = challenge :: done := by
  cases hchallenge with
  | bare scheme hscheme =>
      simp only [parts, List.foldl_cons, List.foldl_nil, readItem_word hscheme,
        String.ofList_toList]
      rfl
  | token scheme text hscheme htext =>
      have hlast := List.getLast?_eq_some_getLast htext.nonempty
      have hunblank := (htext.plain _ (List.getLast_mem htext.nonempty)).1
      simp only [parts, List.foldl_cons, List.foldl_nil,
        readItem_begin hscheme hlast hunblank, begin_token htext, String.ofList_toList]
  | params scheme params hscheme hnonempty hparams =>
      obtain ⟨param, params, rfl⟩ := List.exists_cons_of_ne_nil hnonempty
      have hname := hparams param List.mem_cons_self
      have hrest : ∀ other ∈ params, IsWord other.1.toList := fun other hother =>
        hparams other (List.mem_cons_of_mem param hother)
      have hbegin :=
        readItem_begin hscheme (getLast?_writeParam param) (by decide) done
      rw [begin_writeParam hname, String.ofList_toList] at hbegin
      simp only [parts, List.foldl_cons, hbegin, foldl_readItem_params hrest]
      rfl

theorem foldl_readItem_blank (items : List (List Char)) (done : List Challenge) :
    (items.map (' ' :: ·)).foldl readItem done = items.foldl readItem done := by
  simp only [List.foldl_map, readItem_blank]

theorem foldl_flatMap_parts
    {challenges : List Challenge} (hchallenges : ∀ challenge ∈ challenges, WellFormed challenge)
    (done : List Challenge) :
    (challenges.flatMap parts).foldl readItem done = challenges.reverse ++ done := by
  induction challenges generalizing done with
  | nil => rfl
  | cons challenge challenges ih =>
      have hfirst := (hchallenges challenge List.mem_cons_self).foldl_parts done
      have hrest := ih fun other hother => hchallenges other (List.mem_cons_of_mem challenge hother)
      rw [List.flatMap_cons, List.foldl_append, hfirst, hrest]
      simp

/-- Every list of challenges is read back from the header that lists them. -/
theorem read_writeAll
    (challenges : List Challenge) (hchallenges : ∀ challenge ∈ challenges, WellFormed challenge) :
    read (writeAll challenges) = challenges := by
  rw [read, writeAll_eq, String.toList_ofList, readChars]
  have huncut : ∀ piece ∈ challenges.flatMap parts, Uncut false piece false := by
    intro piece hpiece
    obtain ⟨challenge, hchallenge, hmem⟩ := List.mem_flatMap.mp hpiece
    exact (hchallenges challenge hchallenge).uncut_parts piece hmem
  have hread : (items (separated (challenges.flatMap parts))).foldl readItem [] =
      (challenges.flatMap parts).foldl readItem [] := by
    cases hparts : challenges.flatMap parts with
    | nil => rfl
    | cons piece pieces =>
        -- All items but the first have a blank in front, which is trimmed away.
        rw [hparts] at huncut
        rw [split_separated huncut, List.foldl_cons, List.foldl_cons, foldl_readItem_blank]
  rw [hread, foldl_flatMap_parts hchallenges, List.append_nil, List.reverse_reverse]

/-- Three challenges, one of them with a comma, quotes and backslashes in a value. -/
def mixed : List Challenge :=
  [⟨"Basic", none, [("realm", "a, \"b\" = \\"), ("charset", "")]⟩,
    ⟨"Negotiate", some "oYGg+/==", []⟩, .bare "NTLM"]

theorem read_writeAll_mixed :
    (∀ challenge ∈ mixed, WellFormed challenge) ∧
      writeAll mixed =
        "Basic realm=\"a, \\\"b\\\" = \\\\\", charset=\"\", Negotiate oYGg+/==, NTLM" ∧
      read (writeAll mixed) = mixed := by
  have hwellFormed : ∀ challenge ∈ mixed, WellFormed challenge := by
    simp only [mixed, List.forall_mem_cons]
    refine ⟨?_, ?_, ?_, by simp⟩
    · exact .params _ _ (by decide) (by decide) (by simp only [List.forall_mem_cons]; decide)
    · have hmarks : "oYGg+/".toList.all isToken68Char = true := by decide
      exact .token _ _ (by decide) ⟨_, 2, rfl, by decide, List.all_eq_true.mp hmarks⟩
    · exact .bare _ (by decide)
  exact ⟨hwellFormed, by decide, read_writeAll mixed hwellFormed⟩

end Challenge
end ProxyHandshake
