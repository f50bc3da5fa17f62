import ProxyHandshake.Proofs.Challenge.Joining
import ProxyHandshake.Proofs.Header

/-!
# Headers on several lines

A header that comes on several lines says what it would say on one, with commas between the values.  So
it does here, wherever the quotes of a value are closed at its end and the next value begins with a
challenge.  A value may begin with parameters instead: alone it loses them, and behind a comma they go to
the last challenge before it.
-/

namespace ProxyHandshake
namespace Challenge

/-! ## Open quotes -/

/-- Outside quotes a backslash has no meaning. -/
theorem quoted_of_escaped (state : Bool × Bool) (c : Char) :
    (scanChar state c).2 = true → (scanChar state c).1 = true := by
  rcases state with ⟨quoted, escaped⟩
  cases escaped with
  | true => simp [scanChar]
  | false =>
      by_cases hescape : c = '\\' ∧ quoted = true
      · simp [scanChar, hescape]
      · by_cases hquote : c = '"' <;> simp [scanChar, hescape, hquote]

theorem quoted_of_escaped_scan
    (quoted escaped : Bool) (hstart : escaped = true → quoted = true) (text : List Char) :
    (scan quoted escaped text).2 = true → (scan quoted escaped text).1 = true := by
  induction text generalizing quoted escaped with
  | nil => exact hstart
  | cons c text ih => exact ih _ _ (quoted_of_escaped (quoted, escaped) c)

theorem isClosed_iff (text : List Char) : IsClosed text ↔ (scan false false text).1 = false := by
  have hescaped := quoted_of_escaped_scan false false id text
  rw [IsClosed]
  generalize scan false false text = state at hescaped ⊢
  obtain ⟨quoted, escaped⟩ := state
  cases quoted <;> cases escaped <;> simp at hescaped ⊢

/-! ## Parameters at the beginning -/

/-- Items that begin no challenge: blank ones, and parameters of a challenge before them. -/
def AreLeading (items : List (List Char)) : Prop :=
  ∀ item ∈ items, Text.trimChars item = [] ∨ continues item = true

/-- The parameters that items give to the challenge before them, as far as they are well formed. -/
def given (items : List (List Char)) : List (String × String) :=
  items.filterMap fun item => readParam? (Text.trimChars item)

theorem readItem_of_continues
    {item : List Char} (hitem : continues item = true) (done : List Challenge) :
    readItem done item = continueLast done (Text.trimChars item) := by
  rw [continues] at hitem
  cases hbehind : (Text.trimChars item).dropWhile fun c => !(Text.isBlank c || c == '=') with
  | nil =>
      rw [hbehind] at hitem
      cases hitem
  | cons c behind =>
      rw [hbehind] at hitem
      have hunblank : Text.isBlank c = false := by simpa using hitem
      simp only [readItem, hbehind, hunblank, Bool.false_eq_true, if_false]

theorem readItem_leading
    {item : List Char} (hitem : Text.trimChars item = [] ∨ continues item = true)
    (challenge : Challenge) (done : List Challenge) :
    readItem (challenge :: done) item =
      { challenge with
        params := challenge.params ++ (readParam? (Text.trimChars item)).toList } :: done := by
  rcases hitem with hempty | hcontinues
  · have hnone : readParam? [] = none := rfl
    rw [readItem_of_empty hempty, hempty, hnone, Option.toList_none, List.append_nil]
  · rw [readItem_of_continues hcontinues]
    cases hparam : readParam? (Text.trimChars item) <;> simp [continueLast, hparam]

theorem foldl_readItem_leading
    {items : List (List Char)} (hitems : AreLeading items) (challenge : Challenge)
    (done : List Challenge) :
    items.foldl readItem (challenge :: done) =
      { challenge with params := challenge.params ++ given items } :: done := by
  induction items generalizing challenge with
  | nil => simp [given]
  | cons item items ih =>
      obtain ⟨hitem, hothers⟩ := List.forall_mem_cons.mp hitems
      rw [List.foldl_cons, readItem_leading hitem, ih hothers, List.append_assoc]
      cases hparam : readParam? (Text.trimChars item) <;> simp [given, hparam]

/-- With no challenge before them, parameters are lost. -/
theorem foldl_readItem_lost {items : List (List Char)} (hitems : AreLeading items) :
    items.foldl readItem [] = [] := by
  induction items with
  | nil => rfl
  | cons item items ih =>
      obtain ⟨hitem, hothers⟩ := List.forall_mem_cons.mp hitems
      have hnothing : readItem [] item = [] := by
        rcases hitem with hempty | hcontinues
        · exact readItem_of_empty hempty []
        · rw [readItem_of_continues hcontinues]
          rfl
      rw [List.foldl_cons, hnothing, ih hothers]

/-- In such a parameter an equals sign comes before any blank. -/
theorem exists_of_continues {item : List Char} (hitem : continues item = true) :
    ∃ name value, Text.trimChars item = name ++ '=' :: value ∧
      ∀ c ∈ name, Text.isBlank c = false ∧ c ≠ '=' := by
  let inWord := fun c => !(Text.isBlank c || c == '=')
  rw [continues] at hitem
  split at hitem
  · cases hitem
  next mark value hbehind =>
    have hunblank : Text.isBlank mark = false := by simpa using hitem
    have hmark : mark = '=' := by
      have hfirst : mark ∈ ((Text.trimChars item).dropWhile inWord).head? := by
        rw [hbehind]
        rfl
      have hout : inWord mark = false := Text.not_of_mem_head?_dropWhile hfirst
      simpa [inWord, hunblank] using hout
    refine ⟨(Text.trimChars item).takeWhile inWord, value, ?_, fun c hc => ?_⟩
    · have hsplit := List.takeWhile_append_dropWhile (p := inWord) (l := Text.trimChars item)
      rw [hbehind, hmark] at hsplit
      exact hsplit.symm
    · have hin : inWord c = true := List.all_eq_true.mp List.all_takeWhile c hc
      simpa [inWord] using hin

theorem readParam?_append
    {name : List Char} (hname : ∀ c ∈ name, Text.isBlank c = false ∧ c ≠ '=') (value : List Char) :
    readParam? (name ++ '=' :: value) =
      if name = [] then none
      else some (String.ofList name, String.ofList (unquote (Text.trimChars value))) := by
  have hcut : Text.cutFirst? (· == '=') (name ++ '=' :: value) = some (name, value) :=
    Text.cutFirst?_append (fun c hc => beq_eq_false_iff_ne.mpr (hname c hc).2) rfl value
  have hunblank : ∀ c ∈ name, Text.isBlank c = false := fun c hc => (hname c hc).1
  have hblank : name.any Text.isBlank = false := by simpa using hunblank
  simp only [readParam?, hcut, Text.trimChars_of_unblank hunblank, hblank, Bool.or_false,
    List.isEmpty_iff]

/-- A parameter for the challenge before it is well formed unless it has no name. -/
theorem given_of_continues {item : List Char} (hitem : continues item = true) :
    ∃ name value,
      Text.trimChars item = name ++ '=' :: value ∧
      (∀ c ∈ name, Text.isBlank c = false ∧ c ≠ '=') ∧
      given [item] =
        if name = [] then []
        else [(String.ofList name, String.ofList (unquote (Text.trimChars value)))] := by
  obtain ⟨name, value, hwhole, hname⟩ := exists_of_continues hitem
  refine ⟨name, value, hwhole, hname, ?_⟩
  have hgiven : given [item] = (readParam? (Text.trimChars item)).toList := by
    cases hparam : readParam? (Text.trimChars item) <;> simp [given, hparam]
  rw [hgiven, hwhole, readParam?_append hname]
  split <;> rfl

/-- Behind a comma, the parameters at the beginning of a text go to the last challenge before it. -/
theorem readChars_comma_leading
    {text more : List Char} (htext : IsClosed text) {leading rest : List (List Char)}
    (hmore : items more = leading ++ rest) (hleading : AreLeading leading)
    (hrest : beginsAnew rest = true) {earlier : List Challenge} {last : Challenge}
    (hread : readChars text = earlier ++ [last]) :
    readChars (text ++ ',' :: more) =
      earlier ++ { last with params := last.params ++ given leading } :: readChars more := by
  have hdone : (items text).foldl readItem [] = last :: earlier.reverse := by
    rw [readChars, List.reverse_eq_iff] at hread
    simpa using hread
  have hbehind : readChars more = (rest.foldl readItem []).reverse := by
    rw [readChars, hmore, List.foldl_append, foldl_readItem_lost hleading]
  rw [hbehind, readChars, items_comma htext, hmore, List.foldl_append, List.foldl_append, hdone,
    foldl_readItem_leading hleading, foldl_readItem_anew hrest]
  simp

/-! ## Values of headers -/

theorem readAll_singleton
    {value : HeaderValue} {text : String} (hvalue : value.text? = some text.toList) :
    readAll [value] = read text := by
  simp [readAll, hvalue, read]

theorem readAll_cons (value : HeaderValue) (values : List HeaderValue) :
    readAll (value :: values) = readAll [value] ++ readAll values := by
  cases hvalue : value.text? <;> simp [readAll, hvalue]

/-- Two values of a header say together what one value says that lists both: all the challenges of the
first, and then all of the second.  If the second begins with parameters, they go to the last challenge of
the first where both stand on one line, and are lost otherwise. -/
theorem readAll_comma
    (first second : String) (hfirst : Text.IsPlain first.toList) (hsecond : Text.IsPlain second.toList)
    (hquotes : (scan false false first.toList).1 = false) :
    (∃ one two both : HeaderValue,
      HeaderValue.ofText? first = some one ∧ HeaderValue.ofText? second = some two ∧
      HeaderValue.ofText? (first ++ "," ++ second) = some both ∧
      readAll [one, two] = read first ++ read second ∧
      readAll [both] = read (first ++ "," ++ second)) ∧
    (beginsAnew (items second.toList) = true →
      read (first ++ "," ++ second) = read first ++ read second) ∧
    (∀ leading rest,
      items second.toList = leading ++ rest → AreLeading leading → beginsAnew rest = true →
      ∀ earlier last, read first = earlier ++ [last] →
        read (first ++ "," ++ second) =
          earlier ++ { last with params := last.params ++ given leading } :: read second) ∧
    ∀ item, continues item = true →
      ∃ name value,
        Text.trimChars item = name ++ '=' :: value ∧
        (∀ c ∈ name, Text.isBlank c = false ∧ c ≠ '=') ∧
        given [item] =
          if name = [] then []
          else [(String.ofList name, String.ofList (unquote (Text.trimChars value)))] := by
  have hclosed : IsClosed first.toList := (isClosed_iff _).mpr hquotes
  have htext : (first ++ "," ++ second).toList = first.toList ++ ',' :: second.toList := by simp
  have hboth : Text.IsPlain (first ++ "," ++ second).toList := by
    rw [htext]
    exact List.forall_mem_append.mpr ⟨hfirst, List.forall_mem_cons.mpr ⟨.inr (by decide), hsecond⟩⟩
  refine ⟨?_, fun hanew => ?_, fun leading rest hitems hleading hrest earlier last hread => ?_,
    fun item hitem => given_of_continues hitem⟩
  · obtain ⟨one, hone, hreadOne⟩ := HeaderValue.exists_of_isPlain hfirst
    obtain ⟨two, htwo, hreadTwo⟩ := HeaderValue.exists_of_isPlain hsecond
    obtain ⟨both, hwhole, hreadBoth⟩ := HeaderValue.exists_of_isPlain hboth
    refine ⟨one, two, both, hone, htwo, hwhole, ?_, readAll_singleton hreadBoth⟩
    rw [readAll_cons, readAll_singleton hreadOne, readAll_singleton hreadTwo]
  · rw [read, htext]
    exact readChars_comma hclosed hanew
  · rw [read, htext]
    exact readChars_comma_leading hclosed hitems hleading hrest hread

/-- The comma between quotes separates nothing, and the parameters in front of the second challenge go to
the first, but for the one without a name. -/
theorem readAll_comma_leading :
    let first := "NTLM, Basic realm=\"a, b\""
    let second := " , charset=\"U\", nonce=\",\", =x,\tNegotiate, realm=c"
    Text.IsPlain first.toList ∧ Text.IsPlain second.toList ∧
      (scan false false first.toList).1 = false ∧
      read (first ++ "," ++ "Digest x=y,") =
        [bare "NTLM", ⟨"Basic", none, [("realm", "a, b")]⟩, ⟨"Digest", none, [("x", "y")]⟩] ∧
      read second = [⟨"Negotiate", none, [("realm", "c")]⟩] ∧
      read (first ++ "," ++ second) =
        [bare "NTLM", ⟨"Basic", none, [("realm", "a, b"), ("charset", "U"), ("nonce", ",")]⟩,
          ⟨"Negotiate", none, [("realm", "c")]⟩] := by
  intro first second
  have hfirst : Text.IsPlain first.toList := Text.forall_mem_of_all (by decide)
  have hdigest : Text.IsPlain "Digest x=y,".toList := Text.forall_mem_of_all (by decide)
  have hsecond : Text.IsPlain second.toList := Text.forall_mem_of_all (by decide)
  have hquotes : (scan false false first.toList).1 = false := by decide
  have hread : read first = [bare "NTLM"] ++ [⟨"Basic", none, [("realm", "a, b")]⟩] := by decide
  have hbehind : read second = [⟨"Negotiate", none, [("realm", "c")]⟩] := by decide
  let leading := [" ", " charset=\"U\"", " nonce=\",\"", " =x"].map String.toList
  have hleading : AreLeading leading := Text.forall_mem_of_all (by decide)
  obtain ⟨-, hanew, -, -⟩ := readAll_comma first "Digest x=y," hfirst hdigest hquotes
  obtain ⟨-, -, hparams, -⟩ := readAll_comma first second hfirst hsecond hquotes
  refine ⟨hfirst, hsecond, hquotes, ?_, hbehind, ?_⟩
  · rw [hanew (by decide), hread]
    decide
  · rw [hparams leading (["\tNegotiate", " realm=c"].map String.toList) (by decide) hleading (by decide)
      _ _ hread, hbehind]
    decide

end Challenge
end ProxyHandshake
