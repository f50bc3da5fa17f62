import ProxyHandshake.Proofs.Challenge.Framing

/-!
# What is read from any header

A header may be malformed in every way: its quotes are never closed, its items are empty, a parameter
comes before any challenge.  Nothing of it is lost when it is cut into items, and whatever challenges
are read from the items make sense: their schemes and the names of their parameters are words, and
their tokens follow the grammar of tokens.  So a challenge that carries a token carries the one text
that writes it.
-/

namespace ProxyHandshake
namespace Challenge

/-! ## Items -/

theorem joinPieces_split (quoted escaped : Bool) (text : List Char) :
    Text.joinPieces ',' (split quoted escaped text) = text := by
  induction text generalizing quoted escaped with
  | nil => rfl
  | cons c text ih =>
      rw [split_cons]
      split
      next hcomma =>
        rw [Text.joinPieces_cons ',' [] (split_ne_nil _ _ _), ih, hcomma.1, List.nil_append]
      next => rw [Text.joinPieces_growFirst ',' c (split_ne_nil _ _ _), ih]

/-! ## Challenges that make sense -/

/-- A text that is not empty, and that no blank and no equals sign cuts. -/
structure IsLabel (text : List Char) : Prop where
  nonempty : text ≠ []
  uncut : ∀ c ∈ text, Text.isBlank c = false ∧ c ≠ '='

structure IsSane (challenge : Challenge) : Prop where
  scheme : IsLabel challenge.scheme.toList
  token : ∀ text ∈ challenge.token68, IsToken text.toList
  names : ∀ param ∈ challenge.params, IsLabel param.1.toList

theorem isToken_of_isToken68 {text : List Char} (htext : isToken68 text = true) : IsToken text := by
  obtain ⟨ending, hwhole, hending⟩ := Text.exists_dropEnd (· == '=') text
  obtain ⟨hnonempty, hbody⟩ := Bool.and_eq_true_iff.mp htext
  have hpadding : ending = List.replicate ending.length '=' :=
    List.eq_replicate_of_mem fun c hc => beq_iff_eq.mp (hending c hc)
  refine ⟨_, ending.length, ?_, by simpa using hnonempty, List.all_eq_true.mp hbody⟩
  rw [← hpadding]
  exact hwhole

theorem isLabel_of_readParam?
    {item : List Char} {param : String × String} (hread : readParam? item = some param) :
    IsLabel param.1.toList := by
  rw [readParam?] at hread
  split at hread
  · cases hread
  next before behind hcut =>
    simp only at hread
    split at hread
    · cases hread
    next hname =>
      cases hread
      obtain ⟨hnonempty, hunblank⟩ : Text.trimChars before ≠ [] ∧
          ∀ c ∈ Text.trimChars before, Text.isBlank c = false := by
        simpa [not_or] using hname
      rw [String.toList_ofList]
      refine ⟨hnonempty, fun c hc => ⟨hunblank c hc, ?_⟩⟩
      have hplain := Text.of_mem_cutFirst? hcut c (Text.mem_trimChars hc)
      exact beq_eq_false_iff_ne.mp hplain

theorem isSane_bare {word : List Char} (hword : IsLabel word) :
    (bare (String.ofList word)).IsSane where
  scheme := by simpa [bare] using hword
  token _ hnever := nomatch hnever
  names _ hnever := nomatch hnever

theorem isSane_begin {word : List Char} (hword : IsLabel word) (rest : List Char) :
    (begin word rest).IsSane := by
  simp only [begin]
  split
  next htoken =>
    refine ⟨by simpa using hword, ?_, List.forall_mem_nil _⟩
    rintro _ ⟨⟩
    rw [String.toList_ofList]
    exact isToken_of_isToken68 htoken
  next =>
    refine ⟨by simpa using hword, fun token htoken => ?_, fun param hparam => ?_⟩
    · cases htoken
    · exact isLabel_of_readParam? (Option.mem_toList.mp hparam)

theorem isSane_continueLast
    {done : List Challenge} (hdone : ∀ challenge ∈ done, challenge.IsSane) (item : List Char) :
    ∀ challenge ∈ continueLast done item, challenge.IsSane := by
  rw [continueLast.eq_def]
  split
  next last earlier param hparam =>
    obtain ⟨hlast, hearlier⟩ := List.forall_mem_cons.mp hdone
    refine List.forall_mem_cons.mpr ⟨⟨hlast.scheme, hlast.token, ?_⟩, hearlier⟩
    intro other hother
    rcases List.mem_append.mp hother with hsooner | hnew
    · exact hlast.names other hsooner
    · rw [List.mem_singleton.mp hnew]
      exact isLabel_of_readParam? hparam
  next => exact hdone

/-- The first word of an item has no blank and no equals sign in it, and it is not empty unless the item
begins with an equals sign. -/
theorem isSane_readItem
    {done : List Challenge} (hdone : ∀ challenge ∈ done, challenge.IsSane) (item : List Char) :
    ∀ challenge ∈ readItem done item, challenge.IsSane := by
  let inWord := fun c => !(Text.isBlank c || c == '=')
  have huncut : ∀ c ∈ (Text.trimChars item).takeWhile inWord, Text.isBlank c = false ∧ c ≠ '=' := by
    intro c hc
    have hin : inWord c = true := List.all_eq_true.mp List.all_takeWhile c hc
    simpa [inWord] using hin
  have hwhole := List.takeWhile_append_dropWhile (p := inWord) (l := Text.trimChars item)
  simp only [readItem]
  split
  next hbehind =>
    split
    next => exact hdone
    next hword =>
      refine List.forall_mem_cons.mpr ⟨isSane_bare ⟨?_, huncut⟩, hdone⟩
      simpa [inWord] using hword
  next mark rest hbehind =>
    split
    next hmark =>
      refine List.forall_mem_cons.mpr ⟨isSane_begin ⟨?_, huncut⟩ rest, hdone⟩
      -- What begins with a blank is not trimmed.
      intro hempty
      have hfirst : mark ∈ (Text.trimChars item).head? := by
        rw [← hwhole, hempty, List.nil_append, hbehind]
        rfl
      have hunblank := (Text.isTrimmed_trimChars item).first mark hfirst
      rw [hmark] at hunblank
      cases hunblank
    next => exact isSane_continueLast hdone _

theorem isSane_foldl
    {done : List Challenge} (hdone : ∀ challenge ∈ done, challenge.IsSane)
    (items : List (List Char)) :
    ∀ challenge ∈ items.foldl readItem done, challenge.IsSane := by
  induction items generalizing done with
  | nil => exact hdone
  | cons item items ih => exact ih (isSane_readItem hdone item)

/-! ## Tokens that are carried -/

/-- The token of a challenge that makes sense is never empty, and the challenge carries the text that
writes it. -/
theorem IsSane.negotiateToken
    {challenge : Challenge} (hsane : challenge.IsSane) :
    challenge.negotiateToken ≠ .error .blankText ∧
      ∀ token, challenge.negotiateToken = .ok (some token) →
        token.bytes ≠ [] ∧ challenge.token68 = some token.base64 := by
  rw [Challenge.negotiateToken]
  split
  next hnegotiate =>
    split
    next => constructor <;> simp
    next text htext =>
      obtain ⟨htrim, hblank⟩ := (hsane.token text htext).trim
      constructor
      · intro hempty
        rw [Token.ofBase64, hblank, if_neg Bool.false_ne_true] at hempty
        split at hempty <;> cases hempty
      · intro token hread
        have hread : Token.ofBase64 text = .ok token := by
          cases hdecoded : Token.ofBase64 text with
          | error cause => simp [hdecoded, Except.map] at hread
          | ok other => simpa [hdecoded, Except.map] using hread
        obtain ⟨hbytes, hbase64⟩ := Token.of_ofBase64 hread
        rw [htext, hbase64, htrim]
        exact ⟨hbytes, rfl⟩
  next => constructor <;> simp

/-- Whatever a header says, its items joined by commas are the header again, and every challenge that is
read from it makes sense; a token that it carries is not empty, and the challenge has just the Base64
of this token. -/
theorem read_makes_sense (header : String) :
    Text.joinPieces ',' (items header.toList) = header.toList ∧
    ∀ challenge ∈ read header,
      challenge.IsSane ∧
      challenge.negotiateToken ≠ .error .blankText ∧
      ∀ token, challenge.negotiateToken = .ok (some token) →
        token.isEmpty = false ∧ challenge.token68 = some token.base64 := by
  refine ⟨joinPieces_split false false header.toList, fun challenge hchallenge => ?_⟩
  have hsane : challenge.IsSane :=
    isSane_foldl (List.forall_mem_nil _) (items header.toList) challenge
      (List.mem_reverse.mp hchallenge)
  obtain ⟨hblank, htoken⟩ := hsane.negotiateToken
  refine ⟨hsane, hblank, fun token hread => ?_⟩
  obtain ⟨hbytes, htext⟩ := htoken token hread
  exact ⟨by simpa [Token.isEmpty] using hbytes, htext⟩

/-- A parameter without a challenge, a token, a parameter without a name, and quotes that stay open. -/
def garbled : String := "=x,, Negotiate\tAQL/ ,é =\"y, a\\\", \\, Negotiate AQL="

theorem read_makes_sense_garbled :
    let challenge : Challenge := ⟨"Negotiate", some "AQL/", []⟩
    let token : Token := ⟨[1, 2, 255]⟩
    read garbled = [challenge, .bare "é"] ∧ challenge.negotiateToken = .ok (some token) ∧
      Text.joinPieces ',' (items garbled.toList) = garbled.toList ∧ challenge.IsSane ∧
      token.isEmpty = false ∧ challenge.token68 = some token.base64 := by
  intro challenge token
  have hread : read garbled = [challenge, .bare "é"] := by decide
  have htoken : challenge.negotiateToken = .ok (some token) := by decide
  obtain ⟨hjoined, hsense⟩ := read_makes_sense garbled
  obtain ⟨hsane, _, hcarried⟩ := hsense challenge (by rw [hread]; exact List.mem_cons_self)
  obtain ⟨hnonempty, htext⟩ := hcarried token htoken
  exact ⟨hread, htoken, hjoined, hsane, hnonempty, htext⟩

end Challenge
end ProxyHandshake
