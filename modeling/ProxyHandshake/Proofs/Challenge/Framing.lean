import ProxyHandshake.Proofs.Base64
import ProxyHandshake.Proofs.Challenge.Joining
import ProxyHandshake.Proofs.Header

/-!
# Tokens in challenges

A token that is written into a header is read back from it, also when other challenges stand before and
behind it.  What is read as a token is the only text that writes this token, apart from the blanks
around it.
-/

namespace ProxyHandshake

/-! ## The text of a token -/

namespace Base64

theorem isToken68Char_symbol {n : Nat} (hn : n < 64) :
    Challenge.isToken68Char (symbol n) = true := by
  have hall : ∀ n < 64, Challenge.isToken68Char (symbol n) = true := by decide +kernel
  exact hall n hn

/-- Some symbols, and then the padding. -/
theorem isToken_encodeChars {bytes : Bytes} (hbytes : bytes ≠ []) :
    Challenge.IsToken (encodeChars bytes) := by
  induction bytes using encodeChars.induct with
  | case1 => exact absurd rfl hbytes
  | case2 a =>
      have ha := a.toNat_lt
      refine ⟨[_, _], 2, rfl, List.cons_ne_nil _ _, ?_⟩
      simp only [List.forall_mem_cons]
      exact ⟨isToken68Char_symbol (by omega), isToken68Char_symbol (by omega), by simp⟩
  | case3 a b =>
      have ha := a.toNat_lt
      have hb := b.toNat_lt
      refine ⟨[_, _, _], 1, rfl, List.cons_ne_nil _ _, ?_⟩
      simp only [List.forall_mem_cons]
      exact ⟨isToken68Char_symbol (by omega), isToken68Char_symbol (by omega),
        isToken68Char_symbol (by omega), by simp⟩
  | case4 a b c rest ih =>
      have ha := a.toNat_lt
      have hb := b.toNat_lt
      have hc := c.toNat_lt
      have hrest : ∃ body count, encodeChars rest = body ++ List.replicate count '=' ∧
          ∀ c ∈ body, Challenge.isToken68Char c = true := by
        by_cases hempty : rest = []
        · exact ⟨[], 0, by rw [hempty]; rfl, by simp⟩
        · obtain ⟨body, count, htext, _, hbody⟩ := ih hempty
          exact ⟨body, count, htext, hbody⟩
      obtain ⟨body, count, htext, hbody⟩ := hrest
      refine ⟨_ :: _ :: _ :: _ :: body, count, by rw [encodeChars, htext]; rfl,
        List.cons_ne_nil _ _, ?_⟩
      simp only [List.forall_mem_cons]
      exact ⟨isToken68Char_symbol (by omega), isToken68Char_symbol (by omega),
        isToken68Char_symbol (by omega), isToken68Char_symbol (by omega), hbody⟩

end Base64

theorem Challenge.IsToken.trim {text : String} (htext : IsToken text.toList) :
    Text.trim text = text ∧ Text.isBlankText text = false := by
  constructor
  · rw [Text.trim, Text.trimChars_of_unblank fun c hc => (htext.plain c hc).1,
      String.ofList_toList]
  · obtain ⟨c, rest, hchars⟩ := List.exists_cons_of_ne_nil htext.nonempty
    have hc := (htext.plain c (by simp [hchars])).1
    simp [Text.isBlankText, hchars, hc]

namespace Token

/-- The challenge that carries the token. -/
def challenge (token : Token) : Challenge :=
  ⟨negotiateScheme, some token.base64, []⟩

theorem toList_headerText (token : Token) :
    token.headerText.toList = token.challenge.write := by
  simp [headerText, Challenge.write, challenge]

theorem isToken_base64 {token : Token} (hbytes : token.bytes ≠ []) :
    Challenge.IsToken token.base64.toList := by
  rw [base64, Base64.encode, String.toList_ofList]
  exact Base64.isToken_encodeChars hbytes

theorem wellFormed_challenge {token : Token} (hbytes : token.bytes ≠ []) :
    Challenge.WellFormed token.challenge :=
  .token _ _ (by decide) (isToken_base64 hbytes)

/-- The text of a token is plain, so it can be a header. -/
theorem header_eq_ok {token : Token} (hbytes : token.bytes ≠ []) :
    ∃ value, token.header = .ok value ∧ value.text? = some token.headerText.toList := by
  have hplain : Text.IsPlain token.headerText.toList := by
    refine fun c hc => .inr ?_
    have hscheme : ∀ d ∈ negotiateScheme.toList ++ [' '], 0x20 ≤ d.toNat ∧ d.toNat < 0x7F :=
      Text.forall_mem_of_all (by decide)
    have htext : token.headerText.toList =
        (negotiateScheme.toList ++ [' ']) ++ token.base64.toList := by
      simp [headerText]
    rw [htext] at hc
    rcases List.mem_append.mp hc with hc | hc
    · exact hscheme c hc
    · obtain ⟨hlow, hhigh⟩ := (isToken_base64 hbytes).visible c hc
      exact ⟨Nat.le_of_lt hlow, hhigh⟩
  have hempty : token.isEmpty = false := by simpa [isEmpty] using hbytes
  obtain ⟨value, hvalue, hread⟩ := HeaderValue.exists_of_isPlain hplain
  exact ⟨{ value with isSensitive := true }, by simp [header, hempty, hvalue], hread⟩

theorem ofBase64_base64 {token : Token} (hbytes : token.bytes ≠ []) :
    ofBase64 token.base64 = .ok token := by
  obtain ⟨htrim, hblank⟩ := (isToken_base64 hbytes).trim
  rw [ofBase64, hblank, htrim, base64, Base64.decode_encode]
  rfl

theorem isNegotiate_challenge (token : Token) : token.challenge.isNegotiate = true := by
  simp [Challenge.isNegotiate, challenge, Text.sameLetters]

theorem negotiateToken_challenge {token : Token} (hbytes : token.bytes ≠ []) :
    token.challenge.negotiateToken = .ok (some token) := by
  rw [Challenge.negotiateToken, if_pos token.isNegotiate_challenge]
  simp only [challenge, ofBase64_base64 hbytes]
  rfl

theorem of_ofBase64 {text : String} {token : Token} (hread : ofBase64 text = .ok token) :
    token.bytes ≠ [] ∧ token.base64 = Text.trim text := by
  rw [ofBase64] at hread
  split at hread
  · cases hread
  next hblank =>
    split at hread
    next bytes hdecode =>
      cases hread
      have hencode := Base64.encode_of_decode hdecode
      refine ⟨?_, hencode⟩
      -- A text that is not blank has a symbol, and the empty token has none.
      rintro rfl
      have hempty : Text.trimChars text.toList = [] := by
        have htrim := congrArg String.toList hencode
        rw [Text.trim, String.toList_ofList] at htrim
        exact htrim.symm
      exact hblank (Text.all_isBlank_of_trimChars hempty)
    · cases hread

/-! ## Tokens among other challenges -/

/-- Blanks around the challenge of a token do not matter. -/
theorem readItem_gaps
    {token : Token} (hbytes : token.bytes ≠ []) {front back : List Char}
    (hfront : ∀ c ∈ front, Text.isBlank c = true) (hback : ∀ c ∈ back, Text.isBlank c = true) :
    Challenge.readItem [] (front ++ token.headerText.toList ++ back) = [token.challenge] := by
  have htrim : Text.trimChars (front ++ token.headerText.toList ++ back) =
      Text.trimChars token.headerText.toList := by
    rw [Text.trimChars_append_right hback, Text.trimChars_append_blanks hfront]
  have hread := (wellFormed_challenge hbytes).foldl_parts []
  rw [Challenge.readItem, htrim, toList_headerText]
  exact hread

theorem uncut_gaps
    {token : Token} (hbytes : token.bytes ≠ []) {front back : List Char}
    (hfront : ∀ c ∈ front, Text.isBlank c = true) (hback : ∀ c ∈ back, Text.isBlank c = true) :
    Challenge.Uncut false (front ++ token.headerText.toList ++ back) false := by
  have htoken : Challenge.Uncut false token.headerText.toList false := by
    rw [toList_headerText]
    exact (wellFormed_challenge hbytes).uncut_parts _ List.mem_cons_self
  exact ((Challenge.uncut_of_blank hfront).append htoken).append (Challenge.uncut_of_blank hback)

theorem isWhole_gaps
    {token : Token} (hbytes : token.bytes ≠ []) {front back : List Char}
    (hfront : ∀ c ∈ front, Text.isBlank c = true) (hback : ∀ c ∈ back, Text.isBlank c = true) :
    Challenge.IsWhole (front ++ token.headerText.toList ++ back) ∧
      Challenge.readChars (front ++ token.headerText.toList ++ back) = [token.challenge] := by
  have hread := readItem_gaps hbytes hfront hback
  have huncut := uncut_gaps hbytes hfront hback
  have hitems := huncut []
  rw [List.append_nil, Challenge.split, Challenge.grow_cons, List.append_nil] at hitems
  refine ⟨⟨huncut.isClosed, ?_⟩, ?_⟩
  · rw [Challenge.items, hitems]
    refine Challenge.beginsAnew_cons ?_ []
    rw [hread]
    exact List.cons_ne_nil _ _
  · rw [Challenge.readChars, Challenge.items, hitems, List.foldl_cons, hread]
    rfl

theorem readChars_among_wholes
    {token : Token} (hbytes : token.bytes ≠ []) {before behind : List (List Char)}
    (hothers : ∀ other ∈ before ++ behind, Challenge.IsWhole other) {front back : List Char}
    (hblank : ∀ c ∈ front ++ back, Text.isBlank c = true) :
    Challenge.readChars
        (Text.joinPieces ',' (before ++ (front ++ token.headerText.toList ++ back) :: behind)) =
      before.flatMap Challenge.readChars ++
        token.challenge :: behind.flatMap Challenge.readChars := by
  obtain ⟨hbefore, hbehind⟩ := List.forall_mem_append.mp hothers
  obtain ⟨hfront, hback⟩ := List.forall_mem_append.mp hblank
  obtain ⟨hwhole, hread⟩ := isWhole_gaps hbytes hfront hback
  have hall : ∀ text ∈ before ++ (front ++ token.headerText.toList ++ back) :: behind,
      Challenge.IsWhole text :=
    List.forall_mem_append.mpr ⟨hbefore, List.forall_mem_cons.mpr ⟨hwhole, hbehind⟩⟩
  rw [(Challenge.readChars_joinPieces hall).1, List.flatMap_append, List.flatMap_cons, hread]
  rfl

theorem readChars_among_challenges
    {token : Token} (hbytes : token.bytes ≠ []) {before behind : List Challenge}
    (hothers : ∀ other ∈ before ++ behind, Challenge.WellFormed other) :
    Challenge.readChars (Challenge.separated
        (before.map Challenge.write ++ token.headerText.toList :: behind.map Challenge.write)) =
      before ++ token.challenge :: behind := by
  obtain ⟨hbefore, hbehind⟩ := List.forall_mem_append.mp hothers
  have hall : ∀ other ∈ before ++ token.challenge :: behind, Challenge.WellFormed other :=
    List.forall_mem_append.mpr
      ⟨hbefore, List.forall_mem_cons.mpr ⟨wellFormed_challenge hbytes, hbehind⟩⟩
  have htexts : before.map Challenge.write ++ token.headerText.toList ::
      behind.map Challenge.write = (before ++ token.challenge :: behind).map Challenge.write := by
    rw [List.map_append, List.map_cons, toList_headerText]
  have hwhole : ∀ text ∈ (before ++ token.challenge :: behind).map Challenge.write,
      Challenge.IsWhole text :=
    List.forall_mem_map.mpr fun other hother => (hall other hother).isWhole_write
  rw [htexts, Challenge.readChars_separated hwhole, Challenge.flatMap_readChars_write hall]

/-- No token is lost on its way through headers and challenges, and no other text is taken for it. -/
theorem framing_lossless :
    (∀ token : Token, token.bytes ≠ [] →
      (∃ value, token.header = .ok value ∧ value.text? = some token.headerText.toList) ∧
      Challenge.read token.headerText = [token.challenge] ∧
      token.challenge.isNegotiate = true ∧ token.challenge.params = [] ∧
      token.challenge.negotiateToken = .ok (some token) ∧
      (∀ before behind : List Challenge,
        (∀ other ∈ before ++ behind, Challenge.WellFormed other) →
        Challenge.readChars (Challenge.separated (before.map Challenge.write ++
            token.headerText.toList :: behind.map Challenge.write)) =
          before ++ token.challenge :: behind) ∧
      ∀ before behind : List (List Char),
        (∀ other ∈ before ++ behind, Challenge.IsWhole other) →
        ∀ front back : List Char,
          (∀ c ∈ front ++ back, Text.isBlank c = true) →
          Challenge.readChars
              (Text.joinPieces ',' (before ++ (front ++ token.headerText.toList ++ back) :: behind)) =
            before.flatMap Challenge.readChars ++
              token.challenge :: behind.flatMap Challenge.readChars) ∧
      ∀ (text : String) (token : Token),
        ofBase64 text = .ok token → token.bytes ≠ [] ∧ token.base64 = Text.trim text := by
  refine ⟨fun token hbytes => ?_, fun text token => of_ofBase64⟩
  have halone := (isWhole_gaps hbytes (List.forall_mem_nil _) (List.forall_mem_nil _)).2
  rw [List.nil_append, List.append_nil] at halone
  exact ⟨header_eq_ok hbytes, halone, isNegotiate_challenge token, rfl,
    negotiateToken_challenge hbytes, fun _ _ => readChars_among_challenges hbytes,
    fun _ _ hothers _ _ => readChars_among_wholes hbytes hothers⟩

theorem framing_lossless_three :
    let token : Token := ⟨[1, 2, 255]⟩
    token.bytes ≠ [] ∧ Challenge.read "Negotiate AQL/" = [token.challenge] ∧
      token.challenge.negotiateToken = .ok (some token) ∧
      Challenge.read "Basic realm=\"a, b\", Negotiate AQL/, NTLM" =
        [⟨"Basic", none, [("realm", "a, b")]⟩, token.challenge, .bare "NTLM"] ∧
      Challenge.read "NTLM,Digest realm=a, nonce=\",\",  Negotiate AQL/ ,Basic" =
        [.bare "NTLM", ⟨"Digest", none, [("realm", "a"), ("nonce", ",")]⟩, token.challenge,
          .bare "Basic"] ∧
      ofBase64 " AQL/\n" = .ok token ∧ token.base64 = Text.trim " AQL/\n" := by
  intro token
  have hbytes : token.bytes ≠ [] := by decide
  have hread : ofBase64 " AQL/\n" = .ok token := by rfl
  obtain ⟨_, halone, _, _, hback, hlisted, hwholes⟩ := framing_lossless.1 token hbytes
  have hbasic : Challenge.WellFormed ⟨"Basic", none, [("realm", "a, b")]⟩ :=
    .params _ _ (by decide) (by decide) (by simp only [List.forall_mem_cons]; decide)
  have hntlm : Challenge.WellFormed (.bare "NTLM") := .bare _ (by decide)
  have hlist := hlisted [⟨"Basic", none, [("realm", "a, b")]⟩] [.bare "NTLM"]
    (by simpa using ⟨hbasic, hntlm⟩)
  have hjoin := hwholes ["NTLM".toList, "Digest realm=a, nonce=\",\"".toList] ["Basic".toList]
    (by decide) "  ".toList " ".toList (Text.forall_mem_of_all (by decide))
  refine ⟨hbytes, halone, hback, ?_, ?_, hread, (framing_lossless.2 _ token hread).2⟩
  · have htext : Challenge.separated ([⟨"Basic", none, [("realm", "a, b")]⟩].map Challenge.write ++
        token.headerText.toList :: [Challenge.bare "NTLM"].map Challenge.write) =
        "Basic realm=\"a, b\", Negotiate AQL/, NTLM".toList := by decide
    rw [Challenge.read, ← htext]
    exact hlist
  · have htext : Text.joinPieces ',' (["NTLM".toList, "Digest realm=a, nonce=\",\"".toList] ++
        ("  ".toList ++ token.headerText.toList ++ " ".toList) :: ["Basic".toList]) =
        "NTLM,Digest realm=a, nonce=\",\",  Negotiate AQL/ ,Basic".toList := by decide
    rw [Challenge.read, ← htext, hjoin]
    decide

end Token

end ProxyHandshake
