import ProxyHandshake.Proofs.Header
import ProxyHandshake.Request

/-!
# Headers for the next hop

A header is passed on unless its name is one of a fixed list, or a `Connection` header names it, in any
case.  It is passed on with all of its values or with none.
-/

namespace ProxyHandshake

theorem isHopByHop_iff (name : HeaderName) : isHopByHop name.text = true ↔ name ∈ hopHeaders := by
  have hletters (header : HeaderName) :
      Text.sameLetters header.text name.text = true ↔ header = name := by
    rw [Text.sameLetters, header.lowerChars_text, name.lowerChars_text, beq_iff_eq,
      String.toList_inj, HeaderName.mk.injEq]
  simp only [isHopByHop, List.any_eq_true, hletters]
  exact ⟨fun ⟨header, hmem, heq⟩ => heq ▸ hmem, fun hmem => ⟨name, hmem, rfl⟩⟩

theorem Headers.values_withoutHops
    (headers : Headers) {name : HeaderName} (hname : isHopByHop name.text = true ∨ name = .host) :
    headers.withoutHops.values name = [] := by
  rw [withoutHops, values_foldl_remove, if_pos]
  rcases hname with hhop | rfl
  · have hmem := (isHopByHop_iff name).mp hhop
    simp [hmem]
  · simp

/-! ## Names in the `Connection` header -/

/-- Whether `spelling`, with blanks around it, is one of the texts between the commas of `text`. -/
def Text.IsListed (spelling text : List Char) : Prop :=
  ∃ elements left right,
    text = joinPieces ',' elements ∧ (∀ element ∈ elements, ',' ∉ element) ∧
      left ++ spelling ++ right ∈ elements ∧ ∀ c ∈ left ++ right, isBlank c = true

/-- Whether a value of the `Connection` header, other than those with bytes that are not plain, lists
`name` in any case. -/
def Headers.Mentions (headers : Headers) (name : HeaderName) : Prop :=
  ∃ value ∈ headers.values .connection, ∃ text spelling,
    value.bytes = Utf8.encodeChars text ∧ Text.IsPlain text ∧
      Text.IsListed spelling text ∧ Text.lowerChars spelling = name.text.toList

theorem HeaderName.ofText?_eq_some_iff_of_short
    {name : HeaderName} (hshort : name.text.length ≤ longest) (spelling : List Char) :
    ofText? (String.ofList spelling) = some name ↔
      Text.lowerChars spelling = name.text.toList := by
  constructor
  · intro hread
    rw [← (ofText?_eq_some_iff.mp hread).1, Text.lower, String.toList_ofList, String.toList_ofList]
  · intro hspelled
    have hlength : spelling.length = name.text.length := by
      rw [← String.length_toList, ← hspelled, Text.lowerChars, List.length_map]
    exact ofText?_spelling hspelled (hlength ▸ hshort)

/-- What is listed is what is between commas, trimmed. -/
theorem Text.isListed_iff {spelling : List Char} (hspelling : trimChars spelling = spelling)
    (text : List Char) :
    IsListed spelling text ↔ ∃ piece ∈ pieces (· == ',') text, trimChars piece = spelling := by
  constructor
  · rintro ⟨elements, left, right, rfl, helements, hmem, hgaps⟩
    obtain ⟨hleft, hright⟩ := List.forall_mem_append.mp hgaps
    refine ⟨left ++ spelling ++ right, ?_, ?_⟩
    · rwa [pieces_joinPieces (List.ne_nil_of_mem hmem) helements]
    · rw [trimChars_append_right hright, trimChars_append_blanks hleft, hspelling]
  · rintro ⟨piece, hpiece, rfl⟩
    obtain ⟨left, right, hwhole, hgaps⟩ := exists_gaps piece
    exact ⟨pieces (· == ',') text, left, right, (joinPieces_pieces ',' text).symm,
      fun _ => not_mem_of_mem_pieces, hwhole ▸ hpiece, hgaps⟩

theorem mem_namesIn_iff
    {name : HeaderName} (hshort : name.text.length ≤ HeaderName.longest) (value : HeaderValue) :
    name ∈ namesIn value ↔
      ∃ text spelling, value.bytes = Utf8.encodeChars text ∧ Text.IsPlain text ∧
        Text.IsListed spelling text ∧ Text.lowerChars spelling = name.text.toList := by
  have hnames : name ∈ namesIn value ↔
      ∃ text, value.text? = some text ∧ ∃ piece ∈ Text.pieces (· == ',') text,
        Text.lowerChars (Text.trimChars piece) = name.text.toList := by
    rw [namesIn]
    cases value.text? with
    | none => simp
    | some text => simp [List.mem_filterMap, HeaderName.ofText?_eq_some_iff_of_short hshort]
  rw [hnames]
  constructor
  · rintro ⟨text, hread, piece, hpiece, hspelled⟩
    obtain ⟨hbytes, hplain⟩ := HeaderValue.text?_eq_some_iff.mp hread
    have hlisted := (Text.isListed_iff (Text.trimChars_trimChars piece) text).mpr ⟨piece, hpiece, rfl⟩
    exact ⟨text, _, hbytes, hplain, hlisted, hspelled⟩
  · rintro ⟨text, spelling, hbytes, hplain, hlisted, hspelled⟩
    have htrim := HeaderName.trimChars_of_spelled hspelled
    obtain ⟨piece, hpiece, rfl⟩ := (Text.isListed_iff htrim text).mp hlisted
    exact ⟨text, HeaderValue.text?_eq_some_iff.mpr ⟨hbytes, hplain⟩, piece, hpiece, hspelled⟩

theorem Headers.mem_namedByConnection_iff
    {name : HeaderName} (hshort : name.text.length ≤ HeaderName.longest) (headers : Headers) :
    name ∈ headers.namedByConnection ↔ headers.Mentions name := by
  simp only [namedByConnection, List.mem_flatMap, mem_namesIn_iff hshort, Mentions]

/-! ## What is passed on -/

namespace Headers

/-- Headers that are passed on are passed on again by the next one. -/
theorem withoutHops_withoutHops (headers : Headers) :
    headers.withoutHops.withoutHops = headers.withoutHops := by
  have hunnamed : headers.withoutHops.namedByConnection = [] := by
    rw [namedByConnection, headers.values_withoutHops (.inl (by decide)), List.flatMap_nil]
  rw [withoutHops, hunnamed, List.nil_append, foldl_remove]
  refine congrArg mk (List.filter_eq_self.mpr fun entry hentry => decide_eq_true ?_)
  have hname : entry.1 ∈ headers.withoutHops.names := List.mem_map_of_mem hentry
  have hkept := ((mem_names_foldl_remove _ headers entry.1).mp hname).2
  rw [List.append_assoc, List.mem_append, not_or] at hkept
  exact hkept.2

theorem mem_removed_iff
    {name : HeaderName} (hshort : name.text.length ≤ HeaderName.longest) (headers : Headers) :
    name ∈ headers.namedByConnection ++ hopHeaders ++ [.host] ↔
      headers.Mentions name ∨ name ∈ hopHeaders ∨ name = .host := by
  rw [List.append_assoc, List.mem_append, List.mem_append, List.mem_singleton,
    mem_namedByConnection_iff hshort]

/-- A header is passed on unless it is hop-by-hop, the name of the target, or mentioned in a `Connection`
header.  It keeps all its values, and what is passed on has nothing more to lose.  (No header that can be
read has a name longer than `HeaderName.longest`.) -/
theorem withoutHops_keeps (headers : Headers) :
    let kept := headers.withoutHops
    (∀ name : HeaderName, isHopByHop name.text = true ↔ name ∈ hopHeaders) ∧
    (∀ name : HeaderName, name.text.length ≤ HeaderName.longest →
      (name ∈ kept.names ↔
        name ∈ headers.names ∧ name ∉ hopHeaders ∧ name ≠ .host ∧ ¬ headers.Mentions name)) ∧
    (∀ name ∈ kept.names, kept.values name = headers.values name) ∧
    kept.withoutHops = kept := by
  intro kept
  refine ⟨isHopByHop_iff, fun name hshort => ?_, fun name hname => ?_, headers.withoutHops_withoutHops⟩
  · refine (mem_names_foldl_remove _ headers name).trans (and_congr_right fun _ => ?_)
    rw [mem_removed_iff hshort, not_or, not_or, and_comm, and_assoc]
  · have hkept := ((mem_names_foldl_remove _ headers name).mp hname).2
    exact (values_foldl_remove _ headers name).trans (if_neg hkept)

/-- A name is mentioned in capitals; a value with a letter beyond ASCII mentions nothing. -/
theorem withoutHops_keeps_unmentioned :
    let accept : HeaderName := ⟨"accept", by decide⟩
    let trace : HeaderName := ⟨"x-trace", by decide⟩
    let value := fun (text : String) (hlegal : (Utf8.encode text).all isHeaderByte = true) =>
      (⟨Utf8.encode text, hlegal, false⟩ : HeaderValue)
    let headers : Headers :=
      ⟨[(accept, value "text/html" (by decide)), (.connection, value "close,\t X-TRACE ,," (by decide)),
        (trace, value "1" (by decide)), (.te, value "trailers" (by decide)),
        (.connection, value "accept, é" (by decide)), (trace, value "2" (by decide)),
        (.host, value "elsewhere" (by decide)), (accept, value "*/*" (by decide))]⟩
    headers.Mentions trace ∧ trace ∉ headers.withoutHops.names ∧ ¬ headers.Mentions accept ∧
      headers.withoutHops.values accept =
        [value "text/html" (by decide), value "*/*" (by decide)] ∧
      headers.withoutHops.withoutHops = headers.withoutHops := by
  intro accept trace value headers
  obtain ⟨-, hkept, hvalues, hagain⟩ := withoutHops_keeps headers
  have htrace : headers.Mentions trace := by
    refine ⟨_, List.mem_cons_self, "close,\t X-TRACE ,,".toList, "X-TRACE".toList, rfl,
      Text.forall_mem_of_all (by decide), ?_, by decide⟩
    exact (Text.isListed_iff (by decide) _).mpr ⟨"\t X-TRACE ".toList, by decide, by decide⟩
  have haccept : accept ∈ headers.withoutHops.names := by decide
  refine ⟨htrace, fun hmem => ?_, ((hkept accept (by decide)).mp haccept).2.2.2, ?_, hagain⟩
  · exact ((hkept trace (by decide)).mp hmem).2.2.2 htrace
  · exact hvalues accept haccept

end Headers

end ProxyHandshake
