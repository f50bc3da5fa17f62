import ProxyHandshake.Proofs.Url.Host

/-!
# What URLs are read with

A URL that was read from a text has one of the hosts that can be read, or none and then no password.  The
path of a web address begins with a slash.
-/

namespace ProxyHandshake

/-! ## Paths -/

namespace Url

theorem walk_ne_nil {segments : List (List Char)} (hsegments : segments ≠ [])
    (done : List (List Char)) : walk done segments ≠ [] := by
  induction segments generalizing done with
  | nil => exact absurd rfl hsegments
  | cons segment rest ih =>
      cases rest with
      | nil =>
          -- The last segment leaves something behind, if only an empty segment.
          simp only [walk]
          split
          · exact List.cons_ne_nil _ _
          · split <;> exact List.cons_ne_nil _ _
      | cons next rest =>
          rw [walk]
          split
          · exact ih (List.cons_ne_nil _ _) _
          · split <;> exact ih (List.cons_ne_nil _ _) _

theorem readSegments_web_ne_nil (text : List Char) : readSegments .web text ≠ [] := by
  have hraw : (Text.pieces (isSlash .web) text).map (Percent.encodeChars Percent.pathSet) ≠ [] :=
    fun hnone => Text.pieces_ne_nil _ _ (List.map_eq_nil_iff.mp hnone)
  have hwalk := walk_ne_nil hraw []
  simpa [readSegments] using hwalk

theorem text_segmentPath {segments : List (List Char)} (hsegments : segments ≠ []) :
    ∃ rest, (segmentPath segments).text = "/" ++ rest := by
  obtain ⟨segment, others, rfl⟩ := List.exists_cons_of_ne_nil hsegments
  exact ⟨_, String.append_assoc ..⟩

/-! ## Reading -/

/-- Behind two slashes there is a host.  That of a web address is read by its own rules, and its path has at
least one segment. -/
theorem readBehindSlashes_eq_ok
    {scheme : String} {kind : SchemeKind} {text : List Char} {url : Url}
    (hread : readBehindSlashes scheme kind text = .ok url) :
    url.scheme = scheme ∧ (∃ host, url.host = some host ∧ host.IsRead) ∧
      (kind = .web →
        (∃ host place, url.host = some host ∧ Host.parse place = .ok host) ∧
          ∃ segments, segments ≠ [] ∧ url.path = segmentPath segments) := by
  simp only [readBehindSlashes, bind, Except.bind, pure, Except.pure, throw, throwThe,
    MonadExceptOf.throw] at hread
  repeat' split at hread
  all_goals cases hread
  all_goals
    refine ⟨rfl, ⟨_, rfl, _, by first | exact .inl ‹_› | exact .inr ‹_›⟩, ?_⟩
    rintro rfl
    first
      | cases ‹SchemeKind.web = SchemeKind.other›
      | exact ⟨⟨_, _, rfl, ‹_›⟩, _, List.cons_ne_nil _ _, rfl⟩
      | exact ⟨⟨_, _, rfl, ‹_›⟩, _, readSegments_web_ne_nil _, rfl⟩

theorem isRead_of_readFileHost {text : List Char} {host : Host} (hread : readFileHost text = .ok host) :
    host = .domain "" ∨ host.IsRead := by
  unfold readFileHost at hread
  split at hread
  · exact .inl (Except.ok.inj hread).symm
  · split at hread
    · exact .inl (Except.ok.inj hread).symm
    · exact .inr ⟨text, .inl hread⟩

theorem readFile_eq_ok {text : List Char} {url : Url} (hread : readFile text = .ok url) :
    url.scheme = "file" ∧ ∃ host, url.host = some host ∧ (host = .domain "" ∨ host.IsRead) := by
  unfold readFile at hread
  simp only [bind, Except.bind, pure, Except.pure] at hread
  repeat' split at hread
  all_goals cases hread
  all_goals
    exact ⟨rfl, _, rfl, by first | exact .inl rfl | exact isRead_of_readFileHost ‹_›⟩

/-- The ways in which a URL is read. -/
theorem parse_cases {text : String} {url : Url} (hparse : parse text = .ok url) :
    (∃ rest, readFile rest = .ok url) ∨
      (∃ scheme rest, readBehindSlashes scheme (SchemeKind.of scheme) rest = .ok url) ∨
      ∃ scheme rest, SchemeKind.of scheme = .other ∧ readHostless scheme rest = url := by
  unfold parse at hparse
  simp only [bind, Except.bind, pure, Except.pure] at hparse
  split at hparse
  · cases hparse
  · split at hparse
    · exact .inl ⟨_, hparse⟩
    next hkind => exact .inr (.inl ⟨_, _, hkind ▸ hparse⟩)
    next hkind =>
      split at hparse
      · exact .inr (.inl ⟨_, _, hkind ▸ hparse⟩)
      · exact .inr (.inr ⟨_, _, hkind, Except.ok.inj hparse⟩)

/-- The host of a URL that was read is one of those that can be read. -/
theorem isRead_of_parse {text : String} {url : Url} (hparse : parse text = .ok url) :
    ∀ host ∈ url.host?, host.IsRead := by
  intro host hhost
  obtain ⟨hsame, hnonempty⟩ := Option.filter_eq_some_iff.mp hhost
  rcases parse_cases hparse with ⟨rest, hread⟩ | ⟨scheme, rest, hread⟩ | ⟨scheme, rest, -, rfl⟩
  · obtain ⟨-, other, hother, hfile⟩ := readFile_eq_ok hread
    obtain rfl := Option.some.inj (hsame.symm.trans hother)
    rcases hfile with rfl | hread
    · cases hnonempty
    · exact hread
  · obtain ⟨-, ⟨other, hother, hread⟩, -⟩ := readBehindSlashes_eq_ok hread
    obtain rfl := Option.some.inj (hsame.symm.trans hother)
    exact hread
  · cases hsame

/-- Where a URL has a password, it has a place for a host. -/
theorem host_isSome_of_parse
    {text : String} {url : Url} (hparse : parse text = .ok url)
    (hpassword : url.password.isSome = true) : url.host.isSome = true := by
  rcases parse_cases hparse with ⟨rest, hread⟩ | ⟨scheme, rest, hread⟩ | ⟨scheme, rest, -, rfl⟩
  · obtain ⟨-, host, hhost, -⟩ := readFile_eq_ok hread
    rw [hhost, Option.isSome_some]
  · obtain ⟨-, ⟨host, hhost, -⟩, -⟩ := readBehindSlashes_eq_ok hread
    rw [hhost, Option.isSome_some]
  · cases hpassword

section

variable {text : String} {url : Url}

theorem readBehindSlashes_of_parse
    (hparse : parse text = .ok url) (hweb : SchemeKind.of url.scheme = .web) :
    ∃ scheme rest, readBehindSlashes scheme .web rest = .ok url := by
  rcases parse_cases hparse with ⟨rest, hread⟩ | ⟨scheme, rest, hread⟩ | ⟨scheme, rest, hkind, rfl⟩
  · rw [(readFile_eq_ok hread).1] at hweb
    cases hweb
  · obtain ⟨rfl, -, -⟩ := readBehindSlashes_eq_ok hread
    exact ⟨_, rest, hweb ▸ hread⟩
  · cases hkind.symm.trans hweb

/-- The host of a web address is read by the rules for it. -/
theorem host_of_parse (hparse : parse text = .ok url) (hweb : SchemeKind.of url.scheme = .web) :
    ∃ host place, url.host = some host ∧ Host.parse place = .ok host := by
  obtain ⟨scheme, rest, hread⟩ := readBehindSlashes_of_parse hparse hweb
  exact ((readBehindSlashes_eq_ok hread).2.2 rfl).1

/-- The path of a web address begins with a slash. -/
theorem path_of_parse (hparse : parse text = .ok url) (hweb : SchemeKind.of url.scheme = .web) :
    ∃ rest, url.path.text = "/" ++ rest := by
  obtain ⟨scheme, rest, hread⟩ := readBehindSlashes_of_parse hparse hweb
  obtain ⟨-, segments, hsegments, hpath⟩ := (readBehindSlashes_eq_ok hread).2.2 rfl
  rw [hpath]
  exact text_segmentPath hsegments

end

end Url

end ProxyHandshake
