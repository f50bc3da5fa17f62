import ProxyHandshake.Proofs.Location

/-!
# The mark of files

A location may begin with a mark that says that it is a file.  For a ticket cache the validation takes the
mark away, as the check of the environment does for all locations, and looks for the file behind it; bytes
that are no text are replaced on the way.  For a keytab it looks for a file whose name begins with the mark.
Where no name does, a marked keytab never passes, though the file is there.
-/

namespace ProxyHandshake

/-! ## Bytes of small characters -/

namespace Utf8

theorem readTail_isSuffix (low high : UInt8) (count bits : Nat) (bytes : Bytes) :
    (readTail low high count bits bytes).2 <:+ bytes := by
  induction count generalizing low high bits bytes with
  | zero => exact List.suffix_refl bytes
  | succ count ih =>
      cases bytes with
      | nil => exact List.suffix_refl []
      | cons b rest =>
          rw [readTail]
          split
          · exact (ih _ _ _ rest).trans (List.suffix_cons b rest)
          · exact List.suffix_refl _

theorem readChar_isSuffix (b : UInt8) (rest : Bytes) : (readChar b rest).2 <:+ rest := by
  unfold readChar
  split
  · exact List.suffix_refl rest
  · split
    · exact List.suffix_refl rest
    · exact readTail_isSuffix ..

/-- A small character is shown only where its byte is. -/
theorem mem_of_mem_decodeLossy {c : Char} (hc : c.toNat < 0x80) {bytes : Bytes}
    (hmem : c ∈ (decodeLossy bytes).toList) : UInt8.ofNat c.toNat ∈ bytes := by
  rw [toList_decodeLossy] at hmem
  fun_induction read bytes with
  | case1 => cases hmem
  | case2 b rest ih =>
      rw [List.map_cons, List.mem_cons] at hmem
      rcases hmem with hfirst | hmem
      · rw [(readChar_getD_eq_iff hc b rest).mp hfirst]
        exact List.mem_cons_self
      · exact List.mem_cons_of_mem b ((readChar_isSuffix b rest).mem (ih hmem))

/-- Whether the bytes are a text. -/
def IsText (bytes : Bytes) : Prop :=
  ∃ chars, bytes = encodeChars chars

end Utf8

/-! ## Names on the way to a file -/

theorem Text.exists_pieces_append
    {α : Type} {p : α → Bool} {front : List α} (hfront : ∀ a ∈ front, p a = false) (list : List α) :
    ∃ first others, pieces p (front ++ list) = (front ++ first) :: others := by
  induction front with
  | nil => exact List.exists_cons_of_ne_nil (pieces_ne_nil p list)
  | cons a front ih =>
      obtain ⟨ha, hfront⟩ := List.forall_mem_cons.mp hfront
      obtain ⟨first, others, hpieces⟩ := ih hfront
      refine ⟨first, others, ?_⟩
      rw [List.cons_append, pieces, ha, hpieces]
      rfl

theorem Text.behind?_eq_none
    {α : Type} [DecidableEq α] {a : α} {start list : List α} (hstart : a ∈ start) (hlist : a ∉ list) :
    behind? start list = none := by
  fun_induction behind? start list with
  | case1 => cases hstart
  | case2 => rfl
  | case3 b start list ih =>
      rw [List.mem_cons, not_or] at hlist
      exact ih ((List.mem_cons.mp hstart).resolve_left hlist.1) hlist.2
  | case4 => rfl

/-- Whether some directory of the tree has an entry called `name`. -/
inductive FileNode.Holds (name : Bytes) : FileNode → Prop
  | entry {entries : List (Bytes × FileNode)} {child : FileNode}
      (hentry : entries.lookup name = some child) : Holds name (.directory entries)
  | deeper {entries : List (Bytes × FileNode)} {other : Bytes} {child : FileNode}
      (hentry : entries.lookup other = some child) (hchild : Holds name child) :
      Holds name (.directory entries)

/-- A name on the way to a file is held by one of the directories, unless it says to stay or to go up. -/
theorem FileNode.holds_of_walk
    {name : Bytes} (hname : name ≠ [] ∧ name ≠ sameName ∧ name ≠ parentName)
    {above : List FileNode} {node found : FileNode} {path : List Bytes}
    (hwalk : walk above node path = .ok found) (hmem : name ∈ path) :
    ∃ tree ∈ node :: above, tree.Holds name := by
  fun_induction walk above node path with
  | case1 => cases hmem
  | case2 => cases hwalk
  | case3 above first rest entries hstay ih =>
      have hrest : name ∈ rest := (List.mem_cons.mp hmem).resolve_left fun heq =>
        hstay.elim (heq ▸ hname.1) (heq ▸ hname.2.1)
      exact ih hwalk hrest
  | case4 rest entries _ ih =>
      have hrest : name ∈ rest := (List.mem_cons.mp hmem).resolve_left hname.2.2
      exact ih hwalk hrest
  | case5 rest entries parent others _ ih =>
      have hrest : name ∈ rest := (List.mem_cons.mp hmem).resolve_left hname.2.2
      obtain ⟨tree, htree, hholds⟩ := ih hwalk hrest
      exact ⟨tree, List.mem_cons_of_mem _ htree, hholds⟩
  | case6 => cases hwalk
  | case7 => cases hwalk
  | case8 above first rest entries _ _ _ child hentry ih =>
      rcases List.mem_cons.mp hmem with rfl | hrest
      · exact ⟨.directory entries, List.mem_cons_self, .entry hentry⟩
      · obtain ⟨tree, htree, hholds⟩ := ih hwalk hrest
        rcases List.mem_cons.mp htree with rfl | htree
        · exact ⟨.directory entries, List.mem_cons_self, .deeper hentry hholds⟩
        · exact ⟨tree, htree, hholds⟩

namespace FileSystem

/-- Whether `path` is a file. -/
def HasFile (files : FileSystem) (path : Bytes) : Prop :=
  ∃ content, files.find path = .ok (.file content)

/-- A file is found by walking through the pieces of its path, whatever comes in front of them. -/
theorem HasFile.exists_walk {files : FileSystem} {path : Bytes} (hfile : files.HasFile path) :
    ∃ front found, FileNode.walk [] files.root (front ++ Text.pieces (· == FileNode.slash) path) =
      .ok found := by
  obtain ⟨content, hfind⟩ := hfile
  unfold find at hfind
  simp only at hfind
  repeat' split at hfind
  · cases hfind
  · cases hfind
  · cases hfind
  · exact ⟨[], _, hfind⟩
  · exact ⟨files.workingDirectory, _, hfind⟩

end FileSystem

/-! ## Locations with a mark -/

namespace Credentials

open Text

/-- A location behind the mark of files. -/
def marked (path : Bytes) : Bytes :=
  Utf8.encodeChars fileMark ++ path

/-- The path that is looked for in place of a marked one: what is shown of it. -/
def shownPath (path : Bytes) : Bytes :=
  Utf8.encode (Utf8.decodeLossy path)

theorem shownPath_eq_self_iff {path : Bytes} : shownPath path = path ↔ Utf8.IsText path := by
  constructor
  · exact fun hsame => ⟨_, hsame.symm⟩
  · rintro ⟨chars, rfl⟩
    rw [shownPath, Utf8.encode, Utf8.toList_decodeLossy_encodeChars]

/-- The byte that ends the mark. -/
def colon : UInt8 := 58

theorem small_of_mem_fileMark : ∀ c ∈ fileMark, c.toNat < 0x80 :=
  forall_mem_of_all (by decide)

section

variable {path : Bytes} (hpath : colon ∉ path)

include hpath

theorem withoutMark_of_not_mem : withoutMark path = path := by
  have hmark : colon ∈ Utf8.encodeChars fileMark := by decide
  rw [withoutMark, behind?_eq_none hmark hpath, Option.getD_none]

theorem cacheFile?_of_not_mem : cacheFile? path = some path := by
  have hshown : ':' ∉ (Utf8.decodeLossy path).toList := fun hmem =>
    hpath (Utf8.mem_of_mem_decodeLossy (by decide) hmem)
  have hmark : ':' ∈ fileMark := by decide
  simp only [cacheFile?, behind?_eq_none hmark hshown,
    cutFirst?_eq_none (beq_eq_false_of_mem hshown)]

end

theorem cacheFile?_marked (path : Bytes) : cacheFile? (marked path) = some (shownPath path) := by
  simp only [cacheFile?, Utf8.behind?_decodeLossy small_of_mem_fileMark, marked, behind?_append,
    Option.map_some]
  rfl

/-! ## Validation -/

variable {files : FileSystem}

theorem requireFile_eq_ok_iff {kind : CredentialFile} {path : Bytes} :
    requireFile files kind path = .ok () ↔ files.HasFile path := by
  unfold requireFile FileSystem.HasFile
  cases hfind : files.find path with
  | error cause => simp
  | ok node => cases node <;> simp [FileNode.isFile]

theorem validate_ticketCache {path file : Bytes} (hfile : cacheFile? path = some file) :
    (Credentials.ticketCache path).validate files = requireFile files .ticketCache file := by
  simp only [validate, hfile]

/-- Whether the validation says the same of two sources. -/
def AgreeOn (files : FileSystem) (a b : Credentials) : Prop :=
  a.validate files = .ok () ↔ b.validate files = .ok ()

/-- Whether the check of the environment does. -/
def AreSameLocation (a b : Credentials) : Prop :=
  ∀ environment, a.checkLocation environment = .ok () ↔ b.checkLocation environment = .ok ()

theorem areSameLocation_of_location
    {a b : Credentials} {name : String} {expected other : Bytes}
    (ha : a.location? = some (name, expected)) (hb : b.location? = some (name, other))
    (hsame : withoutMark expected = withoutMark other) : AreSameLocation a b := fun environment => by
  rw [checkLocation_eq_ok_iff ha, checkLocation_eq_ok_iff hb, hsame]

end Credentials

/-- Whether no name in the file system begins with the mark of files. -/
def FileSystem.IsUnmarked (files : FileSystem) : Prop :=
  ∀ rest, ¬ files.root.Holds (Credentials.marked rest)

theorem FileSystem.IsUnmarked.not_hasFile_marked
    {files : FileSystem} (hfiles : files.IsUnmarked) (path : Bytes) :
    ¬ files.HasFile (Credentials.marked path) := by
  intro hfile
  obtain ⟨front, found, hwalk⟩ := hfile.exists_walk
  have hmark : ∀ b ∈ Utf8.encodeChars Credentials.fileMark, (b == FileNode.slash) = false :=
    Text.forall_mem_of_all (by decide)
  obtain ⟨first, others, hpieces⟩ := Text.exists_pieces_append hmark path
  have hmem : Credentials.marked first ∈
      front ++ Text.pieces (· == FileNode.slash) (Credentials.marked path) := by
    rw [Credentials.marked, Credentials.marked, hpieces]
    exact List.mem_append_right front List.mem_cons_self
  have hname : Credentials.marked first ≠ [] ∧ Credentials.marked first ≠ FileNode.sameName ∧
      Credentials.marked first ≠ FileNode.parentName := by
    refine ⟨?_, ?_, ?_⟩ <;> rintro ⟨⟩
  obtain ⟨tree, htree, hholds⟩ := FileNode.holds_of_walk hname hwalk hmem
  obtain rfl := List.mem_singleton.mp htree
  exact hfiles first hholds

namespace Credentials

/-- A ticket cache passes with the mark if what is shown of its path is a file, which is the same path if it
is a text.  A keytab passes with the mark if the mark is a part of its name.  So where no name begins with
the mark, the validation says the same of both spellings only of a keytab that is not there.  To the check of
the environment they are the same location, for both kinds of sources. -/
theorem agreeOn_marked_iff
    (files : FileSystem) {path : Bytes} (hpath : colon ∉ path) (principal : Option String) :
    (AgreeOn files (.ticketCache (marked path)) (.ticketCache path) ↔
        (files.HasFile (shownPath path) ↔ files.HasFile path)) ∧
      (Utf8.IsText path →
        (Credentials.ticketCache (marked path)).validate files =
          (Credentials.ticketCache path).validate files) ∧
      (AgreeOn files (.keytab (marked path) principal) (.keytab path principal) ↔
        (files.HasFile (marked path) ↔ files.HasFile path)) ∧
      (files.IsUnmarked →
        (AgreeOn files (.keytab (marked path) principal) (.keytab path principal) ↔
          ¬ files.HasFile path)) ∧
      AreSameLocation (.ticketCache (marked path)) (.ticketCache path) ∧
      AreSameLocation (.keytab (marked path) principal) (.keytab path principal) := by
  have hcache : (Credentials.ticketCache path).validate files =
      requireFile files .ticketCache path :=
    validate_ticketCache (cacheFile?_of_not_mem hpath)
  have hmarked : (Credentials.ticketCache (marked path)).validate files =
      requireFile files .ticketCache (shownPath path) :=
    validate_ticketCache (cacheFile?_marked path)
  have hkeytab : AgreeOn files (.keytab (marked path) principal) (.keytab path principal) ↔
      (files.HasFile (marked path) ↔ files.HasFile path) := by
    rw [AgreeOn, validate, validate, requireFile_eq_ok_iff, requireFile_eq_ok_iff]
  have hsame : withoutMark (marked path) = withoutMark path := by
    rw [marked, withoutMark_append, withoutMark_of_not_mem hpath]
  refine ⟨?_, fun htext => ?_, hkeytab, fun hfiles => ?_, ?_, ?_⟩
  · rw [AgreeOn, hcache, hmarked, requireFile_eq_ok_iff, requireFile_eq_ok_iff]
  · rw [hcache, hmarked, shownPath_eq_self_iff.mpr htext]
  · rw [hkeytab, iff_false_left (hfiles.not_hasFile_marked path)]
  · exact areSameLocation_of_location rfl rfl hsame
  · exact areSameLocation_of_location rfl rfl hsame

/-! ### A keytab that is there, and a cache that is not -/

theorem isUnmarked_of_single {path content : Bytes} (hpath : ∀ rest, marked rest ≠ path) :
    FileSystem.IsUnmarked ⟨.directory [(path, .file content)], []⟩ := by
  intro rest hholds
  cases hholds with
  | entry hentry =>
      rw [List.lookup_cons, beq_eq_false_iff_ne.mpr (hpath rest)] at hentry
      cases hentry
  | deeper hentry hchild =>
      rw [List.lookup_cons] at hentry
      split at hentry
      · cases hentry
        cases hchild
      · cases hentry

/-- The keytab is found under its plain name only.  The cache with a byte that is no text is found under
the marked one only, since there it is shown like the file. -/
theorem agreeOn_marked_iff_present :
    let keytab := Utf8.encode "client.keytab"
    let shown := Utf8.encode "k\uFFFD"
    ¬ AgreeOn ⟨.directory [(keytab, .file [5, 2])], []⟩ (.keytab (marked keytab) none)
        (.keytab keytab none) ∧
      ¬ AgreeOn ⟨.directory [(shown, .file [])], []⟩ (.ticketCache (marked [107, 0xFF]))
        (.ticketCache [107, 0xFF]) := by
  have hshown : shownPath [107, 0xFF] = Utf8.encode "k\uFFFD" := by
    simp [shownPath, Utf8.decodeLossy, Utf8.read, Utf8.readChar, Utf8.leadOf?, Utf8.replacement]
  have hkeytabPath : colon ∉ Utf8.encode "client.keytab" := by decide
  have hcachePath : colon ∉ [107, 0xFF] := by decide
  constructor
  · have hunmarked :
        FileSystem.IsUnmarked ⟨.directory [(Utf8.encode "client.keytab", .file [5, 2])], []⟩ :=
      isUnmarked_of_single (by rintro rest ⟨⟩)
    obtain ⟨-, -, -, hkeytab, -⟩ := agreeOn_marked_iff
      ⟨.directory [(Utf8.encode "client.keytab", .file [5, 2])], []⟩ hkeytabPath none
    rw [hkeytab hunmarked, not_not]
    exact ⟨[5, 2], rfl⟩
  · obtain ⟨hcache, -⟩ := agreeOn_marked_iff
      ⟨.directory [(Utf8.encode "k\uFFFD", .file [])], []⟩ hcachePath none
    rw [hcache, hshown]
    intro hagree
    obtain ⟨content, hfound⟩ := hagree.mp ⟨[], rfl⟩
    cases hfound

end Credentials

end ProxyHandshake
