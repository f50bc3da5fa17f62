import ProxyHandshake.Proofs.Url.Sign
import ProxyHandshake.Url.Parser
import Mathlib.Data.List.TakeDrop

/-!
# URLs with a user

A user and his password stand in front of the last sign before the path.  Whatever they are, the rest of a
web address is read in the same way.  Without the two slashes in front of it, the text of a user is read as a
scheme if it can be one, and then the password is the beginning of the host, or of a path.
-/

namespace ProxyHandshake.Url

open Text

/-! ## What users and passwords are written with -/

/-- Characters that end no part of a URL. -/
def isUserChar (c : Char) : Bool :=
  0x20 < c.toNat && !":/\\?#@[".toList.contains c

/-- A text in such characters; letters, digits and the marks `-._~` are among them. -/
def IsUserText (text : List Char) : Prop :=
  ∀ c ∈ text, isUserChar c = true

instance (text : List Char) : Decidable (IsUserText text) :=
  List.decidableBAll _ text

example : IsUserText "AZaz09-._~".toList := by decide

/-! ## Significant characters -/

/-- What belongs to a URL behind the sign is the same whatever stands in front of it. -/
theorem exists_significant {host : List Char} (hhost : '@' ∉ host) :
    ∃ inner, '@' ∉ inner ∧ ∀ front : List Char, (∀ c ∈ front, 0x20 < c.toNat) →
      significant (String.ofList (front ++ '@' :: host)) = front ++ '@' :: inner := by
  let isEdge := fun c : Char => decide (c.toNat ≤ 0x20)
  let isKept := fun c : Char => c ≠ '\t' && c ≠ '\n' && c ≠ '\r'
  refine ⟨(dropEnd isEdge host).filter isKept, ?_, ?_⟩
  · intro hmem
    exact hhost ((dropEnd_isPrefix isEdge host).mem (List.mem_filter.mp hmem).1)
  · intro front hfront
    have hedge : ∀ c ∈ front, isEdge c = false := fun c hc => by simpa [isEdge] using hfront c hc
    have hstart : front.dropWhile isEdge = front :=
      dropWhile_eq_self fun c hc => hedge c (List.mem_of_mem_head? hc)
    have hkept : front.filter isKept = front := by
      rw [List.filter_eq_self]
      intro c hc
      have hvisible := hfront c hc
      have hblank : c ≠ '\t' ∧ c ≠ '\n' ∧ c ≠ '\r' := by
        refine ⟨?_, ?_, ?_⟩ <;> rintro rfl <;> revert hvisible <;> decide
      simp [isKept, hblank]
    calc significant (String.ofList (front ++ '@' :: host))
      _ = (dropEnd isEdge ((front ++ '@' :: host).dropWhile isEdge)).filter isKept := by
          rw [significant, String.toList_ofList]
          rfl
      _ = (front ++ '@' :: dropEnd isEdge host).filter isKept := by
          rw [dropWhile_append_cons (by decide), hstart, dropEnd_append_cons (by decide)]
      _ = front ++ '@' :: (dropEnd isEdge host).filter isKept := by
          rw [List.filter_append, hkept, List.filter_cons_of_pos (by decide)]

/-! ## Schemes -/

def isScheme (name : List Char) : Bool :=
  name.head?.any Char.isAlpha && name.all isSchemeChar

theorem readScheme_append {name : List Char} (hname : ':' ∉ name) (rest : List Char) :
    readScheme (name ++ ':' :: rest) =
      if isScheme name then .ok (String.ofList (lowerChars name), rest) else .error .noScheme := by
  have hcut : cutFirst? (· == ':') (name ++ ':' :: rest) = some (name, rest) :=
    cutFirst?_append (beq_eq_false_of_mem hname) (beq_self_eq_true ':') rest
  cases name with
  | nil => rfl
  | cons c name =>
      rw [List.cons_append] at hcut ⊢
      simp only [readScheme, hcut]
      rfl

theorem colon_not_mem_of_isScheme {name : List Char} (hname : isScheme name = true) :
    ':' ∉ name := by
  intro hmem
  have hchar := List.all_eq_true.mp (Bool.and_eq_true_iff.mp hname).2 ':' hmem
  revert hchar
  decide

/-! ## Users -/

def withUser (url : Url) (user : User) : Url :=
  { url with username := user.username, password := user.password }

theorem hasUser_withUser (url : Url) (user : User) :
    (url.withUser user).hasUser = user.isWritten := rfl

theorem encode_ne_empty (special : List Char) {text : List Char} (htext : text ≠ []) :
    Percent.encode special text ≠ "" := by
  obtain ⟨c, rest, rfl⟩ := List.exists_cons_of_ne_nil htext
  have hchar : Percent.encodeChar special c ≠ [] := by
    rw [Percent.encodeChar]
    split
    · have hlength := String.length_utf8EncodeChar c
      have hpos := c.utf8Size_pos
      obtain ⟨b, bytes, hbytes⟩ : ∃ b bytes, String.utf8EncodeChar c = b :: bytes :=
        List.exists_cons_of_length_pos (by omega)
      rw [hbytes, List.flatMap_cons]
      exact List.cons_ne_nil _ _
    · exact List.cons_ne_nil c []
  simp [Percent.encode, Percent.encodeChars, hchar]

theorem isWritten_readUser {text : List Char} (htext : ':' ∉ text) (hnonempty : text ≠ []) :
    (readUser text).isWritten = true := by
  have hencode := encode_ne_empty Percent.userSet hnonempty
  simp [readUser, cutFirst?_eq_none (beq_eq_false_of_mem htext), User.isWritten, hencode]

theorem isWritten_readUser_append {user secret : List Char} (huser : ':' ∉ user)
    (hsecret : secret ≠ []) : (readUser (user ++ ':' :: secret)).isWritten = true := by
  have hcut := cutFirst?_append (beq_eq_false_of_mem huser) (beq_self_eq_true ':') secret
  obtain ⟨c, rest, rfl⟩ := List.exists_cons_of_ne_nil hsecret
  simp [readUser, hcut, User.isWritten]

/-! ## Behind two slashes -/

/-- Whether nothing in a text ends the part in front of the path. -/
def IsFront (kind : SchemeKind) (front : List Char) : Prop :=
  ∀ c ∈ front, (isSlash kind c || isPathEnd c) = false

theorem IsFront.isPathEnd_eq_false
    {kind : SchemeKind} {front : List Char} (hfront : IsFront kind front) {c : Char} (hc : c ∈ front) :
    isPathEnd c = false :=
  (Bool.or_eq_false_iff.mp (hfront c hc)).2

theorem IsFront.isSlash_eq_false
    {kind : SchemeKind} {front : List Char} (hfront : IsFront kind front) {c : Char} (hc : c ∈ front) :
    isSlash kind c = false :=
  (Bool.or_eq_false_iff.mp (hfront c hc)).1

theorem isFront_append_sign {kind : SchemeKind} {front : List Char} (hfront : IsFront kind front) :
    IsFront kind (front ++ ['@']) := by
  have hsign : isSlash kind '@' = false := by cases kind <;> decide
  intro c hc
  rcases List.mem_append.mp hc with hc | hc
  · exact hfront c hc
  · rw [List.mem_singleton.mp hc, hsign]
    rfl

theorem dropWhile_front
    {kind : SchemeKind} {front : List Char} (hfront : IsFront kind front) (host : List Char) :
    (front ++ '@' :: host).dropWhile (isSlash kind) = front ++ '@' :: host := by
  apply dropWhile_eq_self
  intro c hc
  apply (isFront_append_sign hfront).isSlash_eq_false
  cases front with
  | nil => simpa [eq_comm] using hc
  | cons d front =>
      obtain rfl : d = c := Option.some.inj hc
      exact List.mem_cons_self

theorem cutAuthority_append
    {kind : SchemeKind} {front : List Char} (hfront : IsFront kind front) (host : List Char) :
    cutAuthority kind (front ++ '@' :: host) =
      (front ++ '@' :: (cutAuthority kind host).1, (cutAuthority kind host).2) := by
  have hplain : ∀ c ∈ front ++ ['@'], (!(isSlash kind c || isPathEnd c)) = true := fun c hc => by
    rw [isFront_append_sign hfront c hc, Bool.not_false]
  have hsplit : front ++ '@' :: host = (front ++ ['@']) ++ host := by simp
  simp only [cutAuthority, List.span_eq_takeWhile_dropWhile]
  rw [hsplit, List.takeWhile_append_of_pos hplain, List.dropWhile_append_of_pos hplain]
  simp

theorem sign_not_mem_cutAuthority {kind : SchemeKind} {host : List Char} (hhost : '@' ∉ host) :
    '@' ∉ (cutAuthority kind host).1 := by
  rw [cutAuthority, List.span_eq_takeWhile_dropWhile]
  exact fun hmem => hhost (List.takeWhile_prefix _ |>.mem hmem)

/-- What is read behind a user who is written. -/
def readPlace (scheme : String) (kind : SchemeKind) (place behind : List Char) (user : User) :
    Except UrlError Url :=
  let (hostChars, portChars) := cutPort false place
  if hostChars = [] && kind = .web then .error .emptyHost
  else
    match if kind = .other then Host.parseOpaque hostChars else Host.parse hostChars with
    | .error cause => .error cause
    | .ok host =>
      if hostChars = [] then .error .emptyHost
      else
        let read : Except UrlError (Option Nat × List Char) :=
          match portChars with
          | none => .ok (none, [])
          | some digits => readPort scheme digits
        match read with
        | .error cause => .error cause
        | .ok (port, extra) =>
          let (path, query, fragment) := cutTail kind (extra ++ behind)
          let segments :=
            if kind = .other then
              match path with
              | [] => []
              | c :: rest => readSegments kind (if c = '/' then rest else c :: rest)
            else
              match path with
              | [] => [[]]
              | c :: rest => readSegments kind (if isSlash kind c then rest else c :: rest)
          .ok
            { scheme := scheme, username := user.username, password := user.password
              host := some host, port := port, path := segmentPath segments
              query := query, fragment := fragment }

theorem readBehindSlashes_append
    (scheme : String) {kind : SchemeKind} {host front : List Char} (hhost : '@' ∉ host)
    (hfront : IsFront kind front) (hwritten : (readUser front).isWritten = true) :
    readBehindSlashes scheme kind (front ++ '@' :: host) =
      readPlace scheme kind (cutAuthority kind host).1 (cutAuthority kind host).2
        (readUser front) := by
  have hcut :
      cutLast? (· == '@') (front ++ '@' :: (cutAuthority kind host).1) =
        some (front, (cutAuthority kind host).1) :=
    cutLast?_append (beq_eq_false_of_mem (sign_not_mem_cutAuthority hhost))
      (beq_self_eq_true '@') front
  have hlong : front ++ '@' :: (cutAuthority kind host).1 ≠ ['@'] := by
    intro heq
    cases front with
    | nil => cases hwritten
    | cons c front => simp at heq
  unfold readBehindSlashes readPlace
  rw [cutAuthority_append hfront]
  simp only [hcut, hlong, hwritten, decide_false, Bool.false_and, Bool.false_eq_true, if_false,
    Bool.or_true, Bool.and_true, bind, Except.bind, pure, Except.pure, throw, throwThe,
    MonadExceptOf.throw]
  generalize cutPort false (cutAuthority kind host).1 = cut
  split
  · rfl
  · -- The readers of the two kinds of hosts are followed by the same steps.
    by_cases hkind : kind = .other
    all_goals
      simp only [hkind, if_true, if_false, decide_eq_true_eq]
      split
      next hread => rw [hread]
      next hread =>
        rw [hread]
        simp only
        split
        · rfl
        · cases cut.2 with
          | none => rfl
          | some digits =>
              simp only
              cases readPort scheme digits <;> rfl

theorem readPlace_withUser
    (scheme : String) (kind : SchemeKind) (place behind : List Char) (user other : User) :
    readPlace scheme kind place behind user =
      (readPlace scheme kind place behind other).map fun url => url.withUser user := by
  unfold readPlace
  simp only
  split
  · rfl
  · split
    · rfl
    · split
      · rfl
      · split <;> rfl

/-- Behind two slashes, a user who is written is read beside everything else. -/
theorem readBehindSlashes_eq_map
    (scheme : String) (kind : SchemeKind) {host : List Char} (hhost : '@' ∉ host) :
    ∃ read : Except UrlError Url, ∀ front, IsFront kind front →
      (readUser front).isWritten = true →
        readBehindSlashes scheme kind (front ++ '@' :: host) =
          read.map fun url => url.withUser (readUser front) := by
  refine ⟨readPlace scheme kind (cutAuthority kind host).1 (cutAuthority kind host).2 ⟨"", none⟩,
    fun front hfront hwritten => ?_⟩
  rw [readBehindSlashes_append scheme hhost hfront hwritten]
  exact readPlace_withUser scheme kind _ _ (readUser front) ⟨"", none⟩

/-! ## Files -/

theorem cutTail_append
    (kind : SchemeKind) {front : List Char} (hfront : ∀ c ∈ front, isPathEnd c = false)
    (rest : List Char) : (cutTail kind (front ++ rest)).1 = front ++ (cutTail kind rest).1 := by
  have hcut (mark : Char) (hmark : isPathEnd mark = true) (rest : List Char) :
      cutFirst? (· == mark) (front ++ rest) =
        (cutFirst? (· == mark) rest).map fun cut => (front ++ cut.1, cut.2) :=
    cutFirst?_append_left (fun c hc => by
      rw [beq_eq_false_iff_ne]
      rintro rfl
      rw [hfront c hc] at hmark
      cases hmark) rest
  unfold cutTail
  rw [hcut '#' (by decide)]
  cases cutFirst? (· == '#') rest with
  | none =>
      simp only [Option.map_none]
      rw [hcut '?' (by decide)]
      cases cutFirst? (· == '?') rest <;> rfl
  | some cut =>
      simp only [Option.map_some]
      rw [hcut '?' (by decide)]
      cases cutFirst? (· == '?') cut.1 <;> rfl

theorem isDrive_eq_false {text : List Char} (hlong : 3 ≤ text.length) (htext : '\\' ∉ text) :
    isDrive text = false := by
  obtain _ | ⟨a, _ | ⟨b, _ | ⟨c, rest⟩⟩⟩ := text
  · simp at hlong
  · simp at hlong
  · simp at hlong
  · have hc : c ≠ '\\' := by
      rintro rfl
      exact htext (by simp)
    simp [isDrive, hc]

/-- A user makes the host of a file impossible. -/
theorem readFile_of_sign {front : List Char} (hfront : IsFront .file front)
    (hlong : 2 ≤ front.length) (hfirst : front.head? ≠ some '[') (host : List Char) :
    readFile ('/' :: '/' :: (front ++ '@' :: host)) = .error .invalidName := by
  have hsigned := isFront_append_sign hfront
  have htail : (cutTail .file ('/' :: '/' :: (front ++ '@' :: host))).1 =
      '/' :: '/' :: (front ++ '@' :: (cutTail .file host).1) := by
    have hwhole : ∀ c ∈ '/' :: '/' :: (front ++ ['@']), isPathEnd c = false := by
      intro c hc
      rcases List.mem_cons.mp hc with rfl | hc
      · rfl
      rcases List.mem_cons.mp hc with rfl | hc
      · rfl
      exact hsigned.isPathEnd_eq_false hc
    simpa using cutTail_append .file hwhole host
  obtain ⟨rest, hrest⟩ : ∃ rest, (front ++ '@' :: (cutTail .file host).1).takeWhile
      (fun c => !isSlash .file c) = front ++ '@' :: rest := by
    refine ⟨(cutTail .file host).1.takeWhile fun c => !isSlash .file c, ?_⟩
    have hplain : ∀ c ∈ front ++ ['@'], (!isSlash .file c) = true := fun c hc => by
      rw [hsigned.isSlash_eq_false hc, Bool.not_false]
    rw [List.append_cons, List.takeWhile_append_of_pos hplain, List.append_assoc]
    rfl
  have hdrive : isDrive (front ++ '@' :: rest) = false := by
    apply isDrive_eq_false
    · simp
      omega
    · rw [← hrest]
      intro hmem
      have hplain := List.all_eq_true.mp List.all_takeWhile '\\' hmem
      revert hplain
      decide
  have hhost : readFileHost (front ++ '@' :: rest) = .error .invalidName := by
    have hparse : Host.parse (front ++ '@' :: rest) = .error .invalidName := by
      apply Host.parse_eq_invalidName (by simp)
      cases front with
      | nil => simp at hlong
      | cons c front => exact hfirst
    rw [readFileHost, if_neg (by simp), hparse]
  unfold readFile
  simp only [htail]
  simp only [bind, Except.bind, hrest, hdrive, hhost]
  rfl

theorem readFile_of_unslashed {c : Char} (hslash : isSlash .file c = false)
    (hend : isPathEnd c = false) (rest : List Char) :
    ∃ url, readFile (c :: rest) = .ok url ∧ url.scheme = "file" ∧ url.hasUser = false := by
  have htail : (cutTail .file (c :: rest)).1 = c :: (cutTail .file rest).1 :=
    cutTail_append .file (List.forall_mem_singleton.mpr hend) rest
  unfold readFile
  simp only [htail]
  cases (cutTail .file rest).1 with
  | nil =>
      simp only [hslash]
      exact ⟨_, rfl, rfl, rfl⟩
  | cons d rest =>
      simp only [hslash]
      exact ⟨_, rfl, rfl, rfl⟩

/-! ## Behind the scheme -/

def readRest (scheme : String) (rest : List Char) : Except UrlError Url :=
  match SchemeKind.of scheme with
  | .file => readFile rest
  | .web => readBehindSlashes scheme .web (rest.dropWhile (isSlash .web))
  | .other =>
    match behind? ['/', '/'] rest with
    | some behind => readBehindSlashes scheme .other behind
    | none => .ok (readHostless scheme rest)

theorem parse_eq_readRest {text : String} {name rest : List Char}
    (htext : significant text = name ++ ':' :: rest) (hname : ':' ∉ name) :
    parse text =
      if isScheme name then readRest (String.ofList (lowerChars name)) rest
      else .error .noScheme := by
  unfold parse
  rw [htext, readScheme_append hname]
  split <;> rfl

/-! ## Texts with a user -/

/-- The texts for a user and his password. -/
structure IsLogin (user secret : List Char) : Prop where
  userText : IsUserText user
  secretText : IsUserText secret
  nonempty : secret ≠ []

/-- A user with a password in front of a host. -/
def loginText (user secret host : List Char) : String :=
  String.ofList (user ++ ':' :: (secret ++ '@' :: host))

def loginUrl (scheme user secret host : List Char) : String :=
  String.ofList (scheme ++ ':' :: '/' :: '/' :: (user ++ ':' :: (secret ++ '@' :: host)))

theorem IsUserText.visible {text : List Char} (htext : IsUserText text) :
    ∀ c ∈ text, 0x20 < c.toNat := fun c hc => by
  have hchar := htext c hc
  rw [isUserChar, Bool.and_eq_true, decide_eq_true_eq] at hchar
  exact hchar.1

theorem IsUserText.not_mem {text : List Char} (htext : IsUserText text) {mark : Char}
    (hmark : mark ∈ ":/\\?#@[".toList) : mark ∉ text := fun hmem => by
  have hchar := htext mark hmem
  rw [isUserChar, Bool.and_eq_true, Bool.not_eq_true', ← Bool.not_eq_true, List.contains_iff_mem]
    at hchar
  exact hchar.2 hmark

theorem IsUserText.isFront {text : List Char} (htext : IsUserText text) (kind : SchemeKind) :
    IsFront kind text := fun c hc => by
  have hne (mark : Char) (hmark : mark ∈ ":/\\?#@[".toList) : c ≠ mark :=
    fun heq => htext.not_mem hmark (heq ▸ hc)
  simp [isSlash, isPathEnd, hne '/' (by decide), hne '\\' (by decide), hne '?' (by decide),
    hne '#' (by decide)]

theorem visible_of_isScheme {name : List Char} (hname : isScheme name = true) :
    ∀ c ∈ name, 0x20 < c.toNat := by
  intro c hc
  have hchar := List.all_eq_true.mp (Bool.and_eq_true_iff.mp hname).2 c hc
  simp only [isSchemeChar, Bool.or_eq_true, beq_iff_eq] at hchar
  rcases hchar with ((halphanum | rfl) | rfl) | rfl
  · exact (visible_of_isAlphanum halphanum).1
  · decide
  · decide
  · decide

theorem loginText_inj {user secret other host : List Char} :
    loginText user secret host = loginText user other host ↔ secret = other := by
  simp [loginText, String.ofList_inj]

section

variable {user secret host : List Char}

theorem IsLogin.isFront (hlogin : IsLogin user secret) (kind : SchemeKind) :
    IsFront kind (user ++ ':' :: secret) := fun c hc => by
  rcases List.mem_append.mp hc with hc | hc
  · exact hlogin.userText.isFront kind c hc
  · rcases List.mem_cons.mp hc with rfl | hc
    · cases kind <;> rfl
    · exact hlogin.secretText.isFront kind c hc

theorem IsLogin.head?_ne (hlogin : IsLogin user secret) {mark : Char}
    (hmark : mark ∈ "/\\?#@[".toList) : (user ++ ':' :: secret).head? ≠ some mark := by
  cases user with
  | nil =>
      rintro heq
      obtain rfl : ':' = mark := Option.some.inj heq
      revert hmark
      decide
  | cons c user =>
      rintro heq
      obtain rfl : c = mark := Option.some.inj heq
      exact hlogin.userText.not_mem (List.mem_cons_of_mem _ hmark) List.mem_cons_self

theorem IsLogin.visible (hlogin : IsLogin user secret) :
    ∀ c ∈ user ++ ':' :: secret, 0x20 < c.toNat := fun c hc => by
  rcases List.mem_append.mp hc with hc | hc
  · exact hlogin.userText.visible c hc
  · rcases List.mem_cons.mp hc with rfl | hc
    · decide
    · exact hlogin.secretText.visible c hc

theorem IsLogin.isWritten (hlogin : IsLogin user secret) :
    (readUser (user ++ ':' :: secret)).isWritten = true :=
  isWritten_readUser_append (hlogin.userText.not_mem (by decide)) hlogin.nonempty

theorem readRest_of_slashes (scheme : String) (hhost : '@' ∉ host) :
    ∃ read : Except UrlError Url, ∀ user secret, IsLogin user secret →
      readRest scheme ('/' :: '/' :: (user ++ ':' :: secret ++ '@' :: host)) =
        read.map fun url => url.withUser (readUser (user ++ ':' :: secret)) := by
  cases hkind : SchemeKind.of scheme with
  | file =>
      refine ⟨.error .invalidName, fun user secret hlogin => ?_⟩
      have hlong : 2 ≤ (user ++ ':' :: secret).length := by
        have hsecret := List.length_pos_iff.mpr hlogin.nonempty
        simp
        omega
      rw [readRest, hkind]
      exact readFile_of_sign (hlogin.isFront .file) hlong (hlogin.head?_ne (by decide)) host
  | web =>
      obtain ⟨read, hread⟩ := readBehindSlashes_eq_map scheme .web hhost
      refine ⟨read, fun user secret hlogin => ?_⟩
      have hfront := hlogin.isFront .web
      rw [readRest, hkind, List.dropWhile_cons_of_pos (by decide),
        List.dropWhile_cons_of_pos (by decide), dropWhile_front hfront]
      exact hread _ hfront hlogin.isWritten
  | other =>
      obtain ⟨read, hread⟩ := readBehindSlashes_eq_map scheme .other hhost
      refine ⟨read, fun user secret hlogin => ?_⟩
      rw [readRest, hkind]
      exact hread _ (hlogin.isFront .other) hlogin.isWritten

/-- Whoever the user of a URL is, everything else is read in the same way. -/
theorem parse_loginUrl {scheme : List Char} (hscheme : isScheme scheme = true) (hhost : '@' ∉ host) :
    ∃ read : Except UrlError Url, ∀ user secret, IsLogin user secret →
      parse (loginUrl scheme user secret host) =
        read.map fun url => url.withUser (readUser (user ++ ':' :: secret)) := by
  obtain ⟨inner, hinner, hsignificant⟩ := exists_significant hhost
  obtain ⟨read, hread⟩ := readRest_of_slashes (String.ofList (lowerChars scheme)) hinner
  refine ⟨read, fun user secret hlogin => ?_⟩
  have hvisible : ∀ c ∈ scheme ++ ':' :: '/' :: '/' :: (user ++ ':' :: secret), 0x20 < c.toNat := by
    simp only [List.forall_mem_append, List.forall_mem_cons]
    exact ⟨visible_of_isScheme hscheme, by decide, by decide, by decide,
      List.forall_mem_append.mp hlogin.visible |>.imp id List.forall_mem_cons.mp⟩
  have htext : significant (loginUrl scheme user secret host) =
      scheme ++ ':' :: '/' :: '/' :: (user ++ ':' :: secret ++ '@' :: inner) := by
    have hsplit := hsignificant _ hvisible
    simpa [loginUrl] using hsplit
  rw [parse_eq_readRest htext (colon_not_mem_of_isScheme hscheme), if_pos hscheme,
    hread user secret hlogin]

/-- Without the slashes, the user is read as the scheme. -/
theorem parse_loginText (hhost : '@' ∉ host) :
    ∃ inner, '@' ∉ inner ∧ ∀ user secret, IsLogin user secret →
      parse (loginText user secret host) =
        if isScheme user then
          readRest (String.ofList (lowerChars user)) (secret ++ '@' :: inner)
        else .error .noScheme := by
  obtain ⟨inner, hinner, hsignificant⟩ := exists_significant hhost
  refine ⟨inner, hinner, fun user secret hlogin => ?_⟩
  have htext : significant (loginText user secret host) =
      user ++ ':' :: (secret ++ '@' :: inner) := by
    have hsplit := hsignificant _ hlogin.visible
    simpa [loginText] using hsplit
  exact parse_eq_readRest htext (hlogin.userText.not_mem (by decide))

/-- Behind the scheme of the web, the password is taken for a user. -/
theorem readRest_of_web
    {scheme : String} (hweb : SchemeKind.of scheme = .web) (hhost : '@' ∉ host) :
    ∃ read : Except UrlError Url, ∀ front, IsUserText front → front ≠ [] →
      readRest scheme (front ++ '@' :: host) =
        read.map fun url => url.withUser (readUser front) := by
  obtain ⟨read, hread⟩ := readBehindSlashes_eq_map scheme .web hhost
  refine ⟨read, fun front hfront hnonempty => ?_⟩
  rw [readRest, hweb, dropWhile_front (hfront.isFront .web)]
  exact hread front (hfront.isFront .web)
    (isWritten_readUser (hfront.not_mem (by decide)) hnonempty)

/-- Behind other schemes, the password is taken for the beginning of a path. -/
theorem readRest_of_not_web
    {scheme : String} (hother : SchemeKind.of scheme ≠ .web) {front : List Char}
    (hfront : IsUserText front) (hnonempty : front ≠ []) (rest : List Char) :
    ∃ url, readRest scheme (front ++ rest) = .ok url ∧ url.scheme = scheme ∧
      url.hasUser = false := by
  obtain ⟨c, front, rfl⟩ := List.exists_cons_of_ne_nil hnonempty
  rw [readRest, List.cons_append]
  cases hkind : SchemeKind.of scheme with
  | web => exact absurd hkind hother
  | file =>
      have hplain := hfront.isFront .file
      obtain ⟨url, hread, hscheme, huser⟩ := readFile_of_unslashed
        (hplain.isSlash_eq_false List.mem_cons_self) (hplain.isPathEnd_eq_false List.mem_cons_self)
        (front ++ rest)
      have hfile : scheme = "file" := by
        unfold SchemeKind.of at hkind
        split at hkind
        · assumption
        · split at hkind <;> cases hkind
      exact ⟨url, hread, hscheme.trans hfile.symm, huser⟩
  | other =>
      have hslash : '/' ≠ c := by
        rintro rfl
        exact hfront.not_mem (by decide) List.mem_cons_self
      rw [behind?, if_neg hslash]
      exact ⟨readHostless scheme (c :: (front ++ rest)), rfl, rfl, rfl⟩

end

end ProxyHandshake.Url
