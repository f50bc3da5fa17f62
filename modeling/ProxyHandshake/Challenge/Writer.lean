import ProxyHandshake.Challenge.Reader

/-!
# Writing challenges

A proxy lists its challenges behind one another, with a comma and a blank between them and between
the parameters of a challenge.  Every value stands between quotes, so it may hold any text.
-/

namespace ProxyHandshake.Challenge

/-! ## Challenges that can be written -/

/-- A word that can name a scheme or a parameter. -/
structure IsWord (text : List Char) : Prop where
  nonempty : text ≠ []
  unblank : ∀ c ∈ text, Text.isBlank c = false
  unmarked : ∀ c ∈ text, c ≠ '=' ∧ c ≠ ',' ∧ c ≠ '"'

def isWordChar (c : Char) : Bool :=
  !Text.isBlank c && c != '=' && c != ',' && c != '"'

theorem isWord_iff (text : List Char) : IsWord text ↔ text ≠ [] ∧ text.all isWordChar = true := by
  simp only [List.all_eq_true, isWordChar, Bool.and_eq_true, Bool.not_eq_true', bne_iff_ne]
  constructor
  · intro hword
    refine ⟨hword.nonempty, fun c hc => ?_⟩
    obtain ⟨hequals, hcomma, hquote⟩ := hword.unmarked c hc
    exact ⟨⟨⟨hword.unblank c hc, hequals⟩, hcomma⟩, hquote⟩
  · rintro ⟨hnonempty, hchars⟩
    refine ⟨hnonempty, fun c hc => (hchars c hc).1.1.1, fun c hc => ?_⟩
    exact ⟨(hchars c hc).1.1.2, (hchars c hc).1.2, (hchars c hc).2⟩

instance (text : List Char) : Decidable (IsWord text) :=
  decidable_of_iff _ (isWord_iff text).symm

/-- Some characters of tokens, and then equals signs. -/
def IsToken (text : List Char) : Prop :=
  ∃ body count, text = body ++ List.replicate count '=' ∧ body ≠ [] ∧
    ∀ c ∈ body, isToken68Char c = true

/-- The forms of a challenge. -/
inductive WellFormed : Challenge → Prop
  | bare (scheme : String) (hscheme : IsWord scheme.toList) : WellFormed ⟨scheme, none, []⟩
  | token (scheme text : String) (hscheme : IsWord scheme.toList) (htext : IsToken text.toList) :
      WellFormed ⟨scheme, some text, []⟩
  | params (scheme : String) (params : List (String × String)) (hscheme : IsWord scheme.toList)
      (hnonempty : params ≠ []) (hparams : ∀ param ∈ params, IsWord param.1.toList) :
      WellFormed ⟨scheme, none, params⟩

/-! ## Writing -/

/-- A text with a backslash in front of every quote and backslash. -/
def escape (text : List Char) : List Char :=
  text.flatMap fun c => if c = '"' ∨ c = '\\' then ['\\', c] else [c]

def writeValue (value : List Char) : List Char :=
  '"' :: (escape value ++ ['"'])

def writeParam (param : String × String) : List Char :=
  param.1.toList ++ '=' :: writeValue param.2.toList

/-- A parameter with a gap on each side of its equals sign. -/
def writeSpaced (before behind : List Char) (param : String × String) : List Char :=
  param.1.toList ++ (before ++ '=' :: (behind ++ writeValue param.2.toList))

def separated (pieces : List (List Char)) : List Char :=
  List.intercalate [',', ' '] pieces

def write (challenge : Challenge) : List Char :=
  match challenge.token68, challenge.params with
  | some text, _ => challenge.scheme.toList ++ ' ' :: text.toList
  | none, [] => challenge.scheme.toList
  | none, params => challenge.scheme.toList ++ ' ' :: separated (params.map writeParam)

/-- A header that lists the challenges. -/
def writeAll (challenges : List Challenge) : String :=
  String.ofList (separated (challenges.map write))

end ProxyHandshake.Challenge
