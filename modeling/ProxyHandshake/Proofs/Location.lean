import ProxyHandshake.Credentials
import ProxyHandshake.Proofs.Text
import ProxyHandshake.Proofs.Utf8

/-!
# The location that the library reads

The library finds a keytab or a ticket cache by a variable of the environment.  The check compares what is
shown for the value of the variable with what is shown for the configured path, each without one mark of
files in front.  So the library may read a file with another name, unless the path is a text without the
replacement character.
-/

namespace ProxyHandshake

namespace Text

theorem behind?_append {α : Type} [DecidableEq α] (start rest : List α) :
    behind? start (start ++ rest) = some rest := by
  induction start with
  | nil => rfl
  | cons a start ih => rw [List.cons_append, behind?, if_pos rfl, ih]

end Text

namespace Utf8

open Text

/-- A small character shows at the front exactly if its byte stands there. -/
theorem readChar_getD_eq_iff {c : Char} (hc : c.toNat < 0x80) (b : UInt8) (rest : Bytes) :
    c = (readChar b rest).1.getD replacement ↔ UInt8.ofNat c.toNat = b := by
  constructor
  · intro hshown
    cases hread : (readChar b rest).1 with
    | none =>
        rw [hread, Option.getD_none] at hshown
        subst hshown
        exact absurd hc (by decide)
    | some first =>
        rw [hread, Option.getD_some] at hshown
        subst hshown
        have hbytes := readChar_eq_some (Prod.ext hread rfl)
        rw [utf8EncodeChar_of_lt hc, List.singleton_append, List.cons.injEq] at hbytes
        exact hbytes.1.symm
  · rintro rfl
    rw [readChar_of_lt hc, Option.getD_some]

/-- A mark of small characters is in front of what is shown exactly if it is in front of the bytes. -/
theorem behind?_decodeLossy {mark : List Char} (hmark : ∀ c ∈ mark, c.toNat < 0x80) (path : Bytes) :
    behind? mark (decodeLossy path).toList =
      (behind? (encodeChars mark) path).map fun rest => (decodeLossy rest).toList := by
  induction mark generalizing path with
  | nil => rfl
  | cons c mark ih =>
      obtain ⟨hc, hrest⟩ := List.forall_mem_cons.mp hmark
      rw [encodeChars_cons, utf8EncodeChar_of_lt hc, List.singleton_append]
      cases path with
      | nil => simp [toList_decodeLossy, read, behind?]
      | cons b rest =>
          have hfirst := readChar_getD_eq_iff hc b rest
          rw [toList_decodeLossy, read, List.map_cons, behind?, behind?]
          by_cases hb : UInt8.ofNat c.toNat = b
          · have hread : (readChar b rest).2 = rest := by rw [← hb, readChar_of_lt hc]
            rw [if_pos hb, if_pos (hfirst.mpr hb), hread, ← ih hrest, toList_decodeLossy]
          · rw [if_neg hb, if_neg (mt hfirst.mp hb), Option.map_none]

end Utf8

namespace Credentials

open Text

/-! ## Locations -/

/-- The bytes of a location without one mark of files in front. -/
def withoutMark (path : Bytes) : Bytes :=
  (behind? (Utf8.encodeChars fileMark) path).getD path

theorem withoutMark_append (path : Bytes) :
    withoutMark (Utf8.encodeChars fileMark ++ path) = path := by
  rw [withoutMark, behind?_append, Option.getD_some]

theorem plainLocation_eq (path : Bytes) :
    plainLocation path = (Utf8.decodeLossy (withoutMark path)).toList := by
  have hmark : ∀ c ∈ fileMark, c.toNat < 0x80 := forall_mem_of_all (by decide)
  rw [plainLocation, Utf8.behind?_decodeLossy hmark, withoutMark]
  cases behind? (Utf8.encodeChars fileMark) path <;> rfl

/-- The same location to the check: what is shown without the mark is the same. -/
theorem sameLocation_iff {a b : Bytes} :
    sameLocation a b = true ↔
      Utf8.decodeLossy (withoutMark a) = Utf8.decodeLossy (withoutMark b) := by
  rw [sameLocation, beq_iff_eq, plainLocation_eq, plainLocation_eq, String.toList_inj]

/-! ## The check -/

/-- Whether the check passes without a look at any variable. -/
def AsksNothing (credentials : Credentials) : Prop :=
  ∀ {m : Type → Type} [Monad m] (look : String → m (Option Bytes)),
    credentials.checkLocationBy look = pure (.ok ())

theorem asksNothing_of_location {credentials : Credentials} (hnone : credentials.location? = none) :
    credentials.AsksNothing := fun look => by
  rw [checkLocationBy, hnone]

variable {credentials : Credentials} {name : String} {expected : Bytes}

theorem checkLocation_eq_ok_iff
    (hlocation : credentials.location? = some (name, expected)) (environment : Environment) :
    credentials.checkLocation environment = .ok () ↔
      ∃ actual, environment.get? name = some actual ∧
        Utf8.decodeLossy (withoutMark actual) = Utf8.decodeLossy (withoutMark expected) := by
  have hcheck : credentials.checkLocation environment =
      judgeLocation name expected (environment.get? name) := by
    rw [checkLocation, checkLocationBy, hlocation]
    rfl
  rw [hcheck]
  cases hfound : environment.get? name with
  | none => simp [judgeLocation]
  | some actual =>
      by_cases hsame : sameLocation actual expected = true
      · simp [judgeLocation, hsame, sameLocation_iff.mp hsame]
      · simp [judgeLocation, hsame, mt sameLocation_iff.mpr hsame]

/-- Whether the check passes for the configured location and for no other. -/
def IsExact (credentials : Credentials) (name : String) (expected : Bytes) : Prop :=
  ∀ environment : Environment, credentials.checkLocation environment = .ok () ↔
    ∃ actual, environment.get? name = some actual ∧ withoutMark actual = withoutMark expected

/-- Bytes that are shown like the configured path pass, behind a mark of files. -/
theorem isExact_iff (hlocation : credentials.location? = some (name, expected)) :
    credentials.IsExact name expected ↔ Utf8.IsClear (withoutMark expected) := by
  rw [Utf8.isClear_iff_forall_shown]
  constructor
  · intro hexact other hother
    -- The mark in front keeps a mark in `other` from being taken away.
    let actual := Utf8.encodeChars fileMark ++ other
    let environment : Environment := ⟨[(name, actual)]⟩
    have hfound : environment.get? name = some actual := by simp [environment, Environment.get?]
    have hshown : Utf8.decodeLossy (withoutMark actual) = Utf8.decodeLossy (withoutMark expected) := by
      rw [withoutMark_append, hother]
    have hok := (checkLocation_eq_ok_iff hlocation environment).mpr ⟨actual, hfound, hshown⟩
    obtain ⟨found, hsame, hbytes⟩ := (hexact environment).mp hok
    rw [hfound, Option.some.injEq] at hsame
    rwa [← hsame, withoutMark_append] at hbytes
  · intro halone environment
    rw [checkLocation_eq_ok_iff hlocation environment]
    refine exists_congr fun actual => and_congr_right fun _ => ⟨halone _, fun hbytes => ?_⟩
    rw [hbytes]

/-- Whether the variable `name` decides on the check: it must be set to a location that is shown like
`expected`, but for one mark of files in front of each, and this is the same location exactly if the path is
a text without the replacement character. -/
structure IsGuardedBy (credentials : Credentials) (name : String) (expected : Bytes) : Prop where
  location : credentials.location? = some (name, expected)
  passes (environment : Environment) : credentials.checkLocation environment = .ok () ↔
    ∃ actual, environment.get? name = some actual ∧
      Utf8.decodeLossy (withoutMark actual) = Utf8.decodeLossy (withoutMark expected)
  exact : credentials.IsExact name expected ↔ Utf8.IsClear (withoutMark expected)

theorem isGuardedBy_of_location (hlocation : credentials.location? = some (name, expected)) :
    credentials.IsGuardedBy name expected :=
  ⟨hlocation, checkLocation_eq_ok_iff hlocation, isExact_iff hlocation⟩

/-- A source that is no file passes without a look at the environment.  A keytab and a ticket cache are
guarded, each by a variable of its own. -/
theorem checkLocation_guarded (credentials : Credentials) :
    match credentials with
    | .password .. | .ambient => credentials.AsksNothing
    | .keytab path _ => credentials.IsGuardedBy keytabVariable path
    | .ticketCache path => credentials.IsGuardedBy cacheVariable path := by
  cases credentials with
  | password username secret realm => exact asksNothing_of_location rfl
  | keytab path principal => exact isGuardedBy_of_location rfl
  | ticketCache path => exact isGuardedBy_of_location rfl
  | ambient => exact asksNothing_of_location rfl

/-! ### A keytab of another name -/

/-- The two last bytes are no text, so both are shown by the replacement character. -/
theorem checkLocation_guarded_otherKeytab :
    let credentials := Credentials.keytab [107, 0xFF] none
    let environment : Environment := ⟨[(keytabVariable, [107, 0xFE])]⟩
    credentials.checkLocation environment = .ok () ∧
      ¬ credentials.IsExact keytabVariable [107, 0xFF] := by
  have hshown : Utf8.decodeLossy [107, 0xFE] = Utf8.decodeLossy [107, 0xFF] := by
    simp [Utf8.decodeLossy, Utf8.read, Utf8.readChar, Utf8.leadOf?]
  have hguarded : (Credentials.keytab [107, 0xFF] none).IsGuardedBy keytabVariable [107, 0xFF] :=
    checkLocation_guarded (.keytab [107, 0xFF] none)
  have hpasses := (hguarded.passes ⟨[(keytabVariable, [107, 0xFE])]⟩).mpr
    ⟨[107, 0xFE], rfl, hshown⟩
  refine ⟨hpasses, fun hexact => ?_⟩
  obtain ⟨actual, hfound, hbytes⟩ := (hexact _).mp hpasses
  cases hfound
  exact absurd hbytes (by decide)

end Credentials
end ProxyHandshake
