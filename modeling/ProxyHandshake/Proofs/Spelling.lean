import ProxyHandshake.Proofs.Principal

/-!
# Spellings of a user name

A user in a realm can be written in three ways: with the realm said apart, as `user@realm`, or with the
realm and a backslash in front.  Each of them is read by another branch, but to the same principal, and
blanks around the name or the realm do not matter.  A realm in the name goes before one that is said
apart.
-/

namespace ProxyHandshake

open Text Unicode

namespace Credentials

/-- A user or a realm as it is meant: there is no sign in it that separates, and no blank around it. -/
structure IsPart (part : List Char) : Prop extends IsTrimmed part where
  nonempty : part ≠ []
  noAt : '@' ∉ part
  noBackslash : '\\' ∉ part

/-- Whether a user name and a domain that is said apart stand for a user in a realm. -/
inductive Spells (user realm : List Char) : String → Option String → Prop
  | apart {username domain : String} (husername : IsPadded username.toList user)
      (hdomain : IsPadded domain.toList realm) : Spells user realm username (some domain)
  | embedded {username : String} (husername : IsPadded username.toList (user ++ '@' :: realm))
      (domain : Option String) : Spells user realm username domain
  | logon {username : String} (husername : IsPadded username.toList (realm ++ '\\' :: user))
      (domain : Option String) : Spells user realm username domain

/-! ## Names that can be used -/

theorem validate_password
    {username : String} {secret : Secret} {realm : Option String}
    (hnonempty : trimChars username.toList ≠ [])
    (hwell : isMalformed (trimChars username.toList) = false) (hsecret : secret.isBlank = false)
    (files : FileSystem) :
    (Credentials.password username secret realm).validate files = .ok () := by
  have hsome : (trimChars username.toList).isEmpty = false := by simpa using hnonempty
  simp only [validate, hsome, hwell, hsecret, Bool.false_eq_true, if_false]

/-- A name is well formed if no sign stands at either end. -/
theorem isMalformed_eq_false
    {name first last : List Char} (hfirst : '@' ∉ first) (hlast : '@' ∉ last ∧ '\\' ∉ last)
    (hhead : name.head? = first.head?) (hend : name.getLast? = last.getLast?) :
    isMalformed name = false := by
  have hnotFirst : first.head? ≠ some '@' := fun heq => hfirst (List.mem_of_head? heq)
  have hnotLast : last.getLast? ≠ some '@' ∧ last.getLast? ≠ some '\\' :=
    ⟨fun heq => hlast.1 (List.mem_of_getLast? heq), fun heq => hlast.2 (List.mem_of_getLast? heq)⟩
  rw [isMalformed, hhead, hend]
  simp [hnotFirst, hnotLast]

/-! ## One principal -/

section

variable {user realm : List Char} {username : String} {domain : Option String}

theorem IsPart.isBlankText {text : String} (hrealm : IsPart realm) (htext : IsPadded text.toList realm) :
    isBlankText text = false := by
  refine Bool.eq_false_iff.mpr fun hblank => hrealm.nonempty ?_
  rw [← htext.trimChars hrealm.toIsTrimmed]
  exact trimChars_eq_nil_iff.mpr hblank

/-- The name without the blanks around it can be used in each of the spellings. -/
theorem Spells.wellFormed
    (hspells : Spells user realm username domain) (huser : IsPart user) (hrealm : IsPart realm) :
    trimChars username.toList ≠ [] ∧ isMalformed (trimChars username.toList) = false := by
  have huserEnds := And.intro huser.noAt huser.noBackslash
  have hrealmEnds := And.intro hrealm.noAt hrealm.noBackslash
  cases hspells with
  | apart husername hdomain =>
      rw [husername.trimChars huser.toIsTrimmed]
      exact ⟨huser.nonempty, isMalformed_eq_false huser.noAt huserEnds rfl rfl⟩
  | embedded husername domain =>
      have hname := huser.toIsTrimmed.append_cons hrealm.toIsTrimmed
        ⟨huser.nonempty, hrealm.nonempty⟩ '@'
      rw [husername.trimChars hname]
      exact ⟨List.append_ne_nil_of_left_ne_nil huser.nonempty _,
        isMalformed_eq_false huser.noAt hrealmEnds (head?_append_cons huser.nonempty _ _)
          (getLast?_append_cons hrealm.nonempty _ _)⟩
  | logon husername domain =>
      have hname := hrealm.toIsTrimmed.append_cons huser.toIsTrimmed
        ⟨hrealm.nonempty, huser.nonempty⟩ '\\'
      rw [husername.trimChars hname]
      exact ⟨List.append_ne_nil_of_left_ne_nil hrealm.nonempty _,
        isMalformed_eq_false hrealm.noAt huserEnds (head?_append_cons hrealm.nonempty _ _)
          (getLast?_append_cons huser.nonempty _ _)⟩

/-- Every spelling is read to the same principal. -/
theorem Spells.qualify_eq
    (hspells : Spells user realm username domain) (huser : IsPart user) (hrealm : IsPart realm) :
    qualify username (domain.filter fun d => !Text.isBlankText d) = qualified user realm := by
  cases hspells with
  | @apart domain husername hdomain =>
      have hname := husername.trimChars huser.toIsTrimmed
      have hnamed : isBlankText domain = false := hrealm.isBlankText hdomain
      rw [Option.filter_some, hnamed, Bool.not_false, if_pos rfl,
        qualify_plain (hname ▸ huser.noBackslash) (hname ▸ huser.noAt), hname]
      exact congrArg (qualified user) (hdomain.trimChars hrealm.toIsTrimmed)
  | embedded husername domain =>
      have hname := husername.trimChars
        (huser.toIsTrimmed.append_cons hrealm.toIsTrimmed ⟨huser.nonempty, hrealm.nonempty⟩ '@')
      have hlogon : '\\' ∉ trimChars username.toList := by
        simp [hname, huser.noBackslash, hrealm.noBackslash]
      exact qualify_embedded hname hrealm.noAt hlogon _
  | logon husername domain =>
      have hname := husername.trimChars
        (hrealm.toIsTrimmed.append_cons huser.toIsTrimmed ⟨hrealm.nonempty, huser.nonempty⟩ '\\')
      exact qualify_logon hname hrealm.noBackslash _

end

/-- However a user in a realm is written, the credentials can be used, and they name him as `user@REALM`. -/
theorem principal_of_spells
    {user realm : String} (huser : IsPart user.toList) (hrealm : IsPart realm.toList)
    {username : String} {domain : Option String}
    (hspells : Spells user.toList realm.toList username domain)
    {secret : Secret} (hsecret : secret.isBlank = false) (files : FileSystem) :
    (ofPassword username secret domain).validate files = .ok () ∧
      (ofPassword username secret domain).principal? =
        some (user ++ "@" ++ upperCase realm) := by
  obtain ⟨hnonempty, hwell⟩ := hspells.wellFormed huser hrealm
  have hjoined : qualified user.toList realm.toList = user ++ "@" ++ upperCase realm := by
    rw [← String.toList_inj]
    simp [qualified, upperCase]
  refine ⟨validate_password hnonempty hwell hsecret files, ?_⟩
  rw [ofPassword, principal?, hspells.qualify_eq huser hrealm, hjoined]

/-! ### One user, three spellings -/

theorem isPart_user : IsPart "j\u00FCrgen b".toList :=
  ⟨by decide, by decide, by decide, by decide⟩

theorem isPart_realm : IsPart "eng.example".toList :=
  ⟨by decide, by decide, by decide, by decide⟩

/-- The blanks are of all kinds, and the domain says something else where the name holds the realm. -/
theorem principal_of_spells_blanks :
    let principal := some "j\u00FCrgen b@ENG.EXAMPLE"
    (ofPassword "\tj\u00FCrgen b\u3000" ⟨"pw"⟩ (some " eng.example\n")).principal? = principal ∧
      (ofPassword "j\u00FCrgen b@eng.example " ⟨"pw"⟩ (some "OTHER")).principal? = principal ∧
      (ofPassword "\u00A0eng.example\\j\u00FCrgen b" ⟨"pw"⟩ (some "a@b\\c")).principal? = principal := by
  have hupper : "j\u00FCrgen b" ++ "@" ++ upperCase "eng.example" = "j\u00FCrgen b@ENG.EXAMPLE" := by
    decide
  have hnamed {username : String} {domain : Option String}
      (hspells : Spells "j\u00FCrgen b".toList "eng.example".toList username domain) :
      (ofPassword username ⟨"pw"⟩ domain).principal? = some "j\u00FCrgen b@ENG.EXAMPLE" := by
    rw [← hupper]
    exact (principal_of_spells isPart_user isPart_realm hspells rfl ⟨.directory [], []⟩).2
  refine ⟨hnamed (.apart ?_ ?_), hnamed (.embedded ?_ _), hnamed (.logon ?_ _)⟩
  · exact ⟨['\t'], ['\u3000'], by decide, forall_mem_of_all (by decide)⟩
  · exact ⟨[' '], ['\n'], by decide, forall_mem_of_all (by decide)⟩
  · exact ⟨[], [' '], by decide, forall_mem_of_all (by decide)⟩
  · exact ⟨['\u00A0'], [], by decide, forall_mem_of_all (by decide)⟩

end Credentials
end ProxyHandshake
