import ProxyHandshake.Configuration
import ProxyHandshake.Proofs.Text
import ProxyHandshake.Proofs.Unicode.UpperCase

/-!
# Principals

A user is named with his realm as `user@REALM` or `DOMAIN\user`, or without it, and then the realm is
said apart.  The validation of a password looks at the user only, so it lets realms pass that are empty
or end with a sign.  A password keeps the realm apart from the user until the principal is asked for;
for a keytab the two are joined to one text first and taken apart again, which loses some of them.
-/

namespace ProxyHandshake

open Text Unicode

namespace Credentials

/-! ## The forms of a user name -/

section

variable {username : String} {user domain : List Char}

theorem qualify_logon
    (hname : trimChars username.toList = domain ++ '\\' :: user) (hdomain : '\\' ∉ domain)
    (realm : Option String) :
    qualify username realm = qualified user domain := by
  have hcut := cutFirst?_append (beq_eq_false_of_mem hdomain) (beq_self_eq_true '\\') user
  simp only [qualify, hname, hcut]

theorem qualify_embedded
    (hname : trimChars username.toList = user ++ '@' :: domain) (hdomain : '@' ∉ domain)
    (hlogon : '\\' ∉ trimChars username.toList) (realm : Option String) :
    qualify username realm = qualified user domain := by
  have hcut : cutLast? (· == '@') (trimChars username.toList) = some (user, domain) := by
    rw [hname]
    exact cutLast?_append (beq_eq_false_of_mem hdomain) (beq_self_eq_true '@') user
  simp only [qualify, cutFirst?_eq_none (beq_eq_false_of_mem hlogon), hcut]

theorem qualify_plain
    (hlogon : '\\' ∉ trimChars username.toList) (hrealm : '@' ∉ trimChars username.toList)
    (realm : Option String) :
    qualify username realm =
      match realm with
      | some realm => qualified (trimChars username.toList) (trimChars realm.toList)
      | none => String.ofList (trimChars username.toList) := by
  have hfirst := cutFirst?_eq_none (beq_eq_false_of_mem hlogon)
  have hlast := cutLast?_eq_none (beq_eq_false_of_mem hrealm)
  cases realm <;> simp only [qualify, hfirst, hlast]

end

/-- Whether a user name holds its realm. -/
def HoldsRealm (username : String) : Prop :=
  '@' ∈ username.toList ∨ '\\' ∈ username.toList

instance (username : String) : Decidable (HoldsRealm username) :=
  inferInstanceAs (Decidable (_ ∨ _))

/-- The realm in a user name goes before any other. -/
theorem HoldsRealm.exists_qualified {username : String} (hholds : HoldsRealm username) :
    ∃ user domain, ∀ realm, qualify username realm = qualified user domain := by
  by_cases hlogon : '\\' ∈ trimChars username.toList
  · obtain ⟨domain, user, hname, hdomain⟩ := List.eq_append_cons_of_mem hlogon
    exact ⟨user, domain, qualify_logon hname hdomain⟩
  · have hat : '@' ∈ trimChars username.toList := by
      rcases hholds with hat | hbackslash
      · exact mem_trimChars_of_unblank hat (by decide)
      · exact absurd (mem_trimChars_of_unblank hbackslash (by decide)) hlogon
    obtain ⟨user, domain, hname, hdomain⟩ := exists_last_of_mem hat
    exact ⟨user, domain, qualify_embedded hname hdomain hlogon⟩

/-! ## Names that were validated -/

/-- A name that is not empty, and neither is the part in front of its last sign, if it has one. -/
structure IsNamed (principal : String) : Prop where
  nonempty : principal.toList ≠ []
  user : ∀ user realm, principal.toList = user ++ '@' :: realm → '@' ∉ realm → user ≠ []

/-- A name of which neither part is empty. -/
structure IsPrincipal (principal : String) : Prop extends IsNamed principal where
  realm : ∀ user realm, principal.toList = user ++ '@' :: realm → '@' ∉ realm → realm ≠ []

/-- Whether the realm of a user, if he has one, is not empty and does not end with a sign. -/
structure SoundRealm (name : List Char) (domain : Option String) : Prop where
  /-- The realm in front of a backslash. -/
  logon : ∀ realm user, name = realm ++ '\\' :: user → '\\' ∉ realm →
    realm ≠ [] ∧ realm.getLast? ≠ some '@'
  /-- The realm that is said apart. -/
  apart : '\\' ∉ name → '@' ∉ name → ∀ realm, domain = some realm →
    (trimChars realm.toList).getLast? ≠ some '@'

theorem soundRealm_logon_iff
    {realm user : List Char} (hrealm : '\\' ∉ realm) {domain : Option String} :
    SoundRealm (realm ++ '\\' :: user) domain ↔ realm ≠ [] ∧ realm.getLast? ≠ some '@' := by
  refine ⟨fun hsound => hsound.logon realm user rfl hrealm, fun hsound => ⟨?_, fun hnone => ?_⟩⟩
  · intro other rest hother hnone
    obtain ⟨rfl, -⟩ := (append_cons_inj hrealm hnone).mp hother
    exact hsound
  · exact absurd (List.mem_append_right realm List.mem_cons_self) hnone

theorem soundRealm_iff_of_not_mem
    {name : List Char} (hname : '\\' ∉ name) {domain : Option String} :
    SoundRealm name domain ↔
      ('@' ∉ name → ∀ realm, domain = some realm →
        (trimChars realm.toList).getLast? ≠ some '@') := by
  refine ⟨fun hsound => hsound.apart hname, fun hapart => ⟨fun realm user hsplit => ?_, ?_⟩⟩
  · exact absurd (hsplit ▸ List.mem_append_right realm List.mem_cons_self) hname
  · exact fun _ => hapart

theorem isPrincipal_of_not_mem {name : List Char} (hnonempty : name ≠ []) (hname : '@' ∉ name) :
    IsPrincipal (String.ofList name) := by
  have hwhole (user realm : List Char) : (String.ofList name).toList ≠ user ++ '@' :: realm := by
    rw [String.toList_ofList]
    rintro rfl
    exact hname (List.mem_append_right user List.mem_cons_self)
  refine ⟨⟨by simpa using hnonempty, fun user realm hsplit => ?_⟩, fun user realm hsplit => ?_⟩
  · exact absurd hsplit (hwhole user realm)
  · exact absurd hsplit (hwhole user realm)

theorem isNamed_qualified {user : List Char} (huser : user ≠ []) (realm : List Char) :
    IsNamed (qualified user realm) := by
  refine ⟨by simp [qualified], ?_⟩
  rintro _ behind hsplit hbehind rfl
  obtain ⟨c, more, rfl⟩ := List.exists_cons_of_ne_nil huser
  rw [qualified, String.toList_ofList] at hsplit
  obtain ⟨-, rfl⟩ := List.cons.inj hsplit
  exact hbehind (List.mem_append_right _ List.mem_cons_self)

theorem getLast?_qualified (user realm : List Char) :
    (qualified user realm).toList.getLast? = some '@' ↔ realm = [] ∨ realm.getLast? = some '@' := by
  rw [qualified, String.toList_ofList, List.getLast?_append, List.getLast?_cons, Option.some_or,
    Option.some_inj, ← getLast?_upperCaseChars_at, ← upperCaseChars_eq_nil_iff]
  cases hlast : (upperCaseChars realm).getLast? with
  | none => simp [List.getLast?_eq_none_iff.mp hlast]
  | some c =>
      have hnonempty : upperCaseChars realm ≠ [] := by
        rintro hnil
        simp [hnil] at hlast
      simp [hnonempty]

/-- A user in a realm is well named if the realm is. -/
theorem isPrincipal_qualified_iff {user realm : List Char} (huser : user ≠ []) :
    IsPrincipal (qualified user realm) ↔ realm ≠ [] ∧ realm.getLast? ≠ some '@' := by
  rw [← not_or, ← getLast?_qualified user]
  constructor
  · intro hprincipal hlast
    obtain ⟨front, hfront⟩ := List.getLast?_eq_some_iff.mp hlast
    exact hprincipal.realm front [] hfront List.not_mem_nil rfl
  · intro hlast
    refine ⟨isNamed_qualified huser realm, ?_⟩
    rintro front _ hsplit - rfl
    exact hlast (by rw [hsplit, List.getLast?_concat])

/-- A realm that is said apart counts only if it is not blank. -/
theorem isPrincipal_plain_iff
    {username : String} (hnonempty : trimChars username.toList ≠ [])
    (hlogon : '\\' ∉ trimChars username.toList) (hat : '@' ∉ trimChars username.toList)
    (domain : Option String) :
    let principal := qualify username (domain.filter fun d => !isBlankText d)
    IsNamed principal ∧
      (IsPrincipal principal ↔
        ∀ realm, domain = some realm → (trimChars realm.toList).getLast? ≠ some '@') := by
  intro principal
  have hplain : IsPrincipal (String.ofList (trimChars username.toList)) :=
    isPrincipal_of_not_mem hnonempty hat
  simp only [principal, qualify_plain hlogon hat]
  cases domain with
  | none => exact ⟨hplain.toIsNamed, iff_of_true hplain nofun⟩
  | some realm =>
      simp only [Option.some.injEq, forall_eq']
      by_cases hblank : isBlankText realm = true
      · have hempty : trimChars realm.toList = [] := trimChars_eq_nil_iff.mpr hblank
        simp only [Option.filter_some, hblank, Bool.not_true, Bool.false_eq_true, if_false]
        exact ⟨hplain.toIsNamed, iff_of_true hplain (by simp [hempty])⟩
      · have hsome : trimChars realm.toList ≠ [] :=
          fun hempty => hblank (trimChars_eq_nil_iff.mp hempty)
        simp only [Option.filter_some, hblank, Bool.not_false, if_true]
        refine ⟨isNamed_qualified hnonempty _, ?_⟩
        rw [isPrincipal_qualified_iff hnonempty]
        exact and_iff_right hsome

/-- What the validation of a password asks of the user name. -/
theorem validate_ofPassword
    {files : FileSystem} {username : String} {secret : Secret} {domain : Option String}
    (hvalid : (ofPassword username secret domain).validate files = .ok ()) :
    trimChars username.toList ≠ [] ∧ (trimChars username.toList).head? ≠ some '@' ∧
      (trimChars username.toList).getLast? ≠ some '@' ∧
      (trimChars username.toList).getLast? ≠ some '\\' := by
  have hnonempty : trimChars username.toList ≠ [] := by
    intro hempty
    simp [ofPassword, validate, hempty] at hvalid
  have hwell : isMalformed (trimChars username.toList) = false := by
    cases hmalformed : isMalformed (trimChars username.toList) with
    | false => rfl
    | true => simp [ofPassword, validate, hnonempty, hmalformed] at hvalid
  simp only [isMalformed, Bool.or_eq_false_iff, beq_eq_false_iff_ne] at hwell
  exact ⟨hnonempty, hwell.1.1, hwell.1.2, hwell.2⟩

/-- Validated credentials name a principal, and there is a user in it: what the validation asks of the
user name is enough for that.  The principal is well formed exactly if the realm is sound. -/
theorem isPrincipal_iff_of_validate
    {files : FileSystem} {username : String} {secret : Secret} {domain : Option String}
    (hvalid : (ofPassword username secret domain).validate files = .ok ()) :
    ∃ principal, (ofPassword username secret domain).principal? = some principal ∧
      IsNamed principal ∧
      (IsPrincipal principal ↔ SoundRealm (trimChars username.toList) domain) := by
  obtain ⟨hnonempty, hfirst, hsign, hbackslash⟩ := validate_ofPassword hvalid
  refine ⟨_, rfl, ?_⟩
  by_cases hlogon : '\\' ∈ trimChars username.toList
  · obtain ⟨realm, user, hname, hrealm⟩ := List.eq_append_cons_of_mem hlogon
    have huser : user ≠ [] := by
      rintro rfl
      exact hbackslash (by rw [hname, List.getLast?_concat])
    rw [qualify_logon hname hrealm, hname, soundRealm_logon_iff hrealm]
    exact ⟨isNamed_qualified huser realm, isPrincipal_qualified_iff huser⟩
  rw [soundRealm_iff_of_not_mem hlogon]
  by_cases hat : '@' ∈ trimChars username.toList
  · obtain ⟨user, realm, hname, hrealm⟩ := exists_last_of_mem hat
    have huser : user ≠ [] := by
      rintro rfl
      exact hfirst (by rw [hname]; rfl)
    have hsome : realm ≠ [] := by
      rintro rfl
      exact hsign (by rw [hname, List.getLast?_concat])
    have hwell : IsPrincipal (qualified user realm) := (isPrincipal_qualified_iff huser).mpr
      ⟨hsome, fun hlast => hrealm (List.mem_of_getLast? hlast)⟩
    rw [qualify_embedded hname hrealm hlogon]
    exact ⟨hwell.toIsNamed, iff_of_true hwell (absurd hat)⟩
  simpa only [hat, not_false_eq_true, true_imp_iff] using
    isPrincipal_plain_iff hnonempty hlogon hat domain

/-- Of two users with a realm in front, one has an empty realm: both pass the validation. -/
theorem isPrincipal_iff_of_validate_logon :
    (∃ principal, (ofPassword "CORP\\alice" ⟨"pw"⟩ none).principal? = some principal ∧
      IsPrincipal principal) ∧
    (ofPassword "\\alice" ⟨"pw"⟩ none).validate ⟨.directory [], []⟩ = .ok () ∧
    (ofPassword "\\alice" ⟨"pw"⟩ none).principal? = some "alice@" ∧ ¬ IsPrincipal "alice@" := by
  have hvalid : (ofPassword "\\alice" ⟨"pw"⟩ none).validate ⟨.directory [], []⟩ = .ok () := rfl
  have hprincipal : (ofPassword "\\alice" ⟨"pw"⟩ none).principal? = some "alice@" := by decide
  obtain ⟨principal, hprincipalOf, -, hsound⟩ :=
    @isPrincipal_iff_of_validate ⟨.directory [], []⟩ "CORP\\alice" ⟨"pw"⟩ none rfl
  obtain ⟨other, hother, -, hunsound⟩ := isPrincipal_iff_of_validate hvalid
  rw [hprincipal] at hother
  cases hother
  refine ⟨⟨principal, hprincipalOf, hsound.mpr ?_⟩, hvalid, hprincipal, fun hwell => ?_⟩
  · exact (@soundRealm_logon_iff "CORP".toList "alice".toList (by decide) none).mpr (by decide)
  · exact ((hunsound.mp hwell).logon [] "alice".toList rfl (by decide)).1 rfl

/-! ## A name and its realm in one text -/

/-- Whether the text `user@realm` names the user in this realm again. -/
structure Joinable (user realm : List Char) : Prop where
  named : realm.all isBlank = false
  /-- There is no blank behind the name. -/
  userEnd : trimChars user = user.dropWhile isBlank
  realmStart : realm.dropWhile isBlank = realm
  noLogon : '\\' ∉ realm
  /-- Only the end of a realm with a sign in it is put in upper case. -/
  upperFront : ∀ front behind, realm = front ++ '@' :: behind → '@' ∉ behind →
    upperCaseChars front = front

theorem trimChars_joined (username realm : String) :
    trimChars (username ++ "@" ++ realm).toList =
      username.toList.dropWhile isBlank ++ '@' :: dropEnd isBlank realm.toList := by
  rw [String.toList_append, String.toList_append, List.append_assoc]
  exact trimChars_append_cons (by decide) _ _

theorem count_qualified (user realm : List Char) :
    (qualified user realm).toList.count '@' = user.count '@' + (realm.count '@' + 1) := by
  rw [qualified, String.toList_ofList, List.count_append, List.count_cons_self,
    count_upperCaseChars_at]

section

variable {username realm : String}

theorem not_mem_of_not_holdsRealm
    (hplain : ¬ HoldsRealm username) {part : List Char} (hpart : part ⊆ username.toList) :
    '@' ∉ part ∧ '\\' ∉ part :=
  ⟨fun hmem => hplain (.inl (hpart hmem)), fun hmem => hplain (.inr (hpart hmem))⟩

theorem not_mem_trimChars_joined
    (hplain : ¬ HoldsRealm username) (hlogon : '\\' ∉ realm.toList) :
    '\\' ∉ trimChars (username ++ "@" ++ realm).toList := by
  have hstart := not_mem_of_not_holdsRealm hplain (List.dropWhile_sublist isBlank).subset
  have hend : '\\' ∉ dropEnd isBlank realm.toList := fun hc =>
    hlogon ((dropEnd_isPrefix _ _).mem hc)
  rw [trimChars_joined]
  simp [hstart.2, hend]

/-- A backslash in the realm takes what is behind it for the user. -/
theorem qualify_joined_ne_of_logon
    (hplain : ¬ HoldsRealm username) (hlogon : '\\' ∈ realm.toList) :
    qualify (username ++ "@" ++ realm) none ≠
      qualified (trimChars username.toList) (trimChars realm.toList) := by
  obtain ⟨domain, user, hrealm, hdomain⟩ := List.eq_append_cons_of_mem hlogon
  have hfront := not_mem_of_not_holdsRealm hplain (List.dropWhile_sublist isBlank).subset
  have hname := trimChars_joined username realm
  rw [hrealm, dropEnd_append_cons (by decide), ← List.cons_append, ← List.append_assoc] at hname
  have hbefore : '\\' ∉ username.toList.dropWhile isBlank ++ '@' :: domain := by
    simp [hfront.2, hdomain]
  rw [qualify_logon hname hbefore, hrealm, trimChars_append_cons (by decide)]
  -- The two texts differ in the number of their signs.
  intro heq
  have hcount := congrArg (·.toList.count '@') heq
  have huser : (trimChars username.toList).count '@' = 0 :=
    List.count_eq_zero_of_not_mem
      (not_mem_of_not_holdsRealm hplain fun _ hc => mem_trimChars hc).1
  have hdomain : (domain.dropWhile isBlank).count '@' ≤ domain.count '@' :=
    (List.dropWhile_sublist isBlank).count_le '@'
  have hother : ('\\' == '@') = false := by decide
  simp only [count_qualified, List.count_append, List.count_cons_self, List.count_cons, huser,
    hother, Bool.false_eq_true, if_false] at hcount
  omega

/-- A sign in the realm leaves what is in front of it as it is. -/
theorem qualify_joined_eq_iff_of_mem
    (hplain : ¬ HoldsRealm username) {front back : List Char}
    (hrealm : realm.toList = front ++ '@' :: back) (hback : '@' ∉ back)
    (hlogon : '\\' ∉ realm.toList) :
    qualify (username ++ "@" ++ realm) none =
        qualified (trimChars username.toList) (trimChars realm.toList) ↔
      username.toList.dropWhile isBlank = trimChars username.toList ∧
        upperCaseChars (front.dropWhile isBlank) = front := by
  have hname := trimChars_joined username realm
  have hstart := not_mem_of_not_holdsRealm hplain (List.dropWhile_sublist isBlank).subset
  have huser := not_mem_of_not_holdsRealm hplain fun _ hc => mem_trimChars hc
  have hend := not_mem_trimChars_joined hplain hlogon
  have hat : upperCaseOf '@' = ['@'] := by decide
  have hbehind : '@' ∉ dropEnd isBlank back := fun hc => hback ((dropEnd_isPrefix _ _).mem hc)
  rw [hrealm, dropEnd_append_cons (by decide), ← List.cons_append, ← List.append_assoc] at hname
  rw [qualify_embedded hname hbehind hend, hrealm, trimChars_append_cons (by decide), qualified,
    qualified, String.ofList_inj, List.append_assoc, List.cons_append,
    append_cons_inj hstart.1 huser.1, upperCaseChars_append, upperCaseChars_cons, hat,
    List.singleton_append, List.append_cancel_right_eq, eq_comm (a := front)]

/-- A realm without signs may only have blanks behind it. -/
theorem qualify_joined_eq_iff_of_not_mem
    (hplain : ¬ HoldsRealm username) (hrealm : '@' ∉ realm.toList) (hlogon : '\\' ∉ realm.toList) :
    qualify (username ++ "@" ++ realm) none =
        qualified (trimChars username.toList) (trimChars realm.toList) ↔
      username.toList.dropWhile isBlank = trimChars username.toList ∧
        upperCaseChars (dropEnd isBlank realm.toList) = upperCaseChars (trimChars realm.toList) := by
  have hname := trimChars_joined username realm
  have hstart := not_mem_of_not_holdsRealm hplain (List.dropWhile_sublist isBlank).subset
  have huser := not_mem_of_not_holdsRealm hplain fun _ hc => mem_trimChars hc
  have hbehind : '@' ∉ dropEnd isBlank realm.toList := fun hc =>
    hrealm ((dropEnd_isPrefix _ _).mem hc)
  have hend := not_mem_trimChars_joined hplain hlogon
  rw [qualify_embedded hname hbehind hend, qualified, qualified, String.ofList_inj,
    append_cons_inj hstart.1 huser.1]

end

/-- In front of a sign, blanks are kept and letters are not put in upper case. -/
theorem upperCaseChars_dropWhile_eq_iff (front : List Char) :
    upperCaseChars (front.dropWhile isBlank) = front ↔
      front.dropWhile isBlank = front ∧ upperCaseChars front = front := by
  constructor
  · intro hupper
    have hstart : front.dropWhile isBlank = front := by
      refine dropWhile_eq_self fun c hc => ?_
      rw [← hupper] at hc
      cases hdrop : front.dropWhile isBlank with
      | nil =>
          rw [hdrop] at hc
          cases hc
      | cons d rest =>
          rw [hdrop] at hc
          have hd : isBlank d = false := not_of_mem_head?_dropWhile (by rw [hdrop]; rfl)
          exact isBlank_head_upperCaseChars hd c hc
    exact ⟨hstart, by rwa [hstart] at hupper⟩
  · rintro ⟨hstart, hupper⟩
    rw [hstart, hupper]

theorem upperCaseChars_dropEnd_eq_iff {realm : List Char} (hnamed : realm.all isBlank = false) :
    upperCaseChars (dropEnd isBlank realm) = upperCaseChars (trimChars realm) ↔
      realm.dropWhile isBlank = realm := by
  refine ⟨fun hupper => ?_, fun hstart => by rw [trimChars, hstart]⟩
  cases hdrop : realm.dropWhile isBlank with
  | nil => simp [List.all_eq_true.mpr (List.dropWhile_eq_nil_iff.mp hdrop)] at hnamed
  | cons c rest =>
      have hc : isBlank c = false := not_of_mem_head?_dropWhile (by rw [hdrop]; rfl)
      have hsplit : realm = realm.takeWhile isBlank ++ c :: rest := by
        rw [← hdrop, List.takeWhile_append_dropWhile]
      have hend : dropEnd isBlank realm = realm.takeWhile isBlank ++ trimChars realm := by
        rw [trimChars, hdrop, hsplit, dropEnd_append_cons hc, ← hsplit]
        exact congrArg _ (dropEnd_append_cons hc [] rest).symm
      rw [hend, upperCaseChars_append, List.append_left_eq_self, upperCaseChars_eq_nil_iff] at hupper
      rw [hsplit, hupper, List.nil_append]

/-- What is read from `user@realm` is what is made of the two, where they can be joined. -/
theorem qualify_joined_eq_iff {username realm : String} (hplain : ¬ HoldsRealm username) :
    qualify (username ++ "@" ++ realm) none =
        qualify username ((some realm).filter fun d => !isBlankText d) ↔
      Joinable username.toList realm.toList := by
  have huser := not_mem_of_not_holdsRealm hplain fun _ hc => mem_trimChars hc
  rw [qualify_plain huser.2 huser.1]
  by_cases hblank : isBlankText realm = true
  · have hunnamed : ¬ Joinable username.toList realm.toList := fun hjoin =>
      absurd hjoin.named (by simpa [isBlankText] using hblank)
    simp only [Option.filter_some, hblank, Bool.not_true, Bool.false_eq_true, if_false]
    have hholds : HoldsRealm (username ++ "@" ++ realm) := .inl (by simp)
    obtain ⟨user, domain, hqualified⟩ := hholds.exists_qualified
    refine iff_of_false (fun heq => huser.1 ?_) hunnamed
    rw [hqualified, qualified, String.ofList_inj] at heq
    rw [← heq]
    exact List.mem_append_right _ List.mem_cons_self
  · have hnamed : realm.toList.all isBlank = false := by simpa [isBlankText] using hblank
    simp only [Option.filter_some, hblank, Bool.not_false, if_true]
    by_cases hlogon : '\\' ∈ realm.toList
    · exact iff_of_false (qualify_joined_ne_of_logon hplain hlogon) fun hjoin => hjoin.noLogon hlogon
    by_cases hrealm : '@' ∈ realm.toList
    · obtain ⟨front, back, hsplit, hback⟩ := exists_last_of_mem hrealm
      have hstart : realm.toList.dropWhile isBlank = realm.toList ↔
          front.dropWhile isBlank = front := by
        rw [hsplit, dropWhile_append_cons (by decide), List.append_cancel_right_eq]
      rw [qualify_joined_eq_iff_of_mem hplain hsplit hback hlogon, upperCaseChars_dropWhile_eq_iff,
        ← hstart]
      constructor
      · rintro ⟨huserEnd, hrealmStart, hupper⟩
        refine ⟨hnamed, huserEnd.symm, hrealmStart, hlogon, fun other behind hother hbehind => ?_⟩
        rw [hsplit, append_cons_inj_last hback hbehind] at hother
        rwa [← hother.1]
      · intro hjoin
        exact ⟨hjoin.userEnd.symm, hjoin.realmStart, hjoin.upperFront front back hsplit hback⟩
    · rw [qualify_joined_eq_iff_of_not_mem hplain hrealm hlogon, upperCaseChars_dropEnd_eq_iff hnamed]
      constructor
      · rintro ⟨huserEnd, hstart⟩
        refine ⟨hnamed, huserEnd.symm, hstart, hlogon, fun front behind hsplit => ?_⟩
        exact absurd (hsplit ▸ List.mem_append_right _ List.mem_cons_self) hrealm
      · exact fun hjoin => ⟨hjoin.userEnd.symm, hjoin.realmStart⟩

end Credentials

/-! ## Passwords and keytabs -/

namespace Configuration

open Credentials

theorem principal?_password
    {configuration : Configuration} {username : String} {secret : Secret}
    (husername : configuration.username = some username)
    (hpassword : configuration.password = some secret) :
    configuration.credentials.principal? =
      some (qualify username (configuration.domain.filter fun d => !isBlankText d)) := by
  simp only [credentials, husername, hpassword]
  rfl

/-- The principal of keys is put together first, and then read as a user name. -/
theorem principal?_keytab
    {configuration : Configuration} {username : String} {path : Bytes}
    (husername : configuration.username = some username) (hpassword : configuration.password = none)
    (hkeytab : configuration.keytab = some path) :
    configuration.credentials.principal? =
      some (qualify
        (match configuration.domain with
          | some realm => if HoldsRealm username then username else username ++ "@" ++ realm
          | none => username) none) := by
  have hholds : (username.toList.any fun c => c = '@' || c = '\\') = true ↔ HoldsRealm username := by
    simp [HoldsRealm, and_or_left, exists_or]
  have hprincipal : configuration.credentials.principal? =
      configuration.keytabPrincipal.map fun principal => qualify principal none := by
    simp only [credentials, husername, hpassword, hkeytab]
    rfl
  rw [hprincipal, keytabPrincipal, husername]
  cases configuration.domain with
  | none => rfl
  | some realm =>
      simp only [hholds]
      split <;> rfl

/-- With a password and with a keytab a user has the same principal if his name holds its realm, or there
is none, or the two can be joined; and only then. -/
theorem principals_agree_iff
    (configuration : Configuration) (username : String) (secret : Secret) (path : Bytes) :
    let named := { configuration with username := some username }
    ({ named with password := some secret } : Configuration).credentials.principal? =
        ({ named with password := none, keytab := some path } : Configuration).credentials.principal? ↔
      HoldsRealm username ∨
        ∀ realm, configuration.domain = some realm → Joinable username.toList realm.toList := by
  intro named
  rw [principal?_password rfl rfl, principal?_keytab rfl rfl rfl, Option.some_inj]
  change qualify username (configuration.domain.filter _) =
    qualify (match configuration.domain with | some _ => _ | none => _) none ↔ _
  cases configuration.domain with
  | none => simp
  | some realm =>
      by_cases hholds : HoldsRealm username
      · obtain ⟨user, domain, hqualified⟩ := hholds.exists_qualified
        simp only [hholds, if_true, hqualified, true_or]
      · simp only [hholds, if_false, false_or, Option.some.injEq, forall_eq']
        rw [eq_comm]
        exact qualify_joined_eq_iff hholds

/-- A blank domain is no realm for a password, and an empty one for a keytab. -/
theorem principals_agree_iff_blank :
    let named := { default with username := some "alice", domain := some " " }
    ({ named with password := some ⟨"pw"⟩ } : Configuration).credentials.principal? = some "alice" ∧
      ({ named with password := none, keytab := some [0x6b] } : Configuration).credentials.principal? =
        some "alice@" ∧
      ¬ Joinable "alice".toList " ".toList := by
  refine ⟨by decide, by decide, fun hjoin => ?_⟩
  have hagree := (principals_agree_iff { default with domain := some " " } "alice" ⟨"pw"⟩ [0x6b]).mpr
    (.inr fun realm hrealm => Option.some.inj hrealm ▸ hjoin)
  exact absurd hagree (by decide)

end Configuration

end ProxyHandshake
