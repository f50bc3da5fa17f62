import ProxyHandshake.Proofs.Challenge.Joining
import Mathlib.Data.List.Basic

/-!
# Blanks around equals signs

Between the name of a parameter, its equals sign and its value there may be blanks.  The reader trims
them away where a parameter stands behind its scheme.  A later parameter is known by the equals sign
that ends its first word: a blank in front of the sign ends the word as well, so the name is taken for a
scheme and the value is lost.
-/

namespace ProxyHandshake
namespace Challenge

/-- A parameter with blanks in front of its equals sign and behind it. -/
structure SpacedParam where
  param : String × String
  before : List Char
  behind : List Char
  blank : ∀ c ∈ before ++ behind, Text.isBlank c = true

/-- A challenge with spaced parameters. -/
structure Spaced where
  scheme : String
  token68 : Option String
  params : List SpacedParam

namespace SpacedParam

variable (spaced : SpacedParam)

theorem before_blank : ∀ c ∈ spaced.before, Text.isBlank c = true :=
  (List.forall_mem_append.mp spaced.blank).1

theorem behind_blank : ∀ c ∈ spaced.behind, Text.isBlank c = true :=
  (List.forall_mem_append.mp spaced.blank).2

def write : List Char :=
  writeSpaced spaced.before spaced.behind spaced.param

end SpacedParam

namespace Spaced

/-- The challenge without the blanks. -/
def plain (spaced : Spaced) : Challenge :=
  ⟨spaced.scheme, spaced.token68, spaced.params.map (·.param)⟩

/-- What stands between the commas. -/
def parts (spaced : Spaced) : List (List Char) :=
  match spaced.token68, spaced.params with
  | some text, _ => [spaced.scheme.toList ++ ' ' :: text.toList]
  | none, [] => [spaced.scheme.toList]
  | none, param :: params =>
    (spaced.scheme.toList ++ ' ' :: param.write) :: params.map SpacedParam.write

def write (spaced : Spaced) : List Char :=
  separated spaced.parts

/-- A header that lists the challenges. -/
def writeAll (list : List Spaced) : String :=
  String.ofList (separated (list.map write))

/-- Without gaps, a challenge is written as it always is. -/
theorem write_of_close
    {spaced : Spaced} (hclose : ∀ param ∈ spaced.params, param.before = [] ∧ param.behind = []) :
    spaced.write = spaced.plain.write := by
  have hwrite : ∀ param ∈ spaced.params, param.write = writeParam param.param := by
    intro param hparam
    obtain ⟨hbefore, hbehind⟩ := hclose param hparam
    rw [SpacedParam.write, hbefore, hbehind, writeParam_eq]
  rw [write_eq, write]
  rcases spaced with ⟨scheme, _ | text, _ | ⟨param, params⟩⟩
  · rfl
  · obtain ⟨hfirst, hothers⟩ := List.forall_mem_cons.mp hwrite
    have hmap : params.map SpacedParam.write = (params.map (·.param)).map writeParam := by
      rw [List.map_map]
      exact List.map_congr_left hothers
    simp only [parts, Challenge.parts, plain, List.map_cons, hfirst, hmap]
  · rfl
  · rfl

/-! ## What is read -/

/-- The challenges that are read from one with these parameters still to come: a gap in front of an
equals sign ends the challenge, and begins another one. -/
def regroup (challenge : Challenge) : List SpacedParam → List Challenge
  | [] => [challenge]
  | param :: params =>
    if param.before = [] then
      regroup { challenge with params := challenge.params ++ [param.param] } params
    else challenge :: regroup (bare param.param.1) params

def regrouped (spaced : Spaced) : List Challenge :=
  match spaced.params with
  | [] => [spaced.plain]
  | param :: params => regroup ⟨spaced.scheme, none, [param.param]⟩ params

/-- Behind the first parameter there is no gap in front of an equals sign. -/
def IsSteady (spaced : Spaced) : Prop :=
  ∀ param ∈ spaced.params.tail, param.before = []

theorem regroup_eq_of_steady
    {params : List SpacedParam} (hsteady : ∀ param ∈ params, param.before = [])
    (challenge : Challenge) :
    regroup challenge params =
      [{ challenge with params := challenge.params ++ params.map (·.param) }] := by
  induction params generalizing challenge with
  | nil => simp [regroup]
  | cons param params ih =>
      obtain ⟨hfirst, hothers⟩ := List.forall_mem_cons.mp hsteady
      rw [regroup, if_pos hfirst, ih hothers]
      simp

/-- Every gap in front of an equals sign makes one more challenge. -/
theorem length_regroup (challenge : Challenge) (params : List SpacedParam) :
    (regroup challenge params).length = params.countP (fun param => param.before ≠ []) + 1 := by
  induction params generalizing challenge with
  | nil => rfl
  | cons param params ih =>
      rw [regroup, List.countP_cons]
      by_cases hfirst : param.before = [] <;> simp [hfirst, ih]

theorem length_regrouped (spaced : Spaced) :
    spaced.regrouped.length =
      spaced.params.tail.countP (fun param => param.before ≠ []) + 1 := by
  rcases spaced with ⟨scheme, token68, _ | ⟨param, params⟩⟩
  · rfl
  · exact length_regroup _ params

end Spaced

/-- Without a name there is no parameter. -/
theorem begin_unnamed
    {gap rest : List Char} (hgap : ∀ c ∈ gap, Text.isBlank c = true)
    (hlast : rest.getLast? = some '"') (scheme : List Char) :
    begin scheme (gap ++ '=' :: rest) = bare (String.ofList scheme) := by
  have hquote : ('=' :: rest).getLast? = some '"' := by
    rw [List.getLast?_cons, hlast]
    rfl
  have htrim : Text.trimChars (gap ++ '=' :: rest) = '=' :: rest := by
    rw [Text.trimChars_append_blanks hgap]
    refine Text.trimChars_eq_self ?_ ?_
    · rintro _ ⟨⟩
      decide
    · rw [hquote]
      rintro _ ⟨⟩
      decide
  have hparam : readParam? ('=' :: rest) = none := rfl
  simp only [begin, htrim, isToken68_of_quote hquote, hparam]
  rfl

/-- A name with a gap behind it is taken for a scheme. -/
theorem readItem_writeSpaced_of_gap
    {param : String × String} (hname : IsWord param.1.toList) {before behind : List Char}
    (hgap : before ≠ []) (hbefore : ∀ c ∈ before, Text.isBlank c = true) (done : List Challenge) :
    readItem done (writeSpaced before behind param) = bare param.1 :: done := by
  obtain ⟨c, gap, rfl⟩ := List.exists_cons_of_ne_nil hgap
  obtain ⟨hc, hmore⟩ := List.forall_mem_cons.mp hbefore
  have hlast : (behind ++ writeValue param.2.toList).getLast? = some '"' := by
    rw [List.getLast?_append, getLast?_writeValue]
    rfl
  have htrim := trimChars_writeSpaced hname (c :: gap) behind
  rw [writeSpaced, List.cons_append] at htrim ⊢
  rw [readItem_append hname (by simp [hc]) htrim, if_pos hc, begin_unnamed hmore hlast,
    String.ofList_toList]

namespace Spaced

theorem foldl_readItem_spaced
    {params : List SpacedParam} (hparams : ∀ param ∈ params, IsWord param.param.1.toList)
    (challenge : Challenge) (done : List Challenge) :
    (params.map SpacedParam.write).foldl readItem (challenge :: done) =
      (regroup challenge params).reverse ++ done := by
  induction params generalizing challenge done with
  | nil => rfl
  | cons param params ih =>
      obtain ⟨hname, hothers⟩ := List.forall_mem_cons.mp hparams
      rw [List.map_cons, List.foldl_cons, regroup, SpacedParam.write]
      by_cases hgap : param.before = []
      · rw [if_pos hgap, hgap, readItem_writeSpaced hname param.behind_blank, ih hothers]
      · rw [if_neg hgap, readItem_writeSpaced_of_gap hname hgap param.before_blank, ih hothers,
          List.reverse_cons, List.append_assoc]
        rfl

/-! ## Challenges in a list -/

variable {spaced : Spaced}

/-- A challenge without parameters has no equals signs to put blanks around. -/
theorem write_eq_of_no_params (hparams : spaced.params = []) :
    spaced.write = spaced.plain.write := by
  refine write_of_close fun param hparam => ?_
  rw [hparams] at hparam
  cases hparam

theorem readChars_write_params
    {scheme : String} {param : SpacedParam} {params : List SpacedParam}
    (hscheme : IsWord scheme.toList) (hname : IsWord param.param.1.toList)
    (hothers : ∀ other ∈ params, IsWord other.param.1.toList) :
    IsWhole (write ⟨scheme, none, param :: params⟩) ∧
      readChars (write ⟨scheme, none, param :: params⟩) =
        regrouped ⟨scheme, none, param :: params⟩ := by
  have huncut (other : SpacedParam) (hother : IsWord other.param.1.toList) :
      Uncut false other.write false :=
    uncut_writeSpaced hother other.before_blank other.behind_blank
  have hpieces : ∀ piece ∈ (scheme.toList ++ ' ' :: param.write) :: params.map SpacedParam.write,
      Uncut false piece false := by
    simp only [List.forall_mem_cons, List.forall_mem_map]
    exact ⟨uncut_begin hscheme (huncut param hname), fun other hother =>
      huncut other (hothers other hother)⟩
  have hbegin (done : List Challenge) :
      readItem done (scheme.toList ++ ' ' :: param.write) =
        ⟨scheme, none, [param.param]⟩ :: done := by
    have hlast := getLast?_writeSpaced param.before param.behind param.param
    rw [SpacedParam.write, readItem_begin hscheme hlast (by decide),
      begin_writeSpaced hname param.before_blank param.behind_blank, String.ofList_toList]
  rw [write, parts]
  refine ⟨⟨isClosed_separated fun piece hpiece => (hpieces piece hpiece).isClosed, ?_⟩, ?_⟩
  · rw [split_separated hpieces]
    refine beginsAnew_cons ?_ _
    rw [hbegin]
    exact List.cons_ne_nil _ _
  · rw [readChars, split_separated hpieces, List.foldl_cons, foldl_readItem_blank, hbegin,
      foldl_readItem_spaced hothers, List.append_nil, List.reverse_reverse]
    rfl

theorem readChars_write (hspaced : WellFormed spaced.plain) :
    IsWhole spaced.write ∧ readChars spaced.write = spaced.regrouped := by
  rcases spaced with ⟨scheme, token68, _ | ⟨param, params⟩⟩
  · rw [write_eq_of_no_params rfl]
    exact ⟨hspaced.isWhole_write, hspaced.readChars_write⟩
  · cases hspaced with
    | params _ _ hscheme _ hnames =>
        obtain ⟨hname, hothers⟩ := List.forall_mem_cons.mp hnames
        exact readChars_write_params hscheme hname fun other hother =>
          hothers other.param (List.mem_map_of_mem hother)

theorem regrouped_of_steady (hspaced : WellFormed spaced.plain) (hsteady : spaced.IsSteady) :
    spaced.regrouped = [spaced.plain] := by
  rcases spaced with ⟨scheme, token68, _ | ⟨param, params⟩⟩
  · rfl
  · cases hspaced with
    | params => exact regroup_eq_of_steady hsteady _

theorem isSteady_of_length (hlength : spaced.regrouped.length = 1) : spaced.IsSteady := by
  rw [length_regrouped, Nat.add_eq_right, List.countP_eq_zero] at hlength
  exact fun param hparam => by simpa using hlength param hparam

theorem length_le_flatMap_regrouped (list : List Spaced) :
    list.length ≤ (list.flatMap regrouped).length := by
  induction list with
  | nil => exact Nat.le_refl 0
  | cons spaced list ih =>
      rw [List.flatMap_cons, List.length_append, length_regrouped, List.length_cons]
      omega

theorem flatMap_regrouped_eq_iff
    {list : List Spaced} (hlist : ∀ spaced ∈ list, WellFormed spaced.plain) :
    list.flatMap regrouped = list.map plain ↔ ∀ spaced ∈ list, spaced.IsSteady := by
  induction list with
  | nil => simp
  | cons spaced list ih =>
      obtain ⟨hfirst, hothers⟩ := List.forall_mem_cons.mp hlist
      rw [List.flatMap_cons, List.map_cons, List.forall_mem_cons]
      constructor
      · intro heq
        -- A challenge that is added by one item is not taken away by another.
        have hsteady : spaced.IsSteady := by
          have hlength := congrArg List.length heq
          have hrest := length_le_flatMap_regrouped list
          have hpositive := length_regrouped spaced
          rw [List.length_append, List.length_cons, List.length_map] at hlength
          exact isSteady_of_length (by omega)
        rw [regrouped_of_steady hfirst hsteady] at heq
        exact ⟨hsteady, (ih hothers).mp (List.cons.inj heq).2⟩
      · rintro ⟨hsteady, hrest⟩
        rw [regrouped_of_steady hfirst hsteady, (ih hothers).mpr hrest, List.singleton_append]

/-- Blanks around equals signs change what is read exactly if one of them stands in front of the sign of
a parameter that is not the first of its challenge. -/
theorem read_eq_iff_steady
    (list : List Spaced) (hlist : ∀ spaced ∈ list, WellFormed spaced.plain) :
    read (writeAll list) = list.flatMap regrouped ∧
      (read (writeAll list) = read (Challenge.writeAll (list.map plain)) ↔
        ∀ spaced ∈ list, spaced.IsSteady) := by
  have hspaced : read (writeAll list) = list.flatMap regrouped := by
    have hwhole : ∀ text ∈ list.map write, IsWhole text :=
      List.forall_mem_map.mpr fun spaced hmem => (readChars_write (hlist spaced hmem)).1
    rw [read, writeAll, String.toList_ofList, readChars_separated hwhole, List.flatMap_map]
    exact List.flatMap_congr fun spaced hmem => (readChars_write (hlist spaced hmem)).2
  have hplain : read (Challenge.writeAll (list.map plain)) = list.map plain := by
    have hwellFormed : ∀ challenge ∈ list.map plain, WellFormed challenge :=
      List.forall_mem_map.mpr hlist
    have hwhole : ∀ text ∈ (list.map plain).map Challenge.write, IsWhole text :=
      List.forall_mem_map.mpr fun challenge hmem => (hwellFormed challenge hmem).isWhole_write
    rw [read, Challenge.writeAll, String.toList_ofList, readChars_separated hwhole,
      flatMap_readChars_write hwellFormed]
  rw [hplain, hspaced]
  exact ⟨rfl, flatMap_regrouped_eq_iff hlist⟩

/-- A challenge with two parameters; `gap` stands in front of the second equals sign. -/
def basic (gap : List Char) (hgap : gap.all Text.isBlank = true) : Spaced where
  scheme := "Basic"
  token68 := none
  params :=
    [⟨("realm", "a"), [' '], ['\t'], Text.forall_mem_of_all (by decide)⟩,
      ⟨("Negotiate", "x"), gap, [' '], List.forall_mem_append.mpr
        ⟨List.all_eq_true.mp hgap, Text.forall_mem_of_all (by decide)⟩⟩]

/-- Three blanks do not matter; a fourth makes a challenge of the second name, and one that offers to
negotiate. -/
theorem read_eq_iff_steady_phantom :
    WellFormed ⟨"Basic", none, [("realm", "a"), ("Negotiate", "x")]⟩ ∧
      read "Basic realm =\t\"a\", Negotiate= \"x\"" =
        read "Basic realm=\"a\", Negotiate=\"x\"" ∧
      read "Basic realm =\t\"a\", Negotiate = \"x\"" =
        [⟨"Basic", none, [("realm", "a")]⟩, bare "Negotiate"] ∧
      read "Basic realm =\t\"a\", Negotiate = \"x\"" ≠
        read "Basic realm=\"a\", Negotiate=\"x\"" ∧
      (bare "Negotiate").isNegotiate = true := by
  have hbasic : WellFormed ⟨"Basic", none, [("realm", "a"), ("Negotiate", "x")]⟩ :=
    .params _ _ (by decide) (by decide) (by simp only [List.forall_mem_cons]; decide)
  have hwell (gap : List Char) (hgap : gap.all Text.isBlank = true) :
      ∀ spaced ∈ [basic gap hgap], WellFormed spaced.plain :=
    List.forall_mem_singleton.mpr hbasic
  have hplain (gap : List Char) (hgap : gap.all Text.isBlank = true) :
      Challenge.writeAll ([basic gap hgap].map plain) = "Basic realm=\"a\", Negotiate=\"x\"" := by
    change Challenge.writeAll [⟨"Basic", none, [("realm", "a"), ("Negotiate", "x")]⟩] = _
    decide
  have hclose : writeAll [basic [] (by decide)] = "Basic realm =\t\"a\", Negotiate= \"x\"" := by
    decide
  have hopen : writeAll [basic [' '] (by decide)] =
      "Basic realm =\t\"a\", Negotiate = \"x\"" := by
    decide
  obtain ⟨-, hsame⟩ := read_eq_iff_steady [basic [] (by decide)] (hwell [] _)
  obtain ⟨hread, hdiffers⟩ := read_eq_iff_steady [basic [' '] (by decide)] (hwell [' '] _)
  rw [hclose, hplain] at hsame
  rw [hopen] at hread
  rw [hopen, hplain] at hdiffers
  refine ⟨hbasic, hsame.mpr ?_, hread, fun heq => ?_, by decide⟩
  · simp [basic, IsSteady]
  · have hsteady := hdiffers.mp heq (basic [' '] (by decide)) (List.mem_singleton.mpr rfl)
    exact absurd (hsteady _ (List.mem_singleton.mpr rfl)) (List.cons_ne_nil _ _)

end Spaced

end Challenge
end ProxyHandshake
