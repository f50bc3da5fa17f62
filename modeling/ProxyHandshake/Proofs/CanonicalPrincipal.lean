import ProxyHandshake.Proofs.Letters
import ProxyHandshake.Proofs.Settings

/-!
# Principals in one form

A service and a host lose the blanks around them, and the host its last dots and its capitals.  Each is
done once, and the blanks go before the dots.  So a blank in front of the last dots stays at the end of the
host, and a principal with such a host is not the one that is made of its own service and host.  For all
others one pass is enough.
-/

namespace ProxyHandshake

open Text

namespace ServicePrincipal

/-! ## Hosts -/

def isDot (c : Char) : Bool :=
  c == '.'

/-- It makes no difference whether the capitals are replaced first or last. -/
theorem toList_normalHost (host : String) :
    (normalHost host).toList = dropEnd isDot (trimChars (lowerChars host.toList)) := by
  have hdot (c : Char) : isDot c.toLower = isDot c := by
    rw [isDot, isDot, Bool.eq_iff_iff, beq_iff_eq, beq_iff_eq]
    exact toLower_eq_iff (by decide) c
  rw [normalHost, String.toList_ofList, trimChars_lowerChars, dropEnd_lowerChars hdot]
  rfl

/-- What every host is after one pass. -/
structure IsNormalHost (host : List Char) : Prop where
  first : ∀ c ∈ host.head?, isBlank c = false
  undotted : ∀ c ∈ host.getLast?, c ≠ '.'
  small : ∀ c ∈ host, c.isUpper = false

theorem isNormalHost_normalHost (host : String) : IsNormalHost (normalHost host).toList := by
  rw [toList_normalHost]
  constructor
  · intro c hc
    exact (isTrimmed_trimChars _).first c (mem_head?_of_dropEnd hc)
  · intro c hc
    have hdot : isDot c = false := not_of_mem_getLast?_dropEnd hc
    exact beq_eq_false_iff_ne.mp hdot
  · intro c hc
    exact isUpper_eq_false_of_mem_lowerChars (mem_trimChars ((dropEnd_isPrefix _ _).mem hc))

/-- Another pass leaves a host as it is unless a blank stands at its end. -/
theorem normalHost_eq_self_iff {host : String} (hhost : IsNormalHost host.toList) :
    normalHost host = host ↔ IsTrimmed host.toList := by
  rw [← String.toList_inj, toList_normalHost, lowerChars_eq_self hhost.small]
  constructor
  · intro hsame
    have hfront := (dropEnd_isPrefix isDot (trimChars host.toList)).sublist
    rw [hsame] at hfront
    exact isTrimmed_iff.mpr ((trimChars_sublist _).antisymm hfront)
  · intro htrimmed
    rw [htrimmed.trimChars]
    exact dropEnd_eq_self fun c hc => beq_eq_false_iff_ne.mpr (hhost.undotted c hc)

/-- Whether a blank stands in front of the last dots, which may have more blanks behind them. -/
def HasBlankDots (host : List Char) : Prop :=
  ∃ front blank dots gap, host = front ++ blank :: '.' :: dots ++ gap ∧ isBlank blank = true ∧
    (∀ c ∈ dots, c = '.') ∧ ∀ c ∈ gap, isBlank c = true

theorem hasBlankDots_of_not_isTrimmed
    {host : List Char} (hends : ¬ IsTrimmed (dropEnd isDot (trimChars host))) :
    HasBlankDots host := by
  have hinner := isTrimmed_trimChars host
  obtain ⟨left, gap, hhost, hblank⟩ := exists_gaps host
  obtain ⟨dots, hsplit, hdots⟩ := exists_dropEnd isDot (trimChars host)
  obtain ⟨last, hlast, hmark⟩ : ∃ c ∈ (dropEnd isDot (trimChars host)).getLast?, isBlank c = true := by
    by_contra hnone
    refine hends ⟨fun c hc => hinner.first c (mem_head?_of_dropEnd hc), fun c hc => ?_⟩
    exact Bool.eq_false_iff.mpr fun hc' => hnone ⟨c, hc, hc'⟩
  obtain ⟨front, hfront⟩ := List.getLast?_eq_some_iff.mp hlast
  rw [hfront] at hsplit
  cases dots with
  | nil =>
      -- Without dots behind it, the blank would have been trimmed.
      have htrimmed := hinner.last last (by simp [hsplit])
      rw [hmark] at htrimmed
      cases htrimmed
  | cons dot dots =>
      obtain ⟨hfirst, hothers⟩ := List.forall_mem_cons.mp hdots
      have hdot : dot = '.' := beq_iff_eq.mp hfirst
      refine ⟨left ++ front, last, dots, gap, ?_, hmark, ?_, ?_⟩
      · rw [hhost, hsplit, hdot]
        simp
      · exact fun c hc => beq_iff_eq.mp (hothers c hc)
      · exact fun c hc => hblank c (List.mem_append_right left hc)

/-- A blank in front of the last dots is the last character when they are gone, if anything is left. -/
theorem not_isTrimmed_of_hasBlankDots
    {host : List Char} (hhost : HasBlankDots host)
    (hnonempty : dropEnd isDot (trimChars host) ≠ []) :
    ¬ IsTrimmed (dropEnd isDot (trimChars host)) := by
  obtain ⟨front, blank, dots, gap, rfl, hblank, hdots, hgap⟩ := hhost
  have hkept : dropEnd isBlank dots = dots := dropEnd_eq_self fun c hc => by
    rw [hdots c (List.mem_of_mem_getLast? hc)]
    rfl
  have htrim : trimChars (front ++ blank :: '.' :: dots ++ gap) =
      (front ++ [blank]).dropWhile isBlank ++ '.' :: dots := by
    rw [trimChars_append_right hgap, List.append_cons, trimChars_append_cons (by decide), hkept]
  have hdotted : ∀ c ∈ '.' :: dots, isDot c = true :=
    List.forall_mem_cons.mpr ⟨rfl, fun c hc => beq_iff_eq.mpr (hdots c hc)⟩
  rw [htrim, dropEnd_append_right hdotted] at hnonempty ⊢
  have hsuffix := List.dropWhile_suffix (l := front ++ [blank]) isBlank
  generalize (front ++ [blank]).dropWhile isBlank = rest at hsuffix hnonempty ⊢
  have hlast : rest.getLast? = some blank := by
    have hrest : rest ≠ [] := by
      rintro rfl
      exact hnonempty rfl
    rw [List.getLast?_eq_some_getLast hrest, hsuffix.getLast hrest, List.getLast_concat]
  have hwhole : dropEnd isDot rest = rest := dropEnd_eq_self fun c hc => by
    obtain rfl : blank = c := Option.some.inj (hlast.symm.trans hc)
    rw [isDot, beq_eq_false_iff_ne]
    rintro rfl
    cases hblank
  rw [hwhole]
  intro htrimmed
  rw [htrimmed.last blank hlast] at hblank
  cases hblank

/-! ## Principals -/

/-- What is kept of a service and a host after one pass, but for a blank that may stand at the end of the
host. -/
structure IsNormal (principal : ServicePrincipal) : Prop where
  service : IsTrimmed principal.service.toList
  host : IsNormalHost principal.host.toList

/-- A principal is normal but for a blank at the end of its host.  There is one exactly if it stood in front
of the last dots, and without one the principal is made of its own service and host again. -/
theorem of_again_iff {service host : String} {principal : ServicePrincipal}
    (hof : of service host = .ok principal) :
    IsNormal principal ∧
      (IsTrimmed principal.host.toList ↔ ¬ HasBlankDots host.toList) ∧
      (of principal.service principal.host = .ok principal ↔ IsTrimmed principal.host.toList) := by
  obtain ⟨rfl, hservice, hhost⟩ := of_eq_ok_iff.mp hof
  have hnormal := isNormalHost_normalHost host
  have htrimmed : IsTrimmed (trim service).toList := by
    rw [trim, String.toList_ofList]
    exact isTrimmed_trimChars service.toList
  refine ⟨⟨htrimmed, hnormal⟩, ?_, ?_⟩
  · have hkept : (normalHost host).toList = lowerChars (dropEnd isDot (trimChars host.toList)) := by
      rw [normalHost, String.toList_ofList]
      rfl
    have hnonempty : dropEnd isDot (trimChars host.toList) ≠ [] := by
      intro hnone
      rw [isPart_iff, hkept, hnone] at hhost
      exact hhost.1 rfl
    rw [hkept, isTrimmed_lowerChars]
    exact ⟨fun hends hblank => not_isTrimmed_of_hasBlankDots hblank hnonempty hends,
      fun hnone => by_contra fun hends => hnone (hasBlankDots_of_not_isTrimmed hends)⟩
  · have hagain : trim (trim service) = trim service := by
      rw [trim, htrimmed.trimChars, String.ofList_toList]
    rw [of_eq_ok_iff, ← normalHost_eq_self_iff hnormal, hagain]
    constructor
    · rintro ⟨hsame, -⟩
      exact (congrArg ServicePrincipal.host hsame).symm
    · intro hsame
      rw [hsame]
      exact ⟨rfl, hservice, hhost⟩

/-! ### A blank in front of a dot -/

/-- The blank stays, and the next pass takes it away. -/
theorem of_again_iff_dotted :
    let principal : ServicePrincipal := ⟨"HTTP", "proxy "⟩
    of " HTTP" "Proxy ." = .ok principal ∧ ¬ IsTrimmed principal.host.toList ∧
      of principal.service principal.host = .ok ⟨"HTTP", "proxy"⟩ := by
  have hof : of " HTTP" "Proxy ." = .ok ⟨"HTTP", "proxy "⟩ := by decide
  obtain ⟨-, hends, -⟩ := of_again_iff hof
  refine ⟨hof, ?_, by decide⟩
  rw [hends, not_not]
  exact ⟨"Proxy".toList, ' ', [], [], by decide, by decide, List.forall_mem_nil _, List.forall_mem_nil _⟩

end ServicePrincipal

end ProxyHandshake
