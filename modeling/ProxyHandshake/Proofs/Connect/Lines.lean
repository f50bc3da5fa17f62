import ProxyHandshake.Proofs.Connect.Position

/-!
# Heads and their lines

A head is a list of lines, each with a line end behind it, and one line end more.  Cutting it at its line
ends gives the lines back.  A line end cannot overlap another one, so an empty line inside a head would
be one of these pieces; if none of its lines is empty, the head ends where its first empty line does.
-/

namespace ProxyHandshake
namespace Connect

/-- The lines of a head, and the empty line that ends it. -/
def headOf (lines : List Bytes) : Bytes :=
  lines.flatMap (· ++ lineEnd) ++ lineEnd

theorem length_le_headOf {lines : List Bytes} {line : Bytes} (hline : line ∈ lines) :
    line.length ≤ (headOf lines).length := by
  obtain ⟨before, behind, rfl⟩ := List.append_of_mem hline
  simp only [headOf, List.flatMap_append, List.flatMap_cons, List.length_append]
  omega

theorem headOf_cons (line : Bytes) (lines : List Bytes) :
    headOf (line :: lines) = line ++ lineEnd ++ headOf lines := by
  simp [headOf]

/-! ## Cutting at line ends -/

/-- The lines of a head. -/
def cutLines : Bytes → List Bytes
  | 13 :: 10 :: rest => [] :: cutLines rest
  | b :: rest => Text.growFirst b (cutLines rest)
  | [] => [[]]

theorem cutLines_cons {b : UInt8} {rest : Bytes} (hend : b = 13 → rest.head? ≠ some 10) :
    cutLines (b :: rest) = Text.growFirst b (cutLines rest) := by
  rw [cutLines]
  rintro behind rfl rfl
  exact hend rfl rfl

theorem cutLines_ne_nil (bytes : Bytes) : cutLines bytes ≠ [] := by
  fun_cases cutLines bytes with
  | case1 rest => exact List.cons_ne_nil _ _
  | case2 b rest hend => exact Text.growFirst_ne_nil b _
  | case3 => exact List.cons_ne_nil _ _

/-- Bytes are cut at every line end in them. -/
theorem cutLines_append (before behind : Bytes) :
    cutLines (before ++ lineEnd ++ behind) = cutLines before ++ cutLines behind := by
  fun_induction cutLines before with
  | case1 rest ih =>
      simp only [List.cons_append, cutLines, ih]
  | case2 b rest hend ih =>
      -- A carriage return at the end of `rest` is not the one of the line end behind it.
      have hfeed : b = 13 → (rest ++ lineEnd ++ behind).head? ≠ some 10 := by
        rintro rfl hhead
        cases rest with
        | nil => cases hhead
        | cons c rest =>
            obtain rfl : c = 10 := Option.some.inj hhead
            exact hend rest rfl rfl
      obtain ⟨first, others, hcut⟩ := List.exists_cons_of_ne_nil (cutLines_ne_nil rest)
      rw [List.cons_append, List.cons_append, cutLines_cons hfeed, ih, hcut]
      rfl
  | case3 => rfl

theorem cutLines_eq_singleton {line : Bytes} (hline : 13 ∉ line) : cutLines line = [line] := by
  induction line with
  | nil => rfl
  | cons b line ih =>
      rw [List.mem_cons, not_or] at hline
      rw [cutLines_cons (fun hb => absurd hb.symm hline.1), ih hline.2]
      rfl

theorem eq_nil_of_cutLines {bytes : Bytes} (hcut : cutLines bytes = [[]]) : bytes = [] := by
  fun_cases cutLines bytes with
  | case1 rest => simp [cutLines, cutLines_ne_nil] at hcut
  | case2 b rest hend =>
      obtain ⟨first, others, hrest⟩ := List.exists_cons_of_ne_nil (cutLines_ne_nil rest)
      simp [cutLines, hrest, Text.growFirst] at hcut
  | case3 => rfl

theorem cutLines_headOf {lines : List Bytes} (hlines : ∀ line ∈ lines, 13 ∉ line) :
    cutLines (headOf lines) = lines ++ [[], []] := by
  induction lines with
  | nil => rfl
  | cons line lines ih =>
      obtain ⟨hline, hothers⟩ := List.forall_mem_cons.mp hlines
      rw [headOf_cons, cutLines_append, cutLines_eq_singleton hline, ih hothers,
        List.singleton_append, List.cons_append]

/-! ## Where a head ends -/

/-- In front of the last two, none of the pieces is empty. -/
theorem eq_singleton_of_append
    {lines front back : List Bytes} (hlines : [] ∉ lines) (hback : back ≠ [])
    (hsplit : lines ++ [[], []] = front ++ [] :: back) : back = [[]] := by
  rcases List.append_eq_append_iff.mp hsplit with ⟨more, rfl, hrest⟩ | ⟨more, rfl, hrest⟩
  · cases more with
    | nil => exact (List.cons.inj hrest).2.symm
    | cons piece more =>
        obtain ⟨-, hrest⟩ := List.cons.inj hrest
        cases more with
        | nil => exact absurd (List.cons.inj hrest).2.symm hback
        | cons piece more => simp at hrest
  · cases more with
    | nil => exact (List.cons.inj hrest).2
    | cons piece more =>
        obtain ⟨rfl, -⟩ := List.cons.inj hrest
        exact absurd (List.mem_append_right front List.mem_cons_self) hlines

/-- A head of lines that are not empty has no empty line but the one at its end. -/
theorem eq_nil_of_headOf
    {lines : List Bytes} (hlines : ∀ line ∈ lines, line ≠ [] ∧ 13 ∉ line) {before behind : Bytes}
    (hsplit : headOf lines = before ++ emptyLine ++ behind) : behind = [] := by
  have hnonempty : [] ∉ lines := fun hmem => (hlines [] hmem).1 rfl
  have hbehind : cutLines (lineEnd ++ behind) = [] :: cutLines behind := cutLines_append [] behind
  have hcut := congrArg cutLines hsplit
  rw [cutLines_headOf fun line hline => (hlines line hline).2, emptyLine, ← List.append_assoc,
    List.append_assoc (before ++ lineEnd), cutLines_append, hbehind] at hcut
  exact eq_nil_of_cutLines (eq_singleton_of_append hnonempty (cutLines_ne_nil behind) hcut)

theorem emptyLine_isSuffix_headOf (first : Bytes) (lines : List Bytes) :
    emptyLine <:+ headOf (first :: lines) := by
  induction lines generalizing first with
  | nil => exact ⟨first, by simp [headOf, emptyLine]⟩
  | cons next lines ih =>
      rw [headOf_cons]
      exact (ih next).trans (List.suffix_append _ _)

theorem isHead_headOf
    {first : Bytes} {lines : List Bytes} (hlines : ∀ line ∈ first :: lines, line ≠ [] ∧ 13 ∉ line)
    (rest : Bytes) :
    IsHead (headOf (first :: lines)) (headOf (first :: lines) ++ rest) := by
  refine ⟨List.prefix_append _ _, emptyLine_isSuffix_headOf first lines, fun other hother hends => ?_⟩
  refine Nat.le_of_not_lt fun hshorter => ?_
  obtain ⟨behind, hbehind⟩ :=
    List.prefix_of_prefix_length_le hother (List.prefix_append _ _) (Nat.le_of_lt hshorter)
  obtain ⟨before, rfl⟩ := hends
  have hnone := eq_nil_of_headOf hlines hbehind.symm
  rw [hnone, List.append_nil] at hbehind
  rw [hbehind] at hshorter
  exact Nat.lt_irrefl _ hshorter

/-- A head of lines that are not empty is read to its end. -/
theorem readHead_headOf
    {stream : Stream} {first : Bytes} {lines : List Bytes} {rest : Bytes}
    (hlines : ∀ line ∈ first :: lines, line ≠ [] ∧ 13 ∉ line)
    (hshort : (headOf (first :: lines)).length ≤ maxHead + 1)
    (hunread : stream.unread = headOf (first :: lines) ++ rest) :
    readHead stream = (.ok (headOf (first :: lines)), { stream with unread := rest }) := by
  have hhead : IsHead (headOf (first :: lines)) stream.unread := by
    rw [hunread]
    exact isHead_headOf hlines rest
  rw [readHead_of_isHead hhead hshort, Stream.skip, hunread, List.drop_left]

end Connect
end ProxyHandshake
