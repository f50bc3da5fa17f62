import ProxyHandshake.Proofs.Connect.Head
import ProxyHandshake.Proofs.Connect.Limit
import ProxyHandshake.Proofs.Tunnel

/-!
# Asking for a tunnel

The client writes two lines, or three if it has an authorization, and an empty line behind them.  What it
puts into these lines comes from elsewhere, but as long as the name of the target has no carriage return
in it, nobody can take the request for two: it has one empty line, and that is its end.
-/

namespace ProxyHandshake
namespace Connect

/-! ## What is written -/

/-- The lines that ask for a connection to `authority`. -/
def requestLines (authority : String) (authorization : Option HeaderValue) : List Bytes :=
  Utf8.encode ("CONNECT " ++ authority ++ " HTTP/1.1") :: Utf8.encode ("Host: " ++ authority) ::
    (authorization.map fun value => Utf8.encode "Proxy-Authorization: " ++ value.bytes).toList

theorem requestHead_eq (authority : String) (authorization : Option HeaderValue) :
    requestHead authority authorization = headOf (requestLines authority authorization) := by
  cases authorization <;> simp [requestHead, headOf, requestLines]

/-- All that the client writes is the head. -/
theorem written_establish
    (authority : String) (authorization : Option HeaderValue) {stream : Stream}
    (hwrites : stream.writeError = none) :
    (establish authority authorization stream).2.written =
      stream.written ++ requestHead authority authorization := by
  have hread := readReply_written stream (stream.written ++ requestHead authority authorization)
  rw [establish_of_writes hwrites, Stream.asked, hread]

/-! ## The lines of a request -/

theorem not_mem_encode {text : String} (htext : '\r' ∉ text.toList) : 13 ∉ Utf8.encode text :=
  fun hmem => htext (Utf8.mem_of_mem_encodeChars hmem (by decide))

theorem line_of_mem_requestLines
    {authority : String} (hauthority : '\r' ∉ authority.toList)
    (authorization : Option HeaderValue) :
    ∀ line ∈ requestLines authority authorization, line ≠ [] ∧ 13 ∉ line := by
  have hnonempty {front : String} (hfront : Utf8.encode front ≠ []) (rest : String) :
      Utf8.encode (front ++ rest) ≠ [] := by
    rw [Utf8.encode, String.toList_append, Utf8.encodeChars_append]
    exact List.append_ne_nil_of_left_ne_nil hfront _
  simp only [requestLines, List.forall_mem_cons]
  refine ⟨⟨?_, not_mem_encode ?_⟩, ⟨hnonempty (by decide) _, not_mem_encode ?_⟩, ?_⟩
  · rw [String.append_assoc]
    exact hnonempty (by decide) _
  · simp [hauthority]
  · simp [hauthority]
  · cases authorization with
    | none => simp
    | some value =>
        have hname : Utf8.encode "Proxy-Authorization: " ≠ [] := by decide
        have hreturn : 13 ∉ Utf8.encode "Proxy-Authorization: " := by decide
        have hvalue : 13 ∉ value.bytes := not_mem_of_isHeaderByte value.legal
        simp [hname, hreturn, hvalue]

theorem cutLines_requestHead
    {authority : String} (hauthority : '\r' ∉ authority.toList)
    (authorization : Option HeaderValue) :
    cutLines (requestHead authority authorization) =
      requestLines authority authorization ++ [[], []] := by
  rw [requestHead_eq]
  exact cutLines_headOf fun line hline => (line_of_mem_requestLines hauthority authorization line hline).2

theorem isHead_requestHead
    {authority : String} (hauthority : '\r' ∉ authority.toList)
    (authorization : Option HeaderValue) :
    IsHead (requestHead authority authorization) (requestHead authority authorization) := by
  have hhead := isHead_headOf (line_of_mem_requestLines hauthority authorization) []
  rwa [List.append_nil, ← requestLines, ← requestHead_eq] at hhead

theorem length_lt_requestHead (authority : String) (authorization : Option HeaderValue) :
    authority.toList.length + 1 < (requestHead authority authorization).length := by
  have hline : ("CONNECT " ++ authority ++ " HTTP/1.1").toList.length =
      8 + authority.toList.length + 9 := by
    simp only [String.toList_append, List.length_append]
    rfl
  have hbytes := Utf8.length_le_encodeChars ("CONNECT " ++ authority ++ " HTTP/1.1").toList
  have hfirst : (Utf8.encode ("CONNECT " ++ authority ++ " HTTP/1.1")).length ≤
      (requestHead authority authorization).length := by
    rw [requestHead_eq]
    exact length_le_headOf List.mem_cons_self
  rw [Utf8.encode] at hfirst
  omega

/-! ## One request -/

/-- The client writes one request with just its own lines, and the reader of heads takes all of it unless
it is too long. -/
theorem establish_asks_once
    {authority : String} (hauthority : '\r' ∉ authority.toList)
    (authorization : Option HeaderValue) {stream : Stream} (hwrites : stream.writeError = none) :
    ∃ head, (establish authority authorization stream).2.written = stream.written ++ head ∧
      (emptyLine <:+ head ∧
        ∀ before behind, head = before ++ emptyLine ++ behind → behind = []) ∧
      cutLines head =
        Utf8.encode ("CONNECT " ++ authority ++ " HTTP/1.1") ::
          Utf8.encode ("Host: " ++ authority) ::
          (authorization.toList.map fun value =>
            Utf8.encode "Proxy-Authorization: " ++ value.bytes) ++ [[], []] ∧
      ∀ other : Stream, other.unread = head →
        (head.length ≤ maxHead → readHead other = (.ok head, { other with unread := [] })) ∧
        (maxHead + 1 < head.length →
          (readHead other).1 = .error (.malformed .headTooLong)) := by
  have hlines := line_of_mem_requestLines hauthority authorization
  have hhead := isHead_requestHead hauthority authorization
  refine ⟨requestHead authority authorization, written_establish authority authorization hwrites,
    ⟨hhead.ends, fun before behind hsplit => ?_⟩, ?_, fun other hother => ⟨fun hshort => ?_, ?_⟩⟩
  · rw [requestHead_eq] at hsplit
    exact eq_nil_of_headOf hlines hsplit
  · rw [cutLines_requestHead hauthority, requestLines]
    cases authorization <;> rfl
  · rw [← hother] at hhead hshort ⊢
    rw [readHead_of_isHead hhead (Nat.le_succ_of_le hshort), Stream.skip, List.drop_length]
  · rw [← hother] at hhead ⊢
    exact readHead_of_long hhead

/-! ### An authorization with colons, and a name that is too long -/

def colons : HeaderValue where
  bytes := [9, 0xFF, 58, 32, 58]
  legal := by decide

theorem establish_asks_once_colons :
    let head := (establish "target:443" (some colons) ⟨[], none, none, []⟩).2.written
    cutLines head =
        [Utf8.encode "CONNECT target:443 HTTP/1.1", Utf8.encode "Host: target:443",
          Utf8.encode "Proxy-Authorization: " ++ [9, 0xFF, 58, 32, 58], [], []] ∧
      readHead ⟨head, none, none, []⟩ = (.ok head, ⟨[], none, none, []⟩) := by
  intro head
  obtain ⟨written, hwritten, -, hcut, hread⟩ :=
    @establish_asks_once "target:443" (by decide) (some colons) ⟨[], none, none, []⟩ rfl
  obtain rfl : head = written := hwritten
  have hshort : head.length ≤ maxHead := by decide
  exact ⟨hcut, (hread ⟨head, none, none, []⟩ rfl).1 hshort⟩

/-- A name without line ends in it. -/
def longName : String :=
  String.ofList (List.replicate maxHead 'a')

/-- A request with a long name is one request, too, but the reader does not take it. -/
theorem longName_not_read :
    ('\r' ∉ longName.toList ∧ '\n' ∉ longName.toList) ∧
      ∃ head, (establish longName none ⟨[], none, none, []⟩).2.written = head ∧
        (readHead ⟨head, none, none, []⟩).1 = .error (.malformed .headTooLong) := by
  have hname {c : Char} (hc : c ≠ 'a') : c ∉ longName.toList := by
    rw [longName, String.toList_ofList]
    exact fun hmem => hc (List.eq_of_mem_replicate hmem)
  have hreturn : '\r' ∉ longName.toList := hname (by decide)
  have hlong : maxHead + 1 < (requestHead longName none).length := by
    have hlength : longName.toList.length = maxHead := by
      rw [longName, String.toList_ofList, List.length_replicate]
    have hbytes := length_lt_requestHead longName none
    omega
  have hwritten : (establish longName none ⟨[], none, none, []⟩).2.written =
      requestHead longName none :=
    (written_establish longName none rfl).trans (List.nil_append _)
  refine ⟨⟨hreturn, hname (by decide)⟩, _, hwritten, ?_⟩
  exact readHead_of_long (isHead_requestHead hreturn none) hlong

end Connect
end ProxyHandshake
