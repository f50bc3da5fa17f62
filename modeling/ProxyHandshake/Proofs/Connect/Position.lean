import ProxyHandshake.Connect
import ProxyHandshake.Proofs.Text

/-!
# How far the answer to CONNECT is read

An answer is read to the end of its head, and a refusal on to the end of its body.  Every byte behind
that is left where it is: behind a grant it belongs to the target.

The head is read byte by byte.  The invariant of the loop is that none of the bytes so far, nor any
beginning of them, ends with an empty line; so where the loop stops is where the first empty line ends,
also when the line before it ends with a carriage return of its own.  If none ends in time, the loop
stops at the limit or with the connection.
-/

namespace ProxyHandshake
namespace Connect

/-! ## The end of the head -/

def emptyLine : Bytes := lineEnd ++ lineEnd

/-- The shortest beginning of `bytes` that ends with an empty line. -/
structure IsHead (head bytes : Bytes) : Prop where
  isPrefix : head <+: bytes
  ends : emptyLine <:+ head
  shortest : ∀ other, other <+: bytes → emptyLine <:+ other → head.length ≤ other.length

theorem endsHead_iff (seen : Bytes) : endsHead seen = true ↔ emptyLine <:+ seen.reverse := by
  have hreverse : emptyLine.reverse = [10, 13, 10, 13] := rfl
  rw [← List.reverse_prefix, List.reverse_reverse, hreverse, List.prefix_iff_eq_take, endsHead,
    beq_iff_eq, eq_comm]
  rfl

/-- Neither the bytes nor any beginning of them ends with an empty line. -/
def IsOpen (bytes : Bytes) : Prop :=
  ∀ text, text <+: bytes → ¬ emptyLine <:+ text

theorem isOpen_nil : IsOpen [] := by
  intro text htext hends
  obtain rfl := List.prefix_nil.mp htext
  simp [emptyLine, lineEnd] at hends

namespace IsOpen

variable {seen : Bytes} {b : UInt8}

theorem concat (hopen : IsOpen seen) (hends : ¬ emptyLine <:+ seen ++ [b]) :
    IsOpen (seen ++ [b]) := by
  intro text htext
  rcases List.prefix_concat_iff.mp htext with rfl | htext
  · exact hends
  · exact hopen text htext

/-- A head ends behind what is open. -/
theorem length_lt {head rest : Bytes} (hopen : IsOpen seen) (hhead : IsHead head (seen ++ rest)) :
    seen.length < head.length := by
  refine Nat.lt_of_not_le fun hshort => ?_
  have hsooner : head <+: seen :=
    List.prefix_of_prefix_length_le hhead.isPrefix (List.prefix_append _ _) hshort
  exact hopen head hsooner hhead.ends

theorem isHead (hopen : IsOpen seen) (hends : emptyLine <:+ seen ++ [b]) (rest : Bytes) :
    IsHead (seen ++ [b]) (seen ++ [b] ++ rest) := by
  refine ⟨List.prefix_append _ _, hends, fun other hother hotherEnds => ?_⟩
  refine Nat.le_of_not_lt fun hshorter => ?_
  rw [List.length_append, List.length_singleton] at hshorter
  rw [List.append_assoc] at hother
  have hsooner : other <+: seen :=
    List.prefix_of_prefix_length_le hother (List.prefix_append _ _) (by omega)
  exact hopen other hsooner hotherEnds

end IsOpen

/-- The error of a connection that ends before the head does. -/
def cutOff (readError : Option IoError) : TransportError :=
  match readError with
  | some cause => .io cause
  | none => .malformed .closedEarly

/-- How reading a head from `bytes` ends, and what it leaves. -/
inductive HeadRead (readError : Option IoError) (bytes : Bytes) :
    Except TransportError Bytes × Bytes → Prop
  | ended (head rest : Bytes) (hsplit : bytes = head ++ rest) (hhead : IsHead head bytes)
      (hshort : head.length ≤ maxHead + 1) : HeadRead readError bytes (.ok head, rest)
  | tooLong (hopen : IsOpen (bytes.take (maxHead + 1))) (hlong : maxHead < bytes.length) :
      HeadRead readError bytes (.error (.malformed .headTooLong), bytes.drop (maxHead + 1))
  | cutOff (hopen : IsOpen bytes) (hshort : bytes.length ≤ maxHead) :
      HeadRead readError bytes (.error (cutOff readError), [])

/-- The loop keeps what it has seen open and within the limit, so at each byte it can end in one way
only. -/
theorem headRead_readOn
    {readError : Option IoError} {seen unread : Bytes} (hopen : IsOpen seen.reverse)
    (hshort : seen.length ≤ maxHead) :
    HeadRead readError (seen.reverse ++ unread) (readOn readError seen unread) := by
  induction unread generalizing seen with
  | nil =>
      have hcutOff : readOn readError seen [] = (.error (cutOff readError), []) := by
        cases readError <;> rfl
      rw [hcutOff, List.append_nil]
      exact .cutOff hopen (by rwa [List.length_reverse])
  | cons b unread ih =>
      have hnext : (b :: seen).reverse = seen.reverse ++ [b] := List.reverse_cons
      have hsplit : seen.reverse ++ b :: unread = seen.reverse ++ [b] ++ unread := by simp
      have hends := endsHead_iff (b :: seen)
      rw [hnext] at hends
      rw [readOn, hsplit]
      split
      next hended =>
        rw [hnext]
        refine .ended _ _ rfl (hopen.isHead (hends.mp hended) unread) ?_
        simpa using hshort
      next hgoesOn =>
        have hopen : IsOpen (seen.reverse ++ [b]) :=
          hopen.concat fun hended => hgoesOn (hends.mpr hended)
        split
        next hlong =>
          have hlength : (seen.reverse ++ [b]).length = maxHead + 1 := by
            simp only [List.length_cons, List.length_append, List.length_reverse,
              List.length_nil] at hlong ⊢
            omega
          have hlast : HeadRead readError (seen.reverse ++ [b] ++ unread)
              (.error (.malformed .headTooLong),
                (seen.reverse ++ [b] ++ unread).drop (maxHead + 1)) := by
            refine .tooLong ?_ ?_
            · rwa [← hlength, List.take_left]
            · rw [List.length_append]
              omega
          rwa [← hlength, List.drop_left] at hlast
        next hshort =>
          rw [← hnext]
          exact ih (by rwa [hnext]) (Nat.le_of_not_lt hshort)

theorem headRead_readHead (stream : Stream) :
    ∃ result rest, readHead stream = (result, { stream with unread := rest }) ∧
      HeadRead stream.readError stream.unread (result, rest) :=
  ⟨_, _, rfl, @headRead_readOn stream.readError [] stream.unread isOpen_nil (Nat.zero_le _)⟩

theorem IsHead.unique {head other bytes : Bytes} (hhead : IsHead head bytes) (hother : IsHead other bytes) :
    head = other := by
  have hlength : head.length = other.length :=
    Nat.le_antisymm (hhead.shortest other hother.isPrefix hother.ends)
      (hother.shortest head hhead.isPrefix hhead.ends)
  exact List.prefix_of_prefix_length_le hhead.isPrefix hother.isPrefix (Nat.le_of_eq hlength)
    |>.eq_of_length hlength

namespace HeadRead

variable {readError : Option IoError} {bytes rest : Bytes} {outcome : Except TransportError Bytes}

theorem eq_ok_iff (hread : HeadRead readError bytes (outcome, rest)) (head : Bytes) :
    outcome = .ok head ↔ IsHead head bytes ∧ head.length ≤ maxHead + 1 := by
  cases hread with
  | ended read _ _ hread hshort =>
      constructor
      · rintro ⟨⟩
        exact ⟨hread, hshort⟩
      · rintro ⟨hhead, _⟩
        rw [hread.unique hhead]
  | tooLong hopen hlong =>
      refine ⟨fun h => (nomatch h), fun ⟨hhead, hshort⟩ => ?_⟩
      rw [← List.take_append_drop (maxHead + 1) bytes] at hhead
      have hbehind := hopen.length_lt hhead
      rw [List.length_take_of_le hlong] at hbehind
      omega
  | cutOff hopen _ =>
      refine ⟨fun h => (nomatch h), fun ⟨hhead, _⟩ => ?_⟩
      exact absurd hhead.ends (hopen head hhead.isPrefix)

theorem eq_headTooLong_iff (hread : HeadRead readError bytes (outcome, rest)) :
    outcome = .error (.malformed .headTooLong) ↔
      maxHead < bytes.length ∧ ∀ head, IsHead head bytes → maxHead + 1 < head.length := by
  have hok := hread.eq_ok_iff
  cases hread with
  | ended read _ _ hhead hshort =>
      refine ⟨fun h => (nomatch h), fun hnone => ?_⟩
      exact absurd (hnone.2 read hhead) (Nat.not_lt.mpr hshort)
  | tooLong _ hlong =>
      refine ⟨fun _ => ⟨hlong, fun head hhead => ?_⟩, fun _ => rfl⟩
      exact Nat.lt_of_not_le fun hshort => nomatch (hok head).mpr ⟨hhead, hshort⟩
  | cutOff _ hshort =>
      refine ⟨fun h => ?_, fun hlong => absurd hlong.1 (Nat.not_lt.mpr hshort)⟩
      cases readError <;> cases h

/-- What is left behind a head, or at the limit. -/
theorem rest_eq (hread : HeadRead readError bytes (outcome, rest)) :
    (∀ head, outcome = .ok head → rest = bytes.drop head.length) ∧
      (outcome = .error (.malformed .headTooLong) → rest = bytes.drop (maxHead + 1)) := by
  cases hread with
  | ended head _ hsplit _ _ =>
      refine ⟨?_, fun h => (nomatch h)⟩
      rintro _ ⟨⟩
      rw [hsplit, List.drop_left]
  | tooLong _ _ => exact ⟨fun _ h => (nomatch h), fun _ => rfl⟩
  | cutOff _ _ =>
      refine ⟨fun _ h => (nomatch h), fun h => ?_⟩
      cases readError <;> cases h

end HeadRead

theorem readHead_of_isHead
    {stream : Stream} {head : Bytes} (hhead : IsHead head stream.unread)
    (hshort : head.length ≤ maxHead + 1) :
    readHead stream = (.ok head, stream.skip head.length) := by
  obtain ⟨outcome, rest, hread, hheadRead⟩ := headRead_readHead stream
  obtain rfl := (hheadRead.eq_ok_iff head).mpr ⟨hhead, hshort⟩
  rw [hread, hheadRead.rest_eq.1 head rfl]
  rfl

theorem readHead_of_long
    {stream : Stream} {head : Bytes} (hhead : IsHead head stream.unread)
    (hlong : maxHead + 1 < head.length) :
    (readHead stream).1 = .error (.malformed .headTooLong) := by
  obtain ⟨outcome, rest, hread, hheadRead⟩ := headRead_readHead stream
  have hlength := hhead.isPrefix.length_le
  rw [hread]
  refine hheadRead.eq_headTooLong_iff.mpr ⟨by omega, fun other hother => ?_⟩
  rwa [hother.unique hhead]

theorem readHead_isHead
    {stream after : Stream} {head : Bytes} (hread : readHead stream = (.ok head, after)) :
    IsHead head stream.unread ∧ stream.unread = head ++ after.unread := by
  obtain ⟨result, rest, hresult, hheadRead⟩ := headRead_readHead stream
  obtain ⟨rfl, rfl⟩ := Prod.mk.inj (hread.symm.trans hresult)
  cases hheadRead with
  | ended _ _ hsplit hhead _ => exact ⟨hhead, hsplit⟩

/-! ## The body of a refusal -/

/-- Whether the first `Content-Length` header announces `n` bytes; if there is none, or what it says is
no number, no bytes are announced. -/
def Announces (headers : Headers) (n : Nat) : Prop :=
  match (headers.first? .contentLength).bind HeaderValue.text? with
  | none => n = 0
  | some text =>
    Text.Writes (Text.trimChars text) n ∨
      (n = 0 ∧ ∀ m, ¬ Text.Writes (Text.trimChars text) m)

theorem announces_announcedLength (headers : Headers) :
    Announces headers (announcedLength headers) := by
  unfold Announces announcedLength
  cases (headers.first? .contentLength).bind HeaderValue.text? with
  | none => rfl
  | some text =>
      simp only
      cases hnumber : Text.readNumber (Text.trimChars text) with
      | ok n => exact .inl ((Text.readNumber_eq_ok_iff _ n).mp hnumber)
      | error e =>
          refine .inr ⟨rfl, fun m hwrites => ?_⟩
          cases hnumber.symm.trans ((Text.readNumber_eq_ok_iff _ m).mpr hwrites)

theorem take_eq_ok
    {stream after : Stream} {count : Nat} {bytes : Bytes}
    (htake : stream.take count = (.ok bytes, after)) :
    bytes.length = count ∧ stream.unread = bytes ++ after.unread := by
  unfold Stream.take at htake
  split at htake
  next hcount =>
    simp only [Prod.mk.injEq, Except.ok.injEq] at htake
    obtain ⟨rfl, rfl⟩ := htake
    exact ⟨List.length_take_of_le hcount, (List.take_append_drop count stream.unread).symm⟩
  next => simp at htake

theorem readRefusal_eq_ok
    {headers : Headers} {stream after : Stream} {body : Bytes}
    (hread : readRefusal headers stream = (.ok body, after)) :
    Announces headers body.length ∧ body.length ≤ maxRefusal ∧
      stream.unread = body ++ after.unread := by
  have hannounced := announces_announcedLength headers
  unfold readRefusal at hread
  simp only at hread
  split at hread
  next hnone =>
    simp only [Prod.mk.injEq, Except.ok.injEq] at hread
    obtain ⟨rfl, rfl⟩ := hread
    rw [hnone] at hannounced
    exact ⟨hannounced, Nat.zero_le _, rfl⟩
  next =>
    split at hread
    · simp at hread
    next hshort =>
      obtain ⟨hlength, hunread⟩ := take_eq_ok hread
      rw [hlength]
      exact ⟨hannounced, Nat.le_of_not_lt hshort, hunread⟩

/-! ## The answer -/

/-- What an answer that can be read takes from the stream, and what it leaves there. -/
theorem readReply_position
    {stream after : Stream} {reply : ConnectReply} (hread : readReply stream = (.ok reply, after)) :
    ∃ head, IsHead head stream.unread ∧ parseHead head = .ok (reply.status, reply.headers) ∧
      stream.unread = head ++ reply.body ++ after.unread ∧
      (reply.status.isSuccess = true → reply.body = []) ∧
      (reply.status.isSuccess = false →
        Announces reply.headers reply.body.length ∧ reply.body.length ≤ maxRefusal) := by
  unfold readReply at hread
  split at hread
  next => simp at hread
  next head behind hhead =>
    obtain ⟨hisHead, hunread⟩ := readHead_isHead hhead
    split at hread
    next => simp at hread
    next status headers hparse =>
      split at hread
      next hsuccess =>
        simp only [Prod.mk.injEq, Except.ok.injEq] at hread
        obtain ⟨rfl, rfl⟩ := hread
        refine ⟨head, hisHead, hparse, by simpa using hunread, fun _ => rfl, ?_⟩
        intro hrefused
        simp [hsuccess] at hrefused
      next hrefused =>
        split at hread
        next => simp at hread
        next body last hbody =>
          simp only [Prod.mk.injEq, Except.ok.injEq] at hread
          obtain ⟨rfl, rfl⟩ := hread
          obtain ⟨hannounced, hshort, hrest⟩ := readRefusal_eq_ok hbody
          refine ⟨head, hisHead, hparse, ?_, ?_, fun _ => ⟨hannounced, hshort⟩⟩
          · rw [hunread, hrest, List.append_assoc]
          · intro hsuccess
            exact absurd hsuccess hrefused

/-- After an answer to CONNECT the stream stands right behind its head, or behind the body of a
refusal. -/
theorem establish_position
    {authority : String} {authorization : Option HeaderValue} {stream after : Stream}
    {reply : ConnectReply} (hestablish : establish authority authorization stream = (.ok reply, after)) :
    ∃ head, IsHead head stream.unread ∧ parseHead head = .ok (reply.status, reply.headers) ∧
      stream.unread = head ++ reply.body ++ after.unread ∧
      (reply.status.isSuccess = true → reply.body = []) ∧
      (reply.status.isSuccess = false →
        Announces reply.headers reply.body.length ∧ reply.body.length ≤ 65536) := by
  unfold establish Stream.write at hestablish
  cases hwrite : stream.writeError with
  | some cause => simp [hwrite] at hestablish
  | none =>
      simp only [hwrite] at hestablish
      have hposition := readReply_position hestablish
      exact hposition

/-! ### A refusal with more behind it -/

/-- A refusal whose last line ends with a carriage return of its own, in front of the empty line. -/
def refusing : Stream :=
  ⟨Utf8.encode "HTTP/1.1 403 No\r\nContent-Length: +2\r\nX: a\r\r\n\r\nabc", none, none, []⟩

def refusal : ConnectReply :=
  ⟨⟨403, by decide⟩,
    ⟨[(.contentLength, ⟨Utf8.encode "+2", rfl, false⟩),
      (⟨"x", by decide⟩, ⟨Utf8.encode "a", rfl, false⟩)]⟩,
    Utf8.encode "ab"⟩

/-- The last byte is left. -/
theorem establish_position_refusing :
    establish "target:443" none refusing =
        (.ok refusal,
          ⟨Utf8.encode "c", none, none, requestHead "target:443" none⟩) ∧
      ∃ head, IsHead head refusing.unread ∧
        refusing.unread = head ++ Utf8.encode "ab" ++ Utf8.encode "c" ∧
        Announces refusal.headers 2 := by
  have hrefused : establish "target:443" none refusing =
      (.ok refusal, ⟨Utf8.encode "c", none, none, requestHead "target:443" none⟩) := by
    with_unfolding_all rfl
  obtain ⟨head, hisHead, _, hunread, _, hannounced⟩ := establish_position hrefused
  exact ⟨hrefused, head, hisHead, hunread, (hannounced rfl).1⟩

end Connect
end ProxyHandshake
