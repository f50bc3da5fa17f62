import ProxyHandshake.Proofs.Connect.Head

/-!
# How long the head of an answer may be

A head that is one byte longer than `maxHead` is still accepted: the byte loop looks for the empty line
first and at the limit only then.  Of an answer that is given up as too long, just as many bytes have
been read.
-/

namespace ProxyHandshake
namespace Connect

/-! ## Behind the head -/

/-- The stream after the request for a connection was written. -/
def Stream.asked (stream : Stream) (authority : String) (authorization : Option HeaderValue) : Stream :=
  { stream with written := stream.written ++ requestHead authority authorization }

theorem Stream.unread_skip_asked
    (stream : Stream) (authority : String) (authorization : Option HeaderValue) (count : Nat) :
    ((stream.asked authority authorization).skip count).unread = stream.unread.drop count :=
  rfl

/-- The answer whose head is `head`; `stream` stands behind it. -/
def replyBehind (head : Bytes) (stream : Stream) : Except TransportError ConnectReply × Stream :=
  match parseHead head with
  | .error cause => (.error (.malformed cause), stream)
  | .ok (status, headers) =>
    if status.isSuccess then (.ok ⟨status, headers, []⟩, stream)
    else match readRefusal headers stream with
      | (.error e, stream) => (.error e, stream)
      | (.ok body, stream) => (.ok ⟨status, headers, body⟩, stream)

theorem replyBehind_of_isSuccess
    {head : Bytes} {status : Status} {headers : Headers}
    (hparse : parseHead head = .ok (status, headers)) (hsuccess : status.isSuccess = true)
    (stream : Stream) :
    replyBehind head stream = (.ok ⟨status, headers, []⟩, stream) := by
  simp only [replyBehind, hparse, hsuccess, if_true]

theorem establish_of_writes
    {stream : Stream} (hwrite : stream.writeError = none) (authority : String)
    (authorization : Option HeaderValue) :
    establish authority authorization stream = readReply (stream.asked authority authorization) := by
  have hasked : stream.write (requestHead authority authorization) =
      (.ok (), stream.asked authority authorization) := by
    rw [Stream.write]
    split
    next cause hcause => rw [hwrite] at hcause; cases hcause
    next => rfl
  rw [establish, hasked]

theorem establish_eq
    {stream : Stream} (hwrite : stream.writeError = none) (authority : String)
    (authorization : Option HeaderValue) :
    establish authority authorization stream =
      match readHead (stream.asked authority authorization) with
      | (.error e, after) => (.error e, after)
      | (.ok head, after) => replyBehind head after :=
  establish_of_writes hwrite authority authorization

/-! ## Other errors -/

theorem readStatus_ne_headTooLong (line : List Char) :
    readStatus line ≠ .error .headTooLong := by
  unfold readStatus
  simp only
  repeat' split
  all_goals simp

theorem readHeader_ne_headTooLong (line : List Char) :
    readHeader line ≠ .error .headTooLong := by
  unfold readHeader
  repeat' split
  all_goals simp

theorem readHeaders_ne_headTooLong (lines : List (List Char)) :
    readHeaders lines ≠ .error .headTooLong := by
  induction lines with
  | nil => simp [readHeaders]
  | cons line lines ih =>
      rw [readHeaders]
      split
      next => simp
      next =>
        cases hheader : readHeader line with
        | error cause => simpa [hheader] using readHeader_ne_headTooLong line
        | ok header => cases hrest : readHeaders lines <;> simp_all [Except.map]

theorem parseHead_ne_headTooLong (head : Bytes) : parseHead head ≠ .error .headTooLong := by
  unfold parseHead
  split
  next => simp
  next text _ =>
    split
    next => simp
    next line rest _ =>
      cases hstatus : readStatus line with
      | error cause => simpa [hstatus] using readStatus_ne_headTooLong line
      | ok status =>
          have hrest := readHeaders_ne_headTooLong rest
          cases hheaders : readHeaders rest <;> simp_all [Except.map]

theorem readRefusal_ne_headTooLong (headers : Headers) (stream : Stream) :
    (readRefusal headers stream).1 ≠ .error (.malformed .headTooLong) := by
  unfold readRefusal Stream.take
  simp only
  repeat' split
  all_goals simp

/-- Only the head is ever too long. -/
theorem replyBehind_ne_headTooLong (head : Bytes) (stream : Stream) :
    (replyBehind head stream).1 ≠ .error (.malformed .headTooLong) := by
  unfold replyBehind
  cases hparse : parseHead head with
  | error cause => simpa [hparse] using parseHead_ne_headTooLong head
  | ok parsed =>
      simp only
      split
      next => simp
      next =>
        have hrefusal := readRefusal_ne_headTooLong parsed.2 stream
        rcases hbody : readRefusal parsed.2 stream with ⟨result, after⟩
        rw [hbody] at hrefusal
        cases result with
        | error e => simpa [hbody] using hrefusal
        | ok body => simp

/-! ## The limit -/

/-- The head of an answer is accepted up to one byte more than `maxHead`; an answer that is given up as
too long has been read just as far. -/
theorem establish_headLimit
    {stream : Stream} (hwrite : stream.writeError = none) (authority : String)
    (authorization : Option HeaderValue) :
    let asked := stream.asked authority authorization
    let result := establish authority authorization stream
    (∀ head, (readHead asked).1 = .ok head ↔
        IsHead head stream.unread ∧ head.length ≤ maxHead + 1) ∧
      (∀ head, (readHead asked).1 = .ok head →
        result = replyBehind head (asked.skip head.length)) ∧
      (result.1 = .error (.malformed .headTooLong) ↔
        maxHead < stream.unread.length ∧
          ∀ head, IsHead head stream.unread → maxHead + 1 < head.length) ∧
      (result.1 = .error (.malformed .headTooLong) → result.2 = asked.skip (maxHead + 1)) := by
  intro asked result
  have hresult : result = match readHead asked with
      | (.error e, after) => (.error e, after)
      | (.ok head, after) => replyBehind head after :=
    establish_eq hwrite authority authorization
  obtain ⟨outcome, rest, hread, hheadRead⟩ := headRead_readHead asked
  obtain ⟨hrestOk, hrestLong⟩ := hheadRead.rest_eq
  rw [hread] at hresult ⊢
  have houtcome : result.1 = .error (.malformed .headTooLong) ↔
      outcome = .error (.malformed .headTooLong) := by
    rw [hresult]
    cases outcome with
    | error e => simp
    | ok head => simpa using replyBehind_ne_headTooLong head _
  refine ⟨hheadRead.eq_ok_iff, ?_, ?_, ?_⟩
  · rintro head ⟨⟩
    rw [hresult, hrestOk head rfl]
    rfl
  · rw [houtcome]
    exact hheadRead.eq_headTooLong_iff
  · intro hlong
    obtain rfl := houtcome.mp hlong
    rw [hresult, hrestLong rfl]
    rfl

/-! ### An answer at the limit, and one beyond it -/

def filler : HeaderLine :=
  ⟨⟨"x-fill", by decide⟩, "X-Fill".toList, rfl, [], List.forall_mem_nil _,
    ⟨List.replicate 16357 97, by rw [List.all_replicate]; decide, false⟩⟩

/-- A head of one byte more than `maxHead`. -/
def brim : Bytes :=
  headOf (Utf8.encode "HTTP/1.1 200 OK" :: [filler].map HeaderLine.bytes)

/-- A grant with this head, and a byte of the target behind it. -/
def granting : Stream :=
  ⟨brim ++ [0x16], none, none, []⟩

/-- An answer without an end. -/
def rambling : Stream :=
  ⟨List.replicate (maxHead + 2) 97, none, none, []⟩

theorem length_brim : brim.length = maxHead + 1 := by
  have hstatus : (Utf8.encode "HTTP/1.1 200 OK").length = 15 := by decide
  have hname : (Utf8.encodeChars (filler.spelling ++ ':' :: filler.gap)).length = 7 := by decide
  have hvalue : filler.value.bytes.length = 16357 := List.length_replicate
  have hend : lineEnd.length = 2 := rfl
  have hsum : brim.length = 15 + 2 + (7 + 16357 + 2) + 2 := by
    rw [brim, headOf, List.map_singleton, List.flatMap_cons, List.flatMap_singleton,
      List.length_append, List.length_append, List.length_append, List.length_append, hstatus,
      HeaderLine.bytes, List.length_append, hname, hvalue, hend]
  have hlimit : maxHead = 16384 := rfl
  omega

theorem isHead_brim : IsHead brim granting.unread := by
  have hlines : ∀ line ∈ Utf8.encode "HTTP/1.1 200 OK" :: [filler].map HeaderLine.bytes,
      line ≠ [] ∧ 13 ∉ line := by
    rw [List.map_singleton, List.forall_mem_cons, List.forall_mem_singleton]
    exact ⟨⟨by decide, by decide⟩, HeaderLine.bytes_ne_nil, HeaderLine.not_mem_bytes⟩
  exact isHead_headOf hlines [0x16]

theorem parseHead_brim : parseHead brim = .ok (.ok, ⟨[filler.header]⟩) := by
  have htext : filler.IsText := by
    refine ⟨List.replicate 16357 'a', ?_⟩
    have hletter : String.utf8EncodeChar 'a' = [97] := by decide
    rw [Utf8.encodeChars, List.flatMap_replicate, hletter, List.flatten_replicate_singleton]
    rfl
  have hreturn : '\r' ∉ "HTTP/1.1 200 OK".toList := by decide
  have hstatus : readStatus "HTTP/1.1 200 OK".toList = .ok .ok := by rfl
  exact parseHead_headOf hreturn hstatus (List.forall_mem_singleton.mpr htext)
    (List.forall_mem_singleton.mpr (by decide))

theorem not_isHead_rambling (head : Bytes) : ¬ IsHead head rambling.unread := by
  intro hhead
  have hfeed : (10 : UInt8) ∈ emptyLine := by decide
  have hmem := hhead.isPrefix.mem (hhead.ends.mem hfeed)
  rw [rambling] at hmem
  exact absurd (List.eq_of_mem_replicate hmem) (by decide)

/-- The grant is read and the answer without an end is not, though both are longer than `maxHead`; what
is behind the limit is left. -/
theorem establish_headLimit_brim :
    brim.length = maxHead + 1 ∧
      (establish "target:443" none granting).1 = .ok ⟨.ok, ⟨[filler.header]⟩, []⟩ ∧
      (establish "target:443" none granting).2.unread = [0x16] ∧
      (establish "target:443" none rambling).1 = .error (.malformed .headTooLong) ∧
      (establish "target:443" none rambling).2.unread = [97] := by
  obtain ⟨haccepted, hreply, -, -⟩ := @establish_headLimit granting rfl "target:443" none
  obtain ⟨-, -, hlong, hrest⟩ := @establish_headLimit rambling rfl "target:443" none
  have hgranted := hreply brim ((haccepted brim).mpr ⟨isHead_brim, Nat.le_of_eq length_brim⟩)
  have hskip : granting.unread.drop brim.length = [0x16] := by
    rw [granting, List.drop_left]
  have hreplied := replyBehind_of_isSuccess parseHead_brim (by decide)
  have hlength : rambling.unread.length = maxHead + 2 := by
    rw [rambling, List.length_replicate]
  have hrefused := hlong.mpr ⟨by omega, fun head hhead => absurd hhead (not_isHead_rambling head)⟩
  have hleft : rambling.unread.drop (maxHead + 1) = [97] := by
    rw [rambling, List.drop_replicate, Nat.add_sub_add_left]
    rfl
  refine ⟨length_brim, ?_, ?_, hrefused, ?_⟩
  · rw [hgranted, hreplied]
  · rw [hgranted, hreplied, Stream.unread_skip_asked, hskip]
  · rw [hrest hrefused, Stream.unread_skip_asked, hleft]

end Connect
end ProxyHandshake
