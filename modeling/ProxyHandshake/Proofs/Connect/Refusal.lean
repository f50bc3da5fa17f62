import ProxyHandshake.Progress
import ProxyHandshake.Proofs.Connect.Writing

/-!
# Refusals that ask for authentication

A proxy that wants to know its client refuses the connection with status 407, and offers negotiation in
one of the headers.  If the head of such a refusal is text, the client learns of the offer unless the
explanation behind it is too long, just as it does when the refusal comes without a tunnel.
-/

namespace ProxyHandshake

/-- An answer that refuses a connection with status 407. -/
structure Refusal where
  reason : Bytes
  legal : reason.all isHeaderByte
  lines : List HeaderLine
  body : Bytes

namespace Refusal

def statusLine (refusal : Refusal) : Bytes :=
  Utf8.encode "HTTP/1.1 407 " ++ refusal.reason

def head (refusal : Refusal) : Bytes :=
  Connect.headOf (refusal.statusLine :: refusal.lines.map HeaderLine.bytes)

def bytes (refusal : Refusal) : Bytes :=
  refusal.head ++ refusal.body

/-- The number of bytes that the first `Content-Length` announces. -/
def length (refusal : Refusal) : Nat :=
  ((refusal.lines.find? (·.name = .contentLength)).map HeaderLine.length).getD 0

/-- The headers as the proxy wrote them. -/
def headers (refusal : Refusal) : Headers :=
  ⟨refusal.lines.map fun line => (line.name, line.value)⟩

/-- The headers as they are read from the head. -/
def readable (refusal : Refusal) : Headers :=
  ⟨refusal.lines.map HeaderLine.header⟩

/-- A refusal that offers negotiation, in a head that is not too long, and with its whole body. -/
structure Complete (refusal : Refusal) : Prop where
  offers : ∃ line ∈ refusal.lines,
    line.name = .proxyAuthenticate ∧ line.value.bytes = Utf8.encode "Negotiate"
  single : (refusal.lines.filter (·.name = .contentLength)).length ≤ 1
  headShort : refusal.head.length ≤ Connect.maxHead
  whole : refusal.body.length = refusal.length

/-- A refusal whose head is text. -/
structure IsText (refusal : Refusal) : Prop where
  reason : ∃ text, refusal.reason = Utf8.encodeChars text
  lines : ∀ line ∈ refusal.lines, line.IsText

end Refusal

/-! ## The announced length -/

/-- A number is written in plain characters. -/
theorem Text.Writes.plain {text : List Char} {n : Nat} (hwrites : Text.Writes text n) :
    (Utf8.encodeChars text).all HeaderValue.isTextByte = true := by
  obtain ⟨digits, htext, _, hdigits, _⟩ := hwrites
  refine HeaderValue.all_isTextByte fun c hc => .inr ?_
  have hchar : c = '+' ∨ c.isDigit = true := by
    rcases htext with rfl | rfl
    · exact .inr (hdigits c hc)
    · rcases List.mem_cons.mp hc with hplus | hc
      · exact .inl hplus
      · exact .inr (hdigits c hc)
  rcases hchar with rfl | hdigit
  · decide
  · have hbounds := Text.isDigit_bounds hdigit
    omega

theorem Headers.first?_map_header (lines : List HeaderLine) (name : HeaderName) :
    Headers.first? ⟨lines.map HeaderLine.header⟩ name =
      (lines.find? (·.name = name)).map fun line => line.header.2 := by
  rw [Headers.first?, Headers.values]
  induction lines with
  | nil => rfl
  | cons line lines ih =>
      by_cases hname : line.name = name
      · simp [HeaderLine.header, hname]
      · simpa [HeaderLine.header, hname] using ih

theorem HeaderLine.bytes_header {line : HeaderLine} (htext : line.IsText) :
    line.header.2.bytes = Utf8.encodeChars (Text.trimChars line.text) :=
  HeaderValue.bytes_of_ofBytes? (header_eq htext)

theorem HeaderLine.length_eq {line : HeaderLine} (htext : line.IsText) :
    line.length =
      match line.header.2.text? with
      | none => 0
      | some text => (Text.readNumber (Text.trimChars text)).toOption.getD 0 := by
  rw [HeaderValue.text?_encodeChars (bytes_header htext), length]
  by_cases hplain : (Utf8.encodeChars (Text.trimChars line.text)).all HeaderValue.isTextByte = true
  · rw [if_pos hplain]
    simp only [Text.trimChars_trimChars]
  · rw [if_neg hplain]
    -- Such a value announces nothing, and a number would be plain.
    cases hnumber : Text.readNumber (Text.trimChars line.text) with
    | error e => rfl
    | ok n => exact absurd ((Text.readNumber_eq_ok_iff _ n).mp hnumber).plain hplain

theorem Refusal.announcedLength_readable {refusal : Refusal} (htext : refusal.IsText) :
    Connect.announcedLength refusal.readable = refusal.length := by
  rw [Connect.announcedLength, readable, Headers.first?_map_header, length]
  cases hline : refusal.lines.find? (·.name = .contentLength) with
  | none => rfl
  | some line =>
      exact (HeaderLine.length_eq (htext.lines line (List.mem_of_find?_eq_some hline))).symm

/-! ## The offer -/

theorem Challenge.readChars_negotiate :
    Challenge.readChars "Negotiate".toList = [Challenge.bare "Negotiate"] := by
  decide

/-- An offer of negotiation is found, whatever else the proxy says. -/
theorem Progress.asksToNegotiate_of_mem
    {headers : Headers} {value : HeaderValue} (hvalue : value ∈ headers.values .proxyAuthenticate)
    (hbytes : value.bytes = Utf8.encode "Negotiate") (body : Bytes) :
    Progress.asksToNegotiate (Response.ofProxy .proxyAuthenticationRequired headers body) = true := by
  have htext : value.text? = some "Negotiate".toList := by
    rw [HeaderValue.text?_encodeChars hbytes]
    rfl
  have hmem : Challenge.bare "Negotiate" ∈ Challenge.readAll (headers.values .proxyAuthenticate) := by
    refine List.mem_flatMap.mpr ⟨_, List.mem_filterMap.mpr ⟨value, hvalue, htext⟩, ?_⟩
    rw [Challenge.readChars_negotiate]
    exact List.mem_singleton_self _
  have hfound : (Challenge.firstNegotiate?
      (Challenge.readAll (headers.values .proxyAuthenticate))).isSome = true :=
    List.find?_isSome.mpr ⟨_, hmem, by decide⟩
  rw [Progress.asksToNegotiate, Bool.and_eq_true]
  exact ⟨decide_eq_true rfl, hfound⟩

/-! ## Reading a refusal -/

namespace Refusal

variable {refusal : Refusal}

theorem asksToNegotiate_headers (hcomplete : refusal.Complete) (body : Bytes) :
    Progress.asksToNegotiate
      (.ofProxy .proxyAuthenticationRequired refusal.headers body) = true := by
  obtain ⟨line, hline, hname, hbytes⟩ := hcomplete.offers
  have hvalue : line.value ∈ refusal.headers.values .proxyAuthenticate := by
    refine List.mem_filterMap.mpr ⟨(line.name, line.value), ?_, if_pos hname⟩
    exact List.mem_map_of_mem hline
  exact Progress.asksToNegotiate_of_mem hvalue hbytes body

theorem asksToNegotiate_readable
    (hcomplete : refusal.Complete) (htext : refusal.IsText) (body : Bytes) :
    Progress.asksToNegotiate
      (.ofProxy .proxyAuthenticationRequired refusal.readable body) = true := by
  obtain ⟨line, hline, hname, hbytes⟩ := hcomplete.offers
  have hchars : line.text = "Negotiate".toList := by
    rw [HeaderLine.text, hbytes, Utf8.encode, Utf8.decodeChars?_encodeChars, Option.getD_some]
  have htrim : Text.trimChars line.text = "Negotiate".toList := by
    rw [hchars]
    decide
  have hvalue : line.header.2 ∈ refusal.readable.values .proxyAuthenticate := by
    refine List.mem_filterMap.mpr ⟨line.header, ?_, if_pos hname⟩
    exact List.mem_map_of_mem hline
  have hnegotiate : line.header.2.bytes = Utf8.encode "Negotiate" := by
    rw [HeaderLine.bytes_header (htext.lines line hline), htrim, Utf8.encode]
  exact Progress.asksToNegotiate_of_mem hvalue hnegotiate body

theorem not_mem_statusLine : 13 ∉ refusal.statusLine := by
  have hfront : 13 ∉ Utf8.encode "HTTP/1.1 407 " := by decide
  exact fun hmem => (List.mem_append.mp hmem).elim hfront (not_mem_of_isHeaderByte refusal.legal)

theorem readHead_bytes
    {stream : Connect.Stream} {rest : Bytes} (hshort : refusal.head.length ≤ Connect.maxHead)
    (hunread : stream.unread = refusal.bytes ++ rest) :
    Connect.readHead stream = (.ok refusal.head, { stream with unread := refusal.body ++ rest }) := by
  have hlines : ∀ line ∈ refusal.statusLine :: refusal.lines.map HeaderLine.bytes,
      line ≠ [] ∧ 13 ∉ line := by
    refine List.forall_mem_cons.mpr ⟨⟨?_, ?_⟩, List.forall_mem_map.mpr fun line _ => ⟨?_, ?_⟩⟩
    · exact List.append_ne_nil_of_left_ne_nil (List.cons_ne_nil _ _) _
    · exact not_mem_statusLine
    · exact HeaderLine.bytes_ne_nil
    · exact HeaderLine.not_mem_bytes
  refine Connect.readHead_headOf hlines (Nat.le_succ_of_le hshort) ?_
  rw [hunread, bytes, List.append_assoc]
  rfl

theorem readStatus_chars (reason : List Char) :
    Connect.readStatus ("HTTP/1.1 407 ".toList ++ reason) = .ok .proxyAuthenticationRequired := by
  have hline : (Connect.statusLine .proxyAuthenticationRequired (String.ofList reason)).toList =
      "HTTP/1.1 407 ".toList ++ reason := by
    have hcode : Nat.toDigits 10 Status.proxyAuthenticationRequired.code = "407".toList := by decide
    simp [Connect.toList_statusLine, hcode]
  rw [← hline]
  exact Connect.readStatus_statusLine _ _

theorem parseHead_head
    (htext : refusal.IsText) (hshort : refusal.head.length ≤ Connect.maxHead) :
    Connect.parseHead refusal.head = .ok (.proxyAuthenticationRequired, refusal.readable) := by
  obtain ⟨reason, hreason⟩ := htext.reason
  have hstatusLine : refusal.statusLine =
      Utf8.encodeChars ("HTTP/1.1 407 ".toList ++ reason) := by
    rw [statusLine, hreason, Utf8.encode, Utf8.encodeChars_append]
  have hreturn : '\r' ∉ "HTTP/1.1 407 ".toList ++ reason := by
    intro hmem
    have hbyte : 13 ∈ refusal.statusLine := by
      rw [hstatusLine]
      exact Utf8.mem_encodeChars hmem (by decide)
    exact not_mem_statusLine hbyte
  have hnames := Connect.length_spelling_le_longest hshort
  rw [head, hstatusLine]
  exact Connect.parseHead_headOf hreturn (readStatus_chars reason) htext.lines hnames

/-- What is left to read behind the head of a refusal. -/
theorem readReply_bytes
    (stream : Connect.Stream) {rest : Bytes} (htext : refusal.IsText)
    (hshort : refusal.head.length ≤ Connect.maxHead)
    (hunread : stream.unread = refusal.bytes ++ rest) :
    Connect.readReply stream =
      match Connect.readRefusal refusal.readable { stream with unread := refusal.body ++ rest } with
      | (.error e, stream) => (.error e, stream)
      | (.ok body, stream) =>
        (.ok ⟨.proxyAuthenticationRequired, refusal.readable, body⟩, stream) := by
  have hfailed : Status.isSuccess .proxyAuthenticationRequired = false := by decide
  rw [Connect.readReply, readHead_bytes hshort hunread]
  rcases hbody : Connect.readRefusal refusal.readable
    { stream with unread := refusal.body ++ rest } with ⟨result, after⟩
  cases result <;>
    simp only [parseHead_head htext hshort, hfailed, hbody, Bool.false_eq_true, if_false]

theorem readRefusal_body
    {stream : Connect.Stream} {rest : Bytes} (htext : refusal.IsText)
    (hwhole : refusal.body.length = refusal.length) (hshort : refusal.length ≤ Connect.maxRefusal) :
    Connect.readRefusal refusal.readable { stream with unread := refusal.body ++ rest } =
      (.ok refusal.body, { stream with unread := rest }) := by
  rw [Connect.readRefusal]
  simp only [announcedLength_readable htext, ← hwhole] at hshort ⊢
  by_cases hnone : refusal.body.length = 0
  · rw [if_pos hnone, List.length_eq_zero_iff.mp hnone, List.nil_append]
  · rw [if_neg hnone, if_neg (Nat.not_lt.mpr hshort)]
    simp [Connect.Stream.take, Connect.Stream.skip]

theorem readRefusal_long
    {stream : Connect.Stream} (htext : refusal.IsText) (hlong : Connect.maxRefusal < refusal.length) :
    Connect.readRefusal refusal.readable stream =
      (.error (.malformed (.refusalTooLong refusal.length)), stream) := by
  have hsome : refusal.length ≠ 0 := Nat.ne_of_gt (Nat.lt_of_le_of_lt (Nat.zero_le _) hlong)
  rw [Connect.readRefusal]
  simp only [announcedLength_readable htext, if_neg hsome, if_pos hlong]

end Refusal

namespace Connect

/-- The offer of a refusal whose head is text is heard, unless the explanation behind it is too long. -/
theorem establish_refusal
    {refusal : Refusal} (hcomplete : refusal.Complete) (htext : refusal.IsText)
    {stream : Stream} {rest : Bytes} (hunread : stream.unread = refusal.bytes ++ rest)
    (hwrite : stream.writeError = none) (authority : String) (authorization : Option HeaderValue) :
    (refusal.length ≤ 65536 →
      establish authority authorization stream =
          (.ok ⟨.proxyAuthenticationRequired, refusal.readable, refusal.body⟩,
            { stream with
              unread := rest, written := stream.written ++ requestHead authority authorization }) ∧
        Progress.asksToNegotiate
          (.ofProxy .proxyAuthenticationRequired refusal.readable refusal.body) = true) ∧
      (65536 < refusal.length →
        (establish authority authorization stream).1 =
          .error (.malformed (.refusalTooLong refusal.length))) ∧
      Progress.asksToNegotiate
        (.ofProxy .proxyAuthenticationRequired refusal.headers refusal.body) = true := by
  let asked := { stream with written := stream.written ++ requestHead authority authorization }
  have hestablish : establish authority authorization stream = readReply asked := by
    simp only [establish, Stream.write, hwrite, asked]
  rw [hestablish, Refusal.readReply_bytes asked htext hcomplete.headShort hunread]
  refine ⟨fun hshort => ⟨?_, ?_⟩, fun hlong => ?_, ?_⟩
  · rw [Refusal.readRefusal_body htext hcomplete.whole hshort]
  · exact Refusal.asksToNegotiate_readable hcomplete htext refusal.body
  · rw [Refusal.readRefusal_long htext hlong]
  · exact Refusal.asksToNegotiate_headers hcomplete refusal.body

/-! ### Refusals that are heard, and that are not -/

/-- A stream on which `bytes` come, and no more. -/
def bringing (bytes : Bytes) : Stream :=
  ⟨bytes, none, none, []⟩

def offer : HeaderLine :=
  ⟨.proxyAuthenticate, "Proxy-Authenticate".toList, rfl, [' '], by simp,
    ⟨Utf8.encode "Negotiate", rfl, false⟩⟩

/-- A refusal with a header that is text, but not in ASCII. -/
def noted : Refusal :=
  ⟨Utf8.encode "Who are you", rfl,
    [⟨⟨"x-note", by decide⟩, "X-Note".toList, rfl, ['\t'], by simp,
        ⟨Utf8.encode "caf\u00E9 ", rfl, false⟩⟩,
      offer,
      ⟨.contentLength, "Content-Length".toList, rfl, [' '], by simp,
        ⟨Utf8.encode "2", rfl, false⟩⟩],
    Utf8.encode "no"⟩

theorem noted_complete : noted.Complete where
  offers := ⟨offer, List.mem_cons_of_mem _ List.mem_cons_self, rfl, rfl⟩
  single := by decide
  headShort := by decide
  whole := by with_unfolding_all rfl

theorem noted_isText : noted.IsText where
  reason := ⟨"Who are you".toList, rfl⟩
  lines := by
    rw [noted, List.forall_mem_cons, List.forall_mem_cons, List.forall_mem_singleton]
    exact ⟨⟨"caf\u00E9 ".toList, rfl⟩, ⟨"Negotiate".toList, rfl⟩, ⟨"2".toList, rfl⟩⟩

theorem establish_refusal_noted :
    noted.Complete ∧ noted.IsText ∧
      (establish "target:443" none (bringing (noted.bytes ++ [0x16]))).1 =
        .ok ⟨.proxyAuthenticationRequired, noted.readable, Utf8.encode "no"⟩ ∧
      Progress.asksToNegotiate
        (.ofProxy .proxyAuthenticationRequired noted.readable (Utf8.encode "no")) = true := by
  have hunread : (bringing (noted.bytes ++ [0x16])).unread = noted.bytes ++ [0x16] := rfl
  have hlength : noted.length ≤ 65536 := by
    rw [← noted_complete.whole]
    decide
  obtain ⟨hheard, _, _⟩ :=
    establish_refusal noted_complete noted_isText hunread rfl "target:443" none
  obtain ⟨hestablish, hasks⟩ := hheard hlength
  exact ⟨noted_complete, noted_isText, congrArg Prod.fst hestablish, hasks⟩

/-- A refusal with one byte more than is read. -/
def long : Refusal :=
  ⟨Utf8.encode "Denied", rfl,
    [offer,
      ⟨.contentLength, "Content-Length".toList, rfl, [' '], by simp,
        ⟨Utf8.encode "65537", rfl, false⟩⟩],
    List.replicate 65537 120⟩

/-- A refusal with a second challenge that is not in UTF-8. -/
def garbled : Refusal :=
  ⟨Utf8.encode "Denied", rfl,
    [offer,
      ⟨.proxyAuthenticate, "Proxy-Authenticate".toList, rfl, [' '], by simp,
        ⟨Utf8.encode "Basic realm=caf" ++ [0xE9], rfl, false⟩⟩],
    []⟩

theorem long_complete : long.Complete where
  offers := ⟨offer, List.mem_cons_self, rfl, rfl⟩
  single := by decide
  headShort := by decide
  whole := by
    have hlength : long.length = 65537 := by with_unfolding_all rfl
    rw [hlength]
    exact List.length_replicate

theorem garbled_complete : garbled.Complete where
  offers := ⟨offer, List.mem_cons_self, rfl, rfl⟩
  single := by decide
  headShort := by decide
  whole := by decide

/-- Neither a long refusal nor a garbled one is heard, complete as they are; without a tunnel both
are. -/
theorem refusals_unheard :
    (long.Complete ∧
        (establish "target.test:443" none (bringing long.bytes)).1 =
          .error (.malformed (.refusalTooLong 65537)) ∧
        Progress.asksToNegotiate
          (.ofProxy .proxyAuthenticationRequired long.headers long.body) = true) ∧
      (garbled.Complete ∧
        (establish "target.test:443" none (bringing garbled.bytes)).1 =
          .error (.malformed .notText) ∧
        Progress.asksToNegotiate
          (.ofProxy .proxyAuthenticationRequired garbled.headers garbled.body) = true) := by
  have hlong : (establish "target.test:443" none (bringing long.bytes)).1 =
      .error (.malformed (.refusalTooLong 65537)) := by
    with_unfolding_all rfl
  have hgarbled : (establish "target.test:443" none (bringing garbled.bytes)).1 =
      .error (.malformed .notText) := by
    with_unfolding_all rfl
  exact ⟨⟨long_complete, hlong, Refusal.asksToNegotiate_headers long_complete long.body⟩,
    garbled_complete, hgarbled, Refusal.asksToNegotiate_headers garbled_complete garbled.body⟩

end Connect

end ProxyHandshake
