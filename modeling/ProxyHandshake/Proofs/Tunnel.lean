import ProxyHandshake.Transport

/-!
# Responses that come through a tunnel

What the proxy answers to a request for a tunnel does not depend on what it was told, as far as the
client can see: the answer is in the bytes that it sends.  Once a tunnel is granted, status, headers
and body of the response are those of the target, and the headers of the proxy are those of its own
answer.
-/

namespace ProxyHandshake

/-! ## The answer of the proxy -/

namespace Connect

/-! Reading neither looks at what was written before nor writes anything itself. -/

theorem readHead_written (stream : Stream) (bytes : Bytes) :
    readHead { stream with written := bytes } =
      ((readHead stream).1, { (readHead stream).2 with written := bytes }) := rfl

theorem readRefusal_written (headers : Headers) (stream : Stream) (bytes : Bytes) :
    readRefusal headers { stream with written := bytes } =
      ((readRefusal headers stream).1, { (readRefusal headers stream).2 with written := bytes }) := by
  unfold readRefusal
  simp only
  split
  · rfl
  · split
    · rfl
    · unfold Stream.take
      simp only
      split
      · rfl
      · rfl

theorem readReply_written (stream : Stream) (bytes : Bytes) :
    readReply { stream with written := bytes } =
      ((readReply stream).1, { (readReply stream).2 with written := bytes }) := by
  unfold readReply
  rw [readHead_written]
  rcases readHead stream with ⟨cause | head, behind⟩
  · rfl
  · simp only
    rcases parseHead head with cause | ⟨status, headers⟩
    · rfl
    · simp only
      split
      · rfl
      · rw [readRefusal_written]
        rcases readRefusal headers behind with ⟨cause | body, rest⟩ <;> rfl

/-- The answer is the same whatever the client says about itself. -/
theorem establish_answer
    (authority : String) (authorization other : Option HeaderValue) (stream : Stream) :
    (establish authority authorization stream).1 = (establish authority other stream).1 := by
  rcases stream with ⟨unread, readError, writeError, written⟩
  cases writeError with
  | some cause => rfl
  | none =>
      let stream : Stream := ⟨unread, readError, none, written⟩
      have hwritten (bytes : Bytes) :
          (readReply { stream with written := bytes }).1 = (readReply stream).1 := by
        rw [readReply_written]
      exact (hwritten _).trans (hwritten _).symm

end Connect

/-! ## The answer of the target -/

/-- The response of a target as it comes through a tunnel for which the proxy said `reply`. -/
def Response.behind (target : Response) (reply : ConnectReply) : Response :=
  { target with proxyHeaders := reply.headers }

namespace Network

/-- A network in which the target of every tunnel answers with `target`. -/
def answering (network : Network) (target : Response) : Network :=
  { network with exchangeSecurely := fun _ _ _ => .ok target }

/-- The proxy grants a tunnel for the request and says `reply`, and the target can be asked. -/
structure Accepts (network : Network) (proxy : Url) (request : Request)
    (authorization : Option HeaderValue) (reply : ConnectReply) : Prop where
  tunnelled : request.isTunnelled = true
  answered :
    ∃ authority address stream,
      request.authority = .ok authority ∧ proxyAddress proxy = .ok address ∧
      network.connect address = .ok stream ∧
      (Connect.establish authority authorization stream).1 = .ok reply
  granted : reply.status.isSuccess = true
  asked :
    ∃ name target sent,
      serverName request.url = .ok name ∧ request.forTarget = .ok (target, sent)

theorem Accepts.send_answering
    {network : Network} {proxy : Url} {request : Request}
    {authorization : Option HeaderValue} {reply : ConnectReply}
    (haccepts : network.Accepts proxy request authorization reply)
    (target : Response) (other : Option HeaderValue) :
    (network.answering target).send proxy request other =
      .ok (target.behind reply) := by
  obtain ⟨authority, address, stream, hauthority, haddress, hconnect, hreply⟩ :=
    haccepts.answered
  obtain ⟨name, path, sent, hname, hsent⟩ := haccepts.asked
  rw [Connect.establish_answer authority authorization other] at hreply
  have hstream : (network.answering target).connect address = .ok stream := hconnect
  simp only [send, haccepts.tunnelled, if_true, tunnel, hauthority, haddress, hstream, hreply,
    haccepts.granted, sendThrough, hname, hsent]
  rfl

end Network
end ProxyHandshake
