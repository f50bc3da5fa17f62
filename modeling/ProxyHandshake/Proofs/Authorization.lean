import ProxyHandshake.Proofs.Connect.Request
import ProxyHandshake.Proofs.NextHop
import ProxyHandshake.Proofs.Resource

/-!
# Where the authorization goes

A request loses what its headers say to the next hop before it is sent.  So the proxy gets the
authorization that the client means for it and no other, once for each time that the request is sent,
and the target gets none at all: what it is asked does not depend on what the proxy was told.
-/

namespace ProxyHandshake

/-! ## Forwarding -/

/-- A forwarded request carries just the given authorization, and is otherwise as it was. -/
theorem Request.values_forwardedHeaders
    (request : Request) (authorization : Option HeaderValue) (name : HeaderName) :
    (request.stripped.forwardedHeaders authorization).values name =
      if name = .proxyAuthorization then authorization.toList
      else request.stripped.headers.values name := by
  have hnone : request.stripped.headers.values .proxyAuthorization = [] :=
    request.headers.values_withoutHops (.inl (by decide))
  cases authorization with
  | none =>
      rw [forwardedHeaders]
      split
      · next heq =>
        rw [heq, hnone]
        rfl
      · rfl
  | some value => exact Headers.values_put _ _ _ _

/-! ## Asking for a tunnel -/

namespace Connect

/-- What a line says about `name`, if it is a header line of that name. -/
def saidOn? (name : HeaderName) (line : Bytes) : Option Bytes :=
  match Text.cutFirst? (· == 58) line with
  | some (spelling, value) => if HeaderName.ofBytes? spelling = some name then some value else none
  | none => none

/-- What the header lines called `name` say in the head of a request; its first line is none of
them. -/
def saidIn (head : Bytes) (name : HeaderName) : List Bytes :=
  (cutLines head).tail.filterMap (saidOn? name)

theorem saidOn?_append
    (name : HeaderName) {spelling : Bytes} (hspelling : ∀ b ∈ spelling, (b == 58) = false)
    (value : Bytes) :
    saidOn? name (spelling ++ 58 :: value) =
      if HeaderName.ofBytes? spelling = some name then some value else none := by
  rw [saidOn?, Text.cutFirst?_append hspelling (by decide)]

theorem ofBytes?_encode (text : String) :
    HeaderName.ofBytes? (Utf8.encode text) = HeaderName.ofText? text := by
  rw [HeaderName.ofBytes?, Utf8.decode?_encode, Option.bind_some]

/-- The head names the authorization on one line if there is one, and on none otherwise. -/
theorem saidIn_requestHead
    {authority : String} (hauthority : Text.IsVisible authority.toList)
    (authorization : Option HeaderValue) :
    saidIn (requestHead authority authorization) .proxyAuthorization =
      authorization.toList.map fun value => 32 :: value.bytes := by
  have hhostName : HeaderName.ofText? "Host" ≠ some .proxyAuthorization := by decide
  have hname : HeaderName.ofText? "Proxy-Authorization" = some .proxyAuthorization := by decide
  have hhost : saidOn? .proxyAuthorization (Utf8.encode ("Host: " ++ authority)) = none := by
    have hline : Utf8.encode ("Host: " ++ authority) =
        Utf8.encode "Host" ++ 58 :: (32 :: Utf8.encode authority) := by
      rw [Utf8.encode, String.toList_append, Utf8.encodeChars_append]
      rfl
    rw [hline, saidOn?_append .proxyAuthorization (Text.forall_mem_of_all (by decide)),
      ofBytes?_encode, if_neg hhostName]
  have hempty : saidOn? .proxyAuthorization [] = none := rfl
  have hreturn : '\r' ∉ authority.toList := fun hmem =>
    absurd (hauthority '\r' hmem) (by decide)
  rw [saidIn, cutLines_requestHead hreturn, requestLines, List.cons_append, List.tail_cons,
    List.cons_append, List.filterMap_cons_none hhost, List.filterMap_append,
    List.filterMap_cons_none hempty, List.filterMap_cons_none hempty]
  cases authorization with
  | none => rfl
  | some value =>
      have hmark :
          Utf8.encode "Proxy-Authorization: " =
            Utf8.encode "Proxy-Authorization" ++ [58, 32] := by decide
      have hline : Utf8.encode "Proxy-Authorization: " ++ value.bytes =
          Utf8.encode "Proxy-Authorization" ++ 58 :: (32 :: value.bytes) := by
        rw [hmark, List.append_assoc]
        rfl
      have hsaid : saidOn? .proxyAuthorization
          (Utf8.encode "Proxy-Authorization: " ++ value.bytes) = some (32 :: value.bytes) := by
        rw [hline, saidOn?_append .proxyAuthorization (Text.forall_mem_of_all (by decide)),
          ofBytes?_encode, if_pos hname]
      simp [hsaid]

end Connect

theorem Request.isVisible_authority
    {request : Request} (hhost : ∀ host ∈ request.url.host?, host.IsRead) {authority : String}
    (hauthority : request.authority = .ok authority) :
    Text.IsVisible authority.toList := by
  unfold Request.authority at hauthority
  split at hauthority
  · cases hauthority
  next host hname =>
    split at hauthority
    · cases hauthority
    next port _ =>
      obtain rfl := Except.ok.inj hauthority
      obtain ⟨named, hnamed, rfl⟩ := Option.map_eq_some_iff.mp hname
      have hcolon : Text.IsHostText ":".toList := by decide
      have hplace := ((hhost named hnamed).isHostText_text.append hcolon).append
        (Text.isHostText_toString port)
      rw [String.toList_append, String.toList_append]
      exact hplace.isVisible

/-! ## Asking the target -/

/-- Besides its own name, the target is told what is left of the request. -/
theorem Request.values_forTarget
    {request sent : Request} {target : String}
    (hsent : request.stripped.forTarget = .ok (target, sent)) :
    (∀ name : HeaderName, isHopByHop name.text = true → sent.headers.values name = []) ∧
      ∃ value, sent.headers.values .host = [value] := by
  obtain ⟨_, value, _, _, _, rfl⟩ := forTarget_eq_ok hsent
  constructor
  · intro name hhop
    have hnotHost : name ≠ .host := by
      rintro rfl
      exact absurd hhop (by decide)
    rw [Headers.values_put, if_neg hnotHost]
    exact request.headers.values_withoutHops (.inl hhop)
  · exact ⟨value, by rw [Headers.values_put, if_pos rfl]⟩

/-- Through a tunnel, nothing is asked but the one request, whatever the proxy is told and answers. -/
theorem Network.send_of_asked
    {network : Network} {request : Request}
    {exchange : (serverName : String) → (target : String) → Request →
      Except TransportError Response}
    (hasked : ∀ name target sent,
      serverName request.url = .ok name → request.forTarget = .ok (target, sent) →
      exchange name target sent = network.exchangeSecurely name target sent)
    (proxy : Url) (authorization : Option HeaderValue) :
    ({ network with exchangeSecurely := exchange } : Network).send proxy request authorization =
      network.send proxy request authorization := by
  have hthrough (reply : ConnectReply) :
      ({ network with exchangeSecurely := exchange } : Network).sendThrough request reply =
        network.sendThrough request reply := by
    unfold sendThrough
    cases hname : serverName request.url with
    | error cause => rfl
    | ok name =>
        cases hsent : request.forTarget with
        | error cause => rfl
        | ok asked =>
            obtain ⟨target, sent⟩ := asked
            simp only [hasked name target sent hname hsent]
  unfold send tunnel
  simp only [hthrough]

/-- The authorization goes to the proxy and only there, once for each time that a request is sent: with
the headers of a request that is forwarded, on a line of its own where a tunnel is asked for, and never
to the target, which is asked the same with and without it. -/
theorem Request.authorization_for_proxy_only
    (request : Request) (hhost : ∀ host ∈ request.url.host?, host.IsRead)
    (authorization : Option HeaderValue) :
    let stripped := request.stripped
    (∃ headers : Headers,
      (∀ (network : Network) (proxy : Url), stripped.isTunnelled = false →
        network.send proxy stripped authorization =
          network.forward proxy { stripped with headers := headers }) ∧
      headers.values .proxyAuthorization = authorization.toList ∧
      ∀ name, name ≠ .proxyAuthorization →
        headers.values name = stripped.headers.values name) ∧
    (∀ (authority : String) (stream : Connect.Stream),
      stripped.authority = .ok authority → stream.writeError = none →
      ∃ head,
        (Connect.establish authority authorization stream).2.written = stream.written ++ head ∧
        Connect.saidIn head .proxyAuthorization =
          authorization.toList.map fun value => 32 :: value.bytes) ∧
    (∀ (target : String) (sent : Request), stripped.forTarget = .ok (target, sent) →
      sent.headers.values .proxyAuthorization = [] ∧
      (∀ name : HeaderName, isHopByHop name.text = true → sent.headers.values name = []) ∧
      ∃ value, sent.headers.values .host = [value]) ∧
    ∀ (network : Network) (exchange : String → String → Request → Except TransportError Response)
      (proxy : Url),
      (∀ name target sent,
        serverName stripped.url = .ok name → stripped.forTarget = .ok (target, sent) →
        exchange name target sent = network.exchangeSecurely name target sent) →
      ({ network with exchangeSecurely := exchange } : Network).send proxy stripped authorization =
        network.send proxy stripped authorization := by
  intro stripped
  refine ⟨⟨stripped.forwardedHeaders authorization, ?_, ?_, ?_⟩, ?_, ?_, ?_⟩
  · intro network proxy hforwarded
    simp [Network.send, hforwarded]
  · rw [values_forwardedHeaders, if_pos rfl]
  · intro name hname
    rw [values_forwardedHeaders, if_neg hname]
  · intro authority stream hauthority hwrites
    have hvisible : Text.IsVisible authority.toList :=
      request.stripped.isVisible_authority hhost hauthority
    exact ⟨_, Connect.written_establish authority authorization hwrites,
      Connect.saidIn_requestHead hvisible authorization⟩
  · intro target sent hsent
    obtain ⟨hhops, hname⟩ := values_forTarget hsent
    exact ⟨hhops .proxyAuthorization (by decide), hhops, hname⟩
  · intro network exchange proxy hasked
    exact Network.send_of_asked hasked proxy authorization

/-! ### A caller that talks to the proxy -/

namespace Rehearsal

def basic : HeaderValue where
  bytes := Utf8.encode "Basic Og=="
  legal := by decide

/-- A request with an authorization of its own, and with headers that are not to be passed on. -/
def talkative : Request where
  method := .get
  url :=
    { scheme := "https", username := "", password := none,
      host := some (.ipv6 ⟨[0, 0, 0, 0, 0, 0, 0, 1], rfl⟩), port := some 8443,
      path := .segments ["a"], query := some "b", fragment := none }
  headers :=
    ⟨[(.proxyAuthorization, basic), (.connection, ⟨Utf8.encode "X-Secret, te", by decide, false⟩),
      (⟨"x-secret", by decide⟩, basic), (⟨"accept", by decide⟩, ⟨Utf8.encode "*/*", by decide, false⟩),
      (.host, ⟨Utf8.encode "elsewhere", by decide, false⟩)]⟩
  body := []

theorem authorization_for_proxy_only_talkative :
    (∀ host ∈ talkative.url.host?, host.IsRead) ∧
      (∃ head,
        (Connect.establish "[::1]:8443" (some basic) ⟨[], none, none, []⟩).2.written = head ∧
        Connect.saidIn head .proxyAuthorization = [32 :: basic.bytes]) ∧
      ∃ target sent,
        talkative.stripped.forTarget = .ok (target, sent) ∧ target = "/a?b" ∧
        sent.headers.values .proxyAuthorization = [] ∧
        sent.headers.names = [⟨"accept", by decide⟩, .host] := by
  have hparse : Url.parse "https://[::1]:8443/a?b" = .ok talkative.url := by rfl
  have hhost := Url.isRead_of_parse hparse
  have hauthority : talkative.stripped.authority = .ok "[::1]:8443" := by rfl
  obtain ⟨_, hhead, htarget, _⟩ :=
    Request.authorization_for_proxy_only talkative hhost (some basic)
  refine ⟨hhost, ?_, ?_⟩
  · obtain ⟨head, hwritten, hsaid⟩ := hhead "[::1]:8443" ⟨[], none, none, []⟩ hauthority rfl
    exact ⟨head, hwritten, hsaid⟩
  · obtain ⟨sent, hsent, hnames⟩ :
        ∃ sent, talkative.stripped.forTarget = .ok ("/a?b", sent) ∧
          sent.headers.names = [⟨"accept", by decide⟩, .host] := ⟨_, rfl, rfl⟩
    exact ⟨_, sent, hsent, rfl, (htarget _ sent hsent).1, hnames⟩

end Rehearsal

end ProxyHandshake
