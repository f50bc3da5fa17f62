import ProxyHandshake.Proofs.Exchange.Rehearsed
import ProxyHandshake.Proofs.Exchange.Sends
import ProxyHandshake.Proofs.NextHop
import ProxyHandshake.Proofs.Resource

/-!
# Headers that are named for proxies

Many headers have names that begin with `proxy-`, and three of them are hop-by-hop.  These are never sent.
Another one is sent like any header, both times and to the target, unless a `Connection` header names it.
-/

namespace ProxyHandshake

/-! ## Names for proxies -/

def HeaderName.IsForProxy (name : HeaderName) : Prop :=
  "proxy-".toList <+: name.text.toList

instance (name : HeaderName) : Decidable name.IsForProxy :=
  inferInstanceAs (Decidable (_ <+: _))

def proxyHops : List HeaderName :=
  [.proxyAuthenticate, .proxyAuthorization, .proxyConnection]

theorem HeaderName.IsForProxy.mem_hopHeaders_iff {name : HeaderName} (hname : name.IsForProxy) :
    name ∈ hopHeaders ↔ name ∈ proxyHops := by
  have hamong : ∀ header ∈ hopHeaders, header.IsForProxy → header ∈ proxyHops := by decide
  have hthree : ∀ header ∈ proxyHops, header ∈ hopHeaders := by decide
  exact ⟨fun hmem => hamong name hmem hname, hthree name⟩

theorem HeaderName.IsForProxy.ne_host {name : HeaderName} (hname : name.IsForProxy) :
    name ≠ .host := by
  rintro rfl
  exact absurd hname (by decide)

theorem Headers.mem_removed_iff_of_isForProxy
    {name : HeaderName} (hname : name.IsForProxy)
    (hshort : name.text.length ≤ HeaderName.longest) (headers : Headers) :
    name ∈ headers.namedByConnection ++ hopHeaders ++ [.host] ↔
      name ∈ proxyHops ∨ headers.Mentions name := by
  rw [mem_removed_iff hshort, hname.mem_hopHeaders_iff, or_iff_left hname.ne_host, or_comm]

/-! ## What is sent -/

variable {σ κ χ : Type}

theorem Sends.request_eq
    {backend : Backend σ κ χ} {settings : Settings} {files : FileSystem} {session : Session σ κ χ}
    {proxy : Url} {request : Request} {calls : List (Call κ χ)}
    (hsends : Sends backend settings files session proxy request calls) {sending : Sending}
    (hmem : sending ∈ sendings calls) :
    sending.request = request.stripped := by
  cases hsends with
  | never hsent => simp [hsent] at hmem
  | once result _ _ hsent =>
      rw [hsent, List.mem_singleton] at hmem
      rw [hmem]
  | twice result second _ _ hsent hwarranted =>
      rw [hsent, List.mem_cons, List.mem_singleton] at hmem
      rcases hmem with rfl | rfl
      · rfl
      · exact hwarranted.sameRequest

/-- Of the headers named for proxies, those that are hop-by-hop are not sent, nor those that a `Connection`
header mentions.  All others are sent with all their values, and the target gets what the proxy gets. -/
theorem Session.authenticate_proxyHeaders
    (backend : Backend σ κ χ) (settings : Settings) (files : FileSystem) (session : Session σ κ χ)
    (proxy : Url) (request : Request) :
    ∃ calls,
      (session.authenticate backend settings files proxy request).2.calls =
        session.calls ++ calls ∧
      (∀ sending ∈ sendings calls, sending.request = request.stripped) ∧
      ∀ name : HeaderName, name.IsForProxy → name.text.length ≤ HeaderName.longest →
        (name ∈ proxyHops ∨ request.headers.Mentions name →
          request.stripped.headers.values name = []) ∧
        (name ∉ proxyHops → ¬ request.headers.Mentions name →
          request.stripped.headers.values name = request.headers.values name) ∧
        ∀ target sent, request.stripped.forTarget = .ok (target, sent) →
          sent.headers.values name = request.stripped.headers.values name := by
  obtain ⟨calls, hcalls, hsends⟩ := authenticate_sends backend settings files session proxy request
  refine ⟨calls, hcalls, fun _ => hsends.request_eq, fun name hname hshort => ?_⟩
  have hvalues := Headers.values_foldl_remove
    (request.headers.namedByConnection ++ hopHeaders ++ [.host]) request.headers name
  have hremoved := request.headers.mem_removed_iff_of_isForProxy hname hshort
  refine ⟨fun hlost => ?_, fun hthree hmention => ?_, fun target sent hsent => ?_⟩
  · exact hvalues.trans (if_pos (hremoved.mpr hlost))
  · exact hvalues.trans (if_neg fun hmem => (hremoved.mp hmem).elim hthree hmention)
  · obtain ⟨_, value, _, _, _, rfl⟩ := Request.forTarget_eq_ok hsent
    exact (Headers.values_put _ _ _ _).trans (if_neg hname.ne_host)

/-! ### A trace for proxies -/

namespace Rehearsal

def trace : HeaderName := ⟨"proxy-trace", by decide⟩

def secret : HeaderName := ⟨"proxy-secret", by decide⟩

def one : HeaderValue := ⟨Utf8.encode "1", by decide, false⟩

def traced : Request where
  method := .get
  url := { targetUrl with scheme := "https" }
  headers :=
    ⟨[(trace, one), (.proxyConnection, one), (secret, one),
      (.connection, ⟨Utf8.encode "Proxy-Secret", by decide, false⟩)]⟩
  body := []

/-- The trace is sent to the proxy both times, and to the target. -/
theorem trace_passed_on :
    trace.IsForProxy ∧ traced.stripped.headers.values trace = [one] ∧
      (sendings ((Session.start .start).authenticate negotiating lenient noFiles proxyUrl
        traced).2.calls).map (fun sending => sending.request.headers.values trace) =
          [[one], [one]] ∧
      ∃ target sent, traced.stripped.forTarget = .ok (target, sent) ∧
        trace ∈ sent.headers.names := by
  refine ⟨by decide, by decide, by rfl, _, _, rfl, by decide⟩

/-- Of three headers for proxies one is hop-by-hop, and one is mentioned in another spelling. -/
theorem authenticate_proxyHeaders_traced :
    traced.headers.Mentions secret ∧ ¬ traced.headers.Mentions trace ∧
      ∃ calls,
        ((Session.start .start).authenticate negotiating lenient noFiles proxyUrl traced).2.calls =
          calls ∧
        ∀ sending ∈ sendings calls,
          sending.request.headers.values .proxyConnection = [] ∧
          sending.request.headers.values secret = [] ∧
          sending.request.headers.values trace = [one] := by
  have hsecret : traced.headers.Mentions secret :=
    (Headers.mem_namedByConnection_iff (by decide) _).mp (by decide)
  have htrace : ¬ traced.headers.Mentions trace := fun hmention =>
    absurd ((Headers.mem_namedByConnection_iff (by decide) _).mpr hmention) (by decide)
  obtain ⟨calls, hcalls, hsent, hpassed⟩ :=
    Session.authenticate_proxyHeaders negotiating lenient noFiles (.start .start) proxyUrl traced
  refine ⟨hsecret, htrace, calls, hcalls, fun sending hmem => ?_⟩
  rw [hsent sending hmem]
  exact
    ⟨(hpassed .proxyConnection (by decide) (by decide)).1 (.inl (by decide)),
      (hpassed secret (by decide) (by decide)).1 (.inr hsecret),
      (hpassed trace (by decide) (by decide)).2.1 (by decide) htrace⟩

end Rehearsal

end ProxyHandshake
