import ProxyHandshake.Proofs.Header
import ProxyHandshake.Proofs.Url.Reading
import ProxyHandshake.Transport

/-!
# What the target is asked for

A URL without its user and its fragment names a resource.  Through a tunnel the target is told this name
in two parts, host and port in a header, path and query in the first line of the request, and of the URL
it is told no more.
-/

namespace ProxyHandshake

/-! ## The name of a resource -/

namespace Url

/-- The URL without its user and its fragment. -/
def resource (url : Url) : Url :=
  { url with username := "", password := none, fragment := none }

theorem hostHeader_eq_ok {url : Url} {place : String} (hplace : hostHeader url = .ok place) :
    ∃ host, url.host = some host ∧ host ∈ url.host? ∧ place = host.text ++ url.portText := by
  unfold hostHeader at hplace
  split at hplace
  · cases hplace
  next name hname =>
    obtain rfl := Except.ok.inj hplace
    obtain ⟨host, hhost, rfl⟩ := Option.map_eq_some_iff.mp hname
    exact ⟨host, (Option.filter_eq_some_iff.mp hhost).1, hhost, rfl⟩

theorem text_resource {url : Url} {place : String} (hplace : hostHeader url = .ok place) :
    url.resource.text = url.scheme ++ "://" ++ place ++ requestTarget url := by
  obtain ⟨host, hhost, -, rfl⟩ := hostHeader_eq_ok hplace
  have hpart : url.resource.hostPart = "//" ++ host.text ++ url.portText := by
    have hsame : url.resource.host = some host := hhost
    rw [hostPart, hsame]
    rfl
  have hcolon : "://" = ":" ++ "//" := rfl
  have hparts : url.resource.text =
      url.scheme ++ ":" ++ ("//" ++ host.text ++ url.portText) ++ url.path.text ++ url.queryText ++ "" := by
    rw [text, hpart]
    rfl
  rw [hparts, requestTarget, hcolon]
  simp only [String.append_assoc, String.append_empty]

theorem isHostText_portText (url : Url) : Text.IsHostText url.portText.toList := by
  rw [portText]
  split
  · have hcolon : Text.IsHostText ":".toList := by decide
    rw [String.toList_append]
    exact hcolon.append (Text.isHostText_toString _)
  · exact Text.isHostText_nil

end Url

/-! ## Requests to the target -/

namespace Request

theorem forTarget_eq_ok
    {request sent : Request} {target : String} (hsent : request.forTarget = .ok (target, sent)) :
    ∃ place value, hostHeader request.url = .ok place ∧ target = requestTarget request.url ∧
      HeaderValue.ofText? place = some value ∧
      sent = { request with headers := request.headers.put .host value } := by
  unfold forTarget at hsent
  split at hsent
  · cases hsent
  next place hplace =>
    simp only at hsent
    split at hsent
    · cases hsent
    · split at hsent
      · cases hsent
      next value hvalue =>
        cases hsent
        exact ⟨place, value, hplace, rfl, hvalue, rfl⟩

/-- The target of a tunnelled request is told the name of the resource, and nothing else of the URL: where
the URL was read from a text, `Host` is the place and the rest begins with the path.  All else is sent as
it is. -/
theorem forTarget_names_resource
    {request sent : Request} {target : String} (htunnelled : request.isTunnelled = true)
    (hsent : request.forTarget = .ok (target, sent)) :
    (∃ (place : String) (value : HeaderValue),
      sent.headers.values .host = [value] ∧ value.bytes = Utf8.encode place ∧
      "https://" ++ place ++ target = request.url.resource.text ∧
      ∀ text, Url.parse text = .ok request.url →
        (∀ c ∈ place.toList, isHostMark c = false) ∧ ∃ rest, target = "/" ++ rest) ∧
    sent.method = request.method ∧ sent.body = request.body ∧
    ∀ name, name ≠ .host → sent.headers.values name = request.headers.values name := by
  obtain ⟨place, value, hplace, rfl, hvalue, rfl⟩ := forTarget_eq_ok hsent
  have hscheme : request.url.scheme = "https" := by simpa [isTunnelled] using htunnelled
  refine ⟨⟨place, value, ?_, HeaderValue.bytes_of_ofBytes? hvalue, ?_, fun text hparse => ⟨?_, ?_⟩⟩,
    rfl, rfl, fun name hname => ?_⟩
  · rw [Headers.values_put, if_pos rfl]
  · rw [Url.text_resource hplace, hscheme]
    rfl
  · obtain ⟨host, -, hhost, rfl⟩ := Url.hostHeader_eq_ok hplace
    have hread := (Url.isRead_of_parse hparse host hhost).isHostText_text
    rw [String.toList_append]
    exact fun c => (hread.append request.url.isHostText_portText).isHostMark_eq_false
  · have hweb : SchemeKind.of request.url.scheme = .web := by
      rw [hscheme]
      rfl
    obtain ⟨rest, hpath⟩ := Url.path_of_parse hparse hweb
    exact ⟨rest ++ request.url.queryText, by rw [requestTarget, hpath, String.append_assoc]⟩
  · rw [Headers.values_put, if_neg hname]

end Request

namespace Rehearsal

/-- A request to a URL with a user, a port, an empty query and a fragment. -/
def discreet : Request where
  method := .post
  url :=
    { scheme := "https", username := "alice", password := some "s3cret",
      host := some (.ipv6 ⟨[0x2001, 0xDB8, 0, 0, 0, 0, 0, 1], rfl⟩), port := some 8443,
      path := .segments ["a", ""], query := some "", fragment := some "top" }
  headers :=
    ⟨[(.te, ⟨Utf8.encode "trailers", by decide, false⟩),
      (.host, ⟨Utf8.encode "mirror", by decide, false⟩), (.te, ⟨[], by decide, false⟩)]⟩
  body := [1, 2]

theorem forTarget_names_resource_discreet :
    Url.parse "https://alice:s3cret@[2001:db8::1]:8443/a/?#top" = .ok discreet.url ∧
      discreet.isTunnelled = true ∧
      ∃ sent value, discreet.forTarget = .ok ("/a/?", sent) ∧
        sent.headers.values .host = [value] ∧ value.bytes = Utf8.encode "[2001:db8::1]:8443" ∧
        (∀ c ∈ "[2001:db8::1]:8443".toList, isHostMark c = false) ∧
        sent.body = [1, 2] ∧ sent.headers.values .te = discreet.headers.values .te := by
  have hparse : Url.parse "https://alice:s3cret@[2001:db8::1]:8443/a/?#top" = .ok discreet.url := by rfl
  have htunnelled : discreet.isTunnelled = true := by rfl
  obtain ⟨sent, hsent⟩ : ∃ sent, discreet.forTarget = .ok ("/a/?", sent) := ⟨_, rfl⟩
  obtain ⟨⟨place, value, hvalues, hbytes, hresource, hparts⟩, -, hbody, hothers⟩ :=
    Request.forTarget_names_resource htunnelled hsent
  have hplace : place = "[2001:db8::1]:8443" := by
    have hwhole : discreet.url.resource.text = "https://" ++ "[2001:db8::1]:8443" ++ "/a/?" := by rfl
    have hsame := (String.append_left_inj _).mp (hresource.trans hwhole)
    exact (String.append_right_inj _).mp hsame
  subst hplace
  exact ⟨hparse, htunnelled, sent, value, hsent, hvalues, hbytes, (hparts _ hparse).1, hbody,
    hothers .te (by decide)⟩

end Rehearsal

end ProxyHandshake
