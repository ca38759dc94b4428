import BucketAccess.Proofs.Account.Connection
import BucketAccess.Proofs.Signing.Parameters
import BucketAccess.Proofs.Users.Exchange
import BucketAccess.Proofs.Web.Url

/-!
# Calls as they are sent

A call goes to the host of the endpoint on the administrative port, whatever port, path and user the
endpoint has, and carries exactly the query that was signed. The host line of what is signed always
has the port; the host that the server is told has it unless it is the scheme's own, so that only
then the two differ.
-/

namespace BucketAccess.Users

open Signing (QueryCall querySignature sortedQuery)
open Web (IsHttp presentPort)

/-- The client of an endpoint that was read. -/
def Client.ofEndpoint (c : Config) (url : Web.Url) (host : String) : Client :=
  .ofConnection ⟨url.scheme, host, url.port, url.path, c.accessKey, c.secretKey⟩ c.adminPort

theorem returns_connect {σ : Signature} {c : Config} {k : Client} {t : List (Turn σ)} :
    Attempt.Returns (connect c) t k ↔
      t = [] ∧ c.accessKey ≠ "" ∧ c.secretKey ≠ "" ∧ c.trust.isUsable = true ∧
        ∃ url host, Account.readEndpoint c.endpoint = .ok (url, host) ∧
          k = .ofEndpoint c url host := by
  unfold connect
  rw [Attempt.returns_bind]
  constructor
  · rintro ⟨_, _, connection, rfl, hconnection, hk⟩
    obtain ⟨rfl, rfl⟩ := Attempt.returns_pure.1 hk
    rw [Attempt.returns_mapError, Account.returns_connect] at hconnection
    obtain ⟨rfl, haccess, hsecret, htrust, url, host, hread, rfl⟩ := hconnection
    exact ⟨rfl, haccess, hsecret, htrust, url, host, hread, rfl⟩
  · rintro ⟨rfl, haccess, hsecret, htrust, url, host, hread, rfl⟩
    refine ⟨[], [], _, rfl, ?_, Attempt.returns_pure.2 ⟨rfl, rfl⟩⟩
    rw [Attempt.returns_mapError, Account.returns_connect]
    exact ⟨rfl, haccess, hsecret, htrust, url, host, hread, rfl⟩

namespace Client

variable {c : Config} {url : Web.Url} {host : String} {k : Client} {params : SortedMap String}
  {time : Instant}

/-! ## URLs -/

/-- The query of a request. -/
def query (k : Client) (params : SortedMap String) (time : Instant) : List Char :=
  sortedQuery (k.signer.sign "GET" k.host path params time)

theorem toList_host : (ofEndpoint c url host).host.toList =
    host.toList ++ Web.portText (some c.adminPort.toNat) := by
  unfold ofEndpoint ofConnection
  simp [Web.portText, Web.decimalText]

theorem query_ne_nil (k : Client) (params : SortedMap String) (time : Instant) :
    k.query params time ≠ [] := by
  intro h
  exact Signing.QuerySigner.entries_insert_ne_nil _ _ _ (Signing.sortedQuery_eq_nil.1 h)

theorem isQueryChar_query (k : Client) (params : SortedMap String) (time : Instant) :
    ∀ x ∈ k.query params time, Web.isQueryChar x = true := by
  intro x hx
  rcases Signing.mem_sortedQuery hx with hx | hx
  · have hall : ['&', '=', '+'].all Web.isQueryChar = true := by decide
    exact List.all_eq_true.1 hall x hx
  · exact Web.isQueryChar_of_isEncodedChar hx

theorem toList_url (k : Client) (params : SortedMap String) (time : Instant) :
    (k.url params time).toList = k.scheme.toList ++ ':' :: '/' :: '/' ::
      (k.host.toList ++ (Signing.canonicalPath ("/poe".toList ++ '/' :: "rest".toList) ++
        Web.queryText (k.query params time))) := by
  have hpath : Signing.canonicalPath ("/poe".toList ++ '/' :: "rest".toList) = path.toList := by
    decide +kernel
  rw [hpath, Web.queryText, if_neg (k.query_ne_nil params time)]
  unfold url endpoint query
  simp

/-- What the URL of a request is read as, unless the host is refused. -/
theorem parse_url (hread : Account.readEndpoint c.endpoint = .ok (url, host))
    (hhttp : IsHttp url.scheme.toList) (params : SortedMap String) (time : Instant) :
    Web.Url.parse ((ofEndpoint c url host).url params time) =
      (Web.readHost host.toList).map fun _ =>
        { scheme := url.scheme
          host := some host
          port := presentPort url.scheme.toList (some c.adminPort.toNat)
          path := path
          query := some (String.ofList ((ofEndpoint c url host).query params time)) } := by
  obtain ⟨hparse, hhost⟩ := Account.readEndpoint_ok hread
  have hhost := (Web.Url.isRead_of_read hparse hhttp hhost).host
  have hport : ∀ p ∈ some c.adminPort.toNat, p ≤ 65535 := by
    rintro p ⟨⟩
    have := c.adminPort.toNat_lt
    omega
  have hbase : Web.Resolved "/poe".toList :=
    ⟨["poe".toList], by decide, List.forall_mem_singleton.2 (by decide +kernel)⟩
  have hwritten := Web.Url.read_canonical hhttp hhost hport hbase
    (by decide : '/' ∉ "rest".toList) (by decide +kernel)
    ((ofEndpoint c url host).isQueryChar_query params time)
  have hpath : String.ofList (Signing.canonicalPath ("/poe".toList ++ '/' :: "rest".toList)) =
      path := by decide +kernel
  rw [hpath, if_neg (query_ne_nil _ params time), String.ofList_toList, String.ofList_toList,
    List.append_assoc] at hwritten
  unfold Web.Url.parse
  rw [toList_url, toList_host, List.append_assoc]
  exact hwritten

/-! ## What is sent -/

/-- The call that the signature of a request covers. -/
def signedCall (k : Client) (params : SortedMap String) (time : Instant) : QueryCall :=
  ⟨"GET", k.host, path, k.signer.covered params time⟩

/-- The signature that a server finds in a query. -/
def signatureIn (query : List Char) : Option String :=
  match Signing.readQuery query with
  | .ok entries => (SortedMap.ofList entries).get? "Signature"
  | .error _ => none

theorem signatureIn_query (k : Client) (params : SortedMap String) (time : Instant) :
    signatureIn (k.query params time) =
      some (querySignature k.signer.secretKey (k.signedCall params time).text) := by
  obtain ⟨hread, -, -⟩ := k.signer.signed_query_verified "GET" k.host path params time
  unfold signatureIn query
  rw [hread]
  dsimp only
  rw [SortedMap.ofList_eq (.refl _), k.signer.sign_eq, SortedMap.get?_insert_self]
  rfl

/-- The host that the server is told has the administrative port if the scheme has another. -/
theorem authority_eq_iff {target : Web.Url} (hhost : target.host = some host)
    (hport : target.port = presentPort url.scheme.toList (some c.adminPort.toNat)) :
    target.authority = (ofEndpoint c url host).host ↔
      Web.defaultPort? url.scheme.toList ≠ some c.adminPort.toNat := by
  have hline : (ofEndpoint c url host).host =
      host ++ ":" ++ String.ofList (Web.decimalText c.adminPort.toNat) := rfl
  unfold Web.Url.authority
  rw [hhost, hport, hline, Web.presentPort_some]
  by_cases hdefault : Web.defaultPort? url.scheme.toList = some c.adminPort.toNat
  · rw [if_pos hdefault]
    refine iff_of_false (fun he => ?_) fun hne => hne hdefault
    have hlength := congrArg String.length he
    simp only [Option.getD_some, String.length_append] at hlength
    have hcolon : ":".length = 1 := by decide
    omega
  · rw [if_neg hdefault]
    exact iff_of_true rfl hdefault

/-- Where a request goes, what it carries, and who can check its signature. -/
structure SentTo (c : Config) (url : Web.Url) (host : String) (k : Client)
    (params : SortedMap String) (time : Instant) (target : Web.Url) : Prop where
  scheme : target.scheme = url.scheme
  host : target.host = some host
  port : target.port.or (Web.defaultPort? url.scheme.toList) = some c.adminPort.toNat
  path : target.path = "/poe/rest"
  query : target.query = some (String.ofList (k.query params time))
  signature : signatureIn (k.query params time) =
    some (querySignature c.secretKey (k.signedCall params time).text)
  /-- The server is told the host that is signed unless the port is the scheme's own. -/
  hostLine : target.authority = (k.signedCall params time).host ↔
    Web.defaultPort? url.scheme.toList ≠ some c.adminPort.toNat
  verified : Web.defaultPort? url.scheme.toList ≠ some c.adminPort.toNat →
    Signing.isVerified c.secretKey "GET" target.authority target.path (k.query params time) = true

/-- A URL that is read as the client wrote it. -/
theorem sentTo_of_read (hk : k = ofEndpoint c url host) (params : SortedMap String)
    (time : Instant) :
    SentTo c url host k params time {
      scheme := url.scheme
      host := some host
      port := presentPort url.scheme.toList (some c.adminPort.toNat)
      path := path
      query := some (String.ofList (k.query params time)) } := by
  have hsecret : k.signer.secretKey = c.secretKey := by
    rw [hk]
    rfl
  have hauthority : Web.Url.authority ⟨url.scheme, some host,
      presentPort url.scheme.toList (some c.adminPort.toNat), path,
      some (String.ofList (k.query params time))⟩ = k.host ↔
        Web.defaultPort? url.scheme.toList ≠ some c.adminPort.toNat := by
    rw [hk]
    exact authority_eq_iff rfl rfl
  refine ⟨rfl, rfl, ?_, rfl, rfl, ?_, hauthority, fun hother => ?_⟩
  · dsimp only
    rw [Web.presentPort_some]
    by_cases hdefault : Web.defaultPort? url.scheme.toList = some c.adminPort.toNat
    · rw [if_pos hdefault, Option.none_or, hdefault]
    · rw [if_neg hdefault, Option.some_or]
  · rw [signatureIn_query, hsecret]
  · rw [hauthority.2 hother, ← hsecret]
    exact (k.signer.signed_query_verified "GET" k.host path params time).2.1

/-- A call with parameters asks for the time and sends one request, which goes to the host of the
endpoint on the administrative port with the query that was signed. It is sent unless the host has a
label that is too long. -/
theorem sent_to_admin_port {opening t : List (Turn Web.http)} {r : Except Error Bytes}
    (hread : Account.readEndpoint c.endpoint = .ok (url, host))
    (hhttp : IsHttp url.scheme.toList) (hk : Attempt.Returns (connect c) opening k)
    (hparams : params.isEmpty = false) (h : (k.call params).run.Ends t r) :
    ∃ time answer, t = [⟨.now, time⟩, ⟨.send (k.request params time), answer⟩] ∧
      (∀ target, (k.request params time).target = .ok target →
        SentTo c url host k params time target) ∧
      ((∃ target, (k.request params time).target = .ok target) ↔
        Web.HasShortLabels host.toList) := by
  obtain ⟨-, -, -, -, url', host', hread', hclient⟩ := returns_connect.1 hk
  obtain ⟨rfl, rfl⟩ := Prod.mk.inj (Except.ok.inj (hread.symm.trans hread'))
  obtain ⟨time, answer, ht, -⟩ := (ends_call_iff _ hparams).1 h
  obtain ⟨hparse, hhost⟩ := Account.readEndpoint_ok hread
  obtain ⟨⟨text, htext⟩, -, -⟩ := Web.Url.read_http hparse hhttp hhost
  have hagain := Web.readHost_again_iff htext
  have hsent := parse_url hread hhttp params time
  rw [← hclient] at hsent
  -- the host was read once, from the endpoint, and is read again from the request's URL
  cases hhost : Web.readHost host.toList with
  | error e =>
    rw [hhost] at hsent
    have hunsent : ∀ target, (k.request params time).target ≠ .ok target := by
      intro target htarget
      cases (Web.Request.target_ok htarget).1.symm.trans hsent
    refine ⟨time, answer, ht, fun target htarget => absurd htarget (hunsent target), ?_⟩
    refine iff_of_false (fun ⟨target, htarget⟩ => hunsent target htarget) fun hshort => ?_
    cases hhost.symm.trans (hagain.2 hshort)
  | ok again =>
    rw [hhost] at hsent
    have htarget := Web.Request.target_of_parse (r := k.request params time) nofun hsent hhttp
    refine ⟨time, answer, ht, fun target h => ?_, iff_of_true ⟨_, htarget⟩ (hagain.1 ?_)⟩
    · rw [← Except.ok.inj (htarget.symm.trans h)]
      exact sentTo_of_read hclient params time
    · rw [hhost, (Web.isHost_of_readHost htext).eq_of_readHost hhost]

/-- An endpoint with a user, a port and a path of its own. -/
def busyConfig (adminPort : UInt16) : Config :=
  ⟨"http://u:p@h:8080/a", "AK", "SK", .anyone, adminPort, .ofSecs 200⟩

def busyUrl : Web.Url := ⟨"http", some "h", some 8080, "/a", none⟩

theorem readEndpoint_busyConfig (adminPort : UInt16) :
    Account.readEndpoint (busyConfig adminPort).endpoint = .ok (busyUrl, "h") := by
  show Account.readEndpoint "http://u:p@h:8080/a" = _
  decide +kernel

theorem returns_busyConfig (adminPort : UInt16) :
    Attempt.Returns (connect (σ := Web.http) (busyConfig adminPort)) []
      (ofEndpoint (busyConfig adminPort) busyUrl "h") := by
  have haccess : (busyConfig adminPort).accessKey ≠ "" := by
    show "AK" ≠ ""
    decide
  have hsecret : (busyConfig adminPort).secretKey ≠ "" := by
    show "SK" ≠ ""
    decide
  exact returns_connect.2
    ⟨rfl, haccess, hsecret, rfl, busyUrl, "h", readEndpoint_busyConfig adminPort, rfl⟩

theorem sent_to_admin_port_9443 :
    let k := ofEndpoint (busyConfig 9443) busyUrl "h"
    let params := SortedMap.ofList [("Action", "GetUser"), ("UserName", "u")]
    let time : Instant := ⟨0, 0, by decide, by decide, by decide, by decide⟩
    ∃ target, (k.request params time).target = .ok target ∧ target.authority = "h:9443" ∧
      target.path = "/poe/rest" ∧
      Signing.isVerified "SK" "GET" "h:9443" "/poe/rest" (k.query params time) = true := by
  intro k params time
  have hcall : (k.call params).run.Ends
      [⟨.now, time⟩, ⟨.send (k.request params time), .error .badHeader⟩]
      (.error (.transport "GetUser" .badHeader)) :=
    (ends_call_iff k rfl).2 ⟨time, .error .badHeader, rfl, rfl⟩
  obtain ⟨time', answer, ht, hsent, htarget⟩ := sent_to_admin_port (readEndpoint_busyConfig 9443)
    (.inl rfl) (returns_busyConfig 9443) rfl hcall
  cases (List.cons.inj ht).1
  obtain ⟨target, h⟩ := htarget.2 (Web.hasShortLabels_of_not_mem (by decide))
  have hto := hsent target h
  have hother : Web.defaultPort? busyUrl.scheme.toList ≠ some (busyConfig 9443).adminPort.toNat := by
    decide
  have hauthority : target.authority = "h:9443" :=
    (hto.hostLine.2 hother).trans (by decide +kernel)
  have hverified := hto.verified hother
  rw [hauthority, hto.path] at hverified
  exact ⟨target, h, hauthority, hto.path, hverified⟩

/-- The administrative port is the one that the scheme has anyway. The server is told a host without
it, and the signature is that of a host with it. -/
theorem host_line_with_default_port :
    let k := ofEndpoint (busyConfig 80) busyUrl "h"
    let params := SortedMap.ofList [("Action", "GetUser"), ("UserName", "u")]
    let time : Instant := ⟨0, 0, by decide, by decide, by decide, by decide⟩
    Attempt.Returns (connect (σ := Web.http) (busyConfig 80)) [] k ∧
      ∃ answer r target,
        (k.call params).run.Ends [⟨.now, time⟩, ⟨.send (k.request params time), answer⟩] r ∧
        (k.request params time).target = .ok target ∧ target.authority = "h" ∧
        (k.signedCall params time).host = "h:80" ∧
        signatureIn (k.query params time) =
          some (querySignature "SK" (k.signedCall params time).text) := by
  intro k params time
  have hhost : Web.readHost "h".toList = .ok "h".toList := by decide +kernel
  have hparse := parse_url (readEndpoint_busyConfig 80) (.inl rfl) params time
  rw [hhost] at hparse
  have htarget := Web.Request.target_of_parse (r := k.request params time) nofun hparse (.inl rfl)
  have hcall := (ends_call_iff k (by rfl : params.isEmpty = false)).2
    ⟨time, .error .badHeader, rfl, rfl⟩
  exact ⟨returns_busyConfig 80, _, _, _, hcall, htarget, by decide +kernel, by decide +kernel,
    k.signatureIn_query params time⟩

end Client

end BucketAccess.Users
