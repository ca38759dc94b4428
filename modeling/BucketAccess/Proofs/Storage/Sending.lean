import BucketAccess.Proofs.Account.Connection
import BucketAccess.Proofs.Signing.Header
import BucketAccess.Proofs.Storage.Absence
import BucketAccess.Proofs.Storage.Address
import BucketAccess.Proofs.Web.Url

/-!
# Requests as they are sent

A call asks for the time and sends one request. What the signature of the request covers is what the
server receives once the request's URL is read: the host, the path and the query are the same, so
that the server finds the request signed. A bucket whose name is a step in a path is the exception:
its URL leads elsewhere.
-/

namespace BucketAccess.Storage

open Signing (canonicalPath segmentName IsHeaderName IsAdded Received)
open Web (IsHttp Resolved portText)

/-! ## The request of a call -/

namespace Call

def bucket : Call → String
  | createBucket bucket _ _ | deleteBucket bucket | headBucket bucket | getPolicy bucket _
  | putPolicy bucket _ _ | deletePolicy bucket _ => bucket

def method : Call → String
  | createBucket .. | putPolicy .. => "PUT"
  | deleteBucket _ | deletePolicy .. => "DELETE"
  | headBucket _ => "HEAD"
  | getPolicy .. => "GET"

def query : Call → String
  | createBucket .. | deleteBucket _ | headBucket _ => ""
  | getPolicy .. | putPolicy .. | deletePolicy .. => "policy"

def headers : Call → List (String × String)
  | createBucket _ acl _ => Client.creationHeaders acl
  | putPolicy .. => [("content-type", "application/json")]
  | deleteBucket _ | headBucket _ | getPolicy .. | deletePolicy .. => []

def body : Call → Bytes
  | createBucket _ _ location => Client.creationBody location
  | putPolicy _ policy _ => Utf8.bytes policy.toText
  | deleteBucket _ | headBucket _ | getPolicy .. | deletePolicy .. => []

end Call

namespace Client

variable (k : Client)

/-- What a call sends at a time. -/
def requestOf (call : Call) (time : Instant) : Web.Request :=
  k.request call.method call.bucket call.query call.headers call.body time

variable {k}

/-- What a client makes of an answer. -/
def outcome (operation bucket : String) (answer : Except Web.TransportError Web.Response) :
    Except Error Web.Response :=
  match answer with
  | .error cause => .error (.transport operation bucket cause)
  | .ok response =>
    if response.isSuccess then .ok response
    else
      match response.body with
      | .error cause => .error (.transport operation bucket cause)
      | .ok body => .error (.backend (failureOf operation bucket response body))

theorem run_send (operation method bucket query : String) (headers : List (String × String))
    (body : Bytes) : (k.send operation method bucket query headers body).run =
      .call .now fun time =>
        .note ⟨.debug, "sending object-storage request", Log.texts [("operation", operation),
            ("bucket", bucket), ("method", method), ("url", k.url bucket query)]⟩
          (.call (.send (k.request method bucket query headers body time)) fun answer =>
            .done (outcome operation bucket answer)) := by
  unfold send
  refine congrArg (@Program.call Web.http _ .now) (funext fun time => ?_)
  refine congrArg (Program.note _) (congrArg (@Program.call Web.http _ _) (funext fun answer => ?_))
  cases answer with
  | error cause => rfl
  | ok response =>
    show ExceptT.run (if response.isSuccess = true then pure response else _) = _
    unfold outcome
    simp only
    split
    · rfl
    · cases response.body <;> rfl

theorem ends_send {operation method bucket query : String} {headers : List (String × String)}
    {body : Bytes} {t : List (Turn Web.http)} {r : Except Error Web.Response}
    (h : (k.send operation method bucket query headers body).run.Ends t r) :
    ∃ time answer, t = [⟨.now, time⟩,
      ⟨.send (k.request method bucket query headers body time), answer⟩] := by
  rw [run_send] at h
  obtain ⟨time, t, rfl, hnote⟩ := Program.ends_call.1 h
  obtain ⟨answer, t, rfl, hdone⟩ := Program.ends_call.1 (Program.ends_note.1 hnote)
  obtain ⟨rfl, -⟩ := Program.ends_done.1 hdone
  exact ⟨time, answer, rfl⟩

/-- A call makes one request. -/
theorem turns_perform {call : Call} {t : List (Turn Web.http)} {reply : call.Reply}
    (h : (k.perform call).Ends t reply) :
    ∃ time answer, t = [⟨.now, time⟩, ⟨.send (k.requestOf call time), answer⟩] := by
  obtain ⟨x, hx, -⟩ := ends_perform.1 h
  obtain ⟨r, hr, -⟩ := (Program.ends_bind_silent fun _ => .done _).1 hx
  cases call <;> exact ends_send hr

/-! ## Clients of endpoints -/

/-- The client of an endpoint that was read. -/
theorem returns_connect {σ : Signature} {c : Config} {k : Client} {t : List (Turn σ)}
    (h : Attempt.Returns (connect c) t k) :
    ∃ url host, Account.readEndpoint c.endpoint = .ok (url, host) ∧
      k = .ofConnection ⟨url.scheme, host, url.port, url.path, c.accessKey, c.secretKey⟩
        c.region := by
  unfold connect at h
  obtain ⟨_, _, connection, -, hconnection, hk⟩ := Attempt.returns_bind.1 h
  obtain ⟨-, rfl⟩ := Attempt.returns_pure.1 hk
  rw [Attempt.returns_mapError, Account.returns_connect] at hconnection
  obtain ⟨-, -, -, -, url, host, hread, rfl⟩ := hconnection
  exact ⟨url, host, hread, rfl⟩

/-- The configuration of the client of a server's root. -/
def rootConfig : Config := ⟨"http://h", "AK", "SK", .anyone, "us-east-1", .ofSecs 200⟩

theorem returns_rootConfig : Attempt.Returns (connect (σ := Web.http) rootConfig) [] atRoot := by
  have hread : Account.readEndpoint rootConfig.endpoint =
      .ok (⟨"http", some "h", none, "/", none⟩, "h") := by decide +kernel
  unfold connect Account.connect
  rw [hread]
  exact .note (.done _)

/-! ## URLs -/

variable {region : String} {connection : Account.Connection} {bucket query : String}

theorem resolved_of_append_slash {path : List Char} (h : Resolved (path ++ ['/'])) :
    Resolved path := by
  obtain ⟨segments, hsegments, hplain⟩ := h
  rw [List.splitOn_append_cons_self, List.splitOn_nil] at hsegments
  obtain ⟨first, r, hpieces⟩ := List.exists_cons_of_ne_nil (List.splitOn_ne_nil '/' path)
  rw [hpieces, List.cons_append, List.cons.injEq] at hsegments
  obtain ⟨rfl, rfl⟩ := hsegments
  exact ⟨r, hpieces, fun s hs => hplain s (List.mem_append_left _ hs)⟩

theorem resolved_dropSlashes {path : List Char} (h : Resolved path) :
    Resolved (dropSlashes path) := by
  induction path using List.reverseRecOn with
  | nil => exact h
  | append_singleton path c ih =>
    unfold dropSlashes
    rw [List.reverse_append, List.reverse_singleton, List.singleton_append]
    by_cases hc : c = '/'
    · subst hc
      rw [List.dropWhile_cons_of_pos (by decide)]
      exact ih (resolved_of_append_slash h)
    · rw [List.dropWhile_cons_of_neg (by simpa using hc), List.reverse_cons, List.reverse_reverse]
      exact h

/-- The path of a bucket is in its canonical form. -/
theorem canonicalPath_path (hslash : '/' ∉ bucket.toList) :
    canonicalPath (k.path bucket) = k.path bucket := by
  have hpieces := k.splitOn_path hslash
  have hne : k.path bucket ≠ [] := by
    intro hnil
    have hlength := congrArg List.length hpieces
    have hbase := Text.one_le_length_splitOn '/' k.basePath
    rw [hnil, List.splitOn_nil, List.length_append, List.length_map, List.length_singleton,
      List.length_singleton] at hlength
    omega
  have hagain : ((k.path bucket).splitOn '/').map Signing.canonicalSegment =
      (k.path bucket).splitOn '/' := by
    rw [hpieces, List.map_append, List.map_map, List.map_singleton,
      Signing.canonicalSegment_canonicalSegment]
    congr 1
    exact List.map_congr_left fun s _ => Signing.canonicalSegment_canonicalSegment s
  rw [Signing.canonicalPath_of_ne_nil hne, hagain]
  exact List.intercalate_splitOn '/'

theorem toList_url (k : Client) (bucket query : String) : (k.url bucket query).toList =
    k.scheme.toList ++ ':' :: '/' :: '/' ::
      (k.host.toList ++ (k.path bucket ++ Web.queryText query.toList)) := by
  have hquery : (if query.isEmpty then "" else "?" ++ query).toList =
      Web.queryText query.toList := by
    unfold Web.queryText
    by_cases hempty : query = ""
    · subst hempty
      rfl
    · rw [if_neg (by simpa using hempty), if_neg (by simpa using hempty), String.toList_append]
      rfl
  have hpath : (String.ofList (k.path bucket)).toList = k.path bucket := String.toList_ofList
  unfold url
  rw [String.toList_append, String.toList_append, String.toList_append, String.toList_append,
    hquery, hpath, List.append_assoc, List.append_assoc, List.append_assoc]
  rfl

theorem toList_host : (ofConnection connection region).host.toList =
    connection.host.toList ++ portText connection.port := by
  unfold ofConnection
  cases connection.port with
  | none => simp [portText]
  | some port => simp [portText, Web.decimalText]

/-- The URL of a request has the scheme of the client. -/
theorem scheme_of_parse (hscheme : Web.IsScheme k.scheme.toList) {url : Web.Url}
    (h : Web.Url.parse (k.url bucket query) = .ok url) : url.scheme = k.scheme := by
  unfold Web.Url.parse at h
  rw [toList_url] at h
  rw [Web.Url.scheme_of_read_append hscheme h, String.ofList_toList]

/-- What the URL of a request is read as, if the endpoint is http-like: it leads where the client
says, unless the host is refused. -/
theorem parse_url {endpoint host : String} {url : Web.Url} {accessKey secretKey : String}
    (hread : Account.readEndpoint endpoint = .ok (url, host)) (hhttp : IsHttp url.scheme.toList)
    (hk : k = .ofConnection ⟨url.scheme, host, url.port, url.path, accessKey, secretKey⟩ region)
    (hslash : '/' ∉ bucket.toList) (hdots : ¬ Web.IsDots (segmentName bucket.toList))
    (hquery : ∀ c ∈ query.toList, Percent.isEncodedChar c = true) :
    Web.Url.parse (k.url bucket query) = (Web.readHost host.toList).map fun _ =>
      { scheme := url.scheme
        host := some host
        port := url.port
        path := String.ofList (k.path bucket)
        query := if query = "" then none else some query } := by
  obtain ⟨hparse, hhost⟩ := Account.readEndpoint_ok hread
  obtain ⟨hhost', hport, hpath⟩ := Web.Url.isRead_of_read hparse hhttp hhost
  have hwritten := Web.Url.read_canonical hhttp hhost' (fun p hp => (hport p hp).le)
    (resolved_dropSlashes hpath) hslash hdots fun c hc =>
      Web.isQueryChar_of_isEncodedChar (hquery c hc)
  have hpresent : (if query.toList = [] then none else some (String.ofList query.toList)) =
      if query = "" then none else some query := by
    by_cases hempty : query = ""
    · rw [if_pos hempty, if_pos (by rw [hempty]; rfl)]
    · rw [if_neg hempty, if_neg (by simpa using hempty), String.ofList_toList]
  rw [hpresent, Web.presentPort_of_isPort hport, String.ofList_toList, String.ofList_toList, List.append_assoc] at hwritten
  subst hk
  unfold Web.Url.parse
  rw [toList_url, toList_host, List.append_assoc]
  exact hwritten

/-! ## Requests -/

theorem isEncodedChar_query (call : Call) : ∀ c ∈ call.query.toList,
    Percent.isEncodedChar c = true := by
  have hpolicy : "policy".toList.all Percent.isEncodedChar = true := by decide
  cases call with
  | createBucket | deleteBucket | headBucket => exact nofun
  | getPolicy | putPolicy | deletePolicy => exact List.all_eq_true.1 hpolicy

theorem isHeaderName_headers (call : Call) : ∀ h ∈ call.headers, IsHeaderName h.1.toList := by
  have hacl : IsHeaderName "x-amz-acl".toList := ⟨by decide, by decide, by decide⟩
  have htype : IsHeaderName "content-type".toList := ⟨by decide, by decide, by decide⟩
  cases call with
  | createBucket bucket acl location =>
    intro h hh
    obtain ⟨a, -, rfl⟩ := Option.map_eq_some_iff.1 (Option.mem_toList.1 hh)
    exact hacl
  | putPolicy => exact List.forall_mem_singleton.2 htype
  | deleteBucket => exact nofun
  | headBucket => exact nofun
  | getPolicy => exact nofun
  | deletePolicy => exact nofun

/-- A request as the server has it, with headers that were added on the way. -/
def receivedAt (r : Web.Request) (url : Web.Url) (added : List Signing.Header) : Received where
  method := r.method.toList
  host := url.authority.toList
  path := url.path.toList
  query := (url.query.getD "").toList
  headers := added ++ r.headers.map Signing.received
  body := r.body

/-- The request goes to the host, the path and the query that it is signed for, the path being
signed as it is, and the server finds it signed. -/
structure SentAsSigned (k : Client) (call : Call) (time : Instant) (url : Web.Url) : Prop where
  scheme : url.scheme = k.scheme
  host : url.authority = k.host
  path : url.path.toList = k.path call.bucket
  canonical : canonicalPath (k.path call.bucket) = k.path call.bucket
  query : url.query.getD "" = call.query
  verified : ∀ added, (∀ h ∈ added, IsAdded (k.requestOf call time).headers h) →
    k.signer.isVerified (receivedAt (k.requestOf call time) url added) = true

theorem isVerified_receivedAt {call : Call} {time : Instant} {url : Web.Url}
    (hhost : url.authority = k.host) (hpath : url.path.toList = k.path call.bucket)
    (hquery : url.query.getD "" = call.query) {added : List Signing.Header}
    (hadded : ∀ h ∈ added, IsAdded (k.requestOf call time).headers h) :
    k.signer.isVerified (receivedAt (k.requestOf call time) url added) = true := by
  have hcanonical : canonicalPath url.path.toList =
      canonicalPath (String.ofList (k.path call.bucket)).toList := by
    rw [hpath, String.toList_ofList]
  have hcanonicalQuery : Signing.canonicalQuery (url.query.getD "").toList =
      Signing.canonicalQuery call.query.toList := by
    rw [hquery]
  have hsigned := k.signer.isVerified_sign call.method k.host
    (String.ofList (k.path call.bucket)) call.query call.body time hcanonical hcanonicalQuery
    (isHeaderName_headers call) hadded
  unfold receivedAt
  rw [hhost]
  exact hsigned

/-! ## Targets -/

/-- What a call needs so that it can be sent at all: a web server's endpoint, whose host is accepted
again where it is written in a URL, and texts that headers can hold. -/
structure Sendable (c : Config) (call : Call) : Prop where
  endpoint : ∃ url host, Account.readEndpoint c.endpoint = .ok (url, host) ∧
    IsHttp url.scheme.toList ∧ Web.readHost host.toList = .ok host.toList
  keys : ∀ x ∈ c.accessKey.toList ++ c.region.toList, Web.isHeaderChar x = true
  values : ∀ h ∈ call.headers, ∀ x ∈ h.2.toList, Web.isHeaderChar x = true

theorem isHeaderChar_of_digit? {x : Char} (h : (Numeral.digit? 10 x).isSome) :
    Web.isHeaderChar x = true :=
  Utf8.forall_ascii (P := fun x => (Numeral.digit? 10 x).isSome → Web.isHeaderChar x = true)
    (by decide) (Numeral.lt_of_isSome_digit? h) h

theorem isHeaderChar_of_mem_basicTime {time : Instant} {x : Char} (h : x ∈ time.basicTime) :
    Web.isHeaderChar x = true := by
  rcases Signing.mem_basicTime h with h | h
  · have hplain : ['-', '+', 'T', 'Z'].all Web.isHeaderChar = true := by decide
    exact List.all_eq_true.1 hplain x h
  · exact isHeaderChar_of_digit? h

theorem isHeaderChar_of_mem_hex {bs : Bytes} {x : Char} (h : x ∈ Hex.encode bs) :
    Web.isHeaderChar x = true := by
  obtain ⟨n, hn, rfl⟩ := Signing.exists_lowerDigit h
  exact (by decide : ∀ n < 16, Web.isHeaderChar (Hex.lowerDigit n) = true) n hn

theorem isHeaderChar_authorization {s : Signing.HeaderSigner} {time : Instant}
    {names : List (List Char)} {request : List Char}
    (hkeys : ∀ x ∈ s.accessKey.toList ++ s.region.toList, Web.isHeaderChar x = true)
    (hservice : s.service = "s3") (hnames : ∀ name ∈ names, IsHeaderName name) :
    ∀ x ∈ s.authorization time.basicTime time.basicDate names request,
      Web.isHeaderChar x = true := by
  rw [List.forall_mem_append] at hkeys
  have hdate : ∀ x ∈ time.basicDate, Web.isHeaderChar x = true := by
    intro x hx
    rcases Signing.mem_basicDate hx with rfl | rfl | hx
    · decide
    · decide
    · exact isHeaderChar_of_digit? hx
  have hlist : ∀ x ∈ Signing.nameList names, Web.isHeaderChar x = true := by
    intro x hx
    rcases Signing.mem_nameList hnames hx with rfl | hx
    · decide
    · have hname : Signing.nameChars.all Web.isHeaderChar = true := by decide
      exact List.all_eq_true.1 hname x hx
  have hfixed : ∀ s : List Char, s.all Web.isHeaderChar = true →
      ∀ x ∈ s, Web.isHeaderChar x = true := fun s hs => List.all_eq_true.1 hs
  have hslash : Web.isHeaderChar '/' = true := by decide
  unfold Signing.HeaderSigner.authorization
  simp only [List.forall_mem_append, List.forall_mem_cons, hservice]
  refine ⟨⟨⟨⟨⟨⟨⟨hfixed _ ?_, hfixed _ ?_⟩, hkeys.1⟩, hslash, ⟨⟨hdate, hslash, hkeys.2⟩, hslash,
    hfixed _ ?_⟩, hfixed _ ?_⟩, hfixed _ ?_⟩, hlist⟩, hfixed _ ?_⟩,
    fun x => isHeaderChar_of_mem_hex⟩ <;> decide

theorem isHeaderChar_requestOf {call : Call} {time : Instant}
    (hkeys : ∀ x ∈ k.signer.accessKey.toList ++ k.signer.region.toList, Web.isHeaderChar x = true)
    (hservice : k.signer.service = "s3")
    (hvalues : ∀ h ∈ call.headers, ∀ x ∈ h.2.toList, Web.isHeaderChar x = true) :
    ∀ h ∈ (k.requestOf call time).headers, ∀ x ∈ h.2.toList, Web.isHeaderChar x = true := by
  intro h hh
  rcases List.mem_append.1 hh with hh | hh
  · simp only [List.mem_cons, List.not_mem_nil, or_false] at hh
    rcases hh with rfl | rfl | rfl
    · intro x hx
      exact isHeaderChar_of_mem_basicTime (String.toList_ofList ▸ hx)
    · intro x hx
      exact isHeaderChar_of_mem_hex (String.toList_ofList ▸ hx)
    · intro x hx
      have hx' : x ∈ k.signer.authorization time.basicTime time.basicDate _ _ :=
        String.toList_ofList ▸ hx
      refine isHeaderChar_authorization hkeys hservice ?_ x hx'
      exact fun name => Signing.HeaderSigner.isHeaderName_of_mem (isHeaderName_headers call)
  · exact hvalues h hh

/-! ## What is sent -/

/-- The first moment of 1970. -/
def epoch : Instant := ⟨0, 0, by decide, by decide, by decide, by decide⟩

theorem rootKeys_sendable : ∀ x ∈ rootConfig.accessKey.toList ++ rootConfig.region.toList,
    Web.isHeaderChar x = true := by
  have hall : ("AK".toList ++ "us-east-1".toList).all Web.isHeaderChar = true := by decide
  exact List.all_eq_true.1 hall

/-- A URL that is read as the client wrote it. -/
theorem sentAsSigned_of_read {call : Call} {time : Instant}
    (hk : k = .ofConnection connection region) (hslash : '/' ∉ call.bucket.toList) :
    SentAsSigned k call time {
      scheme := connection.scheme
      host := some connection.host
      port := connection.port
      path := String.ofList (k.path call.bucket)
      query := if call.query = "" then none else some call.query } := by
  have hquery : (if call.query = "" then none else some call.query).getD "" = call.query := by
    split
    · next hempty => exact hempty.symm
    · rfl
  have hhost : Web.Url.authority ⟨connection.scheme, some connection.host, connection.port,
      String.ofList (k.path call.bucket),
      if call.query = "" then none else some call.query⟩ = k.host := by
    rw [hk]
    rfl
  have hpath : (String.ofList (k.path call.bucket)).toList = k.path call.bucket :=
    String.toList_ofList
  refine ⟨?_, hhost, hpath, canonicalPath_path hslash, hquery,
    fun added => isVerified_receivedAt hhost hpath hquery⟩
  rw [hk]
  rfl

/-- A call asks for the time and sends one request, which is signed for what it is sent to. -/
theorem sent_as_signed {c : Config} {opening t : List (Turn Web.http)} {call : Call}
    {reply : call.Reply} (hk : Attempt.Returns (connect c) opening k)
    (h : (k.perform call).Ends t reply) (hslash : '/' ∉ call.bucket.toList)
    (hdots : ¬ Web.IsDots (segmentName call.bucket.toList)) :
    ∃ time answer, t = [⟨.now, time⟩, ⟨.send (k.requestOf call time), answer⟩] ∧
      (∀ url, (k.requestOf call time).target = .ok url → SentAsSigned k call time url) ∧
      (Sendable c call → ∃ url, (k.requestOf call time).target = .ok url) := by
  obtain ⟨url₀, host, hread, hclient⟩ := returns_connect hk
  obtain ⟨time, answer, ht⟩ := turns_perform h
  refine ⟨time, answer, ht, fun url htarget => ?_, fun hsendable => ?_⟩
  · obtain ⟨hparse, hhttp⟩ := Web.Request.target_ok htarget
    have hscheme₀ : k.scheme = url₀.scheme := by
      rw [hclient]
      rfl
    have hscheme : url.scheme = k.scheme := by
      refine scheme_of_parse ?_ hparse
      rw [hscheme₀]
      exact Web.Url.isScheme_of_read (Account.readEndpoint_ok hread).1
    rw [hscheme, hscheme₀] at hhttp
    have hsent := hparse.symm.trans
      (parse_url hread hhttp hclient hslash hdots (isEncodedChar_query call))
    cases hagain : Web.readHost host.toList with
    | error e =>
      rw [hagain] at hsent
      cases hsent
    | ok again =>
      rw [hagain] at hsent
      rw [Except.ok.inj hsent]
      exact sentAsSigned_of_read hclient hslash
  · obtain ⟨url, host', hread', hhttp, hhost⟩ := hsendable.endpoint
    obtain ⟨rfl, rfl⟩ := Prod.mk.inj (Except.ok.inj (hread.symm.trans hread'))
    have hsent := parse_url hread hhttp hclient hslash hdots (isEncodedChar_query call)
    rw [hhost] at hsent
    refine ⟨_, Web.Request.target_of_parse (isHeaderChar_requestOf ?_ ?_ hsendable.values) hsent hhttp⟩
    · rw [hclient]
      exact hsendable.keys
    · rw [hclient]
      rfl

theorem sent_as_signed_blank : ∃ url,
    (atRoot.requestOf (.headBucket "a b") epoch).target = .ok url ∧
      url.path.toList = "/a%20b".toList ∧
      atRoot.signer.isVerified (receivedAt (atRoot.requestOf (.headBucket "a b") epoch) url []) =
        true := by
  have hsendable : Sendable rootConfig (.headBucket "a b") :=
    ⟨⟨⟨"http", some "h", none, "/", none⟩, "h", by decide +kernel, .inl rfl, by decide +kernel⟩,
      rootKeys_sendable, nofun⟩
  have hcall : (atRoot.perform (.headBucket "a b")).Ends [⟨.now, epoch⟩,
      ⟨.send (atRoot.requestOf (.headBucket "a b") epoch), .error (.noAnswer "http://h/a%20b")⟩]
      (.error (.transport "HeadBucket" "a b" (.noAnswer "http://h/a%20b"))) :=
    .note (.call (.note (.call (.done _))))
  obtain ⟨time, answer, ht, hsent, htarget⟩ :=
    sent_as_signed returns_rootConfig hcall (by decide) (by decide)
  obtain ⟨hfirst, -⟩ := List.cons.inj ht
  cases hfirst
  obtain ⟨url, hurl⟩ := htarget hsendable
  have hpath := (hsent url hurl).path.trans (by decide : atRoot.path "a b" = "/a%20b".toList)
  exact ⟨url, hurl, hpath, (hsent url hurl).verified [] nofun⟩

/-- A bucket is named as the step back. Its request is sent to another path than the one that is
signed. -/
theorem sent_elsewhere : Attempt.Returns (connect (σ := Web.http) rootConfig) [] atRoot ∧
    '/' ∉ "..".toList ∧ ∃ answer reply url,
      (atRoot.perform (.deleteBucket "..")).Ends [⟨.now, epoch⟩,
        ⟨.send (atRoot.requestOf (.deleteBucket "..") epoch), answer⟩] reply ∧
      (atRoot.requestOf (.deleteBucket "..") epoch).target = .ok url ∧
      canonicalPath url.path.toList ≠ canonicalPath (atRoot.path "..") := by
  have hparse : Web.Url.parse (atRoot.url ".." "") = .ok ⟨"http", some "h", none, "/", none⟩ := by
    decide +kernel
  refine ⟨returns_rootConfig, by decide, .error (.noAnswer "http://h/"),
    .error (.transport "DeleteBucket" ".." (.noAnswer "http://h/")),
    ⟨"http", some "h", none, "/", none⟩, .note (.call (.note (.call (.done _)))), ?_, by decide⟩
  exact Web.Request.target_of_parse (isHeaderChar_requestOf rootKeys_sendable rfl nofun) hparse (.inl rfl)

end Client

end BucketAccess.Storage
