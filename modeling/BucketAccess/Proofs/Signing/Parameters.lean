import BucketAccess.Proofs.Signing.Query
import BucketAccess.Proofs.Text.Pieces

/-!
# Parameters as they are signed

A query signature covers four lines: the method, the host, the path and the sorted parameters. The
last line gives back every parameter whatever is written in it, so that two calls with different
parameters never share their text, and two calls share it only if they are the same. The signer's
own parameters are set anew each time: what stood under their names, from a signature before or from
the caller, leaves no trace.
-/

namespace BucketAccess.Signing

variable {params other : SortedMap String}

/-! ## Queries -/

theorem queryPair_ne_nil (key value : String) : queryPair key value ≠ [] :=
  List.append_ne_nil_of_right_ne_nil _ (List.cons_ne_nil _ _)

/-- Only a map without parameters has an empty query; a nameless parameter still has its sign. -/
theorem sortedQuery_eq_nil : sortedQuery params = [] ↔ params.entries = [] := by
  constructor
  · intro hquery
    by_contra hne
    have hpieces := splitOn_sortedQuery hne
    rw [hquery, List.splitOn_nil] at hpieces
    obtain ⟨e, -, hpair⟩ := List.mem_map.1 (hpieces ▸ List.mem_singleton_self [])
    exact queryPair_ne_nil e.1 e.2 hpair
  · intro hnil
    unfold sortedQuery
    rw [hnil]
    rfl

theorem sortedQuery_injective : Function.Injective sortedQuery := by
  intro a b h
  by_cases ha : a.entries = []
  · have hb : b.entries = [] := sortedQuery_eq_nil.1 (h ▸ sortedQuery_eq_nil.2 ha)
    exact SortedMap.ext (ha.trans hb.symm)
  · have hb : b.entries ≠ [] := fun hb => ha (sortedQuery_eq_nil.1 (h ▸ sortedQuery_eq_nil.2 hb))
    have hread := readQuery_sortedQuery ha
    rw [h, readQuery_sortedQuery hb] at hread
    exact SortedMap.ext (Except.ok.inj hread).symm

theorem mem_sortedQuery {c : Char} (h : c ∈ sortedQuery params) :
    c ∈ ['&', '=', '+'] ∨ Percent.isEncodedChar c = true := by
  have hescaped : ∀ {s : List Char}, c ∈ escapeForm s →
      c ∈ ['&', '=', '+'] ∨ Percent.isEncodedChar c = true := by
    intro s hs
    rcases isEncodedChar_of_mem_escapeForm hs with rfl | hs
    · exact .inl (by decide)
    · exact .inr hs
  rcases Text.of_mem_intercalate h with rfl | ⟨pair, hpair, h⟩
  · exact .inl (by decide)
  · obtain ⟨e, -, rfl⟩ := List.mem_map.1 hpair
    rcases List.mem_append.1 h with h | h
    · exact hescaped h
    · rcases List.mem_cons.1 h with rfl | h
      · exact .inl (by decide)
      · exact hescaped h

theorem newline_not_mem_sortedQuery (params : SortedMap String) : '\n' ∉ sortedQuery params :=
  fun h => absurd (mem_sortedQuery h) (by decide)

/-! ## Calls -/

/-- A call of user management before it is signed. -/
structure QueryCall where
  method : String
  host : String
  path : String
  params : SortedMap String

namespace QueryCall

variable {a b : QueryCall}

/-- What a signature of the call covers. -/
def text (c : QueryCall) : List Char :=
  queryText c.method.toList c.host.toList c.path.toList (sortedQuery c.params)

/-- Method, host and path stay on their lines. -/
structure IsPlain (c : QueryCall) : Prop where
  method : '\n' ∉ c.method.toList
  host : '\n' ∉ c.host.toList
  path : '\n' ∉ c.path.toList

theorem splitOn_text (c : QueryCall) : c.text.splitOn '\n' =
    c.method.toList.splitOn '\n' ++ (c.host.toList.splitOn '\n' ++
      (c.path.toList.splitOn '\n' ++ [sortedQuery c.params])) := by
  unfold text queryText
  simp only [List.append_assoc, List.cons_append, List.splitOn_append_cons_self]
  rw [List.splitOn_eq_singleton (newline_not_mem_sortedQuery c.params)]

/-- Whatever the first lines are, the last one is the query. -/
theorem params_eq_of_text (h : a.text = b.text) : a.params = b.params := by
  have hlast : ∀ c : QueryCall, (c.text.splitOn '\n').getLast? = some (sortedQuery c.params) := by
    intro c
    rw [splitOn_text, ← List.append_assoc, ← List.append_assoc, List.getLast?_concat]
  have hquery := hlast a
  rw [h, hlast b] at hquery
  exact sortedQuery_injective (Option.some.inj hquery).symm

theorem eq_of_text (ha : a.IsPlain) (hb : b.IsPlain) (h : a.text = b.text) : a = b := by
  have hlines : ∀ {c : QueryCall}, c.IsPlain → c.text.splitOn '\n' =
      [c.method.toList, c.host.toList, c.path.toList, sortedQuery c.params] := by
    intro c hc
    rw [splitOn_text, List.splitOn_eq_singleton hc.method, List.splitOn_eq_singleton hc.host,
      List.splitOn_eq_singleton hc.path]
    rfl
  have hsame := hlines ha
  rw [h, hlines hb] at hsame
  injection hsame with hmethod hsame
  injection hsame with hhost hsame
  injection hsame with hpath _
  have hparams := params_eq_of_text h
  cases a
  cases b
  rw [QueryCall.mk.injEq]
  exact ⟨(String.toList_injective hmethod).symm, (String.toList_injective hhost).symm,
    (String.toList_injective hpath).symm, hparams⟩

/-- The text to sign says which call it is for: queries tell maps of parameters apart, calls with
different parameters differ in their texts whatever else they have, and calls whose other parts
keep to their lines are told apart altogether. -/
theorem text_unambiguous : Function.Injective sortedQuery ∧
    (∀ a b : QueryCall, a.text = b.text → a.params = b.params) ∧
    ∀ a b : QueryCall, a.IsPlain → b.IsPlain → a.text = b.text → a = b :=
  ⟨sortedQuery_injective, fun _ _ => params_eq_of_text, fun _ _ => eq_of_text⟩

/-- A look-up of a user on the administrative port. -/
def lookUp (params : List (String × String)) : QueryCall :=
  ⟨"GET", "h:9443", "/poe/rest", .ofList (("Action", "GetUser") :: params)⟩

theorem isPlain_lookUp (params : List (String × String)) : (lookUp params).IsPlain :=
  have hlines : '\n' ∉ "GET".toList ∧ '\n' ∉ "h:9443".toList ∧ '\n' ∉ "/poe/rest".toList := by
    decide
  ⟨hlines.1, hlines.2.1, hlines.2.2⟩

/-- A parameter that is written inside the value of another one is no parameter of its own, and a
space is neither a plus sign nor an escape. -/
theorem text_unambiguous_lookUp :
    (lookUp [("UserName", "a&Path=b")]).IsPlain ∧
      (lookUp [("UserName", "a"), ("Path", "b")]).IsPlain ∧
      (lookUp [("UserName", "a&Path=b")]).text ≠ (lookUp [("UserName", "a"), ("Path", "b")]).text ∧
      (lookUp [("UserName", "a b")]).text ≠ (lookUp [("UserName", "a+b")]).text ∧
      (lookUp [("UserName", "a b")]).text ≠ (lookUp [("UserName", "a%20b")]).text := by
  have hdiffer : ∀ {x y : List (String × String)}, (lookUp x).params ≠ (lookUp y).params →
      (lookUp x).text ≠ (lookUp y).text := fun hne htext =>
    hne (congrArg params
      (text_unambiguous.2.2 _ _ (isPlain_lookUp _) (isPlain_lookUp _) htext))
  exact ⟨isPlain_lookUp _, isPlain_lookUp _, hdiffer (by decide), hdiffer (by decide),
    hdiffer (by decide)⟩

end QueryCall

/-! ## Signing again -/

namespace QuerySigner

variable (s : QuerySigner) (method host path : String) (time : Instant)

/-- The signature is that of the call with the parameters that it covers. -/
theorem sign_eq (params : SortedMap String) : s.sign method host path params time =
    (s.covered params time).insert "Signature"
      (querySignature s.secretKey (QueryCall.text ⟨method, host, path, s.covered params time⟩)) :=
  rfl

theorem get?_covered (params : SortedMap String) (key : String) :
    (s.covered params time).get? key =
      if key = "Signature" then none
      else if key = "Timestamp" then some (String.ofList time.timestamp)
      else if key = "SignatureVersion" then some "4"
      else if key = "SignatureMethod" then some "HmacSHA256"
      else if key = "AWSAccessKeyId" then some s.accessKey
      else params.get? key := by
  unfold covered
  rw [SortedMap.get?_erase, SortedMap.get?_insert, SortedMap.get?_insert, SortedMap.get?_insert,
    SortedMap.get?_insert]

/-- What a signature covers depends on the parameters that are not the signer's alone. -/
theorem covered_congr (h : ∀ key, key ∉ signerKeys → params.get? key = other.get? key) :
    s.covered params time = s.covered other time := by
  refine SortedMap.ext_get? fun key => ?_
  rw [get?_covered, get?_covered]
  by_cases hkey : key ∈ signerKeys
  · simp only [signerKeys, List.mem_cons, List.not_mem_nil, or_false] at hkey
    rcases hkey with rfl | rfl | rfl | rfl | rfl <;> simp
  · rw [h key hkey]

theorem sign_congr (h : ∀ key, key ∉ signerKeys → params.get? key = other.get? key) :
    s.sign method host path params time = s.sign method host path other time := by
  rw [sign_eq, sign_eq, s.covered_congr time h]

/-- A signature forgets the one before. -/
theorem sign_sign (params : SortedMap String) (earlier : Instant) :
    s.sign method host path (s.sign method host path params earlier) time =
      s.sign method host path params time :=
  s.sign_congr method host path time fun _ => s.get?_sign_of_not_mem method host path params earlier

theorem isSome_get?_sign (params : SortedMap String) {key : String} (h : key ∈ signerKeys) :
    ((s.sign method host path params time).get? key).isSome := by
  rw [sign_eq, SortedMap.get?_insert, get?_covered]
  simp only [signerKeys, List.mem_cons, List.not_mem_nil, or_false] at h
  rcases h with rfl | rfl | rfl | rfl | rfl <;> simp

/-- What one call after the other gives, each over the parameters that the one before left: the
query, and the parameters. -/
def signEach (params : SortedMap String) : List Instant → List (List Char × SortedMap String)
  | [] => []
  | time :: r =>
    let signed := s.sign method host path params time
    (sortedQuery signed, signed) :: signEach signed r

theorem signEach_eq (params : SortedMap String) (times : List Instant) :
    s.signEach method host path params times = times.map fun time =>
      (sortedQuery (s.sign method host path params time),
        s.sign method host path params time) := by
  induction times generalizing params with
  | nil => rfl
  | cons time r ih =>
    rw [signEach, ih, List.map_cons]
    refine congrArg (List.cons _) (List.map_congr_left fun later _ => ?_)
    rw [sign_sign]

/-- However often parameters were signed before, the last call gives what it gives for them as they
were; maps that differ in the signer's parameters only are signed alike. No other parameter is
added, changed or removed. -/
theorem resigning_forgets :
    (∀ params times, (s.signEach method host path params (times ++ [time])).getLast? =
      some (sortedQuery (s.sign method host path params time),
        s.sign method host path params time)) ∧
    (∀ params other : SortedMap String,
      (∀ key, key ∉ signerKeys → params.get? key = other.get? key) →
      sortedQuery (s.sign method host path params time) =
          sortedQuery (s.sign method host path other time) ∧
        s.sign method host path params time = s.sign method host path other time) ∧
    ∀ params key,
      (key ∉ signerKeys →
        (s.sign method host path params time).get? key = params.get? key) ∧
      (key ∈ signerKeys → ((s.sign method host path params time).get? key).isSome) := by
  refine ⟨fun params times => ?_, fun params other h => ?_, fun params key => ⟨?_, ?_⟩⟩
  · rw [signEach_eq, List.map_append, List.map_singleton, List.getLast?_concat]
  · have hsame := s.sign_congr method host path time h
    exact ⟨congrArg sortedQuery hsame, hsame⟩
  · exact s.get?_sign_of_not_mem method host path params time
  · exact s.isSome_get?_sign method host path time params

/-- A signature that a caller plants, and a time, are forgotten. -/
theorem resigning_forgets_planted :
    let signer : QuerySigner := ⟨"AK", "SK"⟩
    let time : Instant := ⟨1, 1, by decide, by decide, by decide, .inl (by decide)⟩
    let plain := (QueryCall.lookUp [("UserName", "a")]).params
    let planted := (plain.insert "Signature" "stale").insert "Timestamp" "never"
    (∀ key, key ∉ signerKeys → planted.get? key = plain.get? key) ∧ planted ≠ plain ∧
      signer.sign "GET" "h:9443" "/poe/rest" planted time =
        signer.sign "GET" "h:9443" "/poe/rest" plain time := by
  intro signer time plain planted
  have hagree : ∀ key, key ∉ signerKeys → planted.get? key = plain.get? key := by
    intro key hkey
    have hsignature : key ≠ "Signature" := fun he => hkey (he ▸ by decide)
    have htime : key ≠ "Timestamp" := fun he => hkey (he ▸ by decide)
    exact (SortedMap.get?_insert_of_ne htime).trans (SortedMap.get?_insert_of_ne hsignature)
  exact ⟨hagree, by decide,
    ((resigning_forgets signer "GET" "h:9443" "/poe/rest" time).2.1 planted plain hagree).2⟩

end QuerySigner

end BucketAccess.Signing
