import BucketAccess.Proofs.Text.Digits
import BucketAccess.Proofs.Text.Order
import BucketAccess.Proofs.Text.Pieces
import BucketAccess.Signing.Header
import Mathlib.Data.List.DropRight

/-!
# Signed headers at the receiver

An authorization says which headers it covers, and the request says when it was signed. Who holds
the secret key can make the authorization of the request that it received, and finds the one that
came with it if path and query have the canonical form that the signer gave them. Blanks around the
values of headers make no difference, and neither do headers that are not covered.
-/

namespace BucketAccess.Signing

/-! ## Requests received -/

/-- A blank that is no part of a header's value if it stands around it. -/
def isHeaderBlank (c : Char) : Bool := c = ' ' || c = '\t'

/-- The value of a header as it is received. -/
def bare (value : List Char) : List Char :=
  (value.dropWhile isHeaderBlank).rdropWhile isHeaderBlank

structure Received where
  method : List Char
  host : List Char
  path : List Char
  query : List Char
  headers : List Header
  body : Bytes

/-- The first header of a name, which is given in lower case. -/
def Received.header? (r : Received) (name : String) : Option (List Char) :=
  (r.headers.find? fun h => Text.lowerCase h.1 = name.toList).map (·.2)

/-- The names that an authorization covers. They are looked for from its end, since an access key
may be any text. -/
def coveredNames (authorization : List Char) : List (List Char) :=
  let beforeSignature := (authorization.reverse.dropWhile (· ≠ '=')).drop 1
  ((beforeSignature.takeWhile (· ≠ '=')).reverse.takeWhile (· ≠ ',')).splitOn ';'

namespace HeaderSigner

/-- The authorization of a canonical request. -/
def authorization (s : HeaderSigner) (time date : List Char) (names : List (List Char))
    (request : List Char) : List Char :=
  let scope := date ++ '/' :: s.region.toList ++ '/' :: s.service.toList ++
    "/aws4_request".toList
  let text := textToSign time scope (hashText (Utf8.encode request))
  let key := signingKey s.secretKey.toList date s.region.toList s.service.toList
  algorithm ++ " Credential=".toList ++ s.accessKey.toList ++ '/' :: scope ++
    ", SignedHeaders=".toList ++ nameList names ++ ", Signature=".toList ++ headerSignature key text

/-- Whether a request has the authorization that who holds the keys makes for it. -/
def isVerified (s : HeaderSigner) (r : Received) : Bool :=
  match r.header? "authorization", r.header? "x-amz-date" with
  | some authorization, some time =>
    let names := coveredNames authorization
    let headers := ("host".toList, r.host) :: r.headers
    let request := canonicalRequest r.method r.path r.query headers names (hashText r.body)
    authorization == s.authorization time (time.takeWhile (· ≠ 'T')) names request
  | _, _ => false

end HeaderSigner

/-! ## Values -/

variable {s t : List Char}

theorem trim_append_left (ht : ∀ c ∈ t, Text.isBlank c = true) :
    Text.trim (t ++ s) = Text.trim s := by
  unfold Text.trim Text.trimStart
  rw [List.dropWhile_append_of_pos ht]

theorem trim_append_right (ht : ∀ c ∈ t, Text.isBlank c = true) :
    Text.trim (s ++ t) = Text.trim s := by
  have hdrop : t.dropWhile Text.isBlank = [] := List.dropWhile_eq_nil_iff.2 ht
  have hreverse : ∀ c ∈ t.reverse, Text.isBlank c = true := fun c hc => ht c (List.mem_reverse.1 hc)
  unfold Text.trim Text.trimStart
  rw [List.dropWhile_append]
  split
  · next hs =>
    rw [hdrop, List.isEmpty_iff.1 hs]
  · rw [List.reverse_append, List.dropWhile_append_of_pos hreverse]

theorem isBlank_of_isHeaderBlank {c : Char} (h : isHeaderBlank c = true) :
    Text.isBlank c = true := by
  simp only [isHeaderBlank, Bool.or_eq_true, decide_eq_true_eq] at h
  rcases h with rfl | rfl <;> decide

theorem trim_bare (value : List Char) : Text.trim (bare value) = Text.trim value := by
  have hfront : ∀ c ∈ value.takeWhile isHeaderBlank, Text.isBlank c = true :=
    fun c hc => isBlank_of_isHeaderBlank (List.mem_takeWhile_imp hc)
  have hback : ∀ c ∈ (value.dropWhile isHeaderBlank).rtakeWhile isHeaderBlank,
      Text.isBlank c = true :=
    fun c hc => isBlank_of_isHeaderBlank (List.mem_rtakeWhile_imp hc)
  calc Text.trim (bare value)
      = Text.trim (bare value ++ (value.dropWhile isHeaderBlank).rtakeWhile isHeaderBlank) :=
        (trim_append_right hback).symm
    _ = Text.trim (value.dropWhile isHeaderBlank) := by
        rw [bare, List.rdropWhile_append_rtakeWhile]
    _ = Text.trim (value.takeWhile isHeaderBlank ++ value.dropWhile isHeaderBlank) :=
        (trim_append_left hfront).symm
    _ = Text.trim value := by rw [List.takeWhile_append_dropWhile]

theorem bare_eq_self (hfirst : ∀ c ∈ s.head?, isHeaderBlank c = false)
    (hlast : ∀ c ∈ s.getLast?, isHeaderBlank c = false) : bare s = s := by
  have hdrop : s.dropWhile isHeaderBlank = s := by
    cases s with
    | nil => rfl
    | cons c r => exact List.dropWhile_cons_of_neg (by simp [hfirst c rfl])
  unfold bare
  rw [hdrop, List.rdropWhile_eq_self_iff]
  intro hne
  simp [hlast _ (List.getLast_mem_getLast? hne)]

theorem isHeaderBlank_of_mem_getLast? {p : List Char}
    (hp : ∀ c ∈ t.getLast?, isHeaderBlank c = false) (hs : ∀ c ∈ s, isHeaderBlank c = false)
    (ht : t ≠ []) : ∀ c ∈ (p ++ t ++ s).getLast?, isHeaderBlank c = false := by
  intro c hc
  cases s with
  | nil =>
    rw [List.append_nil, List.getLast?_append_of_ne_nil _ ht] at hc
    exact hp c hc
  | cons a r =>
    rw [List.getLast?_append_of_ne_nil _ (List.cons_ne_nil a r)] at hc
    exact hs c (List.mem_of_getLast? hc)

/-! ## Names -/

theorem sortedNames_sortedNames (names : List (List Char)) :
    sortedNames (sortedNames names) = sortedNames names := by
  have hsorted : (sortedNames names).Pairwise fun a b => Text.lexLE a b = true :=
    List.pairwise_mergeSort Text.lexLE_trans Text.lexLE_total names
  exact List.mergeSort_of_pairwise hsorted

theorem nameList_sortedNames (names : List (List Char)) :
    nameList (sortedNames names) = nameList names := by
  rw [nameList, sortedNames_sortedNames, nameList]

theorem headerLines_sortedNames (headers : List Header) (names : List (List Char)) :
    headerLines headers (sortedNames names) = headerLines headers names := by
  rw [headerLines, sortedNames_sortedNames, headerLines]

theorem mem_eraseReps {names : List (List Char)} {name : List Char} :
    name ∈ names.eraseReps ↔ name ∈ names := by
  have hloop : ∀ rest first found, name ∈ List.eraseRepsBy.loop (· == ·) first rest found ↔
      name = first ∨ name ∈ rest ∨ name ∈ found := by
    intro rest
    induction rest with
    | nil =>
      intro first found
      rw [List.eraseRepsBy.loop, List.mem_reverse, List.mem_cons]
      simp
    | cons x rest ih =>
      intro first found
      rw [List.eraseRepsBy.loop]
      by_cases hx : first = x
      · subst hx
        simp only [beq_self_eq_true, ih, List.mem_cons]
        tauto
      · simp only [beq_eq_false_iff_ne.2 hx, ih, List.mem_cons]
        tauto
  cases names with
  | nil => exact Iff.rfl
  | cons x rest =>
    rw [List.eraseReps, List.eraseRepsBy, hloop]
    simp

def nameChars : List Char := "abcdefghijklmnopqrstuvwxyz0123456789-".toList

/-- The name of a header that a caller can add. -/
structure IsHeaderName (name : List Char) : Prop where
  lower : Text.lowerCase name = name
  plain : name ⊆ nameChars
  other : name ≠ "authorization".toList

theorem IsHeaderName.not_mem {name : List Char} (h : IsHeaderName name) {c : Char}
    (hc : c ∉ nameChars) : c ∉ name := fun hmem => hc (h.plain hmem)

namespace HeaderSigner

theorem mem_signedNames {headers : List Header} {name : List Char} :
    name ∈ signedNames headers ↔ name ∈ headers.map (·.1) := by
  unfold signedNames
  rw [mem_eraseReps, sortedNames, List.mem_mergeSort]

/-- The names that every authorization covers, and those of the caller. -/
theorem covered_of_mem {host : String} {contentHash time name : List Char}
    {extra : List (String × String)} (hextra : ∀ h ∈ extra, IsHeaderName h.1.toList)
    (h : name ∈ signedNames (allHeaders host contentHash time extra)) :
    name ∈ ["host", "x-amz-content-sha256", "x-amz-date"].map String.toList ∨
      ∃ e ∈ extra, e.1.toList = name := by
  rw [mem_signedNames, allHeaders, List.map_append, List.mem_append] at h
  refine h.imp id fun h => ?_
  rw [List.map_map] at h
  obtain ⟨e, he, rfl⟩ := List.mem_map.1 h
  exact ⟨e, he, (hextra e he).lower.symm⟩

theorem isHeaderName_of_mem {host : String} {contentHash time name : List Char}
    {extra : List (String × String)} (hextra : ∀ h ∈ extra, IsHeaderName h.1.toList)
    (h : name ∈ signedNames (allHeaders host contentHash time extra)) : IsHeaderName name := by
  have hown : ∀ name ∈ ["host", "x-amz-content-sha256", "x-amz-date"].map String.toList,
      Text.lowerCase name = name ∧ name ⊆ nameChars ∧
        name ≠ "authorization".toList := by decide
  rcases covered_of_mem hextra h with h | ⟨e, he, rfl⟩
  · obtain ⟨hlower, hplain, hother⟩ := hown name h
    exact ⟨hlower, hplain, hother⟩
  · exact hextra e he

end HeaderSigner

/-- The names of an authorization are those that it covers. -/
theorem coveredNames_append {p names signature : List Char} (hsignature : '=' ∉ signature)
    (hequals : '=' ∉ names) (hcomma : ',' ∉ names) :
    coveredNames (p ++ ", SignedHeaders=".toList ++ names ++ ", Signature=".toList ++ signature) =
      names.splitOn ';' := by
  have hreverse : (p ++ ", SignedHeaders=".toList ++ names ++ ", Signature=".toList ++
      signature).reverse = signature.reverse ++ '=' :: ((names ++ ", Signature".toList).reverse ++
        '=' :: (p ++ ", SignedHeaders".toList).reverse) := by
    simp [List.reverse_append]
  have htail : '=' ∉ names ++ ", Signature".toList := by
    rw [List.mem_append]
    exact fun h => h.elim hequals (by decide)
  unfold coveredNames
  rw [hreverse, Text.dropWhile_ne_append (mt List.mem_reverse.1 hsignature)]
  simp only [List.drop_one, List.tail_cons]
  rw [Text.takeWhile_ne_append (mt List.mem_reverse.1 htail), List.reverse_reverse]
  have hnames : (names ++ ", Signature".toList).takeWhile (· ≠ ',') = names :=
    Text.takeWhile_ne_append hcomma _
  rw [hnames]

theorem splitOn_nameList {names : List (List Char)} (hne : names ≠ [])
    (h : ∀ name ∈ names, ';' ∉ name) : (nameList names).splitOn ';' = sortedNames names := by
  unfold nameList
  refine List.splitOn_intercalate ';' (fun name hname => h name ?_) fun hnil => hne ?_
  · exact List.mem_mergeSort.1 hname
  · have hlength : (sortedNames names).length = names.length := List.length_mergeSort names
    rw [hnil] at hlength
    exact List.eq_nil_of_length_eq_zero hlength.symm

theorem mem_nameList {names : List (List Char)} (h : ∀ name ∈ names, IsHeaderName name) {c : Char}
    (hc : c ∈ nameList names) : c = ';' ∨ c ∈ nameChars := by
  rcases Text.of_mem_intercalate hc with rfl | ⟨name, hname, hc⟩
  · exact .inl rfl
  · exact .inr ((h name (List.mem_mergeSort.1 hname)).plain hc)

/-! ## Times -/

/-- The characters of a date. -/
theorem mem_basicDate {t : Instant} {c : Char} (h : c ∈ t.basicDate) :
    c = '-' ∨ c = '+' ∨ (Numeral.digit? 10 c).isSome := by
  unfold Instant.basicDate yearDigits at h
  rcases List.mem_append.1 h with h | h
  · rcases List.mem_append.1 h with h | h
    · split at h
      · exact .inr (.inr (Numeral.isSome_digit?_of_mem_fixed h))
      · rcases List.mem_cons.1 h with rfl | h
        · split
          · exact .inl rfl
          · exact .inr (.inl rfl)
        · exact .inr (.inr (Numeral.isSome_digit?_of_mem_padded h))
    · exact .inr (.inr (Numeral.isSome_digit?_of_mem_fixed h))
  · exact .inr (.inr (Numeral.isSome_digit?_of_mem_fixed h))

/-- A letter ends the date in a time. -/
theorem takeWhile_basicTime (t : Instant) : t.basicTime.takeWhile (· ≠ 'T') = t.basicDate := by
  have hdate : 'T' ∉ t.basicDate := fun h => absurd (mem_basicDate h) (by decide)
  have hsplit : ∃ r, t.basicTime = t.basicDate ++ 'T' :: r := by
    unfold Instant.basicTime
    simp only [List.append_assoc, List.cons_append]
    exact ⟨_, rfl⟩
  obtain ⟨r, hr⟩ := hsplit
  rw [hr, Text.takeWhile_ne_append hdate]

theorem isHeaderBlank_of_digit? {c : Char} (h : (Numeral.digit? 10 c).isSome) :
    isHeaderBlank c = false := by
  refine Bool.eq_false_iff.2 fun hblank => ?_
  simp only [isHeaderBlank, Bool.or_eq_true, decide_eq_true_eq] at hblank
  rcases hblank with rfl | rfl <;> exact absurd h (by decide)

/-- The characters of a time. -/
theorem mem_basicTime {t : Instant} {c : Char} (h : c ∈ t.basicTime) :
    c ∈ ['-', '+', 'T', 'Z'] ∨ (Numeral.digit? 10 c).isSome := by
  simp only [Instant.basicTime, List.mem_append, List.mem_cons, List.not_mem_nil, or_false] at h
  rcases h with (((h | rfl | h) | h) | h) | rfl
  · rcases mem_basicDate h with rfl | rfl | h
    · exact .inl (by decide)
    · exact .inl (by decide)
    · exact .inr h
  · exact .inl (by decide)
  · exact .inr (Numeral.isSome_digit?_of_mem_fixed h)
  · exact .inr (Numeral.isSome_digit?_of_mem_fixed h)
  · exact .inr (Numeral.isSome_digit?_of_mem_fixed h)
  · exact .inl (by decide)

theorem isHeaderBlank_of_mem_basicTime {t : Instant} {c : Char} (h : c ∈ t.basicTime) :
    isHeaderBlank c = false := by
  rcases mem_basicTime h with h | h
  · have hplain : ['-', '+', 'T', 'Z'].all (!isHeaderBlank ·) = true := by decide
    simpa using List.all_eq_true.1 hplain c h
  · exact isHeaderBlank_of_digit? h

theorem bare_basicTime (t : Instant) : bare t.basicTime = t.basicTime :=
  bare_eq_self (fun _ hc => isHeaderBlank_of_mem_basicTime (List.mem_of_mem_head? hc))
    fun _ hc => isHeaderBlank_of_mem_basicTime (List.mem_of_mem_getLast? hc)

/-! ## Authorizations -/

theorem exists_lowerDigit {bs : Bytes} {c : Char} (h : c ∈ Hex.encode bs) :
    ∃ n < 16, c = Hex.lowerDigit n := by
  obtain ⟨b, -, hc⟩ := List.mem_flatMap.1 h
  have hb := b.toNat_lt
  simp only [List.mem_cons, List.not_mem_nil, or_false] at hc
  rcases hc with rfl | rfl
  · exact ⟨_, by omega, rfl⟩
  · exact ⟨_, by omega, rfl⟩

theorem mem_headerSignature {key : Bytes} {text : List Char} {c : Char}
    (h : c ∈ headerSignature key text) : c ≠ '=' ∧ isHeaderBlank c = false := by
  have hdigit : ∀ n < 16, Hex.lowerDigit n ≠ '=' ∧ isHeaderBlank (Hex.lowerDigit n) = false := by
    decide
  obtain ⟨n, hn, rfl⟩ := exists_lowerDigit h
  exact hdigit n hn

namespace HeaderSigner

variable (s : HeaderSigner) (time date request : List Char) {names : List (List Char)}

theorem coveredNames_authorization (hne : names ≠ []) (h : ∀ name ∈ names, IsHeaderName name) :
    coveredNames (s.authorization time date names request) = sortedNames names := by
  unfold authorization
  rw [coveredNames_append, splitOn_nameList hne]
  · exact fun name hname => (h name hname).not_mem (by decide)
  · exact fun hc => (mem_headerSignature hc).1 rfl
  · exact fun hc => absurd (mem_nameList h hc) (by decide)
  · exact fun hc => absurd (mem_nameList h hc) (by decide)

theorem bare_authorization :
    bare (s.authorization time date names request) = s.authorization time date names request := by
  refine bare_eq_self (fun c hc => ?_) fun c hc => ?_
  · have hfirst : (s.authorization time date names request).head? = some 'A' := rfl
    obtain rfl := Option.some.inj (hfirst.symm.trans hc)
    decide
  · have hequals : ∀ x ∈ ", Signature=".toList.getLast?, isHeaderBlank x = false := by
      intro x hx
      obtain rfl := Option.some.inj hx
      decide
    exact isHeaderBlank_of_mem_getLast? hequals (fun _ hx => (mem_headerSignature hx).2)
      (by decide) c hc

end HeaderSigner

/-! ## Verification -/

/-- What the headers of a name say, one by one. -/
def values (headers : List Header) (name : List Char) : List (List Char) :=
  headers.flatMap fun h =>
    if Text.lowerCase h.1 = name then [Text.collapse (Text.trim h.2)] else []

theorem values_eq (headers : List Header) (name : List Char) :
    values headers name = (headers.filter (Text.lowerCase ·.1 = name)).map
      fun h => Text.collapse (Text.trim h.2) := by
  unfold values
  induction headers with
  | nil => rfl
  | cons h r ih =>
    rw [List.flatMap_cons, ih, List.filter_cons]
    by_cases hname : Text.lowerCase h.1 = name
    · rw [if_pos hname, if_pos (decide_eq_true hname)]
      rfl
    · rw [if_neg hname, if_neg (by simpa using hname)]
      rfl

theorem headerValue?_eq (headers : List Header) (name : List Char) :
    headerValue? headers name =
      if values headers name = [] then none else some (joinWith ',' (values headers name)) := by
  rw [values_eq]
  unfold headerValue?
  cases headers.filter (Text.lowerCase ·.1 = name) with
  | nil => rfl
  | cons h r => rfl

theorem values_append (a b : List Header) (name : List Char) :
    values (a ++ b) name = values a name ++ values b name := List.flatMap_append

theorem values_eq_nil {headers : List Header} {name : List Char}
    (h : ∀ x ∈ headers, Text.lowerCase x.1 ≠ name) : values headers name = [] :=
  List.flatMap_eq_nil_iff.2 fun x hx => if_neg (h x hx)

theorem values_swap {a b : Header} (h : Text.lowerCase a.1 ≠ Text.lowerCase b.1)
    (name : List Char) : values [a, b] name = values [b, a] name := by
  simp only [values, List.flatMap_cons, List.flatMap_nil, List.append_nil]
  by_cases ha : Text.lowerCase a.1 = name
  · have hb : Text.lowerCase b.1 ≠ name := fun hb => h (ha.trans hb.symm)
    rw [if_neg hb, List.append_nil, List.nil_append]
  · rw [if_neg ha, List.append_nil, List.nil_append]

theorem headerLines_congr {a b : List Header} {names : List (List Char)}
    (h : ∀ name ∈ names, values a name = values b name) :
    headerLines a names = headerLines b names := by
  refine List.filterMap_congr fun name hname => ?_
  rw [headerValue?_eq, headerValue?_eq, h name (List.mem_mergeSort.1 hname)]

/-- A header as it is received. -/
def received (h : String × String) : Header := (h.1.toList, bare h.2.toList)

/-- The headers of a signed request. -/
def SignedHeaders.all (signed : SignedHeaders) (extra : List (String × String)) :
    List (String × String) :=
  [("x-amz-date", signed.date), ("x-amz-content-sha256", signed.contentHash),
    ("authorization", signed.authorization)] ++ extra

/-- A header that is added on the way to the headers that were sent: it has none of their names, and
does not name the host. -/
def IsAdded (sent : List (String × String)) (h : Header) : Prop :=
  Text.lowerCase h.1 ∉ "host".toList :: sent.map fun e => e.1.toList

namespace HeaderSigner

variable (s : HeaderSigner) (method host path query : String) {extra : List (String × String)}
  (payload : Bytes) (time : Instant)

theorem find?_header (name value wanted : List Char) (r : List Header) :
    ((name, value) :: r).find? (fun h => Text.lowerCase h.1 = wanted) =
      if Text.lowerCase name = wanted then some (name, value)
      else r.find? fun h => Text.lowerCase h.1 = wanted := by
  rw [List.find?_cons]
  by_cases h : Text.lowerCase name = wanted
  · rw [if_pos h, decide_eq_true h]
  · rw [if_neg h, decide_eq_false h]

theorem header?_received {added : List Header} {signed : SignedHeaders}
    (hadded : ∀ h ∈ added, IsAdded (signed.all extra) h) {r : Received}
    (hr : r.headers = added ++ (signed.all extra).map received) :
    r.header? "authorization" = some (bare signed.authorization.toList) ∧
      r.header? "x-amz-date" = some (bare signed.date.toList) := by
  have hskip : ∀ e ∈ signed.all extra,
      added.find? (fun h => Text.lowerCase h.1 = e.1.toList) = none := by
    intro e he
    refine List.find?_eq_none.2 fun h hh hname => ?_
    rw [decide_eq_true_eq] at hname
    refine hadded h hh (List.mem_cons_of_mem _ ?_)
    rw [hname]
    exact List.mem_map_of_mem he
  unfold Received.header?
  have hdateSent := hskip ("x-amz-date", signed.date) List.mem_cons_self
  have hauthorizationSent := hskip ("authorization", signed.authorization)
    (List.mem_cons_of_mem _ (List.mem_cons_of_mem _ List.mem_cons_self))
  rw [hr, List.find?_append, List.find?_append, hauthorizationSent, hdateSent]
  have hnames : Text.lowerCase "x-amz-date".toList = "x-amz-date".toList ∧
      Text.lowerCase "x-amz-date".toList ≠ "authorization".toList ∧
      Text.lowerCase "x-amz-content-sha256".toList ≠ "authorization".toList ∧
      Text.lowerCase "authorization".toList = "authorization".toList := by decide
  obtain ⟨hdate, hdate', hhash, hauthorization⟩ := hnames
  have hsent : (signed.all extra).map received =
      ("x-amz-date".toList, bare signed.date.toList) ::
        ("x-amz-content-sha256".toList, bare signed.contentHash.toList) ::
          ("authorization".toList, bare signed.authorization.toList) :: extra.map received := rfl
  rw [hsent, Option.none_or, Option.none_or]
  refine ⟨?_, ?_⟩
  · rw [find?_header, if_neg hdate', find?_header, if_neg hhash, find?_header,
      if_pos hauthorization]
    rfl
  · rw [find?_header, if_pos hdate]
    rfl

theorem values_received {added : List Header} (hextra : ∀ h ∈ extra, IsHeaderName h.1.toList)
    {signed : SignedHeaders} (hadded : ∀ h ∈ added, IsAdded (signed.all extra) h)
    {name : List Char}
    (hname : name ∈
      signedNames (allHeaders host signed.contentHash.toList signed.date.toList extra)) :
    values (("host".toList, host.toList) :: (added ++ (signed.all extra).map received)) name =
      values (allHeaders host signed.contentHash.toList signed.date.toList extra) name := by
  have hbare : ∀ sent : List (String × String), values (sent.map received) name =
      values (sent.map fun h => (h.1.toList, h.2.toList)) name := by
    intro sent
    simp only [values, List.flatMap_map, received, trim_bare]
  have hlower : extra.map (fun h => (Text.lowerCase h.1.toList, h.2.toList)) =
      extra.map fun h => (h.1.toList, h.2.toList) :=
    List.map_congr_left fun h hh => by rw [(hextra h hh).lower]
  have hskip : values added name = [] := by
    refine values_eq_nil fun h hh he => ?_
    refine hadded h hh ?_
    rw [he]
    rcases covered_of_mem hextra hname with hown | ⟨e, he', rfl⟩
    · have hsub : ["host", "x-amz-content-sha256", "x-amz-date"].map String.toList ⊆
          "host".toList :: (signed.all extra).map fun e => e.1.toList := by
        intro own hown
        simp only [List.map_cons, List.map_nil, List.mem_cons, List.not_mem_nil, or_false] at hown
        rcases hown with rfl | rfl | rfl
        · exact List.mem_cons_self
        · exact List.mem_cons_of_mem _ (List.mem_cons_of_mem _ List.mem_cons_self)
        · exact List.mem_cons_of_mem _ List.mem_cons_self
      exact hsub hown
    · exact List.mem_cons_of_mem _ (List.mem_map_of_mem (List.mem_append_right _ he'))
  have hauthorization :
      values [("authorization".toList, signed.authorization.toList)] name = [] := by
    refine values_eq_nil fun h hh => ?_
    rw [List.mem_singleton.1 hh]
    have hsame : Text.lowerCase "authorization".toList = "authorization".toList := by decide
    rw [hsame]
    exact (isHeaderName_of_mem hextra hname).other.symm
  -- the date and the hash are signed in another order than they are sent
  have hdiffer : Text.lowerCase "x-amz-date".toList ≠
      Text.lowerCase "x-amz-content-sha256".toList := by decide
  have hswap := values_swap (a := ("x-amz-date".toList, signed.date.toList))
    (b := ("x-amz-content-sha256".toList, signed.contentHash.toList)) hdiffer name
  have hsent : (signed.all extra).map (fun h => (h.1.toList, h.2.toList)) =
      [("x-amz-date".toList, signed.date.toList),
        ("x-amz-content-sha256".toList, signed.contentHash.toList)] ++
      ([("authorization".toList, signed.authorization.toList)] ++
        extra.map fun h => (h.1.toList, h.2.toList)) := rfl
  have hsigned : allHeaders host signed.contentHash.toList signed.date.toList extra =
      [("host".toList, host.toList)] ++
        ([("x-amz-content-sha256".toList, signed.contentHash.toList),
          ("x-amz-date".toList, signed.date.toList)] ++
            extra.map fun h => (h.1.toList, h.2.toList)) := by
    rw [← hlower]
    rfl
  rw [← List.singleton_append, values_append, values_append, hskip, hbare, hsent, values_append,
    values_append, hauthorization, hswap, hsigned, values_append, values_append]
  rfl

/-- What a signer signs is verified where it is received. -/
theorem isVerified_sign {added : List Header} {path' query' : List Char}
    (hpath : canonicalPath path' = canonicalPath path.toList)
    (hquery : canonicalQuery query' = canonicalQuery query.toList)
    (hextra : ∀ h ∈ extra, IsHeaderName h.1.toList)
    (hadded : ∀ h ∈ added,
      IsAdded ((s.sign method host path query extra payload time).all extra) h) :
    s.isVerified {
      method := method.toList
      host := host.toList
      path := path'
      query := query'
      headers := added ++
        ((s.sign method host path query extra payload time).all extra).map received
      body := payload } = true := by
  set signed := s.sign method host path query extra payload time with hsigned
  set names := signedNames (allHeaders host (hashText payload) time.basicTime extra) with hnames
  have hdate : signed.date.toList = time.basicTime := String.toList_ofList
  have hhash : signed.contentHash.toList = hashText payload := String.toList_ofList
  have hauthorization : signed.authorization.toList =
      s.authorization time.basicTime time.basicDate names (canonicalRequest method.toList
        path.toList query.toList (allHeaders host (hashText payload) time.basicTime extra) names
        (hashText payload)) := String.toList_ofList
  have hall : ∀ name ∈ names, IsHeaderName name := fun name => isHeaderName_of_mem hextra
  have hne : names ≠ [] := by
    have hhost : "host".toList ∈ names := mem_signedNames.2 List.mem_cons_self
    exact List.ne_nil_of_mem hhost
  set r : Received := {
    method := method.toList
    host := host.toList
    path := path'
    query := query'
    headers := added ++ (signed.all extra).map received
    body := payload }
  have hr : r.headers = added ++ (signed.all extra).map received := rfl
  obtain ⟨hfirst, hsecond⟩ := header?_received hadded hr
  rw [hauthorization, bare_authorization] at hfirst
  rw [hdate, bare_basicTime] at hsecond
  unfold isVerified
  rw [hfirst, hsecond]
  simp only
  rw [coveredNames_authorization _ _ _ _ hne hall, takeWhile_basicTime]
  have hlines : headerLines (("host".toList, host.toList) :: (added ++
      (signed.all extra).map received)) (sortedNames names) =
        headerLines (allHeaders host (hashText payload) time.basicTime extra) names := by
    rw [headerLines_sortedNames]
    refine headerLines_congr fun name hname => ?_
    rw [← hhash, ← hdate]
    refine values_received host hextra hadded ?_
    rwa [hhash, hdate]
  have hrequest : canonicalRequest method.toList path' query' (("host".toList, host.toList) ::
      (added ++ (signed.all extra).map received)) (sortedNames names) (hashText payload) =
        canonicalRequest method.toList path.toList query.toList
          (allHeaders host (hashText payload) time.basicTime extra) names (hashText payload) := by
    unfold canonicalRequest headerBlock
    rw [hpath, hquery, hlines, nameList_sortedNames]
  rw [hrequest, authorization, authorization, nameList_sortedNames, beq_self_eq_true]

end HeaderSigner

end BucketAccess.Signing
