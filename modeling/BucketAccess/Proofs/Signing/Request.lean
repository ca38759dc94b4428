import BucketAccess.Proofs.Signing.Header
import BucketAccess.Proofs.Signing.Path
import BucketAccess.Proofs.Text.LowerCase

/-!
# Requests as they are signed

The canonical text of a request has one line each for the method, the path and the query, one for
every covered header, and behind an empty line the names of these headers and the hash of the
payload. No value, path or host puts an end to its line: the text gives back every part, and two
requests share their text only if they share all of them.
-/

namespace BucketAccess.Signing

/-- A request before it is signed. -/
structure Unsigned where
  method : String
  host : String
  path : String
  query : String
  extra : List (String × String)
  payload : Bytes
  time : Instant

namespace Unsigned

def contentHash (u : Unsigned) : List Char := hashText u.payload

def headers (u : Unsigned) : List Header :=
  HeaderSigner.allHeaders u.host u.contentHash u.time.basicTime u.extra

def names (u : Unsigned) : List (List Char) := HeaderSigner.signedNames u.headers

/-- The covered headers: each name in lower case, with what the headers of the name say. -/
def covered (u : Unsigned) : List Header :=
  u.names.map fun name => (name, joinWith ',' (values u.headers name))

def canonical (u : Unsigned) : List Char :=
  canonicalRequest u.method.toList u.path.toList u.query.toList u.headers u.names u.contentHash

/-- Method, query and the names of the added headers have no character that ends them. -/
structure IsPlain (u : Unsigned) : Prop where
  method : '\n' ∉ u.method.toList
  query : '\n' ∉ u.query.toList
  names : ∀ h ∈ u.extra, '\n' ∉ h.1.toList ∧ ':' ∉ h.1.toList

/-- All that a signature is to say of two requests. -/
structure Agree (u v : Unsigned) : Prop where
  method : u.method = v.method
  path : canonicalPath u.path.toList = canonicalPath v.path.toList
  query : canonicalQuery u.query.toList = canonicalQuery v.query.toList
  headers : u.covered = v.covered
  payload : u.contentHash = v.contentHash

/-- The canonical text is what a signer signs. -/
theorem authorization_sign (s : HeaderSigner) (u : Unsigned) :
    (s.sign u.method u.host u.path u.query u.extra u.payload u.time).authorization.toList =
      s.authorization u.time.basicTime u.time.basicDate u.names u.canonical :=
  String.toList_ofList

end Unsigned

/-! ## Characters of a line -/

variable {s query : List Char} {c : Char}

theorem of_mem_collapse (h : c ∈ Text.collapse s) : c = ' ' ∨ Text.isBlank c = false := by
  have hfrom : ∀ afterBlank, c ∈ Text.collapseFrom afterBlank s →
      c = ' ' ∨ Text.isBlank c = false := by
    clear h
    induction s with
    | nil => exact fun _ h => absurd h List.not_mem_nil
    | cons x s ih =>
      intro afterBlank h
      rw [Text.collapseFrom] at h
      split at h
      · split at h
        · exact ih _ h
        · exact (List.mem_cons.1 h).elim .inl (ih _)
      · next hx =>
        rcases List.mem_cons.1 h with rfl | h
        · exact .inr (Bool.eq_false_iff.2 hx)
        · exact ih _ h
  exact hfrom false h

theorem newline_not_mem_collapse (s : List Char) : '\n' ∉ Text.collapse s := by
  intro h
  exact absurd (of_mem_collapse h) (by decide)

theorem newline_not_mem_value (headers : List Header) (name : List Char) :
    '\n' ∉ joinWith ',' (values headers name) := by
  intro h
  rcases Text.of_mem_intercalate h with h | ⟨value, hvalue, h⟩
  · cases h
  · obtain ⟨header, -, hvalue⟩ := List.mem_flatMap.1 hvalue
    split at hvalue
    · rw [List.mem_singleton.1 hvalue] at h
      exact newline_not_mem_collapse _ h
    · cases hvalue

theorem newline_not_mem_canonicalPath (path : List Char) : '\n' ∉ canonicalPath path := by
  intro h
  unfold canonicalPath at h
  split at h
  · cases List.mem_singleton.1 h
  · rcases Text.of_mem_intercalate h with h | ⟨segment, hsegment, h⟩
    · cases h
    · obtain ⟨raw, -, rfl⟩ := List.mem_map.1 hsegment
      have hnewline : Percent.isEncodedChar '\n' = false := by decide
      rw [isEncodedChar_of_mem_canonicalSegment h] at hnewline
      cases hnewline

/-- Only characters of the query stand in its canonical form, and those between parameters. -/
theorem of_mem_canonicalQuery (h : c ∈ canonicalQuery query) : c = '&' ∨ c = '=' ∨ c ∈ query := by
  rcases Text.of_mem_intercalate h with h | ⟨pair, hpair, h⟩
  · exact .inl h
  · obtain ⟨p, hp, rfl⟩ := List.mem_map.1 hpair
    obtain ⟨param, hparam, rfl⟩ := List.mem_map.1 (List.mem_mergeSort.1 hp)
    have hsub : param ⊆ query := (Text.of_mem_splitOn (List.mem_filter.1 hparam).1).2
    rcases List.mem_append.1 h with h | h
    · exact .inr (.inr (hsub ((List.takeWhile_sublist _).subset h)))
    · rcases List.mem_cons.1 h with h | h
      · exact .inr (.inl h)
      · exact .inr (.inr (hsub ((List.dropWhile_sublist _).subset (List.mem_of_mem_drop h))))

theorem newline_not_mem_canonicalQuery (h : '\n' ∉ query) : '\n' ∉ canonicalQuery query := by
  intro hc
  rcases of_mem_canonicalQuery hc with hc | hc | hc
  · cases hc
  · cases hc
  · exact h hc

/-! ## Covered headers -/

theorem eraseReps_sublist (names : List (List Char)) : names.eraseReps.Sublist names := by
  have hloop : ∀ (rest : List (List Char)) first found,
      (List.eraseRepsBy.loop (· == ·) first rest found).Sublist
        (found.reverse ++ first :: rest) := by
    intro rest
    induction rest with
    | nil =>
      intro first found
      rw [List.eraseRepsBy.loop, List.reverse_cons]
    | cons x rest ih =>
      intro first found
      rw [List.eraseRepsBy.loop]
      split
      · exact (ih first found).trans
          ((List.Sublist.cons x (List.Sublist.refl rest)).cons_cons first |>.append_left _)
      · have h := ih x (first :: found)
        rwa [List.reverse_cons, List.append_assoc] at h
  cases names with
  | nil => exact List.Sublist.refl _
  | cons x rest => exact hloop rest x []

theorem sortedNames_signedNames (headers : List Header) :
    sortedNames (HeaderSigner.signedNames headers) = HeaderSigner.signedNames headers := by
  have hsorted : (sortedNames (headers.map (·.1))).Pairwise fun a b => Text.lexLE a b = true :=
    List.pairwise_mergeSort Text.lexLE_trans Text.lexLE_total _
  exact List.mergeSort_of_pairwise (hsorted.sublist (eraseReps_sublist _))

/-- The line of a header, read back. -/
def splitLine (line : List Char) : Header :=
  (line.takeWhile (· ≠ ':'), (line.dropWhile (· ≠ ':')).drop 1)

theorem splitLine_line {name : List Char} (h : ':' ∉ name) (value : List Char) :
    splitLine (name ++ ':' :: value) = (name, value) := by
  unfold splitLine
  rw [Text.takeWhile_ne_append h, Text.dropWhile_ne_append h]
  rfl

namespace Unsigned

variable {u v : Unsigned}

theorem lowerCase_of_mem_headers {h : Header} (hmem : h ∈ u.headers) :
    Text.lowerCase h.1 = h.1 := by
  rcases List.mem_append.1 hmem with hown | hextra
  · have hlower : ∀ name ∈ ["host", "x-amz-content-sha256", "x-amz-date"].map String.toList,
        Text.lowerCase name = name := by decide
    exact hlower h.1 (List.mem_map_of_mem hown)
  · obtain ⟨e, -, rfl⟩ := List.mem_map.1 hextra
    exact Text.lowerCase_lowerCase _

/-- Every covered name has a header, so that none is without its line. -/
theorem values_ne_nil {name : List Char} (h : name ∈ u.names) : values u.headers name ≠ [] := by
  obtain ⟨header, hmem, rfl⟩ := List.mem_map.1 (HeaderSigner.mem_signedNames.1 h)
  intro hnil
  have hnone := List.flatMap_eq_nil_iff.1 hnil header hmem
  rw [if_pos (lowerCase_of_mem_headers hmem)] at hnone
  cases hnone

theorem headerLines_eq (u : Unsigned) :
    headerLines u.headers u.names = u.covered.map fun e => e.1 ++ ':' :: e.2 := by
  unfold headerLines covered
  rw [names, sortedNames_signedNames, ← names, List.map_map, ← List.filterMap_eq_map]
  refine List.filterMap_congr fun name hname => ?_
  rw [headerValue?_eq, if_neg (values_ne_nil hname)]
  rfl

theorem host_mem_names (u : Unsigned) : "host".toList ∈ u.names :=
  HeaderSigner.mem_signedNames.2 List.mem_cons_self

theorem covered_ne_nil (u : Unsigned) : u.covered ≠ [] :=
  List.ne_nil_of_mem (List.mem_map_of_mem u.host_mem_names)

theorem map_fst_covered (u : Unsigned) : u.covered.map (·.1) = u.names := by
  unfold covered
  rw [List.map_map]
  exact List.map_id u.names

/-- A name in lower case has none of the two characters if no added name has it. -/
theorem IsPlain.of_mem_names {name : List Char} (h : u.IsPlain) (hname : name ∈ u.names) :
    '\n' ∉ name ∧ ':' ∉ name := by
  obtain ⟨header, hmem, rfl⟩ := List.mem_map.1 (HeaderSigner.mem_signedNames.1 hname)
  rcases List.mem_append.1 hmem with hown | hextra
  · have hplain : ∀ name ∈ ["host", "x-amz-content-sha256", "x-amz-date"].map String.toList,
        '\n' ∉ name ∧ ':' ∉ name := by decide
    exact hplain header.1 (List.mem_map_of_mem hown)
  · obtain ⟨e, he, rfl⟩ := List.mem_map.1 hextra
    exact ⟨fun hc => (h.names e he).1 (Text.mem_of_mem_lowerCase (by decide) (by decide) hc),
      fun hc => (h.names e he).2 (Text.mem_of_mem_lowerCase (by decide) (by decide) hc)⟩

theorem map_splitLine_headerLines (h : u.IsPlain) :
    (headerLines u.headers u.names).map splitLine = u.covered := by
  rw [headerLines_eq, List.map_map]
  refine (List.map_congr_left fun e he => ?_).trans (List.map_id _)
  have hname : e.1 ∈ u.names := by
    rw [← map_fst_covered]
    exact List.mem_map_of_mem he
  exact splitLine_line (h.of_mem_names hname).2 e.2

theorem newline_not_mem_headerLines (h : u.IsPlain) {line : List Char}
    (hline : line ∈ headerLines u.headers u.names) : '\n' ∉ line := by
  rw [headerLines_eq] at hline
  obtain ⟨e, he, rfl⟩ := List.mem_map.1 hline
  obtain ⟨name, hname, rfl⟩ := List.mem_map.1 he
  rw [List.mem_append, List.mem_cons]
  rintro (hc | hc | hc)
  · exact (h.of_mem_names hname).1 hc
  · cases hc
  · exact newline_not_mem_value _ _ hc

theorem newline_not_mem_nameList (h : u.IsPlain) : '\n' ∉ nameList u.names := by
  intro hc
  rcases Text.of_mem_intercalate hc with hc | ⟨name, hname, hc⟩
  · cases hc
  · exact (h.of_mem_names (List.mem_mergeSort.1 hname)).1 hc

theorem newline_not_mem_contentHash (u : Unsigned) : '\n' ∉ u.contentHash := by
  intro h
  have hdigit : ∀ n < 16, Hex.lowerDigit n ≠ '\n' := by decide
  obtain ⟨n, hn, hc⟩ := exists_lowerDigit h
  exact hdigit n hn hc.symm

/-! ## Lines -/

/-- The lines of a canonical text. -/
theorem splitOn_canonical (h : u.IsPlain) :
    u.canonical.splitOn '\n' = u.method.toList :: canonicalPath u.path.toList ::
      canonicalQuery u.query.toList :: (headerLines u.headers u.names ++
        [[], nameList u.names, u.contentHash]) := by
  have hlines : (headerBlock u.headers u.names).splitOn '\n' = headerLines u.headers u.names := by
    refine List.splitOn_intercalate '\n' (fun _ => newline_not_mem_headerLines h) fun hnil => ?_
    rw [headerLines_eq, List.map_eq_nil_iff] at hnil
    exact u.covered_ne_nil hnil
  have hempty : ('\n' :: (nameList u.names ++ '\n' :: u.contentHash)).splitOn '\n' =
      [[], nameList u.names, u.contentHash] := by
    rw [← List.nil_append ('\n' :: _), List.splitOn_append_cons_self,
      List.splitOn_append_cons_self, List.splitOn_nil,
      List.splitOn_eq_singleton (newline_not_mem_nameList h),
      List.splitOn_eq_singleton u.newline_not_mem_contentHash]
    rfl
  unfold canonical canonicalRequest
  simp only [List.append_assoc, List.cons_append, List.splitOn_append_cons_self]
  rw [hlines, hempty, List.splitOn_eq_singleton h.method,
    List.splitOn_eq_singleton (newline_not_mem_canonicalPath _),
    List.splitOn_eq_singleton (newline_not_mem_canonicalQuery h.query)]
  rfl

/-- Two requests have one canonical text if and only if they agree in all that it covers. -/
theorem canonical_unambiguous (hu : u.IsPlain) (hv : v.IsPlain) :
    u.canonical = v.canonical ↔ Agree u v := by
  constructor
  · intro h
    have hlines := congrArg (List.splitOn '\n') h
    rw [splitOn_canonical hu, splitOn_canonical hv] at hlines
    injection hlines with hmethod hlines
    injection hlines with hpath hlines
    injection hlines with hquery hlines
    obtain ⟨hheaders, hrest⟩ := List.append_inj' hlines rfl
    injection hrest with _ hrest
    injection hrest with _ hrest
    injection hrest with hpayload _
    refine ⟨String.toList_injective hmethod, hpath, hquery, ?_, hpayload⟩
    rw [← map_splitLine_headerLines hu, hheaders, map_splitLine_headerLines hv]
  · intro h
    have hnames : u.names = v.names := by rw [← map_fst_covered, h.headers, map_fst_covered]
    have hblock : headerBlock u.headers u.names = headerBlock v.headers v.names := by
      unfold headerBlock
      rw [headerLines_eq, headerLines_eq, h.headers]
    unfold canonical canonicalRequest
    rw [h.method, h.path, h.query, hblock, hnames, h.payload]

/-- A read of the policy of a bucket, with headers added to it. -/
def policyRead (extra : List (String × String)) : Unsigned where
  method := "GET"
  host := "s3.example"
  path := "/data"
  query := "policy"
  extra := extra
  payload := []
  time := ⟨1, 1, by decide, by decide, by decide, .inl (by decide)⟩

/-- A line that stands in the value of a header is no header of its own. -/
theorem canonical_policyRead :
    (policyRead [("X-First", "1\nx-second:2")]).IsPlain ∧
      (policyRead [("X-First", "1"), ("X-Second", "2")]).IsPlain ∧
      (policyRead [("X-First", "1\nx-second:2")]).canonical ≠
        (policyRead [("X-First", "1"), ("X-Second", "2")]).canonical := by
  have hfirst : (policyRead [("X-First", "1\nx-second:2")]).IsPlain :=
    ⟨by decide, by decide, by decide⟩
  have hsecond : (policyRead [("X-First", "1"), ("X-Second", "2")]).IsPlain :=
    ⟨by decide, by decide, by decide⟩
  refine ⟨hfirst, hsecond, fun h => ?_⟩
  have hnames := congrArg (List.map (·.1)) ((canonical_unambiguous hfirst hsecond).1 h).headers
  rw [map_fst_covered, map_fst_covered] at hnames
  have hmem : "x-second".toList ∈ (policyRead [("X-First", "1"), ("X-Second", "2")]).names :=
    HeaderSigner.mem_signedNames.2 (by decide)
  rw [← hnames] at hmem
  exact absurd (HeaderSigner.mem_signedNames.1 hmem) (by decide)

end Unsigned

end BucketAccess.Signing
