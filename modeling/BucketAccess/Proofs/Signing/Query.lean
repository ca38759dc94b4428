import BucketAccess.Proofs.Encoding.Percent
import BucketAccess.Proofs.SortedMap
import BucketAccess.Proofs.Text.Pieces
import BucketAccess.Signing.Query

/-!
# Signed queries at the receiver

A query is read piece by piece: pieces lie between ampersands, each is parted at its first equals
sign, and what is escaped in a key or a value is decoded. The reader of a sorted query finds the
parameters that it was written from, and who holds the secret finds a signed query signed: without
its signature, the parameters that were read have the text that the signature is made for.
-/

namespace BucketAccess.Signing

/-! ## Reading -/

/-- The text that a key or a value of a query stands for. -/
def readForm (s : List Char) : Except Utf8.Error String :=
  Utf8.strict (Percent.decode (Percent.spaced s))

def readParam (piece : List Char) : Except Utf8.Error (String × String) := do
  let key ← readForm (splitParam piece).1
  let value ← readForm (splitParam piece).2
  return (key, value)

/-- The parameters of a query, in the order in which it has them. -/
def readQuery (query : List Char) : Except Utf8.Error (List (String × String)) :=
  (query.splitOn '&').mapM readParam

/-- Whether the signature in a query is that of its other parameters. -/
def isVerified (secretKey method host path : String) (query : List Char) : Bool :=
  match readQuery query with
  | .error _ => false
  | .ok entries =>
    let params := SortedMap.ofList entries
    let text := queryText method.toList host.toList path.toList
      (sortedQuery (params.erase "Signature"))
    params.get? "Signature" == some (querySignature secretKey text)

/-! ## Reading what was written -/

theorem isEncodedChar_of_mem_escapeForm {s : List Char} {c : Char} (h : c ∈ escapeForm s) :
    c = '+' ∨ Percent.isEncodedChar c = true := Percent.isEncodedChar_of_mem_encodeForm h

theorem not_mem_escapeForm {c : Char} (hplus : c ≠ '+')
    (h : Percent.isEncodedChar c = false) (s : List Char) : c ∉ escapeForm s := by
  intro hc
  rcases isEncodedChar_of_mem_escapeForm hc with rfl | he
  · exact hplus rfl
  · rw [h] at he
    cases he

theorem readForm_escapeForm (s : String) : readForm (escapeForm s.toList) = .ok s := by
  unfold readForm escapeForm
  rw [Percent.decode_spaced_encodeForm]
  exact Utf8.strict_bytes s

theorem splitParam_append {key : List Char} (h : '=' ∉ key) (value : List Char) :
    splitParam (key ++ '=' :: value) = (key, value) := by
  have hkey : ∀ c ∈ key, (c != '=') = true := by
    intro c hc
    have hne : c ≠ '=' := fun he => h (he ▸ hc)
    simpa using hne
  unfold splitParam
  rw [Text.takeWhile_append_cons hkey (by decide), Text.dropWhile_append_cons hkey (by decide)]
  rfl

theorem readParam_queryPair (e : String × String) : readParam (queryPair e.1 e.2) = .ok e := by
  have hkey : '=' ∉ escapeForm e.1.toList := not_mem_escapeForm (by decide) (by decide) _
  unfold readParam queryPair
  rw [splitParam_append hkey, readForm_escapeForm, readForm_escapeForm]
  rfl

theorem not_mem_queryPair (key value : String) : '&' ∉ queryPair key value := by
  have hno : ∀ s, '&' ∉ escapeForm s := not_mem_escapeForm (by decide) (by decide)
  unfold queryPair
  simp [hno]

theorem splitOn_sortedQuery {params : SortedMap String} (h : params.entries ≠ []) :
    (sortedQuery params).splitOn '&' = params.entries.map fun e => queryPair e.1 e.2 := by
  refine List.splitOn_intercalate '&' (fun l hl => ?_) (by simpa using h)
  obtain ⟨e, -, rfl⟩ := List.mem_map.1 hl
  exact not_mem_queryPair e.1 e.2

/-- The reader finds the parameters of a map, unless there are none. -/
theorem readQuery_sortedQuery {params : SortedMap String} (h : params.entries ≠ []) :
    readQuery (sortedQuery params) = .ok params.entries := by
  unfold readQuery
  rw [splitOn_sortedQuery h]
  induction params.entries with
  | nil => rfl
  | cons e r ih =>
    rw [List.map_cons, List.mapM_cons, readParam_queryPair, ih]
    rfl

/-! ## Signed parameters -/

/-- The parameters that a signer sets, whatever they were before. -/
def signerKeys : List String :=
  ["AWSAccessKeyId", "SignatureMethod", "SignatureVersion", "Timestamp", "Signature"]

namespace QuerySigner

variable (s : QuerySigner) (method host path : String) (params : SortedMap String) (time : Instant)

theorem entries_insert_ne_nil (m : SortedMap String) (key value : String) :
    (m.insert key value).entries ≠ [] := by
  intro h
  have hget : (m.insert key value).get? key = none := by
    rw [SortedMap.get?, h, List.lookup_nil]
  rw [SortedMap.get?_insert_self] at hget
  cases hget

theorem erase_sign :
    (s.sign method host path params time).erase "Signature" = s.covered params time := by
  unfold sign covered
  rw [SortedMap.erase_insert, SortedMap.erase_erase]

theorem get?_sign_of_not_mem {key : String} (h : key ∉ signerKeys) :
    (s.sign method host path params time).get? key = params.get? key := by
  simp only [signerKeys, List.mem_cons, List.not_mem_nil, or_false, not_or] at h
  obtain ⟨haccess, hmethod, hversion, htime, hsignature⟩ := h
  unfold sign covered
  rw [SortedMap.get?_insert_of_ne hsignature, SortedMap.get?_erase_of_ne hsignature,
    SortedMap.get?_insert_of_ne htime, SortedMap.get?_insert_of_ne hversion,
    SortedMap.get?_insert_of_ne hmethod, SortedMap.get?_insert_of_ne haccess]

/-- A receiver reads the parameters as the signer left them, in their order, and finds them signed;
those that are not the signer's are the caller's. -/
theorem signed_query_verified :
    readQuery (sortedQuery (s.sign method host path params time)) =
        .ok (s.sign method host path params time).entries ∧
      isVerified s.secretKey method host path
        (sortedQuery (s.sign method host path params time)) = true ∧
      ∀ key, key ∉ signerKeys →
        (s.sign method host path params time).get? key = params.get? key := by
  have hread : readQuery (sortedQuery (s.sign method host path params time)) =
      .ok (s.sign method host path params time).entries :=
    readQuery_sortedQuery (entries_insert_ne_nil _ _ _)
  refine ⟨hread, ?_, fun key => s.get?_sign_of_not_mem method host path params time⟩
  have hmap : SortedMap.ofList (s.sign method host path params time).entries =
      s.sign method host path params time := SortedMap.ofList_eq (.refl _)
  unfold isVerified
  rw [hread]
  simp only [hmap, erase_sign]
  rw [sign, SortedMap.get?_insert_self, beq_self_eq_true]

end QuerySigner

end BucketAccess.Signing
