import BucketAccess.Proofs.Signing.Query
import BucketAccess.Proofs.Text.Order
import BucketAccess.Proofs.Text.Pieces
import Mathlib.Data.List.Forall2
import Mathlib.Data.List.TakeWhile

/-!
# Canonical queries

The canonical form of a query has the parameters of the query, by key and then by value in the order
of their bytes, each with its sign. It says the same keys and values, as often as the query does,
and nothing else of the query is left in it: two queries have one canonical form exactly if they
have the same parameters, in whatever order.
-/

namespace BucketAccess.Signing

variable {p q r : List Char × List Char} {pieces : List (List Char)} {query other : List Char}

/-! ## Parameters -/

/-- What a parameter stands for. There is no `=` in a key, and what follows the first one is the
value; a key alone has an empty value. -/
inductive IsParam : List Char → List Char × List Char → Prop where
  | bare {key : List Char} : '=' ∉ key → IsParam key (key, [])
  | valued {key : List Char} (value : List Char) : '=' ∉ key →
      IsParam (key ++ '=' :: value) (key, value)

theorem isParam_splitParam (param : List Char) : IsParam param (splitParam param) := by
  have hkey : '=' ∉ param.takeWhile (· != '=') := by
    intro h
    exact absurd (List.mem_takeWhile_imp h) (by decide)
  have hparam : param.takeWhile (· != '=') ++ param.dropWhile (· != '=') = param :=
    List.takeWhile_append_dropWhile
  unfold splitParam
  cases hrest : param.dropWhile (· != '=') with
  | nil =>
    rw [hrest, List.append_nil] at hparam
    rw [hparam] at hkey ⊢
    exact .bare hkey
  | cons c value =>
    have hsign : c = '=' := by
      have := List.head?_dropWhile_not (· != '=') param
      simpa [hrest] using this
    subst hsign
    have hvalued := IsParam.valued value hkey
    rw [← hrest, hparam] at hvalued
    exact hvalued

/-- A parameter with its sign. -/
def writeParam (p : List Char × List Char) : List Char := p.1 ++ '=' :: p.2

theorem splitParam_writeParam (h : '=' ∉ p.1) : splitParam (writeParam p) = p :=
  splitParam_append h p.2

/-- The parameters of a query; empty ones do not count. -/
def paramsOf (query : List Char) : List (List Char) := (query.splitOn '&').filter (· ≠ [])

/-- The keys and values of a query, in the order in which it has them. -/
def pairsOf (query : List Char) : List (List Char × List Char) := (paramsOf query).map splitParam

theorem isParam_pairsOf (query : List Char) :
    List.Forall₂ IsParam (paramsOf query) (pairsOf query) := by
  rw [pairsOf, List.forall₂_map_right_iff, List.forall₂_same]
  exact fun param _ => isParam_splitParam param

theorem paramsOf_joinWith (h : ∀ piece ∈ pieces, '&' ∉ piece) :
    paramsOf (joinWith '&' pieces) = pieces.filter (· ≠ []) := by
  by_cases hnil : pieces = []
  · rw [hnil]
    rfl
  · rw [paramsOf, joinWith, List.splitOn_intercalate '&' h hnil]

/-! ## Order -/

/-- By key and then by value, in the order of their bytes. -/
def PairLE (p q : List Char × List Char) : Prop :=
  Utf8.encode p.1 < Utf8.encode q.1 ∨ p.1 = q.1 ∧ Utf8.encode p.2 ≤ Utf8.encode q.2

instance : DecidableRel PairLE := fun _ _ => inferInstanceAs (Decidable (_ ∨ _))

theorem paramLE_iff : paramLE p q = true ↔ PairLE p q := by
  unfold paramLE PairLE
  split
  case isTrue hkey =>
    rw [Text.lexLE_iff, hkey]
    simp only [Std.lt_irrefl, true_and, false_or]
  case isFalse hkey =>
    rw [Text.lexLE_iff, Utf8.encode_lt_iff]
    simp only [ne_eq, hkey, not_false_eq_true, true_and, or_false, false_and]

theorem PairLE.trans (hpq : PairLE p q) (hqr : PairLE q r) : PairLE p r := by
  rcases hpq with hpq | ⟨hpq, hvalue⟩
  · rcases hqr with hqr | ⟨hqr, -⟩
    · exact .inl (List.lt_trans hpq hqr)
    · exact .inl (hqr ▸ hpq)
  · rcases hqr with hqr | ⟨hqr, hvalue'⟩
    · exact .inl (hpq ▸ hqr)
    · exact .inr ⟨hpq.trans hqr, List.le_trans hvalue hvalue'⟩

theorem PairLE.total (p q : List Char × List Char) : PairLE p q ∨ PairLE q p := by
  by_cases hkey : p.1 = q.1
  · exact (List.le_total _ _).imp (fun h => .inr ⟨hkey, h⟩) fun h => .inr ⟨hkey.symm, h⟩
  · exact (List.le_total _ _).imp (fun h => .inl (Utf8.encode_lt_iff.2 ⟨hkey, h⟩))
      fun h => .inl (Utf8.encode_lt_iff.2 ⟨Ne.symm hkey, h⟩)

theorem PairLE.antisymm (hpq : PairLE p q) (hqp : PairLE q p) : p = q := by
  rcases hpq with hpq | ⟨hkey, hvalue⟩
  · rcases hqp with hqp | ⟨hkey, -⟩
    · exact absurd hqp (List.lt_asymm hpq)
    · exact absurd hpq (hkey ▸ List.lt_irrefl _)
  · rcases hqp with hqp | ⟨-, hvalue'⟩
    · exact absurd hqp (hkey ▸ List.lt_irrefl _)
    · exact Prod.ext hkey (Utf8.encode_inj (Std.le_antisymm hvalue hvalue'))

theorem sortedParams_perm (query : List Char) : (sortedParams query).Perm (pairsOf query) :=
  List.mergeSort_perm _ _

theorem pairwise_sortedParams (query : List Char) : (sortedParams query).Pairwise PairLE := by
  have hsorted : (sortedParams query).Pairwise fun p q => paramLE p q = true := by
    refine List.pairwise_mergeSort (fun p q r hpq hqr => ?_) (fun p q => ?_) _
    · exact paramLE_iff.2 ((paramLE_iff.1 hpq).trans (paramLE_iff.1 hqr))
    · rw [Bool.or_eq_true, paramLE_iff, paramLE_iff]
      exact PairLE.total p q
  exact hsorted.imp paramLE_iff.1

/-- Keys and values have one order. -/
theorem eq_sortedParams {sorted : List (List Char × List Char)}
    (hperm : sorted.Perm (pairsOf query)) (h : sorted.Pairwise PairLE) :
    sorted = sortedParams query :=
  (hperm.trans (sortedParams_perm query).symm).eq_of_pairwise
    (fun _ _ _ _ => PairLE.antisymm) h (pairwise_sortedParams query)

theorem sortedParams_congr (h : (pairsOf query).Perm (pairsOf other)) :
    sortedParams query = sortedParams other :=
  eq_sortedParams ((sortedParams_perm query).trans h) (pairwise_sortedParams query)

/-! ## Canonical form -/

theorem canonicalQuery_eq (query : List Char) :
    canonicalQuery query = joinWith '&' ((sortedParams query).map writeParam) := rfl

/-- Neither a key nor a value has what would part it. -/
theorem isPlain_of_mem_sortedParams (h : p ∈ sortedParams query) :
    '=' ∉ p.1 ∧ '&' ∉ writeParam p := by
  obtain ⟨param, hparam, rfl⟩ := List.mem_map.1 ((sortedParams_perm query).mem_iff.1 h)
  have hno : '&' ∉ param := (Text.of_mem_splitOn (List.mem_filter.1 hparam).1).1
  have hread := isParam_splitParam param
  generalize splitParam param = p at *
  cases hread with
  | bare hkey => exact ⟨hkey, by simpa [writeParam] using hno⟩
  | valued value hkey => exact ⟨hkey, hno⟩

theorem paramsOf_canonicalQuery (query : List Char) :
    paramsOf (canonicalQuery query) = (sortedParams query).map writeParam := by
  rw [canonicalQuery_eq, paramsOf_joinWith]
  · refine List.filter_eq_self.2 fun param hparam => ?_
    obtain ⟨p, -, rfl⟩ := List.mem_map.1 hparam
    exact decide_eq_true (List.append_ne_nil_of_right_ne_nil _ (List.cons_ne_nil _ _))
  · intro param hparam
    obtain ⟨p, hp, rfl⟩ := List.mem_map.1 hparam
    exact (isPlain_of_mem_sortedParams hp).2

theorem pairsOf_canonicalQuery (query : List Char) :
    pairsOf (canonicalQuery query) = sortedParams query := by
  rw [pairsOf, paramsOf_canonicalQuery, List.map_map]
  refine (List.map_congr_left fun p hp => ?_).trans (List.map_id _)
  exact splitParam_writeParam (isPlain_of_mem_sortedParams hp).1

/-- What the canonical form leaves of a query are its keys and values. -/
theorem canonicalQuery_eq_iff :
    canonicalQuery query = canonicalQuery other ↔ (pairsOf query).Perm (pairsOf other) := by
  constructor
  · intro h
    have hsorted : sortedParams query = sortedParams other := by
      rw [← pairsOf_canonicalQuery, h, pairsOf_canonicalQuery]
    exact (sortedParams_perm query).symm.trans (hsorted ▸ sortedParams_perm other)
  · intro h
    rw [canonicalQuery_eq, sortedParams_congr h, ← canonicalQuery_eq]

theorem canonicalQuery_canonicalQuery (query : List Char) :
    canonicalQuery (canonicalQuery query) = canonicalQuery query := by
  rw [canonicalQuery_eq_iff, pairsOf_canonicalQuery]
  exact sortedParams_perm query

/-- Parameters may change places, and empty ones may stand between them. -/
theorem paramsOf_reordered {empty : Nat}
    (h : pieces.Perm (query.splitOn '&' ++ List.replicate empty [])) :
    (paramsOf (joinWith '&' pieces)).Perm (paramsOf query) := by
  have hpieces : ∀ piece ∈ pieces, '&' ∉ piece := by
    intro piece hpiece
    rcases List.mem_append.1 (h.mem_iff.1 hpiece) with hold | hnew
    · exact (Text.of_mem_splitOn hold).1
    · rw [List.eq_of_mem_replicate hnew]
      exact List.not_mem_nil
  have hnone : (List.replicate empty ([] : List Char)).filter (· ≠ []) = [] := by
    rw [List.filter_replicate, if_neg (by decide)]
  have hfilter := h.filter (· ≠ [])
  rw [List.filter_append, hnone, List.append_nil] at hfilter
  rwa [paramsOf_joinWith hpieces]

/-- A canonical query is the canonical form of itself, and of every query that has its parameters in
another order and empty ones between them. It is written with the keys and values that the
parameters of the query stand for, each as often, and they are in order; its own parameters stand for
them, too. -/
theorem canonicalQuery_normal (query : List Char) :
    canonicalQuery (canonicalQuery query) = canonicalQuery query ∧
    (∀ pieces empty, pieces.Perm (query.splitOn '&' ++ List.replicate empty []) →
      canonicalQuery (joinWith '&' pieces) = canonicalQuery query) ∧
    ∃ pairs sorted, List.Forall₂ IsParam (paramsOf query) pairs ∧
      List.Forall₂ IsParam (paramsOf (canonicalQuery query)) sorted ∧
      canonicalQuery query = joinWith '&' (sorted.map writeParam) ∧
      sorted.Perm pairs ∧ sorted.Pairwise PairLE := by
  refine ⟨canonicalQuery_canonicalQuery query, fun pieces empty h => ?_, pairsOf query,
    sortedParams query, isParam_pairsOf query, ?_, canonicalQuery_eq query,
    sortedParams_perm query, pairwise_sortedParams query⟩
  · exact canonicalQuery_eq_iff.2 ((paramsOf_reordered h).map splitParam)
  · rw [← pairsOf_canonicalQuery]
    exact isParam_pairsOf (canonicalQuery query)

/-- A key comes before those that it begins, although its sign would come after what they go on
with. -/
theorem canonicalQuery_normal_reordered :
    let pieces := ["b=x=y".toList, [], "a".toList, "a!=1".toList, [], "a".toList]
    pieces.Perm ("a!=1&a&&b=x=y&a".toList.splitOn '&' ++ List.replicate 1 []) ∧
      canonicalQuery (joinWith '&' pieces) = "a=&a=&a!=1&b=x=y".toList ∧
      canonicalQuery "a=&a=&a!=1&b=x=y".toList = "a=&a=&a!=1&b=x=y".toList := by
  intro pieces
  have hpieces : pieces.Perm ("a!=1&a&&b=x=y&a".toList.splitOn '&' ++ List.replicate 1 []) := by
    decide
  have hsorted : [(['a'], []), (['a'], []), (['a', '!'], ['1']), (['b'], "x=y".toList)] =
      sortedParams "a!=1&a&&b=x=y&a".toList := eq_sortedParams (by decide) (by decide)
  have hform : canonicalQuery "a!=1&a&&b=x=y&a".toList = "a=&a=&a!=1&b=x=y".toList := by
    rw [canonicalQuery_eq, ← hsorted]
    decide
  obtain ⟨hagain, hreordered, -⟩ := canonicalQuery_normal "a!=1&a&&b=x=y&a".toList
  rw [hform] at hagain hreordered
  exact ⟨hpieces, hreordered pieces 1 hpieces, hagain⟩

end BucketAccess.Signing
