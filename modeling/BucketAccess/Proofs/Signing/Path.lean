import BucketAccess.Proofs.Encoding.Percent
import BucketAccess.Proofs.Text.Pieces
import BucketAccess.Signing.Canonical

/-!
# Canonical paths

The pieces of a canonical path are those of the path, each read as text and escaped again. A piece
stands for the same text afterwards, and nothing is left to be done a second time. Only slashes,
unreserved characters and escapes are left in the path, and no slash is lost or gained: one that is
escaped stays within its piece.
-/

namespace BucketAccess.Signing

/-- The text that a piece of a path stands for. -/
def segmentName (segment : List Char) : List Char := Utf8.lossyChars (Percent.decode segment)

theorem canonicalSegment_eq (segment : List Char) :
    canonicalSegment segment = Percent.encode (Utf8.encode (segmentName segment)) := rfl

theorem decode_canonicalSegment (segment : List Char) :
    Percent.decode (canonicalSegment segment) = Utf8.encode (segmentName segment) :=
  Percent.decode_encode _

@[simp] theorem segmentName_canonicalSegment (segment : List Char) :
    segmentName (canonicalSegment segment) = segmentName segment := by
  unfold segmentName
  rw [decode_canonicalSegment, Utf8.lossyChars_encode]
  rfl

@[simp] theorem canonicalSegment_canonicalSegment (segment : List Char) :
    canonicalSegment (canonicalSegment segment) = canonicalSegment segment := by
  rw [canonicalSegment_eq, segmentName_canonicalSegment, ← canonicalSegment_eq]

/-- Two pieces have one canonical form if they stand for one text. -/
theorem canonicalSegment_inj {s t : List Char} :
    canonicalSegment s = canonicalSegment t ↔ segmentName s = segmentName t := by
  constructor
  · intro h
    rw [← segmentName_canonicalSegment, h, segmentName_canonicalSegment]
  · intro h
    rw [canonicalSegment_eq, h, ← canonicalSegment_eq]

theorem isEncodedChar_of_mem_canonicalSegment {segment : List Char} {c : Char}
    (h : c ∈ canonicalSegment segment) : Percent.isEncodedChar c = true :=
  Percent.isEncodedChar_of_mem_encode h

theorem slash_not_mem_canonicalSegment (segment : List Char) :
    '/' ∉ canonicalSegment segment := by
  intro h
  have hslash : Percent.isEncodedChar '/' = false := by decide
  rw [isEncodedChar_of_mem_canonicalSegment h] at hslash
  cases hslash

/-! ## Paths -/

theorem canonicalPath_of_ne_nil {path : List Char} (h : path ≠ []) :
    canonicalPath path = joinWith '/' ((path.splitOn '/').map canonicalSegment) := if_neg h

/-- The pieces of a canonical path. -/
theorem splitOn_canonicalPath {path : List Char} (h : path ≠ []) :
    (canonicalPath path).splitOn '/' = (path.splitOn '/').map canonicalSegment := by
  rw [canonicalPath_of_ne_nil h]
  refine List.splitOn_intercalate '/' (fun l hl => ?_) (by simp)
  obtain ⟨segment, -, rfl⟩ := List.mem_map.1 hl
  exact slash_not_mem_canonicalSegment segment

theorem segmentName_ne_nil {segment : List Char} (h : segment ≠ []) :
    segmentName segment ≠ [] := by
  intro hname
  have hbytes : Percent.decode segment = Utf8.encode [] :=
    Utf8.eq_encode_of_lossyChars (List.forall_mem_nil _) hname
  exact Percent.decode_ne_nil h hbytes

theorem canonicalPath_ne_nil (path : List Char) : canonicalPath path ≠ [] := by
  by_cases hpath : path = []
  · rw [canonicalPath, if_pos hpath]
    exact List.cons_ne_nil _ _
  · intro hnil
    -- Otherwise the path has one piece, whose canonical form is that of the empty piece.
    have hpieces := splitOn_canonicalPath hpath
    rw [hnil, List.splitOn_nil, eq_comm, List.map_eq_singleton_iff] at hpieces
    obtain ⟨segment, hsegment, hcanonical⟩ := hpieces
    have hjoined : ['/'].intercalate (path.splitOn '/') = path := List.intercalate_splitOn '/'
    have hempty : canonicalSegment [] = [] := rfl
    rw [hsegment, List.intercalate_singleton] at hjoined
    rw [← hempty, canonicalSegment_inj] at hcanonical
    exact segmentName_ne_nil (hjoined ▸ hpath) hcanonical

theorem canonicalPath_canonicalPath (path : List Char) :
    canonicalPath (canonicalPath path) = canonicalPath path := by
  by_cases hpath : path = []
  · rw [hpath]
    rfl
  · rw [canonicalPath_of_ne_nil (canonicalPath_ne_nil path), splitOn_canonicalPath hpath,
      List.map_map, canonicalPath_of_ne_nil hpath]
    exact congrArg _ (List.map_congr_left fun s _ => canonicalSegment_canonicalSegment s)

theorem count_canonicalPath {path : List Char} (h : path ≠ []) :
    (canonicalPath path).count '/' = path.count '/' := by
  have hlength := congrArg List.length (splitOn_canonicalPath h)
  rw [List.length_map, Text.length_splitOn, Text.length_splitOn] at hlength
  exact Nat.succ.inj hlength

/-! ## What is left in a canonical path -/

/-- A character that stands for itself in a path. -/
def IsUnreservedChar (c : Char) : Prop := c.isAlphanum ∨ c ∈ ['-', '.', '_', '~']

instance : DecidablePred IsUnreservedChar := fun _ => inferInstanceAs (Decidable (_ ∨ _))

/-- Slashes, unreserved characters, and all other bytes as escapes in upper case. -/
inductive IsNormal : List Char → Prop where
  | nil : IsNormal []
  | slash {s : List Char} : IsNormal s → IsNormal ('/' :: s)
  | unreserved {c : Char} {s : List Char} : IsUnreservedChar c → IsNormal s → IsNormal (c :: s)
  | escape {high low : Nat} {s : List Char} : high < 16 → low < 16 →
      ¬ IsUnreservedChar (Char.ofNat (high * 16 + low)) → IsNormal s →
      IsNormal ('%' :: Hex.upperDigit high :: Hex.upperDigit low :: s)

theorem isUnreserved_iff (b : UInt8) :
    Percent.isUnreserved b = true ↔ IsUnreservedChar (Char.ofNat b.toNat) := by
  have hall : ∀ n < 256, Percent.isUnreserved (UInt8.ofNat n) = true ↔
      IsUnreservedChar (Char.ofNat n) := by decide +kernel
  have hb := hall b.toNat b.toNat_lt
  rwa [UInt8.ofNat_toNat] at hb

theorem IsNormal.encode_append (bs : Bytes) {s : List Char} (h : IsNormal s) :
    IsNormal (Percent.encode bs ++ s) := by
  induction bs with
  | nil => exact h
  | cons b bs ih =>
    have hb : b.toNat < 256 := b.toNat_lt
    have hcons : Percent.encode (b :: bs) ++ s =
        (if Percent.isUnreserved b then [Char.ofNat b.toNat] else Percent.escape b) ++
          (Percent.encode bs ++ s) := List.append_assoc _ _ _
    rw [hcons]
    split
    case isTrue hkeep => exact .unreserved ((isUnreserved_iff b).1 hkeep) ih
    case isFalse hkeep =>
      have hvalue : b.toNat / 16 * 16 + b.toNat % 16 = b.toNat := by omega
      refine .escape (by omega) (by omega) ?_ ih
      rwa [hvalue, ← isUnreserved_iff]

theorem isNormal_join (segments : List (List Char)) :
    IsNormal (joinWith '/' (segments.map canonicalSegment)) := by
  induction segments with
  | nil => exact .nil
  | cons first rest ih =>
    cases rest with
    | nil =>
      have hlast := IsNormal.nil.encode_append (Utf8.encode (segmentName first))
      rw [List.append_nil] at hlast
      rwa [List.map_singleton, joinWith, List.intercalate_singleton, canonicalSegment_eq]
    | cons second rest =>
      rw [joinWith, List.map_cons, List.map_cons, List.intercalate_cons_cons, List.append_assoc]
      exact (IsNormal.slash ih).encode_append _

theorem isNormal_canonicalPath (path : List Char) : IsNormal (canonicalPath path) := by
  unfold canonicalPath
  split
  · exact .slash .nil
  · exact isNormal_join _

/-- A canonical path is the canonical form of itself, written with nothing but slashes, unreserved
characters and escapes. It has the slashes of the path, and each piece is decoded to the text that
the piece of the path in its place stands for. -/
theorem canonicalPath_normal (path : List Char) :
    canonicalPath (canonicalPath path) = canonicalPath path ∧ IsNormal (canonicalPath path) ∧
    (path ≠ [] → (canonicalPath path).count '/' = path.count '/' ∧
      ((canonicalPath path).splitOn '/').map Percent.decode =
        (path.splitOn '/').map fun s => Utf8.bytes (Utf8.lossy (Percent.decode s))) := by
  refine ⟨canonicalPath_canonicalPath path, isNormal_canonicalPath path,
    fun h => ⟨count_canonicalPath h, ?_⟩⟩
  rw [splitOn_canonicalPath h, List.map_map]
  refine List.map_congr_left fun s _ => ?_
  rw [Utf8.bytes, Utf8.lossy, String.toList_ofList]
  exact decode_canonicalSegment s

/-- A slash that is escaped divides nothing, and a sign that escapes nothing is escaped. -/
theorem canonicalPath_normal_slash : "/a%2fb%".toList ≠ [] ∧
    canonicalPath "/a%2fb%".toList = "/a%2Fb%25".toList ∧
    canonicalPath "/a%2Fb%25".toList = "/a%2Fb%25".toList ∧
    (canonicalPath "/a%2fb%".toList).count '/' = 1 := by
  have hne : "/a%2fb%".toList ≠ [] := by decide
  have hform : canonicalPath "/a%2fb%".toList = "/a%2Fb%25".toList := by decide
  obtain ⟨hagain, -, hpieces⟩ := canonicalPath_normal "/a%2fb%".toList
  refine ⟨hne, hform, ?_, (hpieces hne).1⟩
  rwa [hform] at hagain

end BucketAccess.Signing
