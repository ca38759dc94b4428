import BucketAccess.Proofs.Signing.Path
import BucketAccess.Storage.Client

/-!
# Addresses of buckets

A bucket is addressed by the last piece of a path. The piece stands for the bucket's name as it is
once escapes in it are read, so that names are told apart as long as there are none: `a%20b` and
`a b` have one path.
-/

namespace BucketAccess.Storage.Client

open Signing (canonicalPath canonicalSegment segmentName)

variable (k : Client) {a b : String}

def lastSegment (path : List Char) : List Char := (path.splitOn '/').getLastD []

theorem splitOn_path (h : '/' ∉ b.toList) : (k.path b).splitOn '/' =
    (k.basePath.splitOn '/').map canonicalSegment ++ [canonicalSegment b.toList] := by
  unfold path
  rw [Signing.splitOn_canonicalPath (by simp), List.splitOn_append_cons_self,
    List.splitOn_eq_singleton h, List.map_append, List.map_singleton]

theorem lastSegment_path (h : '/' ∉ b.toList) :
    lastSegment (k.path b) = canonicalSegment b.toList := by
  unfold lastSegment
  rw [k.splitOn_path h, List.getLastD_concat]

theorem path_inj (ha : '/' ∉ a.toList) (hb : '/' ∉ b.toList) :
    k.path a = k.path b ↔ segmentName a.toList = segmentName b.toList := by
  constructor
  · intro h
    rw [← Signing.canonicalSegment_inj, ← k.lastSegment_path ha, h, k.lastSegment_path hb]
  · intro h
    have hpieces : (k.path a).splitOn '/' = (k.path b).splitOn '/' := by
      rw [k.splitOn_path ha, k.splitOn_path hb, Signing.canonicalSegment_inj.2 h]
    have hjoined : ['/'].intercalate ((k.path a).splitOn '/') = k.path a :=
      List.intercalate_splitOn '/'
    rw [← hjoined, hpieces, List.intercalate_splitOn]

theorem segmentName_of_plain (h : Percent.hasEscape b.toList = false) :
    segmentName b.toList = b.toList := by
  unfold segmentName
  rw [Percent.decode_eq_encode h, Utf8.lossyChars_encode]

/-- Two names have one path exactly if they are one once escapes are read, and that is what the last
piece of the path is decoded to. Names without escapes have different paths, from which they are
read back. -/
theorem bucket_addressed (ha : '/' ∉ a.toList) (hb : '/' ∉ b.toList) :
    (k.path a = k.path b ↔ segmentName a.toList = segmentName b.toList) ∧
      Percent.decode (lastSegment (k.path b)) = Utf8.encode (segmentName b.toList) ∧
      (Percent.hasEscape a.toList = false → Percent.hasEscape b.toList = false →
        (k.path a = k.path b ↔ a = b) ∧
          Percent.decode (lastSegment (k.path b)) = Utf8.bytes b) := by
  have hlast : Percent.decode (lastSegment (k.path b)) = Utf8.encode (segmentName b.toList) := by
    rw [k.lastSegment_path hb, Signing.decode_canonicalSegment]
  refine ⟨k.path_inj ha hb, hlast, fun pa pb => ⟨?_, ?_⟩⟩
  · rw [k.path_inj ha hb, segmentName_of_plain pa, segmentName_of_plain pb, String.toList_inj]
  · rw [hlast, segmentName_of_plain pb]
    rfl

/-! ## Two names -/

/-- A client of a server's root. -/
def atRoot : Client := .ofConnection ⟨"http", "h", none, "/", "AK", "SK"⟩ "us-east-1"

theorem bucket_addressed_percent : '/' ∉ "50%".toList ∧ '/' ∉ "50%25".toList ∧
    atRoot.path "50%" = atRoot.path "50%25" ∧ atRoot.path "50%" ≠ atRoot.path "50%zz" ∧
    Percent.decode (lastSegment (atRoot.path "50%zz")) = Utf8.bytes "50%zz" := by
  have ha : '/' ∉ "50%".toList := by decide
  have hb : '/' ∉ "50%25".toList := by decide
  have hc : '/' ∉ "50%zz".toList := by decide
  obtain ⟨hpath, hread⟩ := (bucket_addressed atRoot ha hc).2.2 (by decide) (by decide)
  exact ⟨ha, hb, (bucket_addressed atRoot ha hb).1.2 (by decide), hpath.not.2 (by decide), hread⟩

/-- Different names of buckets do not always have different paths. -/
theorem two_names_one_path : "a%20b" ≠ "a b" ∧ '/' ∉ "a%20b".toList ∧ '/' ∉ "a b".toList ∧
    atRoot.path "a%20b" = atRoot.path "a b" ∧
    Percent.decode (lastSegment (atRoot.path "a%20b")) ≠ Utf8.bytes "a%20b" := by decide

end BucketAccess.Storage.Client
