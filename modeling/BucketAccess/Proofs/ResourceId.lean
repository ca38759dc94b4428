import BucketAccess.Proofs.Text.Pieces
import BucketAccess.ResourceId

/-!
# Reading back resource ids

An id that was written from three pieces, none of them empty and none with a slash in it, is read
back as these pieces. With a slash in one of them it is no id: it has more than three pieces. What is
read from a text is written as that text again, so no two texts are the id of one resource.
-/

namespace BucketAccess.ResourceId

/-- Nothing in the pieces divides them. -/
structure Plain (r : ResourceId) : Prop where
  secretNamespace : '/' ∉ r.secretNamespace.toList
  secretName : '/' ∉ r.secretName.toList
  resource : '/' ∉ r.resource.toList

/-- No piece is empty. -/
structure Full (r : ResourceId) : Prop where
  secretNamespace : r.secretNamespace ≠ ""
  secretName : r.secretName ≠ ""
  resource : r.resource ≠ ""

variable {r : ResourceId}

theorem splitOn_encode (h : r.Plain) : r.encode.toList.splitOn '/' =
    [r.secretNamespace.toList, r.secretName.toList, r.resource.toList] := by
  have hpieces : r.encode.toList =
      r.secretNamespace.toList ++ '/' :: (r.secretName.toList ++ '/' :: r.resource.toList) := by
    simp [encode]
  rw [hpieces, List.splitOn_append_cons_self_of_not_mem h.secretNamespace,
    List.splitOn_append_cons_self_of_not_mem h.secretName, List.splitOn_eq_singleton h.resource]

theorem decode_encode (hplain : r.Plain) (hfull : r.Full) : decode r.encode = .ok r := by
  have hne : ∀ s : String, s ≠ "" → s.toList.isEmpty = false := by
    intro s hs
    simpa using hs
  unfold decode
  rw [splitOn_encode hplain]
  simp [hne _ hfull.secretNamespace, hne _ hfull.secretName, hne _ hfull.resource]

theorem decode_encode_of_not_full (hplain : r.Plain) (hfull : ¬ r.Full) :
    decode r.encode = .error (.invalidValue r.encode) := by
  have hempty : (r.secretNamespace.toList.isEmpty || r.secretName.toList.isEmpty ||
      r.resource.toList.isEmpty) = true := by
    by_contra h
    simp only [Bool.or_eq_true, List.isEmpty_iff, String.toList_eq_nil_iff, not_or] at h
    exact hfull ⟨h.1.1, h.1.2, h.2⟩
  unfold decode
  rw [splitOn_encode hplain]
  exact if_pos hempty

/-! ## Slashes -/

theorem count_encode (r : ResourceId) : r.encode.toList.count '/' =
    r.secretNamespace.toList.count '/' + r.secretName.toList.count '/' +
      r.resource.toList.count '/' + 2 := by
  simp [encode]
  omega

theorem plain_iff_count : r.Plain ↔ r.encode.toList.count '/' = 2 := by
  rw [count_encode]
  constructor
  · intro h
    rw [List.count_eq_zero.2 h.secretNamespace, List.count_eq_zero.2 h.secretName,
      List.count_eq_zero.2 h.resource]
  · intro h
    exact ⟨List.count_eq_zero.1 (by omega), List.count_eq_zero.1 (by omega),
      List.count_eq_zero.1 (by omega)⟩

theorem decode_of_count_ne {id : String} (h : id.toList.count '/' ≠ 2) :
    decode id = .error (.invalidFormat id) := by
  have hlength := Text.length_splitOn '/' id.toList
  unfold decode
  split
  · next hpieces =>
    rw [hpieces] at hlength
    exact absurd (Nat.succ.inj hlength).symm h
  · rfl

theorem decode_encode_of_not_plain (h : ¬ r.Plain) :
    decode r.encode = .error (.invalidFormat r.encode) :=
  decode_of_count_ne (plain_iff_count.not.1 h)

/-- A text with two slashes is written from the pieces that they divide. -/
theorem exists_encode_of_count {id : String} (h : id.toList.count '/' = 2) :
    ∃ r : ResourceId, r.Plain ∧ r.encode = id := by
  have hlength := Text.length_splitOn '/' id.toList
  rw [h] at hlength
  obtain ⟨a, b, c, hpieces⟩ := List.length_eq_three.1 hlength
  have hjoined : ['/'].intercalate [a, b, c] = id.toList := by
    rw [← hpieces]
    exact List.intercalate_splitOn '/'
  have hencode : encode ⟨String.ofList a, String.ofList b, String.ofList c⟩ = id := by
    apply String.toList_injective
    rw [← hjoined]
    simp [encode, List.intercalate]
  exact ⟨_, plain_iff_count.2 (hencode ▸ h), hencode⟩

/-! ## What ids are read as -/

variable {id : String}

theorem decode_eq_ok_iff : decode id = .ok r ↔ r.Plain ∧ r.Full ∧ r.encode = id := by
  constructor
  · intro h
    by_cases hcount : id.toList.count '/' = 2
    case neg =>
      rw [decode_of_count_ne hcount] at h
      cases h
    case pos =>
      obtain ⟨s, hplain, rfl⟩ := exists_encode_of_count hcount
      by_cases hfull : s.Full
      case neg =>
        rw [decode_encode_of_not_full hplain hfull] at h
        cases h
      case pos =>
        rw [decode_encode hplain hfull] at h
        obtain rfl := Except.ok.inj h
        exact ⟨hplain, hfull, rfl⟩
  · rintro ⟨hplain, hfull, rfl⟩
    exact decode_encode hplain hfull

theorem decode_eq_error_iff {e : Error} : decode id = .error e ↔
    (id.toList.count '/' ≠ 2 ∧ e = .invalidFormat id) ∨
      (id.toList.count '/' = 2 ∧ [] ∈ id.toList.splitOn '/' ∧ e = .invalidValue id) := by
  by_cases hcount : id.toList.count '/' = 2
  case neg =>
    rw [decode_of_count_ne hcount]
    simp [hcount, eq_comm]
  case pos =>
    obtain ⟨s, hplain, rfl⟩ := exists_encode_of_count hcount
    have hempty : [] ∈ s.encode.toList.splitOn '/' ↔ ¬ s.Full := by
      have hpieces : [] ∈ s.encode.toList.splitOn '/' ↔
          s.secretNamespace = "" ∨ s.secretName = "" ∨ s.resource = "" := by
        simp [splitOn_encode hplain, eq_comm (a := [])]
      rw [hpieces]
      constructor
      · rintro hsome ⟨h₁, h₂, h₃⟩
        tauto
      · intro h
        by_contra hnone
        simp only [not_or] at hnone
        exact h ⟨hnone.1, hnone.2.1, hnone.2.2⟩
    by_cases hfull : s.Full
    case neg =>
      rw [decode_encode_of_not_full hplain hfull]
      simp [hcount, hempty, hfull, eq_comm]
    case pos =>
      rw [decode_encode hplain hfull]
      simp [hcount, hempty, hfull]

/-- An id that was written is read as nothing but what it was written from. -/
theorem eq_of_decode_encode {s : ResourceId} (h : decode r.encode = .ok s) : s = r := by
  obtain ⟨hs, -, hencode⟩ := decode_eq_ok_iff.1 h
  have hplain : r.Plain := plain_iff_count.2 (hencode ▸ plain_iff_count.1 hs)
  by_cases hfull : r.Full
  case neg =>
    rw [decode_encode_of_not_full hplain hfull] at h
    cases h
  case pos =>
    rw [decode_encode hplain hfull] at h
    exact (Except.ok.inj h).symm

/-- Writing and reading are inverse to each other. Pieces with a slash and empty pieces are what
alone makes an id be refused, and each has a reason of its own, which holds the id. -/
theorem codec_exact (r : ResourceId) (id : String) :
    (r.Plain ∧ r.Full → decode r.encode = .ok r) ∧
    (¬ r.Plain → decode r.encode = .error (.invalidFormat r.encode)) ∧
    (r.Plain ∧ ¬ r.Full → decode r.encode = .error (.invalidValue r.encode)) ∧
    (∀ s, decode r.encode = .ok s → s = r) ∧
    (∀ s, decode id = .ok s → s.encode = id) ∧
    (decode id = .error (.invalidFormat id) ↔ id.toList.count '/' ≠ 2) ∧
    (∀ e, decode id = .error e → e = .invalidFormat id ∨ e = .invalidValue id) ∧
    ∀ other s, decode id = .ok s → decode other = .ok s → other = id := by
  refine ⟨fun h => decode_encode h.1 h.2, decode_encode_of_not_plain,
    fun h => decode_encode_of_not_full h.1 h.2, fun s => eq_of_decode_encode,
    fun s h => (decode_eq_ok_iff.1 h).2.2, ?_, fun e h => ?_, fun other s hid hother => ?_⟩
  · rw [decode_eq_error_iff]
    simp
  · exact (decode_eq_error_iff.1 h).imp And.right fun h => h.2.2
  · rw [← (decode_eq_ok_iff.1 hid).2.2, ← (decode_eq_ok_iff.1 hother).2.2]

theorem codec_exact_bucket :
    decode "owners/owner/bucket" = .ok ⟨"owners", "owner", "bucket"⟩ ∧
    decode "owners//bucket" = .error (.invalidValue "owners//bucket") ∧
    decode "owners/owner/a/b" = .error (.invalidFormat "owners/owner/a/b") := by
  have hplain : Plain ⟨"owners", "owner", "bucket"⟩ := ⟨by decide, by decide, by decide⟩
  have hfull : Full ⟨"owners", "owner", "bucket"⟩ := ⟨by decide, by decide, by decide⟩
  have hempty : ¬ Full ⟨"owners", "", "bucket"⟩ := fun h => h.secretName rfl
  have hslash : ¬ Plain ⟨"owners", "owner", "a/b"⟩ := fun h => h.resource (by decide)
  exact ⟨(codec_exact _ "").1 ⟨hplain, hfull⟩,
    (codec_exact ⟨"owners", "", "bucket"⟩ "").2.2.1 ⟨⟨by decide, by decide, by decide⟩, hempty⟩,
    (codec_exact ⟨"owners", "owner", "a/b"⟩ "").2.1 hslash⟩

end BucketAccess.ResourceId
