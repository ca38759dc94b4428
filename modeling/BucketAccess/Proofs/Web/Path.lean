import BucketAccess.Proofs.Signing.Path
import BucketAccess.Proofs.Text.Pieces
import BucketAccess.Web.Url

/-!
# Paths that are read again

A path of a URL has no dot segments left once it is read, and its canonical form has none either,
but for what is added to it. A canonical path without dot segments is read as it is written.
-/

namespace BucketAccess.Web

open Signing (canonicalPath canonicalSegment segmentName)

/-- The names that a path cannot lead to: a step to where it is, and one back. -/
def IsDots (name : List Char) : Prop := name = ['.'] ∨ name = ['.', '.']

instance : DecidablePred IsDots := fun name =>
  inferInstanceAs (Decidable (name = ['.'] ∨ name = ['.', '.']))

/-! ## Dots -/

theorem plainDots_cons {c : Char} (h : c ≠ '%') (r : List Char) :
    plainDots (c :: r) = c :: plainDots r := by
  rw [plainDots]
  · rintro r' rfl
    exact absurd rfl h
  · rintro r' rfl
    exact absurd rfl h

theorem plainDots_escape {b : UInt8} (h : b ≠ 0x2E) (r : List Char) :
    plainDots (Percent.escape b ++ r) = Percent.escape b ++ plainDots r := by
  have hb : b.toNat < 256 := b.toNat_lt
  have hdigit : ∀ n < 16, Hex.upperDigit n ≠ '%' ∧ (Hex.upperDigit n = '2' → n = 2) ∧
      (Hex.upperDigit n = 'E' → n = 14) ∧ Hex.upperDigit n ≠ 'e' := by decide
  obtain ⟨hhigh, htwo, -, -⟩ := hdigit (b.toNat / 16) (by omega)
  obtain ⟨hlow, -, hE, he⟩ := hdigit (b.toNat % 16) (by omega)
  simp only [Percent.escape, List.cons_append, List.nil_append]
  rw [plainDots, plainDots_cons hhigh, plainDots_cons hlow]
  · intro r' _ hcons
    obtain ⟨-, hrest⟩ := List.cons.inj hcons
    exact he (List.cons.inj hrest).1
  · intro r' _ hcons
    obtain ⟨hfirst, hrest⟩ := List.cons.inj hcons
    have h₁ := htwo hfirst
    have h₂ := hE (List.cons.inj hrest).1
    refine h (UInt8.toNat.inj ?_)
    show b.toNat = 46
    omega

/-- No dot is escaped in encoded text. -/
theorem plainDots_encode (bs : Bytes) : plainDots (Percent.encode bs) = Percent.encode bs := by
  induction bs with
  | nil => rfl
  | cons b bs ih =>
    have hcons : Percent.encode (b :: bs) =
        (if Percent.isUnreserved b then [Char.ofNat b.toNat] else Percent.escape b) ++
          Percent.encode bs := rfl
    rw [hcons]
    split
    case isTrue hb =>
      have hne : Char.ofNat b.toNat ≠ '%' := by
        intro he
        have hlt := Percent.lt_of_isUnreserved hb
        have hvalue : (Char.ofNat b.toNat).toNat = b.toNat := Utf8.toNat_ofNat (by omega)
        rw [he] at hvalue
        obtain rfl : b = 0x25 := UInt8.toNat.inj hvalue.symm
        exact absurd hb (by decide)
      rw [List.singleton_append, plainDots_cons hne, ih]
    case isFalse hb =>
      have hne : b ≠ 0x2E := by
        rintro rfl
        exact hb (by decide)
      rw [plainDots_escape hne, ih]

/-- The digits of the number of a dot. -/
theorem digits_of_dot {c : Char} (h : (Hex.digitValue? c).isSome) :
    (Hex.digitValue? c = some 2 → c = '2') ∧ (Hex.digitValue? c = some 14 → c = 'e' ∨ c = 'E') :=
  Utf8.forall_ascii (P := fun c => (Hex.digitValue? c = some 2 → c = '2') ∧
    (Hex.digitValue? c = some 14 → c = 'e' ∨ c = 'E')) (by decide) (Numeral.lt_of_isSome_digit? h)

/-- What stands for dots is dots, some of them escaped. -/
theorem plainDots_of_decode {s : List Char} {n : Nat}
    (h : Percent.decode s = List.replicate n 0x2E) : plainDots s = List.replicate n '.' := by
  fun_induction Percent.decode s generalizing n with
  | case1 =>
    cases n with
    | zero => rfl
    | succ n => cases h
  | case2 a b r high low hlow hhigh ih =>
    cases n with
    | zero => cases h
    | succ n =>
      obtain ⟨hbyte, hrest⟩ := List.cons.inj h
      have hvalue := congrArg UInt8.toNat hbyte
      have hhigh' := Numeral.lt_of_digit? hhigh
      have hlow' := Numeral.lt_of_digit? hlow
      have hnumbers : high = 2 ∧ low = 14 := by
        simp at hvalue
        omega
      obtain ⟨rfl, rfl⟩ := hnumbers
      have ha := digits_of_dot (Option.isSome_of_mem hhigh)
      have hb := digits_of_dot (Option.isSome_of_mem hlow)
      obtain rfl := ha.1 hhigh
      rcases hb.2 hlow with rfl | rfl
      · rw [plainDots, ih hrest, List.replicate_succ]
      · rw [plainDots, ih hrest, List.replicate_succ]
  | case3 a b r hno ih =>
    cases n with
    | zero => cases h
    | succ n =>
      have hbyte : (0x25 : UInt8) = 0x2E := (List.cons.inj h).1
      exact absurd hbyte (by decide)
  | case4 c r hno ih =>
    by_cases hc : c.toNat < 0x80
    · rw [Utf8.encodeChar_of_lt hc, List.singleton_append] at h
      cases n with
      | zero => cases h
      | succ n =>
        obtain ⟨hbyte, hrest⟩ := List.cons.inj h
        have hvalue := congrArg UInt8.toNat hbyte
        have hdot : c = '.' := by
          rw [← Char.ofNat_toNat c, show c.toNat = 46 by simp at hvalue; omega]
        rw [hdot, plainDots_cons (by decide), ih hrest, List.replicate_succ]
    · obtain ⟨b, bs, hbytes⟩ := List.exists_cons_of_ne_nil (String.utf8EncodeChar_ne_nil (c := c))
      have hmem : b ∈ String.utf8EncodeChar c := by
        rw [hbytes]
        exact List.mem_cons_self
      have hle := Utf8.le_of_mem_encodeChar (by omega) hmem
      have hdot : b ∈ List.replicate n (0x2E : UInt8) := by
        rw [← h]
        exact List.mem_append_left _ hmem
      rw [List.eq_of_mem_replicate hdot] at hle
      exact absurd hle (by decide)

theorem encode_dots (n : Nat) : Utf8.encode (List.replicate n '.') = List.replicate n 0x2E := by
  induction n with
  | zero => rfl
  | succ n ih =>
    rw [List.replicate_succ, Utf8.encode_cons, ih]
    rfl

theorem isDots_of_segmentName {segment : List Char} (h : IsDots (segmentName segment)) :
    isDots segment = true := by
  have hplain : ∀ n, segmentName segment = List.replicate n '.' →
      plainDots segment = List.replicate n '.' := by
    intro n hn
    have hascii : ∀ c ∈ List.replicate n '.', c.toNat ≠ 0 ∧ c.toNat < 0x80 := by
      intro c hc
      rw [List.eq_of_mem_replicate hc]
      decide
    refine plainDots_of_decode ?_
    rw [Utf8.eq_encode_of_lossyChars hascii hn, encode_dots]
  unfold isDots
  rcases h with h | h
  · simp [hplain 1 h]
  · simp [hplain 2 h]

/-! ## Segments -/

theorem lt_of_isPathByte {b : UInt8} (h : isPathByte b = true) : b.toNat < 0x80 := by
  simp only [isPathByte, isControl, Bool.and_eq_true, Bool.not_eq_true', Bool.or_eq_false_iff,
    decide_eq_false_iff_not, UInt8.not_le] at h
  have hlt := UInt8.lt_iff_toNat_lt.1 h.1.2
  have h7F : (0x7F : UInt8).toNat = 127 := rfl
  omega

theorem isPathByte_of_digitValue? {c : Char} (h : (Hex.digitValue? c).isSome) :
    isPathByte (UInt8.ofNat c.toNat) = true :=
  Utf8.forall_ascii
    (P := fun c => (Hex.digitValue? c).isSome → isPathByte (UInt8.ofNat c.toNat) = true)
    (by decide +kernel) (Numeral.lt_of_isSome_digit? h) h

theorem isPathByte_of_isEncodedChar {c : Char} (h : Percent.isEncodedChar c = true) :
    isPathByte (UInt8.ofNat c.toNat) = true :=
  Utf8.forall_ascii
    (P := fun c => Percent.isEncodedChar c = true → isPathByte (UInt8.ofNat c.toNat) = true)
    (by decide +kernel) (Percent.lt_of_isEncodedChar h) h

/-- A segment stands for the same text once the URL is written. -/
theorem segmentName_segmentText (segment : List Char) :
    segmentName (segmentText segment) = segmentName segment := by
  unfold segmentName segmentText
  rw [Percent.decode_encodeBut (fun _ => lt_of_isPathByte) (by decide)
    fun _ => isPathByte_of_digitValue?]

theorem slash_not_mem_segmentText {segment : List Char} (h : '/' ∉ segment) :
    '/' ∉ segmentText segment := by
  intro hmem
  obtain ⟨b, hb, hc⟩ := List.mem_flatMap.1 hmem
  split at hc
  case isTrue hkeep =>
    have hlt := lt_of_isPathByte hkeep
    rw [List.mem_singleton.1 hc] at h
    exact h (Utf8.mem_of_mem_encode hb hlt)
  case isFalse =>
    have hslash := Percent.isEncodedChar_of_mem_escape hc
    exact absurd hslash (by decide)

theorem segmentText_of_encoded {s : List Char} (h : ∀ c ∈ s, Percent.isEncodedChar c = true) :
    segmentText s = s :=
  Percent.encodeBut_of_kept fun c hc =>
    ⟨Percent.lt_of_isEncodedChar (h c hc), isPathByte_of_isEncodedChar (h c hc)⟩

theorem isDots_canonicalSegment {segment : List Char} (h : ¬ IsDots (segmentName segment)) :
    isDots (canonicalSegment segment) = false := by
  have hname : ∀ {s}, canonicalSegment segment = s → segmentName s = segmentName segment := by
    rintro s rfl
    exact Signing.segmentName_canonicalSegment segment
  unfold isDots
  rw [Signing.canonicalSegment_eq, plainDots_encode, ← Signing.canonicalSegment_eq]
  simp only [Bool.or_eq_false_iff, decide_eq_false_iff_not]
  refine ⟨fun he => h (.inl ?_), fun he => h (.inr ?_)⟩
  · rw [← hname he]
    decide
  · rw [← hname he]
    decide

/-! ## Resolved paths -/

theorem addSegment_of_isDots_eq_false {segment : List Char} (h : isDots segment = false)
    (sofar : List (List Char)) : addSegment sofar segment = segment :: sofar := by
  simp only [isDots, Bool.or_eq_false_iff, decide_eq_false_iff_not] at h
  unfold addSegment
  simp [h.1, h.2]

theorem resolveDots_of_plain {segments : List (List Char)}
    (h : ∀ s ∈ segments, isDots s = false) (sofar : List (List Char)) :
    resolveDots sofar segments = sofar.reverse ++ segments := by
  induction segments generalizing sofar with
  | nil => simp [resolveDots]
  | cons s r ih =>
    obtain ⟨hs, hr⟩ := List.forall_mem_cons.1 h
    rw [resolveDots]
    simp [hs, addSegment_of_isDots_eq_false hs, ih hr]

/-- A segment that is no dots and holds no slash. -/
def IsSegment (segment : List Char) : Prop := isDots segment = false ∧ '/' ∉ segment

theorem isSegment_of_mem_addSegment {sofar : List (List Char)} {segment : List Char}
    (hsofar : ∀ s ∈ sofar, IsSegment s) (h : '/' ∉ segment) :
    ∀ s ∈ addSegment sofar segment, IsSegment s := by
  have hdrop : ∀ s ∈ sofar.drop 1, IsSegment s := fun s hs => hsofar s (List.mem_of_mem_drop hs)
  unfold addSegment
  simp only
  split
  · exact hsofar
  · next hone =>
    split
    · split
      · exact hsofar
      · exact hdrop
    · next htwo => exact List.forall_mem_cons.2 ⟨⟨by simp [isDots, hone, htwo], h⟩, hsofar⟩

theorem isSegment_of_mem_resolveDots {segments sofar : List (List Char)}
    (hsofar : ∀ s ∈ sofar, IsSegment s) (h : ∀ s ∈ segments, '/' ∉ s) :
    ∀ s ∈ resolveDots sofar segments, IsSegment s := by
  induction segments generalizing sofar with
  | nil => exact fun s hs => hsofar s (List.mem_reverse.1 hs)
  | cons segment r ih =>
    obtain ⟨hsegment, hr⟩ := List.forall_mem_cons.1 h
    have hadd := isSegment_of_mem_addSegment hsofar hsegment
    rw [resolveDots]
    refine ih ?_ hr
    split
    · exact List.forall_mem_cons.2 ⟨⟨by decide, by simp⟩, hadd⟩
    · exact hadd

theorem isSegment_of_mem_readPath (kind : SchemeKind) (s : List Char) :
    ∀ segment ∈ readPath kind s, IsSegment segment := by
  refine isSegment_of_mem_resolveDots nofun ?_
  unfold readSegments
  simp only
  split
  · split
    · exact nofun
    · simp
  · exact fun segment hsegment => (Text.of_mem_splitOn hsegment).1

theorem splitOn_append_pathText {segments : List (List Char)} (h : ∀ s ∈ segments, '/' ∉ s)
    {first : List Char} (hfirst : '/' ∉ first) :
    (first ++ pathText segments).splitOn '/' = first :: segments.map segmentText := by
  induction segments generalizing first with
  | nil =>
    rw [pathText, List.flatMap_nil, List.append_nil, List.splitOn_eq_singleton hfirst]
    rfl
  | cons s r ih =>
    obtain ⟨hs, hr⟩ := List.forall_mem_cons.1 h
    have hcons : pathText (s :: r) = '/' :: (segmentText s ++ pathText r) := rfl
    rw [hcons, List.splitOn_append_cons_self_of_not_mem hfirst,
      ih hr (slash_not_mem_segmentText hs), List.map_cons]

/-- A path that begins with a slash, if it is not empty, and leads nowhere by dots. -/
def Resolved (path : List Char) : Prop :=
  ∃ segments, path.splitOn '/' = [] :: segments ∧ ∀ s ∈ segments, ¬ IsDots (segmentName s)

theorem resolved_readPath (kind : SchemeKind) (s : List Char) :
    Resolved (pathText (readPath kind s)) := by
  have hsegments := isSegment_of_mem_readPath kind s
  refine ⟨(readPath kind s).map segmentText, ?_, fun segment hsegment hdots => ?_⟩
  · exact splitOn_append_pathText (fun x hx => (hsegments x hx).2) List.not_mem_nil
  · obtain ⟨x, hx, rfl⟩ := List.mem_map.1 hsegment
    rw [segmentName_segmentText] at hdots
    have hfalse := (hsegments x hx).1
    rw [isDots_of_segmentName hdots] at hfalse
    cases hfalse

/-! ## Reading -/

theorem canonicalPath_append {base bucket : List Char} {segments : List (List Char)}
    (hbase : base.splitOn '/' = [] :: segments) (hbucket : '/' ∉ bucket) :
    canonicalPath (base ++ '/' :: bucket) =
      '/' :: ['/'].intercalate ((segments ++ [bucket]).map canonicalSegment) := by
  have hpieces : (base ++ '/' :: bucket).splitOn '/' = [] :: (segments ++ [bucket]) := by
    rw [List.splitOn_append_cons_self, hbase, List.splitOn_eq_singleton hbucket, List.cons_append]
  rw [Signing.canonicalPath_of_ne_nil (by simp), hpieces, List.map_cons, Signing.joinWith,
    List.intercalate_cons_of_ne_nil (by simp)]
  rfl

theorem mem_canonicalPath {path : List Char} {c : Char} (h : c ∈ canonicalPath path) :
    c = '/' ∨ Percent.isEncodedChar c = true := by
  unfold canonicalPath at h
  split at h
  · exact .inl (List.mem_singleton.1 h)
  · rcases Text.of_mem_intercalate h with rfl | ⟨piece, hpiece, hc⟩
    · exact .inl rfl
    · obtain ⟨segment, -, rfl⟩ := List.mem_map.1 hpiece
      exact .inr (Signing.isEncodedChar_of_mem_canonicalSegment hc)

theorem pathText_of_encoded {segments : List (List Char)} (hne : segments ≠ [])
    (h : ∀ s ∈ segments, ∀ c ∈ s, Percent.isEncodedChar c = true) :
    pathText segments = '/' :: ['/'].intercalate segments := by
  induction segments with
  | nil => exact absurd rfl hne
  | cons s r ih =>
    obtain ⟨hs, hr⟩ := List.forall_mem_cons.1 h
    have hcons : pathText (s :: r) = '/' :: (segmentText s ++ pathText r) := rfl
    rw [hcons, segmentText_of_encoded hs]
    cases r with
    | nil => simp [pathText]
    | cons s' r =>
      rw [ih (by simp) hr, List.intercalate_cons_cons, List.append_assoc]
      rfl

theorem splitSegments_intercalate {segments : List (List Char)} (hne : segments ≠ []) :
    splitSegments .special (['/'].intercalate (segments.map canonicalSegment)) =
      segments.map canonicalSegment := by
  have hsame : (['/'].intercalate (segments.map canonicalSegment)).map
      (fun c => if SchemeKind.special.isSlash c then '/' else c) =
        ['/'].intercalate (segments.map canonicalSegment) := by
    conv_rhs => rw [← List.map_id (['/'].intercalate (segments.map canonicalSegment))]
    refine List.map_congr_left fun c hc => ?_
    rcases Text.of_mem_intercalate hc with rfl | ⟨piece, hpiece, hc⟩
    · rfl
    · obtain ⟨segment, -, rfl⟩ := List.mem_map.1 hpiece
      have hchar := Signing.isEncodedChar_of_mem_canonicalSegment hc
      refine if_neg fun hslash => ?_
      simp only [SchemeKind.isSlash, Bool.or_eq_true, Bool.and_eq_true, decide_eq_true_eq] at hslash
      rcases hslash with rfl | ⟨rfl, -⟩ <;> exact absurd hchar (by decide)
  unfold splitSegments
  rw [hsame]
  refine List.splitOn_intercalate '/' (fun piece hpiece => ?_) (by simpa using hne)
  obtain ⟨segment, -, rfl⟩ := List.mem_map.1 hpiece
  exact Signing.slash_not_mem_canonicalSegment segment

/-- The canonical path of a bucket is read as it is written, unless the bucket's name is dots. -/
theorem readPath_canonicalPath {base bucket tail : List Char} (hbase : Resolved base)
    (hbucket : '/' ∉ bucket) (hdots : ¬ IsDots (segmentName bucket))
    (htail : ∀ c ∈ tail.head?, c = '?') :
    pathText (readPath .special (canonicalPath (base ++ '/' :: bucket) ++ tail)) =
      canonicalPath (base ++ '/' :: bucket) := by
  obtain ⟨segments, hsegments, hplain⟩ := hbase
  have hpath := canonicalPath_append hsegments hbucket
  have hstop : (canonicalPath (base ++ '/' :: bucket) ++ tail).takeWhile
      (fun c => c ≠ '?' ∧ c ≠ '#') = canonicalPath (base ++ '/' :: bucket) := by
    have htail' : tail.takeWhile (fun c => c ≠ '?' ∧ c ≠ '#') = [] := by
      cases tail with
      | nil => rfl
      | cons c r =>
        obtain rfl := htail c rfl
        rfl
    rw [List.takeWhile_append_of_pos, htail', List.append_nil]
    intro c hc
    have hchar := mem_canonicalPath hc
    refine decide_eq_true ⟨?_, ?_⟩ <;>
    · rintro rfl
      exact absurd hchar (by decide)
  have hread : readSegments .special (canonicalPath (base ++ '/' :: bucket) ++ tail) =
      (segments ++ [bucket]).map canonicalSegment := by
    unfold readSegments
    rw [hstop]
    simp only [hpath]
    exact splitSegments_intercalate (by simp)
  have hresolved : readPath .special (canonicalPath (base ++ '/' :: bucket) ++ tail) =
      (segments ++ [bucket]).map canonicalSegment := by
    unfold readPath
    rw [hread, resolveDots_of_plain]
    · rfl
    · intro s hs
      obtain ⟨segment, hsegment, rfl⟩ := List.mem_map.1 hs
      refine isDots_canonicalSegment ?_
      rcases List.mem_append.1 hsegment with hsegment | hsegment
      · exact hplain segment hsegment
      · rwa [List.mem_singleton.1 hsegment]
  rw [hresolved, pathText_of_encoded (by simp), hpath]
  intro s hs c hc
  obtain ⟨segment, -, rfl⟩ := List.mem_map.1 hs
  exact Signing.isEncodedChar_of_mem_canonicalSegment hc

end BucketAccess.Web
