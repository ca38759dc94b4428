import BucketAccess.Proofs.Text.Composed
import BucketAccess.Proofs.Text.Pieces
import BucketAccess.Proofs.Web.Punycode
import BucketAccess.Web.Host

/-!
# Domains that are read again

The domain that a text names has no capitals. A domain in ASCII without capitals names itself, if it
names any domain.
-/

namespace BucketAccess.Web

open Text

/-! ## Forms of characters -/

theorem shiftedForms_lower :
    shiftedForms.all (fun r => 90 < r.2.2 || r.2.2 + (r.2.1 - r.1) < 65) = true := by
  decide +kernel

theorem singleForms_lower :
    singleForms.all (fun b => b.2.all fun n => n < 65 || 90 < n) = true := by decide +kernel

theorem longForms_lower :
    longForms.all (fun b => b.2.all fun form => form.all fun n => n < 65 || 90 < n) = true := by
  decide +kernel

theorem exists_of_lookUp? {α : Type} {blocks : List (Nat × List α)} {c : Char} {a : α}
    (h : lookUp? blocks c = some a) : ∃ block ∈ blocks, a ∈ block.2 := by
  obtain ⟨block, hblock, ha⟩ := List.exists_of_findSome?_eq_some h
  refine ⟨block, hblock, ?_⟩
  simp only at ha
  split at ha
  · exact List.mem_of_getElem? ha
  · cases ha

theorem noCapitals_tableForm? {c : Char} {form : List Char} (hc : c.isUpper = false)
    (h : tableForm? c = some form) : NoCapitals form := by
  unfold tableForm? at h
  split at h
  · cases h
    exact noCapitals_cons.2 ⟨hc, nofun⟩
  split at h
  · cases h
    exact nofun
  split at h
  · next first last start hfind =>
    cases h
    have hrange := List.find?_some hfind
    have hlower := List.all_eq_true.1 shiftedForms_lower _ (List.mem_of_find?_eq_some hfind)
    simp only [Bool.and_eq_true, Bool.or_eq_true, decide_eq_true_eq] at hrange hlower
    refine noCapitals_cons.2 ⟨isUpper_ofNat_eq_false ?_, nofun⟩
    omega
  · obtain ⟨numbers, hnumbers, rfl⟩ := Option.map_eq_some_iff.1 h
    have hlower : ∀ n ∈ numbers, n < 65 ∨ 90 < n := by
      cases hsingle : lookUp? singleForms c with
      | some n =>
        rw [hsingle] at hnumbers
        cases hnumbers
        obtain ⟨block, hblock, hmem⟩ := exists_of_lookUp? hsingle
        have hall := List.all_eq_true.1 (List.all_eq_true.1 singleForms_lower _ hblock) _ hmem
        simpa using hall
      | none =>
        rw [hsingle] at hnumbers
        obtain ⟨block, hblock, hmem⟩ := exists_of_lookUp? hnumbers
        have hall := List.all_eq_true.1 (List.all_eq_true.1 longForms_lower _ hblock) _ hmem
        simpa using hall
    intro x hx
    obtain ⟨n, hn, rfl⟩ := List.mem_map.1 hx
    exact isUpper_ofNat_eq_false (hlower n hn)

theorem noCapitals_charForm? {c : Char} {form : List Char} (h : charForm? c = some form) :
    NoCapitals form := by
  unfold charForm? at h
  split at h
  · next hlt =>
    cases h
    exact noCapitals_cons.2 ⟨isUpper_toLower_eq_false hlt, nofun⟩
  · next hlt =>
    cases hform : tableForm? c with
    | some own =>
      rw [hform] at h
      cases h
      exact noCapitals_tableForm? (isUpper_eq_false_iff.2 (by omega)) hform
    | none =>
      rw [hform] at h
      exact noCapitals_tableForm? (isUpper_lowerChar_eq_false c) h

theorem noCapitals_domainForm? {s form : List Char} (h : domainForm? s = some form) :
    NoCapitals form := by
  obtain ⟨forms, hforms, rfl⟩ := Option.map_eq_some_iff.1 h
  refine noCapitals_compose fun c hc => ?_
  obtain ⟨form, hform, hc⟩ := List.mem_flatten.1 hc
  obtain ⟨x, -, hx⟩ := exists_of_mem_mapM hforms form hform
  exact noCapitals_charForm? hx c hc

/-! ## Punycode -/

theorem lt_of_punycode {c : Char} (h : (Punycode.digit? c).isSome) : c.toNat < 128 := by
  by_contra hc
  have hlower : c.isLower = false := by
    refine Bool.eq_false_iff.2 fun hlower => ?_
    have hle := UInt32.le_iff_toNat_le.1 (of_decide_eq_true (Bool.and_eq_true_iff.1 hlower).2)
    exact hc (lt_of_le_of_lt hle (by decide))
  have hdigit : c.isDigit = false := by
    refine Bool.eq_false_iff.2 fun hdigit => ?_
    have hle := UInt32.le_iff_toNat_le.1 (of_decide_eq_true (Bool.and_eq_true_iff.1 hdigit).2)
    exact hc (lt_of_le_of_lt hle (by decide))
  unfold Punycode.digit? at h
  rw [hlower, hdigit] at h
  cases h

theorem allowed_of_punycode {c : Char} (h : (Punycode.digit? c).isSome) :
    c.isUpper = false ∧ c ≠ '.' :=
  Utf8.forall_ascii (P := fun c => (Punycode.digit? c).isSome → c.isUpper = false ∧ c ≠ '.')
    (by decide) (lt_of_punycode h) h

theorem noCapitals_encode {s : List Char} (h : NoCapitals s) : NoCapitals (Punycode.encode s) := by
  intro c hc
  rcases Punycode.mem_encode hc with ⟨hc, -⟩ | rfl | hc
  · exact h c hc
  · decide
  · exact (allowed_of_punycode hc).1

/-! ## Labels -/

theorem noCapitals_read? {s : List Char} {l : Label} (h : Label.read? s = some l)
    (hs : NoCapitals s) : NoCapitals l.ascii := by
  unfold Label.read? at h
  split at h
  · simp only at h
    split at h
    · obtain ⟨text, -, rfl⟩ := Option.map_eq_some_iff.1 h
      exact hs
    · cases h
  split at h
  · cases h
    exact hs
  split at h
  · cases h
    have hmark : NoCapitals asciiMark := by
      intro c hc
      have hall : asciiMark.all (fun c => !c.isUpper) = true := by decide
      simpa using List.all_eq_true.1 hall c hc
    exact noCapitals_append.2 ⟨hmark, noCapitals_encode hs⟩
  · cases h

/-- A label in ASCII is written as it is. -/
theorem ascii_of_read? {s : List Char} {l : Label} (h : Label.read? s = some l)
    (hs : ∀ c ∈ s, c.toNat < 128) : l.ascii = s := by
  have hascii : isAscii s = true := by simpa [isAscii] using hs
  unfold Label.read? at h
  split at h
  · simp only at h
    split at h
    · obtain ⟨text, -, rfl⟩ := Option.map_eq_some_iff.1 h
      rfl
    · cases h
  · cases h
    rfl

theorem map_ascii_of_mapM_read? {pieces : List (List Char)} {labels : List Label}
    (hpieces : ∀ piece ∈ pieces, ∀ c ∈ piece, c.toNat < 128)
    (h : pieces.mapM Label.read? = some labels) : labels.map Label.ascii = pieces := by
  rw [mapM_eq_some_iff] at h
  induction h with
  | nil => rfl
  | cons hread _ ih =>
    obtain ⟨hpiece, hrest⟩ := List.forall_mem_cons.1 hpieces
    rw [List.map_cons, ascii_of_read? hread hpiece, ih hrest]

/-- A label in Punycode has a bound that its text has not. -/
def IsShort (ascii : List Char) : Prop :=
  asciiMark.isPrefixOf ascii = true → (ascii.drop asciiMark.length).length ≤ 2000

instance : DecidablePred IsShort := fun _ => inferInstanceAs (Decidable (_ → _))

theorem isShort_of_read? {s : List Char} (h : (Label.read? s).isSome) : IsShort s := by
  intro hmark
  unfold Label.read? at h
  rw [if_pos hmark] at h
  by_contra hlength
  dsimp only at h
  rw [if_neg hlength] at h
  cases h

/-- The ASCII form of a label is read as the same label, unless it is too long. -/
theorem read?_ascii {s : List Char} {l : Label} (h : Label.read? s = some l)
    (hshort : IsShort l.ascii) : Label.read? l.ascii = some l := by
  have hread := h
  unfold Label.read? at h
  split at h
  · simp only at h
    split at h
    · obtain ⟨text, -, rfl⟩ := Option.map_eq_some_iff.1 h
      exact hread
    · cases h
  split at h
  · cases h
    exact hread
  split at h
  · next hascii hlabel =>
    cases h
    have hmark : asciiMark.isPrefixOf (asciiMark ++ Punycode.encode s) = true :=
      List.isPrefixOf_iff_prefix.2 (List.prefix_append _ _)
    have hlength : s.length ≤ 1000 := by
      simp only [isLabel, Bool.and_eq_true, decide_eq_true_eq] at hlabel
      omega
    have hwide : ∃ c ∈ s, 128 ≤ c.toNat := by simpa [isAscii] using hascii
    have hdecode := Punycode.decode?_encode hlength hwide
    have hcode := hshort hmark
    unfold Label.read?
    rw [if_pos hmark]
    simp only [List.drop_left] at hcode ⊢
    rw [if_pos hcode, hdecode, Option.filter_some, if_pos hlabel, Option.map_some]
  · cases h

theorem dot_not_mem_ascii {s : List Char} {l : Label} (h : Label.read? s = some l)
    (hs : '.' ∉ s) : '.' ∉ l.ascii := by
  unfold Label.read? at h
  split at h
  · simp only at h
    split at h
    · obtain ⟨text, -, rfl⟩ := Option.map_eq_some_iff.1 h
      exact hs
    · cases h
  split at h
  · cases h
    exact hs
  split at h
  · cases h
    intro hdot
    rcases List.mem_append.1 hdot with hdot | hdot
    · exact absurd hdot (by decide)
    · rcases Punycode.mem_encode hdot with ⟨hdot, -⟩ | hdot | hdot
      · exact hs hdot
      · exact absurd hdot (by decide)
      · exact (allowed_of_punycode hdot).2 rfl
  · cases h

/-! ## Domains -/

/-- A domain consists of the labels that the form of its text has. -/
theorem domainAscii?_eq_some {s domain : List Char} (h : domainAscii? s = some domain) :
    ∃ form labels, domainForm? s = some form ∧
      (form.splitOn '.').mapM Label.read? = some labels ∧
      domain = ['.'].intercalate (labels.map Label.ascii) := by
  unfold domainAscii? at h
  simp only [Option.bind_eq_bind, Option.bind_eq_some_iff] at h
  obtain ⟨form, hform, labels, hlabels, hdomain⟩ := h
  split at hdomain
  · cases hdomain
  · cases hdomain
    exact ⟨form, labels, hform, hlabels, rfl⟩

theorem noCapitals_domainAscii? {s domain : List Char} (h : domainAscii? s = some domain) :
    NoCapitals domain := by
  obtain ⟨form, labels, hform, hlabels, rfl⟩ := domainAscii?_eq_some h
  have hsmall := noCapitals_domainForm? hform
  intro c hc
  rcases of_mem_intercalate hc with rfl | ⟨ascii, hascii, hc⟩
  · decide
  · obtain ⟨l, hl, rfl⟩ := List.mem_map.1 hascii
    obtain ⟨piece, hpiece, hread⟩ := exists_of_mem_mapM hlabels l hl
    exact noCapitals_read? hread (fun x hx => hsmall x ((of_mem_splitOn hpiece).2 hx)) c hc

theorem domainForm?_of_ascii {s : List Char} (h : ∀ c ∈ s, c.toNat < 128) (hs : NoCapitals s) :
    domainForm? s = some s := by
  have hforms : s.mapM charForm? = some (s.map fun c => [c]) := by
    rw [mapM_eq_some_iff, List.forall₂_map_right_iff, List.forall₂_same]
    intro c hc
    unfold charForm?
    rw [if_pos (h c hc), toLower_of_isUpper_eq_false (hs c hc)]
  have hflatten : (s.map fun c => [c]).flatten = s := by
    rw [← List.flatMap_def, List.flatMap_singleton']
  unfold domainForm?
  rw [hforms, Option.map_some, hflatten, compose_of_ascii h]

/-- A domain in ASCII names no other domain than itself. -/
theorem domainAscii?_of_ascii {s domain : List Char} (h : ∀ c ∈ s, c.toNat < 128)
    (hs : NoCapitals s) (hdomain : domainAscii? s = some domain) : domain = s := by
  obtain ⟨form, labels, hform, hlabels, rfl⟩ := domainAscii?_eq_some hdomain
  rw [domainForm?_of_ascii h hs] at hform
  cases hform
  have hpieces : ∀ piece ∈ s.splitOn '.', ∀ c ∈ piece, c.toNat < 128 :=
    fun piece hpiece c hc => h c ((of_mem_splitOn hpiece).2 hc)
  rw [map_ascii_of_mapM_read? hpieces hlabels, List.intercalate_splitOn]

/-- Whether no label of a domain is too long to be read. -/
def HasShortLabels (domain : List Char) : Prop := ∀ label ∈ domain.splitOn '.', IsShort label

instance : DecidablePred HasShortLabels :=
  fun domain => inferInstanceAs (Decidable (∀ label ∈ domain.splitOn '.', IsShort label))

theorem splitOn_domain {form : List Char} {labels : List Label}
    (h : (form.splitOn '.').mapM Label.read? = some labels) :
    (['.'].intercalate (labels.map Label.ascii)).splitOn '.' = labels.map Label.ascii := by
  refine List.splitOn_intercalate '.' ?_ ?_
  · intro ascii hascii
    obtain ⟨l, hl, rfl⟩ := List.mem_map.1 hascii
    obtain ⟨piece, hpiece, hread⟩ := exists_of_mem_mapM h l hl
    exact dot_not_mem_ascii hread (of_mem_splitOn hpiece).1
  · have hlength := (mapM_eq_some_iff.1 h).length_eq
    have hpos := one_le_length_splitOn '.' form
    refine List.ne_nil_of_length_pos ?_
    rw [List.length_map]
    omega

/-- The domain that a text names is a domain again exactly if its labels are short. -/
theorem domainAscii?_again_iff {s domain : List Char} (h : domainAscii? s = some domain)
    (hascii : ∀ c ∈ domain, c.toNat < 128) :
    domainAscii? domain = some domain ↔ HasShortLabels domain := by
  have hform := domainForm?_of_ascii hascii (noCapitals_domainAscii? h)
  constructor
  · intro hagain label hlabel
    obtain ⟨form, labels, hform', hlabels, -⟩ := domainAscii?_eq_some hagain
    rw [hform] at hform'
    cases hform'
    exact isShort_of_read? (isSome_of_mapM hlabels label hlabel)
  · intro hshort
    unfold domainAscii? at h
    simp only [Option.bind_eq_bind, Option.bind_eq_some_iff] at h
    obtain ⟨form, -, labels, hlabels, hdomain⟩ := h
    have hpieces := splitOn_domain hlabels
    split at hdomain
    · cases hdomain
    next hdirection =>
    cases hdomain
    have hagain : (labels.map Label.ascii).mapM Label.read? = some labels := by
      rw [mapM_eq_some_iff, List.forall₂_map_left_iff, List.forall₂_same]
      intro l hl
      obtain ⟨piece, -, hread⟩ := exists_of_mem_mapM hlabels l hl
      refine read?_ascii hread (hshort _ ?_)
      rw [hpieces]
      exact List.mem_map_of_mem hl
    unfold domainAscii?
    rw [hform, Option.bind_eq_bind, Option.bind_some, hpieces, hagain, Option.bind_eq_bind,
      Option.bind_some]
    exact if_neg hdirection

/-! ## Plain names -/

theorem needsDirection_of_ascii {s : List Char} (h : ∀ c ∈ s, c.toNat < 128) :
    needsDirection s = false := by
  unfold needsDirection
  rw [List.any_eq_false]
  intro c hc
  rw [Bool.not_eq_true]
  exact Utf8.forall_ascii (P := fun c => (decide (Direction.of c = .rightToLeft) ||
    decide (Direction.of c = .arabicNumber)) = false) (by decide) (h c hc)

theorem not_isPrefixOf_asciiMark {s : List Char} (h : 'x' ∉ s) :
    ¬ asciiMark.isPrefixOf s = true := by
  intro hprefix
  obtain ⟨r, rfl⟩ := List.isPrefixOf_iff_prefix.1 hprefix
  exact h (List.mem_append_left _ (by decide))

theorem hasShortLabels_of_not_mem {domain : List Char} (h : 'x' ∉ domain) :
    HasShortLabels domain :=
  fun _ hlabel hprefix =>
    absurd hprefix (not_isPrefixOf_asciiMark fun hx => h ((of_mem_splitOn hlabel).2 hx))

/-- A name in ASCII that can have no label in Punycode is a domain. -/
theorem domainAscii?_plain {s : List Char} (h : ∀ c ∈ s, c.toNat < 128) (hs : NoCapitals s)
    (hx : 'x' ∉ s) : domainAscii? s = some s := by
  have hpieces : ∀ piece ∈ s.splitOn '.', ∀ c ∈ piece, c.toNat < 128 :=
    fun piece hpiece c hc => h c ((of_mem_splitOn hpiece).2 hc)
  have hlabels : (s.splitOn '.').mapM Label.read? =
      some ((s.splitOn '.').map fun piece => ⟨piece, piece⟩) := by
    rw [mapM_eq_some_iff, List.forall₂_map_right_iff, List.forall₂_same]
    intro piece hpiece
    have hascii : isAscii piece = true := by simpa [isAscii] using hpieces piece hpiece
    have hmark := not_isPrefixOf_asciiMark fun hmem => hx ((of_mem_splitOn hpiece).2 hmem)
    unfold Label.read?
    rw [if_neg hmark, if_pos hascii]
  have htexts : (((s.splitOn '.').map fun piece => (⟨piece, piece⟩ : Label)).map Label.text).any
      needsDirection = false := by
    simp only [List.map_map, List.any_map, List.any_eq_false, Function.comp_apply]
    intro piece hpiece
    simp [needsDirection_of_ascii (hpieces piece hpiece)]
  unfold domainAscii?
  rw [domainForm?_of_ascii h hs, Option.bind_eq_bind, Option.bind_some, hlabels,
    Option.bind_eq_bind, Option.bind_some]
  dsimp only
  rw [htexts, Bool.false_and, if_neg (by decide), List.map_map]
  have hsame : (s.splitOn '.').map (Label.ascii ∘ fun piece => ⟨piece, piece⟩) = s.splitOn '.' :=
    List.map_id _
  rw [hsame, List.intercalate_splitOn]

end BucketAccess.Web
