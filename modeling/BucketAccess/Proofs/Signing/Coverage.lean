import BucketAccess.Proofs.Signing.Request
import Mathlib.Data.List.Chain
import Mathlib.Data.List.Lex
import Mathlib.Logic.Relation

/-!
# Headers that a signature covers

An authorization lists the names that its signature covers: each once, in ascending order, those of
every request and those of the caller in lower case. The lines of the canonical header block have
these names in this order, so that no header is signed that is not listed, and none is listed whose
line is missing. In what order the headers of different names were given, how their names were
capitalised and what blanks their values had makes no difference.
-/

namespace BucketAccess.Signing

/-! ## Names in order -/

theorem lt_of_lexLE {a b : List Char} (h : Text.lexLE a b = true) (hne : a ≠ b) : a < b := by
  induction a generalizing b with
  | nil =>
    cases b with
    | nil => exact absurd rfl hne
    | cons y b => exact List.nil_lt_cons y b
  | cons x a ih =>
    cases b with
    | nil => cases h
    | cons y b =>
      rw [Text.lexLE] at h
      rw [List.cons_lt_cons_iff]
      split at h
      case isTrue hxy =>
        subst hxy
        exact .inr ⟨rfl, ih h fun hab => hne (congrArg _ hab)⟩
      case isFalse => exact .inl (of_decide_eq_true h)

theorem isChain_eraseReps (names : List (List Char)) : names.eraseReps.IsChain (· ≠ ·) := by
  have hloop : ∀ (rest : List (List Char)) first found, (first :: found).IsChain (· ≠ ·) →
      (List.eraseRepsBy.loop (· == ·) first rest found).IsChain (· ≠ ·) := by
    intro rest
    induction rest with
    | nil =>
      intro first found h
      rw [List.eraseRepsBy.loop, List.isChain_reverse]
      exact h.imp fun _ _ hne => Ne.symm hne
    | cons x rest ih =>
      intro first found h
      rw [List.eraseRepsBy.loop]
      split
      · exact ih first found h
      · next hne => exact ih x (first :: found) (.cons_cons (fun he => by simp [he] at hne) h)
  cases names with
  | nil => exact .nil
  | cons x rest => exact hloop rest x [] (.singleton x)

/-- Sorted names of which no two neighbours are equal ascend strictly. -/
theorem pairwise_lt_eraseReps {names : List (List Char)}
    (h : names.Pairwise fun a b => Text.lexLE a b = true) : names.eraseReps.Pairwise (· < ·) := by
  have hle := (h.sublist (eraseReps_sublist names)).isChain
  have hne := isChain_eraseReps names
  rw [List.isChain_iff_forall_rel_of_append_cons_cons] at hle hne
  refine List.isChain_iff_pairwise.1 (List.isChain_iff_forall_rel_of_append_cons_cons.2 ?_)
  exact fun _ _ _ _ hnames => lt_of_lexLE (hle hnames) (hne hnames)

theorem pairwise_lt_signedNames (headers : List Header) :
    (HeaderSigner.signedNames headers).Pairwise (· < ·) :=
  pairwise_lt_eraseReps (List.pairwise_mergeSort Text.lexLE_trans Text.lexLE_total _)

/-- Which names are signed depends on nothing but which names there are. -/
theorem signedNames_congr {a b : List Header}
    (h : ∀ name, name ∈ a.map (·.1) ↔ name ∈ b.map (·.1)) :
    HeaderSigner.signedNames a = HeaderSigner.signedNames b := by
  have hnodup : ∀ headers, (HeaderSigner.signedNames headers).Nodup := by
    intro headers
    refine (pairwise_lt_signedNames headers).imp fun hlt he => ?_
    rw [he] at hlt
    exact List.lt_irrefl _ hlt
  have hperm : (HeaderSigner.signedNames a).Perm (HeaderSigner.signedNames b) := by
    refine (List.perm_ext_iff_of_nodup (hnodup a) (hnodup b)).2 fun name => ?_
    rw [HeaderSigner.mem_signedNames, HeaderSigner.mem_signedNames]
    exact h name
  exact hperm.eq_of_pairwise (fun _ _ _ _ hlt hlt' => absurd hlt' (List.lt_asymm hlt))
    (pairwise_lt_signedNames a) (pairwise_lt_signedNames b)

/-! ## Blanks in values -/

section

variable {run run' front back : List Char} {c : Char}

theorem collapseFrom_blanks (h : ∀ c ∈ run, Text.isBlank c = true) (s : List Char) :
    Text.collapseFrom true (run ++ s) = Text.collapseFrom true s := by
  induction run with
  | nil => rfl
  | cons c run ih =>
    obtain ⟨hc, hrun⟩ := List.forall_mem_cons.1 h
    rw [List.cons_append, Text.collapseFrom, if_pos hc, if_pos rfl, ih hrun]

theorem collapseFrom_run (hne : run ≠ []) (h : ∀ c ∈ run, Text.isBlank c = true)
    (afterBlank : Bool) (s : List Char) : Text.collapseFrom afterBlank (run ++ s) =
      (if afterBlank then [] else [' ']) ++ Text.collapseFrom true s := by
  obtain ⟨c, r, rfl⟩ := List.exists_cons_of_ne_nil hne
  obtain ⟨hc, hr⟩ := List.forall_mem_cons.1 h
  rw [List.cons_append, Text.collapseFrom, if_pos hc, collapseFrom_blanks hr]
  cases afterBlank <;> rfl

/-- One run of blanks is as good as another. -/
theorem collapse_run (hne : run ≠ []) (h : ∀ c ∈ run, Text.isBlank c = true) (hne' : run' ≠ [])
    (h' : ∀ c ∈ run', Text.isBlank c = true) (front back : List Char) :
    Text.collapse (front ++ run ++ back) = Text.collapse (front ++ run' ++ back) := by
  have hfrom : ∀ afterBlank, Text.collapseFrom afterBlank (front ++ (run ++ back)) =
      Text.collapseFrom afterBlank (front ++ (run' ++ back)) := by
    induction front with
    | nil =>
      intro afterBlank
      rw [List.nil_append, List.nil_append, collapseFrom_run hne h, collapseFrom_run hne' h']
    | cons c front ih =>
      intro afterBlank
      rw [List.cons_append, List.cons_append, Text.collapseFrom, Text.collapseFrom, ih true,
        ih false]
  rw [List.append_assoc, List.append_assoc]
  exact hfrom false

/-- What stands between two characters that are no blanks is not trimmed. -/
theorem trim_between (hfront : ¬ ∀ c ∈ front, Text.isBlank c = true)
    (hback : ¬ ∀ c ∈ back, Text.isBlank c = true) (s : List Char) :
    Text.trim (front ++ s ++ back) =
      Text.trimStart front ++ s ++ (Text.trimStart back.reverse).reverse := by
  have hstart : ∀ {front : List Char}, (¬ ∀ c ∈ front, Text.isBlank c = true) →
      ∀ s, Text.trimStart (front ++ s) = Text.trimStart front ++ s := by
    intro front hfront s
    have hne : (front.dropWhile Text.isBlank).isEmpty = false := by
      rw [List.isEmpty_eq_false_iff]
      exact fun hnil => hfront (List.dropWhile_eq_nil_iff.1 hnil)
    unfold Text.trimStart
    rw [List.dropWhile_append, hne]
    rfl
  have hreverse : ¬ ∀ c ∈ back.reverse, Text.isBlank c = true :=
    fun hall => hback fun c hc => hall c (List.mem_reverse.2 hc)
  unfold Text.trim
  rw [List.append_assoc, hstart hfront, List.reverse_append, List.reverse_append,
    List.append_assoc, hstart hreverse, List.reverse_append, List.reverse_append,
    List.reverse_reverse, List.reverse_reverse]

theorem collapse_trim_run (hne : run ≠ []) (h : ∀ c ∈ run, Text.isBlank c = true)
    (hne' : run' ≠ []) (h' : ∀ c ∈ run', Text.isBlank c = true) (front back : List Char) :
    Text.collapse (Text.trim (front ++ run ++ back)) =
      Text.collapse (Text.trim (front ++ run' ++ back)) := by
  by_cases hfront : ∀ c ∈ front, Text.isBlank c = true
  · -- the run stands in front of the value
    rw [trim_append_left (List.forall_mem_append.2 ⟨hfront, h⟩),
      trim_append_left (List.forall_mem_append.2 ⟨hfront, h'⟩)]
  by_cases hback : ∀ c ∈ back, Text.isBlank c = true
  · rw [List.append_assoc, List.append_assoc,
      trim_append_right (List.forall_mem_append.2 ⟨h, hback⟩),
      trim_append_right (List.forall_mem_append.2 ⟨h', hback⟩)]
  · rw [trim_between hfront hback, trim_between hfront hback]
    exact collapse_run hne h hne' h' _ _

end

/-! ## Headers given in another way -/

/-- One way to give the same headers in another form. -/
inductive Restated : List (String × String) → List (String × String) → Prop where
  /-- The headers of each name stay in their order. -/
  | reordered {a b : List (String × String)} : a.Perm b →
      (∀ name, a.filter (Text.lowerCase ·.1.toList = name) =
        b.filter (Text.lowerCase ·.1.toList = name)) → Restated a b
  | renamed {name name' value : String} (front back : List (String × String)) :
      Text.lowerCase name.toList = Text.lowerCase name'.toList →
      Restated (front ++ (name, value) :: back) (front ++ (name', value) :: back)
  /-- Another run of blanks inside a value. -/
  | respaced {name : String} {run run' : List Char} (before after : List Char)
      (front back : List (String × String)) :
      run ≠ [] → (∀ c ∈ run, Text.isBlank c = true) →
      run' ≠ [] → (∀ c ∈ run', Text.isBlank c = true) →
      Restated (front ++ (name, String.ofList (before ++ run ++ after)) :: back)
        (front ++ (name, String.ofList (before ++ run' ++ after)) :: back)
  /-- Blanks around a value. -/
  | surrounded {name value : String} {before after : List Char}
      (front back : List (String × String)) :
      (∀ c ∈ before, Text.isBlank c = true) → (∀ c ∈ after, Text.isBlank c = true) →
      Restated (front ++ (name, value) :: back)
        (front ++ (name, String.ofList (before ++ value.toList ++ after)) :: back)

/-- Two headers of different names change their places. -/
theorem Restated.swapped {a b : String × String}
    (h : Text.lowerCase a.1.toList ≠ Text.lowerCase b.1.toList) (r : List (String × String)) :
    Restated (a :: b :: r) (b :: a :: r) := by
  refine .reordered (.swap b a r) fun name => ?_
  by_cases ha : Text.lowerCase a.1.toList = name
  · have hb : Text.lowerCase b.1.toList ≠ name := fun hb => h (ha.trans hb.symm)
    rw [List.filter_cons_of_pos (by simpa using ha), List.filter_cons_of_neg (by simpa using hb),
      List.filter_cons_of_neg (by simpa using hb), List.filter_cons_of_pos (by simpa using ha)]
  · rw [List.filter_cons_of_neg (by simpa using ha), List.filter_cons, List.filter_cons,
      List.filter_cons_of_neg (by simpa using ha)]

/-- A name in ASCII is written with other capitals. -/
theorem Restated.recapitalised {name name' : String}
    (h : name.toList.all (·.toNat < 128) = true) (h' : name'.toList.all (·.toNat < 128) = true)
    (hletters : name.toList.map Char.toLower = name'.toList.map Char.toLower) (value : String)
    (front back : List (String × String)) :
    Restated (front ++ (name, value) :: back) (front ++ (name', value) :: back) := by
  have hascii : ∀ {s : List Char}, s.all (·.toNat < 128) = true → ∀ c ∈ s, c.toNat < 128 :=
    fun hs c hc => of_decide_eq_true (List.all_eq_true.1 hs c hc)
  refine .renamed front back ?_
  rw [Text.lowerCase_of_ascii (hascii h), Text.lowerCase_of_ascii (hascii h'), hletters]

/-- Headers as the caller gives them. -/
def given (extra : List (String × String)) : List Header :=
  extra.map fun h => (h.1.toList, h.2.toList)

theorem given_append (a b : List (String × String)) : given (a ++ b) = given a ++ given b :=
  List.map_append

theorem given_cons (h : String × String) (r : List (String × String)) :
    given (h :: r) = [(h.1.toList, h.2.toList)] ++ given r := rfl

theorem values_congr_at {own own' value value' : String} (front back : List (String × String))
    (hname : Text.lowerCase own.toList = Text.lowerCase own'.toList)
    (hvalue : Text.collapse (Text.trim value.toList) = Text.collapse (Text.trim value'.toList))
    (name : List Char) : values (given (front ++ (own, value) :: back)) name =
      values (given (front ++ (own', value') :: back)) name := by
  have hone : values [(own.toList, value.toList)] name =
      values [(own'.toList, value'.toList)] name := by
    simp only [values, List.flatMap_cons, List.flatMap_nil, hname, hvalue]
  rw [given_append, given_append, given_cons, given_cons, values_append, values_append,
    values_append, values_append, hone]

/-- A restatement says the same under each name. -/
theorem Restated.values_eq {a b : List (String × String)} (h : Restated a b) (name : List Char) :
    values (given a) name = values (given b) name := by
  cases h with
  | reordered _ horder =>
    have hfilter : ∀ extra : List (String × String),
        (given extra).filter (Text.lowerCase ·.1 = name) =
          given (extra.filter (Text.lowerCase ·.1.toList = name)) :=
      fun extra => List.filter_map
    rw [Signing.values_eq, Signing.values_eq, hfilter, hfilter, horder name]
  | renamed front back hname => exact values_congr_at front back hname rfl name
  | respaced before after front back hne hrun hne' hrun' =>
    refine values_congr_at front back rfl ?_ name
    simp only [String.toList_ofList]
    exact collapse_trim_run hne hrun hne' hrun' before after
  | surrounded front back hbefore hafter =>
    refine values_congr_at front back rfl ?_ name
    simp only [String.toList_ofList]
    rw [trim_append_right hafter, trim_append_left hbefore]

/-- Every name that is given says something, and no other. -/
theorem values_given_ne_nil {extra : List (String × String)} {name : List Char} :
    values (given extra) name ≠ [] ↔ ∃ e ∈ extra, Text.lowerCase e.1.toList = name := by
  rw [Signing.values_eq, Ne, List.map_eq_nil_iff, List.filter_eq_nil_iff]
  simp [given]

theorem values_given_congr {a b : List (String × String)} (h : Relation.EqvGen Restated a b)
    (name : List Char) : values (given a) name = values (given b) name := by
  induction h with
  | rel _ _ h => exact h.values_eq name
  | refl => rfl
  | symm _ _ _ ih => exact ih.symm
  | trans _ _ _ _ _ ih ih' => exact ih.trans ih'

namespace Unsigned

variable {u : Unsigned}

/-- The names of every signed request. -/
def ownNames : List (List Char) :=
  ["host", "x-amz-content-sha256", "x-amz-date"].map String.toList

/-- The names that a signature covers are the same three, and those of the caller in lower case. -/
theorem mem_names {name : List Char} :
    name ∈ u.names ↔ name ∈ ownNames ∨ ∃ e ∈ u.extra, Text.lowerCase e.1.toList = name := by
  unfold names headers HeaderSigner.allHeaders
  rw [HeaderSigner.mem_signedNames, List.map_append, List.mem_append, List.map_map]
  exact or_congr Iff.rfl List.mem_map

theorem values_headers (u : Unsigned) (name : List Char) :
    values u.headers name =
      values [("host".toList, u.host.toList), ("x-amz-content-sha256".toList, u.contentHash),
        ("x-amz-date".toList, u.time.basicTime)] name ++ values (given u.extra) name := by
  have hlower : values (u.extra.map fun h => (Text.lowerCase h.1.toList, h.2.toList)) name =
      values (given u.extra) name := by
    simp only [values, given, List.flatMap_map, Text.lowerCase_lowerCase]
  rw [← hlower]
  exact values_append _ _ _

end Unsigned

namespace HeaderSigner

variable (s : HeaderSigner) (u : Unsigned)

/-- What a signed request carries. -/
def headersOf : SignedHeaders := s.sign u.method u.host u.path u.query u.extra u.payload u.time

theorem headersOf_eq : s.headersOf u = ⟨String.ofList u.time.basicTime, String.ofList u.contentHash,
    String.ofList (s.authorization u.time.basicTime u.time.basicDate u.names u.canonical)⟩ := rfl

/-- Headers that are given in another form make the same request. -/
theorem headersOf_congr {u : Unsigned} {extra : List (String × String)}
    (h : Relation.EqvGen Restated u.extra extra) :
    s.headersOf { u with extra := extra } = s.headersOf u := by
  have hvalues : ∀ name, values ({ u with extra := extra } : Unsigned).headers name =
      values u.headers name := by
    intro name
    rw [Unsigned.values_headers, Unsigned.values_headers, values_given_congr h name]
    rfl
  have hnames : ({ u with extra := extra } : Unsigned).names = u.names := by
    refine signedNames_congr fun name => ?_
    rw [← mem_signedNames, ← mem_signedNames]
    show name ∈ ({ u with extra := extra } : Unsigned).names ↔ name ∈ u.names
    rw [Unsigned.mem_names, Unsigned.mem_names, ← values_given_ne_nil, ← values_given_ne_nil,
      values_given_congr h name]
  have hcanonical : ({ u with extra := extra } : Unsigned).canonical = u.canonical := by
    unfold Unsigned.canonical canonicalRequest headerBlock
    rw [hnames, headerLines_congr fun name _ => hvalues name]
    rfl
  rw [headersOf_eq, headersOf_eq, hnames, hcanonical]
  rfl

/-! ## Names and lines -/

def scope : List Char :=
  u.time.basicDate ++ '/' :: s.region.toList ++ '/' :: s.service.toList ++ "/aws4_request".toList

def signature : List Char :=
  headerSignature
    (signingKey s.secretKey.toList u.time.basicDate s.region.toList s.service.toList)
    (textToSign u.time.basicTime (s.scope u) (hashText (Utf8.encode u.canonical)))

end HeaderSigner

/-- The line of a covered header. -/
def Unsigned.line (u : Unsigned) (name : List Char) : List Char :=
  name ++ ':' :: joinWith ',' (values u.headers name)

/-- The names in a block of header lines. -/
def blockNames (block : List Char) : List (List Char) :=
  (block.splitOn '\n').map fun line => (splitLine line).1

/-- A name without the characters that end it in its line or where it is listed. -/
def IsListable (name : List Char) : Prop := ∀ c ∈ [';', ',', '=', ':', '\n'], c ∉ name

theorem isListable_of_all {name : List Char}
    (h : ([';', ',', '=', ':', '\n'].all fun c => !name.contains c) = true) : IsListable name := by
  intro c hc hmem
  have hno := List.all_eq_true.1 h c hc
  simp [hmem] at hno

/-- An authorization lists the names of the lines that it signs: it holds them in the order of the
lines, and they can be read where nothing in them ends a name before its end. -/
structure ListsItsLines (s : HeaderSigner) (u : Unsigned) : Prop where
  ascending : u.names.Pairwise (· < ·)
  mem : ∀ name, name ∈ u.names ↔
    name ∈ Unsigned.ownNames ∨ ∃ e ∈ u.extra, Text.lowerCase e.1.toList = name
  listed : (s.headersOf u).authorization.toList =
    algorithm ++ " Credential=".toList ++ s.accessKey.toList ++ '/' :: s.scope u ++
      ", SignedHeaders=".toList ++ joinWith ';' u.names ++ ", Signature=".toList ++ s.signature u
  canonical : u.canonical = u.method.toList ++ '\n' :: canonicalPath u.path.toList ++
    '\n' :: canonicalQuery u.query.toList ++ '\n' :: joinWith '\n' (u.names.map u.line) ++
      '\n' :: '\n' :: joinWith ';' u.names ++ '\n' :: u.contentHash
  read : (∀ e ∈ u.extra, IsListable e.1.toList) →
    coveredNames (s.headersOf u).authorization.toList = u.names ∧
      blockNames (joinWith '\n' (u.names.map u.line)) = u.names

namespace Unsigned

variable (u : Unsigned)

theorem nameList_names : nameList u.names = joinWith ';' u.names := by
  rw [nameList, names, sortedNames_signedNames]

theorem headerBlock_eq : headerBlock u.headers u.names = joinWith '\n' (u.names.map u.line) := by
  unfold headerBlock
  rw [headerLines_eq, covered, List.map_map]
  rfl

theorem names_ne_nil : u.names ≠ [] := List.ne_nil_of_mem u.host_mem_names

variable {u}

theorem isListable_of_mem_names (h : ∀ e ∈ u.extra, IsListable e.1.toList) {name : List Char}
    (hname : name ∈ u.names) : IsListable name := by
  rcases mem_names.1 hname with hname | ⟨e, he, rfl⟩
  · have hown : (ownNames.all fun name =>
        [';', ',', '=', ':', '\n'].all fun c => !name.contains c) = true := by decide
    exact isListable_of_all (List.all_eq_true.1 hown name hname)
  · intro c hc hmem
    have hrange : ([';', ',', '=', ':', '\n'].all fun c => 0 < c.toNat && c.toNat < 65) = true := by
      decide
    have hbetween := List.all_eq_true.1 hrange c hc
    simp only [Bool.and_eq_true, decide_eq_true_eq] at hbetween
    exact h e he c hc (Text.mem_of_mem_lowerCase hbetween.1 hbetween.2 hmem)

theorem blockNames_lines (h : ∀ e ∈ u.extra, IsListable e.1.toList) :
    blockNames (joinWith '\n' (u.names.map u.line)) = u.names := by
  have hlines : (joinWith '\n' (u.names.map u.line)).splitOn '\n' = u.names.map u.line := by
    refine List.splitOn_intercalate '\n' (fun line hline => ?_) (by simpa using u.names_ne_nil)
    obtain ⟨name, hname, rfl⟩ := List.mem_map.1 hline
    unfold Unsigned.line
    rw [List.mem_append, List.mem_cons]
    rintro (hc | hc | hc)
    · exact isListable_of_mem_names h hname _ (by decide) hc
    · cases hc
    · exact newline_not_mem_value _ _ hc
  unfold blockNames
  rw [hlines, List.map_map]
  refine (List.map_congr_left fun name hname => ?_).trans (List.map_id u.names)
  have hcolon : ':' ∉ name := isListable_of_mem_names h hname _ (by decide)
  exact congrArg Prod.fst (splitLine_line hcolon _)

end Unsigned

namespace HeaderSigner

variable (s : HeaderSigner) (u : Unsigned)

theorem authorization_headersOf : (s.headersOf u).authorization.toList =
    algorithm ++ " Credential=".toList ++ s.accessKey.toList ++ '/' :: s.scope u ++
      ", SignedHeaders=".toList ++ joinWith ';' u.names ++ ", Signature=".toList ++
        s.signature u := by
  rw [headersOf, u.authorization_sign s, authorization, u.nameList_names]
  rfl

theorem coveredNames_headersOf {u : Unsigned} (h : ∀ e ∈ u.extra, IsListable e.1.toList) :
    coveredNames (s.headersOf u).authorization.toList = u.names := by
  have hplain : ∀ c, c = ',' ∨ c = '=' → c ∉ joinWith ';' u.names := by
    intro c hc hmem
    have hends : c ≠ ';' ∧ c ∈ [';', ',', '=', ':', '\n'] := by
      rcases hc with rfl | rfl
      · decide
      · decide
    rcases Text.of_mem_intercalate hmem with rfl | ⟨name, hname, hmem⟩
    · exact hends.1 rfl
    · exact Unsigned.isListable_of_mem_names h hname c hends.2 hmem
  have hsignature : '=' ∉ s.signature u := fun hc => (mem_headerSignature hc).1 rfl
  rw [authorization_headersOf,
    coveredNames_append hsignature (hplain '=' (.inr rfl)) (hplain ',' (.inl rfl))]
  exact List.splitOn_intercalate ';'
    (fun name hname => Unsigned.isListable_of_mem_names h hname _ (by decide)) u.names_ne_nil

theorem listsItsLines : ListsItsLines s u where
  ascending := pairwise_lt_signedNames u.headers
  mem _ := Unsigned.mem_names
  listed := s.authorization_headersOf u
  canonical := by
    unfold Unsigned.canonical canonicalRequest
    rw [u.headerBlock_eq, u.nameList_names]
  read h := ⟨s.coveredNames_headersOf h, Unsigned.blockNames_lines h⟩

/-- What an authorization lists is what its signature covers, whatever headers the caller adds; and
the same headers, given in another form, have the same authorization. -/
theorem listed_names_signed : ListsItsLines s u ∧ ∀ extra, Relation.EqvGen Restated u.extra extra →
    s.headersOf { u with extra := extra } = s.headersOf u :=
  ⟨s.listsItsLines u, fun _ => s.headersOf_congr⟩

/-- Headers in another order, with other capitals and other blanks. -/
theorem restated_samples : Relation.EqvGen Restated
    [("X-Amz-Acl", "public   read"), ("Range", "bytes=0-9")]
    [("RANGE", "bytes=0-9"), ("x-amz-acl", " public\tread")] := by
  have hblank : ∀ {s : List Char}, s.all Text.isBlank = true → ∀ c ∈ s, Text.isBlank c = true :=
    fun hs => List.all_eq_true.1 hs
  have hreordered : Restated [("X-Amz-Acl", "public   read"), ("Range", "bytes=0-9")]
      [("Range", "bytes=0-9"), ("X-Amz-Acl", "public   read")] := .swapped (by decide) []
  have hrange : Restated [("Range", "bytes=0-9"), ("X-Amz-Acl", "public   read")]
      [("RANGE", "bytes=0-9"), ("X-Amz-Acl", "public   read")] :=
    .recapitalised (by decide) (by decide) (by decide) "bytes=0-9" [] _
  have hacl : Restated [("RANGE", "bytes=0-9"), ("X-Amz-Acl", "public   read")]
      [("RANGE", "bytes=0-9"), ("x-amz-acl", "public   read")] :=
    .recapitalised (by decide) (by decide) (by decide) "public   read" [("RANGE", "bytes=0-9")] []
  have hblanks : Restated [("RANGE", "bytes=0-9"), ("x-amz-acl", "public   read")]
      [("RANGE", "bytes=0-9"), ("x-amz-acl", "public\tread")] :=
    @Restated.respaced "x-amz-acl" "   ".toList "\t".toList "public".toList "read".toList
      [("RANGE", "bytes=0-9")] [] (by decide) (hblank (by decide)) (by decide) (hblank (by decide))
  have haround : Restated [("RANGE", "bytes=0-9"), ("x-amz-acl", "public\tread")]
      [("RANGE", "bytes=0-9"), ("x-amz-acl", " public\tread")] :=
    @Restated.surrounded "x-amz-acl" "public\tread" [' '] [] [("RANGE", "bytes=0-9")] []
      (hblank (by decide)) nofun
  exact .trans _ _ _ (.rel _ _ hreordered) (.trans _ _ _ (.rel _ _ hrange)
    (.trans _ _ _ (.rel _ _ hacl) (.trans _ _ _ (.rel _ _ hblanks) (.rel _ _ haround))))

/-- A reader of policies finds both headers listed, and signs the same whichever way they are
given. -/
theorem listed_names_signed_restated :
    let signer : HeaderSigner := ⟨"AK", "SK", "us-east-1", "s3"⟩
    let u := Unsigned.policyRead [("X-Amz-Acl", "public   read"), ("Range", "bytes=0-9")]
    let extra := [("RANGE", "bytes=0-9"), ("x-amz-acl", " public\tread")]
    Relation.EqvGen Restated u.extra extra ∧ (∀ e ∈ u.extra, IsListable e.1.toList) ∧
      coveredNames (signer.headersOf u).authorization.toList = u.names ∧
      "range".toList ∈ u.names ∧ signer.headersOf { u with extra := extra } = signer.headersOf u := by
  intro signer u extra
  have hlistable : ∀ e ∈ u.extra, IsListable e.1.toList :=
    List.forall_mem_cons.2 ⟨isListable_of_all (by decide),
      List.forall_mem_singleton.2 (isListable_of_all (by decide))⟩
  obtain ⟨hlists, hsame⟩ := signer.listed_names_signed u
  refine ⟨restated_samples, hlistable, (hlists.read hlistable).1, ?_, hsame extra restated_samples⟩
  exact (hlists.mem _).2 (.inr ⟨("Range", "bytes=0-9"), .tail _ (.head _), by decide⟩)

end HeaderSigner

end BucketAccess.Signing
