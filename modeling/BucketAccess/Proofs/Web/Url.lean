import BucketAccess.Proofs.Web.Host
import BucketAccess.Proofs.Web.Path
import BucketAccess.Web.Exchange

/-!
# URLs that are read again

What is read of an http-like URL can be written in a URL again. It is read as the same host and the
same port, unless that is the scheme's own, and so are a canonical path and a query after them. A
request is sent to what its URL is read as.
-/

namespace BucketAccess.Web

/-! ## Blanks -/

theorem dropWhile_append_of_visible {p r : List Char} (hne : p ≠ [])
    (h : ∀ c ∈ p, isSurrounding c = false) :
    (r ++ p).dropWhile isSurrounding = r.dropWhile isSurrounding ++ p := by
  induction r with
  | nil =>
    obtain ⟨c, p', rfl⟩ := List.exists_cons_of_ne_nil hne
    exact List.dropWhile_cons_of_neg (by simp [h c List.mem_cons_self])
  | cons c r ih =>
    rw [List.cons_append]
    by_cases hc : isSurrounding c = true
    · rw [List.dropWhile_cons_of_pos hc, List.dropWhile_cons_of_pos hc, ih]
    · rw [List.dropWhile_cons_of_neg hc, List.dropWhile_cons_of_neg hc, List.cons_append]

/-- What is visible at the beginning of a text counts. -/
theorem relevant_append {p : List Char} (hne : p ≠ []) (h : ∀ c ∈ p, 0x20 < c.toNat)
    (r : List Char) : relevant (p ++ r) = p ++
      ((r.reverse.dropWhile isSurrounding).reverse).filter
        fun c => c != '\t' && c != '\n' && c != '\r' := by
  have hvisible : ∀ c ∈ p, isSurrounding c = false := by
    intro c hc
    have := h c hc
    simp only [isSurrounding, decide_eq_false_iff_not]
    omega
  have hfront : (p ++ r).dropWhile isSurrounding = p ++ r := by
    obtain ⟨c, p', rfl⟩ := List.exists_cons_of_ne_nil hne
    exact List.dropWhile_cons_of_neg (by simp [hvisible c List.mem_cons_self])
  have hkeep : p.filter (fun c => c != '\t' && c != '\n' && c != '\r') = p := by
    refine List.filter_eq_self.2 fun c hc => ?_
    have hc' := h c hc
    simp only [Bool.and_eq_true, bne_iff_ne]
    refine ⟨⟨?_, ?_⟩, ?_⟩ <;>
    · rintro rfl
      exact absurd hc' (by decide)
  have hreverse : ∀ c ∈ p.reverse, isSurrounding c = false :=
    fun c hc => hvisible c (List.mem_reverse.1 hc)
  unfold relevant
  rw [hfront, List.reverse_append, dropWhile_append_of_visible (by simpa using hne) hreverse,
    List.reverse_append, List.reverse_reverse, List.filter_append, hkeep]

theorem relevant_of_visible {s : List Char} (hne : s ≠ []) (h : ∀ c ∈ s, 0x20 < c.toNat) :
    relevant s = s := by
  have happend := relevant_append hne h []
  simpa using happend

/-! ## Schemes -/

/-- A scheme in lower case. -/
structure IsScheme (scheme : List Char) : Prop where
  first : ∃ c r, scheme = c :: r ∧ c.isAlpha = true
  chars : ∀ c ∈ scheme, isSchemeChar c = true ∧ c.toLower = c

theorem lt_of_isSchemeChar {c : Char} (h : isSchemeChar c = true) : c.toNat < 128 := by
  have hbound : ∀ last : Char, last.toNat < 128 → c.val ≤ last.val → c.toNat < 128 :=
    fun last hlast hle => Nat.lt_of_le_of_lt (UInt32.le_iff_toNat_le.1 hle) hlast
  have halnum : c.isAlphanum = (c.isUpper || c.isLower || c.isDigit) := rfl
  simp only [isSchemeChar, halnum, Bool.or_eq_true, decide_eq_true_eq] at h
  rcases h with ((((h | h) | h) | rfl) | rfl) | rfl
  · exact hbound 'Z' (by decide) (of_decide_eq_true h).2
  · exact hbound 'z' (by decide) (of_decide_eq_true (Bool.and_eq_true_iff.1 h).2)
  · exact hbound '9' (by decide) (of_decide_eq_true (Bool.and_eq_true_iff.1 h).2)
  all_goals decide

theorem toLower_of_isSchemeChar {c : Char} (h : isSchemeChar c = true) :
    isSchemeChar c.toLower = true ∧ c.toLower.toLower = c.toLower ∧
      (c.isAlpha = true → c.toLower.isAlpha = true) :=
  Utf8.forall_ascii (P := fun c => isSchemeChar c = true → isSchemeChar c.toLower = true ∧
    c.toLower.toLower = c.toLower ∧ (c.isAlpha = true → c.toLower.isAlpha = true))
    (by decide +kernel) (lt_of_isSchemeChar h) h

theorem visible_of_isSchemeChar {c : Char} (h : isSchemeChar c = true) : 0x20 < c.toNat :=
  Utf8.forall_ascii (P := fun c => isSchemeChar c = true → 0x20 < c.toNat) (by decide +kernel)
    (lt_of_isSchemeChar h) h

theorem isScheme_of_split {s scheme r : List Char} (h : splitScheme? s = some (scheme, r)) :
    IsScheme scheme := by
  unfold splitScheme? at h
  simp only at h
  split at h
  · next first rest r' hscheme _ =>
    split at h
    · next halpha =>
      cases h
      have hchars : ∀ c ∈ s.takeWhile isSchemeChar, isSchemeChar c = true :=
        fun c hc => List.mem_takeWhile_imp hc
      refine ⟨⟨first.toLower, rest.map Char.toLower, by rw [hscheme]; rfl, ?_⟩, fun c hc => ?_⟩
      · have hfirst := hchars first (by rw [hscheme]; exact List.mem_cons_self)
        exact (toLower_of_isSchemeChar hfirst).2.2 halpha
      · obtain ⟨x, hx, rfl⟩ := List.mem_map.1 hc
        obtain ⟨hlower, hidem, -⟩ := toLower_of_isSchemeChar (hchars x hx)
        exact ⟨hlower, hidem⟩
    · cases h
  · cases h

theorem splitScheme?_append {scheme : List Char} (h : IsScheme scheme) (r : List Char) :
    splitScheme? (scheme ++ ':' :: r) = some (scheme, r) := by
  obtain ⟨⟨first, rest, hcons, halpha⟩, hchars⟩ := h
  have hall : ∀ c ∈ scheme, isSchemeChar c = true := fun c hc => (hchars c hc).1
  have hlower : scheme.map Char.toLower = scheme := by
    conv_rhs => rw [← List.map_id scheme]
    exact List.map_congr_left fun c hc => (hchars c hc).2
  unfold splitScheme?
  rw [Text.takeWhile_append_cons hall (by decide), Text.dropWhile_append_cons hall (by decide)]
  simp only
  rw [hlower]
  subst hcons
  simp only
  rw [if_pos halpha]

theorem readWithAuthority_scheme {scheme s : List Char} {kind : SchemeKind} {url : Url}
    (h : readWithAuthority scheme kind s = .ok url) : url.scheme = String.ofList scheme := by
  unfold readWithAuthority at h
  simp only [bind, Except.bind] at h
  split at h
  · cases h
  · cases h
    rfl

theorem readFile_scheme {scheme s : List Char} {url : Url} (h : readFile scheme s = .ok url) :
    url.scheme = String.ofList scheme := by
  unfold readFile at h
  simp only [bind, Except.bind] at h
  repeat' split at h
  all_goals cases h
  all_goals rfl

/-- The scheme of a URL is the one that its text begins with. -/
theorem Url.scheme_of_read {s scheme r : List Char} {url : Url}
    (hsplit : splitScheme? (relevant s) = some (scheme, r)) (h : Url.read s = .ok url) :
    url.scheme = String.ofList scheme := by
  unfold Url.read at h
  rw [hsplit] at h
  simp only at h
  split at h
  · exact readFile_scheme h
  · exact readWithAuthority_scheme h
  · exact readWithAuthority_scheme h
  · cases h
    rfl

/-! ## Ports -/

theorem readPortFrom_of_digits {s : List Char} (h : ∀ c ∈ s, (Numeral.digit? 10 c).isSome) {n : Nat}
    (hle : s.foldl (fun n c => n * 10 + (Numeral.digit? 10 c).getD 0) n ≤ 65535) :
    readPortFrom n s = .ok (s.foldl (fun n c => n * 10 + (Numeral.digit? 10 c).getD 0) n) := by
  induction s generalizing n with
  | nil => rfl
  | cons c s ih =>
    obtain ⟨hc, hs⟩ := List.forall_mem_cons.1 h
    obtain ⟨d, hd⟩ := Option.isSome_iff_exists.1 hc
    have hfirst := Numeral.le_foldl_digits (by decide : 0 < 10) s (n * 10 + d)
    rw [List.foldl_cons, hd, Option.getD_some] at hle ⊢
    rw [readPortFrom, hd]
    simp only
    rw [if_pos (by omega), ih hs hle]

theorem readPortFrom_le {s : List Char} {n port : Nat} (hn : n ≤ 65535)
    (h : readPortFrom n s = .ok port) : port ≤ 65535 := by
  induction s generalizing n with
  | nil =>
    cases h
    exact hn
  | cons c s ih =>
    rw [readPortFrom] at h
    split at h
    · cases h
    · split at h
      · next hle => exact ih hle h
      · cases h

/-- A port that is written in a URL with this scheme. -/
structure IsPort (scheme : List Char) (port : Nat) : Prop where
  le : port ≤ 65535
  other : defaultPort? scheme ≠ some port

def portText : Option Nat → List Char
  | some port => ':' :: decimalText port
  | none => []

theorem isPort_of_readPort {scheme digits : List Char} {port : Nat}
    (h : readPort scheme digits = .ok (some port)) : IsPort scheme port := by
  unfold readPort at h
  simp only [bind, Except.bind] at h
  split at h
  · cases h
  · next p hp =>
    simp only [pure, Except.pure, Except.ok.injEq] at h
    split at h
    · cases h
    · next hother =>
      cases h
      exact ⟨readPortFrom_le (by decide) hp, fun hdefault => hother (.inr hdefault)⟩

/-- The port of a URL that is written with one: none if it is the scheme's own. -/
def presentPort (scheme : List Char) (port : Option Nat) : Option Nat :=
  port.filter fun p => decide (defaultPort? scheme ≠ some p)

theorem presentPort_some (scheme : List Char) (port : Nat) : presentPort scheme (some port) =
    if defaultPort? scheme = some port then none else some port := by
  unfold presentPort
  rw [Option.filter_some]
  by_cases hdefault : defaultPort? scheme = some port
  · rw [if_pos hdefault, if_neg (by simpa using hdefault)]
  · rw [if_neg hdefault, if_pos (by simpa using hdefault)]

theorem presentPort_of_isPort {scheme : List Char} {port : Option Nat}
    (h : ∀ p ∈ port, IsPort scheme p) : presentPort scheme port = port := by
  cases port with
  | none => rfl
  | some p => rw [presentPort_some, if_neg (h p rfl).other]

theorem readPort_decimalText (scheme : List Char) {port : Nat} (h : port ≤ 65535) :
    readPort scheme (decimalText port) = .ok (presentPort scheme (some port)) := by
  have hdigits := Numeral.isSome_digit?_of_mem_toDigits (by decide : 1 < 10) (by decide) port
  have hvalue := Numeral.foldl_toDigits (by decide : 1 < 10) (by decide) port
  have hread : readPortFrom 0 (decimalText port) = .ok port := by
    have hfrom := readPortFrom_of_digits hdigits (by rw [hvalue]; exact h)
    rwa [hvalue] at hfrom
  have hne : decimalText port ≠ [] := Nat.toDigits_ne_nil
  unfold readPort
  rw [hread]
  show Except.ok (if decimalText port = [] ∨ defaultPort? scheme = some port then none
    else some port) = _
  rw [presentPort_some]
  by_cases hdefault : defaultPort? scheme = some port
  · rw [if_pos (.inr hdefault), if_pos hdefault]
  · rw [if_neg fun h' => h'.elim hne hdefault, if_neg hdefault]

/-! ## Authorities -/

/-- The host and the port of an http-like URL. -/
theorem readAuthority_ok {scheme authority host rest : List Char} {port : Option Nat} {atEnd : Bool}
    (h : readAuthority scheme .special authority atEnd = .ok (host, port, rest)) :
    (∃ text, readHost text = .ok host) ∧ ∀ p ∈ port, IsPort scheme p := by
  unfold readAuthority at h
  simp only [bind, Except.bind, pure, Except.pure] at h
  split at h
  · cases h
  split at h
  · cases h
  rw [if_pos trivial] at h
  split at h
  · cases h
  next hhost =>
  split at h
  · cases h
  split at h
  · cases h
  next hport =>
  split at h
  · cases h
  cases h
  exact ⟨⟨_, hhost⟩, fun p hp => isPort_of_readPort (hp ▸ hport)⟩

theorem not_mem_portText {c : Char} (hcolon : c ≠ ':') (hdigit : Numeral.digit? 10 c = none)
    (port : Option Nat) : c ∉ portText port := by
  cases port with
  | none => exact List.not_mem_nil
  | some port =>
    exact List.not_mem_cons_of_ne_of_not_mem hcolon
      (not_mem_toDigits (by decide) (by decide) hdigit port)

theorem readAuthority_written {scheme host : List Char} {port : Option Nat} (hhost : IsHost host)
    (hport : ∀ p ∈ port, p ≤ 65535) (atEnd : Bool) :
    readAuthority scheme .special (host ++ portText port) atEnd =
      (readHost host).map fun _ => (host, presentPort scheme port, []) := by
  have huser : splitUser (host ++ portText port) = (none, host ++ portText port) := by
    refine if_neg fun hat => ?_
    rcases List.mem_append.1 hat with hat | hat
    · exact absurd (hhost.isHostChar _ hat) (by decide)
    · exact not_mem_portText (by decide) (by decide) port hat
  have hsplit : splitPort false (host ++ portText port) = (host, portText port) := by
    refine hhost.splitPort ?_
    cases port <;> simp [portText]
  have hread : readPort scheme (((portText port).drop 1).takeWhile (· ≠ '\\')) =
        .ok (presentPort scheme port) ∧
      ((portText port).drop 1).dropWhile (· ≠ '\\') = [] := by
    cases port with
    | none => exact ⟨rfl, rfl⟩
    | some port =>
      have hslash : '\\' ∉ decimalText port :=
        not_mem_toDigits (by decide) (by decide) (by decide) port
      have hall : ∀ c ∈ decimalText port, decide (c ≠ '\\') = true :=
        fun c hc => decide_eq_true fun he => hslash (he ▸ hc)
      refine ⟨?_, List.dropWhile_eq_nil_iff.2 hall⟩
      show readPort scheme ((decimalText port).takeWhile _) = _
      rw [List.takeWhile_eq_self_iff.2 hall]
      exact readPort_decimalText scheme (hport port rfl)
  unfold readAuthority
  rw [huser]
  simp only [bind, Except.bind, pure, Except.pure]
  rw [hsplit, if_neg nofun, if_neg fun h => hhost.ne_nil h.2, if_pos trivial]
  simp only
  cases hagain : readHost host with
  | error e => rfl
  | ok again =>
    obtain rfl := hhost.eq_of_readHost hagain
    simp only
    rw [if_neg fun h => hhost.ne_nil h.1, hread.1, hread.2]
    simp only
    rw [if_neg fun h => hhost.ne_nil h.1]
    rfl

/-! ## URLs -/

/-- The schemes that requests are sent with. -/
def IsHttp (scheme : List Char) : Prop := scheme = "http".toList ∨ scheme = "https".toList

theorem IsHttp.special {scheme : List Char} (h : IsHttp scheme) :
    SchemeKind.of scheme = .special := by
  rcases h with rfl | rfl <;> decide

theorem IsHttp.isScheme {scheme : List Char} (h : IsHttp scheme) : IsScheme scheme := by
  have hchars : ["http", "https"].all (fun s => s.toList.all fun c =>
      isSchemeChar c && c.toLower == c) = true := by decide
  simp only [List.all_cons, List.all_nil, Bool.and_true, Bool.and_eq_true, List.all_eq_true,
    beq_iff_eq] at hchars
  rcases h with rfl | rfl
  · exact ⟨⟨'h', _, rfl, by decide⟩, hchars.1⟩
  · exact ⟨⟨'h', _, rfl, by decide⟩, hchars.2⟩

/-- A text that begins with a scheme and two slashes is read as a URL of this scheme, if it is one. -/
theorem Url.scheme_of_read_append {scheme r : List Char} {url : Url} (hscheme : IsScheme scheme)
    (h : Url.read (scheme ++ ':' :: '/' :: '/' :: r) = .ok url) :
    url.scheme = String.ofList scheme := by
  have hvisible : ∀ c ∈ scheme ++ [':', '/', '/'], 0x20 < c.toNat := by
    intro c hc
    rcases List.mem_append.1 hc with hc | hc
    · exact visible_of_isSchemeChar (hscheme.chars c hc).1
    · simp only [List.mem_cons, List.not_mem_nil, or_false] at hc
      rcases hc with rfl | rfl | rfl <;> decide
  have hrelevant := relevant_append (by simp) hvisible r
  rw [List.append_assoc, List.append_assoc] at hrelevant
  exact Url.scheme_of_read ((congrArg splitScheme? hrelevant).trans (splitScheme?_append hscheme _))
    h

theorem Url.isScheme_of_read {s : List Char} {url : Url} (h : Url.read s = .ok url) :
    IsScheme url.scheme.toList := by
  cases hsplit : splitScheme? (relevant s) with
  | none =>
    unfold Url.read at h
    rw [hsplit] at h
    cases h
  | some p =>
    rw [Url.scheme_of_read hsplit h, String.toList_ofList]
    exact isScheme_of_split hsplit

/-- What is read of an http-like URL. -/
structure IsRead (url : Url) (host : String) : Prop where
  host : IsHost host.toList
  port : ∀ p ∈ url.port, IsPort url.scheme.toList p
  path : Resolved url.path.toList

theorem Url.read_http {s : List Char} {url : Url} {host : String} (h : Url.read s = .ok url)
    (hhttp : IsHttp url.scheme.toList) (hhost : url.host = some host) :
    (∃ text, readHost text = .ok host.toList) ∧ (∀ p ∈ url.port, IsPort url.scheme.toList p) ∧
      Resolved url.path.toList := by
  cases hsplit : splitScheme? (relevant s) with
  | none =>
    unfold Url.read at h
    rw [hsplit] at h
    cases h
  | some p =>
    obtain ⟨scheme, r⟩ := p
    have hscheme := Url.scheme_of_read hsplit h
    rw [hscheme, String.toList_ofList] at hhttp
    unfold Url.read at h
    rw [hsplit] at h
    simp only [hhttp.special] at h
    unfold readWithAuthority at h
    simp only [bind, Except.bind] at h
    split at h
    · cases h
    · next v hauthority =>
      obtain ⟨host', port, rest⟩ := v
      cases h
      obtain ⟨⟨text, htext⟩, hport⟩ := readAuthority_ok hauthority
      have hne := (isHost_of_readHost htext).ne_nil
      simp only [hne, ↓reduceIte, Option.some.injEq] at hhost
      subst hhost
      refine ⟨?_, ?_, ?_⟩
      · exact ⟨text, by simpa using htext⟩
      · simpa using hport
      · simpa using resolved_readPath _ _

theorem Url.isRead_of_read {s : List Char} {url : Url} {host : String} (h : Url.read s = .ok url)
    (hhttp : IsHttp url.scheme.toList) (hhost : url.host = some host) : IsRead url host := by
  obtain ⟨⟨text, htext⟩, hport, hpath⟩ := Url.read_http h hhttp hhost
  exact ⟨isHost_of_readHost htext, hport, hpath⟩

def queryText (query : List Char) : List Char := if query = [] then [] else '?' :: query

/-- A character that stands for itself in a query. -/
def isQueryChar (c : Char) : Bool :=
  c.toNat < 0x80 && isQueryByte .special (UInt8.ofNat c.toNat)

theorem isQueryChar_of_isEncodedChar {c : Char} (h : Percent.isEncodedChar c = true) :
    isQueryChar c = true :=
  Utf8.forall_ascii (P := fun c => Percent.isEncodedChar c = true → isQueryChar c = true)
    (by decide +kernel) (Percent.lt_of_isEncodedChar h) h

theorem lt_of_isQueryChar {c : Char} (h : isQueryChar c = true) : 0x20 < c.toNat := by
  have hlt : c.toNat < 0x80 := of_decide_eq_true (Bool.and_eq_true_iff.1 h).1
  exact Utf8.forall_ascii (P := fun c => isQueryChar c = true → 0x20 < c.toNat)
    (by decide +kernel) hlt h

/-- A query is read as it is written. -/
theorem readQuery_queryText {path query : List Char}
    (hpath : ∀ c ∈ path, c = '/' ∨ Percent.isEncodedChar c = true)
    (hquery : ∀ c ∈ query, isQueryChar c = true) :
    readQuery .special (path ++ queryText query) =
      if query = [] then none else some (String.ofList query) := by
  have hnoMark : ∀ c ∈ path, decide (c ≠ '?') = true := by
    intro c hc
    refine decide_eq_true ?_
    rintro rfl
    exact absurd (hpath _ hc) (by decide)
  have hnoHash : ∀ c ∈ path ++ queryText query, decide (c ≠ '#') = true := by
    intro c hc
    refine decide_eq_true ?_
    rintro rfl
    rcases List.mem_append.1 hc with hc | hc
    · exact absurd (hpath _ hc) (by decide)
    · unfold queryText at hc
      split at hc
      · cases hc
      · rcases List.mem_cons.1 hc with hc | hc
        · cases hc
        · exact absurd (hquery _ hc) (by decide)
  unfold readQuery
  rw [List.takeWhile_eq_self_iff.2 hnoHash, List.dropWhile_append_of_pos hnoMark]
  by_cases hempty : query = []
  · rw [if_pos hempty, queryText, if_pos hempty]
    rfl
  · have hkept : Percent.encodeBut (isQueryByte .special) (Utf8.encode query) = query :=
      Percent.encodeBut_of_kept fun c hc =>
        (Bool.and_eq_true_iff.1 (hquery c hc)).imp_left of_decide_eq_true
    rw [if_neg hempty, queryText, if_neg hempty, List.dropWhile_cons_of_neg (by decide)]
    simp only
    rw [hkept]

theorem not_endsAuthority {host : List Char} {port : Option Nat} (hhost : IsHost host)
    {c : Char} (hc : c ∈ host ++ portText port) : (!SchemeKind.special.endsAuthority c) = true := by
  rw [Bool.not_eq_true']
  refine Bool.eq_false_iff.2 fun hends => ?_
  simp only [SchemeKind.endsAuthority, SchemeKind.isSlash, Bool.or_eq_true, Bool.and_eq_true,
    decide_eq_true_eq] at hends
  rcases List.mem_append.1 hc with hc | hc
  · have hchar := hhost.isHostChar c hc
    rcases hends with ((rfl | ⟨rfl, -⟩) | rfl) | rfl <;> exact absurd hchar (by decide)
  · rcases hends with ((rfl | ⟨rfl, -⟩) | rfl) | rfl <;>
      exact not_mem_portText (by decide) (by decide) port hc

/-- What follows the scheme of an http-like URL is read as it is written, if its path is. -/
theorem readWithAuthority_written {scheme host path query : List Char} {port : Option Nat}
    (hhost : IsHost host) (hport : ∀ p ∈ port, p ≤ 65535)
    (hpath : ∀ c ∈ '/' :: path, c = '/' ∨ Percent.isEncodedChar c = true)
    (hread : pathText (readPath .special ('/' :: path ++ queryText query)) = '/' :: path)
    (hquery : ∀ c ∈ query, isQueryChar c = true) :
    readWithAuthority scheme .special (host ++ portText port ++ ('/' :: path ++ queryText query)) =
      (readHost host).map fun _ =>
        { scheme := String.ofList scheme
          host := some (String.ofList host)
          port := presentPort scheme port
          path := String.ofList ('/' :: path)
          query := if query = [] then none else some (String.ofList query) } := by
  have hauthority : ∀ c ∈ host ++ portText port,
      (!SchemeKind.special.endsAuthority c) = true := fun c => not_endsAuthority hhost
  unfold readWithAuthority
  rw [List.cons_append, Text.takeWhile_append_cons hauthority (by decide),
    Text.dropWhile_append_cons hauthority (by decide), ← List.cons_append]
  simp only [readAuthority_written hhost hport, bind, Except.bind, pure, Except.pure]
  cases readHost host with
  | error e => rfl
  | ok again =>
    simp only [Except.map, List.nil_append]
    rw [if_neg hhost.ne_nil, hread, readQuery_queryText hpath hquery]

theorem lt_of_isEncodedChar {c : Char} (h : Percent.isEncodedChar c = true) : 0x20 < c.toNat :=
  Utf8.forall_ascii (P := fun c => Percent.isEncodedChar c = true → 0x20 < c.toNat)
    (by decide +kernel) (Percent.lt_of_isEncodedChar h) h

theorem IsHost.lt {host : List Char} (h : IsHost host) {c : Char} (hc : c ∈ host) :
    0x20 < c.toNat := by
  have hchar := h.isHostChar c hc
  simp only [Web.isHostChar, Bool.and_eq_true, decide_eq_true_eq] at hchar
  exact hchar.1

theorem lt_of_mem_portText {port : Option Nat} {c : Char} (h : c ∈ portText port) :
    0x20 < c.toNat := by
  cases port with
  | none => cases h
  | some port =>
    rcases List.mem_cons.1 h with rfl | h
    · decide
    · have hdigit := Numeral.isSome_digit?_of_mem_toDigits (by decide) (by decide) port c h
      exact Utf8.forall_ascii (P := fun c => (Numeral.digit? 10 c).isSome → 0x20 < c.toNat)
        (by decide) (Numeral.lt_of_isSome_digit? hdigit) hdigit

/-- An http-like URL with a canonical path is read as it is written, less the scheme's own port,
unless its host is refused. -/
theorem Url.read_canonical {scheme host base last query : List Char} {port : Option Nat}
    (hscheme : IsHttp scheme) (hhost : IsHost host) (hport : ∀ p ∈ port, p ≤ 65535)
    (hbase : Resolved base) (hlast : '/' ∉ last)
    (hdots : ¬ IsDots (Signing.segmentName last))
    (hquery : ∀ c ∈ query, isQueryChar c = true) :
    Url.read (scheme ++ ':' :: '/' :: '/' :: (host ++ portText port ++
      (Signing.canonicalPath (base ++ '/' :: last) ++ queryText query))) =
    (readHost host).map fun _ =>
      { scheme := String.ofList scheme
        host := some (String.ofList host)
        port := presentPort scheme port
        path := String.ofList (Signing.canonicalPath (base ++ '/' :: last))
        query := if query = [] then none else some (String.ofList query) } := by
  obtain ⟨segments, hsegments, -⟩ := id hbase
  obtain ⟨path, hpath⟩ : ∃ path, Signing.canonicalPath (base ++ '/' :: last) = '/' :: path :=
    ⟨_, canonicalPath_append hsegments hlast⟩
  have hquestion : ∀ c ∈ (queryText query).head?, c = '?' := by
    unfold queryText
    split <;> simp
  have hread := readPath_canonicalPath hbase hlast hdots hquestion
  have hchars : ∀ c ∈ Signing.canonicalPath (base ++ '/' :: last),
      c = '/' ∨ Percent.isEncodedChar c = true := fun c => mem_canonicalPath
  rw [hpath] at hread hchars ⊢
  have hvisible : ∀ c ∈ scheme ++ ':' :: '/' :: '/' ::
      (host ++ portText port ++ ('/' :: path ++ queryText query)), 0x20 < c.toNat := by
    intro c hc
    rcases List.mem_append.1 hc with hc | hc
    · exact visible_of_isSchemeChar (hscheme.isScheme.chars c hc).1
    simp only [List.mem_cons, List.mem_append] at hc
    rcases hc with rfl | rfl | rfl | (hc | hc) | (rfl | hc) | hc
    · decide
    · decide
    · decide
    · exact hhost.lt hc
    · exact lt_of_mem_portText hc
    · decide
    · rcases hchars c (List.mem_cons_of_mem _ hc) with rfl | hc
      · decide
      · exact lt_of_isEncodedChar hc
    · unfold queryText at hc
      split at hc
      · cases hc
      · rcases List.mem_cons.1 hc with rfl | hc
        · decide
        · exact lt_of_isQueryChar (hquery c hc)
  have hslashes : ('/' :: '/' :: (host ++ portText port ++
      ('/' :: path ++ queryText query))).dropWhile SchemeKind.special.isSlash =
        host ++ portText port ++ ('/' :: path ++ queryText query) := by
    obtain ⟨c, r, hcons⟩ := List.exists_cons_of_ne_nil hhost.ne_nil
    have hc : SchemeKind.special.isSlash c = false := by
      have hmem : c ∈ host ++ portText port := by
        rw [hcons]
        exact List.mem_cons_self
      have hends := not_endsAuthority hhost hmem
      simp only [SchemeKind.endsAuthority, Bool.not_eq_true', Bool.or_eq_false_iff] at hends
      exact hends.1.1
    rw [hcons, List.cons_append, List.cons_append, List.dropWhile_cons_of_pos (by decide),
      List.dropWhile_cons_of_pos (by decide), List.dropWhile_cons_of_neg (by simp [hc])]
  unfold Url.read
  rw [relevant_of_visible (by simp) hvisible, splitScheme?_append hscheme.isScheme]
  simp only [hscheme.special]
  rw [hslashes, readWithAuthority_written hhost hport hchars hread hquery]

/-! ## Targets -/

theorem Request.target_ok {r : Request} {url : Url} (h : r.target = .ok url) :
    Url.parse r.url = .ok url ∧ IsHttp url.scheme.toList := by
  unfold Request.target at h
  split at h
  · cases h
  split at h
  · cases h
  next url' hparse =>
  split at h
  · next hscheme =>
    cases h
    exact ⟨hparse, hscheme.imp (congrArg String.toList) (congrArg String.toList)⟩
  · cases h

theorem Request.target_of_parse {r : Request} {url : Url}
    (hheaders : ∀ h ∈ r.headers, ∀ x ∈ h.2.toList, isHeaderChar x = true)
    (hparse : Url.parse r.url = .ok url) (hhttp : IsHttp url.scheme.toList) :
    r.target = .ok url := by
  have hbad : (r.headers.any fun h => h.2.toList.any (!isHeaderChar ·)) = false := by
    refine List.any_eq_false.2 fun h hh => ?_
    rw [Bool.not_eq_true]
    refine List.any_eq_false.2 fun x hx => ?_
    simp [hheaders h hh x hx]
  have hscheme : url.scheme = "http" ∨ url.scheme = "https" :=
    hhttp.imp (String.toList_inj.1 ·) (String.toList_inj.1 ·)
  unfold Request.target
  rw [hbad, hparse]
  simp only [if_pos hscheme]
  rfl

end BucketAccess.Web
