import BucketAccess.Proofs.Encoding.Percent
import BucketAccess.Proofs.Web.Address
import BucketAccess.Proofs.Web.Domain
import BucketAccess.Web.Url

/-!
# Hosts that are read again

The form that a host is written in has nothing in it that ends a host in a URL, and it is its own
form: reading it gives the same host, unless it is refused. An address is never refused; a domain is
if a label of it, which was written in Punycode, became too long.
-/

namespace BucketAccess.Web

open Text

/-- The forms of hosts. -/
inductive IsHost : List Char → Prop where
  | ipv6 {groups : List Nat} : IsIpv6 groups → IsHost ('[' :: (ipv6Text groups ++ [']']))
  | ipv4 {address : Nat} : address < 4294967296 → IsHost (ipv4Text address)
  | domain {s : List Char} : s ≠ [] → (∀ c ∈ s, isForbiddenInDomain c = false) → NoCapitals s →
      endsInNumber s = false → IsHost s

variable {s host again : List Char}

/-! ## Characters -/

theorem isForbiddenInDomain_of_digit? {c : Char} (h : (Numeral.digit? 16 c).isSome) :
    isForbiddenInDomain c = false :=
  Utf8.forall_ascii
    (P := fun c => (Numeral.digit? 16 c).isSome → isForbiddenInDomain c = false) (by decide)
    (Numeral.lt_of_isSome_digit? h) h

/-- A decimal digit is allowed in a domain and is no capital letter. -/
theorem allowed_of_decimal {c : Char} (h : (Numeral.digit? 10 c).isSome) :
    isForbiddenInDomain c = false ∧ c.isUpper = false :=
  Utf8.forall_ascii
    (P := fun c => (Numeral.digit? 10 c).isSome → isForbiddenInDomain c = false ∧ c.isUpper = false)
    (by decide) (Numeral.lt_of_isSome_digit? h) h

theorem lt_of_isForbiddenInDomain {c : Char} (h : isForbiddenInDomain c = false) :
    c.toNat < 128 := by
  simp only [isForbiddenInDomain, Bool.or_eq_false_iff, decide_eq_false_iff_not] at h
  omega

/-- A character that no part of a URL but the host ends with, or begins with. -/
def isHostChar (c : Char) : Bool :=
  0x20 < c.toNat && !"/\\?#@".toList.contains c

theorem isHostChar_of_isForbiddenInDomain {c : Char} (h : isForbiddenInDomain c = false) :
    isHostChar c = true :=
  Utf8.forall_ascii (P := fun c => isForbiddenInDomain c = false → isHostChar c = true)
    (by decide +kernel) (lt_of_isForbiddenInDomain h) h

theorem mem_ipv4Text {address : Nat} {c : Char} (h : c ∈ ipv4Text address) :
    c = '.' ∨ (Numeral.digit? 10 c).isSome := by
  have hdigit : ∀ n, c ∈ decimalText n → (Numeral.digit? 10 c).isSome :=
    fun n => Numeral.isSome_digit?_of_mem_toDigits (by decide) (by decide) n c
  unfold ipv4Text at h
  simp only [List.mem_append, List.mem_cons] at h
  rcases h with ((h | h | h) | h | h) | h | h
  · exact .inr (hdigit _ h)
  · exact .inl h
  · exact .inr (hdigit _ h)
  · exact .inl h
  · exact .inr (hdigit _ h)
  · exact .inl h
  · exact .inr (hdigit _ h)

theorem isForbiddenInDomain_ipv4Text (address : Nat) :
    ∀ c ∈ ipv4Text address, isForbiddenInDomain c = false := by
  intro c hc
  rcases mem_ipv4Text hc with rfl | h
  · decide
  · exact (allowed_of_decimal h).1

theorem noCapitals_ipv4Text (address : Nat) : NoCapitals (ipv4Text address) := by
  intro c hc
  rcases mem_ipv4Text hc with rfl | h
  · decide
  · exact (allowed_of_decimal h).2

theorem IsHost.isHostChar (h : IsHost host) : ∀ c ∈ host, isHostChar c = true := by
  cases h with
  | ipv6 =>
    intro c hc
    rcases List.mem_cons.1 hc with rfl | hc
    · decide
    rcases List.mem_append.1 hc with hc | hc
    · rcases mem_ipv6Text hc with rfl | hc
      · decide
      · exact isHostChar_of_isForbiddenInDomain (isForbiddenInDomain_of_digit? hc)
    · rw [List.mem_singleton.1 hc]
      decide
  | ipv4 =>
    exact fun c hc => isHostChar_of_isForbiddenInDomain (isForbiddenInDomain_ipv4Text _ c hc)
  | domain _ hchars => exact fun c hc => isHostChar_of_isForbiddenInDomain (hchars c hc)

theorem IsHost.ne_nil (h : IsHost host) : host ≠ [] := by
  cases h with
  | ipv6 => simp
  | ipv4 => simp [ipv4Text]
  | domain hne => exact hne

/-! ## Ports -/

theorem splitPort_cons {inBrackets : Bool} {c : Char} (h : c = ':' → inBrackets = true)
    (r : List Char) : splitPort inBrackets (c :: r) =
      let (host, rest) :=
        splitPort (if c = '[' then true else if c = ']' then false else inBrackets) r
      (c :: host, rest) := by
  rw [splitPort, if_neg]
  rintro ⟨hc, hb⟩
  rw [h hc] at hb
  cases hb

theorem splitPort_append {inBrackets : Bool}
    (h : ∀ c ∈ s, c ≠ '[' ∧ c ≠ ']' ∧ (c = ':' → inBrackets = true)) (r : List Char) :
    splitPort inBrackets (s ++ r) =
      (s ++ (splitPort inBrackets r).1, (splitPort inBrackets r).2) := by
  induction s with
  | nil => rfl
  | cons c s ih =>
    obtain ⟨⟨hopen, hclose, hcolon⟩, hs⟩ := List.forall_mem_cons.1 h
    rw [List.cons_append, splitPort_cons hcolon, if_neg hopen, if_neg hclose, ih hs]
    rfl

/-- A host ends where a port begins. -/
theorem IsHost.splitPort (h : IsHost host) {r : List Char} (hr : ∀ c ∈ r.head?, c = ':') :
    splitPort false (host ++ r) = (host, r) := by
  have hrest : Web.splitPort false r = ([], r) := by
    cases r with
    | nil => rfl
    | cons c r =>
      obtain rfl := hr c rfl
      rfl
  have hplain : ∀ s : List Char, (∀ c ∈ s, isForbiddenInDomain c = false) →
      Web.splitPort false (s ++ r) = (s, r) := by
    intro s hs
    rw [splitPort_append, hrest, List.append_nil]
    intro c hc
    have hallowed := hs c hc
    refine ⟨?_, ?_, ?_⟩ <;>
    · rintro rfl
      exact absurd hallowed (by decide)
  cases h with
  | @ipv6 groups =>
    have hbrackets : ∀ c ∈ ipv6Text groups, c ≠ '[' ∧ c ≠ ']' ∧ (c = ':' → true = true) := by
      intro c hc
      rcases mem_ipv6Text hc with rfl | hc
      · exact ⟨by decide, by decide, fun _ => rfl⟩
      · refine ⟨?_, ?_, fun _ => rfl⟩ <;>
        · rintro rfl
          exact absurd hc (by decide)
    have hinner := splitPort_append hbrackets (']' :: r)
    rw [splitPort_cons (c := ']') (by decide), if_neg (by decide), if_pos rfl, hrest] at hinner
    rw [List.cons_append, splitPort_cons (c := '[') (by decide), if_pos rfl, List.append_assoc,
      List.singleton_append, hinner]
  | ipv4 => exact hplain _ (isForbiddenInDomain_ipv4Text _)
  | domain _ hchars => exact hplain _ hchars

/-! ## Reading -/

theorem isHost_of_readBracketed (h : readBracketed s = .ok host) : IsHost host := by
  obtain ⟨groups, hgroups, rfl⟩ := readBracketed_ok h
  exact .ipv6 hgroups

/-- A host is an address in brackets, an address that a domain is, or the domain itself. -/
theorem readHost_ok (h : readHost s = .ok host) : readBracketed s = .ok host ∨
    ∃ text domain, domainAscii? text = some domain ∧ domain ≠ [] ∧
      (∀ c ∈ domain, isForbiddenInDomain c = false) ∧
      ((∃ address, readIpv4 domain = .ok address ∧ host = ipv4Text address) ∨
        endsInNumber domain = false ∧ host = domain) := by
  unfold readHost at h
  split at h
  · exact .inl h
  split at h
  · cases h
  next domain hdomain =>
  split at h
  · cases h
  next hforbidden =>
  split at h
  · cases h
  next hne =>
  rw [Bool.not_eq_true] at hforbidden
  have hchars : ∀ c ∈ domain, isForbiddenInDomain c = false := by
    intro c hc
    simpa using List.any_eq_false.1 hforbidden c hc
  refine .inr ⟨_, domain, hdomain, hne, hchars, ?_⟩
  split at h
  · cases hread : readIpv4 domain with
    | error e =>
      rw [hread] at h
      cases h
    | ok address =>
      rw [hread] at h
      cases h
      exact .inl ⟨address, rfl, rfl⟩
  · next hnumber =>
    cases h
    exact .inr ⟨Bool.eq_false_iff.2 hnumber, rfl⟩

theorem isHost_of_readHost (h : readHost s = .ok host) : IsHost host := by
  rcases readHost_ok h with h | ⟨text, domain, hdomain, hne, hchars, ⟨address, hread, rfl⟩ |
    ⟨hnumber, rfl⟩⟩
  · exact isHost_of_readBracketed h
  · exact .ipv4 (readIpv4_lt hread)
  · exact .domain hne hchars (noCapitals_domainAscii? hdomain) hnumber

theorem endsInNumber_ipv4Text (address : Nat) : endsInNumber (ipv4Text address) = true := by
  have hdigits : allDigits 10 (decimalText (address % 256)) = true :=
    allDigits_toDigits (by decide) (by decide) _
  have hne : decimalText (address % 256) ≠ [] := Nat.toDigits_ne_nil
  unfold endsInNumber
  rw [labels_ipv4Text]
  simp only [List.getLast?_cons_cons, List.getLast?_singleton]
  rw [hdigits, Bool.true_or]

/-- A text in ASCII is read as the domain or the address that it is, if it is a domain. -/
theorem readHost_plain (hne : s ≠ []) (hchars : ∀ c ∈ s, isForbiddenInDomain c = false)
    (hcapitals : NoCapitals s) : readHost s =
      if domainAscii? s = some s then
        if endsInNumber s then ipv4Text <$> readIpv4 s else .ok s
      else .error .badDomain := by
  have hbracket : s.head? ≠ some '[' := by
    intro hhead
    have hallowed := hchars _ (List.mem_of_mem_head? hhead)
    exact absurd hallowed (by decide)
  have hpercent : '%' ∉ s := fun hmem => absurd (hchars _ hmem) (by decide)
  have hascii : ∀ c ∈ s, c.toNat < 128 := fun c hc => lt_of_isForbiddenInDomain (hchars c hc)
  have htext : Utf8.lossyChars (Percent.decode s) = s := by
    rw [Percent.decode_eq_encode (Percent.hasEscape_of_not_mem hpercent), Utf8.lossyChars_encode]
  have hany : s.any isForbiddenInDomain = false := by
    rw [List.any_eq_false]
    intro c hc
    simp [hchars c hc]
  unfold readHost
  rw [if_neg hbracket, htext]
  cases hdomain : domainAscii? s with
  | none => rfl
  | some domain =>
    obtain rfl := domainAscii?_of_ascii hascii hcapitals hdomain
    simp only [if_pos]
    rw [if_neg (by simp [hany]), if_neg hne]

/-- The form of a host is its own. -/
theorem IsHost.eq_of_readHost (h : IsHost host) (hread : readHost host = .ok again) :
    again = host := by
  cases h with
  | ipv6 hgroups =>
    have hbracketed := readBracketed_ipv6Text hgroups
    unfold readHost at hread
    rw [if_pos (by rfl), hbracketed] at hread
    cases hread
    rfl
  | @ipv4 address haddress =>
    rw [readHost_plain (by simp [ipv4Text]) (isForbiddenInDomain_ipv4Text address)
      (noCapitals_ipv4Text address), if_pos (endsInNumber_ipv4Text address),
      readIpv4_ipv4Text haddress] at hread
    split at hread
    · cases hread
      rfl
    · cases hread
  | domain hne hchars hcapitals hnumber =>
    rw [readHost_plain hne hchars hcapitals, hnumber, if_neg (by decide : ¬ false = true)] at hread
    split at hread
    · cases hread
      rfl
    · cases hread

/-! ## Hosts that are accepted again -/

theorem x_not_mem_ipv4Text (address : Nat) : 'x' ∉ ipv4Text address := by
  intro hx
  rcases mem_ipv4Text hx with hx | hx
  · exact absurd hx (by decide)
  · exact absurd hx (by decide)

/-- The form of a host is a host exactly if it has no label that is too long. -/
theorem readHost_again_iff (h : readHost s = .ok host) :
    readHost host = .ok host ↔ HasShortLabels host := by
  rcases readHost_ok h with h | ⟨text, domain, hdomain, hne, hchars, ⟨address, hread, rfl⟩ |
    ⟨hnumber, rfl⟩⟩
  · obtain ⟨groups, hgroups, rfl⟩ := readBracketed_ok h
    refine iff_of_true ?_ (hasShortLabels_of_not_mem ?_)
    · unfold readHost
      rw [if_pos (by rfl)]
      exact readBracketed_ipv6Text hgroups
    · intro hx
      rcases List.mem_cons.1 hx with hx | hx
      · exact absurd hx (by decide)
      · rcases List.mem_append.1 hx with hx | hx
        · rcases mem_ipv6Text hx with hx | hx
          · exact absurd hx (by decide)
          · exact absurd hx (by decide)
        · exact absurd hx (by decide)
  · have hchars := isForbiddenInDomain_ipv4Text address
    have hcapitals := noCapitals_ipv4Text address
    have hx := x_not_mem_ipv4Text address
    have hascii : ∀ c ∈ ipv4Text address, c.toNat < 128 :=
      fun c hc => lt_of_isForbiddenInDomain (hchars c hc)
    refine iff_of_true ?_ (hasShortLabels_of_not_mem hx)
    rw [readHost_plain (by simp [ipv4Text]) hchars hcapitals,
      if_pos (domainAscii?_plain hascii hcapitals hx), if_pos (endsInNumber_ipv4Text address),
      readIpv4_ipv4Text (readIpv4_lt hread)]
    rfl
  · have hascii : ∀ c ∈ host, c.toNat < 128 :=
      fun c hc => lt_of_isForbiddenInDomain (hchars c hc)
    rw [readHost_plain hne hchars (noCapitals_domainAscii? hdomain), hnumber,
      if_neg (by decide : ¬ false = true), ← domainAscii?_again_iff hdomain hascii]
    by_cases hagain : domainAscii? host = some host
    · exact iff_of_true (if_pos hagain) hagain
    · rw [if_neg hagain]
      exact iff_of_false nofun hagain

end BucketAccess.Web
