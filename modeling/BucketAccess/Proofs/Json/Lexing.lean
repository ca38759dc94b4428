import BucketAccess.Proofs.Json.Grammar
import BucketAccess.Proofs.Text.Scanner
import Mathlib.Data.List.Basic

/-!
# Texts of the grammar are read as their drafts

What the scanner and the reader make of a value of the grammar, whatever stands around it. A number
ends where something follows that stops it, which is so for every value in a container and for a
whole text.
-/

namespace BucketAccess.Json

/-! ## Numbers -/

/-- What may follow a value. -/
def IsStop (c : Char) : Prop := c = ',' ∨ c = ']' ∨ c = '\x7d' ∨ isBlank c

/-- The text is over or goes on with something that ends a value. -/
def Stops (rest : List Char) : Prop := ∀ c ∈ rest.head?, IsStop c

theorem digit?_digitChar {d : Nat} (h : d < 10) : digit? (Numeral.digitChar d) = some d := by
  have all : ∀ d < 10, digit? (Numeral.digitChar d) = some d := by decide
  exact all d h

namespace Partial

/-- What further characters make of a number in part. -/
abbrev Leads (p : Partial) (t : List Char) (q : Partial) : Prop := BucketAccess.Leads next? p t q

/-- Digits that are collected, the last first. -/
theorem leads_digits {K : List Nat → Partial}
    (h : ∀ seen, ∀ d < 10, (K seen).next? (Numeral.digitChar d) = some (K (d :: seen)))
    {digits : List Nat} (hd : ∀ d ∈ digits, d < 10) (seen : List Nat) :
    Leads (K seen) (digitChars digits) (K (digits.reverse ++ seen)) := by
  induction digits generalizing seen with
  | nil => exact .nil
  | cons d digits ih =>
    rw [List.forall_mem_cons] at hd
    have rest := ih hd.2 (d :: seen)
    rw [List.reverse_cons, List.append_assoc, List.singleton_append]
    exact .cons (h seen d hd.1) rest

/-- What a number begins with, and what it is then. -/
def Starts (t : List Char) (p : Partial) : Prop :=
  ∃ c r q, t = c :: r ∧ first? c = some q ∧ Leads q r p

theorem Starts.append {t u : List Char} {p q : Partial} (h : Starts t p) (hu : Leads p u q) :
    Starts (t ++ u) q := by
  obtain ⟨c, r, s, rfl, hf, hl⟩ := h
  exact ⟨c, r ++ u, s, rfl, hf, hl.append hu⟩

theorem first?_digitChar {d : Nat} (h : d < 10) :
    first? (Numeral.digitChar d) =
      some ⟨if d = 0 then .zero else .whole, false, [d], [], false, []⟩ := by
  rw [first?, digit?_digitChar h]
  cases d <;> rfl

theorem next?_minus {d : Nat} (h : d < 10) :
    next? ⟨.minus, true, [], [], false, []⟩ (Numeral.digitChar d) =
      some ⟨if d = 0 then .zero else .whole, true, [d], [], false, []⟩ := by
  simp only [next?, digit?_digitChar h]
  cases d <;> rfl

theorem next?_whole {negative : Bool} (seen : List Nat) {d : Nat} (h : d < 10) :
    next? ⟨.whole, negative, seen, [], false, []⟩ (Numeral.digitChar d) =
      some ⟨.whole, negative, d :: seen, [], false, []⟩ := by
  simp only [next?, digit?_digitChar h]

/-- The sign and the digits before the point. -/
theorem starts_whole {whole : List Nat} (negative : Bool) (h : IsDigits whole)
    (zero : whole.head? = some 0 → whole = [0]) :
    Starts ((if negative then ['-'] else []) ++ digitChars whole)
      ⟨if whole = [0] then .zero else .whole, negative, whole.reverse, [], false, []⟩ := by
  obtain ⟨d, more, rfl⟩ := List.exists_cons_of_ne_nil h.1
  have hd := List.forall_mem_cons.1 h.2
  have rest : Leads ⟨if d = 0 then .zero else .whole, negative, [d], [], false, []⟩
      (digitChars more)
      ⟨if d :: more = [0] then .zero else .whole, negative, (d :: more).reverse, [], false,
        []⟩ := by
    by_cases e : d = 0
    · obtain ⟨-, rfl⟩ := List.cons.inj (zero (by simp [e]))
      simpa [e] using Leads.nil
    · have := leads_digits (K := fun seen => ⟨.whole, negative, seen, [], false, []⟩)
        (fun seen d hd => next?_whole seen hd) hd.2 [d]
      simpa [e] using this
  cases negative with
  | true => exact ⟨'-', _, _, rfl, rfl, .cons (next?_minus hd.1) rest⟩
  | false => exact ⟨_, _, _, rfl, first?_digitChar hd.1, rest⟩

theorem leads_fraction {fraction : List Nat} {f : List Char} (h : FractionText fraction f)
    {phase : Phase} (hp : phase = .zero ∨ phase = .whole) (negative : Bool) (whole : List Nat) :
    Leads ⟨phase, negative, whole, [], false, []⟩ f
      ⟨if fraction = [] then phase else .fraction, negative, whole, fraction.reverse, false,
        []⟩ := by
  cases h with
  | none => exact .nil
  | some hd =>
    obtain ⟨d, more, rfl⟩ := List.exists_cons_of_ne_nil hd.1
    have hd := List.forall_mem_cons.1 hd.2
    have point : next? ⟨phase, negative, whole, [], false, []⟩ '.' =
        some ⟨.point, negative, whole, [], false, []⟩ := by
      rcases hp with rfl | rfl <;> rfl
    refine .cons point (.cons (q := ⟨.fraction, negative, whole, [d], false, []⟩) ?_ ?_)
    · simp only [next?, digit?_digitChar hd.1]
    · have := leads_digits (K := fun seen => ⟨.fraction, negative, whole, seen, false, []⟩)
        (fun seen d hd => by simp only [next?, digit?_digitChar hd]) hd.2 [d]
      simpa [digitChars] using this

theorem leads_exponent {exponent : Option (Bool × List Nat)} {e : List Char}
    (h : ExponentText exponent e) {phase : Phase}
    (hp : phase = .zero ∨ phase = .whole ∨ phase = .fraction) (negative : Bool)
    (whole fraction : List Nat) :
    Leads ⟨phase, negative, whole, fraction, false, []⟩ e
      ⟨if exponent.isSome then .exponent else phase, negative, whole, fraction,
        (exponent.map (·.1)).getD false, ((exponent.map (·.2)).getD []).reverse⟩ := by
  cases h with
  | none => exact .nil
  | @some mark down sign digits hm hs hd =>
    obtain ⟨d, more, rfl⟩ := List.exists_cons_of_ne_nil hd.1
    have hd := List.forall_mem_cons.1 hd.2
    have marked : next? ⟨phase, negative, whole, fraction, false, []⟩ mark =
        some ⟨.mark, negative, whole, fraction, false, []⟩ := by
      rcases hm with rfl | rfl <;> rcases hp with rfl | rfl | rfl <;> rfl
    have digits (phase : Phase) (hp : phase = .mark ∨ phase = .sign) :
        Leads ⟨phase, negative, whole, fraction, down, []⟩ (digitChars (d :: more))
          ⟨.exponent, negative, whole, fraction, down, (d :: more).reverse⟩ := by
      refine .cons (q := ⟨.exponent, negative, whole, fraction, down, [d]⟩) ?_ ?_
      · rcases hp with rfl | rfl <;> simp only [next?, digit?_digitChar hd.1]
      · have := leads_digits (K := fun seen => ⟨.exponent, negative, whole, fraction, down, seen⟩)
          (fun seen d hd => by simp only [next?, digit?_digitChar hd]) hd.2 [d]
        simpa [digitChars] using this
    refine .cons marked ?_
    cases hs with
    | none => exact digits .mark (.inl rfl)
    | plus =>
      exact .cons (q := ⟨.sign, negative, whole, fraction, false, []⟩) rfl
        (digits .sign (.inr rfl))
    | minus =>
      exact .cons (q := ⟨.sign, negative, whole, fraction, true, []⟩) rfl
        (digits .sign (.inr rfl))

/-- A number of the grammar, with its last digit read. -/
theorem starts_number {l : Literal} {t : List Char} (h : NumberText l t) :
    ∃ p, Starts t p ∧ p.literal = l ∧ p.phase.complete := by
  obtain ⟨hw, zero, hf, he⟩ := h
  rename_i negative whole fraction exponent f e
  have start := starts_whole negative hw zero
  have first : (if whole = [0] then Phase.zero else .whole) = .zero ∨
      (if whole = [0] then Phase.zero else .whole) = .whole := by
    split <;> simp
  generalize (if whole = [0] then Phase.zero else .whole) = phase at start first
  have middle := leads_fraction hf first negative whole.reverse
  have second : (if fraction = [] then phase else .fraction) = .zero ∨
      (if fraction = [] then phase else .fraction) = .whole ∨
      (if fraction = [] then phase else .fraction) = .fraction := by
    split
    · exact first.imp_right .inl
    · exact .inr (.inr rfl)
  generalize (if fraction = [] then phase else .fraction) = phase at middle second
  have last := leads_exponent he second negative whole.reverse fraction.reverse
  rw [← List.append_assoc]
  refine ⟨_, start.append (middle.append last), ?_, ?_⟩
  · cases exponent <;> rcases second with rfl | rfl | rfl <;> simp [literal]
  · cases exponent <;> rcases second with rfl | rfl | rfl <;> rfl

theorem digit?_of_isStop {c : Char} (h : IsStop c) : digit? c = none := by
  simp only [IsStop, isBlank, Bool.or_eq_true, decide_eq_true_eq] at h
  rcases h with rfl | rfl | rfl | ((rfl | rfl) | rfl) | rfl <;> decide

theorem next?_of_isStop {p : Partial} (hp : p.phase.complete) {c : Char} (h : IsStop c) :
    p.next? c = none := by
  have mark : ¬ c = '.' ∧ ¬ (c = 'e' ∨ c = 'E') := by
    simp only [IsStop, isBlank, Bool.or_eq_true, decide_eq_true_eq] at h
    rcases h with rfl | rfl | rfl | ((rfl | rfl) | rfl) | rfl <;> decide
  simp only [next?, digit?_of_isStop h]
  cases e : p.phase <;> simp_all [Phase.complete]

theorem finish_eq {p : Partial} (hp : p.phase.complete) {next : Option Char}
    (h : ∀ c ∈ next, digit? c = none) : p.finish next = p.literal.draft := by
  have digit : (next.bind digit?).isSome = false := by
    cases next with
    | none => rfl
    | some c => simp [h c rfl]
  cases e : p.literal.number? <;> simp [finish, hp, digit, Literal.draft, e]

end Partial

/-! ## Scalars -/

theorem scan_cons (s : State) (c : Char) (r : List Char) : Token.scan s (c :: r) =
    (s.step c).1 ++ ((s.step c).2.map (Token.scan · r)).getD [] := by
  rw [Token.scan]
  rcases s.step c with ⟨tokens, - | next⟩ <;> simp

theorem scan_leads {p q : Partial} {t : List Char} (h : p.Leads t q) (rest : List Char) :
    Token.scan (.number p) (t ++ rest) = Token.scan (.number q) rest := by
  induction t generalizing p with
  | nil => cases h; rfl
  | cons c t ih =>
    obtain ⟨mid, hm, h⟩ := Leads.cons_iff.1 h
    rw [List.cons_append, Token.scan, State.step, hm]
    exact ih h

theorem start_of_first? {c : Char} {p : Partial} (h : Partial.first? c = some p) :
    State.start c = ([], some (.number p)) := by
  have none_first : [' ', '\t', '\n', '\r', '"', 'n', 't', 'f'].all
      fun d => (Partial.first? d).isNone := by decide
  have other : ∀ d ∈ [' ', '\t', '\n', '\r', '"', 'n', 't', 'f'], c ≠ d := by
    rintro d hd rfl
    have := List.all_eq_true.1 none_first c hd
    rw [h] at this
    cases this
  simp only [List.forall_mem_cons, List.not_mem_nil, false_implies, implies_true, and_true]
    at other
  simp [State.start, isBlank, other, h]

/-- A number ends where it is stopped. -/
theorem scan_number {l : Literal} {t : List Char} (h : NumberText l t) {rest : List Char}
    (hr : Stops rest) :
    Token.scan .between (t ++ rest) = .scalar l.draft :: Token.scan .between rest := by
  obtain ⟨p, ⟨c, r, q, rfl, hf, hl⟩, literal, complete⟩ := Partial.starts_number h
  rw [List.cons_append, Token.scan, State.step, start_of_first? hf]
  simp only [List.nil_append]
  rw [scan_leads hl]
  cases rest with
  | nil =>
    rw [Token.scan, State.finish, Partial.finish_eq complete (by simp), literal]
    rfl
  | cons c rest =>
    have stop : IsStop c := hr c rfl
    have digit : ∀ d ∈ some c, digit? d = none := by
      rintro _ ⟨⟩
      exact Partial.digit?_of_isStop stop
    have step : (State.number p).step c =
        (.scalar l.draft :: (State.start c).1, (State.start c).2) := by
      rw [State.step, Partial.next?_of_isStop complete stop, Partial.finish_eq complete digit,
        literal, Literal.draft]
      cases l.number? <;> rfl
    rw [scan_cons, step, scan_cons .between, State.step]
    rfl

/-- Four digits after `\u` are a unit. -/
theorem scan_unit {e f g h : Char} {i j k l : Nat} (he : Hex.digitValue? e = some i)
    (hf : Hex.digitValue? f = some j) (hg : Hex.digitValue? g = some k)
    (hh : Hex.digitValue? h = some l) (seen : List Piece) (r : List Char) :
    Token.scan (.string seen) ('\\' :: 'u' :: e :: f :: g :: h :: r) =
      Token.scan (.string (.unit (((i * 16 + j) * 16 + k) * 16 + l) :: seen)) r := by
  have start (r : List Char) : Token.scan (.string seen) ('\\' :: 'u' :: r) =
      Token.scan (.hex seen 0 0) r := rfl
  have step {n v d : Nat} {c : Char} (hd : Hex.digitValue? c = some d) (hn : n ≠ 3)
      (r : List Char) : Token.scan (.hex seen n v) (c :: r) =
        Token.scan (.hex seen (n + 1) (v * 16 + d)) r := by
    rw [Token.scan, State.step, hd]
    simp only
    rw [if_neg hn]
    rfl
  have last {v d : Nat} {c : Char} (hd : Hex.digitValue? c = some d) (r : List Char) :
      Token.scan (.hex seen 3 v) (c :: r) =
        Token.scan (.string (.unit (v * 16 + d) :: seen)) r := by
    rw [Token.scan, State.step, hd]
    rfl
  rw [start, step he (by decide), step hf (by decide), step hg (by decide), last hh, Nat.zero_mul,
    Nat.zero_add]

/-- A string ends at its quote. -/
theorem scan_string {pieces : List Piece} {t : List Char} (h : StringText pieces t)
    (seen : List Piece) (rest : List Char) :
    Token.scan (.string seen) (t ++ '"' :: rest) =
      .string (Draft.ofPieces (seen.reverse ++ pieces)) :: Token.scan .between rest := by
  induction h generalizing seen with
  | nil => simp [Token.scan, State.step]
  | @char c pieces t quote slash low _ ih =>
    rw [List.cons_append, Token.scan, State.step, if_neg quote, if_neg slash, if_neg (by omega)]
    simp only [List.nil_append]
    rw [ih]
    simp
  | @escape e c pieces t he _ ih =>
    have notU : e ≠ 'u' := by rintro rfl; cases he
    have step : (State.escape seen).step e = ([], some (.string (.char c :: seen))) := by
      rw [State.step, if_neg notU, he]
    rw [List.cons_append, List.cons_append, Token.scan, State.step, if_neg (by decide),
      if_pos rfl]
    simp only [List.nil_append]
    rw [Token.scan, step]
    simp only [List.nil_append]
    rw [ih]
    simp
  | unit he hf hg hh _ ih =>
    simp only [List.cons_append]
    rw [scan_unit he hf hg hh, ih]
    simp

theorem scan_blank {b : List Char} (h : Blank b) (rest : List Char) :
    Token.scan .between (b ++ rest) = Token.scan .between rest := by
  induction b with
  | nil => rfl
  | cons c b ih =>
    simp only [Blank, List.all_cons, Bool.and_eq_true] at h
    rw [List.cons_append, Token.scan, State.step, State.start, if_pos h.1]
    exact ih h.2

/-! ## Values -/

/-- What the reader makes of the tokens after a step. -/
def Step.then (s : Step) (tokens : List Token) : Draft × List Token :=
  match s with
  | .next frames expected => readTokens frames expected tokens
  | .done d => (d, tokens)
  | .broken d => (d, [])

theorem readTokens_cons (frames : List Frame) (expected : Expected) (t : Token)
    (r : List Token) : readTokens frames expected (t :: r) = (step frames expected t).then r := rfl

/-- The text is read as the draft wherever a value is expected. -/
def ReadsAs (d : Draft) (t : List Char) : Prop :=
  ∀ frames expected rest, expected = .value ∨ expected = .item → Stops rest →
    readTokens frames expected (Token.scan .between (t ++ rest)) =
      (Step.value d frames).then (Token.scan .between rest)

theorem step_string (frames : List Frame) {expected : Expected}
    (he : expected = .value ∨ expected = .item) (pieces : List Piece) :
    step frames expected (.string (Draft.ofPieces pieces)) =
      .value (Draft.ofPieces pieces) frames := by
  unfold Draft.ofPieces
  cases joinPieces none pieces <;> rcases he with rfl | rfl <;> rfl

theorem readsAs_number {l : Literal} {t : List Char} (h : NumberText l t) :
    ReadsAs l.draft t := by
  intro frames expected rest he hr
  have stepped : step frames expected (.scalar l.draft) = .value l.draft frames := by
    unfold Literal.draft
    cases l.number? <;> rcases he with rfl | rfl <;> rfl
  rw [scan_number h hr, readTokens_cons, stepped]

theorem scan_quote (r : List Char) :
    Token.scan .between ('"' :: r) = Token.scan (.string []) r := rfl

theorem readsAs_string {pieces : List Piece} {t : List Char} (h : StringText pieces t) :
    ReadsAs (Draft.ofPieces pieces) ('"' :: (t ++ ['"'])) := by
  intro frames expected rest he _
  rw [List.cons_append, List.append_assoc, List.singleton_append, scan_quote, scan_string h,
    readTokens_cons]
  simp only [List.reverse_nil, List.nil_append]
  rw [step_string frames he]

theorem readsAs_null : ReadsAs .null "null".toList := by
  rintro frames expected rest (rfl | rfl) _ <;> rfl

theorem readsAs_true : ReadsAs (.bool true) "true".toList := by
  rintro frames expected rest (rfl | rfl) _ <;> rfl

theorem readsAs_false : ReadsAs (.bool false) "false".toList := by
  rintro frames expected rest (rfl | rfl) _ <;> rfl

/-- A mark between values. -/
theorem scan_mark {c : Char} (h : c ∈ ['[', ']', '\x7b', '\x7d', ',', ':']) (r : List Char) :
    Token.scan .between (c :: r) = .mark c :: Token.scan .between r := by
  simp only [List.mem_cons, List.not_mem_nil, or_false] at h
  rcases h with rfl | rfl | rfl | rfl | rfl | rfl <;> rfl

theorem stops_blank {b r : List Char} (h : Blank b) (hr : Stops r) : Stops (b ++ r) := by
  cases b with
  | nil => exact hr
  | cons c b =>
    simp only [Blank, List.all_cons, Bool.and_eq_true] at h
    rintro _ ⟨⟩
    exact .inr (.inr (.inr h.1))

section
variable {rest : List Char}

theorem stops_cons {c : Char} (h : IsStop c) : Stops (c :: rest) := by
  rintro _ ⟨⟩
  exact h

theorem readsAs_item {i : Item} (hb : i.Spaced) (h : ReadsAs i.draft i.text)
    (frames : List Frame) {expected : Expected} (he : expected = .value ∨ expected = .item)
    (hr : Stops rest) :
    readTokens frames expected (Token.scan .between (i.chars ++ rest)) =
      (Step.value i.draft frames).then (Token.scan .between rest) := by
  rw [Item.chars, List.append_assoc, List.append_assoc, scan_blank hb.1,
    h frames expected _ he (stops_blank hb.2 hr), scan_blank hb.2]

/-- The items of an array up to its end, after those seen. -/
theorem readsAs_items {i : Item} {items : List Item} (hb : ∀ j ∈ i :: items, j.Spaced)
    (h : ∀ j ∈ i :: items, ReadsAs j.draft j.text) (outer : List Frame) (seen : List Draft)
    {expected : Expected} (he : expected = .value ∨ expected = .item) :
    readTokens (.array seen :: outer) expected
        (Token.scan .between (separated ((i :: items).map Item.chars) ++ ']' :: rest)) =
      (Step.value (.array (seen.reverse ++ (i :: items).map Item.draft) none) outer).then
        (Token.scan .between rest) := by
  induction items generalizing i seen expected with
  | nil =>
    rw [List.map_cons, List.map_nil, separated,
      readsAs_item (hb i (by simp)) (h i (by simp)) _ he (stops_cons (.inr (.inl rfl))),
      scan_mark (by simp)]
    have close : (Step.value i.draft (.array seen :: outer)).then
        (.mark ']' :: Token.scan .between rest) =
        (Step.value (.array (i.draft :: seen).reverse none) outer).then
          (Token.scan .between rest) := rfl
    rw [close, List.reverse_cons]
    rfl
  | cons j items ih =>
    rw [List.forall_mem_cons] at hb h
    rw [List.map_cons, List.map_cons, separated, List.append_assoc, List.cons_append,
      readsAs_item hb.1 h.1 _ he (stops_cons (.inl rfl)), scan_mark (by simp)]
    have next : (Step.value i.draft (.array seen :: outer)).then
        (.mark ',' :: Token.scan .between
          (separated ((j :: items).map Item.chars) ++ ']' :: rest)) =
        readTokens (.array (i.draft :: seen) :: outer) .value (Token.scan .between
          (separated ((j :: items).map Item.chars) ++ ']' :: rest)) := rfl
    rw [← List.map_cons, next, ih hb.2 h.2 (i.draft :: seen) (.inl rfl)]
    simp

theorem readsAs_member {m : Member} (hb : Blank m.before ∧ Blank m.after ∧ m.value.Spaced)
    (hk : StringText m.pieces m.key) (h : ReadsAs m.value.draft m.value.text)
    (outer : List Frame) (seen : List (Draft × Draft)) {expected : Expected}
    (he : expected = .key ∨ expected = .member) (hr : Stops rest) :
    readTokens (.object seen :: outer) expected (Token.scan .between (m.chars ++ rest)) =
      readTokens (.object (m.draft :: seen) :: outer) .comma (Token.scan .between rest) := by
  have key : step (.object seen :: outer) expected (.string (Draft.ofPieces m.pieces)) =
      .next (.member seen (Draft.ofPieces m.pieces) :: outer) .colon := by
    unfold Draft.ofPieces
    cases joinPieces none m.pieces <;> rcases he with rfl | rfl <;> rfl
  rw [Member.chars, List.append_assoc, scan_blank hb.1, List.cons_append, List.append_assoc,
    List.cons_append, List.append_assoc, List.cons_append, scan_quote, scan_string hk,
    readTokens_cons, List.reverse_nil, List.nil_append, key, Step.then, scan_blank hb.2.1,
    scan_mark (by simp), readTokens_cons]
  exact readsAs_item hb.2.2 h _ (.inl rfl) hr

theorem readsAs_members {m : Member} {members : List Member}
    (hb : ∀ n ∈ m :: members, Blank n.before ∧ Blank n.after ∧ n.value.Spaced)
    (hk : ∀ n ∈ m :: members, StringText n.pieces n.key)
    (h : ∀ n ∈ m :: members, ReadsAs n.value.draft n.value.text) (outer : List Frame)
    (seen : List (Draft × Draft)) {expected : Expected}
    (he : expected = .key ∨ expected = .member) :
    readTokens (.object seen :: outer) expected
        (Token.scan .between (separated ((m :: members).map Member.chars) ++ '\x7d' :: rest)) =
      (Step.value (.object (seen.reverse ++ (m :: members).map Member.draft) none) outer).then
        (Token.scan .between rest) := by
  induction members generalizing m seen expected with
  | nil =>
    rw [List.map_cons, List.map_nil, separated, readsAs_member (hb m (by simp)) (hk m (by simp))
      (h m (by simp)) _ _ he (stops_cons (.inr (.inr (.inl rfl)))), scan_mark (by simp)]
    have close : readTokens (.object (m.draft :: seen) :: outer) .comma
        (.mark '\x7d' :: Token.scan .between rest) =
        (Step.value (.object (m.draft :: seen).reverse none) outer).then
          (Token.scan .between rest) := rfl
    rw [close, List.reverse_cons]
    rfl
  | cons n members ih =>
    rw [List.forall_mem_cons] at hb hk h
    rw [List.map_cons, List.map_cons, separated, List.append_assoc, List.cons_append,
      readsAs_member hb.1 hk.1 h.1 _ _ he (stops_cons (.inl rfl)), scan_mark (by simp)]
    have next : readTokens (.object (m.draft :: seen) :: outer) .comma
        (.mark ',' :: Token.scan .between
          (separated ((n :: members).map Member.chars) ++ '\x7d' :: rest)) =
        readTokens (.object (m.draft :: seen) :: outer) .key (Token.scan .between
          (separated ((n :: members).map Member.chars) ++ '\x7d' :: rest)) := rfl
    rw [← List.map_cons, next, ih hb.2 hk.2 h.2 (m.draft :: seen) (.inl rfl)]
    simp

end

/-- A value of the grammar is read as its draft, whatever follows it. -/
theorem Written.readsAs {d : Draft} {t : List Char} (h : Written d t) : ReadsAs d t := by
  induction h with
  | null => exact readsAs_null
  | true => exact readsAs_true
  | false => exact readsAs_false
  | number h => exact readsAs_number h
  | string h => exact readsAs_string h
  | emptyArray hb =>
    rintro frames expected rest he -
    rw [List.cons_append, List.append_assoc, scan_mark (by simp), scan_blank hb,
      List.singleton_append, scan_mark (by simp)]
    rcases he with rfl | rfl <;> rfl
  | @array i items hb _ ih =>
    rintro frames expected rest he -
    rw [List.cons_append, List.append_assoc, List.singleton_append, scan_mark (by simp)]
    have opening (ts : List Token) : readTokens frames expected (.mark '[' :: ts) =
        readTokens (.array [] :: frames) .item ts := by
      rcases he with rfl | rfl <;> rfl
    rw [opening, readsAs_items hb ih frames [] (.inr rfl)]
    rfl
  | emptyObject hb =>
    rintro frames expected rest he -
    rw [List.cons_append, List.append_assoc, scan_mark (by simp), scan_blank hb,
      List.singleton_append, scan_mark (by simp)]
    rcases he with rfl | rfl <;> rfl
  | @object m members hb hk _ ih =>
    rintro frames expected rest he -
    rw [List.cons_append, List.append_assoc, List.singleton_append, scan_mark (by simp)]
    have opening (ts : List Token) : readTokens frames expected (.mark '\x7b' :: ts) =
        readTokens (.object [] :: frames) .member ts := by
      rcases he with rfl | rfl <;> rfl
    rw [opening, readsAs_members hb hk ih frames [] (.inr rfl)]
    rfl

/-- A whole text is read as the draft of its value, with nothing left. -/
theorem readText_of_isText {α : Type} (reader : Draft → Except Fault α) {d : Draft} {s : String}
    (h : IsText d s.toList) : readText reader s = reader d := by
  obtain ⟨before, text, after, hb, ha, hw, e⟩ := h
  have tokens : readTokens [] .value (Token.ofText s.toList) = (d, []) := by
    rw [Token.ofText, e, scan_blank hb, hw.readsAs [] .value after (.inl rfl) ?_]
    · rw [← List.append_nil after, scan_blank ha]
      rfl
    · rw [← List.append_nil after]
      exact stops_blank ha (by simp [Stops])
  rw [readText, tokens]
  exact bind_pure _

end BucketAccess.Json
