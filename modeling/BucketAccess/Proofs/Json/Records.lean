import BucketAccess.Json.Record
import BucketAccess.Proofs.Json.Values
import Mathlib.Data.List.Perm.Basic

/-!
# Records are read in any order

The members of a record are read one by one. Where the fields do not touch one another, their order
does not matter, and members with unknown names only have to be passed over. What every field keeps
is kept by the whole record.
-/

namespace BucketAccess.Json

/-- Steps that can be swapped reach the same end in any order. -/
theorem foldlM_of_perm {α β : Type} {f : α → β → Except Fault α}
    (swap : ∀ a b c x y, f a x = .ok b → f b y = .ok c →
      ∃ b', f a y = .ok b' ∧ f b' x = .ok c)
    {l m : List β} (h : l.Perm m) {a b : α} (hl : l.foldlM f a = .ok b) :
    m.foldlM f a = .ok b := by
  induction h generalizing a with
  | nil => exact hl
  | cons x _ ih =>
    rw [List.foldlM_cons, bind_eq_ok] at hl ⊢
    obtain ⟨c, hx, hl⟩ := hl
    exact ⟨c, hx, ih hl⟩
  | swap x y l =>
    simp only [List.foldlM_cons, bind_eq_ok] at hl ⊢
    obtain ⟨c, hy, e, hx, hl⟩ := hl
    obtain ⟨c', hx', hy'⟩ := swap _ _ _ _ _ hy hx
    exact ⟨c', hx', e, hy', hl⟩
  | trans _ _ ih ih' => exact ih' (ih hl)

variable {α β γ : Type} {fields : List (RecordField α)} {a b : α}

/-! ## Fields -/

/-- Two fields that can be set one after the other can be set in the other order as well, and
setting the first does not make the second set. -/
structure Apart (f g : RecordField α) : Prop where
  isSet : ∀ {a d b}, f.set a d = .ok b → g.isSet b = g.isSet a
  swap : ∀ {a d b e c}, f.set a d = .ok b → g.set b e = .ok c →
    ∃ b', g.set a e = .ok b' ∧ f.set b' d = .ok c

/-- The order of the fields in a text does not matter. -/
structure AnyOrder (fields : List (RecordField α)) : Prop where
  isSet : ∀ f ∈ fields, ∀ {a d b}, f.set a d = .ok b → f.isSet b
  apart : ∀ f ∈ fields, ∀ g ∈ fields, f.name ≠ g.name → Apart f g

theorem set_field {name : String} {get : α → Option β} {put : α → β → α}
    {reader : Draft → Except Fault β} {d : Draft} :
    (field name get put reader).set a d = .ok b ↔ ∃ v, reader d = .ok v ∧ b = put a v := by
  simp only [field]
  cases reader d with
  | error f => exact ⟨nofun, fun ⟨_, h, _⟩ => nomatch h⟩
  | ok v => exact ⟨fun h => ⟨v, rfl, (Except.ok.inj h).symm⟩, fun ⟨_, rfl, h⟩ => congrArg _ h.symm⟩

theorem field_apart {m n : String} {get : α → Option β} {put : α → β → α}
    {reader : Draft → Except Fault β} {get' : α → Option γ} {put' : α → γ → α}
    {reader' : Draft → Except Fault γ} (hget : ∀ a v, get' (put a v) = get' a)
    (hput : ∀ a v w, put' (put a v) w = put (put' a w) v) :
    Apart (field m get put reader) (field n get' put' reader') where
  isSet h := by
    obtain ⟨v, _, rfl⟩ := set_field.1 h
    simp only [field, hget]
  swap h h' := by
    obtain ⟨v, hv, rfl⟩ := set_field.1 h
    obtain ⟨w, hw, rfl⟩ := set_field.1 h'
    exact ⟨_, set_field.2 ⟨w, hw, rfl⟩, set_field.2 ⟨v, hv, hput _ v w⟩⟩

/-! ## Members -/

/-- The record after one more member. -/
def readMember (fields : List (RecordField α)) (a : α) (m : Draft × Draft) : Except Fault α := do
  let name ← Draft.readKey m.1 m.2
  match fields.find? (·.name == name) with
  | none =>
    m.2.skip
    return a
  | some f => if f.isSet a then .error .shape else f.set a m.2

theorem readMembers_eq_foldlM (fields : List (RecordField α)) (a : α)
    (members : List (Draft × Draft)) :
    readMembers fields a members = members.foldlM (readMember fields) a := by
  induction members generalizing a with
  | nil => rfl
  | cons m members ih =>
    obtain ⟨key, d⟩ := m
    rw [readMembers, List.foldlM_cons, readMember]
    cases Draft.readKey key d with
    | error f => rfl
    | ok name =>
      simp only [bind, Except.bind]
      cases fields.find? (·.name == name) with
      | none =>
        simp only
        cases d.skip with
        | error f => rfl
        | ok => exact ih a
      | some f =>
        simp only
        split
        · rfl
        · cases f.set a d with
          | error f => rfl
          | ok a => exact ih a

/-- A member is passed over, or it sets a field that was not set. -/
theorem readMember_eq_ok {m : Draft × Draft} : readMember fields a m = .ok b ↔
    ∃ name, Draft.readKey m.1 m.2 = .ok name ∧
      (fields.find? (·.name == name) = none ∧ m.2.skip = .ok () ∧ a = b ∨
        ∃ f, fields.find? (·.name == name) = some f ∧ f.isSet a = false ∧
          f.set a m.2 = .ok b) := by
  rw [readMember, bind_eq_ok]
  refine exists_congr fun name => and_congr_right fun _ => ?_
  cases fields.find? (·.name == name) with
  | none =>
    simp only [true_and, reduceCtorEq, false_and, exists_false, or_false]
    cases m.2.skip with
    | error f => exact ⟨nofun, nofun⟩
    | ok => exact ⟨fun h => ⟨rfl, Except.ok.inj h⟩, fun h => congrArg _ h.2⟩
  | some f => cases h : f.isSet a <;> simp [h]

theorem readMember_swap (h : AnyOrder fields) {c : α} {x y : Draft × Draft}
    (hx : readMember fields a x = .ok b) (hy : readMember fields b y = .ok c) :
    ∃ b', readMember fields a y = .ok b' ∧ readMember fields b' x = .ok c := by
  obtain ⟨m, hm, hx⟩ := readMember_eq_ok.1 hx
  obtain ⟨n, hn, hy⟩ := readMember_eq_ok.1 hy
  rcases hx with ⟨unknown, hs, rfl⟩ | ⟨f, hf, unset, hx⟩
  · refine ⟨c, readMember_eq_ok.2 ⟨n, hn, hy⟩, readMember_eq_ok.2 ⟨m, hm, .inl ⟨unknown, hs, rfl⟩⟩⟩
  rcases hy with ⟨unknown, hs, rfl⟩ | ⟨g, hg, unset', hy⟩
  · exact ⟨a, readMember_eq_ok.2 ⟨n, hn, .inl ⟨unknown, hs, rfl⟩⟩,
      readMember_eq_ok.2 ⟨m, hm, .inr ⟨f, hf, unset, hx⟩⟩⟩
  have fm : f.name = m := by simpa using List.find?_some hf
  have gn : g.name = n := by simpa using List.find?_some hg
  have mem := List.mem_of_find?_eq_some hf
  have mem' := List.mem_of_find?_eq_some hg
  -- Two members of one field are refused.
  have ne : f.name ≠ g.name := by
    intro same
    obtain rfl : f = g := Option.some.inj (hf.symm.trans (by rw [← fm, same, gn, hg]))
    rw [h.isSet f mem hx] at unset'
    cases unset'
  have apart := h.apart f mem g mem' ne
  obtain ⟨b', hy', hx'⟩ := apart.swap hx hy
  rw [apart.isSet hx] at unset'
  rw [← (h.apart g mem' f mem ne.symm).isSet hy'] at unset
  exact ⟨b', readMember_eq_ok.2 ⟨n, hn, .inr ⟨g, hg, unset', hy'⟩⟩,
    readMember_eq_ok.2 ⟨m, hm, .inr ⟨f, hf, unset, hx'⟩⟩⟩

theorem readMember_field {name : String} {get : α → Option β} {put : α → β → α}
    {reader : Draft → Except Fault β} {d : Draft} {v : β}
    (hf : fields.find? (·.name == name) = some (field name get put reader)) (ha : get a = none)
    (hd : reader d = .ok v) : readMember fields a (.string name, d) = .ok (put a v) :=
  readMember_eq_ok.2 ⟨name, rfl, .inr ⟨_, hf, by simp [field, ha], set_field.2 ⟨v, hd, rfl⟩⟩⟩

/-- The member has a name that is not among these. -/
def Unknown (names : List String) (m : Draft × Draft) : Prop :=
  ∃ name, name ∉ names ∧ m.1 = .string name

theorem readMember_unknown {m : Draft × Draft} (h : Unknown (fields.map (·.name)) m)
    (hs : m.2.skip = .ok ()) (a : α) : readMember fields a m = .ok a := by
  obtain ⟨name, unknown, hm⟩ := h
  refine readMember_eq_ok.2 ⟨name, by rw [hm]; rfl, .inl ⟨List.find?_eq_none.2 ?_, hs, rfl⟩⟩
  intro f hf same
  exact unknown (List.mem_map.2 ⟨f, hf, by simpa using same⟩)

/-- The members may come in any order, with unknown ones among them. -/
theorem readMembers_of_perm (h : AnyOrder fields) {known extra members : List (Draft × Draft)}
    (order : (known ++ extra).Perm members) (unknown : ∀ m ∈ extra, Unknown (fields.map (·.name)) m)
    (hs : ∀ m ∈ extra, m.2.skip = .ok ()) (hk : known.foldlM (readMember fields) a = .ok b) :
    readMembers fields a members = .ok b := by
  have more (extra : List (Draft × Draft)) (unknown : ∀ m ∈ extra, Unknown (fields.map (·.name)) m)
      (hs : ∀ m ∈ extra, m.2.skip = .ok ()) : extra.foldlM (readMember fields) b = .ok b := by
    induction extra with
    | nil => rfl
    | cons m extra ih =>
      rw [List.forall_mem_cons] at unknown hs
      rw [List.foldlM_cons, readMember_unknown unknown.1 hs.1]
      exact ih unknown.2 hs.2
  rw [readMembers_eq_foldlM]
  refine foldlM_of_perm (f := readMember fields) (fun _ _ _ _ _ => readMember_swap h) order ?_
  rw [List.foldlM_append, hk]
  exact more extra unknown hs

theorem readRecord_object {finish : α → Option β} {members : List (Draft × Draft)} {r : β}
    (hm : readMembers fields a members = .ok b) (hf : finish b = some r) :
    readRecord fields a finish (.object members none) = .ok r := by
  rw [readRecord, hm]
  simp only [bind, Except.bind, Draft.ofStop, hf]
  rfl

theorem finish_of_ok {finish : α → Option β} {r : β}
    (h : (match finish b with
      | some r => pure r
      | none => .error .shape : Except Fault β) = .ok r) : finish b = some r := by
  cases e : finish b with
  | none =>
    rw [e] at h
    cases h
  | some s =>
    rw [e] at h
    cases h
    rfl

/-! ## What fields keep -/

section
variable {P : α → Prop} (h : ∀ f ∈ fields, ∀ {a d b}, P a → f.set a d = .ok b → P b)
include h

theorem readMembers_keeps {members : List (Draft × Draft)} (ha : P a)
    (hr : readMembers fields a members = .ok b) : P b := by
  rw [readMembers_eq_foldlM] at hr
  induction members generalizing a with
  | nil => cases hr; exact ha
  | cons m members ih =>
    rw [List.foldlM_cons, bind_eq_ok] at hr
    obtain ⟨c, hm, hr⟩ := hr
    refine ih ?_ hr
    obtain ⟨_, _, ⟨-, -, rfl⟩ | ⟨f, hf, -, hs⟩⟩ := readMember_eq_ok.1 hm
    · exact ha
    · exact h f (List.mem_of_find?_eq_some hf) ha hs

theorem readFields_keeps {items : List Draft} (ha : P a)
    (hr : readFields a fields items = .ok b) : P b := by
  induction items generalizing a fields with
  | nil =>
    rw [readFields] at hr
    cases hr
    exact ha
  | cons d items ih =>
    cases fields with
    | nil => cases hr
    | cons f fields =>
      rw [readFields, bind_eq_ok] at hr
      obtain ⟨c, hs, hr⟩ := hr
      rw [List.forall_mem_cons] at h
      exact ih h.2 (h.1 ha hs) hr

/-- A record is finished from parts that have what every field keeps. -/
theorem readRecord_keeps {finish : α → Option β} {d : Draft} {r : β} (ha : P a)
    (hr : readRecord fields a finish d = .ok r) : ∃ b, P b ∧ finish b = some r := by
  unfold readRecord at hr
  split at hr
  · obtain ⟨b, hm, hr⟩ := bind_eq_ok.1 hr
    obtain ⟨_, _, hr⟩ := bind_eq_ok.1 hr
    exact ⟨b, readMembers_keeps h ha hm, finish_of_ok hr⟩
  · obtain ⟨b, hm, hr⟩ := bind_eq_ok.1 hr
    obtain ⟨_, _, hr⟩ := bind_eq_ok.1 hr
    exact ⟨b, readFields_keeps h ha hm, finish_of_ok hr⟩
  · cases hr

end

/-! ## Values that may be absent, and lists -/

theorem readOptional_eq_some {reader : Draft → Except Fault α} {d : Draft} :
    readOptional reader d = .ok (some a) ↔ d ≠ .null ∧ reader d = .ok a := by
  unfold readOptional
  split
  · exact ⟨nofun, fun h => absurd rfl h.1⟩
  · next other =>
    cases reader d with
    | error f => exact ⟨nofun, nofun⟩
    | ok b =>
      have ne : d ≠ .null := other
      simp [ne, Functor.map, Except.map]

theorem readList_eq {reader : Draft → Except Fault α} {parts : List (α × Draft)}
    (h : ∀ p ∈ parts, reader p.2 = .ok p.1) :
    readList reader (.array (parts.map (·.2)) none) = .ok (parts.map (·.1)) := by
  have items : readItems reader (parts.map (·.2)) = .ok (parts.map (·.1)) := by
    induction parts with
    | nil => rfl
    | cons p parts ih =>
      rw [List.forall_mem_cons] at h
      rw [List.map_cons, readItems, h.1, ih h.2]
      rfl
  rw [readList, items]
  rfl

theorem exists_of_mem_readItems {reader : Draft → Except Fault α} {items : List Draft} {l : List α}
    (h : readItems reader items = .ok l) : ∀ x ∈ l, ∃ d, reader d = .ok x := by
  induction items generalizing l with
  | nil => cases h; simp
  | cons d items ih =>
    obtain ⟨x, hx, h⟩ := bind_eq_ok.1 h
    obtain ⟨more, hm, h⟩ := bind_eq_ok.1 h
    cases h
    exact List.forall_mem_cons.2 ⟨⟨d, hx⟩, ih hm⟩

theorem exists_of_mem_readList {reader : Draft → Except Fault α} {d : Draft} {l : List α}
    (h : readList reader d = .ok l) : ∀ x ∈ l, ∃ d, reader d = .ok x := by
  unfold readList at h
  split at h
  · obtain ⟨found, hi, h⟩ := bind_eq_ok.1 h
    obtain ⟨_, _, h⟩ := bind_eq_ok.1 h
    cases h
    exact exists_of_mem_readItems hi
  · cases h

end BucketAccess.Json
