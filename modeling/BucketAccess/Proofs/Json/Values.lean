import BucketAccess.Proofs.Json.Grammar
import BucketAccess.Proofs.SortedMap

/-!
# What a strict reader makes of a draft

A strict reader gives values whose objects are in order and that are no deeper than there is room.
It gives such a value for each draft that spells it, with the members of its objects in any order.
Values of the grammar can always be passed over.
-/

namespace BucketAccess.Json

theorem bind_eq_ok {α β : Type} {x : Except Fault α} {f : α → Except Fault β} {b : β} :
    x >>= f = .ok b ↔ ∃ a, x = .ok a ∧ f a = .ok b := by
  cases x with
  | error e => exact ⟨nofun, fun ⟨_, h, _⟩ => nomatch h⟩
  | ok a => exact ⟨fun h => ⟨a, rfl, h⟩, fun ⟨_, rfl, h⟩ => h⟩

/-! ## Passing over -/

namespace Draft

theorem skip_array {items : List Draft} :
    (array items none).skip = .ok () ↔ ∀ d ∈ items, d.skip = .ok () := by
  have each : skipItems items = .ok () ↔ ∀ d ∈ items, d.skip = .ok () := by
    induction items with
    | nil => simp [skipItems]
    | cons d items ih =>
      rw [skipItems, bind_eq_ok, List.forall_mem_cons, ← ih]
      exact ⟨fun ⟨⟨⟩, hd, h⟩ => ⟨hd, h⟩, fun ⟨hd, h⟩ => ⟨(), hd, h⟩⟩
  rw [skip, bind_eq_ok, ← each]
  exact ⟨fun ⟨⟨⟩, h, _⟩ => h, fun h => ⟨(), h, rfl⟩⟩

theorem skip_object {members : List (Draft × Draft)} :
    (object members none).skip = .ok () ↔ ∀ m ∈ members, m.2.skip = .ok () := by
  have each : skipMembers members = .ok () ↔ ∀ m ∈ members, m.2.skip = .ok () := by
    induction members with
    | nil => simp [skipMembers]
    | cons m members ih =>
      rw [skipMembers, bind_eq_ok, List.forall_mem_cons, ← ih]
      exact ⟨fun ⟨⟨⟩, hm, h⟩ => ⟨hm, h⟩, fun ⟨hm, h⟩ => ⟨(), hm, h⟩⟩
  rw [skip, bind_eq_ok, ← each]
  exact ⟨fun ⟨⟨⟩, h, _⟩ => h, fun h => ⟨(), h, rfl⟩⟩

end Draft

theorem Written.skip {d : Draft} {t : List Char} (h : Written d t) : d.skip = .ok () := by
  induction h with
  | null | true | false | emptyArray | emptyObject => rfl
  | @number l _ _ =>
    unfold Literal.draft
    cases l.number? <;> rfl
  | @string pieces _ _ =>
    unfold Draft.ofPieces
    cases joinPieces none pieces <;> rfl
  | array _ _ ih => exact Draft.skip_array.2 (List.forall_mem_map.2 ih)
  | object _ _ _ ih => exact Draft.skip_object.2 (List.forall_mem_map.2 ih)

/-! ## Values that were read -/

/-- At most `room` containers are nested in the value, and objects have ascending keys. -/
inductive Readable : Nat → Json → Prop where
  | null {room : Nat} : Readable room .null
  | bool {room : Nat} (b : Bool) : Readable room (.bool b)
  | number {room : Nat} (n : Number) : Readable room (.number n)
  | string {room : Nat} (s : String) : Readable room (.string s)
  | array {room : Nat} {items : List Json} :
      (∀ v ∈ items, Readable room v) → Readable (room + 1) (.array items)
  | object {room : Nat} {members : List (String × Json)} : Ascending members →
      (∀ m ∈ members, Readable room m.2) → Readable (room + 1) (.object members)

theorem Draft.insertMember_eq (key : String) (value : Json) (members : List (String × Json)) :
    insertMember key value members = insertEntry key value members := by
  induction members with
  | nil => rfl
  | cons m members ih => simp only [insertMember, insertEntry, ih]

namespace Draft

mutual

theorem readable_of_read {room : Nat} {v : Json} :
    (d : Draft) → d.read room = .ok v → Readable room v
  | .null, h => by cases h; exact .null
  | .bool b, h => by cases h; exact .bool b
  | .number n, h => by cases h; exact .number n
  | .string s, h => by cases h; exact .string s
  | .loose, h => nomatch h
  | .hole _ _, h => nomatch h
  | .fragment _ _, h => nomatch h
  | .array items stop, h => by
    cases room with
    | zero => cases h
    | succ room =>
      rw [read] at h
      obtain ⟨values, hi, h⟩ := bind_eq_ok.1 h
      obtain ⟨_, _, h⟩ := bind_eq_ok.1 h
      cases h
      exact .array (readable_of_readItems items hi)
  | .object members stop, h => by
    cases room with
    | zero => cases h
    | succ room =>
      rw [read] at h
      obtain ⟨values, hm, h⟩ := bind_eq_ok.1 h
      obtain ⟨_, _, h⟩ := bind_eq_ok.1 h
      cases h
      have sound := readable_of_readMembers members .nil (by simp) hm
      exact .object sound.1 sound.2

theorem readable_of_readItems {room : Nat} {values : List Json} :
    (items : List Draft) → readItems room items = .ok values → ∀ v ∈ values, Readable room v
  | [], h => by cases h; simp
  | d :: items, h => by
    rw [readItems] at h
    obtain ⟨v, hd, h⟩ := bind_eq_ok.1 h
    obtain ⟨more, hi, h⟩ := bind_eq_ok.1 h
    cases h
    exact List.forall_mem_cons.2 ⟨readable_of_read d hd, readable_of_readItems items hi⟩

theorem readable_of_readMembers {room : Nat} {sofar values : List (String × Json)} :
    (members : List (Draft × Draft)) → Ascending sofar → (∀ m ∈ sofar, Readable room m.2) →
      readMembers room sofar members = .ok values →
      Ascending values ∧ ∀ m ∈ values, Readable room m.2
  | [], ascending, hs, h => by cases h; exact ⟨ascending, hs⟩
  | (key, d) :: members, ascending, hs, h => by
    rw [readMembers] at h
    obtain ⟨name, _, h⟩ := bind_eq_ok.1 h
    obtain ⟨v, hd, h⟩ := bind_eq_ok.1 h
    rw [insertMember_eq] at h
    refine readable_of_readMembers members ascending.insertEntry (fun m hm => ?_) h
    rcases mem_insertEntry hm with rfl | hm
    · exact readable_of_read d hd
    · exact hs m hm

end

theorem eq_null_of_read {room : Nat} {d : Draft} (h : d.read room = .ok .null) : d = .null := by
  cases d with
  | null => rfl
  | bool | number | string | loose | hole | fragment => cases h
  | array items stop =>
    cases room with
    | zero => cases h
    | succ room =>
      rw [read] at h
      obtain ⟨_, _, h⟩ := bind_eq_ok.1 h
      obtain ⟨_, _, h⟩ := bind_eq_ok.1 h
      cases h
  | object members stop =>
    cases room with
    | zero => cases h
    | succ room =>
      rw [read] at h
      obtain ⟨_, _, h⟩ := bind_eq_ok.1 h
      obtain ⟨_, _, h⟩ := bind_eq_ok.1 h
      cases h

end Draft

/-! ## Spellings of a value -/

/-- The draft stands for the value, with the members of objects in any order. -/
inductive Spelling : Json → Draft → Prop where
  | null : Spelling .null .null
  | bool (b : Bool) : Spelling (.bool b) (.bool b)
  | number (n : Number) : Spelling (.number n) (.number n)
  | string (s : String) : Spelling (.string s) (.string s)
  | array {parts : List (Json × Draft)} : (∀ p ∈ parts, Spelling p.1 p.2) →
      Spelling (.array (parts.map (·.1))) (.array (parts.map (·.2)) none)
  | object {members : List (String × Json)} {parts : List (String × Json × Draft)} :
      (parts.map fun p => (p.1, p.2.1)).Perm members → (∀ p ∈ parts, Spelling p.2.1 p.2.2) →
      Spelling (.object members) (.object (parts.map fun p => (.string p.1, p.2.2)) none)

namespace Draft

theorem readItems_eq {room : Nat} {parts : List (Json × Draft)}
    (h : ∀ p ∈ parts, p.2.read room = .ok p.1) :
    readItems room (parts.map (·.2)) = .ok (parts.map (·.1)) := by
  induction parts with
  | nil => rfl
  | cons p parts ih =>
    rw [List.forall_mem_cons] at h
    rw [List.map_cons, readItems, h.1, ih h.2]
    rfl

theorem readMembers_eq {room : Nat} {parts : List (String × Json × Draft)}
    (h : ∀ p ∈ parts, p.2.2.read room = .ok p.2.1) (sofar : List (String × Json)) :
    readMembers room sofar (parts.map fun p => (.string p.1, p.2.2)) =
      .ok ((parts.map fun p => (p.1, p.2.1)).foldl (fun m e => insertEntry e.1 e.2 m) sofar) := by
  induction parts generalizing sofar with
  | nil => rfl
  | cons p parts ih =>
    rw [List.forall_mem_cons] at h
    rw [List.map_cons, readMembers, h.1, List.map_cons, List.foldl_cons, ← ih h.2,
      ← insertMember_eq]
    rfl

end Draft

/-- A value that can be read is read from every draft that spells it. -/
theorem Spelling.read {v : Json} {d : Draft} (h : Spelling v d) {room : Nat}
    (hv : Readable room v) : d.read room = .ok v := by
  induction h generalizing room with
  | null | bool | number | string => rfl
  | array _ ih =>
    cases hv with
    | @array room _ hi =>
      have items := Draft.readItems_eq fun p hp => ih p hp (hi p.1 (List.mem_map_of_mem hp))
      rw [Draft.read, items]
      rfl
  | @object members parts order _ ih =>
    cases hv with
    | @object room _ ascending hm =>
      have each : ∀ p ∈ parts, p.2.2.read room = .ok p.2.1 := fun p hp =>
        ih p hp (hm (p.1, p.2.1) (order.mem_iff.1 (List.mem_map_of_mem hp)))
      rw [Draft.read, Draft.readMembers_eq each, foldl_insertEntry_eq ascending order]
      rfl

end BucketAccess.Json
