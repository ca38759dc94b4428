import BucketAccess.Policy.Text
import BucketAccess.Proofs.Json.Lexing
import BucketAccess.Proofs.Json.Records
import BucketAccess.Proofs.Json.Writing

/-!
# Policies survive being written and read

A policy can be spelled in many ways: a list with one text may be the text itself, the members of
objects may be in any order, and members with unknown names may be added. All of them are read as
the policy, if it was read from a text in the first place: then its conditions are in order, not too
deep, and not `null`. What is written is one of these spellings.
-/

namespace BucketAccess.Policy

open Json

/-! ## Spellings -/

/-- A list of texts; a single one may stand for itself. -/
inductive TextsSpelling : List String → Draft → Prop where
  | list (texts : List String) : TextsSpelling texts (.array (texts.map .string) none)
  | single (text : String) : TextsSpelling [text] (.string text)

inductive PrincipalSpelling : Principal → Draft → Prop where
  | any (name : String) : PrincipalSpelling (.any name) (.string name)
  | kinds {names : SortedMap (List String)} {parts : List (String × List String × Draft)} :
      (parts.map fun p => (p.1, p.2.1)).Perm names.entries →
      (∀ p ∈ parts, TextsSpelling p.2.1 p.2.2) →
      PrincipalSpelling (.kinds names) (.object (parts.map fun p => (.string p.1, p.2.2)) none)

def statementNames : List String :=
  ["Sid", "Effect", "Principal", "Action", "Resource", "Condition"]

/-- The members of a statement as they are written, with these for its parts. -/
def Statement.members (s : Statement) (principal actions resources : Draft)
    (condition : Option Draft) : List (Draft × Draft) :=
  (if s.sid.isEmpty then [] else [(.string "Sid", .string s.sid)]) ++
  [(.string "Effect", .string s.effect.name), (.string "Principal", principal),
    (.string "Action", actions), (.string "Resource", resources)] ++
  condition.toList.map fun c => (.string "Condition", c)

inductive StatementSpelling (s : Statement) : Draft → Prop where
  | object {principal actions resources : Draft} {condition : Option Draft}
      {extra members : List (Draft × Draft)} :
      PrincipalSpelling s.principal principal → TextsSpelling s.actions actions →
      TextsSpelling s.resources resources → Option.Rel Spelling s.condition condition →
      (s.members principal actions resources condition ++ extra).Perm members →
      (∀ m ∈ extra, Unknown statementNames m) → StatementSpelling s (.object members none)

def documentNames : List String := ["Id", "Version", "Statement"]

def Document.members (d : Document) (statements : List Draft) : List (Draft × Draft) :=
  d.id.toList.map (fun id => (.string "Id", .string id)) ++
  [(.string "Version", .string d.version), (.string "Statement", .array statements none)]

inductive DocumentSpelling (d : Document) : Draft → Prop where
  | object {parts : List (Statement × Draft)} {extra members : List (Draft × Draft)} :
      parts.map (·.1) = d.statements → (∀ p ∈ parts, StatementSpelling p.1 p.2) →
      (d.members (parts.map (·.2)) ++ extra).Perm members →
      (∀ m ∈ extra, Unknown documentNames m) → DocumentSpelling d (.object members none)

/-! ## Reading the parts -/

theorem readWhole_eq {α : Type} {room : Nat} {shape : Draft → Option α} {d : Draft} {v : Json}
    {a : α} (hr : d.read room = .ok v) (hs : shape d = some a) :
    readWhole room shape d = .ok a := by
  rw [readWhole, hr]
  simp only [bind, Except.bind, hs]
  rfl

namespace TextsSpelling

variable {texts : List String} {d : Draft}

theorem texts?_eq (h : TextsSpelling texts d) : texts? d = some texts := by
  cases h with
  | single text => rfl
  | list texts =>
    rw [texts?]
    induction texts with
    | nil => rfl
    | cons t texts ih => simp_all

theorem read (h : TextsSpelling texts d) (room : Nat) : ∃ v, d.read (room + 1) = .ok v := by
  cases h with
  | single text => exact ⟨_, rfl⟩
  | list texts =>
    have each : ∀ p ∈ texts.map fun t => (Json.string t, Draft.string t),
        p.2.read room = .ok p.1 := List.forall_mem_map.2 fun _ _ => rfl
    have items := Draft.readItems_eq each
    rw [Draft.read]
    simp only [List.map_map, Function.comp_def] at items
    rw [items]
    exact ⟨_, rfl⟩

theorem readWhole (h : TextsSpelling texts d) (room : Nat) :
    readWhole (room + 1) texts? d = .ok texts := by
  obtain ⟨v, hv⟩ := h.read room
  exact readWhole_eq hv h.texts?_eq

end TextsSpelling

section
variable {parts : List (String × List String × Draft)}
  (h : ∀ p ∈ parts, TextsSpelling p.2.1 p.2.2)
include h

theorem names?_eq : names? (parts.map fun p => (.string p.1, p.2.2)) =
    some (parts.map fun p => (p.1, p.2.1)) := by
  induction parts with
  | nil => rfl
  | cons p parts ih =>
    rw [List.forall_mem_cons] at h
    rw [List.map_cons, names?, h.1.texts?_eq, ih h.2]
    rfl

theorem exists_readMembers (room : Nat) (sofar : List (String × Json)) :
    ∃ values, Draft.readMembers (room + 1) sofar (parts.map fun p => (.string p.1, p.2.2)) =
      .ok values := by
  induction parts generalizing sofar with
  | nil => exact ⟨_, rfl⟩
  | cons p parts ih =>
    rw [List.forall_mem_cons] at h
    obtain ⟨v, hv⟩ := h.1.read room
    rw [List.map_cons, Draft.readMembers, hv]
    exact ih h.2 _

end

theorem PrincipalSpelling.readWhole {p : Principal} {d : Draft} (h : PrincipalSpelling p d)
    (room : Nat) : readWhole (room + 2) principal? d = .ok p := by
  cases h with
  | any name => rfl
  | kinds order texts =>
    obtain ⟨values, hv⟩ := exists_readMembers texts room []
    refine readWhole_eq (v := .object values) ?_ ?_
    · rw [Draft.read, hv]
      rfl
    · rw [principal?, names?_eq texts, Option.map_some, SortedMap.ofList_eq order]

/-! ## Reading statements -/

/-- Its condition is one that a reader can give. -/
def Statement.Readable (s : Statement) (room : Nat) : Prop :=
  ∀ c ∈ s.condition, Json.Readable room c ∧ c ≠ .null

theorem statementFields_anyOrder (room : Nat) : AnyOrder (statementFields room) where
  isSet f hf a d b h := by
    simp only [statementFields, List.mem_cons, List.not_mem_nil, or_false] at hf
    rcases hf with rfl | rfl | rfl | rfl | rfl | rfl <;>
    · obtain ⟨v, -, rfl⟩ := set_field.1 h
      rfl
  apart f hf g hg ne := by
    simp only [statementFields, List.mem_cons, List.not_mem_nil, or_false] at hf hg
    rcases hf with rfl | rfl | rfl | rfl | rfl | rfl <;>
    rcases hg with rfl | rfl | rfl | rfl | rfl | rfl <;>
    first
    | exact absurd rfl ne
    | exact field_apart (fun _ _ => rfl) fun _ _ _ => rfl

theorem readEffect_name (e : Effect) : readEffect (.string e.name) = .ok e := by
  cases e <;> rfl

theorem readOptional_spelling {c : Json} {d : Draft} {room : Nat} (h : Spelling c d)
    (hc : Json.Readable room c ∧ c ≠ .null) : readOptional (·.read room) d = .ok (some c) := by
  refine readOptional_eq_some.2 ⟨?_, h.read hc.1⟩
  rintro rfl
  cases h
  exact hc.2 rfl

/-- The parts of a statement after all its members. -/
def Statement.parts (s : Statement) : StatementParts :=
  { sid := if s.sid.isEmpty then none else some s.sid
    effect := some s.effect
    principal := some s.principal
    actions := some s.actions
    resources := some s.resources
    condition := s.condition.map some }

theorem Statement.statement?_parts (s : Statement) : s.parts.statement? = some s := by
  have sid : s.parts.sid.getD "" = s.sid := by
    simp only [parts]
    split
    · next h => exact (String.isEmpty_iff.1 h).symm
    · rfl
  have condition : s.parts.condition.join = s.condition := by
    cases h : s.condition <;> simp [parts, h]
  rw [StatementParts.statement?, sid, condition]
  rfl

section
variable {s : Statement} {room : Nat} {principal actions resources : Draft}
  {condition : Option Draft}

theorem readMembers_statement (hp : PrincipalSpelling s.principal principal)
    (ha : TextsSpelling s.actions actions) (hr : TextsSpelling s.resources resources)
    (hc : Option.Rel Spelling s.condition condition) (readable : s.Readable (room + 2)) :
    (s.members principal actions resources condition).foldlM
      (readMember (statementFields (room + 2))) {} = .ok s.parts := by
  have sid : (if s.sid.isEmpty then [] else [(.string "Sid", .string s.sid)]).foldlM
      (readMember (statementFields (room + 2))) {} =
        .ok { sid := if s.sid.isEmpty then none else some s.sid } := by
    split <;> rfl
  have last : (condition.toList.map fun c => (.string "Condition", c)).foldlM
      (readMember (statementFields (room + 2))) { s.parts with condition := none } =
        .ok s.parts := by
    cases e : s.condition with
    | none =>
      rw [e] at hc
      cases hc
      simp only [Statement.parts, e]
      rfl
    | some c =>
      rw [e] at hc
      cases hc with
      | some spelling =>
        refine bind_eq_ok.2
          ⟨_, readMember_field rfl rfl (readOptional_spelling spelling (readable c e)), ?_⟩
        simp only [Statement.parts, e]
        rfl
  simp only [Statement.members, List.foldlM_append, List.foldlM_cons, List.foldlM_nil, bind_eq_ok]
  exact ⟨_, ⟨_, sid, _, readMember_field rfl rfl (readEffect_name _), _,
    readMember_field rfl rfl (hp.readWhole room), _,
    readMember_field rfl rfl (ha.readWhole (room + 1)), _,
    readMember_field rfl rfl (hr.readWhole (room + 1)), rfl⟩, last⟩

theorem StatementSpelling.read {d : Draft} (h : StatementSpelling s d)
    (readable : s.Readable (room + 2)) (skip : d.skip = .ok ()) :
    readStatement (room + 2) d = .ok s := by
  cases h with
  | object hp ha hr hc order unknown =>
    have each := Draft.skip_object.1 skip
    exact readRecord_object (readMembers_of_perm (statementFields_anyOrder _) order unknown
      (fun m hm => each m (order.mem_iff.1 (List.mem_append_right _ hm)))
      (readMembers_statement hp ha hr hc readable)) s.statement?_parts

end

/-- What was read as a statement can be read again. -/
theorem readable_of_readStatement {room : Nat} {d : Draft} {s : Statement}
    (h : readStatement room d = .ok s) : s.Readable room := by
  have keeps : ∀ f ∈ statementFields room, ∀ {a d b},
      (∀ c, a.condition = some (some c) → Json.Readable room c ∧ c ≠ .null) → f.set a d = .ok b →
      ∀ c, b.condition = some (some c) → Json.Readable room c ∧ c ≠ .null := by
    intro f hf a d b ha h
    simp only [statementFields, List.mem_cons, List.not_mem_nil, or_false] at hf
    rcases hf with rfl | rfl | rfl | rfl | rfl | rfl <;>
    obtain ⟨v, hv, rfl⟩ := set_field.1 h <;>
    try exact ha
    rintro c ⟨⟩
    obtain ⟨other, hr⟩ := readOptional_eq_some.1 hv
    refine ⟨Draft.readable_of_read d hr, ?_⟩
    rintro rfl
    exact other (Draft.eq_null_of_read hr)
  obtain ⟨p, hp, finish⟩ := readRecord_keeps keeps (by simp) h
  intro c hc
  refine hp c ?_
  simp only [StatementParts.statement?, Option.bind_eq_bind, Option.bind_eq_some_iff] at finish
  obtain ⟨_, _, _, _, _, _, _, _, finish⟩ := finish
  cases finish
  exact Option.join_eq_some_iff.1 hc

/-! ## Reading documents -/

def Document.Readable (d : Document) : Prop := ∀ s ∈ d.statements, s.Readable (depthLimit - 3)

theorem documentFields_anyOrder : AnyOrder documentFields where
  isSet f hf a d b h := by
    simp only [documentFields, List.mem_cons, List.not_mem_nil, or_false] at hf
    rcases hf with rfl | rfl | rfl <;>
    · obtain ⟨v, -, rfl⟩ := set_field.1 h
      rfl
  apart f hf g hg ne := by
    simp only [documentFields, List.mem_cons, List.not_mem_nil, or_false] at hf hg
    rcases hf with rfl | rfl | rfl <;> rcases hg with rfl | rfl | rfl <;>
    first
    | exact absurd rfl ne
    | exact field_apart (fun _ _ => rfl) fun _ _ _ => rfl

/-- The parts of a document after all its members. -/
def Document.parts (d : Document) : DocumentParts :=
  { id := d.id.map some
    version := some d.version
    statements := some d.statements }

theorem Document.document?_parts (d : Document) : d.parts.document? = some d := by
  have id : d.parts.id.join = d.id := by
    cases h : d.id <;> simp [parts, h]
  rw [DocumentParts.document?, id]
  rfl

theorem readMembers_document {d : Document} {parts : List (Statement × Draft)}
    (hp : parts.map (·.1) = d.statements)
    (hs : ∀ p ∈ parts, readStatement (depthLimit - 3) p.2 = .ok p.1) :
    (d.members (parts.map (·.2))).foldlM (readMember documentFields) {} = .ok d.parts := by
  have id : (d.id.toList.map fun id => (.string "Id", .string id)).foldlM
      (readMember documentFields) {} = .ok { id := d.id.map some } := by
    cases d.id <;> rfl
  have statements := readList_eq hs
  rw [hp] at statements
  simp only [Document.members, List.foldlM_append, List.foldlM_cons, List.foldlM_nil, bind_eq_ok]
  exact ⟨_, id, _, readMember_field rfl rfl rfl, _, readMember_field rfl rfl statements, rfl⟩

theorem DocumentSpelling.read {d : Document} {draft : Draft} (h : DocumentSpelling d draft)
    (readable : d.Readable) (skip : draft.skip = .ok ()) :
    readRecord documentFields {} DocumentParts.document? draft = .ok d := by
  cases h with
  | @object parts extra members hp hs order unknown =>
    have each := Draft.skip_object.1 skip
    have statements : ∀ p ∈ parts, p.2.skip = .ok () := by
      have list := each (.string "Statement", .array (parts.map (·.2)) none)
        (order.mem_iff.1 (List.mem_append_left _ (by simp [Document.members])))
      exact List.forall_mem_map.1 (Draft.skip_array.1 list)
    have read : ∀ p ∈ parts, readStatement (depthLimit - 3) p.2 = .ok p.1 := fun p hmem =>
      (hs p hmem).read (readable p.1 (hp ▸ List.mem_map_of_mem hmem)) (statements p hmem)
    exact readRecord_object (readMembers_of_perm documentFields_anyOrder order unknown
      (fun m hm => each m (order.mem_iff.1 (List.mem_append_right _ hm)))
      (readMembers_document hp read)) d.document?_parts

/-- What was read as a document can be read again. -/
theorem readable_of_readDocument {draft : Draft} {d : Document}
    (h : readRecord documentFields {} DocumentParts.document? draft = .ok d) : d.Readable := by
  have keeps : ∀ f ∈ documentFields, ∀ {a draft b},
      (∀ l, a.statements = some l → ∀ s ∈ l, s.Readable (depthLimit - 3)) →
      f.set a draft = .ok b →
      ∀ l, b.statements = some l → ∀ s ∈ l, s.Readable (depthLimit - 3) := by
    intro f hf a draft b ha h
    simp only [documentFields, List.mem_cons, List.not_mem_nil, or_false] at hf
    rcases hf with rfl | rfl | rfl <;>
    obtain ⟨v, hv, rfl⟩ := set_field.1 h <;>
    try exact ha
    rintro l ⟨⟩ s hs
    obtain ⟨_, hr⟩ := exists_of_mem_readList hv s hs
    exact readable_of_readStatement hr
  obtain ⟨p, hp, finish⟩ := readRecord_keeps keeps (by simp) h
  simp only [DocumentParts.document?, Option.bind_eq_bind, Option.bind_eq_some_iff] at finish
  obtain ⟨_, _, finish⟩ := finish
  cases finish
  intro s hs
  cases e : p.statements with
  | none => simp [e] at hs
  | some l => exact hp l e s (by simpa [e] using hs)

/-! ## What is written -/

theorem TextsSpelling.draft (texts : List String) :
    TextsSpelling texts (ofStrings texts).draft := by
  rw [ofStrings, Json.draft, draftItems_eq, List.map_map]
  exact .list texts

theorem PrincipalSpelling.draft (p : Principal) : PrincipalSpelling p p.json.draft := by
  cases p with
  | any name => exact .any name
  | kinds names =>
    have order : ((names.entries.map fun e => (e.1, e.2, (ofStrings e.2).draft)).map
        fun p => (p.1, p.2.1)).Perm names.entries := .of_eq (by simp [Function.comp_def])
    have parts := PrincipalSpelling.kinds order (List.forall_mem_map.2 fun e _ => .draft e.2)
    rw [Principal.json, Json.draft, draftMembers_eq]
    simpa [Function.comp_def] using parts

theorem StatementSpelling.draft (s : Statement) : StatementSpelling s s.json.draft := by
  rw [Statement.json, Json.draft]
  refine @StatementSpelling.object s _ _ _ (s.condition.map Json.draft) [] _ (.draft s.principal)
    (.draft s.actions) (.draft s.resources) ?_ ?_ (by simp)
  · cases s.condition with
    | none => exact .none
    | some c => exact .some (spelling_draft c)
  · refine .of_eq ?_
    rw [draftMembers_eq]
    by_cases empty : s.sid.isEmpty <;>
      simp [Statement.members, Json.draft, empty, Option.toList_map]

theorem DocumentSpelling.draft (d : Document) : DocumentSpelling d d.json.draft := by
  rw [Document.json, Json.draft]
  refine @DocumentSpelling.object d (d.statements.map fun s => (s, s.json.draft)) [] _
    (by simp [Function.comp_def]) (List.forall_mem_map.2 fun s _ => .draft s) ?_ (by simp)
  refine .of_eq ?_
  rw [draftMembers_eq]
  simp [Document.members, Json.draft, draftItems_eq, Function.comp_def]

section
variable {P : Number → Prop}

theorem allNumbers_ofStrings (texts : List String) : (ofStrings texts).AllNumbers P :=
  .array (List.forall_mem_map.2 fun t _ => .string t)

theorem Principal.allNumbers_json (p : Principal) : p.json.AllNumbers P := by
  cases p with
  | any name => exact .string name
  | kinds names => exact .object (List.forall_mem_map.2 fun e _ => allNumbers_ofStrings e.2)

theorem Statement.allNumbers_json {s : Statement} (h : ∀ c ∈ s.condition, c.AllNumbers P) :
    s.json.AllNumbers P := by
  refine .object fun m hm => ?_
  simp only [List.mem_append, List.mem_cons, List.not_mem_nil, or_false, List.mem_map,
    Option.mem_toList] at hm
  rcases hm with (hm | rfl | rfl | rfl | rfl) | ⟨c, hm, rfl⟩
  · split at hm
    · cases hm
    · rw [List.mem_singleton.1 hm]
      exact .string s.sid
  · exact .string s.effect.name
  · exact s.principal.allNumbers_json
  · exact allNumbers_ofStrings s.actions
  · exact allNumbers_ofStrings s.resources
  · exact h c hm

/-- The numbers of a policy are those in its conditions. -/
theorem Document.allNumbers_json {d : Document}
    (h : ∀ s ∈ d.statements, ∀ c ∈ s.condition, c.AllNumbers P) : d.json.AllNumbers P := by
  refine .object fun m hm => ?_
  simp only [List.mem_append, List.mem_cons, List.not_mem_nil, or_false, List.mem_map,
    Option.mem_toList] at hm
  rcases hm with ⟨id, -, rfl⟩ | rfl | rfl
  · exact .string id
  · exact .string d.version
  · exact .array (List.forall_mem_map.2 fun s hs => Statement.allNumbers_json (h s hs))

end

/-! ## Whole texts -/

theorem Document.readable_of_ofText {t : String} {d : Document} (h : ofText t = .ok d) :
    d.Readable := by
  rw [ofText, readText] at h
  obtain ⟨e, hr, h⟩ := bind_eq_ok.1 h
  split at h
  · cases h
    exact readable_of_readDocument hr
  · cases h

/-- Every text that spells a policy that can be read is read as it. -/
theorem Document.ofText_of_spelling {d : Document} (readable : d.Readable) {draft : Draft}
    (spelling : DocumentSpelling d draft) {t : String} (text : IsText draft t.toList) :
    ofText t = .ok d := by
  rw [ofText, readText_of_isText _ text]
  obtain ⟨_, _, _, _, _, written, _⟩ := text
  exact spelling.read readable written.skip

/-- A policy that was read from a text, with plain numbers in its conditions, is read back from what
is written for it and from every other text that spells it. -/
theorem Document.read_written {t : String} {d : Document} (accepted : ofText t = .ok d)
    (plain : ∀ s ∈ d.statements, ∀ c ∈ s.condition, c.AllNumbers Number.Plain) :
    ofText d.toText = .ok d ∧
      ∀ draft u, DocumentSpelling d draft → IsText draft u.toList → ofText u = .ok d := by
  have readable := readable_of_ofText accepted
  have text : IsText d.json.draft d.toText.toList := (allNumbers_json plain).isText
  exact ⟨ofText_of_spelling readable (.draft d) text,
    fun draft u spelling text => ofText_of_spelling readable spelling text⟩

/-! ## A policy in two spellings -/

/-- The condition of the policy that is spelled in two ways here. -/
def limit : Json := .object [("Bool", .bool true), ("Limit", .number (.whole (-7)))]

theorem readable_limit : Json.Readable 124 limit ∧ limit ≠ .null := by
  have ascending : Ascending [("Bool", Json.bool true), ("Limit", .number (.whole (-7)))] :=
    List.pairwise_pair.2 (by decide)
  exact ⟨.object ascending (by simpa using ⟨.bool true, .number _⟩), nofun⟩

theorem plain_seven : Number.Plain (.whole (-7)) :=
  ⟨⟨true, [7], [], none⟩, ⟨rfl, rfl, by decide⟩, rfl⟩

theorem plain_limit : limit.AllNumbers Number.Plain :=
  .object (by simpa using ⟨.bool true, .number plain_seven⟩)

def limited : Statement :=
  { sid := ""
    effect := .allow
    principal := .locators ["alice"]
    actions := ["s3:GetObject"]
    resources := ["arn:aws:s3:::photos"]
    condition := some limit }

/-- The same statement backwards, with a comment and without lists. -/
def limitedBackwards : Json :=
  .object [("Comment", .null),
    ("Condition", .object [("Limit", .number (.whole (-7))), ("Bool", .bool true)]),
    ("Resource", .string "arn:aws:s3:::photos"), ("Action", .string "s3:GetObject"),
    ("Principal", .object [("AWS", .string "alice")]), ("Effect", .string "Allow")]

theorem spelling_limitedBackwards : StatementSpelling limited limitedBackwards.draft := by
  have condition : Spelling limit (Draft.object
      [(.string "Limit", .number (.whole (-7))), (.string "Bool", .bool true)] none) := by
    refine @Spelling.object _ [("Limit", .number (.whole (-7)), .number (.whole (-7))),
      ("Bool", .bool true, .bool true)] (.swap _ _ []) ?_
    simpa using ⟨.number _, .bool _⟩
  have principal : PrincipalSpelling (.locators ["alice"])
      (.object [(.string "AWS", .string "alice")] none) := by
    refine @PrincipalSpelling.kinds _ [("AWS", ["alice"], .string "alice")] (.refl _) ?_
    simpa using TextsSpelling.single "alice"
  exact @StatementSpelling.object limited _ _ _ _ [(.string "Comment", .null)] _ principal
    (.single _) (.single _) (.some condition) (List.reverse_perm _).symm
    (by simp [Unknown, statementNames])

def Document.limited : Document := ⟨none, "2012-10-17", [Policy.limited]⟩

def Document.limitedBackwards : Json :=
  .object [("Note", .array []), ("Statement", .array [Policy.limitedBackwards]),
    ("Version", .string "2012-10-17")]

theorem Document.spelling_limitedBackwards :
    DocumentSpelling limited limitedBackwards.draft :=
  @DocumentSpelling.object limited [(Policy.limited, Policy.limitedBackwards.draft)]
    [(.string "Note", .array [] none)] _ rfl
    (by simpa using Policy.spelling_limitedBackwards) (List.reverse_perm _).symm
    (by simp [Unknown, documentNames])

theorem Document.plain_limitedBackwards : limitedBackwards.AllNumbers Number.Plain := by
  have condition : AllNumbers Number.Plain
      (.object [("Limit", .number (.whole (-7))), ("Bool", .bool true)]) :=
    .object (by simpa using ⟨.number plain_seven, .bool true⟩)
  have principal : AllNumbers Number.Plain (.object [("AWS", .string "alice")]) :=
    .object (by simpa using .string "alice")
  have statement : Policy.limitedBackwards.AllNumbers Number.Plain :=
    .object (by simpa using
      ⟨.null, condition, .string _, .string _, principal, .string _⟩)
  have statements : AllNumbers Number.Plain (.array [Policy.limitedBackwards]) :=
    .array (by simpa using statement)
  exact .object (by simpa using ⟨.array (by simp), statements, .string _⟩)

theorem Document.read_written_limited :
    ofText ("\x7b\"Note\":[],\"Statement\":[\x7b\"Comment\":null," ++
      "\"Condition\":\x7b\"Limit\":-7,\"Bool\":true\x7d,\"Resource\":\"arn:aws:s3:::photos\"," ++
      "\"Action\":\"s3:GetObject\",\"Principal\":\x7b\"AWS\":\"alice\"\x7d," ++
      "\"Effect\":\"Allow\"\x7d],\"Version\":\"2012-10-17\"\x7d") = .ok limited ∧
    ofText limited.toText = .ok limited := by
  have only (P : Json → Prop) (h : P limit) :
      ∀ s ∈ limited.statements, ∀ c ∈ s.condition, P c := by
    simpa [limited, Policy.limited] using h
  have accepted := ofText_of_spelling (only _ readable_limit) spelling_limitedBackwards
    plain_limitedBackwards.isText
  refine ⟨(congrArg ofText ?_).trans accepted, (read_written accepted (only _ plain_limit)).1⟩
  decide +kernel

end BucketAccess.Policy
