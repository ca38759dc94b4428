import BucketAccess.Proofs.Markup.Reading
import Mathlib

/-!
# Documents are read by their trees

The parts of a tree amount to what the tree says by its paths, for each type of document. A document
whose fields hold nothing but text is read, whatever else stands in it, and a value that the type
needs is the only thing that can be missing (`read_document`).
-/

namespace BucketAccess.Markup

/-! ## What the parts say -/

section
variable {children : List (String × Layout)} {name : String}

theorem textsNamed_parts (h : children.lookup name = some .text) (c : Content) :
    textsNamed name (c.parts children) = (c.named name).map Content.written := by
  induction c with
  | nil => rfl
  | mark m after ih => exact ih
  | element tag inside gap after _ ih =>
    rw [Content.parts, Content.named]
    by_cases e : tag.name = name
    · rw [e, h, if_pos rfl, List.map_cons, ← ih]
      simp [textsNamed]
    · rw [if_neg e, ← ih]
      cases hl : children.lookup tag.name with
      | none => rfl
      | some layout => cases layout <;> simp [textsNamed, e]

theorem groupsNamed_parts {known : List (String × Layout)}
    (h : children.lookup name = some (.group known)) (c : Content) :
    groupsNamed name (c.parts children) = (c.named name).map (·.parts known) := by
  induction c with
  | nil => rfl
  | mark m after ih => exact ih
  | element tag inside gap after _ ih =>
    rw [Content.parts, Content.named]
    by_cases e : tag.name = name
    · rw [e, h, if_pos rfl, List.map_cons, ← ih]
      simp [groupsNamed]
    · rw [if_neg e, ← ih]
      cases hl : children.lookup tag.name with
      | none => rfl
      | some layout => cases layout <;> simp [groupsNamed, e]

theorem textsNamed_flatten (ps : List (List Part)) :
    textsNamed name ps.flatten = ps.flatMap (textsNamed name) := by
  rw [textsNamed, List.filterMap_flatten, List.flatMap_def]
  rfl

theorem groupsNamed_flatten (ps : List (List Part)) :
    groupsNamed name ps.flatten = ps.flatMap (groupsNamed name) := by
  rw [groupsNamed, List.filterMap_flatten, List.flatMap_def]
  rfl

theorem along_singleton (c : Content) (name : String) : c.along [name] = c.named name := by
  simp [Content.along]

theorem along_pair (c : Content) (name item : String) :
    c.along [name, item] = (c.named name).flatMap (·.named item) := by
  simp [Content.along]

theorem lastText?_parts (h : children.lookup name = some .text) (c : Content) :
    lastText? name (c.parts children) = c.field? [name] := by
  rw [lastText?, textsNamed_parts h, Content.field?, along_singleton, List.getLast?_map]

theorem lastText_parts (h : children.lookup name = some .text) (c : Content) :
    lastText name (c.parts children) = c.field [name] := by
  rw [lastText, lastText?_parts h, Content.field]

/-- The parts of all elements of one name together. -/
theorem allGroups_parts {known : List (String × Layout)}
    (h : children.lookup name = some (.group known)) (c : Content) :
    allGroups name (c.parts children) = ((c.named name).map (·.parts known)).flatten := by
  rw [allGroups, groupsNamed_parts h]

/-- The parts of the elements of a name in those of another. -/
theorem groupsNamed_allGroups {item : String} {known inside : List (String × Layout)}
    (h : children.lookup name = some (.group known))
    (hi : known.lookup item = some (.group inside)) (c : Content) :
    groupsNamed item (allGroups name (c.parts children)) =
      (c.along [name, item]).map (·.parts inside) := by
  rw [allGroups_parts h, groupsNamed_flatten, List.flatMap_map]
  simp only [groupsNamed_parts hi, along_pair, List.map_flatMap]

theorem lastText_allGroups {item : String} {known : List (String × Layout)}
    (h : children.lookup name = some (.group known)) (hi : known.lookup item = some .text)
    (c : Content) :
    lastText item (allGroups name (c.parts children)) = c.field [name, item] := by
  rw [lastText, lastText?, allGroups_parts h, textsNamed_flatten, List.flatMap_map, Content.field,
    Content.field?, ← List.getLast?_map]
  simp only [textsNamed_parts hi, along_pair, List.map_flatMap]

theorem lastGroup?_parts {known : List (String × Layout)}
    (h : children.lookup name = some (.group known)) (c : Content) :
    lastGroup? name (c.parts children) = (c.along [name]).getLast?.map (·.parts known) := by
  rw [lastGroup?, groupsNamed_parts h, along_singleton, List.getLast?_map]

end

theorem requestId_parts {children : List (String × Layout)}
    (h : children.lookup "ResponseMetadata" = some (.group (texts ["RequestId"]))) (c : Content) :
    Users.requestId (c.parts children) = c.requestId := by
  rw [Users.requestId, lastGroup?_parts h, Content.requestId]
  cases (c.along ["ResponseMetadata"]).getLast? with
  | none => rfl
  | some metadata => exact lastText_parts rfl metadata

theorem user_parts (c : Content) : Users.User.ofParts (c.parts Users.userFields) = c.user := by
  simp only [Users.User.ofParts, Content.user]
  congr 1 <;> exact lastText_parts rfl c

theorem accessKey_parts (c : Content) :
    Users.AccessKey.ofParts (c.parts Users.accessKeyFields) = c.accessKey := by
  simp only [Users.AccessKey.ofParts, Content.accessKey]
  congr 1 <;> exact lastText_parts rfl c

theorem keyEntry_parts (c : Content) :
    Users.KeyEntry.ofParts (c.parts Users.keyEntryFields) = c.keyEntry := by
  simp only [Users.KeyEntry.ofParts, Content.keyEntry]
  congr 1 <;> exact lastText_parts rfl c

theorem item_parts {α : Type} {result item : String} {fields : List (String × Layout)}
    {ofParts : List Part → α} {value : Content → α}
    (h : ∀ c : Content, ofParts (c.parts fields) = value c) (hr : result ≠ "ResponseMetadata")
    (c : Content) :
    DocumentType.itemOfParts result item ofParts
        (c.parts (DocumentType.itemLayout result item fields)) =
      Content.item result item value c := by
  have known : (DocumentType.itemLayout result item fields).lookup result =
      some (.group [(item, .group fields)]) := by
    simp [DocumentType.itemLayout]
  have inside : [(item, Layout.group fields)].lookup item = some (.group fields) := by simp
  have metadata : (DocumentType.itemLayout result item fields).lookup "ResponseMetadata" =
      some (.group (texts ["RequestId"])) := by
    have : ("ResponseMetadata" == result) = false := by simpa using hr.symm
    simp [DocumentType.itemLayout, List.lookup, this, Users.metadata]
  rw [DocumentType.itemOfParts, lastGroup?, groupsNamed_allGroups known inside, List.getLast?_map,
    Content.item]
  cases (c.along [result, item]).getLast? with
  | none => rfl
  | some found => simp [h, requestId_parts metadata]

/-- The members of a list in a group in a group. -/
theorem groupsNamed_allGroups_allGroups {children known inside entry : List (String × Layout)}
    {result list member : String} (h : children.lookup result = some (.group known))
    (hl : known.lookup list = some (.group inside))
    (hm : inside.lookup member = some (.group entry)) (c : Content) :
    groupsNamed member (allGroups list (allGroups result (c.parts children))) =
      (c.along [result, list, member]).map (·.parts entry) := by
  rw [allGroups, groupsNamed_allGroups h hl, groupsNamed_flatten, List.flatMap_map]
  simp only [groupsNamed_parts hm, Content.along, List.flatMap_singleton', List.map_flatMap,
    List.flatMap_assoc]

theorem DocumentType.ofParts_parts (d : DocumentType) (c : Content) :
    d.ofParts (c.parts d.layout) = d.ofContent c := by
  cases d with
  | failure =>
    simp only [ofParts, ofContent]
    congr 2
    · exact lastText_allGroups rfl rfl c
    · exact lastText_allGroups rfl rfl c
    · exact lastText_parts rfl c
  | user => exact congrArg _ (user_parts c)
  | createdUser | foundUser => exact item_parts user_parts (by decide) c
  | createdAccessKey => exact item_parts accessKey_parts (by decide) c
  | deletedUser | deletedAccessKey =>
    simp only [ofParts, ofContent]
    congr 2
    exact requestId_parts rfl c
  | accessKey => exact congrArg _ (accessKey_parts c)
  | keyEntry => exact congrArg _ (keyEntry_parts c)
  | keyList =>
    simp only [ofParts, ofContent]
    congr 2
    · rw [layout, itemLayout, groupsNamed_allGroups_allGroups rfl rfl rfl, List.map_map]
      exact List.map_congr_left fun entry _ => keyEntry_parts entry
    · exact requestId_parts rfl c
  | storageFailure =>
    simp only [ofParts, ofContent]
    congr 2
    · exact lastText_parts rfl c
    · exact lastText_parts rfl c
    · exact lastText?_parts rfl c
    · exact lastText_parts rfl c

/-! ## Fields of a layout -/

/-- The paths at which a layout has fields. -/
inductive FieldPath : List (String × Layout) → List String → Prop where
  | text {children : List (String × Layout)} {name : String} :
      children.lookup name = some .text → FieldPath children [name]
  | group {children known : List (String × Layout)} {name : String} {path : List String} :
      children.lookup name = some (.group known) → FieldPath known path →
      FieldPath children (name :: path)

theorem named_after {tag : Tag} {inside after x : Content} {gap : Bytes} {name : String}
    (h : x ∈ after.named name) : x ∈ (Content.element tag inside gap after).named name := by
  rw [Content.named]
  split
  · exact List.mem_cons_of_mem _ h
  · exact h

theorem named_self (tag : Tag) (inside after : Content) (gap : Bytes) :
    inside ∈ (Content.element tag inside gap after).named tag.name := by
  simp [Content.named]

theorem along_of_named {c inside x : Content} {name : String} {path : List String}
    (h : inside ∈ c.named name) (hx : x ∈ inside.along path) : x ∈ c.along (name :: path) :=
  List.mem_flatMap.2 ⟨inside, h, hx⟩

theorem FieldPath.ne_nil {children : List (String × Layout)} {path : List String}
    (h : FieldPath children path) : ∃ name rest, path = name :: rest := by
  cases h <;> exact ⟨_, _, rfl⟩

theorem plainIn_of_paths {children : List (String × Layout)} {c : Content}
    (h : ∀ path, FieldPath children path → ∀ inside ∈ c.along path, inside.text?.isSome) :
    c.PlainIn children := by
  induction c generalizing children with
  | nil => trivial
  | mark m after ih =>
    refine ih fun path hp x hx => h path hp x ?_
    obtain ⟨name, rest, rfl⟩ := hp.ne_nil
    exact hx
  | element tag inside gap after ihi iha =>
    refine ⟨?_, iha fun path hp x hx => h path hp x ?_⟩
    · split
      · rename_i hl
        exact h _ (.text hl) inside (along_of_named (named_self ..) (by simp [Content.along]))
      · rename_i known hl
        exact ihi fun path hp x hx => h _ (.group hl hp) x (along_of_named (named_self ..) hx)
      · trivial
    · obtain ⟨name, rest, rfl⟩ := hp.ne_nil
      obtain ⟨y, hy, hx⟩ := List.mem_flatMap.1 hx
      exact along_of_named (named_after hy) hx

theorem FieldPath.of_cons {name : String} {layout : Layout} {rest : List (String × Layout)}
    {path : List String} (h : FieldPath ((name, layout) :: rest) path) :
    (layout = .text ∧ path = [name]) ∨
      (∃ known inner, layout = .group known ∧ path = name :: inner ∧ FieldPath known inner) ∨
      FieldPath rest path := by
  cases h with
  | @text _ n hl =>
    rw [List.lookup_cons] at hl
    split at hl
    · rename_i e
      cases hl
      exact .inl ⟨rfl, by rw [eq_of_beq e]⟩
    · exact .inr (.inr (.text hl))
  | @group _ known n inner hl hp =>
    rw [List.lookup_cons] at hl
    split at hl
    · rename_i e
      cases hl
      exact .inr (.inl ⟨known, inner, rfl, by rw [eq_of_beq e], hp⟩)
    · exact .inr (.inr (.group hl hp))

theorem not_fieldPath_nil {path : List String} : ¬ FieldPath [] path := by
  rintro (hl | ⟨hl, -⟩) <;> cases hl

theorem FieldPath.of_texts {names : List String} {path : List String}
    (h : FieldPath (texts names) path) : path ∈ names.map ([·]) := by
  induction names with
  | nil => exact absurd h not_fieldPath_nil
  | cons name names ih =>
    rcases h.of_cons with ⟨-, rfl⟩ | ⟨known, inner, e, -⟩ | h
    · simp
    · cases e
    · exact List.mem_cons_of_mem _ (ih h)

/-- The fields of a layout whose first entry is a group. -/
theorem FieldPath.of_group {name : String} {known rest : List (String × Layout)}
    {path : List String} (h : FieldPath ((name, .group known) :: rest) path) :
    (∃ inner, path = name :: inner ∧ FieldPath known inner) ∨ FieldPath rest path := by
  rcases h.of_cons with ⟨e, -⟩ | ⟨known', inner, e, rfl, h⟩ | h
  · cases e
  · cases e
    exact .inl ⟨inner, rfl, h⟩
  · exact .inr h

theorem FieldPath.of_metadata {path : List String} (h : FieldPath [Users.metadata] path) :
    path = ["ResponseMetadata", "RequestId"] := by
  rcases h.of_group with ⟨inner, rfl, hp⟩ | hp
  · simpa using hp.of_texts
  · exact absurd hp not_fieldPath_nil

theorem FieldPath.of_item {result item : String} {fields : List (String × Layout)}
    {path : List String} (h : FieldPath (DocumentType.itemLayout result item fields) path) :
    path = ["ResponseMetadata", "RequestId"] ∨
      ∃ inner, path = result :: item :: inner ∧ FieldPath fields inner := by
  rcases h.of_group with ⟨inner, rfl, hp⟩ | hp
  · rcases hp.of_group with ⟨inner, rfl, hi⟩ | hn
    · exact .inr ⟨inner, rfl, hi⟩
    · exact absurd hn not_fieldPath_nil
  · exact .inl hp.of_metadata

theorem FieldPath.of_item_texts {result item : String} {names : List String}
    {path : List String} (h : FieldPath (DocumentType.itemLayout result item (texts names)) path) :
    path ∈ ["ResponseMetadata", "RequestId"] :: names.map (result :: item :: [·]) := by
  rcases h.of_item with rfl | ⟨inner, rfl, hp⟩
  · exact List.mem_cons_self
  · obtain ⟨name, hn, rfl⟩ := List.mem_map.1 hp.of_texts
    exact List.mem_cons_of_mem _ (List.mem_map.2 ⟨name, hn, rfl⟩)

theorem DocumentType.mem_fieldPaths {d : DocumentType} {path : List String}
    (h : FieldPath d.layout path) : path ∈ d.fieldPaths := by
  cases d with
  | failure =>
    rcases h.of_group with ⟨inner, rfl, hp⟩ | hp
    · have := hp.of_texts
      simp_all [fieldPaths]
    · have := hp.of_texts
      simp_all [fieldPaths]
  | user | accessKey | keyEntry | storageFailure => exact h.of_texts
  | createdUser | foundUser | createdAccessKey => exact h.of_item_texts
  | deletedUser | deletedAccessKey => simp [fieldPaths, h.of_metadata]
  | keyList =>
    rcases h.of_item with rfl | ⟨inner, rfl, hp⟩
    · exact List.mem_cons_self
    · rcases hp.of_group with ⟨inner, rfl, hi⟩ | hn
      · obtain ⟨name, hn, rfl⟩ := List.mem_map.1 hi.of_texts
        exact List.mem_cons_of_mem _ (List.mem_map.2 ⟨name, hn, rfl⟩)
      · exact absurd hn not_fieldPath_nil

/-- A document of the type's root name, with fields that hold nothing but text, says what its tree
says, wherever unknown elements and other marks stand. -/
theorem read_document (d : DocumentType) (document : Document) (h : document.WellFormed)
    (root : document.root.name = d.root) (plain : d.Plain document.content) :
    d.read document.bytes = d.ofContent document.content := by
  have plainIn : document.content.PlainIn d.layout :=
    plainIn_of_paths fun path hp => plain path (DocumentType.mem_fieldPaths hp)
  rw [DocumentType.read_eq, ← root, readDocument_document h plainIn, ← DocumentType.ofParts_parts]
  rfl

/-- A failure among other marks: an instruction, attributes, a comment, and an element of the same
name as a field at another place. -/
def furnished : Document where
  orderMark := true
  prolog := [.instruction (Utf8.bytes "xml version=\"1.0\""), .blank [0x0A]]
  root := ⟨"Error", Utf8.bytes " a=\"b>c\""⟩
  content :=
    .mark (.comment (Utf8.bytes " <Code> ")) <|
    .element ⟨"Code", []⟩ (.mark (.text " NoSuchBucket\n") .nil) [0x20] <|
    .element ⟨"Details", []⟩ (.element ⟨"Code", []⟩ (.mark (.reference (Utf8.bytes "amp")) .nil) []
      .nil) [] <|
    .mark (.empty ⟨"Code", []⟩) .nil
  gap := []
  rest := [0x0A]

theorem furnished_wellFormed : furnished.WellFormed where
  prolog := by
    have instruction : IsInstruction (Utf8.bytes "xml version=\"1.0\"") := by
      unfold IsInstruction
      decide
    simp only [furnished, List.forall_mem_cons, List.not_mem_nil, false_implies, implies_true,
      and_true]
    exact ⟨instruction, rfl⟩
  root := {
    name := by decide
    quoted := .plain (by decide) (by decide) (by decide) <|
      .plain (by decide) (by decide) (by decide) <| .plain (by decide) (by decide) (by decide) <|
      @Quoted.quote _ 0x22 (Utf8.bytes "b>c") [] (.inl rfl) (by decide) .nil
    blank := by rintro _ ⟨⟩; rfl
    closed := by decide }
  content := by
    have comment : IsComment (Utf8.bytes " <Code> ") := by
      unfold IsComment
      decide
    have bare (name : String) (h : IsName name) : Tag.WellFormed ⟨name, []⟩ :=
      ⟨h, .nil, by simp, by simp⟩
    have code := bare "Code" (by decide)
    exact ⟨comment, ⟨code, ⟨⟨by decide, by decide⟩, trivial⟩, rfl,
      ⟨bare "Details" (by decide), ⟨code, ⟨by unfold Mark.WellFormed; decide, trivial⟩, rfl,
        trivial⟩, rfl, ⟨code, trivial⟩⟩⟩⟩
  gap := rfl

theorem read_document_furnished : furnished.WellFormed ∧
    DocumentType.storageFailure.Plain furnished.content ∧
    DocumentType.storageFailure.read furnished.bytes = .ok ⟨"NoSuchBucket", "", none, ""⟩ := by
  have plain : DocumentType.storageFailure.Plain furnished.content := by
    intro path hp inside hi
    simp only [DocumentType.fieldPaths, List.mem_cons, List.not_mem_nil, or_false] at hp
    rcases hp with rfl | rfl | rfl | rfl <;>
      simp_all [furnished, Content.along, Content.named, Content.text?]
  exact ⟨furnished_wellFormed, plain, read_document _ _ furnished_wellFormed rfl plain⟩

end BucketAccess.Markup
