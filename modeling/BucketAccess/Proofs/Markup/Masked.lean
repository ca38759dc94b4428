import BucketAccess.Proofs.Markup.Documents
import BucketAccess.Proofs.Markup.Truncation

/-!
# Documents up to the text of one field

A document with a place for a text in it is read as the same parts whatever text is put there, up to
the contents of the field that the place is in, provided that no element around the place is a
field itself. An element inside a field does not count as one: its text is read as the field's.
-/

namespace BucketAccess.Markup

/-! ## Without the contents of a field -/

mutual

def Part.masked (field : String) : Part → Part
  | .text name content => .text name (if name = field then "" else content)
  | .group name parts => .group name (maskAll field parts)

def maskAll (field : String) : List Part → List Part
  | [] => []
  | p :: r => p.masked field :: maskAll field r

end

def Frame.masked (field : String) (f : Frame) : Frame := { f with parts := maskAll field f.parts }

def Mode.masked (field : String) : Mode → Mode
  | .text name content => .text name (if name = field then "" else content)
  | mode => mode

section
variable {field name : String} {parts : List Part} {inner : Frame} {outer : List Frame}
  {mode : Mode}

theorem maskAll_eq_map (parts : List Part) :
    maskAll field parts = parts.map (Part.masked field) := by
  induction parts with
  | nil => rfl
  | cons p r ih => rw [maskAll, ih, List.map_cons]

theorem maskAll_reverse (parts : List Part) :
    maskAll field parts.reverse = (maskAll field parts).reverse := by
  rw [maskAll_eq_map, maskAll_eq_map, List.map_reverse]

theorem maskAll_flatten (l : List (List Part)) :
    maskAll field l.flatten = (l.map (maskAll field)).flatten := by
  induction l with
  | nil => rfl
  | cons a l ih =>
    rw [List.flatten_cons, List.map_cons, List.flatten_cons, ← ih, maskAll_eq_map, maskAll_eq_map,
      maskAll_eq_map, List.map_append]

theorem Frame.masked_add (f : Frame) (p : Part) :
    (f.add p).masked field = (f.masked field).add (p.masked field) := rfl

theorem Frame.masked_part (f : Frame) : f.part.masked field = (f.masked field).part := by
  unfold Frame.part Frame.masked
  rw [Part.masked, maskAll_reverse]

mutual

theorem Part.masked_masked (p : Part) : (p.masked field).masked field = p.masked field := by
  cases p with
  | text name content =>
    rw [Part.masked, Part.masked]
    by_cases h : name = field
    · rw [if_pos h, if_pos h]
    · rw [if_neg h, if_neg h]
  | group name parts => rw [Part.masked, Part.masked, maskAll_maskAll parts]

theorem maskAll_maskAll (parts : List Part) :
    maskAll field (maskAll field parts) = maskAll field parts := by
  cases parts with
  | nil => rfl
  | cons p r => rw [maskAll, maskAll, p.masked_masked, maskAll_maskAll r]

end

theorem Frame.masked_masked (f : Frame) : (f.masked field).masked field = f.masked field := by
  unfold Frame.masked
  rw [maskAll_maskAll]

theorem map_masked_masked (frames : List Frame) :
    (frames.map (Frame.masked field)).map (Frame.masked field) =
      frames.map (Frame.masked field) := by
  rw [List.map_map]
  exact List.map_congr_left fun f _ => f.masked_masked

/-- More of a field's content is masked with what it continues. -/
theorem Mode.masked_append (content more : String) :
    Mode.masked field (.text name ((if name = field then "" else content) ++ more)) =
      Mode.masked field (.text name (content ++ more)) := by
  rw [Mode.masked, Mode.masked]
  by_cases h : name = field
  · rw [if_pos h, if_pos h]
  · simp only [if_neg h]

/-! ## Looking up masked parts -/

theorem textsNamed_maskAll (h : name ≠ field) :
    textsNamed name (maskAll field parts) = textsNamed name parts := by
  unfold textsNamed
  rw [maskAll_eq_map, List.filterMap_map]
  refine List.filterMap_congr fun p _ => ?_
  cases p with
  | group n inner => rfl
  | text n content =>
    by_cases hn : n = name
    · have hfield : n ≠ field := hn ▸ h
      simp [Part.masked, hfield]
    · simp [Part.masked, hn]

theorem lastText_maskAll (h : name ≠ field) :
    lastText name (maskAll field parts) = lastText name parts := by
  unfold lastText lastText?
  rw [textsNamed_maskAll h]

theorem lastText_maskAll_self : lastText field (maskAll field parts) = "" := by
  have htexts : ∀ content ∈ textsNamed field (maskAll field parts), content = "" := by
    intro content hcontent
    rw [textsNamed, maskAll_eq_map, List.filterMap_map] at hcontent
    obtain ⟨p, -, hp⟩ := List.mem_filterMap.1 hcontent
    cases p with
    | group n inner => cases hp
    | text n content =>
      simp only [Function.comp_apply, Part.masked, Option.ite_none_right_eq_some,
        Option.some.injEq] at hp
      obtain ⟨hn, hcontent⟩ := hp
      rw [← hcontent, if_pos hn]
  unfold lastText lastText?
  cases hlast : (textsNamed field (maskAll field parts)).getLast? with
  | none => rfl
  | some content => exact htexts content (List.mem_of_getLast? hlast)

theorem groupsNamed_maskAll :
    groupsNamed name (maskAll field parts) = (groupsNamed name parts).map (maskAll field) := by
  unfold groupsNamed
  rw [maskAll_eq_map, List.filterMap_map, List.map_filterMap]
  refine List.filterMap_congr fun p _ => ?_
  cases p with
  | text n content => rfl
  | group n inner => by_cases hn : n = name <;> simp [Part.masked, hn]

theorem lastGroup?_maskAll :
    lastGroup? name (maskAll field parts) = (lastGroup? name parts).map (maskAll field) := by
  unfold lastGroup?
  rw [groupsNamed_maskAll, List.getLast?_map]

theorem allGroups_maskAll :
    allGroups name (maskAll field parts) = maskAll field (allGroups name parts) := by
  unfold allGroups
  rw [groupsNamed_maskAll, maskAll_flatten]

/-! ## Reading -/

/-- What was read of the field so far makes no difference to the rest. -/
theorem read_masked (inner : Frame) (outer : List Frame) (mode : Mode) (es : List Event) :
    (read (inner.masked field) (outer.map (Frame.masked field)) (mode.masked field) es).map
        (maskAll field) = (read inner outer mode es).map (maskAll field) := by
  induction es generalizing inner outer mode with
  | nil => cases mode <;> rfl
  | cons e r ih =>
    -- a text or a reference continues the content of a field, masked or not
    have hmore : ∀ name content more,
        (read (inner.masked field) (outer.map (Frame.masked field))
          (.text name ((if name = field then "" else content) ++ more)) r).map (maskAll field) =
            (read inner outer (.text name (content ++ more)) r).map (maskAll field) := by
      intro name content more
      rw [← ih, Frame.masked_masked, map_masked_masked, Mode.masked_append, ih]
    cases e with
    | fault f => rfl
    | start tag =>
      cases mode with
      | text name content => exact ih inner outer (.text name content)
      | passOver depth => exact ih inner outer (.passOver (depth + 1))
      | children =>
        simp only [Mode.masked, read]
        cases readName tag with
        | error e => rfl
        | ok name =>
          have hchildren : (inner.masked field).children = inner.children := rfl
          simp only [hchildren]
          cases inner.children.lookup name with
          | none => exact ih inner outer (.passOver 0)
          | some layout =>
            cases layout with
            | text =>
              have h := ih inner outer (.text name "")
              rwa [Mode.masked, ite_self] at h
            | group children =>
              exact ih ⟨name, children, []⟩ (inner :: outer) .children
    | stop =>
      cases mode with
      | passOver depth =>
        cases depth with
        | zero => exact ih inner outer .children
        | succ depth => exact ih inner outer (.passOver depth)
      | text name content =>
        exact ih (inner.add (.text name content)) outer .children
      | children =>
        cases outer with
        | nil =>
          show Except.ok (maskAll field (maskAll field inner.parts).reverse) =
            Except.ok (maskAll field inner.parts.reverse)
          rw [maskAll_reverse, maskAll_reverse, maskAll_maskAll]
        | cons next outer =>
          have h := ih (next.add inner.part) outer .children
          rwa [Frame.masked_add, Frame.masked_part] at h
    | text raw =>
      cases mode with
      | children => exact ih inner outer .children
      | passOver depth => exact ih inner outer (.passOver depth)
      | text name content =>
        simp only [Mode.masked, read]
        cases readText raw with
        | error e => rfl
        | ok more => exact hmore name content more
    | reference raw =>
      cases mode with
      | children => exact ih inner outer .children
      | passOver depth => exact ih inner outer (.passOver depth)
      | text name content =>
        simp only [Mode.masked, read]
        cases readReference raw with
        | error e => rfl
        | ok c => exact hmore name content (String.singleton c)

end

/-! ## Fields -/

/-- A layout, or one further down, has a field of this name. -/
def HasField (children : List (String × Layout)) (name : String) : Prop :=
  ∃ path, FieldPath children path ∧ path.getLast? = some name

theorem HasField.here {children : List (String × Layout)} {name : String}
    (h : children.lookup name = some .text) : HasField children name := ⟨[name], .text h, rfl⟩

theorem HasField.deeper {children inner : List (String × Layout)} {group name : String}
    (h : children.lookup group = some (.group inner)) (hinner : HasField inner name) :
    HasField children name := by
  obtain ⟨path, hpath, hlast⟩ := hinner
  exact ⟨group :: path, .group h hpath, by rw [List.getLast?_cons, hlast, Option.getD_some]⟩

theorem readName_bytes (name : String) : readName (Utf8.bytes name) = .ok name := by
  rw [readName, Utf8.strict_bytes]
  rfl

/-- The frames have layouts of the document, and a field that is read is one of the open elements,
though perhaps not the innermost. -/
structure Placed (children : List (String × Layout)) (opened : List Bytes) (inner : Frame)
    (outer : List Frame) (mode : Mode) : Prop where
  frames : ∀ f ∈ inner :: outer, ∀ name, HasField f.children name → HasField children name
  field : ∀ name content, mode = .text name content →
    HasField children name ∧ ∃ tag ∈ opened, readName tag = .ok name

/-- Reading is over, or it goes on from here, whatever tokens follow. -/
def GoesOn (children : List (String × Layout)) (opened : List Bytes)
    (result : List Token → Except Error (List Part)) : Prop :=
  (∃ x, ∀ r, result r = x) ∨ ∃ inner outer mode, Placed children opened inner outer mode ∧
    ∀ r, result r = read inner outer mode (Event.ofTokens opened r)

section
variable {children : List (String × Layout)} {opened : List Bytes} {inner : Frame}
  {outer : List Frame} {mode : Mode}

theorem Placed.passive (h : Placed children opened inner outer mode) (opened' : List Bytes)
    {mode' : Mode} (hmode : mode'.Passive) : Placed children opened' inner outer mode' :=
  ⟨h.frames, fun name content hm => by
    rw [hm] at hmode
    exact hmode.elim⟩

theorem Placed.of_frames (h : ∀ f ∈ inner :: outer, ∀ name, HasField f.children name →
    HasField children name) : Placed children opened inner outer .children :=
  ⟨h, fun _ _ hmode => by cases hmode⟩

theorem Placed.add {p : Part} (h : Placed children opened inner outer mode)
    (opened' : List Bytes) : Placed children opened' (inner.add p) outer .children := by
  refine .of_frames fun f hf => ?_
  rcases List.mem_cons.1 hf with rfl | hf
  · exact h.frames inner (.head _)
  · exact h.frames f (.tail _ hf)

theorem goesOn_opening (h : Placed children opened inner outer mode) (tag : Bytes) :
    GoesOn children (tag :: opened)
      fun r => read inner outer mode (Event.ofTokens opened (.opening tag :: r)) := by
  cases mode with
  | passOver depth =>
    exact .inr ⟨inner, outer, .passOver (depth + 1), h.passive _ trivial, fun _ => rfl⟩
  | text name content =>
    obtain ⟨hfield, tag', htag, hname⟩ := h.field name content rfl
    refine .inr ⟨inner, outer, .text name content, ⟨h.frames, ?_⟩, fun _ => rfl⟩
    rintro _ _ ⟨⟩
    exact ⟨hfield, tag', .tail _ htag, hname⟩
  | children =>
    simp only [Event.ofTokens, read]
    cases hname : readName tag with
    | error e => exact .inl ⟨.error e, fun _ => rfl⟩
    | ok name =>
      cases hlayout : inner.children.lookup name with
      | none =>
        exact .inr ⟨inner, outer, .passOver 0, h.passive _ trivial, fun _ => by simp only [hlayout]⟩
      | some layout =>
        cases layout with
        | text =>
          refine .inr ⟨inner, outer, .text name "", ⟨h.frames, ?_⟩, fun _ => by simp only [hlayout]⟩
          rintro _ _ ⟨⟩
          exact ⟨h.frames inner (.head _) name (.here hlayout), tag, .head _, hname⟩
        | group known =>
          refine .inr ⟨⟨name, known, []⟩, inner :: outer, .children, .of_frames fun f hf => ?_,
            fun _ => by simp only [hlayout]⟩
          rcases List.mem_cons.1 hf with rfl | hf
          · exact fun n hn => h.frames inner (.head _) n (.deeper hlayout hn)
          · exact h.frames f hf

theorem goesOn_closing (h : Placed children opened inner outer mode) (tag : Bytes) :
    GoesOn children opened.tail
      fun r => read inner outer mode (Event.ofTokens opened (.closing tag :: r)) := by
  cases opened with
  | nil => exact .inl ⟨_, fun _ => rfl⟩
  | cons expected opened =>
    by_cases htag : tag = expected
    · simp only [Event.ofTokens, if_pos htag]
      cases mode with
      | text name content => exact .inr ⟨_, outer, .children, h.add _, fun _ => rfl⟩
      | passOver depth =>
        cases depth with
        | zero => exact .inr ⟨inner, outer, .children, h.passive _ trivial, fun _ => rfl⟩
        | succ depth =>
          exact .inr ⟨inner, outer, .passOver depth, h.passive _ trivial, fun _ => rfl⟩
      | children =>
        cases outer with
        | nil => exact .inl ⟨_, fun _ => rfl⟩
        | cons next outer =>
          have hnext : Placed children opened next outer .children :=
            .of_frames fun f hf => h.frames f (.tail _ hf)
          exact .inr ⟨_, outer, .children, hnext.add _, fun _ => rfl⟩
    · simp only [Event.ofTokens, if_neg htag]
      exact .inl ⟨_, fun _ => rfl⟩

theorem goesOn_content (h : Placed children opened inner outer mode) {t : Token}
    (ht : t.Quiet) :
    GoesOn children opened fun r => read inner outer mode (Event.ofTokens opened (t :: r)) := by
  cases mode with
  | children =>
    rcases ht with ⟨raw, rfl⟩ | ⟨raw, rfl⟩ <;> exact .inr ⟨inner, outer, .children, h, fun _ => rfl⟩
  | passOver depth =>
    rcases ht with ⟨raw, rfl⟩ | ⟨raw, rfl⟩ <;>
      exact .inr ⟨inner, outer, .passOver depth, h, fun _ => rfl⟩
  | text name content =>
    have hmore : ∀ more, Placed children opened inner outer (.text name more) := fun more =>
      ⟨h.frames, by rintro _ _ ⟨⟩; exact h.field name content rfl⟩
    rcases ht with ⟨raw, rfl⟩ | ⟨raw, rfl⟩
    · simp only [Event.ofTokens, read]
      cases readText raw with
      | error e => exact .inl ⟨.error e, fun _ => rfl⟩
      | ok more => exact .inr ⟨inner, outer, .text name _, hmore _, fun _ => rfl⟩
    · simp only [Event.ofTokens, read]
      cases readReference raw with
      | error e => exact .inl ⟨.error e, fun _ => rfl⟩
      | ok c => exact .inr ⟨inner, outer, .text name _, hmore _, fun _ => rfl⟩

theorem goesOn_token (h : Placed children opened inner outer mode) (t : Token) :
    GoesOn children (openAfter opened t)
      fun r => read inner outer mode (Event.ofTokens opened (t :: r)) := by
  cases t with
  | fault f => exact .inl ⟨_, fun _ => rfl⟩
  | opening tag => exact goesOn_opening h tag
  | closing tag => exact goesOn_closing h tag
  | text raw => exact goesOn_content h (.inl ⟨raw, rfl⟩)
  | reference raw => exact goesOn_content h (.inr ⟨raw, rfl⟩)

theorem goesOn_tokens (tokens : List Token) (h : Placed children opened inner outer mode) :
    GoesOn children (tokens.foldl openAfter opened)
      fun r => read inner outer mode (Event.ofTokens opened (tokens ++ r)) := by
  induction tokens generalizing opened inner outer mode with
  | nil => exact .inr ⟨inner, outer, mode, h, fun _ => rfl⟩
  | cons t tokens ih =>
    rcases goesOn_token h t with ⟨x, hx⟩ | ⟨inner', outer', mode', h', hnext⟩
    · exact .inl ⟨x, fun r => hx (tokens ++ r)⟩
    · rcases ih h' with ⟨x, hx⟩ | ⟨inner'', outer'', mode'', h'', hlast⟩
      · exact .inl ⟨x, fun r => (hnext (tokens ++ r)).trans (hx r)⟩
      · exact .inr ⟨inner'', outer'', mode'', h'', fun r => (hnext (tokens ++ r)).trans (hlast r)⟩

/-- Tokens that leave an element open take the reader beyond the root's start tag. -/
theorem goesOn_root (children : List (String × Layout)) (root : String) (tokens : List Token)
    (hopened : tokens.foldl openAfter [] ≠ []) :
    GoesOn children (tokens.foldl openAfter [])
      fun r => readRoot root children (Event.ofTokens [] (tokens ++ r)) := by
  induction tokens with
  | nil => exact absurd rfl hopened
  | cons t tokens ih =>
    cases t with
    | fault f => exact .inl ⟨_, fun _ => rfl⟩
    | closing tag => exact .inl ⟨_, fun _ => rfl⟩
    | text raw | reference raw => exact ih hopened
    | opening tag =>
      simp only [List.cons_append, Event.ofTokens, readRoot]
      by_cases htag : tag = Utf8.bytes root
      · simp only [if_pos htag]
        refine goesOn_tokens tokens (.of_frames fun f hf => ?_)
        rw [List.mem_singleton.1 hf]
        exact fun _ => id
      · simp only [if_neg htag]
        exact .inl ⟨_, fun _ => rfl⟩

end

/-! ## Places for a text -/

/-- Text without marks. -/
def IsPlainText (s : String) : Prop := '<' ∉ s.toList ∧ '&' ∉ s.toList

/-- A document with a place for a text: `before` ends inside an element of this name, where a
stretch of text begins, and a tag follows it. -/
structure Slot (field : String) where
  before : Bytes
  after : Bytes
  tokens : List Token
  around : List Bytes
  scanned : ∀ r, Token.ofBytes (before ++ r) = tokens ++ Token.scan (.text []) r
  opened : tokens.foldl openAfter [] = Utf8.bytes field :: around

namespace Slot

variable {field : String} (place : Slot field)

def fill (s : String) : Bytes := place.before ++ (Utf8.bytes s ++ 0x3C :: place.after)

/-- No element around the place is a field of the document. -/
def IsClear (d : DocumentType) : Prop :=
  ∀ tag ∈ place.around, ∀ name, readName tag = .ok name → ¬ HasField d.layout name

theorem isClear_of_names {place : Slot field} {d : DocumentType} {names : List String}
    (haround : place.around = names.map Utf8.bytes)
    (h : ∀ name ∈ names, ∀ path ∈ d.fieldPaths, path.getLast? ≠ some name) : place.IsClear d := by
  rintro tag htag name hname ⟨path, hpath, hlast⟩
  rw [haround] at htag
  obtain ⟨name', hname', rfl⟩ := List.mem_map.1 htag
  obtain rfl : name' = name := Except.ok.inj ((readName_bytes name').symm.trans hname)
  exact h name' hname' path (DocumentType.mem_fieldPaths hpath) hlast

theorem ofBytes_fill {s : String} (hs : IsPlainText s) :
    Token.ofBytes (place.fill s) = place.tokens ++
      (Token.texts (Utf8.bytes s) ++ Token.scan (.tag none []) place.after) := by
  unfold fill
  rw [place.scanned, Token.scan_string [] _ hs, Token.scan_text_open]
  simp

end Slot

theorem readDocument_fill {field : String} {place : Slot field} {d : DocumentType}
    (hclear : place.IsClear d) {s s' : String} (hs : IsPlainText s) (hs' : IsPlainText s') :
    (readDocument d.root d.layout (place.fill s)).map (maskAll field) =
      (readDocument d.root d.layout (place.fill s')).map (maskAll field) := by
  have hopened : place.tokens.foldl openAfter [] ≠ [] := by
    rw [place.opened]
    exact List.cons_ne_nil _ _
  unfold readDocument Event.ofBytes
  rw [place.ofBytes_fill hs, place.ofBytes_fill hs']
  rcases goesOn_root d.layout d.root place.tokens hopened with
    ⟨x, hx⟩ | ⟨inner, outer, mode, hplaced, hnext⟩
  · beta_reduce at hx
    rw [hx, hx]
  · beta_reduce at hnext
    rw [hnext, hnext]
    cases mode with
    | children =>
      rw [read_quiet .children trivial (Token.quiet_texts _),
        read_quiet .children trivial (Token.quiet_texts _)]
    | passOver depth =>
      rw [read_quiet (.passOver depth) trivial (Token.quiet_texts _),
        read_quiet (.passOver depth) trivial (Token.quiet_texts _)]
    | text name content =>
      -- the field that is read is none of the elements around the place
      obtain ⟨hfield, tag, htag, hname⟩ := hplaced.field name content rfl
      have hself : name = field := by
        rw [place.opened] at htag
        rcases List.mem_cons.1 htag with rfl | htag
        · exact Except.ok.inj (hname.symm.trans (readName_bytes field))
        · exact absurd hfield (hclear tag htag name hname)
      rw [read_stretch, read_stretch, ← read_masked,
        ← read_masked _ _ (.text name (content ++ trimmed s')), Mode.masked, Mode.masked,
        if_pos hself, if_pos hself]

end BucketAccess.Markup
