import BucketAccess.Proofs.Markup.DocumentType
import Mathlib

/-!
# Documents that break off

`rootEnd` is where the root element of a document is closed, found by the names of the elements that
stand open after each byte. A document in which no element stands inside a field is read only if its
root is closed, and so none of its beginnings before that place is read. A field that holds an
element ends at that element's end tag, and then a document may be read whose root is still open.
-/

namespace BucketAccess.Markup

/-- The names of the elements that stand open after a token, the innermost first. -/
def openAfter (opened : List Bytes) : Token → List Bytes
  | .opening name => name :: opened
  | .closing _ => opened.tail
  | .text _ | .reference _ | .fault _ => opened

/-- Whether a token closes the outermost element. -/
def closesRoot (opened : List Bytes) (t : Token) : Bool :=
  !opened.isEmpty && (openAfter opened t).isEmpty

/-- Whether one of the tokens does. -/
def closes (opened : List Bytes) : List Token → Bool
  | [] => false
  | t :: r => closesRoot opened t || closes (openAfter opened t) r

def rootEndFrom (s : Token.State) (opened : List Bytes) : Bytes → Option Nat
  | [] => none
  | b :: r =>
    if closes opened (s.step b).1 then some 1
    else
      match (s.step b).2 with
      | none => none
      | some next => (rootEndFrom next ((s.step b).1.foldl openAfter opened) r).map (· + 1)

/-- How long the byte order mark of a document is. -/
def orderMark : Bytes → Nat
  | 0xEF :: 0xBB :: 0xBF :: _ => 3
  | _ => 0

/-- How long a document is up to the end of the tag that closes its root. -/
def rootEnd (document : Bytes) : Option Nat :=
  (rootEndFrom (.text []) [] (document.drop (orderMark document))).map (· + orderMark document)

/-! ## Fields without elements -/

/-- What a layout says about the innermost of these elements. -/
def layoutAt (children : List (String × Layout)) : List Bytes → Option Layout
  | [] => none
  | [_] => some (.group children)
  | name :: outer =>
    match layoutAt children outer with
    | some (.group inner) => (Utf8.strict name).toOption.bind fun n => inner.lookup n
    | _ => none

/-- Whether the innermost of these elements is a field. -/
def isField (children : List (String × Layout)) (opened : List Bytes) : Bool :=
  match layoutAt children opened with
  | some .text => true
  | _ => false

/-- Whether no start tag stands in a field, up to the end of the root. -/
def flatFrom (children : List (String × Layout)) (opened : List Bytes) : List Token → Bool
  | [] => true
  | t :: r =>
    (match t with
      | .opening _ => !isField children opened
      | _ => true) && (closesRoot opened t || flatFrom children (openAfter opened t) r)

/-- No element stands in a field of the document. -/
def DocumentType.Flat (d : DocumentType) (document : Bytes) : Prop :=
  flatFrom d.layout [] (Token.ofBytes document)

/-! ## What is read and what stands open -/

/-- The frames are the innermost open elements, each with the layout of its place. -/
def Framed (children : List (String × Layout)) : List Frame → List Bytes → Prop
  | [], [] => True
  | f :: outer, name :: names =>
    layoutAt children (name :: names) = some (.group f.children) ∧ Framed children outer names
  | _, _ => False

/-- How the open elements stand to what is being read. -/
def Aligned (children : List (String × Layout)) (inner : Frame) (outer : List Frame)
    (opened : List Bytes) : Mode → Prop
  | .children => Framed children (inner :: outer) opened
  | .text _ _ => isField children opened ∧ Framed children (inner :: outer) opened.tail
  | .passOver depth => Framed children (inner :: outer) (opened.drop (depth + 1))

section
variable {children : List (String × Layout)} {inner : Frame} {outer : List Frame} {mode : Mode}
  {opened : List Bytes} {parts : List Part} {r : List Token}

theorem Aligned.ne_nil (h : Aligned children inner outer opened mode) : opened ≠ [] := by
  rintro rfl
  cases mode <;> simp [Aligned, Framed] at h

theorem Framed.add {f : Frame} {p : Part} (h : Framed children (f :: outer) opened) :
    Framed children (f.add p :: outer) opened := by
  cases opened <;> exact h

/-- The layout of a child of an element whose children are read. -/
theorem layoutAt_cons {name : Bytes} {n : String}
    (h : layoutAt children opened = some (.group inner.children)) (hn : readName name = .ok n) :
    layoutAt children (name :: opened) = inner.children.lookup n := by
  cases opened with
  | nil => simp [layoutAt] at h
  | cons o os =>
    have hs : Utf8.strict name = .ok n := by
      unfold readName at hn
      cases hu : Utf8.strict name with
      | error e => rw [hu] at hn; cases hn
      | ok m => rw [hu] at hn; cases hn; rfl
    rw [layoutAt, h]
    · simp [hs, Except.toOption]
    · simp

/-- A token that opens or closes nothing leaves the open elements as they are. -/
theorem aligned_content {t : Token} (h : Aligned children inner outer opened mode)
    (ht : (∃ raw, t = .text raw) ∨ ∃ raw, t = .reference raw)
    (ok : read inner outer mode (Event.ofTokens opened (t :: r)) = .ok parts) :
    ∃ mode', Aligned children inner outer opened mode' ∧
      read inner outer mode' (Event.ofTokens opened r) = .ok parts := by
  cases mode with
  | children =>
    refine ⟨.children, h, ?_⟩
    rcases ht with ⟨raw, rfl⟩ | ⟨raw, rfl⟩ <;> simpa [Event.ofTokens, read] using ok
  | passOver depth =>
    refine ⟨.passOver depth, h, ?_⟩
    rcases ht with ⟨raw, rfl⟩ | ⟨raw, rfl⟩ <;> simpa [Event.ofTokens, read] using ok
  | text name content =>
    rcases ht with ⟨raw, rfl⟩ | ⟨raw, rfl⟩
    · simp only [Event.ofTokens, read] at ok
      split at ok
      · cases ok
      · rename_i more _
        exact ⟨.text name (content ++ more), h, ok⟩
    · simp only [Event.ofTokens, read] at ok
      split at ok
      · cases ok
      · rename_i c _
        exact ⟨.text name (content.push c), h, ok⟩

theorem aligned_opening {tag : Bytes} (h : Aligned children inner outer opened mode)
    (flat : isField children opened = false)
    (ok : read inner outer mode (Event.ofTokens opened (.opening tag :: r)) = .ok parts) :
    ∃ inner' outer' mode', Aligned children inner' outer' (tag :: opened) mode' ∧
      read inner' outer' mode' (Event.ofTokens (tag :: opened) r) = .ok parts := by
  cases mode with
  | text name content => exact absurd h.1 (by simp [flat])
  | passOver depth =>
    exact ⟨inner, outer, .passOver (depth + 1), h, by simpa [Event.ofTokens, read] using ok⟩
  | children =>
    obtain ⟨o, os, rfl⟩ := List.exists_cons_of_ne_nil h.ne_nil
    simp only [Event.ofTokens, read] at ok
    split at ok
    · cases ok
    · rename_i name hname
      have place := layoutAt_cons h.1 hname
      split at ok
      · rename_i hl
        exact ⟨inner, outer, .text name "", ⟨by simp [isField, place, hl], h⟩, ok⟩
      · rename_i cs hl
        exact ⟨⟨name, cs, []⟩, inner :: outer, .children, ⟨by simp [place, hl], h⟩, ok⟩
      · exact ⟨inner, outer, .passOver 0, h, ok⟩

/-- The end tag of an element is read as its end, and that of the root ends the reading. -/
theorem aligned_closing {tag : Bytes} (h : Aligned children inner outer opened mode)
    (ok : read inner outer mode (Event.ofTokens opened (.closing tag :: r)) = .ok parts) :
    opened.tail = [] ∨
      ∃ inner' outer' mode', Aligned children inner' outer' opened.tail mode' ∧
        read inner' outer' mode' (Event.ofTokens opened.tail r) = .ok parts := by
  obtain ⟨o, os, rfl⟩ := List.exists_cons_of_ne_nil h.ne_nil
  simp only [Event.ofTokens] at ok
  split at ok
  case isFalse => simp [read] at ok
  case isTrue =>
    cases mode with
    | text name content => exact .inr ⟨inner.add (.text name content), outer, .children, h.2.add, ok⟩
    | passOver depth =>
      cases depth with
      | zero => exact .inr ⟨inner, outer, .children, h, ok⟩
      | succ depth => exact .inr ⟨inner, outer, .passOver depth, h, ok⟩
    | children =>
      cases outer with
      | cons next outer => exact .inr ⟨next.add inner.part, outer, .children, h.2.add, ok⟩
      | nil =>
        cases os with
        | nil => exact .inl rfl
        | cons => exact absurd h.2 (by simp [Framed])

/-- What one more token leads to when the document is read in the end. -/
theorem aligned_token (t : Token) (h : Aligned children inner outer opened mode)
    (flat : ∀ name, t = .opening name → isField children opened = false)
    (ok : read inner outer mode (Event.ofTokens opened (t :: r)) = .ok parts) :
    closesRoot opened t = true ∨ ∃ inner' outer' mode',
      Aligned children inner' outer' (openAfter opened t) mode' ∧
      read inner' outer' mode' (Event.ofTokens (openAfter opened t) r) = .ok parts := by
  cases t with
  | fault f => simp [Event.ofTokens, read] at ok
  | text raw =>
    obtain ⟨mode', h', ok'⟩ := aligned_content h (.inl ⟨raw, rfl⟩) ok
    exact .inr ⟨inner, outer, mode', h', ok'⟩
  | reference raw =>
    obtain ⟨mode', h', ok'⟩ := aligned_content h (.inr ⟨raw, rfl⟩) ok
    exact .inr ⟨inner, outer, mode', h', ok'⟩
  | opening tag => exact .inr (aligned_opening h (flat tag rfl) ok)
  | closing tag =>
    rcases aligned_closing h ok with last | next
    · exact .inl (by simp [closesRoot, openAfter, last, h.ne_nil])
    · exact .inr next

theorem closes_of_read (tokens : List Token) (h : Aligned children inner outer opened mode)
    (flat : flatFrom children opened tokens)
    (ok : read inner outer mode (Event.ofTokens opened tokens) = .ok parts) :
    closes opened tokens := by
  induction tokens generalizing inner outer mode opened with
  | nil => cases mode <;> simp [Event.ofTokens, read] at ok
  | cons t r ih =>
    simp only [flatFrom, Bool.and_eq_true, Bool.or_eq_true] at flat
    rw [closes, Bool.or_eq_true]
    have field : ∀ name, t = .opening name → isField children opened = false := by
      rintro name rfl
      simpa using flat.1
    rcases aligned_token t h field ok with hc | ⟨inner', outer', mode', h', ok'⟩
    · exact .inl hc
    · rcases flat.2 with hc | flat
      · exact .inl hc
      · exact .inr (ih h' flat ok')

/-- Before the root, only texts and references may stand. -/
theorem closes_of_readRoot {name : String} (tokens : List Token)
    (flat : flatFrom children [] tokens)
    (ok : readRoot name children (Event.ofTokens [] tokens) = .ok parts) :
    closes [] tokens := by
  induction tokens with
  | nil => simp [Event.ofTokens, readRoot] at ok
  | cons t r ih =>
    simp only [flatFrom, Bool.and_eq_true, Bool.or_eq_true] at flat
    rw [closes, Bool.or_eq_true]
    cases t with
    | fault f => simp [Event.ofTokens, readRoot] at ok
    | closing tag => simp [Event.ofTokens, readRoot] at ok
    | text raw | reference raw =>
      exact .inr (ih (by simpa [closesRoot, openAfter] using flat.2)
        (by simpa [Event.ofTokens, readRoot] using ok))
    | opening tag =>
      simp only [Event.ofTokens, readRoot] at ok
      split at ok
      · have aligned : Aligned children ⟨name, children, []⟩ [] [tag] .children := ⟨rfl, trivial⟩
        exact .inr (closes_of_read r aligned (by simpa [closesRoot, openAfter] using flat.2) ok)
      · cases ok

end

/-! ## Bytes -/

theorem closes_append (opened : List Bytes) (a b : List Token) :
    closes opened (a ++ b) = (closes opened a || closes (a.foldl openAfter opened) b) := by
  induction a generalizing opened with
  | nil => simp [closes]
  | cons t a ih => simp [closes, ih, Bool.or_assoc]

theorem flatFrom_append (children : List (String × Layout)) (opened : List Bytes)
    (a b : List Token) : flatFrom children opened (a ++ b) =
      (flatFrom children opened a &&
        (closes opened a || flatFrom children (a.foldl openAfter opened) b)) := by
  induction a generalizing opened with
  | nil => simp [flatFrom, closes]
  | cons t a ih =>
    simp only [List.cons_append, flatFrom, ih, closes, List.foldl_cons]
    cases closesRoot opened t <;> simp [Bool.and_assoc]

theorem texts_eq (content : Bytes) : Token.texts content = [] ∨
    Token.texts content = [.text (trim content)] := by
  unfold Token.texts
  split
  · exact .inl rfl
  · exact .inr rfl

/-- The end of the bytes opens and closes nothing. -/
theorem finish_eq (s : Token.State) : s.finish = [] ∨ (∃ content, s.finish = [.text content]) ∨
    ∃ f, s.finish = [.fault f] := by
  rcases s with seen | seen | ⟨- | quote, seen⟩ | seen | - | seen | seen | ⟨part, seen⟩
  case text =>
    rcases texts_eq seen.reverse with h | h
    · exact .inl h
    · exact .inr (.inl ⟨_, h⟩)
  all_goals exact .inr (.inr ⟨_, rfl⟩)

theorem closes_finish (opened : List Bytes) (s : Token.State) : closes opened s.finish = false := by
  rcases finish_eq s with h | ⟨content, h⟩ | ⟨f, h⟩ <;> simp [h, closes, closesRoot, openAfter]

theorem flatFrom_finish (children : List (String × Layout)) (opened : List Bytes)
    (s : Token.State) : flatFrom children opened s.finish := by
  rcases finish_eq s with h | ⟨content, h⟩ | ⟨f, h⟩ <;> simp [h, flatFrom]

/-- One byte, and then the rest. -/
theorem scan_cons (s : Token.State) (b : UInt8) (r : Bytes) :
    Token.scan s (b :: r) =
      (s.step b).1 ++ ((s.step b).2.map (Token.scan · r)).getD [] := by
  rw [Token.scan]
  rcases s.step b with ⟨tokens, - | next⟩ <;> simp

theorem rootEndFrom_of_closes {s : Token.State} {opened : List Bytes} {bs : Bytes}
    (h : closes opened (Token.scan s bs)) :
    ∃ n ≤ bs.length, rootEndFrom s opened bs = some n := by
  induction bs generalizing s opened with
  | nil => simp [Token.scan, closes_finish] at h
  | cons b r ih =>
    rw [scan_cons, closes_append, Bool.or_eq_true] at h
    rw [rootEndFrom]
    by_cases hc : closes opened (s.step b).1
    · exact ⟨1, by simp, by simp [hc]⟩
    · have h := h.resolve_left hc
      cases hn : (s.step b).2 with
      | none => simp [hn, closes] at h
      | some next =>
        obtain ⟨n, hle, hend⟩ := ih (by simpa [hn] using h)
        exact ⟨n + 1, by simpa using hle, by simp [hc, hend]⟩

theorem rootEndFrom_take {s : Token.State} {opened : List Bytes} {bs : Bytes} {n m : Nat}
    (h : rootEndFrom s opened bs = some n) (hm : m < n) :
    rootEndFrom s opened (bs.take m) = none := by
  induction bs generalizing s opened n m with
  | nil => simp [rootEndFrom] at h
  | cons b r ih =>
    cases m with
    | zero => rfl
    | succ m =>
      rw [rootEndFrom] at h
      rw [List.take_succ_cons, rootEndFrom]
      by_cases hc : closes opened (s.step b).1
      · simp only [hc, if_true] at h
        cases h
        omega
      · simp only [hc] at h ⊢
        cases hn : (s.step b).2 with
        | none => rfl
        | some next =>
          simp only [hn] at h
          obtain ⟨k, hk, rfl⟩ := Option.map_eq_some_iff.1 h
          simp [ih hk (by omega : m < k)]

theorem flatFrom_take {children : List (String × Layout)} {s : Token.State}
    {opened : List Bytes} {bs : Bytes} (h : flatFrom children opened (Token.scan s bs)) (m : Nat) :
    flatFrom children opened (Token.scan s (bs.take m)) := by
  induction bs generalizing s opened m with
  | nil => simpa using h
  | cons b r ih =>
    cases m with
    | zero => exact flatFrom_finish ..
    | succ m =>
      rw [List.take_succ_cons, scan_cons, flatFrom_append]
      rw [scan_cons, flatFrom_append] at h
      cases hn : (s.step b).2 with
      | none => simpa [hn] using h
      | some next =>
        simp only [hn, Option.map_some, Option.getD_some, Bool.and_eq_true,
          Bool.or_eq_true] at h ⊢
        exact ⟨h.1, h.2.imp_right fun h => ih h m⟩

/-! ## Documents -/

theorem ofBytes_eq (document : Bytes) :
    Token.ofBytes document = Token.scan (.text []) (document.drop (orderMark document)) := by
  unfold Token.ofBytes orderMark
  split <;> simp

theorem orderMark_eq_zero {document : Bytes}
    (h : ∀ r, document ≠ 0xEF :: 0xBB :: 0xBF :: r) : orderMark document = 0 := by
  unfold orderMark
  split
  · exact absurd rfl (h _)
  · rfl

/-- The tokens of a beginning of a document, which may end in the byte order mark. -/
theorem ofBytes_take (document : Bytes) (m : Nat) :
    Token.ofBytes (document.take m) = Token.scan (.text [])
        ((document.drop (orderMark document)).take (m - orderMark document)) ∨
      ∃ content, Token.ofBytes (document.take m) = [.text content] := by
  by_cases marked : ∃ r, document = 0xEF :: 0xBB :: 0xBF :: r
  · obtain ⟨r, rfl⟩ := marked
    match m with
    | 0 => exact .inl rfl
    | 1 => exact .inr ⟨[0xEF], rfl⟩
    | 2 => exact .inr ⟨[0xEF, 0xBB], rfl⟩
    | k + 3 => exact .inl rfl
  · have h0 : orderMark document = 0 := orderMark_eq_zero fun r h => marked ⟨r, h⟩
    have h1 : orderMark (document.take m) = 0 := by
      refine orderMark_eq_zero fun r h => marked ⟨r ++ document.drop m, ?_⟩
      have := List.take_append_drop m document
      rw [h] at this
      simpa using this.symm
    exact .inl (by simp [ofBytes_eq, h0, h1])

theorem closes_take {document : Bytes} {n m : Nat} (h : rootEnd document = some n) (hm : m < n) :
    closes [] (Token.ofBytes (document.take m)) = false := by
  obtain ⟨k, hk, rfl⟩ := Option.map_eq_some_iff.1 h
  rcases ofBytes_take document m with tokens | ⟨content, tokens⟩
  · rw [tokens, ← Bool.not_eq_true]
    intro closed
    obtain ⟨j, _, hj⟩ := rootEndFrom_of_closes closed
    by_cases hb : orderMark document ≤ m
    · rw [rootEndFrom_take hk (by omega)] at hj
      cases hj
    · rw [show m - orderMark document = 0 by omega] at hj
      cases hj
  · rw [tokens]
    rfl

theorem DocumentType.Flat.take {d : DocumentType} {document : Bytes} (h : d.Flat document)
    (m : Nat) : d.Flat (document.take m) := by
  unfold Flat at *
  rcases ofBytes_take document m with tokens | ⟨content, tokens⟩
  · rw [ofBytes_eq] at h
    rw [tokens]
    exact flatFrom_take h _
  · rw [tokens]
    rfl

theorem DocumentType.closes_of_read {d : DocumentType} {document : Bytes} {v : d.Value}
    (flat : d.Flat document) (h : d.read document = .ok v) :
    closes [] (Token.ofBytes document) := by
  obtain ⟨parts, hp⟩ := parts_of_read h
  exact closes_of_readRoot _ flat hp

theorem rootEnd_of_closes {document : Bytes} (h : closes [] (Token.ofBytes document)) :
    ∃ n ≤ document.length, rootEnd document = some n := by
  rw [ofBytes_eq] at h
  obtain ⟨n, hle, hn⟩ := rootEndFrom_of_closes h
  rw [List.length_drop] at hle
  have hpos : orderMark document ≤ document.length := by
    unfold orderMark
    split <;> simp
  exact ⟨n + orderMark document, by omega, by simp [rootEnd, hn]⟩

/-- A document without elements in its fields is read only if its root is closed in it, and no
beginning of it that stops short of that is read. -/
theorem root_closed_of_read (d : DocumentType) (document : Bytes) (flat : d.Flat document) :
    (∀ v, d.read document = .ok v → ∃ n ≤ document.length, rootEnd document = some n) ∧
      ∀ n, rootEnd document = some n → ∀ m < n, ∃ e, d.read (document.take m) = .error e := by
  refine ⟨fun v h => rootEnd_of_closes (DocumentType.closes_of_read flat h), ?_⟩
  intro n hn m hm
  cases h : d.read (document.take m) with
  | error e => exact ⟨e, rfl⟩
  | ok v =>
    have closed := DocumentType.closes_of_read (flat.take m) h
    rw [closes_take hn hm] at closed
    cases closed

/-- A failure of object storage with one field. -/
def reported : Bytes := Utf8.bytes "<Error><Code>NoSuchBucket</Code></Error>"

/-- The same with an element in the field, broken off before the root is closed. -/
def brokenOff : Bytes := Utf8.bytes "<Error><Code>NoSuch<b>Bucket</b></Code>"

theorem root_closed_of_read_reported : DocumentType.storageFailure.Flat reported ∧
    rootEnd reported = some 40 ∧
    ∃ e, DocumentType.storageFailure.read (reported.take 39) = .error e := by
  have flat : DocumentType.storageFailure.Flat reported := by
    unfold DocumentType.Flat reported
    decide +kernel
  have closed : rootEnd reported = some 40 := by decide +kernel
  exact ⟨flat, closed, (root_closed_of_read .storageFailure reported flat).2 40 closed 39 (by decide)⟩

theorem read_brokenOff : rootEnd brokenOff = none ∧
    DocumentType.storageFailure.read brokenOff = .ok ⟨"NoSuchBucket", "", none, ""⟩ :=
  ⟨by decide +kernel, by cbv⟩

end BucketAccess.Markup
