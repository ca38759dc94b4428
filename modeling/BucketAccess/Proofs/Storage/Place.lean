import BucketAccess.Proofs.Markup.Enclosed
import BucketAccess.Proofs.Storage.Sending

/-!
# Places of new buckets

The request for a new bucket may name a place. Its body is then a document with two elements, the
place standing in the inner one, and no place makes it another: it is read back as it was given, and
different places have different bodies.
-/

namespace BucketAccess.Storage

open Markup

/-! ## The body -/

def placeDeclaration : Bytes := Utf8.bytes "xml version=\"1.0\" encoding=\"UTF-8\""

def placeRoot : Tag :=
  ⟨"CreateBucketConfiguration", Utf8.bytes " xmlns=\"http://s3.amazonaws.com/doc/2006-03-01/\""⟩

def placeElement : Tag := ⟨"LocationConstraint", []⟩

/-- What stands before a place. -/
def placeFront : List Char :=
  "<?xml version=\"1.0\" encoding=\"UTF-8\"?>".toList ++
    "<CreateBucketConfiguration xmlns=\"http://s3.amazonaws.com/doc/2006-03-01/\">".toList ++
    "<LocationConstraint>".toList

/-- What stands after a place. -/
def placeBack : List Char := "</LocationConstraint></CreateBucketConfiguration>".toList

theorem bucketConfiguration_some (place : String) :
    bucketConfiguration "CreateBucketConfiguration" (some place) =
      placeFront ++ (escape place.toList ++ placeBack) := by
  have hfront : "<?xml version=\"1.0\" encoding=\"UTF-8\"?><".toList ++
      "CreateBucketConfiguration".toList ++
      " xmlns=\"http://s3.amazonaws.com/doc/2006-03-01/\">".toList ++
      "<LocationConstraint>".toList = placeFront := by decide +kernel
  have hback : "</LocationConstraint>".toList ++ "</".toList ++
      "CreateBucketConfiguration".toList ++ ">".toList = placeBack := by decide +kernel
  unfold bucketConfiguration
  simp only [← hfront, ← hback, List.append_assoc]

theorem creationBody_some {place : String} (h : place ≠ "") :
    Client.creationBody (some place) =
      Utf8.encode (placeFront ++ (escape place.toList ++ placeBack)) := by
  have hkept : (some place).filter (!·.isEmpty) = some place := by simpa using h
  unfold Client.creationBody
  rw [hkept, ← bucketConfiguration_some]

/-- The body is that of a document with one element in its root. -/
theorem bytes_enclosing_place (place : String) :
    (enclosing placeDeclaration placeRoot placeElement place.toList).bytes =
      Utf8.encode (placeFront ++ (escape place.toList ++ placeBack)) := by
  have hfront : instructionBytes placeDeclaration ++ 0x3C :: (placeRoot.bytes ++ 0x3E :: 0x3C ::
      (placeElement.bytes ++ [0x3E])) = Utf8.encode placeFront := by decide +kernel
  have hback : 0x3C :: (endTag placeElement.name [] ++ 0x3C :: endTag placeRoot.name []) =
      Utf8.encode placeBack := by decide +kernel
  rw [bytes_enclosing, Utf8.encode_append, Utf8.encode_append, ← hfront, ← hback, bytes_escaped]
  simp

/-! ## What the body says -/

theorem isInstruction_placeDeclaration : IsInstruction placeDeclaration := by
  unfold IsInstruction
  decide

theorem placeRoot_wellFormed : placeRoot.WellFormed where
  name := by decide
  quoted := by
    have hquote : 0x22 ∉ Utf8.bytes "http://s3.amazonaws.com/doc/2006-03-01/" := by decide
    have hname : Quoted [0x3E] (Utf8.bytes " xmlns=") := quoted_of_not_mem (by decide +kernel)
    exact hname.append (.quote (.inl rfl) hquote .nil)
  blank := by
    rintro _ ⟨⟩
    rfl
  closed := by decide

theorem placeElement_wellFormed : placeElement.WellFormed :=
  ⟨by decide, .nil, nofun, nofun⟩

theorem creationBody_eq_iff {place : String} (h : place ≠ "") (other : Option String) :
    Client.creationBody other = Client.creationBody (some place) ↔ other = some place := by
  constructor
  · intro hbody
    have hne : Client.creationBody other ≠ [] := by
      rw [hbody, creationBody_some h]
      exact fun hnil => absurd (List.append_eq_nil_iff.1 (Utf8.encode_eq_nil hnil)).1 (by decide)
    cases other with
    | none => exact absurd rfl hne
    | some name =>
      by_cases hname : name = ""
      · rw [hname] at hne
        exact absurd rfl hne
      · rw [creationBody_some hname, creationBody_some h] at hbody
        have htext := List.append_cancel_left (Utf8.encode_inj hbody)
        have hescaped := escape_inj (List.append_cancel_right htext)
        rw [String.toList_injective hescaped]
  · rintro rfl
    rfl

/-- A body that names a place and says nothing else. -/
structure NamesOnly (body : Bytes) (place : String) : Prop where
  /-- Up to the next angle bracket, which begins the end tag, the place stands escaped. -/
  text : ∃ s, body = Utf8.encode (placeFront ++ (s ++ placeBack)) ∧
    (∀ c ∈ s, IsSpecial c → c = '&') ∧ unescape? s = some place.toList
  events : ∃ inside, (∀ e ∈ inside, e.IsText) ∧ Event.ofBytes body =
    .start (Utf8.bytes "CreateBucketConfiguration") :: .start (Utf8.bytes "LocationConstraint") ::
      (inside ++ [.stop, .stop])
  alone : ∀ other, Client.creationBody other = body ↔ other = some place

theorem namesOnly_creationBody {place : String} (h : place ≠ "") :
    NamesOnly (Client.creationBody (some place)) place where
  text := ⟨_, creationBody_some h, fun c => eq_ampersand_of_mem_escape, unescape?_escape _⟩
  events := by
    rw [creationBody_some h, ← bytes_enclosing_place]
    exact events_enclosing isInstruction_placeDeclaration placeRoot_wellFormed placeElement_wellFormed _
  alone := creationBody_eq_iff h

/-- The body of the one request that asks for a bucket at a place names the place, whatever it is,
and says nothing else. -/
theorem place_enclosed {k : Client} {bucket place : String} {acl : Option String}
    {t : List (Turn Web.http)} {reply : (Call.createBucket bucket acl (some place)).Reply}
    (hplace : place ≠ "") (h : (k.perform (.createBucket bucket acl (some place))).Ends t reply) :
    ∃ time answer request, t = [⟨.now, time⟩, ⟨.send request, answer⟩] ∧
      NamesOnly request.body place := by
  obtain ⟨time, answer, ht⟩ := Client.turns_perform h
  exact ⟨time, answer, _, ht, namesOnly_creationBody hplace⟩

/-- A place that is written as the end of the element, with a reference and an end of raw text. -/
theorem place_enclosed_markup : "</LocationConstraint>&lt;]]>" ≠ "" ∧
    ∃ request answer reply,
      (Client.atRoot.perform (.createBucket "b" none (some "</LocationConstraint>&lt;]]>"))).Ends
        [⟨.now, Client.epoch⟩, ⟨.send request, answer⟩] reply ∧
      NamesOnly request.body "</LocationConstraint>&lt;]]>" := by
  have hne : "</LocationConstraint>&lt;]]>" ≠ "" := by decide
  have hcall : (Client.atRoot.perform
      (.createBucket "b" none (some "</LocationConstraint>&lt;]]>"))).Ends
      [⟨.now, Client.epoch⟩, ⟨.send (Client.atRoot.requestOf
        (.createBucket "b" none (some "</LocationConstraint>&lt;]]>")) Client.epoch),
          .error (.noAnswer "http://h/b")⟩]
      (.error (.transport "CreateBucket" "b" (.noAnswer "http://h/b"))) :=
    .note (.call (.note (.call (.done _))))
  obtain ⟨time, answer, request, ht, hnames⟩ := place_enclosed hne hcall
  obtain ⟨-, htail⟩ := List.cons.inj ht
  obtain ⟨hturn, -⟩ := List.cons.inj htail
  cases hturn
  exact ⟨hne, _, _, _, hcall, hnames⟩

end BucketAccess.Storage
