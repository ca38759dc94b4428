import BucketAccess.Proofs.Program.Attempt
import BucketAccess.Users.Registration

/-!
# Reports of removals

A removal deletes the keys that are listed one after the other and then the user, and stops at the
first call that fails. Its report splits the list where it stopped: the keys before are gone, and
the one that could not be deleted is the first of those that are left.
-/

namespace BucketAccess.Users

variable {user : String} {t : List (Turn api)}

/-- Deletions of these keys, in order, none of which fails. -/
def deletions (user : String) (keys : List String) : List (Turn api) :=
  keys.map fun key => ⟨.deleteKey user key, .ok ()⟩

/-- The calls of a removal with their replies, and its result, by the first call that fails. -/
inductive Removes (user : String) : List (Turn api) → Except RemovalError Unit → Prop where
  | unlisted (e : Error) :
      Removes user [⟨.listKeys user, .error e⟩] (.error ⟨user, .listKeys, [], [], e⟩)
  | keyLeft {entries : List KeyEntry} {deleted after : List String} {key : String} (e : Error) :
      entries.map KeyEntry.id = deleted ++ key :: after →
      Removes user (⟨.listKeys user, .ok entries⟩ ::
          (deletions user deleted ++ [⟨.deleteKey user key, .error e⟩]))
        (.error ⟨user, .deleteKey, deleted, key :: after, e⟩)
  | userLeft (entries : List KeyEntry) (e : Error) :
      Removes user (⟨.listKeys user, .ok entries⟩ ::
          (deletions user (entries.map KeyEntry.id) ++ [⟨.deleteUser user, .error e⟩]))
        (.error ⟨user, .deleteUser, entries.map KeyEntry.id, [], e⟩)
  | whole (entries : List KeyEntry) :
      Removes user (⟨.listKeys user, .ok entries⟩ ::
          (deletions user (entries.map KeyEntry.id) ++ [⟨.deleteUser user, .ok ()⟩])) (.ok ())

/-! ## Keys -/

/-- The first key of a list: it is left with all that follow, or the others are next. -/
theorem ends_removeKeys_cons {deleted rest : List String} {key : String}
    {r : Except RemovalError Unit} :
    (removeKeys user deleted (key :: rest)).run.Ends t r ↔
      (∃ e, t = [⟨.deleteKey user key, .error e⟩] ∧
        r = .error ⟨user, .deleteKey, deleted, key :: rest, e⟩) ∨
      ∃ t', t = ⟨.deleteKey user key, .ok ()⟩ :: t' ∧
        (removeKeys user (deleted ++ [key]) rest).run.Ends t' r := by
  show Program.Ends (.call (Call.deleteKey user key) fun x => _) t r ↔ _
  rw [Program.ends_call]
  constructor
  · rintro ⟨x, t', rfl, h⟩
    cases x with
    | ok a => exact .inr ⟨t', rfl, h⟩
    | error e =>
      obtain ⟨rfl, rfl⟩ := Program.ends_done.1 (Program.ends_note.1 h)
      exact .inl ⟨e, rfl, rfl⟩
  · rintro (⟨e, rfl, rfl⟩ | ⟨t', rfl, h⟩)
    · exact ⟨.error e, [], rfl, .note (.done _)⟩
    · exact ⟨.ok (), t', rfl, h⟩

/-- What is deleted grows by what the list of keys loses, so that the two stay the whole list. -/
theorem ends_removeKeys {deleted keys : List String} {r : Except RemovalError Unit} :
    (removeKeys user deleted keys).run.Ends t r ↔
      (t = deletions user keys ∧ r = .ok ()) ∨
      ∃ before key after e, keys = before ++ key :: after ∧
        t = deletions user before ++ [⟨.deleteKey user key, .error e⟩] ∧
        r = .error ⟨user, .deleteKey, deleted ++ before, key :: after, e⟩ := by
  induction keys generalizing deleted t with
  | nil =>
    show Program.Ends (.done (.ok ())) t r ↔ _
    simp [deletions, eq_comm]
  | cons key rest ih =>
    rw [ends_removeKeys_cons]
    constructor
    · rintro (⟨e, rfl, rfl⟩ | ⟨t', rfl, h⟩)
      · exact .inr ⟨[], key, rest, e, rfl, rfl, by rw [List.append_nil]⟩
      · rcases ih.1 h with ⟨rfl, rfl⟩ | ⟨before, k, after, e, rfl, rfl, rfl⟩
        · exact .inl ⟨rfl, rfl⟩
        · exact .inr ⟨key :: before, k, after, e, rfl, rfl, by rw [← List.append_cons]⟩
    · rintro (⟨rfl, rfl⟩ | ⟨before, k, after, e, hkeys, rfl, rfl⟩)
      · exact .inr ⟨_, rfl, ih.2 (.inl ⟨rfl, rfl⟩)⟩
      · cases before with
        | nil =>
          obtain ⟨rfl, rfl⟩ := List.cons.inj hkeys
          exact .inl ⟨e, rfl, by rw [List.append_nil]⟩
        | cons first before =>
          obtain ⟨rfl, rfl⟩ := List.cons.inj hkeys
          refine .inr ⟨_, rfl, ih.2 (.inr ⟨before, k, after, e, rfl, rfl, ?_⟩)⟩
          rw [List.append_assoc, List.singleton_append]

/-! ## Whole removals -/

/-- The deletion of the user, once all the keys are gone. -/
theorem ends_deleteUser {keys : List String} {r : Except RemovalError Unit} :
    ((deleteUser user).mapError (RemovalError.mk user .deleteUser keys []) >>= fun _ =>
      Attempt.log .info "remove user success"
        (Log.texts [("user", user)] ++ [("deleted_keys", .count keys.length)])).run.Ends t r ↔
      ∃ x, t = [⟨.deleteUser user, x⟩] ∧ r = x.mapError (.mk user .deleteUser keys []) := by
  rw [Attempt.run_bind]
  refine (Program.ends_bind_silent (g := id) fun x => ?_).trans ?_
  · cases x with
    | ok a => exact .note (.done _)
    | error e => exact .done _
  · constructor
    · rintro ⟨y, hy, rfl⟩
      obtain ⟨x, hx, rfl⟩ := Attempt.ends_mapError.1 hy
      exact ⟨x, Program.ends_ask.1 hx, rfl⟩
    · rintro ⟨x, ht, rfl⟩
      exact ⟨_, Attempt.ends_mapError.2 ⟨x, Program.ends_ask.2 ht, rfl⟩, rfl⟩

theorem ends_remove {r : Except RemovalError Unit} :
    (remove user).run.Ends t r ↔ Removes user t r := by
  unfold remove
  rw [Attempt.run_bind, Program.ends_bind]
  constructor
  · rintro ⟨t₁, t₂, y, rfl, hlist, hrest⟩
    obtain ⟨x, hx, rfl⟩ := Attempt.ends_mapError.1 hlist
    obtain rfl := Program.ends_ask.1 hx
    cases x with
    | error e =>
      obtain ⟨rfl, rfl⟩ := Program.ends_done.1 hrest
      exact .unlisted e
    | ok entries =>
      obtain ⟨t₃, t₄, y, rfl, hkeys, huser⟩ := Program.ends_bind.1 hrest
      rcases ends_removeKeys.1 hkeys with ⟨rfl, rfl⟩ | ⟨before, key, after, e, hsplit, rfl, rfl⟩
      · obtain ⟨x, rfl, rfl⟩ := ends_deleteUser.1 huser
        cases x with
        | ok a => exact .whole entries
        | error e => exact .userLeft entries e
      · obtain ⟨rfl, rfl⟩ := Program.ends_done.1 huser
        rw [List.append_nil]
        exact .keyLeft e hsplit
  · intro h
    have hlist : ∀ x, ((listKeys user).mapError (RemovalError.mk user .listKeys [] [])).run.Ends
        [⟨.listKeys user, x⟩] (x.mapError (.mk user .listKeys [] [])) :=
      fun x => Attempt.ends_mapError.2 ⟨x, Program.ends_ask.2 rfl, rfl⟩
    have hall : ∀ keys, (removeKeys user [] keys).run.Ends (deletions user keys) (.ok ()) :=
      fun _ => ends_removeKeys.2 (.inl ⟨rfl, rfl⟩)
    cases h with
    | unlisted e => exact ⟨_, [], _, rfl, hlist (.error e), .done _⟩
    | @keyLeft entries deleted after key e hsplit =>
      have hkeys : (removeKeys user [] (entries.map KeyEntry.id)).run.Ends _ _ :=
        ends_removeKeys.2 (.inr ⟨deleted, key, after, e, hsplit, rfl, rfl⟩)
      exact ⟨_, _, _, rfl, hlist (.ok entries),
        Program.ends_bind.2 ⟨_, [], _, (List.append_nil _).symm, hkeys, .done _⟩⟩
    | userLeft entries e =>
      refine ⟨_, _, _, rfl, hlist (.ok entries), Program.ends_bind.2 ⟨_, _, _, rfl, hall _, ?_⟩⟩
      exact ends_deleteUser.2 ⟨.error e, rfl, rfl⟩
    | whole entries =>
      refine ⟨_, _, _, rfl, hlist (.ok entries), Program.ends_bind.2 ⟨_, _, _, rfl, hall _, ?_⟩⟩
      exact ends_deleteUser.2 ⟨.ok (), rfl, rfl⟩

/-- Whatever user management replies, a removal makes the calls and gives the report that
`Removes` says, and each of those can come about. -/
theorem removal_reported (user : String) :
    (∀ t r, (remove user).run.Ends t r ↔ Removes user t r) ∧
    ∀ {S : Type} (answer : (c : Call) → S → c.Reply × S) (s : S),
      Removes user ((remove user).run.turns answer s) ((remove user).run.run answer s).1 :=
  ⟨fun _ _ => ends_remove, fun _ s => ends_remove.1 (Program.ends_turns _ _ s)⟩

end BucketAccess.Users
