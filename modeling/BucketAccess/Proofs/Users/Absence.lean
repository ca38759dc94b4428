import BucketAccess.Proofs.Program.Attempt
import BucketAccess.Users.Client

/-!
# Absences in user management

What the client makes of what the backend says: that a user or a key is absent is a result of a
look-up, a list or a deletion, and a failure of everything else.
-/

namespace BucketAccess.Users

variable {α : Type}

/-- What the backend says to a call. -/
def Call.Said : Call → Type
  | .createUser _ | .getUser _ => Except Error User
  | .deleteUser _ | .deleteKey _ _ => Except Error Unit
  | .createKey _ => Except Error AccessKey
  | .listKeys _ => Except Error (List KeyEntry)

/-- Nothing is the result if the backend reports an absence. -/
def orAbsent (r : Except Error α) : Except Error (Option α) :=
  (r.map some).tryCatch fun e => if e.isAbsence then .ok none else .error e

theorem orAbsent_error (e : Error) :
    orAbsent (.error e : Except Error α) = if e.isAbsence then .ok none else .error e := rfl

/-- The reply to a call, by what the backend says. -/
def settle : (c : Call) → c.Said → c.Reply
  | .createUser _, r => r.map id
  | .getUser _, r => (orAbsent r).map id
  | .deleteUser _, r | .deleteKey _ _, r => (orAbsent r).map fun _ => ()
  | .createKey _, r => r.map id
  | .listKeys _, r => (orAbsent r).map fun entries => entries.getD []

namespace Client

/-- The request of a call, and what the answer says. -/
def exchange (k : Client) : (c : Call) → Program Web.http c.Said
  | .createUser user => value (k.invoke "CreateUser" [("UserName", user)] readCreateUser)
  | .getUser user => value (k.invoke "GetUser" [("UserName", user)] readGetUser)
  | .deleteUser user => value (k.invoke "DeleteUser" [("UserName", user)] readDeleteUser)
  | .createKey user => value (k.invoke "CreateAccessKey" [("UserName", user)] readCreateAccessKey)
  | .deleteKey user id =>
    value (k.invoke "DeleteAccessKey" [("UserName", user), ("AccessKeyId", id)] readDeleteAccessKey)
  | .listKeys user => value (k.invoke "ListAccessKeys" [("UserName", user)] readListAccessKeys)
where
  value {α : Type} (p : Attempt Web.http Error (Answer α)) : Program Web.http (Except Error α) :=
    p.run.bind fun r => .done (r.map Answer.value)

variable {k : Client} {t : List (Turn Web.http)}

theorem ends_value {p : Attempt Web.http Error (Answer α)} {r : Except Error α} :
    (exchange.value p).Ends t r ↔ ∃ x, p.run.Ends t x ∧ r = x.map Answer.value :=
  Program.ends_bind_silent fun _ => .done _

theorem ends_unlessAbsent {p : Attempt Web.http Error α} {r : Except Error (Option α)} :
    (unlessAbsent p).run.Ends t r ↔ ∃ x, p.run.Ends t x ∧ r = orAbsent x := by
  unfold unlessAbsent
  refine Attempt.ends_recover fun e => ?_
  by_cases he : e.isAbsence
  · rw [if_pos he, if_pos he]
    exact .done _
  · rw [if_neg he, if_neg he]
    exact .done _

/-- A call that takes no absence for a result. -/
theorem ends_plain {β : Type} {p : Attempt Web.http Error (Answer α)} {message : String}
    {fields : List (String × String)} {f : Answer α → Attempt Web.http Error β} {g : α → β}
    (hf : ∀ a, (f a).run.Ends [] (.ok (g a.value))) {r : Except Error β} :
    (info message fields >>= fun _ => p >>= f).run.Ends t r ↔
      ∃ said, (exchange.value p).Ends t said ∧ r = said.map g := by
  refine (Attempt.ends_log_bind hf).trans ?_
  constructor
  · rintro ⟨x, hx, rfl⟩
    refine ⟨_, ends_value.2 ⟨x, hx, rfl⟩, ?_⟩
    cases x <;> rfl
  · rintro ⟨said, hsaid, rfl⟩
    obtain ⟨x, hx, rfl⟩ := ends_value.1 hsaid
    refine ⟨x, hx, ?_⟩
    cases x <;> rfl

theorem ends_tolerant {β : Type} {p : Attempt Web.http Error (Answer α)} {message : String}
    {fields : List (String × String)} {f : Option (Answer α) → Attempt Web.http Error β}
    {g : Option α → β} (hf : ∀ a, (f a).run.Ends [] (.ok (g (a.map Answer.value))))
    {r : Except Error β} :
    (info message fields >>= fun _ => unlessAbsent p >>= f).run.Ends t r ↔
      ∃ said, (exchange.value p).Ends t said ∧ r = (orAbsent said).map g := by
  have hmap : ∀ x : Except Error (Answer α),
      (orAbsent x).bind (fun a => .ok (g (a.map Answer.value))) =
        (orAbsent (x.map Answer.value)).map g := by
    intro x
    cases x with
    | ok a => rfl
    | error e =>
      show (orAbsent (.error e)).bind _ = (orAbsent (.error e)).map g
      rw [orAbsent_error, orAbsent_error]
      split
      · rfl
      · rfl
  refine (Attempt.ends_log_bind hf).trans ?_
  constructor
  · rintro ⟨y, hy, rfl⟩
    obtain ⟨x, hx, rfl⟩ := ends_unlessAbsent.1 hy
    exact ⟨_, ends_value.2 ⟨x, hx, rfl⟩, hmap x⟩
  · rintro ⟨said, hsaid, rfl⟩
    obtain ⟨x, hx, rfl⟩ := ends_value.1 hsaid
    exact ⟨_, ends_unlessAbsent.2 ⟨x, hx, rfl⟩, (hmap x).symm⟩

/-- The reply of a client is what it makes of what the backend says. -/
theorem ends_perform {c : Call} {r : c.Reply} :
    (k.perform c).Ends t r ↔ ∃ said, (k.exchange c).Ends t said ∧ r = settle c said := by
  cases c with
  | createUser user => exact ends_plain fun _ => by exact .note (.done _)
  | getUser user => exact ends_tolerant fun a => by cases a <;> exact .note (.done _)
  | deleteUser user => exact ends_tolerant fun a => by cases a <;> exact .note (.done _)
  | createKey user => exact ends_plain fun _ => by exact .note (.done _)
  | deleteKey user id => exact ends_tolerant fun a => by cases a <;> exact .note (.done _)
  | listKeys user => exact ends_tolerant fun a => by cases a <;> exact .note (.done _)

end Client

end BucketAccess.Users
