import BucketAccess.Proofs.Policy.Edit
import BucketAccess.Proofs.Program.Interruption
import BucketAccess.Proofs.Provision.Failure
import BucketAccess.Proofs.Storage.Absence
import BucketAccess.Proofs.Users.Absence
import Mathlib.Logic.Function.Basic

/-!
# A backend

What a backend has, what it says to each call, and what it has then: users with the ids of their
keys, and buckets with or without a policy. What is absent cannot be deleted and need not be: the
backend says so, and the clients are content.
-/

namespace BucketAccess

/-! ## Users -/

namespace Users

/-- A user at the backend. -/
structure Holder where
  locator : String
  keys : List String

abbrev Directory := String → Option Holder

def Absent {α : Type} (r : Except Error α) : Prop := ∃ e, r = .error e ∧ e.isAbsence = true

/-- What the backend says to a call, and its users before and after. The locator of a new user is a
matter of its name. A user with keys is not deleted, and lists are complete. -/
def Serves (locatorOf : String → String) (s : Directory) : (c : Call) → c.Said → Directory → Prop
  | .createUser user, r, s' =>
    match s user with
    | none => (∃ u, r = .ok u ∧ u.arn = locatorOf user) ∧
        s' = Function.update s user (some ⟨locatorOf user, []⟩)
    | some _ => (∃ e, r = .error e) ∧ s' = s
  | .getUser user, r, s' =>
    match s user with
    | none => Absent r ∧ s' = s
    | some h => (∃ u, r = .ok u ∧ u.arn = h.locator) ∧ s' = s
  | .deleteUser user, r, s' =>
    match s user with
    | none => Absent r ∧ s' = s
    | some h =>
      if h.keys = [] then r = .ok () ∧ s' = Function.update s user none
      else (∃ e, r = .error e ∧ e.isAbsence = false) ∧ s' = s
  | .createKey user, r, s' =>
    match s user with
    | none => Absent r ∧ s' = s
    | some h => ∃ key, r = .ok key ∧
        s' = Function.update s user (some { h with keys := h.keys ++ [key.id] })
  | .deleteKey user id, r, s' =>
    match s user with
    | none => Absent r ∧ s' = s
    | some h =>
      if id ∈ h.keys then
        r = .ok () ∧ s' = Function.update s user (some { h with keys := h.keys.filter (· ≠ id) })
      else Absent r ∧ s' = s
  | .listKeys user, r, s' =>
    match s user with
    | none => Absent r ∧ s' = s
    | some h => (∃ entries, r = .ok entries ∧ entries.map KeyEntry.id = h.keys) ∧ s' = s

theorem orAbsent_of_absent {α : Type} {r : Except Error α} (h : Absent r) :
    orAbsent r = .ok none := by
  obtain ⟨e, rfl, he⟩ := h
  exact if_pos he

theorem settle_getUser {user : String} {r : Except Error User} (h : Absent r) :
    settle (.getUser user) r = .ok none :=
  congrArg (Except.map id) (orAbsent_of_absent h)

theorem settle_deleteUser {user : String} {r : Except Error Unit} (h : Absent r) :
    settle (.deleteUser user) r = .ok () :=
  congrArg (Except.map fun _ => ()) (orAbsent_of_absent h)

theorem settle_deleteKey {user id : String} {r : Except Error Unit} (h : Absent r) :
    settle (.deleteKey user id) r = .ok () :=
  congrArg (Except.map fun _ => ()) (orAbsent_of_absent h)

theorem settle_listKeys {user : String} {r : Except Error (List KeyEntry)} (h : Absent r) :
    settle (.listKeys user) r = .ok [] :=
  congrArg (Except.map fun entries : Option (List KeyEntry) => entries.getD [])
    (orAbsent_of_absent h)

end Users

/-! ## Buckets -/

namespace Storage

abbrev Buckets := String → Option (Option Policy.Document)

def Lacks {α : Type} (missing : Missing) (r : Except Error α) : Prop :=
  ∃ e, r = .error e ∧ e.missing? = some missing

/-- What the backend says to a call, and its buckets before and after. -/
def Serves (s : Buckets) : (c : Call) → c.Said → Buckets → Prop
  | .createBucket bucket _ _, r, s' =>
    match s bucket with
    | none => r = .ok () ∧ s' = Function.update s bucket (some none)
    | some _ => (∃ e, r = .error e) ∧ s' = s
  | .deleteBucket bucket, r, s' =>
    match s bucket with
    | none => Lacks .bucket r ∧ s' = s
    | some _ => r = .ok () ∧ s' = Function.update s bucket none
  | .headBucket bucket, r, s' =>
    match s bucket with
    | none => Lacks .bucket r ∧ s' = s
    | some _ => r = .ok () ∧ s' = s
  | .getPolicy bucket _, r, s' =>
    match s bucket with
    | none => Lacks .bucket r ∧ s' = s
    | some none => Lacks .policy r ∧ s' = s
    | some (some d) => r = .ok d ∧ s' = s
  | .putPolicy bucket d _, r, s' =>
    match s bucket with
    | none => Lacks .bucket r ∧ s' = s
    | some _ => r = .ok () ∧ s' = Function.update s bucket (some (some d))
  | .deletePolicy bucket _, r, s' =>
    match s bucket with
    | none => Lacks .bucket r ∧ s' = s
    | some _ => r = .ok () ∧ s' = Function.update s bucket (some none)

theorem orTolerated_of_lacks {α : Type} {missing : Missing} {r : Except Error α} {t : Tolerance}
    (h : Lacks missing r) (ht : t.allows missing = true) : orTolerated t r = .ok none := by
  obtain ⟨e, rfl, he⟩ := h
  refine if_pos ?_
  simp [Error.tolerated?, he, ht]

theorem settle_getPolicy {missing : Missing} {bucket : String} {t : Tolerance}
    {r : Except Error Policy.Document} (h : Lacks missing r) (ht : t.allows missing = true) :
    settle (.getPolicy bucket t) r = .ok none :=
  congrArg (Except.map id) (orTolerated_of_lacks h ht)

end Storage

/-! ## Steps -/

namespace Provision

structure Backend where
  users : Users.Directory
  buckets : Storage.Buckets

variable {S U : Type}

namespace Backend

def UsersServe (locatorOf : String → String) (s : Backend) (u : Turn Users.api) (s' : Backend) :
    Prop :=
  ∃ said, Users.Serves locatorOf s.users u.call said s'.users ∧ u.reply = Users.settle u.call said ∧
    s'.buckets = s.buckets

def StorageServe (s : Backend) (u : Turn Storage.api) (s' : Backend) : Prop :=
  ∃ said, Storage.Serves s.buckets u.call said s'.buckets ∧
    u.reply = Storage.settle u.call said ∧ s'.users = s.users

/-- Secrets are found and clients are made of them; all clients have the same backend. -/
def Step (locatorOf : String → String) (s : Backend) : Turn (api S U) → Backend → Prop
  | ⟨.secret _, r⟩, s' => (∃ c, r = .ok c) ∧ s' = s
  | ⟨.connectStorage _, r⟩, s' => (∃ c, r = .ok c) ∧ s' = s
  | ⟨.connectUsers _, r⟩, s' => (∃ c, r = .ok c) ∧ s' = s
  | ⟨.storage _ c, r⟩, s' => StorageServe s ⟨c, r⟩ s'
  | ⟨.users _ c, r⟩, s' => UsersServe locatorOf s ⟨c, r⟩ s'
  | ⟨.lock _, _⟩, s' | ⟨.unlock _, _⟩, s' => s' = s

/-- The policy of a bucket, which is none of a bucket that is missing. -/
def policy (s : Backend) (bucket : String) : Option Policy.Document := (s.buckets bucket).join

/-- Of what is stored, `m` and `s` differ in one user at most. -/
def OnlyUser (user : String) (s m : Backend) : Prop :=
  m.buckets = s.buckets ∧ ∀ x, x ≠ user → m.users x = s.users x

variable {locatorOf : String → String} {s m : Backend} {user : String}

theorem OnlyUser.refl (user : String) (s : Backend) : OnlyUser user s s := ⟨rfl, fun _ _ => rfl⟩

theorem OnlyUser.trans {s₁ s₂ s₃ : Backend} (h₁ : OnlyUser user s₁ s₂) (h₂ : OnlyUser user s₂ s₃) :
    OnlyUser user s₁ s₃ :=
  ⟨h₂.1.trans h₁.1, fun x hx => (h₂.2 x hx).trans (h₁.2 x hx)⟩

theorem OnlyUser.update {h : Option Users.Holder} (hb : m.buckets = s.buckets)
    (hu : m.users = Function.update s.users user h) : OnlyUser user s m :=
  ⟨hb, fun x hx => by rw [hu, Function.update_of_ne hx]⟩

theorem OnlyUser.of_users_eq (hb : m.buckets = s.buckets) (hu : m.users = s.users) :
    OnlyUser user s m :=
  ⟨hb, fun x _ => congrFun hu x⟩

theorem eq_of_fields (hb : m.buckets = s.buckets) (hu : m.users = s.users) : m = s := by
  cases m
  cases s
  cases hb
  cases hu
  rfl

/-! ### Calls about users -/

theorem serves_listKeys {r : Except Users.Error (List Users.KeyEntry)}
    (h : UsersServe locatorOf s ⟨.listKeys user, r⟩ m) : m = s ∧ ∃ entries, r = .ok entries ∧
      ∀ x ∈ s.users user, ∀ k ∈ x.keys, k ∈ entries.map Users.KeyEntry.id := by
  obtain ⟨said, hserves, hr, hb⟩ := h
  simp only [Users.Serves] at hserves
  split at hserves
  · next hu =>
    obtain ⟨habsent, hsame⟩ := hserves
    refine ⟨eq_of_fields hb hsame, [], ?_, ?_⟩
    · exact hr.trans (Users.settle_listKeys habsent)
    · rw [hu]
      exact nofun
  · next x hu =>
    obtain ⟨⟨entries, rfl, hkeys⟩, hsame⟩ := hserves
    refine ⟨eq_of_fields hb hsame, entries, hr, ?_⟩
    rw [hu]
    rintro _ ⟨⟩ k hk
    rwa [hkeys]

theorem serves_deleteKey {id : String} {r : Except Users.Error Unit}
    (h : UsersServe locatorOf s ⟨.deleteKey user id, r⟩ m) : r = .ok () ∧ OnlyUser user s m ∧
      ∀ x ∈ m.users user, ∃ y ∈ s.users user, ∀ k ∈ x.keys, k ∈ y.keys ∧ k ≠ id := by
  obtain ⟨said, hserves, hr, hb⟩ := h
  simp only [Users.Serves] at hserves
  split at hserves
  · next hu =>
    obtain ⟨habsent, hsame⟩ := hserves
    refine ⟨?_, .of_users_eq hb hsame, ?_⟩
    · exact hr.trans (Users.settle_deleteKey habsent)
    · rw [hsame, hu]
      exact nofun
  · next y hu =>
    split at hserves
    · obtain ⟨rfl, hnew⟩ := hserves
      refine ⟨hr, .update hb hnew, ?_⟩
      rw [hnew, Function.update_self, hu]
      rintro _ ⟨⟩
      exact ⟨y, rfl, fun k hk => by simpa using hk⟩
    · next hid =>
      obtain ⟨habsent, hsame⟩ := hserves
      refine ⟨?_, .of_users_eq hb hsame, ?_⟩
      · exact hr.trans (Users.settle_deleteKey habsent)
      · rw [hsame, hu]
        rintro _ ⟨⟩
        exact ⟨y, rfl, fun k hk => ⟨hk, fun he => hid (he ▸ hk)⟩⟩

theorem serves_deleteUser {r : Except Users.Error Unit}
    (h : UsersServe locatorOf s ⟨.deleteUser user, r⟩ m)
    (hkeys : ∀ x ∈ s.users user, x.keys = []) :
    r = .ok () ∧ OnlyUser user s m ∧ m.users user = none := by
  obtain ⟨said, hserves, hr, hb⟩ := h
  simp only [Users.Serves] at hserves
  split at hserves
  · next hu =>
    obtain ⟨habsent, hsame⟩ := hserves
    refine ⟨?_, .of_users_eq hb hsame, by rw [hsame, hu]⟩
    exact hr.trans (Users.settle_deleteUser habsent)
  · next x hu =>
    rw [if_pos (hkeys x hu)] at hserves
    obtain ⟨rfl, hnew⟩ := hserves
    exact ⟨hr, .update hb hnew, by rw [hnew, Function.update_self]⟩

theorem serves_getUser {r : Except Users.Error (Option Users.User)}
    (h : UsersServe locatorOf s ⟨.getUser user, r⟩ m) : m = s ∧ ∃ found, r = .ok found ∧
      found.map Users.User.arn = (s.users user).map Users.Holder.locator := by
  obtain ⟨said, hserves, hr, hb⟩ := h
  simp only [Users.Serves] at hserves
  split at hserves
  · next hu =>
    obtain ⟨habsent, hsame⟩ := hserves
    refine ⟨eq_of_fields hb hsame, none, ?_, by rw [hu]; rfl⟩
    exact hr.trans (Users.settle_getUser habsent)
  · next x hu =>
    obtain ⟨⟨u, rfl, harn⟩, hsame⟩ := hserves
    refine ⟨eq_of_fields hb hsame, some u, hr, ?_⟩
    rw [hu, Option.map_some, Option.map_some, harn]

theorem serves_createUser {r : Except Users.Error Users.User}
    (h : UsersServe locatorOf s ⟨.createUser user, r⟩ m) (hu : s.users user = none) :
    (∃ u, r = .ok u ∧ u.arn = locatorOf user) ∧ OnlyUser user s m ∧
      m.users user = some ⟨locatorOf user, []⟩ := by
  obtain ⟨said, hserves, hr, hb⟩ := h
  simp only [Users.Serves, hu] at hserves
  obtain ⟨⟨u, rfl, harn⟩, hnew⟩ := hserves
  exact ⟨⟨u, hr, harn⟩, .update hb hnew, by rw [hnew, Function.update_self]⟩

theorem serves_createKey {r : Except Users.Error Users.AccessKey} {x : Users.Holder}
    (h : UsersServe locatorOf s ⟨.createKey user, r⟩ m) (hu : s.users user = some x) :
    (∃ key, r = .ok key) ∧ OnlyUser user s m ∧ ∃ keys, m.users user = some ⟨x.locator, keys⟩ := by
  obtain ⟨said, hserves, hr, hb⟩ := h
  simp only [Users.Serves, hu] at hserves
  obtain ⟨key, rfl, hnew⟩ := hserves
  exact ⟨⟨key, hr⟩, .update hb hnew, _, by rw [hnew, Function.update_self]⟩

/-! ### Calls about buckets -/

variable {bucket : String} {t : Storage.Tolerance}

theorem serves_headBucket {r : Except Storage.Error Unit}
    (h : StorageServe s ⟨.headBucket bucket, r⟩ m) (hbucket : (s.buckets bucket).isSome) :
    r = .ok () ∧ m = s := by
  obtain ⟨p, hp⟩ := Option.isSome_iff_exists.1 hbucket
  obtain ⟨said, hserves, hr, hu⟩ := h
  simp only [Storage.Serves, hp] at hserves
  obtain ⟨rfl, hsame⟩ := hserves
  exact ⟨hr, eq_of_fields hsame hu⟩

theorem serves_getPolicy {r : Except Storage.Error (Option Policy.Document)}
    (h : StorageServe s ⟨.getPolicy bucket t, r⟩ m) (hpolicy : t.policy = true)
    (hbucket : t.bucket = true ∨ (s.buckets bucket).isSome) :
    r = .ok (s.policy bucket) ∧ m = s := by
  obtain ⟨said, hserves, hr, hu⟩ := h
  simp only [Storage.Serves] at hserves
  unfold policy
  split at hserves
  · next hp =>
    obtain ⟨hlacks, hsame⟩ := hserves
    have ht : t.allows .bucket = true := hbucket.resolve_right (by simp [hp])
    rw [hp]
    exact ⟨hr.trans (Storage.settle_getPolicy hlacks ht), eq_of_fields hsame hu⟩
  · next hp =>
    obtain ⟨hlacks, hsame⟩ := hserves
    have ht : t.allows .policy = true := hpolicy
    rw [hp]
    exact ⟨hr.trans (Storage.settle_getPolicy hlacks ht), eq_of_fields hsame hu⟩
  · next d hp =>
    obtain ⟨rfl, hsame⟩ := hserves
    rw [hp]
    exact ⟨hr, eq_of_fields hsame hu⟩

theorem serves_putPolicy {r : Except Storage.Error Unit} {d : Policy.Document}
    (h : StorageServe s ⟨.putPolicy bucket d t, r⟩ m) (hbucket : (s.buckets bucket).isSome) :
    r = .ok () ∧ m.users = s.users ∧
      m.buckets = Function.update s.buckets bucket (some (some d)) := by
  obtain ⟨p, hp⟩ := Option.isSome_iff_exists.1 hbucket
  obtain ⟨said, hserves, hr, hu⟩ := h
  simp only [Storage.Serves, hp] at hserves
  obtain ⟨rfl, hnew⟩ := hserves
  exact ⟨hr, hu, hnew⟩

theorem serves_deletePolicy {r : Except Storage.Error Unit}
    (h : StorageServe s ⟨.deletePolicy bucket t, r⟩ m) (hbucket : (s.buckets bucket).isSome) :
    r = .ok () ∧ m.users = s.users ∧
      m.buckets = Function.update s.buckets bucket (some none) := by
  obtain ⟨p, hp⟩ := Option.isSome_iff_exists.1 hbucket
  obtain ⟨said, hserves, hr, hu⟩ := h
  simp only [Storage.Serves, hp] at hserves
  obtain ⟨rfl, hnew⟩ := hserves
  exact ⟨hr, hu, hnew⟩

/-! ### Totality -/

theorem exists_usersServe (c : Users.Call) (s : Backend) :
    ∃ r m, UsersServe locatorOf s ⟨c, r⟩ m := by
  suffices h : ∃ said users, Users.Serves locatorOf s.users c said users by
    obtain ⟨said, users, h⟩ := h
    exact ⟨Users.settle c said, ⟨users, s.buckets⟩, said, h, rfl, rfl⟩
  have absent : ∀ {α : Type}, Users.Absent (α := α)
      (.error (.backend "" 404 ⟨Users.absence, "", ""⟩)) :=
    ⟨_, rfl, by decide⟩
  cases c with
  | createUser user =>
    simp only [Users.Serves]
    cases s.users user with
    | none => exact ⟨.ok ⟨"", "", "", locatorOf user, ""⟩, _, ⟨_, rfl, rfl⟩, rfl⟩
    | some h => exact ⟨.error .noParams, _, ⟨_, rfl⟩, rfl⟩
  | getUser user =>
    simp only [Users.Serves]
    cases s.users user with
    | none => exact ⟨_, _, absent, rfl⟩
    | some h => exact ⟨.ok ⟨"", "", "", h.locator, ""⟩, _, ⟨_, rfl, rfl⟩, rfl⟩
  | deleteUser user =>
    simp only [Users.Serves]
    cases s.users user with
    | none => exact ⟨_, _, absent, rfl⟩
    | some h =>
      by_cases hk : h.keys = []
      · simp only [if_pos hk]
        exact ⟨_, _, rfl, rfl⟩
      · simp only [if_neg hk]
        exact ⟨.error .noParams, _, ⟨_, rfl, rfl⟩, rfl⟩
  | createKey user =>
    simp only [Users.Serves]
    cases s.users user with
    | none => exact ⟨_, _, absent, rfl⟩
    | some h => exact ⟨.ok ⟨"", "", "", "", "", ""⟩, _, _, rfl, rfl⟩
  | deleteKey user id =>
    simp only [Users.Serves]
    cases s.users user with
    | none => exact ⟨_, _, absent, rfl⟩
    | some h =>
      by_cases hk : id ∈ h.keys
      · simp only [if_pos hk]
        exact ⟨_, _, rfl, rfl⟩
      · simp only [if_neg hk]
        exact ⟨_, _, absent, rfl⟩
  | listKeys user =>
    simp only [Users.Serves]
    cases s.users user with
    | none => exact ⟨_, _, absent, rfl⟩
    | some h =>
      refine ⟨.ok (h.keys.map fun id => ⟨"", id, "", "", ""⟩), _, ⟨_, rfl, ?_⟩, rfl⟩
      simp [Function.comp_def]

theorem exists_storageServe (c : Storage.Call) (s : Backend) : ∃ r m, StorageServe s ⟨c, r⟩ m := by
  suffices h : ∃ said buckets, Storage.Serves s.buckets c said buckets by
    obtain ⟨said, buckets, h⟩ := h
    exact ⟨Storage.settle c said, ⟨s.users, buckets⟩, said, h, rfl, rfl⟩
  have lacks : ∀ {α : Type} (missing : Storage.Missing), Storage.Lacks (α := α) missing
      (.error (.backend ⟨"", "", 404, missing.code, "", ""⟩)) := by
    intro α missing
    cases missing <;> exact ⟨_, rfl, rfl⟩
  cases c with
  | createBucket bucket acl location =>
    simp only [Storage.Serves]
    cases s.buckets bucket with
    | none => exact ⟨_, _, rfl, rfl⟩
    | some p => exact ⟨.error (.connect .emptyEndpoint), _, ⟨_, rfl⟩, rfl⟩
  | getPolicy bucket t =>
    simp only [Storage.Serves]
    rcases s.buckets bucket with _ | _ | d
    · exact ⟨_, _, lacks .bucket, rfl⟩
    · exact ⟨_, _, lacks .policy, rfl⟩
    · exact ⟨_, _, rfl, rfl⟩
  | deleteBucket bucket | headBucket bucket | putPolicy bucket _ _ | deletePolicy bucket _ =>
    simp only [Storage.Serves]
    cases s.buckets bucket with
    | none => exact ⟨_, _, lacks .bucket, rfl⟩
    | some p => exact ⟨_, _, rfl, rfl⟩

/-- The backend says something to every call. -/
theorem exists_step [Inhabited S] [Inhabited U] (c : Call S U) (s : Backend) :
    ∃ r m, Step locatorOf s ⟨c, r⟩ m := by
  match c with
  | .secret _ => exact ⟨.ok ⟨"", "", "", none⟩, s, ⟨_, rfl⟩, rfl⟩
  | .connectStorage _ => exact ⟨.ok default, s, ⟨_, rfl⟩, rfl⟩
  | .connectUsers _ => exact ⟨.ok default, s, ⟨_, rfl⟩, rfl⟩
  | .storage _ c => exact exists_storageServe c s
  | .users _ c => exact exists_usersServe c s
  | .lock _ | .unlock _ => exact ⟨(), s, rfl⟩

end Backend

end Provision

end BucketAccess
