import Outreach.Proofs.Store.Table
import Outreach.User.Registry

/-! Storing the user of a profile. Whoever has the name or the address in the profile is brought up
to date, and if there is nobody a user is made; so the profile is always that of the user who was
stored, and no other user is touched. -/

namespace Outreach.Users

variable {db stored : Database} {now : Moment} {profile : SignInProfile} {user : User} {id : Int}

/-- The ways in which the user of a profile is stored. -/
inductive IsStored (db : Database) (now : Moment) (profile : SignInProfile) :
    Database → User → Prop where
  | made (nobody : db.users.rows.filter (isOwner profile) = []) :
      IsStored db now profile { db with users := db.users.insert (newRow now profile) }
        (Row.withId db.users.nextId (newRow now profile))
  | refreshed {row : User} (only : db.users.rows.filter (isOwner profile) = [row]) :
      IsStored db now profile { db with users := db.users.replace (refreshed now profile row) }
        (refreshed now profile row)

theorem upsert_isStored (upserted : upsert db now profile = .ok (stored, user)) :
    IsStored db now profile stored user := by
  unfold upsert at upserted
  split at upserted
  next nobody =>
    dsimp only at upserted
    rw [Table.lastId_insert] at upserted
    cases upserted
    exact .made nobody
  next only =>
    cases upserted
    exact .refreshed only
  next => cases upserted

/-- Only a profile that several users have is not stored. -/
theorem upsert_cases (db : Database) (now : Moment) (profile : SignInProfile) :
    (2 ≤ (db.users.rows.filter (isOwner profile)).length ∧
      upsert db now profile = .error (.failed .severalUsers)) ∨
    ((db.users.rows.filter (isOwner profile)).length ≤ 1 ∧
      ∃ stored user, upsert db now profile = .ok (stored, user)) := by
  unfold upsert
  cases db.users.rows.filter (isOwner profile) with
  | nil => exact .inr ⟨by simp, _, _, rfl⟩
  | cons user others =>
    cases others with
    | nil => exact .inr ⟨by simp, _, _, rfl⟩
    | cons other rest => exact .inl ⟨by simp, rfl⟩

/-- A user who is brought up to date keeps the number, and has what the profile tells. -/
theorem refreshed_profile (now : Moment) (profile : SignInProfile) (user : User) :
    (refreshed now profile user).id = user.id ∧
      (refreshed now profile user).googleId = profile.subject ∧
      (refreshed now profile user).email = profile.email := by
  unfold refreshed
  dsimp only
  split
  next same => exact ⟨rfl, congrArg User.googleId same.symm, congrArg User.email same.symm⟩
  next => exact ⟨rfl, rfl, rfl⟩

namespace IsStored

/-- The user is stored under the name and the address in the profile. -/
theorem told (isStored : IsStored db now profile stored user) :
    user ∈ stored.users.rows ∧ user.googleId = profile.subject ∧ user.email = profile.email := by
  cases isStored with
  | made => exact ⟨Table.mem_insert_iff.mpr (.inr rfl), rfl, rfl⟩
  | @refreshed row only =>
    obtain ⟨same, profiled⟩ := refreshed_profile now profile row
    have own : row ∈ db.users.rows.filter (isOwner profile) := by
      rw [only]
      exact List.mem_singleton_self row
    have before := (List.mem_filter.mp own).1
    exact ⟨Table.mem_replace_iff.mpr (.inr ⟨rfl, row, before, same.symm⟩), profiled⟩

/-- Nothing is stored but a user. -/
theorem only_users (isStored : IsStored db now profile stored user) :
    ∃ users, stored = { db with users } := by
  cases isStored <;> exact ⟨_, rfl⟩

/-- No user is taken away. -/
theorem kept (isStored : IsStored db now profile stored user) (has : db.users.Has id) :
    stored.users.Has id := by
  cases isStored with
  | made => exact has.insert _
  | refreshed => exact has.replace _

end IsStored

/-! ### Users of their own -/

/-- No two users have one name at the provider, and no two have one address. -/
structure AreApart (users : Table User) : Prop where
  googleIds : (users.rows.map User.googleId).Nodup
  emails : (users.rows.map User.email).Nodup

/-- The user has the name or the address in the profile. -/
def Owns (profile : SignInProfile) (user : User) : Prop :=
  user.googleId = profile.subject ∨ user.email = profile.email

/-- An entry of a profile tells a text that is not empty. -/
def Tells (entry : Entry (Option String)) (told : String) : Prop :=
  entry = .given (some told) ∧ told ≠ ""

/-- The row is that of a user who was not there, with what the profile tells. -/
structure IsNew (users : Table User) (profile : SignInProfile) (user : User) : Prop where
  id : ∀ old ∈ users.rows, old.id < user.id
  googleId : user.googleId = profile.subject
  email : user.email = profile.email
  named : ∀ name, Tells profile.name name → user.displayName = name
  unnamed : (∀ name, ¬ Tells profile.name name) → user.displayName = profile.email
  pictured : ∀ picture, Tells profile.picture picture → user.photo = some picture

/-- The row of a user with what the profile tells; a name and a photo stay where it tells none. -/
structure IsRefreshed (profile : SignInProfile) (before after : User) : Prop where
  id : after.id = before.id
  googleId : after.googleId = profile.subject
  email : after.email = profile.email
  named : ∀ name, Tells profile.name name → after.displayName = name
  unnamed : (∀ name, ¬ Tells profile.name name) → after.displayName = before.displayName
  pictured : ∀ picture, Tells profile.picture picture → after.photo = some picture
  unpictured : (∀ picture, ¬ Tells profile.picture picture) → after.photo = before.photo
  created : after.createdAt = before.createdAt

theorem isOwner_iff : isOwner profile user = true ↔ Owns profile user := by
  simp [isOwner, Owns]

/-- What an entry tells is what is left of it without its empty texts. -/
theorem tells_iff {entry : Entry (Option String)} {told : String} :
    Tells entry told ↔ nonempty? (entry.getD none) = some told := by
  unfold Tells nonempty?
  cases entry with
  | absent => simp [Entry.getD]
  | given text => cases text <;> simp [Entry.getD, Option.filter_eq_some_iff]

theorem untold_iff {entry : Entry (Option String)} :
    (∀ told, ¬ Tells entry told) ↔ nonempty? (entry.getD none) = none := by
  simp only [tells_iff, Option.eq_none_iff_forall_ne_some, ne_eq]

theorem refreshed_details (now : Moment) (profile : SignInProfile) (user : User) :
    (refreshed now profile user).displayName =
        (nonempty? (profile.name.getD none)).getD user.displayName ∧
      (refreshed now profile user).photo = (nonempty? (profile.picture.getD none)).or user.photo ∧
      (refreshed now profile user).createdAt = user.createdAt := by
  unfold refreshed
  dsimp only
  split
  next same => exact ⟨congrArg User.displayName same.symm, congrArg User.photo same.symm, rfl⟩
  next => exact ⟨rfl, rfl, rfl⟩

theorem refreshed_isRefreshed (now : Moment) (profile : SignInProfile) (user : User) :
    IsRefreshed profile user (refreshed now profile user) := by
  obtain ⟨id, googleId, email⟩ := refreshed_profile now profile user
  obtain ⟨name, photo, created⟩ := refreshed_details now profile user
  refine ⟨id, googleId, email, fun told tells => ?_, fun untold => ?_, fun told tells => ?_,
    fun untold => ?_, created⟩
  · rw [name, tells_iff.mp tells]
    rfl
  · rw [name, untold_iff.mp untold]
    rfl
  · rw [photo, tells_iff.mp tells]
    rfl
  · rw [photo, untold_iff.mp untold]
    rfl

theorem newRow_isNew (users : Table User) (now : Moment) (profile : SignInProfile) :
    IsNew users profile (Row.withId users.nextId (newRow now profile)) := by
  refine ⟨fun old member => ?_, rfl, rfl, fun told tells => ?_, fun untold => ?_,
    fun told tells => ?_⟩
  · have least : old.id ≤ users.lastId := users.id_le_lastId member
    show old.id < users.lastId + 1
    omega
  · show (nonempty? (profile.name.getD none)).getD profile.email = told
    rw [tells_iff.mp tells]
    rfl
  · show (nonempty? (profile.name.getD none)).getD profile.email = profile.email
    rw [untold_iff.mp untold]
    rfl
  · show profile.picture.getD none = some told
    rw [tells.1]
    rfl

/-- Rows that are told apart by their numbers have one owner if they are all the same. -/
theorem owners_eq_singleton {users : Table User} (member : user ∈ users.rows)
    (owns : Owns profile user) (only : ∀ other ∈ users.rows, Owns profile other → other = user) :
    users.rows.filter (isOwner profile) = [user] := by
  have apart : users.rows.Nodup := users.ascending.imp fun less same => by
    rw [same] at less
    exact Int.lt_irrefl _ less
  refine List.perm_singleton.mp ((List.perm_ext_iff_of_nodup (apart.filter _)
    (List.nodup_singleton user)).mpr fun other => ?_)
  rw [List.mem_filter, isOwner_iff, List.mem_singleton]
  constructor
  · rintro ⟨among, also⟩
    exact only other among also
  · rintro rfl
    exact ⟨member, owns⟩

theorem owners_eq_nil {users : Table User} (nobody : ∀ other ∈ users.rows, ¬ Owns profile other) :
    users.rows.filter (isOwner profile) = [] :=
  List.filter_eq_nil_iff.mpr fun other member => mt isOwner_iff.mp (nobody other member)

theorem upsert_nobody (nobody : ∀ other ∈ db.users.rows, ¬ Owns profile other) :
    upsert db now profile = .ok ({ db with users := db.users.insert (newRow now profile) },
      Row.withId db.users.nextId (newRow now profile)) := by
  unfold upsert
  rw [owners_eq_nil nobody]
  dsimp only
  rw [Table.lastId_insert]

theorem upsert_only (member : user ∈ db.users.rows) (owns : Owns profile user)
    (only : ∀ other ∈ db.users.rows, Owns profile other → other = user) :
    upsert db now profile = .ok ({ db with users := db.users.replace (refreshed now profile user) },
      refreshed now profile user) := by
  unfold upsert
  rw [owners_eq_singleton member owns only]

theorem upsert_several {other : User} (member : user ∈ db.users.rows) (owns : Owns profile user)
    (among : other ∈ db.users.rows) (also : Owns profile other) (apart : user ≠ other) :
    upsert db now profile = .error (.failed .severalUsers) := by
  have first := List.mem_filter.mpr ⟨member, isOwner_iff.mpr owns⟩
  have second := List.mem_filter.mpr ⟨among, isOwner_iff.mpr also⟩
  unfold upsert
  split
  next nobody =>
    rw [nobody] at first
    cases first
  next only =>
    rw [only] at first second
    exact absurd ((List.mem_singleton.mp first).trans (List.mem_singleton.mp second).symm) apart
  next => rfl

/-- Of two users who have a profile neither can be brought up to date: the other one has the name or
the address as well. -/
theorem AreApart.clash {users : Table User} {other : User} (member : user ∈ users.rows)
    (among : other ∈ users.rows) (also : Owns profile other) (apart : user ≠ other) :
    ¬ AreApart (users.replace (refreshed now profile user)) := by
  intro kept
  obtain ⟨named, googleId, email⟩ := refreshed_profile now profile user
  have away : other.id ≠ user.id := fun same => apart (Table.eq_of_id member among same.symm)
  have first : refreshed now profile user ∈ (users.replace (refreshed now profile user)).rows :=
    Table.mem_replace_iff.mpr (.inr ⟨rfl, user, member, named.symm⟩)
  have second : other ∈ (users.replace (refreshed now profile user)).rows :=
    Table.mem_replace_iff.mpr (.inl ⟨among, fun same => away (same.trans named)⟩)
  have one : other = refreshed now profile user := by
    rcases also with same | same
    · exact List.inj_on_of_nodup_map kept.googleIds second first (same.trans googleId.symm)
    · exact List.inj_on_of_nodup_map kept.emails second first (same.trans email.symm)
  exact away (one ▸ named)

namespace IsStored

/-- Nobody else has the name or the address. -/
theorem alone (isStored : IsStored db now profile stored user) :
    ∀ other ∈ stored.users.rows, Owns profile other → other = user := by
  intro other member owns
  cases isStored with
  | made nobody =>
    rcases Table.mem_insert_iff.mp member with old | new
    · exact absurd (isOwner_iff.mpr owns) (List.filter_eq_nil_iff.mp nobody other old)
    · exact new
  | @refreshed row only =>
    rcases Table.mem_replace_iff.mp member with ⟨old, away⟩ | ⟨new, -⟩
    · have same := List.mem_singleton.mp
        (only ▸ List.mem_filter.mpr ⟨old, isOwner_iff.mpr owns⟩)
      rw [same] at away
      exact absurd (refreshed_profile now profile row).1.symm away
    · exact new

/-- The others are who they were. -/
theorem others (isStored : IsStored db now profile stored user) {other : User}
    (away : other.id ≠ user.id) : other ∈ stored.users.rows ↔ other ∈ db.users.rows := by
  cases isStored with
  | made =>
    rw [Table.mem_insert_iff]
    refine or_iff_left ?_
    rintro rfl
    exact away rfl
  | refreshed only =>
    rw [Table.mem_replace_iff]
    constructor
    · rintro (⟨old, -⟩ | ⟨rfl, -⟩)
      · exact old
      · exact absurd rfl away
    · exact fun old => .inl ⟨old, away⟩

/-- A profile is stored for good: its user has nothing left that it would change. -/
theorem settled (isStored : IsStored db now profile stored user) (later : Moment) :
    Users.refreshed later profile user = user := by
  have unchanged {row : User} (googleId : row.googleId = profile.subject)
      (email : row.email = profile.email)
      (name : (nonempty? (profile.name.getD none)).getD row.displayName = row.displayName)
      (photo : (nonempty? (profile.picture.getD none)).or row.photo = row.photo) :
      Users.refreshed later profile row = row := by
    unfold Users.refreshed
    dsimp only
    rw [name, photo, ← googleId, ← email]
    exact if_pos rfl
  obtain ⟨-, googleId, email⟩ := isStored.told
  have twice {text : Option String} {fallback : String} :
      (nonempty? text).getD ((nonempty? text).getD fallback) = (nonempty? text).getD fallback := by
    cases nonempty? text <;> rfl
  cases isStored with
  | made =>
    refine unchanged googleId email twice ?_
    show (nonempty? (profile.picture.getD none)).or (profile.picture.getD none) =
      profile.picture.getD none
    cases profile.picture.getD none with
    | none => rfl
    | some text => by_cases empty : text = "" <;> simp [nonempty?, empty, Option.filter]
  | @refreshed row only =>
    obtain ⟨name, photo, -⟩ := refreshed_details now profile row
    refine unchanged googleId email ?_ ?_
    · rw [name]
      exact twice
    · rw [photo]
      cases nonempty? (profile.picture.getD none) <;> rfl

/-- Storing the profile again changes nothing. -/
theorem again (isStored : IsStored db now profile stored user) (later : Moment) :
    upsert stored later profile = .ok (stored, user) := by
  obtain ⟨member, googleId, -⟩ := isStored.told
  rw [upsert_only member (.inl googleId) isStored.alone, isStored.settled,
    Table.replace_self member]

/-- Users who were apart are apart. -/
theorem apart (isStored : IsStored db now profile stored user) (before : AreApart db.users) :
    AreApart stored.users := by
  cases isStored with
  | made nobody =>
    have strange (old : User) (member : old ∈ db.users.rows) : ¬ Owns profile old :=
      mt isOwner_iff.mpr (List.filter_eq_nil_iff.mp nobody old member)
    exact ⟨
      Table.nodup_insert (fun _ _ => rfl) before.googleIds fun old member same =>
        strange old member (.inl same),
      Table.nodup_insert (fun _ _ => rfl) before.emails fun old member same =>
        strange old member (.inr same)⟩
  | @refreshed row only =>
    obtain ⟨named, googleId, email⟩ := refreshed_profile now profile row
    have strange (old : User) (member : old ∈ db.users.rows)
        (away : old.id ≠ (Users.refreshed now profile row).id) : ¬ Owns profile old := by
      intro owns
      have same := only ▸ List.mem_filter.mpr ⟨member, isOwner_iff.mpr owns⟩
      rw [List.mem_singleton.mp same] at away
      exact away named.symm
    exact ⟨
      Table.nodup_replace before.googleIds fun old member away same =>
        strange old member away (.inl (same.trans googleId)),
      Table.nodup_replace before.emails fun old member away same =>
        strange old member away (.inr (same.trans email))⟩

end IsStored

/-- The user of a profile is stored: the profile is that of this user and of nobody else, everyone
else is as before, and storing it again changes nothing. -/
structure IsSettled (db : Database) (profile : SignInProfile) (stored : Database) (user : User) :
    Prop where
  only_users : ∃ users, stored = { db with users }
  apart : AreApart stored.users
  member : user ∈ stored.users.rows
  alone : ∀ other ∈ stored.users.rows, Owns profile other ↔ other = user
  others : ∀ other, other.id ≠ user.id → (other ∈ stored.users.rows ↔ other ∈ db.users.rows)
  again : ∀ later, upsert stored later profile = .ok (stored, user)

theorem upsert_isSettled (before : AreApart db.users)
    (upserted : upsert db now profile = .ok (stored, user)) : IsSettled db profile stored user := by
  have isStored := upsert_isStored upserted
  obtain ⟨member, googleId, -⟩ := isStored.told
  refine ⟨isStored.only_users, isStored.apart before, member, fun other among => ?_,
    fun other => isStored.others, isStored.again⟩
  constructor
  · exact isStored.alone other among
  · rintro rfl
    exact .inl googleId

end Outreach.Users
