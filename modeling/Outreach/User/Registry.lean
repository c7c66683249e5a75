import Outreach.Store.Outcome
import Outreach.User.Basic

/-!
The users of the application. Signing in makes a user or brings one up to date: the one who is known
by the identity provider's name for them or by their e-mail address. Where these point to two
different users there is nobody to sign in.
-/

namespace Outreach.Users

/-- Whether a user is the one of a profile. -/
def isOwner (profile : SignInProfile) (user : User) : Bool :=
  user.googleId = profile.subject || user.email = profile.email

/-- The row of a new user. -/
def newRow (now : Moment) (profile : SignInProfile) : User where
  id := 0
  googleId := profile.subject
  displayName := (nonempty? (profile.name.getD none)).getD profile.email
  email := profile.email
  photo := profile.picture.getD none
  createdAt := (Stamp.automatic now).moment
  updatedAt := (Stamp.automatic now).moment

/-- A user brought up to date; a name and a photo stay where the profile has none. -/
def refreshed (now : Moment) (profile : SignInProfile) (user : User) : User :=
  let fresh := { user with
    googleId := profile.subject
    displayName := (nonempty? (profile.name.getD none)).getD user.displayName
    email := profile.email
    photo := (nonempty? (profile.picture.getD none)).or user.photo }
  if fresh = user then user else { fresh with updatedAt := (Stamp.automatic now).moment }

/-- Stores the user of a profile, and tells who it is. -/
def upsert (db : Database) (now : Moment) (profile : SignInProfile) :
    Except Halt (Database × User) :=
  match db.users.rows.filter (isOwner profile) with
  | [] =>
      let users := db.users.insert (newRow now profile)
      .ok ({ db with users }, Row.withId users.lastId (newRow now profile))
  | [user] =>
      let user := refreshed now profile user
      .ok ({ db with users := db.users.replace user }, user)
  | _ => mishap .severalUsers

/-- A user as shown. -/
def view? (user : User) : Option UserView := (UserView.ofAttributes user.columns).toOption

end Outreach.Users
