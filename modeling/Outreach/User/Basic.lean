import Outreach.Schema.Dump
import Outreach.Schema.Instant
import Outreach.Store.Column
import Outreach.Store.Table

/-!
Stored users: those who work with the customers' data, signed in through the identity provider. Who
someone is: the profile that a sign-in yields, the identity that a session token names, and the user
as shown to the one who is signed in.
-/

namespace Outreach

structure User where
  id : Int
  googleId : String
  displayName : String
  email : String
  photo : Option String
  createdAt : Moment
  updatedAt : Moment
deriving DecidableEq, Repr, Inhabited

namespace User

instance : Row User where
  id := User.id
  withId n user := { user with id := n }
  id_withId _ _ := rfl

def columns (u : User) : Columns := [
  ("id", .int u.id), ("google_id", .text u.googleId), ("display_name", .text u.displayName),
  ("email", .text u.email), ("photo", .ofOption .text u.photo),
  ("created_at", .moment u.createdAt), ("updated_at", .moment u.updatedAt)]

/-- The row of given columns, without a number of its own. -/
def ofColumns? (now : Moment) (given : Columns) : Option User := do
  let googleId ← given.text? "google_id"
  let displayName ← given.text? "display_name"
  let email ← given.text? "email"
  some {
    id := 0
    googleId
    displayName
    email
    photo := given.text? "photo"
    createdAt := given.momentOr "created_at" now
    updatedAt := given.momentOr "updated_at" now }

end User

/-! ### Identities -/

/-- The profile that the identity provider holds. -/
structure SignInProfile where
  subject : String
  email : String
  name : Entry (Option String)
  picture : Entry (Option String)
deriving DecidableEq, Repr

namespace SignInProfile

open Schema in
def read : Reader SignInProfile :=
  record .data "GoogleProfile" fun given =>
    mk <$> required given "sub" text
      <*> required given "email" Schema.email
      <*> permitted given "name" (nullable text)
      <*> permitted given "picture" (nullable text)

def toValue (style : Style) (profile : SignInProfile) : Value :=
  .record (
    [("sub", .text profile.subject), ("email", .text profile.email)] ++
    style.entry "name" .null (.ofOption .text) profile.name ++
    style.entry "picture" .null (.ofOption .text) profile.picture)

end SignInProfile

/-- The identity that a session token names. -/
structure TokenIdentity where
  user : Entry (Option Int)
  email : Entry (Option String)
deriving Repr

namespace TokenIdentity

open Schema in
def read : Reader TokenIdentity :=
  record .data "TokenData" fun given =>
    mk <$> permitted given "user_id" (nullable integer)
      <*> permitted given "email" (nullable text)

def toValue (style : Style) (identity : TokenIdentity) : Value :=
  .record (
    style.entry "user_id" .null (.ofOption .int) identity.user ++
    style.entry "email" .null (.ofOption .text) identity.email)

end TokenIdentity

/-- A user as shown. -/
structure UserView where
  id : String
  googleId : String
  displayName : String
  email : String
  photo : Entry (Option String)
  createdAt : Entry (Option Moment)
deriving Repr

namespace UserView

open Schema in
def read : Reader UserView :=
  record .data "UserResponse" fun given =>
    mk <$> required given "id" text
      <*> required given "google_id" text
      <*> required given "display_name" text
      <*> required given "email" Schema.email
      <*> permitted given "photo" (nullable text)
      <*> permitted given "created_at" (nullable moment)

def toValue (style : Style) (view : UserView) : Value :=
  .record (
    [("id", .text view.id), ("google_id", .text view.googleId),
      ("display_name", .text view.displayName), ("email", .text view.email)] ++
    style.entry "photo" .null (.ofOption .text) view.photo ++
    style.entry "created_at" .null (.ofOption style.moment) view.createdAt)

/-- The attributes that a view is made from. -/
def attributeNames : List String :=
  ["id", "google_id", "display_name", "email", "photo", "created_at"]

/-- The view of a user's attributes, in which the number is a text. -/
def ofAttributes (given : List (String × Value)) : Checked UserView :=
  let field (name : String) : Value := (given.lookup name).getD .null
  read (.record (attributeNames.map fun name =>
    (name, if name = "id" then .text (field name).display else field name)))

end UserView

end Outreach
