import DataPilot.Base.Alnum
import DataPilot.Base.Text
import DataPilot.Chat.Models

set_option autoImplicit false

namespace DataPilot.Auth

open DataPilot.Base
open DataPilot.Chat (Uuid)

-- Times are microseconds.
structure UserRow where
  id : Uuid
  username : String
  displayName : String
  passwordHash : String
  createdAt : Nat

structure WorkspaceRow where
  id : Uuid
  name : String
  slug : String
  ownerId : Option Uuid
  updatedAt : Nat

structure MemberRow where
  workspaceId : Uuid
  userId : Uuid
  role : String
  createdAt : Nat

structure SessionRow where
  id : Uuid
  userId : Uuid
  workspaceId : Uuid
  tokenHash : String
  expiresAt : Nat
  lastSeenAt : Nat

-- The committed rows of users, workspaces, workspace_members and auth_sessions,
-- in the order of their insertion, and what uuid4 gives next. Of the keys only
-- the usernames are checked: a transaction that hits another one is rolled back.
structure Database where
  users : List UserRow := []
  workspaces : List WorkspaceRow
  members : List MemberRow := []
  sessions : List SessionRow := []
  nextId : Uuid

def defaultWorkspaceId : Uuid := 1

-- The tables as revision 0006 leaves them.
def migrated (now : Nat) : Database where
  workspaces := [{
    id := defaultWorkspaceId
    name := "Default Workspace"
    slug := "default"
    ownerId := none
    updatedAt := now }]
  nextId := 2

-- What is not under the source: func.lower of the database, the PBKDF2 hashes
-- with their salts, sha256, and the setting auth_session_ttl_seconds.
structure Host where
  lower : String → String
  hashPassword : String → String → String
  verifyPassword : String → String → Bool
  hashSessionToken : String → String
  sessionTtlSeconds : Nat

-- The clock and what is drawn at random: a salt, a session token, a uuid in hex.
structure Supply where
  now : Nat
  salt : String := ""
  token : String := ""
  hex : String := ""

structure UserView where
  id : Uuid
  username : String
  displayName : String
  createdAt : Nat
deriving DecidableEq

structure WorkspaceView where
  id : Uuid
  name : String
  slug : String
  role : String
deriving DecidableEq

structure AuthSessionView where
  user : UserView
  workspace : WorkspaceView
deriving DecidableEq

structure AuthResult where
  token : String
  session : AuthSessionView
deriving DecidableEq

structure AuthContext where
  userId : Uuid
  workspaceId : Uuid
  sessionId : Uuid
  username : String
  displayName : String
deriving DecidableEq

structure AuthError where
  message : String
deriving DecidableEq

def userView (user : UserRow) : UserView where
  id := user.id
  username := user.username
  displayName := user.displayName
  createdAt := user.createdAt

def workspaceView (workspace : WorkspaceRow) (role : String) : WorkspaceView where
  id := workspace.id
  name := workspace.name
  slug := workspace.slug
  role := role

structure RegisterCall where
  username : String
  password : String
  displayName : String
deriving DecidableEq

inductive FieldError where
  | tooShort (field : String) (least : Nat)
  | tooLong (field : String) (most : Nat)
  | value (field message : String)
deriving DecidableEq

-- Field(min_length=..., max_length=...)
def lengthError (field : String) (least most : Nat) (value : String) : Option FieldError :=
  if value.length < least then some (.tooShort field least)
  else if most < value.length then some (.tooLong field most)
  else none

def validateUsername (value : String) : Except FieldError String :=
  let normalized := strip value
  let letters := String.ofList (normalized.toList.filter fun c => !(c == '_' || c == '-' || c == '.'))
  if isAlnum letters then .ok normalized
  else .error (.value "username" "Username may contain letters, numbers, dots, dashes, and underscores.")

def trimDisplayName (value : String) : Except FieldError String :=
  let normalized := strip value
  if normalized = "" then .error (.value "display_name" "Display name must not be empty.") else .ok normalized

-- The lengths are those of the values as they came in.
def checkField (bounds : Option FieldError) (validator : Except FieldError String) : Except FieldError String :=
  match bounds with
  | some error => .error error
  | none => validator

def fieldErrors {α : Type} : Except FieldError α → List FieldError
  | .error error => [error]
  | .ok _ => []

-- RegisterRequest of the values in the body.
def registerRequest (username password displayName : String) : Except (List FieldError) RegisterCall :=
  let checkedUsername := checkField (lengthError "username" 3 64 username) (validateUsername username)
  let checkedPassword := checkField (lengthError "password" 8 128 password) (.ok password)
  let checkedDisplayName := checkField (lengthError "display_name" 1 120 displayName) (trimDisplayName displayName)
  match checkedUsername, checkedPassword, checkedDisplayName with
  | .ok username, .ok password, .ok displayName => .ok { username, password, displayName }
  | _, _, _ => .error (fieldErrors checkedUsername ++ fieldErrors checkedPassword ++ fieldErrors checkedDisplayName)

end DataPilot.Auth
