import ClusterClient.Exchange.RequestSpec

/-!
# Calls about access control

Access control is turned on and off, and its users and roles are managed. What is to be written is a
document with the names the cluster knows; a list that is empty is left out where the cluster takes that
for no change.
-/

namespace ClusterClient

/-- Permissions on keys. -/
def KvPermissions.toValue (p : KvPermissions) : Value :=
  .document [("kv", .document [("read", .texts p.read), ("write", .texts p.write)])]

/-- Whether nothing is permitted. -/
def KvPermissions.isEmpty (p : KvPermissions) : Bool := p.read.isEmpty && p.write.isEmpty

/-- A list that is not empty. -/
def nonEmptyList (name : Text) (ts : List Text) : List (Text × Value) :=
  if ts.isEmpty then [] else [(name, .texts ts)]

/-- Permissions that are not empty. -/
def nonEmptyPermissions (name : Text) (p : KvPermissions) : List (Text × Value) :=
  if p.isEmpty then [] else [(name, p.toValue)]

/-- A user to create. -/
structure NewUser where
  name : Text
  password : Text
  roles : List Text
  deriving DecidableEq, Repr

def NewUser.toValue (u : NewUser) : Value :=
  .document (("user", .text u.name) :: ("password", .text u.password) :: nonEmptyList "roles" u.roles)

/-- Changes to a user. -/
structure UserUpdate where
  name : Text
  password : Option Text
  grant : List Text
  revoke : List Text
  deriving DecidableEq, Repr

def UserUpdate.toValue (u : UserUpdate) : Value :=
  let password : List (Text × Value) :=
    match u.password with
    | none => []
    | some password => [("password", .text password)]
  .document (("user", .text u.name) ::
    (password ++ nonEmptyList "grant" u.grant ++ nonEmptyList "revoke" u.revoke))

/-- A role to create. -/
structure NewRole where
  name : Text
  permissions : KvPermissions
  deriving DecidableEq, Repr

def NewRole.toValue (r : NewRole) : Value :=
  .document [("role", .text r.name), ("permissions", r.permissions.toValue)]

/-- Changes to a role. -/
structure RoleUpdate where
  name : Text
  grant : KvPermissions
  revoke : KvPermissions
  deriving DecidableEq, Repr

def RoleUpdate.toValue (r : RoleUpdate) : Value :=
  .document (("role", .text r.name) ::
    (nonEmptyPermissions "grant" r.grant ++ nonEmptyPermissions "revoke" r.revoke))

namespace AccessCall

/-- The path of access control. -/
def root : Text := "v2/auth"

def enablePath : Text := root ++ "/enable"

def usersPath : Text := root ++ "/users"

def rolesPath : Text := root ++ "/roles"

/-- The path of one user. -/
def userPath (name : Text) : Text := usersPath ++ "/" ++ name

/-- The path of one role. -/
def rolePath (name : Text) : Text := rolesPath ++ "/" ++ name

/-- Asks for something that is read as a schema says. -/
def reading (path : Text) (schema : Schema) : RequestSpec :=
  { RequestSpec.get path with schema := some schema }

/-- Writes a document; the answer is read as a schema says. -/
def writing (path : Text) (document : Value) (schema : Schema) : RequestSpec :=
  { RequestSpec.get path with
    method := "PUT", document := some document, success := [200, 201], schema := some schema }

/-- Removes what is at a path. -/
def removing (path : Text) : RequestSpec := { RequestSpec.get path with method := "DELETE" }

/-- Whether access control is on. -/
def status : RequestSpec := reading enablePath .enabled

/-- Turns access control on. -/
def enable : RequestSpec :=
  { RequestSpec.get enablePath with
    method := "PUT"
    statusPayloads := some
      [(200, .enabling .enabled), (400, .enabling .rootUserRequired),
        (409, .enabling .alreadyEnabled)] }

/-- Turns access control off. -/
def disable : RequestSpec :=
  { RequestSpec.get enablePath with
    method := "DELETE"
    statusPayloads := some
      [(200, .disabling .disabled), (401, .disabling .unauthorized),
        (409, .disabling .alreadyDisabled)] }

def getUsers : RequestSpec := reading usersPath .users

def getUser (name : Text) : RequestSpec := reading (userPath name) .userDetail

def createUser (u : NewUser) : RequestSpec := writing (userPath u.name) u.toValue .user

def updateUser (u : UserUpdate) : RequestSpec := writing (userPath u.name) u.toValue .user

def deleteUser (name : Text) : RequestSpec := removing (userPath name)

def getRoles : RequestSpec := reading rolesPath .roles

def getRole (name : Text) : RequestSpec := reading (rolePath name) .role

def createRole (r : NewRole) : RequestSpec := writing (rolePath r.name) r.toValue .role

def updateRole (r : RoleUpdate) : RequestSpec := writing (rolePath r.name) r.toValue .role

def deleteRole (name : Text) : RequestSpec := removing (rolePath name)

end AccessCall

end ClusterClient
