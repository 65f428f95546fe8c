import ClusterClient.Payload.Reading

/-!
# Users, roles and permissions

What the access control of the cluster answers. An empty collection may be sent as null where a list of
roles or users is expected.
-/

namespace ClusterClient

open Reading

/-- Whether access control is on. -/
structure AuthStatus where
  enabled : Bool
  deriving DecidableEq, Repr

def AuthStatus.ofJson : Reading AuthStatus :=
  objectOf fun members => AuthStatus.mk <$> required members "enabled" flag

/-- Key prefixes that may be read and written. -/
structure KvPermissions where
  read : List Text
  write : List Text
  deriving DecidableEq, Repr

def KvPermissions.ofJson : Reading KvPermissions :=
  objectOf fun members =>
    KvPermissions.mk
      <$> optional members "read" [] (listOf text)
      <*> optional members "write" [] (listOf text)

structure Permissions where
  kv : KvPermissions
  deriving DecidableEq, Repr

def Permissions.ofJson : Reading Permissions :=
  objectOf fun members => Permissions.mk <$> optional members "kv" ⟨[], []⟩ KvPermissions.ofJson

/-- A role and what it permits. -/
structure Role where
  name : Text
  permissions : Permissions
  deriving DecidableEq, Repr

/-- Key prefixes that a role may read. -/
def Role.readable (r : Role) : List Text := r.permissions.kv.read

/-- Key prefixes that a role may write. -/
def Role.writable (r : Role) : List Text := r.permissions.kv.write

def Role.ofJson : Reading Role :=
  objectOf fun members =>
    Role.mk
      <$> required members ⟨"role", "name"⟩ text
      <*> optional members "permissions" ⟨⟨[], []⟩⟩ Permissions.ofJson

structure RoleList where
  roles : List Role
  deriving DecidableEq, Repr

def RoleList.ofJson : Reading RoleList :=
  objectOf fun members =>
    RoleList.mk <$> optional members "roles" [] (nullAsEmpty (listOf Role.ofJson))

/-- A user, with the names of the roles. -/
structure User where
  name : Text
  roleNames : List Text
  deriving DecidableEq, Repr

def User.ofJson : Reading User :=
  objectOf fun members =>
    User.mk
      <$> required members ⟨"user", "name"⟩ text
      <*> optional members ⟨"roles", "role_names"⟩ [] (nullAsEmpty (listOf text))

/-- A user, with the roles in full. -/
structure UserDetail where
  name : Text
  roles : List Role
  deriving DecidableEq, Repr

def UserDetail.roleNames (u : UserDetail) : List Text := u.roles.map Role.name

def UserDetail.ofJson : Reading UserDetail :=
  objectOf fun members =>
    UserDetail.mk
      <$> required members ⟨"user", "name"⟩ text
      <*> optional members "roles" [] (nullAsEmpty (listOf Role.ofJson))

structure UserDetailList where
  users : List UserDetail
  deriving DecidableEq, Repr

def UserDetailList.ofJson : Reading UserDetailList :=
  objectOf fun members =>
    UserDetailList.mk <$> optional members "users" [] (nullAsEmpty (listOf UserDetail.ofJson))

end ClusterClient
