import ClusterClient.Calls.Access
import ClusterClient.Calls.Keys
import ClusterClient.Calls.Members
import ClusterClient.Proofs.Endpoint.Address

/-!
# Resources of a collection

Keys, members, users and roles are addressed by name below the root of their collection. A name may hold
slashes and full stops, which are not escaped, and an address is read without its dot segments: a name that
leads out of its collection is the address of something else.

## The architecture

* **`Collection.path_eq`**: the path of a resource is the root of its collection, a slash, and the rest of
  its name.
* **`address_in_collection`**: a name that stays below the root keeps its address there, whether it has dot
  segments or not; `address_of_another_collection` is a key that does not stay.
-/

namespace ClusterClient

/-- The collections whose resources are addressed by name. -/
inductive Collection where
  | keys
  | members
  | users
  | roles
  deriving DecidableEq, Repr

namespace Collection

/-- The path below which a collection keeps its resources. -/
def root : Collection → Text
  | keys => KeyCall.root
  | members => MemberCall.root
  | users => AccessCall.usersPath
  | roles => AccessCall.rolesPath

/-- The path of the resource with this name. -/
def path : Collection → Text → Text
  | keys, name => KeyCall.path name
  | members, name => MemberCall.path name
  | users, name => AccessCall.userPath name
  | roles, name => AccessCall.rolePath name

/-- The name behind the slash: a key may bring the slash along. -/
def inner : Collection → Text → Text
  | keys, name => if name.head? = some (CodePoint.ofChar '/') then name.tail else name
  | _, name => name

/-- The path of a name is the root of its collection, a slash, and what stands below it. A key brings its slash
along if it starts with one, and is given one otherwise; other names are always put behind one. -/
theorem path_eq (c : Collection) (name : Text) :
    c.path name = c.root ++ CodePoint.ofChar '/' :: c.inner name := by
  cases c with
  | keys =>
    show KeyCall.path name = KeyCall.root ++ CodePoint.ofChar '/' ::
      (if name.head? = some (CodePoint.ofChar '/') then name.tail else name)
    unfold KeyCall.path
    by_cases hslash : name.head? = some (CodePoint.ofChar '/')
    · obtain ⟨rest, rfl⟩ := List.head?_eq_some_iff.1 hslash
      rw [if_pos hslash, if_pos hslash, List.tail_cons]
    · rw [if_neg hslash, if_neg hslash]
      rfl
  | members => exact List.append_assoc _ _ _
  | users => exact List.append_assoc _ _ _
  | roles => exact List.append_assoc _ _ _

/-- Every root is kept when it is quoted, and has no dot segments. -/
theorem root_plain (c : Collection) :
    (∀ d ∈ c.root, RequestSpec.isKeptInPath d = true) ∧ Url.HasNoDots c.root ∧
      c.root.head? = some (CodePoint.ofChar 'v') := by
  have hkept : c.root.all RequestSpec.isKeptInPath = true := by cases c <;> decide
  refine ⟨List.all_eq_true.1 hkept, ?_, ?_⟩
  · have hdots : (c.root.splitOn '/').all (fun segment => !Url.isDots segment) = true := by cases c <;> decide
    intro segment hsegment
    simpa using List.all_eq_true.1 hdots segment hsegment
  · cases c <;> rfl

/-- The root needs no quoting, so that only what stands below it is protected. It begins with no slash, so that
none is stripped, and a slash is kept where it stands. -/
theorem quoted_path (c : Collection) (name : Text) :
    RequestSpec.quoted (c.path name) =
      c.root ++ CodePoint.ofChar '/' :: (c.inner name).flatMap (Percent.protect RequestSpec.isKeptInPath) := by
  obtain ⟨hkept, -, hhead⟩ := c.root_plain
  -- slashes in front would be stripped, but the root has none
  have hstart : (c.path name).dropWhile (· = CodePoint.ofChar '/') = c.path name := by
    rw [path_eq]
    cases hroot : c.root with
    | nil =>
      rw [hroot] at hhead
      cases hhead
    | cons d rest =>
      rw [hroot] at hhead
      obtain rfl := Option.some.inj hhead
      exact List.dropWhile_cons_of_neg (by decide)
  have hslash : Percent.protect RequestSpec.isKeptInPath (CodePoint.ofChar '/') = [CodePoint.ofChar '/'] := by decide
  rw [RequestSpec.quoted, hstart, path_eq, List.flatMap_append, List.flatMap_cons, hslash,
    Percent.flatMap_protect_of_forall hkept, List.singleton_append]

end Collection

/-- **A name that stays below the root of its collection is addressed there**: behind the path of the endpoint
stands the root of the collection, whatever the name holds. -/
theorem address_in_collection {room : Room} {value : Value} {e : Endpoint}
    (hread : Endpoint.read room value = .ok e) (hbare : e.IsBare) {c : Collection} {name : Text} (hname : Url.StaysBelow (c.inner name))
    {query : List (Text × Value)} {address : Text}
    (haddress : RequestSpec.addressOf room e (c.path name) query = .ok address) :
    ∃ own url : Url, Url.ofText e.url = .ok own ∧ Url.ofText address = .ok url ∧ url.SameServer own ∧
      own.path.stripRightBy (· = CodePoint.ofChar '/') ++ Text.ofString "/" ++ c.root ++ Text.ofString "/" <+:
        url.path := by
  obtain ⟨-, u, -, -, hkeeps⟩ := Endpoint.exists_keeps_of_read hread
  obtain ⟨own, url, hown, hpath, hurl, hserver, -, hcontinued, -, -⟩ := hkeeps.continued hbare haddress
  have hfront : Url.HasNoDots (own.path.stripRightBy (· = CodePoint.ofChar '/') ++
      CodePoint.ofChar '/' :: c.root) :=
    Url.hasNoDots_append.2 ⟨(hpath ▸ hkeeps.noDots).stripRight, c.root_plain.2.1⟩
  have hescaped : Url.StaysBelow ((c.inner name).flatMap (Percent.protect RequestSpec.isKeptInPath)) :=
    (Url.staysBelow_flatMap_protect (by decide) (by decide)).2 hname
  obtain ⟨rest, hrest⟩ := Url.normalizePath_append hfront hescaped
  refine ⟨own, url, hown, hurl, hserver, rest, ?_⟩
  rw [hcontinued, c.quoted_path, ← List.cons_append, ← List.append_assoc, hrest]
  simp only [List.append_assoc]
  rfl

/-- A key that takes a step back below its root, and one that is looked for at an endpoint with a path. -/
theorem address_in_collection_step_back :
    Endpoint.read .usual (.text "http://etcd1:2379/base") = .ok ⟨"http://etcd1:2379/base"⟩ ∧
      ∃ own url : Url, Url.ofText "http://etcd1:2379/base" = .ok own ∧
        Url.ofText "http://etcd1:2379/base/v2/keys/a/c%3F" = .ok url ∧ url.SameServer own ∧
        own.path.stripRightBy (· = CodePoint.ofChar '/') ++ Text.ofString "/v2/keys/" <+: url.path := by
  have hread : Endpoint.read .usual (.text "http://etcd1:2379/base") = .ok ⟨"http://etcd1:2379/base"⟩ := by rfl
  have haddress : RequestSpec.addressOf .usual ⟨"http://etcd1:2379/base"⟩ (Collection.keys.path "/a/b/../c?") [] =
      .ok "http://etcd1:2379/base/v2/keys/a/c%3F" := by rfl
  obtain ⟨own, url, hown, hurl, hserver, hbelow⟩ :=
    address_in_collection hread (by decide) ⟨1, by rfl⟩ haddress
  have hroot : Text.ofString "/v2/keys/" = Text.ofString "/" ++ Collection.keys.root ++ Text.ofString "/" := by rfl
  refine ⟨hread, own, url, hown, hurl, hserver, ?_⟩
  rw [hroot, ← List.append_assoc, ← List.append_assoc]
  exact hbelow

/-- Keys, members, users and roles with names that lead out of their collection. -/
theorem address_of_another_collection :
    RequestSpec.addressOf .usual ⟨"http://etcd1:2379"⟩ (Collection.keys.path "../auth/users/root") [] =
        .ok "http://etcd1:2379/v2/auth/users/root" ∧
      RequestSpec.addressOf .usual ⟨"http://etcd1:2379"⟩ (Collection.users.path "../roles/admin") [] =
        .ok "http://etcd1:2379/v2/auth/roles/admin" := by
  exact ⟨by rfl, by rfl⟩

end ClusterClient
