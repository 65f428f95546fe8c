import ClusterClient.Headers
import ClusterClient.Number.Numeral
import ClusterClient.Text.Quoted

/-!
# The state of the cluster, from headers

Answers tell the state of the cluster in four headers. Three of them are whole numbers; one that is not is
left out and noted, and does not disturb the others.
-/

namespace ClusterClient

/-- What the headers of an answer tell of the cluster. -/
structure ClusterInfo where
  clusterId : Option Text
  etcdIndex : Option Int
  raftIndex : Option Int
  raftTerm : Option Int
  deriving DecidableEq, Repr

namespace ClusterInfo

def clusterIdName : Text := "X-Etcd-Cluster-Id"

def etcdIndexName : Text := "X-Etcd-Index"

def raftIndexName : Text := "X-Raft-Index"

def raftTermName : Text := "X-Raft-Term"

/-- The whole number in a header. -/
def wholeIn (headers : Headers) (name : Text) : Option Int :=
  -- the first header of the name counts, even if only a later one is a number
  (headers.lookup? name).bind fun t => Whole.read? t.strip

/-- The note on a header that should hold a whole number and does not. -/
def noteOn? (headers : Headers) (name : Text) : Option Text :=
  match headers.lookup? name with
  | none => none
  | some t =>
    if (Whole.read? t.strip).isSome then none
    else some (name ++ " header decode error: " ++ t.quoted ++ " is not an integer")

/-- The state of the cluster. -/
def ofHeaders (headers : Headers) : ClusterInfo :=
  ⟨headers.lookup? clusterIdName, wholeIn headers etcdIndexName, wholeIn headers raftIndexName,
    wholeIn headers raftTermName⟩

/-- The notes on headers that could not be read, in the order of the fields. -/
def notes (headers : Headers) : List Text :=
  [etcdIndexName, raftIndexName, raftTermName].filterMap (noteOn? headers)

end ClusterInfo

end ClusterClient
