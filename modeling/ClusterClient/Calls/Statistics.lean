import ClusterClient.Exchange.RequestSpec

/-!
# Calls for statistics, health and versions

The statistics of the leader come from whichever member answers first. All others are about single
members, so that every member is asked.
-/

namespace ClusterClient.StatisticsCall

/-- The path of the statistics. -/
def root : Text := "v2/stats"

/-- Asks for something that is read as a schema says. -/
def asking (path : Text) (schema : Schema) : RequestSpec :=
  { RequestSpec.get path with schema := some schema }

/-- What the leader reports of its followers. -/
def leader : RequestSpec := asking (root ++ "/leader") .leader

/-- What each member reports of itself. -/
def self : RequestSpec := asking (root ++ "/self") .self

/-- What each member reports of its store. -/
def store : RequestSpec := asking (root ++ "/store") .store

/-- Whether each member is well. -/
def health : RequestSpec := asking "health" .health

/-- The versions that each member knows. -/
def versions : RequestSpec := asking "version" .version

end ClusterClient.StatisticsCall
