import PullQuota.Json.Basic

/-!
Managed container environments, and which of them share this host's way out to the registry.
-/

namespace PullQuota

inductive Environment
  | docker
  | agentDocker
  | azure
  | edgeAgentDocker
  | kubernetesLocal
  | agentKubernetes
  | edgeAgentKubernetes
  deriving DecidableEq

namespace Environment

def all : List Environment :=
  [docker, agentDocker, azure, edgeAgentDocker, kubernetesLocal, agentKubernetes,
    edgeAgentKubernetes]

def name : Environment → String
  | docker => "docker"
  | agentDocker => "agent-docker"
  | azure => "azure"
  | edgeAgentDocker => "edge-agent-docker"
  | kubernetesLocal => "kubernetes-local"
  | agentKubernetes => "agent-kubernetes"
  | edgeAgentKubernetes => "edge-agent-kubernetes"

def ofName? (s : String) : Option Environment :=
  all.find? (·.name == s)

end Environment

/-- What tells whether an environment is a local one: its address and the name of its kind, with the
id that it goes by. -/
structure Site where
  id : Number
  url : String
  kind : String

namespace Site

/-- An environment behind a local socket or pipe, or the local cluster, pulls through this host. -/
def isLocal (s : Site) : Bool :=
  "unix://".toList.isPrefixOf s.url.toList || "npipe://".toList.isPrefixOf s.url.toList ||
    s.kind == Environment.kubernetesLocal.name

def remoteReason (s : Site) : String :=
  "Endpoint " ++ s.id.text ++ " (" ++ s.kind ++ ") is not managed through a local socket"

end Site

/-- A managed environment. Members of its record that have no meaning here are kept. -/
structure Endpoint where
  id : Nat
  name : String
  url : String
  environment : Environment
  extra : List (String × Json) := []
  deriving DecidableEq

namespace Endpoint

def memberNames : List String :=
  ["id", "name", "url", "type"]

def ofJson? : Json → Option Endpoint
  | .object members =>
    match Json.memberOf "id" members, Json.memberOf "name" members,
      Json.memberOf "url" members, Json.memberOf "type" members with
    | some (.number id), some (.string name), some (.string url), some (.string type) => do
      let id ← id.toCount?
      let environment ← Environment.ofName? type
      if id = 0 then none
      else some ⟨id, name, url, environment, members.filter (!memberNames.contains ·.1)⟩
    | _, _, _, _ => none
  | _ => none

def toJson (e : Endpoint) : Json :=
  .object (("id", .number (.finite e.id)) :: ("name", .string e.name) :: ("url", .string e.url) ::
    ("type", .string e.environment.name) :: e.extra)

def site (e : Endpoint) : Site :=
  ⟨.finite e.id, e.url, e.environment.name⟩

def isLocal (e : Endpoint) : Bool :=
  e.site.isLocal

def remoteReason (e : Endpoint) : String :=
  e.site.remoteReason

end Endpoint

end PullQuota
