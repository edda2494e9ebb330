import PullQuota.Api
import PullQuota.Settings

/-!
The service as it starts, serves and is told to stop.
-/

namespace PullQuota

inductive Signal
  | interrupt
  | terminate
  deriving DecidableEq

def Signal.name : Signal → String
  | interrupt => "SIGINT"
  | terminate => "SIGTERM"

/-- A running service: its settings, the signals it has had, and how often it was closed. -/
structure Server where
  settings : Settings
  received : List Signal
  closes : Nat

/-- The start of the service, or the error that it ends with. -/
structure Start where
  server : Except SettingError Server
  log : List LogLine

namespace Server

def start (env : Variables) : Start :=
  match Settings.ofVariables env with
  | .error error => ⟨.error error, [.error error.message]⟩
  | .ok settings =>
    ⟨.ok ⟨settings, [], 0⟩,
      [.info ("DockerHub status API listening on " ++ settings.host ++ ":" ++
        toString settings.tcpPort)]⟩

def access (server : Server) : Access :=
  ⟨server.settings.urls, server.settings.timeout⟩

def serve (server : Server) (files : Files) (request : ApiRequest) (net : Network) :
    Option Served :=
  PullQuota.serve (.ofFile files server.settings.dataFile) server.access request net

/-- Each signal closes the service once. -/
def signal (server : Server) (signal : Signal) : List LogLine × Server :=
  if server.received.contains signal then ([], server)
  else
    ([.info ("Received " ++ signal.name ++ ", shutting down")],
      { server with received := signal :: server.received, closes := server.closes + 1 })

end Server

inductive ServerEvent
  | request (request : ApiRequest)
  | signal (signal : Signal)

inductive ServerAnswer
  | served (served : Served)
  | signalled (log : List LogLine) (closes : Nat)

namespace Server

def react (files : Files) :
    Server × Network → ServerEvent → Option (ServerAnswer × Files × Server × Network)
  | (server, net), .request request =>
    (server.serve files request net).map fun served =>
      (.served served, files, server, served.network)
  | (server, net), .signal signal =>
    let (log, server) := server.signal signal
    some (.signalled log server.closes, files, server, net)

/-- A running service goes on answering after a signal. -/
def session (server : Server) (files : Files) (net : Network)
    (steps : List (SessionStep ServerEvent)) : List (Option ServerAnswer) :=
  runSession react files (server, net) steps

end Server

end PullQuota
