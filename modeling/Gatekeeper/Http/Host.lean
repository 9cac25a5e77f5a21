import Gatekeeper.Http.Service

/-!
# Hosts

A process in which apps are made.  Each app brings a store, but there is one
place for the store in service: the store of the app that was made last answers
the requests to every app.
-/

namespace Gatekeeper

namespace Http

/-- A process: the stores of its apps in the order in which they were made, and the root logger. -/
structure Host where
  stores : List Store := []
  log : Log.Root := {}

namespace Host

/-- The settings of an app: those that are given, or else the store's, or else the environment's. -/
def settings (store? : Option Store) (config? : Option Config)
    (valueOf? : String → Option String) : Checked Config :=
  match config?, store? with
  | some config, _ => .ok config
  | none, some store => .ok store.config
  | none, none => Config.ofEnvironment valueOf?

/-- Make an app and put its store into service. -/
def createApp (host : Host) (store? : Option Store) (config? : Option Config)
    (valueOf? : String → Option String) : Checked Host :=
  (settings store? config? valueOf?).map fun config => {
    stores := host.stores ++ [store?.getD { config }]
    log := host.log.setSeverity config.logLevel.severity }

def store (host : Host) : Except Failure Store :=
  match host.stores.getLast? with
  | some store => .ok store
  | none => .error .notInitialized

def replaceStore (host : Host) (store : Store) : Host :=
  { host with stores := host.stores.set (host.stores.length - 1) store }

/-- Answer a request to an app.  Which app it is makes no difference. -/
def request (host : Host) (_app : Fin host.stores.length) (r : Request) :
    Except Failure (Served × Host) :=
  match host.store with
  | .error failure => .error failure
  | .ok store =>
      let served := serve store r
      .ok (served, host.replaceStore served.store)

end Host

end Http

end Gatekeeper
