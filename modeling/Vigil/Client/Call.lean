import Vigil.Client.SelfMonitor
import Vigil.Client.Service

/-!
# What may be asked of a client

Every operation a client offers, as a value, and its answer. Pausing an item is stopping it, and
resuming it is starting it. A step `tick` is no operation: it lets the interval of a reporter
elapse.
-/

namespace Vigil

/-- What may be asked of a client. -/
inductive ClientCall where
  | setHeartbeatCallback (callback : Option Callback)
  | setConnectionCallback (callback : Option Callback)
  | connect (timeout : Option Float)
  | disconnect
  | close
  | listItems
  | addItem (item : Item)
  | updateItem (item : Item)
  | removeItem (id : String)
  | startItem (id : String)
  | stopItem (id : String)
  | serviceStatus
  | sendHeartbeat (id : String)
  | startReporter (id : String) (interval : Option Float)
  | stopReporter (id : String)
  | stopReporters
  | activeReporters
  | tick (id : String)
  | isServiceInstalled
  | isServiceRunning
  | installService (path : String)
  | uninstallService
  | startService
  | stopService
  | quickSetup (path : String)
  | ensureServiceRunning
  | executable
  | executableDirectory
  | selfId
  | setSelfId (id : String)
  | addSelf (id : Option String) (timeout : Int)
  | removeSelf
  | pauseSelf
  | resumeSelf
  | startSelfReporter (interval : Option Float)
  | stopSelfReporter

/-- What a client answers. -/
inductive ClientReply where
  | nothing
  | flag (yes : Bool)
  | text (text : String)
  | texts (texts : List String)
  | request (result : Result Content)
  | service (result : Result Unit)
  | state (result : Result (Option ServiceState))

namespace Client

/-- Runs an action that answers nothing. -/
def silent (x : Deed Unit) : Deed ClientReply := do
  x
  pure .nothing

/-- Does what is asked. -/
def perform : ClientCall → Deed ClientReply
  | .setHeartbeatCallback callback =>
    silent (alter fun c => { c with heartbeatCallback := callback })
  | .setConnectionCallback callback =>
    silent (alter fun c => { c with connectionCallback := callback })
  | .connect timeout => .request <$> connect timeout
  | .disconnect => silent disconnect
  | .close => silent close
  | .listItems => .request <$> listItems
  | .addItem item => .request <$> addItem item
  | .updateItem item => .request <$> updateItem item
  | .removeItem id => .request <$> removeItem id
  | .startItem id => .request <$> startItem id
  | .stopItem id => .request <$> stopItem id
  | .serviceStatus => .request <$> serviceStatus
  | .sendHeartbeat id => .request <$> sendHeartbeat id
  | .startReporter id interval => .flag <$> startReporter id interval
  | .stopReporter id => .flag <$> Watch.stop id
  | .stopReporters => silent Watch.stopAll
  | .activeReporters => .texts <$> Watch.activeIds
  | .tick id => .flag <$> Watch.tick beat id
  | .isServiceInstalled => .flag <$> isServiceInstalled
  | .isServiceRunning => .flag <$> isServiceRunning
  | .installService path => .service <$> installService path
  | .uninstallService => .service <$> uninstallService
  | .startService => .state <$> startService
  | .stopService => .state <$> stopService
  | .quickSetup path => .service <$> quickSetup path
  | .ensureServiceRunning => .service <$> ensureServiceRunning
  | .executable => .text <$> executable
  | .executableDirectory => .text <$> executableDirectory
  | .selfId => return .text (← current).selfId
  | .setSelfId id => silent (setSelfId id)
  | .addSelf id timeout => .request <$> addSelf id timeout
  | .removeSelf => .request <$> removeSelf
  | .pauseSelf => .request <$> pauseSelf
  | .resumeSelf => .request <$> resumeSelf
  | .startSelfReporter interval => .flag <$> startSelfReporter interval
  | .stopSelfReporter => .flag <$> stopSelfReporter

end Client

end Vigil
