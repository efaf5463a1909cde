/-
# The Wi-Fi manager's station side

Four boolean statics say how the station stands. The thread that retries the
connection, the network management thread that runs the event handlers, and every
caller of `wifi_manager_sta_ready` read and write them without a lock, so each access
is one step here. A handler or a getter is then the list of the accesses it still has
to make.

The driver answers a connect request with one result, at any time from the request
on, and reports a lost link once. Its events for the station wait in a queue. Events
of other interfaces and address events come in at any time.
-/

import EspNmeaBridge.BridgeConfig.Groups
import EspNmeaBridge.Lib.Transitions

namespace EspNmeaBridge

/-- A network interface. -/
abbrev NetIf := ℕ

/-- `sta_connected`, `sta_has_addr`, `sta_ipv4_logged` and `sta_connect_requested`. -/
inductive StaFlag where
  | connected
  | hasAddr
  | ipv4Logged
  | connectRequested
  deriving DecidableEq, Repr

/-! ## The address table of the station -/

inductive NetAddrType where
  | any
  | autoconf
  | dhcp
  | manual
  | overridable
  deriving DecidableEq, Repr

structure UnicastAddr where
  isUsed : Bool
  addrType : NetAddrType
  addr : UInt32
  deriving DecidableEq, Repr

/-- `none` while the interface has no IPv4 configuration. -/
abbrev UnicastTable := Option (List UnicastAddr)

/-- The first used address from DHCP that is not 0.0.0.0. -/
def staDhcpAddr (staIface : Option NetIf) (table : UnicastTable) : Option UInt32 :=
  match staIface, table with
  | some _, some unicast =>
    (unicast.find? fun entry => entry.isUsed && entry.addrType == .dhcp && entry.addr != 0).map
      (·.addr)
  | _, _ => none

/-! ## Accesses -/

/-- One access to the statics. -/
inductive StaAccess where
  | write (flag : StaFlag) (value : Bool)
  /-- Go on only if the flag has this value. -/
  | require (flag : StaFlag) (value : Bool)
  /-- Go on only if `sta_dhcp_addr` finds an address. -/
  | requireAddr
  /-- `sta_retry_backoff_s = 5`. -/
  | resetBackoff
  deriving DecidableEq, Repr

/-- `mark_sta_ipv4_ready`. The address is logged once. -/
def markStaIpv4Ready : List StaAccess :=
  [.requireAddr, .write .connected true, .write .hasAddr true, .require .ipv4Logged false,
    .write .ipv4Logged true]

/-- The writes for a failed connect and for a disconnect. -/
def staDown : List StaAccess :=
  [.write .connected false, .write .hasAddr false, .write .ipv4Logged false,
    .write .connectRequested false]

/-- The Wi-Fi events of `WIFI_EVENT_MASK`. -/
inductive WifiEvent where
  /-- `none` when the event has no status with it. -/
  | connectResult (status : Option ℤ)
  | disconnectResult
  | apEnableResult
  | apDisableResult
  | apStaConnected
  | apStaDisconnected
  deriving DecidableEq, Repr

def wifiEventHandler (staIface : Option NetIf) (event : WifiEvent) (iface : NetIf) :
    List StaAccess :=
  match event with
  | .connectResult status =>
    if some iface ≠ staIface then []
    else if status.any (· != 0) then staDown
    else
      [.write .connected true, .write .connectRequested false, .resetBackoff] ++ markStaIpv4Ready
  | .disconnectResult => if some iface ≠ staIface then [] else staDown
  -- these are only logged
  | .apEnableResult | .apDisableResult | .apStaConnected | .apStaDisconnected => []

/-- The address events of `IPV4_EVENT_MASK`. -/
inductive Ipv4Event where
  | addrAdd
  | dhcpBound
  | dhcpStop
  deriving DecidableEq, Repr

def ipv4EventHandler (staIface : Option NetIf) (event : Ipv4Event) (iface : NetIf) :
    List StaAccess :=
  match event with
  -- whatever interface the event is for
  | .addrAdd | .dhcpBound => markStaIpv4Ready
  | .dhcpStop =>
    if some iface = staIface then [.write .hasAddr false, .write .ipv4Logged false] else []

/-- `wifi_manager_sta_ready`. -/
def wifiManagerStaReady : List StaAccess :=
  [.require .connected true, .require .hasAddr false] ++ markStaIpv4Ready

/-! ## The threads and the driver -/

/-- Where `wifi_manager_start` and then `sta_retry_thread` are. `boot` marks the request that
`wifi_manager_start` makes itself, before it sets `sta_retry_enabled`. -/
inductive StaRetryThread where
  | starting
  /-- Behind `disconnect_sta` and the pause. -/
  | connectSta (boot : Bool)
  /-- `NET_REQUEST_WIFI_CONNECT` has returned. -/
  | requestReturned (boot accepted : Bool)
  | retryEnabled
  | loopHead
  /-- `sta_connected` was read as false. -/
  | headNotConnected
  /-- Behind the backoff. -/
  | backedOff
  | againNotConnected
  | disconnectSta
  | returned
  deriving DecidableEq, Repr

structure WifiWorld where
  flags : StaFlag → Bool
  staRetryBackoffS : ℕ
  /-- The driver has a link for the station. -/
  link : Bool
  /-- Requests that the driver has accepted and not answered. -/
  outstanding : ℕ
  /-- Station events on their way to `wifi_event_handler`. -/
  undelivered : List WifiEvent
  /-- The station event that the network management thread took last, when it has taken no
  other since. -/
  handling : Option WifiEvent
  handler : List StaAccess
  getters : ℕ → List StaAccess
  thread : StaRetryThread

/-- What a thread still has to do after its next access, and what the access did. -/
def accessStep (staIface : Option NetIf) (table : UnicastTable) (world : WifiWorld) :
    List StaAccess → WifiWorld × List StaAccess
  | [] => (world, [])
  | .write flag value :: rest =>
    ({ world with flags := Function.update world.flags flag value }, rest)
  -- A check that fails ends the function.
  | .require flag value :: rest => (world, if world.flags flag = value then rest else [])
  | .requireAddr :: rest =>
    (world, if (staDhcpAddr staIface table).isSome then rest else [])
  | .resetBackoff :: rest => ({ world with staRetryBackoffS := 5 }, rest)

inductive WifiLabel where
  | answer (status : ℤ)
  | linkLost
  /-- The network management thread takes the next station event. -/
  | deliver
  | otherWifi (event : WifiEvent) (iface : NetIf)
  | ipv4 (event : Ipv4Event) (iface : NetIf)
  /-- The network management thread makes its next access. -/
  | handler (table : UnicastTable)
  /-- A thread calls `wifi_manager_sta_ready`. -/
  | staReady (getter : ℕ)
  | getter (getter : ℕ) (table : UnicastTable)
  /-- The thread of the station; a connect request is accepted or refused. -/
  | thread (accepted : Bool)

/-- An event that the driver reports for the station. -/
def isStaEvent (staIface : Option NetIf) (event : WifiEvent) (iface : NetIf) : Bool :=
  match event with
  | .connectResult _ | .disconnectResult => some iface = staIface
  | _ => false

/-- `sta_retry_backoff_s = MIN(sta_retry_backoff_s * 2U, 60U)`, whatever `connect_sta` returned. -/
def WifiWorld.backOff (world : WifiWorld) : WifiWorld :=
  { world with staRetryBackoffS := min (world.staRetryBackoffS * 2) 60 }

/-- `connect_sta` has returned to its caller. -/
def connectStaReturned (boot : Bool) (world : WifiWorld) : WifiWorld :=
  if boot then { world with thread := .retryEnabled }
  else { world.backOff with thread := .loopHead }

def staThreadStep (staIface : Option NetIf) (staCfg : BridgeConfigSta) (world : WifiWorld)
    (accepted : Bool) : Option WifiWorld :=
  match world.thread with
  | .starting =>
    some { world with thread := if staCfg.enabled then .connectSta true else .retryEnabled }
  | .connectSta boot =>
    some (if staIface = none ∨ staCfg.ssid.strlen = 0 then connectStaReturned boot world
      else if accepted then
        { world with
          outstanding := world.outstanding + 1
          thread := .requestReturned boot true }
      else { world with thread := .requestReturned boot false })
  -- Written behind the call, when its answer may have been handled already.
  | .requestReturned boot accepted =>
    some (connectStaReturned boot
      { world with flags := Function.update world.flags .connectRequested accepted })
  | .retryEnabled =>
    some { world with
      thread := if staCfg.enabled = false ∨ staCfg.ssid.strlen = 0 then .returned else .loopHead }
  | .loopHead =>
    some { world with thread := if world.flags .connected then .loopHead else .headNotConnected }
  | .headNotConnected =>
    some { world with thread := if world.flags .connectRequested then .loopHead else .backedOff }
  | .backedOff =>
    some { world with
      thread := if world.flags .connected then .loopHead else .againNotConnected }
  | .againNotConnected =>
    some { world with
      thread := if world.flags .connectRequested then .loopHead else .disconnectSta }
  -- the driver is free to drop its link
  | .disconnectSta => some { world with thread := .connectSta false }
  | .returned => none

def wifiStep (staIface : Option NetIf) (staCfg : BridgeConfigSta) (world : WifiWorld) :
    WifiLabel → Option WifiWorld
  | .answer status =>
    if world.outstanding = 0 then none
    else
      some { world with
        link := world.link || status == 0
        outstanding := world.outstanding - 1
        undelivered := world.undelivered ++ [.connectResult (some status)] }
  | .linkLost =>
    if world.link then
      some { world with
        link := false
        undelivered := world.undelivered ++ [.disconnectResult] }
    else none
  -- One event after the other, each when the handler is through with the last.
  | .deliver =>
    match world.handler, staIface, world.undelivered with
    | [], some iface, event :: rest =>
      some { world with
        undelivered := rest
        handling := some event
        handler := wifiEventHandler staIface event iface }
    | _, _, _ => none
  | .otherWifi event iface =>
    if world.handler ≠ [] ∨ isStaEvent staIface event iface then none
    else
      some { world with
        handling := none
        handler := wifiEventHandler staIface event iface }
  | .ipv4 event iface =>
    if world.handler ≠ [] then none
    else
      some { world with
        handling := none
        handler := ipv4EventHandler staIface event iface }
  | .handler table =>
    match accessStep staIface table world world.handler with
    | (world, rest) => some { world with handler := rest }
  | .staReady getter =>
    if world.getters getter ≠ [] then none
    else some { world with getters := Function.update world.getters getter wifiManagerStaReady }
  | .getter getter table =>
    match accessStep staIface table world (world.getters getter) with
    | (world, rest) => some { world with getters := Function.update world.getters getter rest }
  | .thread accepted => staThreadStep staIface staCfg world accepted

/-- `wifi_manager_start` has registered the handlers and looked up the interfaces. -/
def wifiStart : WifiWorld where
  flags _ := false
  staRetryBackoffS := 5
  link := false
  outstanding := 0
  undelivered := []
  handling := none
  handler := []
  getters _ := []
  thread := .starting

end EspNmeaBridge
