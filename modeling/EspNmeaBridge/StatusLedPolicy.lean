/-
# The status LED policy

One LED shows the connection state as its base colour and the traffic as short
flashes on top of it. The policy keeps a session counter, a connecting flag and,
for each kind of flash, a flag and the time until which it lasts.

Times are milliseconds since the LED was started, truncated to 32 bits by the
callers. The module `status_led` calls the policy under its own lock, so every
report is one step.
-/

import EspNmeaBridge.Lib.WrappingClock

namespace EspNmeaBridge

open WrappingClock

/-- The steady red of a bridge without a session. -/
def statusLedDisconnectedRed : UInt8 := 8

/-- The time from one trough of the pulse to the next. -/
def statusLedConnectingPeriodMs : UInt32 := 1000

/-- Where the pulse begins and ends: a dim yellow. -/
def statusLedConnectingRedMin : UInt8 := 2
def statusLedConnectingGreenMin : UInt8 := 2

/-- What the pulse climbs to half way. -/
def statusLedConnectingRedMax : UInt8 := 8
def statusLedConnectingGreenMax : UInt8 := 8

/-- The steady green of a bridge with a session. -/
def statusLedConnectedGreen : UInt8 := 8

/-- How long each kind of flash lasts. -/
def statusLedNmeaActivityFlashMs : UInt32 := 100

/-- The flashes: blue for a frame received, white for one forwarded, red for a failed send. They
are brighter than any base colour. -/
def statusLedNmeaActivityBlue : UInt8 := 32
def statusLedNmeaForwardedWhite : UInt8 := 32
def statusLedNmeaErrorRed : UInt8 := 48

/-- What the LED driver is given. -/
structure StatusLedRgb where
  r : UInt8
  g : UInt8
  b : UInt8
  deriving DecidableEq, Repr

/-- What the base colour stands for. -/
inductive StatusLedBaseState where
  | disconnected
  | connecting
  | connected
  deriving DecidableEq, Repr

/-- A flash lasts from its report on; the time at which it ends is kept when it has ended, and
so is its flag. -/
structure StatusLedPolicyState where
  activeTcpNmeaSessions : UInt16
  outboundTcpNmeaClientConnecting : Bool
  nmeaActivityFlashActive : Bool
  nmeaForwardedFlashActive : Bool
  nmeaErrorFlashActive : Bool
  nmeaActivityFlashUntilMs : UInt32
  nmeaForwardedFlashUntilMs : UInt32
  nmeaErrorFlashUntilMs : UInt32
  deriving DecidableEq, Repr

/-- The zeroed `status_led_state` of a fresh boot. -/
def statusLedPolicyZero : StatusLedPolicyState where
  activeTcpNmeaSessions := 0
  outboundTcpNmeaClientConnecting := false
  nmeaActivityFlashActive := false
  nmeaForwardedFlashActive := false
  nmeaErrorFlashActive := false
  nmeaActivityFlashUntilMs := 0
  nmeaForwardedFlashUntilMs := 0
  nmeaErrorFlashUntilMs := 0

/-! ## Reports -/

/-- The counter of sessions has 16 bits. -/
def statusLedPolicyTcpNmeaSessionStarted (state : StatusLedPolicyState) :
    StatusLedPolicyState :=
  { state with activeTcpNmeaSessions := state.activeTcpNmeaSessions + 1 }

/-- An end without a start is not counted. -/
def statusLedPolicyTcpNmeaSessionEnded (state : StatusLedPolicyState) : StatusLedPolicyState :=
  if 0 < state.activeTcpNmeaSessions then
    { state with activeTcpNmeaSessions := state.activeTcpNmeaSessions - 1 }
  else state

/-- The outbound client begins to connect, or is through with it. -/
def statusLedPolicyTcpNmeaClientConnecting (state : StatusLedPolicyState) (connecting : Bool) :
    StatusLedPolicyState :=
  { state with outboundTcpNmeaClientConnecting := connecting }

/-- Each report puts off the end of its flash and leaves the other kinds alone. -/
def statusLedPolicyNmeaFrameReceived (state : StatusLedPolicyState) (nowMs : UInt32) :
    StatusLedPolicyState :=
  { state with
    nmeaActivityFlashActive := true
    nmeaActivityFlashUntilMs := nowMs + statusLedNmeaActivityFlashMs }

def statusLedPolicyNmeaFrameForwarded (state : StatusLedPolicyState) (nowMs : UInt32) :
    StatusLedPolicyState :=
  { state with
    nmeaForwardedFlashActive := true
    nmeaForwardedFlashUntilMs := nowMs + statusLedNmeaActivityFlashMs }

def statusLedPolicyNmeaSendFailed (state : StatusLedPolicyState) (nowMs : UInt32) :
    StatusLedPolicyState :=
  { state with
    nmeaErrorFlashActive := true
    nmeaErrorFlashUntilMs := nowMs + statusLedNmeaActivityFlashMs }

/-! ## Rendering -/

/-- The end is compared as a signed difference, which is right for half a turn of the clock. -/
def flashActiveUntil (active : Bool) (nowMs untilMs : UInt32) : Bool :=
  active && stillAhead nowMs untilMs

/-- A session hides an attempt to connect. -/
def statusLedPolicyBaseState (state : StatusLedPolicyState) : StatusLedBaseState :=
  if 0 < state.activeTcpNmeaSessions then .connected
  else if state.outboundTcpNmeaClientConnecting then .connecting
  else .disconnected

def statusLedPolicyRenderDisconnected (_elapsedMs : UInt32) : StatusLedRgb :=
  ⟨statusLedDisconnectedRed, 0, 0⟩

/-- A triangle between the two colours, in steps of the 32-bit division. -/
def statusLedPolicyRenderConnecting (elapsedMs : UInt32) : StatusLedRgb :=
  let halfPeriodMs := statusLedConnectingPeriodMs / 2
  let phaseMs := elapsedMs % statusLedConnectingPeriodMs
  let redRange := (statusLedConnectingRedMax - statusLedConnectingRedMin).toUInt32
  let greenRange := (statusLedConnectingGreenMax - statusLedConnectingGreenMin).toUInt32
  let rampMs := if halfPeriodMs < phaseMs then statusLedConnectingPeriodMs - phaseMs else phaseMs
  ⟨statusLedConnectingRedMin + (redRange * rampMs / halfPeriodMs).toUInt8,
    statusLedConnectingGreenMin + (greenRange * rampMs / halfPeriodMs).toUInt8, 0⟩

/-- The base colour; only the pulse depends on the time. -/
def statusLedPolicyRenderBase (state : StatusLedBaseState) (elapsedMs : UInt32) : StatusLedRgb :=
  match state with
  | .connected => ⟨0, statusLedConnectedGreen, 0⟩
  | .connecting => statusLedPolicyRenderConnecting elapsedMs
  | .disconnected => statusLedPolicyRenderDisconnected elapsedMs

/-- The colour at a time: the most urgent flash that lasts, or the base colour. -/
def statusLedPolicyRender (state : StatusLedPolicyState) (elapsedMs : UInt32) : StatusLedRgb :=
  -- An error hides what was forwarded, and that hides what was received.
  if flashActiveUntil state.nmeaErrorFlashActive elapsedMs state.nmeaErrorFlashUntilMs then
    ⟨statusLedNmeaErrorRed, 0, 0⟩
  else if flashActiveUntil state.nmeaForwardedFlashActive elapsedMs
      state.nmeaForwardedFlashUntilMs then
    ⟨statusLedNmeaForwardedWhite, statusLedNmeaForwardedWhite, statusLedNmeaForwardedWhite⟩
  else if flashActiveUntil state.nmeaActivityFlashActive elapsedMs
      state.nmeaActivityFlashUntilMs then
    ⟨0, 0, statusLedNmeaActivityBlue⟩
  else statusLedPolicyRenderBase (statusLedPolicyBaseState state) elapsedMs

/-! ## Colours -/

/-- The pulse climbs to half a period and comes back down. -/
theorem ramp_le (elapsedMs : UInt32) :
    (if statusLedConnectingPeriodMs / 2 < elapsedMs % statusLedConnectingPeriodMs then
      statusLedConnectingPeriodMs - elapsedMs % statusLedConnectingPeriodMs
    else elapsedMs % statusLedConnectingPeriodMs).toNat ≤ 500 := by
  have period : statusLedConnectingPeriodMs.toNat = 1000 := rfl
  have half : (statusLedConnectingPeriodMs / 2).toNat = 500 := rfl
  have phase : (elapsedMs % statusLedConnectingPeriodMs).toNat < 1000 := by
    rw [UInt32.toNat_mod, period]
    exact Nat.mod_lt _ (by decide)
  split_ifs with falling
  · rw [UInt32.lt_iff_toNat_lt, half] at falling
    rw [UInt32.toNat_sub, period]
    omega
  · rw [UInt32.lt_iff_toNat_lt, half] at falling
    omega

/-- The sum that gives the red of the pulse stays within its 8 bits. -/
theorem pulse_le {rampMs : UInt32} (bound : rampMs.toNat ≤ 500) :
    statusLedConnectingRedMin +
        ((statusLedConnectingRedMax - statusLedConnectingRedMin).toUInt32 * rampMs /
          (statusLedConnectingPeriodMs / 2)).toUInt8 ≤ statusLedConnectingRedMax := by
  have half : (statusLedConnectingPeriodMs / 2).toNat = 500 := rfl
  have range : (statusLedConnectingRedMax - statusLedConnectingRedMin).toUInt32.toNat = 6 := rfl
  have low : statusLedConnectingRedMin.toNat = 2 := rfl
  have high : statusLedConnectingRedMax.toNat = 8 := rfl
  have scaled : 6 * rampMs.toNat / 500 ≤ 6 := by omega
  -- Neither the 32-bit product nor the 8-bit sum wraps.
  rw [UInt8.le_iff_toNat_le, high, UInt8.toNat_add, UInt32.toNat_toUInt8, UInt32.toNat_div,
    UInt32.toNat_mul, low, half, range, Nat.mod_eq_of_lt (a := 6 * rampMs.toNat) (by omega),
    Nat.mod_eq_of_lt (a := 6 * rampMs.toNat / 500) (by omega), Nat.mod_eq_of_lt (by omega)]
  omega

theorem connectingRed_le (elapsedMs : UInt32) :
    (statusLedPolicyRenderConnecting elapsedMs).r ≤ statusLedConnectingRedMax :=
  pulse_le (ramp_le elapsedMs)

/-- The base colours are dim and have no blue. -/
theorem renderBase_dim (state : StatusLedBaseState) (elapsedMs : UInt32) :
    (statusLedPolicyRenderBase state elapsedMs).b = 0 ∧
      (statusLedPolicyRenderBase state elapsedMs).r ≤ statusLedConnectingRedMax := by
  cases state with
  | disconnected => exact ⟨rfl, UInt8.le_refl _⟩
  | connected => exact ⟨rfl, UInt8.zero_le⟩
  | connecting => exact ⟨rfl, connectingRed_le elapsedMs⟩

end EspNmeaBridge
