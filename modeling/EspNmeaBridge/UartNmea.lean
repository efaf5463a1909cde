/-
# The UART reader

One thread polls the UART and cuts the bytes into frames at every newline. A line
that does not fit the frame buffer is discarded up to the next newline. Each
complete frame passes the AIS filter, which is set up anew at the head of the
poll loop when the effective MMSI changed.
-/

import EspNmeaBridge.AisMmsiFilter
import EspNmeaBridge.Kconfig

namespace EspNmeaBridge

/-- The value of `'\n'`. -/
def newline : UInt8 := '\n'.toUInt8

structure UartNmeaStats where
  bytesRx : UInt32
  framesRx : UInt32
  overlongFrames : UInt32
  aisSelfMmsiFiltered : UInt32
  deriving DecidableEq, Repr

/-- The locals of `uart_rx_thread` with the statics only it writes. The frame is
the first `frame_len` bytes of the buffer, which has room for no more. -/
structure UartRx (cfg : Kconfig) where
  frame : Frame
  frame_fits : frame.length ≤ cfg.nmeaFrameMaxLen
  droppingOverlong : Bool
  appliedMmsi : UInt32
  aisFilter : AisMmsiFilter
  stats : UartNmeaStats

/-- The value of `ais_effective_mmsi` for a filter setting; 0 means inactive. -/
def uartNmeaSetAisConfig (filterEnabled : Bool) (ownMmsi : UInt32) : UInt32 :=
  if filterEnabled then ownMmsi else 0

variable {cfg : Kconfig}

/-- The reader as the thread starts: statics are zero. -/
def uartRxInit : UartRx cfg where
  frame := []
  frame_fits := Nat.zero_le _
  droppingOverlong := false
  appliedMmsi := 0
  aisFilter := aisMmsiFilterInit 0
  stats := { bytesRx := 0, framesRx := 0, overlongFrames := 0, aisSelfMmsiFiltered := 0 }

/-- Drop what the buffer holds. -/
def UartRx.emptied (rx : UartRx cfg) : UartRx cfg :=
  { rx with frame := [], frame_fits := Nat.zero_le _ }

/-- Store a byte the buffer has room for. -/
def UartRx.stored (rx : UartRx cfg) (room : rx.frame.length < cfg.nmeaFrameMaxLen)
    (ch : UInt8) : UartRx cfg :=
  { rx with
    frame := rx.frame ++ [ch]
    frame_fits := by
      rw [List.length_append, List.length_singleton]
      exact room }

/-- One more byte was received. -/
def UartRx.counted (rx : UartRx cfg) : UartRx cfg :=
  { rx with stats := { rx.stats with bytesRx := rx.stats.bytesRx + 1 } }

/-- The head of the poll loop, with the MMSI `atomic_get` returned. -/
def applyAisConfigIfChanged (rx : UartRx cfg) (mmsi : UInt32) : UartRx cfg :=
  if mmsi = rx.appliedMmsi then rx
  else { rx with appliedMmsi := mmsi, aisFilter := aisMmsiFilterInit mmsi }

/-- A complete frame goes through the filter. The result carries the frame and
whether the filter dropped it; a frame it passed is published. -/
def uartRxFrame (rx : UartRx cfg) : UartRx cfg × Option (Frame × Bool) :=
  let stats := { rx.stats with framesRx := rx.stats.framesRx + 1 }
  match aisMmsiFilterShouldDrop rx.aisFilter rx.frame with
  -- Counted as received, and as filtered.
  | (aisFilter, true) =>
    let stats := { stats with aisSelfMmsiFiltered := stats.aisSelfMmsiFiltered + 1 }
    ({ rx with aisFilter, stats }.emptied, some (rx.frame, true))
  | (aisFilter, false) => ({ rx with aisFilter, stats }.emptied, some (rx.frame, false))

/-- The body of the inner loop for one polled byte. -/
def uartRxByte (rx : UartRx cfg) (ch : UInt8) : UartRx cfg × Option (Frame × Bool) :=
  let rx := rx.counted
  if rx.droppingOverlong then
    -- The newline of a line that was given up; what follows it is collected again.
    if ch = newline then ({ rx with droppingOverlong := false }.emptied, none) else (rx, none)
  else if room : rx.frame.length < cfg.nmeaFrameMaxLen then
    if ch = newline then uartRxFrame (rx.stored room ch) else (rx.stored room ch, none)
  else
    -- The byte has no room and is lost with its line, even where it is the newline.
    let stats := { rx.stats with overlongFrames := rx.stats.overlongFrames + 1 }
    ({ rx with stats, droppingOverlong := true }.emptied, none)

/-- What the thread does next: read the AIS setting or receive a byte. Bursts and
the sleep between them leave no trace. -/
inductive UartRxEvent where
  | applyAisConfig (mmsi : UInt32)
  | byte (ch : UInt8)
  deriving DecidableEq, Repr

def uartRxStep (rx : UartRx cfg) : UartRxEvent → UartRx cfg × Option (Frame × Bool)
  | .applyAisConfig mmsi => (applyAisConfigIfChanged rx mmsi, none)
  | .byte ch => uartRxByte rx ch

/-! ## What one byte can do -/

section Byte

variable (rx : UartRx cfg)

@[simp] theorem frame_applyAisConfigIfChanged (mmsi : UInt32) :
    (applyAisConfigIfChanged rx mmsi).frame = rx.frame := by
  unfold applyAisConfigIfChanged
  split_ifs <;> rfl

@[simp] theorem droppingOverlong_applyAisConfigIfChanged (mmsi : UInt32) :
    (applyAisConfigIfChanged rx mmsi).droppingOverlong = rx.droppingOverlong := by
  unfold applyAisConfigIfChanged
  split_ifs <;> rfl

@[simp] theorem stats_applyAisConfigIfChanged (mmsi : UInt32) :
    (applyAisConfigIfChanged rx mmsi).stats = rx.stats := by
  unfold applyAisConfigIfChanged
  split_ifs <;> rfl

/-- A complete frame is handed to the filter and counted, and the buffer is free again. -/
theorem uartRxFrame_spec :
    (uartRxFrame rx).1.frame = [] ∧
      (uartRxFrame rx).1.droppingOverlong = rx.droppingOverlong ∧
      (uartRxFrame rx).1.stats.framesRx = rx.stats.framesRx + 1 ∧
      (uartRxFrame rx).1.stats.overlongFrames = rx.stats.overlongFrames ∧
      (uartRxFrame rx).2 = some (rx.frame, (aisMmsiFilterShouldDrop rx.aisFilter rx.frame).2) := by
  unfold uartRxFrame
  rcases aisMmsiFilterShouldDrop rx.aisFilter rx.frame with ⟨aisFilter, _ | _⟩ <;>
    simp [UartRx.emptied]

/-- While an overlong line is discarded, only a newline matters. -/
theorem uartRxByte_dropping (dropping : rx.droppingOverlong = true) (ch : UInt8) :
    (uartRxByte rx ch).2 = none ∧
      (uartRxByte rx ch).1.stats.framesRx = rx.stats.framesRx ∧
      (uartRxByte rx ch).1.stats.overlongFrames = rx.stats.overlongFrames ∧
      (uartRxByte rx ch).1.droppingOverlong = decide (ch ≠ newline) ∧
      (uartRxByte rx ch).1.frame = if ch = newline then [] else rx.frame := by
  by_cases ends : ch = newline <;>
    simp [uartRxByte, UartRx.counted, UartRx.emptied, dropping, ends]

/-- A byte that does not fit starts discarding, whichever byte it is. -/
theorem uartRxByte_full (collecting : rx.droppingOverlong = false)
    (full : rx.frame.length = cfg.nmeaFrameMaxLen) (ch : UInt8) :
    (uartRxByte rx ch).2 = none ∧
      (uartRxByte rx ch).1.stats.framesRx = rx.stats.framesRx ∧
      (uartRxByte rx ch).1.stats.overlongFrames = rx.stats.overlongFrames + 1 ∧
      (uartRxByte rx ch).1.droppingOverlong = true ∧
      (uartRxByte rx ch).1.frame = [] := by
  simp [uartRxByte, UartRx.counted, UartRx.emptied, collecting, full]

/-- A newline that fits completes the frame. -/
theorem uartRxByte_newline (collecting : rx.droppingOverlong = false)
    (room : rx.frame.length < cfg.nmeaFrameMaxLen) :
    (uartRxByte rx newline).2 = some (rx.frame ++ [newline],
        (aisMmsiFilterShouldDrop rx.aisFilter (rx.frame ++ [newline])).2) ∧
      (uartRxByte rx newline).1.stats.framesRx = rx.stats.framesRx + 1 ∧
      (uartRxByte rx newline).1.stats.overlongFrames = rx.stats.overlongFrames ∧
      (uartRxByte rx newline).1.droppingOverlong = false ∧
      (uartRxByte rx newline).1.frame = [] := by
  have completes : uartRxByte rx newline = uartRxFrame (rx.counted.stored room newline) := by
    simp [uartRxByte, show rx.counted.droppingOverlong = false from collecting,
      show rx.counted.frame.length < cfg.nmeaFrameMaxLen from room]
  obtain ⟨frame, dropping, framesRx, overlongFrames, handed⟩ :=
    uartRxFrame_spec (rx.counted.stored room newline)
  rw [completes]
  exact ⟨handed, framesRx, overlongFrames, dropping.trans collecting, frame⟩

/-- Any other byte that fits is stored. -/
theorem uartRxByte_store (collecting : rx.droppingOverlong = false)
    (room : rx.frame.length < cfg.nmeaFrameMaxLen) {ch : UInt8} (other : ch ≠ newline) :
    (uartRxByte rx ch).2 = none ∧
      (uartRxByte rx ch).1.stats.framesRx = rx.stats.framesRx ∧
      (uartRxByte rx ch).1.stats.overlongFrames = rx.stats.overlongFrames ∧
      (uartRxByte rx ch).1.droppingOverlong = false ∧
      (uartRxByte rx ch).1.frame = rx.frame ++ [ch] := by
  simp [uartRxByte, UartRx.counted, UartRx.stored, collecting, room, other]

end Byte

end EspNmeaBridge
