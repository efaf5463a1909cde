/-
# The frame buffer as memory

The reader's frame is the front of an array on its stack. Here the array is
memory of fixed size with a length kept beside it, every store goes to an offset,
and what the filter and the bridge get is read back from the front. The reader
over a list of bytes is the same machine, and no store of this one misses the
array.
-/

import EspNmeaBridge.Lib.ByteMemory
import EspNmeaBridge.UartNmea

namespace EspNmeaBridge

open ByteMemory CString

/-- The locals of `uart_rx_thread` with the array `frame` and `frame_len`. -/
structure UartRxMemory where
  frame : Memory
  frameLen : ℕ
  droppingOverlong : Bool
  appliedMmsi : UInt32
  aisFilter : AisMmsiFilter
  stats : UartNmeaStats

variable {cfg : Kconfig}

/-- The reader as its thread starts; the array holds whatever was on the stack. -/
def uartRxMemoryInit (stack : CharArray cfg.nmeaFrameMaxLen) : UartRxMemory where
  frame := stack.bytes
  frameLen := 0
  droppingOverlong := false
  appliedMmsi := 0
  aisFilter := aisMmsiFilterInit 0
  stats := { bytesRx := 0, framesRx := 0, overlongFrames := 0, aisSelfMmsiFiltered := 0 }

def UartRxMemory.applyAisConfigIfChanged (rx : UartRxMemory) (mmsi : UInt32) : UartRxMemory :=
  if mmsi = rx.appliedMmsi then rx
  else { rx with appliedMmsi := mmsi, aisFilter := aisMmsiFilterInit mmsi }

/-- A newline was stored: the front of the array goes through the filter. -/
def UartRxMemory.complete (rx : UartRxMemory) : UartRxMemory × Option (Frame × Bool) :=
  let stats := { rx.stats with framesRx := rx.stats.framesRx + 1 }
  let frame := load rx.frame 0 rx.frameLen
  match aisMmsiFilterShouldDrop rx.aisFilter frame with
  | (aisFilter, true) =>
    let stats := { stats with aisSelfMmsiFiltered := stats.aisSelfMmsiFiltered + 1 }
    ({ rx with aisFilter, stats, frameLen := 0 }, some (frame, true))
  | (aisFilter, false) => ({ rx with aisFilter, stats, frameLen := 0 }, some (frame, false))

/-- The body of the inner loop for one polled byte, with the offsets stored to. -/
def UartRxMemory.byte (maxLen : ℕ) (rx : UartRxMemory) (ch : UInt8) :
    UartRxMemory × List ℕ × Option (Frame × Bool) :=
  let rx := { rx with stats := { rx.stats with bytesRx := rx.stats.bytesRx + 1 } }
  if rx.droppingOverlong then
    if ch = newline then ({ rx with droppingOverlong := false, frameLen := 0 }, [], none)
    else (rx, [], none)
  else if rx.frameLen < maxLen then
    let offset := rx.frameLen
    let rx := { rx with frame := store rx.frame offset [ch], frameLen := offset + 1 }
    if ch = newline then
      let (rx, handed) := rx.complete
      (rx, [offset], handed)
    else (rx, [offset], none)
  else
    let stats := { rx.stats with overlongFrames := rx.stats.overlongFrames + 1 }
    ({ rx with stats, droppingOverlong := true, frameLen := 0 }, [], none)

/-- The front of the array is the frame, and everything else is the same. -/
structure UartRxMemory.Represents (memory : UartRxMemory) (rx : UartRx cfg) : Prop where
  size : memory.frame.length = cfg.nmeaFrameMaxLen
  frameLen : memory.frameLen = rx.frame.length
  frame : load memory.frame 0 memory.frameLen = rx.frame
  droppingOverlong : memory.droppingOverlong = rx.droppingOverlong
  appliedMmsi : memory.appliedMmsi = rx.appliedMmsi
  aisFilter : memory.aisFilter = rx.aisFilter
  stats : memory.stats = rx.stats

theorem represents_init (stack : CharArray cfg.nmeaFrameMaxLen) :
    (uartRxMemoryInit stack).Represents (uartRxInit : UartRx cfg) :=
  ⟨stack.size_eq, rfl, rfl, rfl, rfl, rfl, rfl⟩

namespace UartRxMemory

section Steps

variable {memory : UartRxMemory} {rx : UartRx cfg}

theorem Represents.counted (represents : memory.Represents rx) :
    { memory with
      stats := { memory.stats with bytesRx := memory.stats.bytesRx + 1 } }.Represents
        rx.counted :=
  { represents with stats := by rw [represents.stats]; rfl }

theorem Represents.emptied (represents : memory.Represents rx) :
    { memory with frameLen := 0 }.Represents rx.emptied :=
  { represents with frameLen := rfl, frame := rfl }

/-- A byte stored behind the frame extends it. -/
theorem Represents.stored (represents : memory.Represents rx)
    (room : rx.frame.length < cfg.nmeaFrameMaxLen) (ch : UInt8) :
    { memory with
      frame := store memory.frame memory.frameLen [ch]
      frameLen := memory.frameLen + 1 }.Represents (rx.stored room ch) := by
  have size := represents.size
  have frameLen := represents.frameLen
  have extended : load (store memory.frame (0 + memory.frameLen) [ch]) 0 (memory.frameLen + 1) =
      load memory.frame 0 memory.frameLen ++ [ch] := load_store_append (by omega)
  rw [Nat.zero_add, represents.frame] at extended
  refine { represents with
    size := ?_
    frameLen := by simp [UartRx.stored, frameLen]
    frame := extended }
  rw [length_store (by rw [List.length_singleton]; omega)]
  exact size

theorem Represents.applyAisConfigIfChanged (represents : memory.Represents rx) (mmsi : UInt32) :
    (memory.applyAisConfigIfChanged mmsi).Represents
      (EspNmeaBridge.applyAisConfigIfChanged rx mmsi) := by
  unfold UartRxMemory.applyAisConfigIfChanged EspNmeaBridge.applyAisConfigIfChanged
  rw [represents.appliedMmsi]
  split_ifs with same
  · exact represents
  · exact { represents with appliedMmsi := rfl, aisFilter := rfl }

theorem Represents.complete (represents : memory.Represents rx) :
    memory.complete.1.Represents (uartRxFrame rx).1 ∧
      memory.complete.2 = (uartRxFrame rx).2 := by
  unfold UartRxMemory.complete uartRxFrame
  rw [represents.frame, represents.aisFilter, represents.stats]
  obtain ⟨size, -, -, droppingOverlong, appliedMmsi, -, -⟩ := represents
  dsimp only
  rcases aisMmsiFilterShouldDrop rx.aisFilter rx.frame with ⟨aisFilter, _ | _⟩
  · exact ⟨⟨size, rfl, rfl, droppingOverlong, appliedMmsi, rfl, rfl⟩, rfl⟩
  · exact ⟨⟨size, rfl, rfl, droppingOverlong, appliedMmsi, rfl, rfl⟩, rfl⟩

/-- One byte does the same to both readers, and the store it makes is inside the array. -/
theorem Represents.byte (represents : memory.Represents rx) (ch : UInt8) :
    (memory.byte cfg.nmeaFrameMaxLen ch).1.Represents (uartRxByte rx ch).1 ∧
      (memory.byte cfg.nmeaFrameMaxLen ch).2.2 = (uartRxByte rx ch).2 ∧
      ∀ offset ∈ (memory.byte cfg.nmeaFrameMaxLen ch).2.1, offset < memory.frame.length := by
  have counted := represents.counted
  have size := represents.size
  unfold UartRxMemory.byte uartRxByte
  dsimp only
  by_cases dropping : rx.droppingOverlong = true
  · rw [if_pos (represents.droppingOverlong.trans dropping),
      if_pos (show rx.counted.droppingOverlong = true from dropping)]
    -- The rest of an overlong line is skipped up to its newline.
    split_ifs with ends
    · exact ⟨{ counted.emptied with droppingOverlong := rfl }, rfl, by simp⟩
    · exact ⟨counted, rfl, by simp⟩
  · rw [if_neg (represents.droppingOverlong ▸ dropping),
      if_neg (show ¬ rx.counted.droppingOverlong = true from dropping)]
    by_cases room : rx.frame.length < cfg.nmeaFrameMaxLen
    · rw [if_pos (represents.frameLen ▸ room),
        dif_pos (show rx.counted.frame.length < cfg.nmeaFrameMaxLen from room)]
      have stored := counted.stored room ch
      have inside : ∀ offset ∈ [memory.frameLen], offset < memory.frame.length := by
        intro offset member
        rw [List.mem_singleton.mp member, represents.frameLen, size]
        exact room
      split_ifs with ends
      · exact ⟨stored.complete.1, stored.complete.2, inside⟩
      · exact ⟨stored, rfl, inside⟩
    · rw [if_neg (represents.frameLen ▸ room),
        dif_neg (show ¬ rx.counted.frame.length < cfg.nmeaFrameMaxLen from room)]
      -- The line has become overlong: nothing is stored, and the count goes up in both.
      refine ⟨{ counted.emptied with droppingOverlong := rfl, stats := ?_ }, rfl, by simp⟩
      exact congrArg (fun stats : UartNmeaStats =>
        { stats with overlongFrames := stats.overlongFrames + 1 }) counted.stats

end Steps

end UartRxMemory

end EspNmeaBridge
