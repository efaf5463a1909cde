/-
# Every frame is a line

Whatever the reader discards, a frame it hands to the filter is a complete line of
the received stream, and the frames come in the order of the lines. Each complete
line has one fate: discarded by the reader, dropped by the filter, or passed.
-/

import EspNmeaBridge.Lib.Delimited
import EspNmeaBridge.UartNmea

namespace EspNmeaBridge

open Delimited

variable {cfg : Kconfig}

/-- The lines of the stream, each with the verdict of the filter if it got one. -/
abbrev LineFates := List (Frame × Option Bool)

/-- The lines that were handed to the filter. -/
def LineFates.handed (fates : LineFates) : List (Frame × Bool) :=
  fates.filterMap fun line => line.2.map fun dropped => (line.1, dropped)

/-- The lines the filter passed. -/
def LineFates.passed (fates : LineFates) : List Frame :=
  (fates.filter fun line => line.2 = some false).map Prod.fst

/-- The reader's buffer is the incomplete line, and the frames handed over so far are
lines of the stream. -/
structure FollowsLines (stream : List UInt8) (handed : List (Frame × Bool)) (rx : UartRx cfg) :
    Prop where
  frame : rx.droppingOverlong = false → rx.frame = remainder newline stream
  fates : ∃ fates : LineFates, fates.map Prod.fst = segments newline stream ∧
    fates.handed = handed

theorem LineFates.passed_eq (fates : LineFates) :
    fates.passed = (fates.handed.filter fun line => !line.2).map Prod.fst := by
  induction fates with
  | nil => rfl
  | cons line fates ih =>
    obtain ⟨line, _ | dropped⟩ := line
    · simpa [passed, handed] using ih
    · cases dropped <;> simpa [passed, handed] using ih

section Step

variable {stream : List UInt8} {handed : List (Frame × Bool)} {rx : UartRx cfg}

theorem FollowsLines.applyAisConfig (follows : FollowsLines stream handed rx) (mmsi : UInt32) :
    FollowsLines stream handed (applyAisConfigIfChanged rx mmsi) where
  frame := by simpa using follows.frame
  fates := follows.fates

/-- A newline gives its line a fate: handed over or not. -/
theorem FollowsLines.lineEnd {after : UartRx cfg}
    (follows : FollowsLines stream handed rx) (answer : Option Bool) (emptied : after.frame = []) :
    FollowsLines (stream ++ [newline])
      (handed ++ (answer.map fun dropped =>
        (remainder newline stream ++ [newline], dropped)).toList) after where
  frame _ := by rw [emptied, remainder_snoc_delimiter]
  fates := by
    obtain ⟨fates, lines, given⟩ := follows.fates
    refine ⟨fates ++ [(remainder newline stream ++ [newline], answer)], ?_, ?_⟩
    · rw [List.map_append, lines, segments_snoc_delimiter]
      rfl
    · rw [← given]
      cases answer <;> simp [LineFates.handed]

/-- Any other byte gives no line a fate. -/
theorem FollowsLines.within {after : UartRx cfg} {ch : UInt8}
    (follows : FollowsLines stream handed rx) (other : ch ≠ newline)
    (frame : after.droppingOverlong = false → after.frame = remainder newline stream ++ [ch]) :
    FollowsLines (stream ++ [ch]) handed after where
  frame collecting := by rw [frame collecting, remainder_snoc_of_ne _ other]
  fates := by
    obtain ⟨fates, lines, given⟩ := follows.fates
    exact ⟨fates, by rw [lines, segments_snoc_of_ne _ other], given⟩

theorem FollowsLines.byte (follows : FollowsLines stream handed rx) (ch : UInt8) :
    FollowsLines (stream ++ [ch]) (handed ++ (uartRxByte rx ch).2.toList)
      (uartRxByte rx ch).1 := by
  by_cases closes : ch = newline
  · subst closes
    cases dropping : rx.droppingOverlong with
    -- The rest of a line that was given up: its newline hands nothing over.
    | true =>
      obtain ⟨answer, -, -, -, frame⟩ := uartRxByte_dropping rx dropping newline
      rw [answer]
      exact follows.lineEnd none (by simpa using frame)
    | false =>
      rcases rx.frame_fits.lt_or_eq with room | full
      · obtain ⟨answer, -, -, -, emptied⟩ := uartRxByte_newline rx dropping room
        rw [answer, follows.frame dropping]
        exact follows.lineEnd (some _) emptied
      · obtain ⟨answer, -, -, -, emptied⟩ := uartRxByte_full rx dropping full newline
        rw [answer]
        exact follows.lineEnd none emptied
  · cases dropping : rx.droppingOverlong with
    | true =>
      obtain ⟨answer, -, -, stillDropping, -⟩ := uartRxByte_dropping rx dropping ch
      rw [answer, Option.toList_none, List.append_nil]
      exact follows.within closes fun collecting => by simp [stillDropping, closes] at collecting
    | false =>
      rcases rx.frame_fits.lt_or_eq with room | full
      · obtain ⟨answer, -, -, -, stored⟩ := uartRxByte_store rx dropping room closes
        rw [answer, Option.toList_none, List.append_nil]
        exact follows.within closes fun _ => by rw [stored, follows.frame dropping]
      · -- The buffer is full: the line is given up, and nothing more of it is collected.
        obtain ⟨answer, -, -, nowDropping, -⟩ := uartRxByte_full rx dropping full ch
        rw [answer, Option.toList_none, List.append_nil]
        exact follows.within closes fun collecting => by simp [nowDropping] at collecting

end Step

end EspNmeaBridge
