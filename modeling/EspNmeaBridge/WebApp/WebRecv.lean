/-
# Receiving

The bytes of a peer arrive in pieces. A call to `web_recv` returns the next piece,
at most as much of it as was asked for, or an error; the rest of the piece is there
for the next call. A piece without bytes is the end of the connection, and when
nothing is left the receive timeout ends the wait.
-/

import EspNmeaBridge.WebApp.ConfigUpdate

namespace EspNmeaBridge

/-- One call, with what later calls can return. -/
def webRecv (want : ℕ) : List WebRecv → WebRecv × List WebRecv
  | [] => (.error .eagain, [])
  | .error errno :: recvs => (.error errno, recvs)
  | .received bytes :: recvs =>
    if bytes.length ≤ want then (.received bytes, recvs)
    else (.received (bytes.take want), .received (bytes.drop want) :: recvs)

/-- The bytes that can still be received. -/
def pendingBytes (recvs : List WebRecv) : List UInt8 :=
  recvs.flatMap fun
    | .received bytes => bytes
    | .error _ => []

/-- No more calls than this can be made before nothing is left. -/
def pendingCalls (recvs : List WebRecv) : ℕ := (pendingBytes recvs).length + recvs.length

@[simp] theorem pendingBytes_received (bytes : List UInt8) (recvs : List WebRecv) :
    pendingBytes (.received bytes :: recvs) = bytes ++ pendingBytes recvs := rfl

@[simp] theorem pendingBytes_error (errno : Errno) (recvs : List WebRecv) :
    pendingBytes (.error errno :: recvs) = pendingBytes recvs := rfl

section OneCall

variable {want : ℕ} {recvs rest : List WebRecv} {bytes : List UInt8} {errno : Errno}

theorem webRecv_length_le (called : (webRecv want recvs).2 = rest) :
    rest.length ≤ recvs.length := by
  subst called
  match recvs with
  | [] => exact le_refl _
  | .error errno :: recvs => exact Nat.le_succ _
  | .received piece :: recvs =>
    rw [webRecv]
    split_ifs
    · exact Nat.le_succ _
    · exact le_refl _

/-- An interrupted call took nothing but the interruption away. -/
theorem webRecv_interrupted (called : webRecv want recvs = (.error .eintr, rest)) :
    recvs = .error .eintr :: rest := by
  match recvs with
  | [] => cases (Prod.mk.inj called).1
  | .error other :: recvs =>
    obtain ⟨⟨⟩, rfl⟩ := Prod.mk.inj called
    rfl
  | .received piece :: recvs =>
    rw [webRecv] at called
    split_ifs at called <;> cases (Prod.mk.inj called).1

/-- A call that succeeds returns the next pending bytes, no more than asked for. -/
theorem webRecv_received (called : webRecv want recvs = (.received bytes, rest)) :
    pendingBytes recvs = bytes ++ pendingBytes rest ∧ bytes.length ≤ want := by
  match recvs with
  | [] => cases (Prod.mk.inj called).1
  | .error other :: recvs => cases (Prod.mk.inj called).1
  | .received piece :: recvs =>
    rw [webRecv] at called
    split_ifs at called with short
    · obtain ⟨⟨⟩, rfl⟩ := Prod.mk.inj called
      exact ⟨rfl, short⟩
    · obtain ⟨⟨⟩, rfl⟩ := Prod.mk.inj called
      refine ⟨?_, List.length_take_le _ _⟩
      rw [pendingBytes_received, pendingBytes_received, ← List.append_assoc, List.take_append_drop]

/-! The receive loops go on only after an interruption or some bytes, and both leave
fewer calls to make. -/

theorem pendingCalls_lt_of_interrupted (called : webRecv want recvs = (.error .eintr, rest)) :
    pendingCalls rest < pendingCalls recvs := by
  rw [webRecv_interrupted called, pendingCalls, pendingCalls, pendingBytes_error,
    List.length_cons]
  exact Nat.lt_succ_self _

theorem pendingCalls_lt_of_received (called : webRecv want recvs = (.received bytes, rest))
    (nonempty : bytes ≠ []) : pendingCalls rest < pendingCalls recvs := by
  have shorter : rest.length ≤ recvs.length := webRecv_length_le (congrArg Prod.snd called)
  have positive : 0 < bytes.length := List.length_pos_iff.mpr nonempty
  rw [pendingCalls, pendingCalls, (webRecv_received called).1, List.length_append]
  omega

end OneCall

end EspNmeaBridge
