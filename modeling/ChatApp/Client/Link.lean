/-
  What `WebSocketService` and `NetworkService` have in common: the flag of the connection, the
  heartbeats, and the reconnects with growing delays. A timer field is true while the timer is
  active. `backOff` is the end of the callback of `_reconnectTimer`.
-/

namespace ChatApp.Client

structure Link where
  isConnected : Bool
  autoReconnect : Bool
  reconnectDelay : Nat
  missedHeartbeats : Nat
  heartbeatTimer : Bool
  heartbeatTimeoutTimer : Bool
  reconnectTimer : Bool

namespace Link

/-- A service that has not been used. -/
def init : Link := ⟨false, true, 1000, 0, false, false, false⟩

def stopHeartbeat (s : Link) : Link :=
  { s with heartbeatTimer := false, heartbeatTimeoutTimer := false }

def startHeartbeat (s : Link) : Link :=
  { s.stopHeartbeat with missedHeartbeats := 0, heartbeatTimer := true }

/-- `if (_autoReconnect) _scheduleReconnect()` -/
def scheduleReconnect (s : Link) : Link :=
  { s with reconnectTimer := s.reconnectTimer || s.autoReconnect }

def handleDisconnect (s : Link) : Link :=
  { s.stopHeartbeat with isConnected := false }.scheduleReconnect

/-- After a `connect` that has failed. -/
def backOff (s : Link) (fromTimer : Bool) : Link :=
  { s with reconnectDelay :=
      if fromTimer then max 1000 (min (s.reconnectDelay * 2) 30000) else s.reconnectDelay }

/-- The handlers of `connect`, and what follows in the timer that has called it. -/
def connectFailed (s : Link) (fromTimer : Bool) : Link :=
  { s with isConnected := false }.scheduleReconnect.backOff fromTimer

/-- `connect` after its `await`, up to `_startListening`. -/
def connectReady (s : Link) : Link :=
  { s with isConnected := true, missedHeartbeats := 0, reconnectDelay := 1000 }

def handleHeartbeatResponse (s : Link) : Link :=
  { s with missedHeartbeats := 0, heartbeatTimeoutTimer := false }

/-- The callback of `_heartbeatTimer`. -/
def sendHeartbeat (s : Link) : Link :=
  { s with heartbeatTimeoutTimer := s.isConnected || s.heartbeatTimeoutTimer }

/-- The callback of `_heartbeatTimeoutTimer`, and whether the connection is given up. -/
def heartbeatTimeout (s : Link) : Link × Bool :=
  let s := { s with heartbeatTimeoutTimer := false }
  if s.isConnected then
    let s := { s with missedHeartbeats := s.missedHeartbeats + 1 }
    if 3 ≤ s.missedHeartbeats then (s.handleDisconnect, true) else (s, false)
  else (s, false)

def disconnect (s : Link) : Link :=
  { s.stopHeartbeat with autoReconnect := false, reconnectTimer := false, isConnected := false }

theorem heartbeatTimeout_given_up {s : Link} (h : s.heartbeatTimeout.2 = true) :
    s.isConnected = true ∧ s.heartbeatTimeout.1.isConnected = false := by
  unfold heartbeatTimeout at h ⊢
  by_cases hconnected : s.isConnected = true
  · by_cases hmissed : 3 ≤ s.missedHeartbeats + 1
    · simp [hconnected, hmissed, handleDisconnect, scheduleReconnect]
    · simp [hconnected, hmissed] at h
  · simp [hconnected] at h

theorem heartbeatTimeout_kept {s : Link} (h : ¬ s.heartbeatTimeout.2 = true) :
    s.heartbeatTimeout.1.isConnected = s.isConnected := by
  unfold heartbeatTimeout at h ⊢
  by_cases hconnected : s.isConnected = true
  · by_cases hmissed : 3 ≤ s.missedHeartbeats + 1
    · simp [hconnected, hmissed] at h
    · simp [hconnected, hmissed]
  · simp [hconnected]

theorem heartbeatTimeout_schedules {s : Link} (h : s.heartbeatTimeout.2 = true) :
    s.heartbeatTimeout.1.autoReconnect = s.autoReconnect ∧
      s.heartbeatTimeout.1.reconnectTimer = (s.reconnectTimer || s.autoReconnect) := by
  unfold heartbeatTimeout at h ⊢
  by_cases hconnected : s.isConnected = true
  · by_cases hmissed : 3 ≤ s.missedHeartbeats + 1
    · simp [hconnected, hmissed, handleDisconnect, stopHeartbeat, scheduleReconnect]
    · simp [hconnected, hmissed] at h
  · simp [hconnected] at h

theorem heartbeatTimeout_idle {s : Link} (h : ¬ s.heartbeatTimeout.2 = true) :
    s.heartbeatTimeout.1.autoReconnect = s.autoReconnect ∧
      s.heartbeatTimeout.1.reconnectTimer = s.reconnectTimer := by
  unfold heartbeatTimeout at h ⊢
  by_cases hconnected : s.isConnected = true
  · by_cases hmissed : 3 ≤ s.missedHeartbeats + 1
    · simp [hconnected, hmissed] at h
    · simp [hconnected, hmissed]
  · simp [hconnected]

end Link

end ChatApp.Client
