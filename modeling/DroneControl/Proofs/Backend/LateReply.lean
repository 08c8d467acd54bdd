import DroneControl.Proofs.Backend.Handshake

/-!
# Replies to a handshake that is over

The device may reply again, or a reply may come late, when the connection is established already.  A
reply that accepts the connection comes to nothing then.  Any other reply ends the connection: whether
it is still being negotiated is asked of the former only.
-/

set_option synthInstance.maxSize 2048

namespace DroneControl

variable {σ : Type} {b : BackendId} {c : ConnectionId} {w : World σ} {env : Env σ} {x : Connection}

theorem World.OnCourse.bare (onCourse : w.OnCourse c) (closed : w.HasClosed c) :
    (w.connection c).pipe = none := by
  obtain ⟨x, row, shut⟩ := closed
  simp only [World.OnCourse, row, Connection.Piped, shut] at onCourse
  rw [World.connection_of_find? row]
  exact onCourse.2

namespace Backend

variable (b env) in
theorem completeHandshake_established (established : (w.connection c).state.isEstablished)
    {reply : Bytes} {answer : HandshakeReply} (accepts : HandshakeReply.Accepts reply answer)
    (link : Link) :
    ∃ journal, (completeHandshake env b c reply link).run.run w =
      (.error (Connection.refusal "connected" (w.connection c).state), { w with journal }) := by
  have other : (w.connection c).state ∉ [ConnectionState.connecting] := by
    intro connecting
    simp [List.mem_singleton.mp connecting, ConnectionState.isEstablished] at established
  obtain ⟨journal, logged⟩ := w.log_journal .warn "Operation not allowed in current state"
    [("conn", c.label), ("op", "connected"), ("state", (w.connection c).state.name)]
  rw [run_completeHandshake_of_accepts accepts]
  unfold Connection.connected
  rw [Connection.run_checkThen, if_neg other, logged]
  exact ⟨journal, rfl⟩

variable (env) in
theorem refuse_leaves [Upheld (Keeps (Rests c)) env] (row : w.connections.find? c = some x)
    (live : x.state ≠ .closed) :
    Leaves c x ((if x.announced then [] else [.connecting]) ++ [.canceled .rejected]) w
      ((refuse env c).run w).2 := by
  obtain ⟨w', canceled, leaves⟩ := Connection.cancel_leaves env row live .rejected
  unfold refuse
  rw [run_bind, run_get, World.connection_of_find? row, if_pos live, run_recover, canceled]
  exact leaves

end Backend

/-- However the reply reads that comes for an established connection, it is answered with an error.  If
it accepts the connection nothing but a record comes of it.  Otherwise the connection is closed: its pipe
is gone, and its sink, which had been told that it was connected, is told that the device rejected it. -/
theorem Hosted.answers_late_reply (hosted : Hosted env) (onCourse : w.OnCourse c)
    (established : (w.connection c).state.isEstablished) (b : BackendId) (reply : Bytes)
    (link : Link) :
    let ended := (Backend.completeHandshake env b c reply link).run.run w
    w.milestones c = [.connecting, .connected] ∧
    (∀ answer, HandshakeReply.Accepts reply answer →
      ended.1 = .error (Connection.refusal "connected" (w.connection c).state) ∧
      ∃ journal, ended.2 = { w with journal }) ∧
    ((∀ answer, ¬HandshakeReply.Accepts reply answer) →
      (∃ f, ended.1 = .error f) ∧ (ended.2.connection c).state = .closed ∧
      (ended.2.connection c).pipe = none ∧
      ended.2.heard c = w.heard c ++ [.canceled .rejected]) := by
  intro ended
  refine ⟨World.Settled.told (.inl onCourse) established, fun answer accepts => ?_, fun refused => ?_⟩
  · obtain ⟨journal, runs⟩ := Backend.completeHandshake_established b env established accepts link
    have same : ended = (_, { w with journal }) := runs
    rw [same]
    exact ⟨rfl, journal, rfl⟩
  · have live : (w.connection c).state ≠ .closed := by
      intro closed
      simp [closed, ConnectionState.isEstablished] at established
    obtain ⟨x, row, same⟩ := Connection.found_of_live live
    obtain ⟨f, message, fields, runs⟩ := Backend.run_completeHandshake_of_refused refused c w
    have ends : ended = (.error f, ((Backend.refuse env c).run (w.log .warn message fields)).2) :=
      runs env b link
    have := hosted.leavesAtRest c
    have leaves := Backend.refuse_leaves env (w := w.log .warn message fields)
      ((w.log_connections _ _ _).symm ▸ row) (same ▸ live)
    have announced : x.announced := by
      rw [onCourse.announced_iff_heard row (same ▸ live), World.connecting_mem_heard,
        World.Settled.told (.inl onCourse) established]
      exact List.mem_cons_self
    have := hosted.goesOn c
    have completes : Holds (Keeps (GoesOn c)) (Backend.completeHandshake env b c reply link).run :=
      inferInstance
    have later : ended.2.OnCourse c := (completes.holds w).onCourse onCourse
    rw [ends] at later ⊢
    refine ⟨⟨f, rfl⟩, leaves.closed.state, later.bare leaves.closed, leaves.heard.trans ?_⟩
    rw [World.heard_congr (w.log_history _ _ _), if_pos announced]
    rfl

def firstMeeting : Act Unit (Except Fault HandshakeReply) := do
  let _ ← firstStart
  (Backend.completeHandshake silentHost ⟨1⟩ ⟨1⟩ firstReply (.supplied ⟨1⟩)).run

def brokenReply : Bytes := "\x7b\"status\":0".toUTF8.toList

theorem firstMeeting_answers_late_reply :
    let w := (firstMeeting.run { host := () }).2
    (w.connection ⟨1⟩).state = .connected ∧
    let ended := (Backend.completeHandshake silentHost ⟨1⟩ ⟨1⟩ brokenReply (.supplied ⟨1⟩)).run.run w
    (∃ f, ended.1 = .error f) ∧ (ended.2.connection ⟨1⟩).state = .closed ∧
      ended.2.heard ⟨1⟩ = [.connecting, .connected ⟨1⟩ .full, .canceled .rejected] := by
  intro w
  have state : (w.connection ⟨1⟩).state = .connected := by decide +kernel
  have before : w.heard ⟨1⟩ = [.connecting, .connected ⟨1⟩ .full] := by decide +kernel
  have onCourse : w.OnCourse ⟨1⟩ := by
    have met := (firstStart_netStarted.later silentHost_hosted
      (.basic (.inr (.completeHandshake ⟨1⟩ ⟨1⟩ firstReply (.supplied ⟨1⟩))))).onCourse
    unfold w firstMeeting
    rw [run_bind]
    exact met
  have unreadable : HandshakeReply.ofBytes? brokenReply = none := by decide +kernel
  have refused : ∀ answer, ¬HandshakeReply.Accepts brokenReply answer := by
    rintro answer ⟨reads, -⟩
    cases unreadable.symm.trans reads
  obtain ⟨-, -, refuses⟩ := silentHost_hosted.answers_late_reply onCourse
    (by rw [state]; rfl) ⟨1⟩ brokenReply (.supplied ⟨1⟩)
  obtain ⟨fails, closed, -, heard⟩ := refuses refused
  exact ⟨state, fails, closed, heard.trans (by rw [before]; rfl)⟩

end DroneControl
