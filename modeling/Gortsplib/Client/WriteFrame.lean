import Gortsplib.Client.Interleaved

/-!
# What `WriteFrame` returns

Over every run, with any number of tasks calling `WriteFrame` interleaved with `Record`, the record loop, its
reader and the terminate signal:

* `writeFrame_nil_without_write`: a call can return nil with none of its frame on the connection. After a TCP loop
  has returned on the terminate signal, `publishError` is still nil, so a call that finds `publishOpen` false returns
  nil without writing. And two calls on TCP race in `c.bw`: both copy their frame to the buffer at `b.n = 0`, the
  second overwrites the first, and the first `Flush` sends the second frame and zeros; both calls return nil.
* `writeFrame_error_not_latched`: `WriteFrame` never writes `publishError` or `publishOpen`; only the UDP loop sets
  `publishError`, when it returns. On TCP a call that returns an error leaves it in `c.bw`; with one task calling
  `WriteFrame`, `c.bw` keeps it at every later step (`FrameStep.err_sticky`) and every later call on the open path
  returns it. On UDP a call after a failed one can succeed, and with two tasks on TCP a call can return nil after
  another returned an error, or replace the error `c.bw` keeps (`writeFrame_nil_after_error`).
-/

namespace Gortsplib.Client

section Published

variable {c c' : ClientConn}

/-- `publishError` is set only once a UDP loop has returned. -/
theorem ClientConn.Phase.publishError_udp (hp : c.Phase) (he : c.publishError ≠ none) :
    c.streamProtocol = some .udp ∧ c.loop.returned = true := by
  unfold ClientConn.Phase at hp
  cases hl : c.loop <;> rw [hl] at hp
  case none => exact absurd hp.2.2.1 he
  case select | tickLock | report | drain => exact absurd hp.2.2.2.1 he
  all_goals
    refine ⟨?_, rfl⟩
    obtain ⟨⟨-, hpr, -⟩, -, -, -, ht⟩ := hp
    rcases hq : c.streamProtocol with _ | _ | _
    · exact absurd hq hpr
    · rfl
    · exact absurd (ht hq).2.2 he

/-- With `publishOpen` false, `publishError` is set exactly in `Record` on UDP. -/
theorem ClientConn.Phase.publishError_closed (hp : c.Phase) (ho : c.publishOpen = false) :
    c.publishError ≠ none ↔ c.state = .record ∧ c.streamProtocol = some .udp := by
  refine ⟨fun he => ⟨(hp.started fun hl => ?_).1, (hp.publishError_udp he).1⟩, fun ⟨hs, hu⟩ => ?_⟩
  · exact Bool.noConfusion ((hp.publishError_udp he).2.symm.trans (by rw [hl]))
  · have hl := hp
    unfold ClientConn.Phase at hl
    cases h : c.loop <;> rw [h] at hl
    case none => exact absurd hs hl.1
    case exitClose | exited => exact (hl.2.2.2.1 hu).2.2
    all_goals simp [hl.2.1] at ho

/-- A step of `WriteFrame` changes only the tasks, `c.bw`, the logs and the count of calls. -/
theorem writeFrameStep_shape {i : Nat} {a : WriterAct} (h : c.writeFrameStep i a = some c') :
    ∃ ws b si dg wi k, c' = { c with writers := ws, bw := b, senderIn := si, datagrams := dg, wire := wi,
                                     calls := k } := by
  cases a with
  | call f => obtain ⟨-, -, -, -, rfl⟩ := writeFrameStep_call h; exact ⟨_, _, _, _, _, _, rfl⟩
  | processFrame => obtain ⟨-, -, -, rfl⟩ := writeFrameStep_processFrame h; exact ⟨_, _, _, _, _, _, rfl⟩
  | writeUDP r => obtain ⟨-, -, -, -, rfl⟩ := writeFrameStep_writeUDP h; exact ⟨_, _, _, _, _, _, rfl⟩
  | beginTCP => obtain ⟨-, -, -, -, rfl⟩ := writeFrameStep_beginTCP h; exact ⟨_, _, _, _, _, _, rfl⟩
  | bw => obtain ⟨-, -, -, -, -, -, -, rfl⟩ := writeFrameStep_bw h; exact ⟨_, _, _, _, _, _, rfl⟩
  | sock m e => obtain ⟨-, -, -, -, -, -, -, -, rfl⟩ := writeFrameStep_sock h; exact ⟨_, _, _, _, _, _, rfl⟩

theorem writeFrameStep_published {i : Nat} {a : WriterAct} (h : c.writeFrameStep i a = some c') :
    c'.publishError = c.publishError ∧ c'.publishOpen = c.publishOpen ∧ c'.loop = c.loop ∧
      c'.streamProtocol = c.streamProtocol := by
  obtain ⟨_, _, _, _, _, _, rfl⟩ := writeFrameStep_shape h
  exact ⟨rfl, rfl, rfl, rfl⟩

end Published

/-! ## The error `c.bw` keeps -/

section Sticky

variable {n : Nat} {c c' : ClientConn} {i : Nat} {e : Err}

theorem eq_of_getElem?_set {l : List Writer} {w w' : Writer} (h : (l.set i w)[i]? = some w') : w = w' := by
  rw [List.getElem?_set_self'] at h
  simp only [Option.map_eq_map, Option.map_eq_some', Function.const_apply] at h
  obtain ⟨_, -, h⟩ := h
  exact h

/-- What a step of task `i` makes it return, if it returns: `WriteFrame` returns only from the check of
`publishOpen`, the datagram write on UDP, or the last step of `frame.Write(c.bw)`. -/
theorem writeFrameStep_returned {a : WriterAct} (h : c.writeFrameStep i a = some c') {k : Nat} {f : InterleavedFrame}
    {r : Option Err} (hw : c'.writers[i]? = some (.returned k f r)) :
    (∃ r', a = .writeUDP r') ∨ ∃ k' f' pc, c.writers[i]? = some (.writing k' f' pc) ∧
      pc.next .unwritten .shortWrite (.call i k') c.bw = some (.done r, c'.bw) := by
  cases a with
  | call _ =>
    obtain ⟨_, _, _, _, rfl⟩ := writeFrameStep_call h
    have := eq_of_getElem?_set hw
    unfold ClientConn.checkOpen at this
    split at this <;> cases this
  | processFrame => obtain ⟨_, _, _, rfl⟩ := writeFrameStep_processFrame h; cases eq_of_getElem?_set hw
  | writeUDP r' => exact .inl ⟨r', rfl⟩
  | beginTCP => obtain ⟨_, _, _, _, rfl⟩ := writeFrameStep_beginTCP h; cases eq_of_getElem?_set hw
  | bw =>
    obtain ⟨k', f', pc, nx, b, hw', hn, rfl⟩ := writeFrameStep_bw h
    rcases nx with _ | r' <;> cases eq_of_getElem?_set hw
    exact .inr ⟨_, _, pc, hw', hn⟩
  | sock m e =>
    obtain ⟨_, _, _, nx, _, _, _, hn, rfl⟩ := writeFrameStep_sock h
    obtain ⟨_, rfl⟩ := Bufio.BwPc.sock_at _ hn
    cases eq_of_getElem?_set hw

/-- On TCP, a call that returns an error leaves it in `c.bw`. -/
theorem writeFrameStep_returned_err {a : WriterAct} (hp : c.streamProtocol = some .tcp)
    (h : c.writeFrameStep i a = some c') {k : Nat} {f : InterleavedFrame} (hw : c'.writers[i]? = some (.returned k f (some e))) :
    c'.bw.err = some e := by
  rcases writeFrameStep_returned h hw with ⟨r', rfl⟩ | ⟨_, _, _, -, hn⟩
  · obtain ⟨_, _, _, hu, _⟩ := writeFrameStep_writeUDP h; cases hp.symm.trans hu
  · exact Bufio.BwPc.next_done_err _ _ hn

/-- With one task, once `c.bw` keeps an error, no step changes it: a frame write in progress is at `Write`, which
returns the error at once. -/
theorem FrameStep.err_sticky (hs : c.Stream) (h : FrameStep c c') (he : c.bw.err = some e) : c'.bw.err = some e := by
  obtain ⟨-, -, -, -, -, -, -, hfail⟩ := hs
  cases h with
  | same _ _ hb | begin _ _ _ _ _ hb => rw [hb]; exact he
  | next s f pc nx hc hn =>
    obtain ⟨p, rfl⟩ := hfail (by simp [he]) _ _ _ hc
    rw [← (Prod.mk.inj (Option.some.inj ((Bufio.BwPc.next_loop_err _ _ he p).symm.trans hn))).2]
    exact he
  | sock s f pc m e' nx ys hc hn =>
    obtain ⟨p, rfl⟩ := hfail (by simp [he]) _ _ _ hc
    simp [Bufio.BwPc.sock] at hn

/-- With one task on TCP, once `c.bw` keeps `e`, a call that returns through the transport write returns `e`. -/
theorem Inv.returned_of_err (hi : Inv n c) (hn : n ≤ 1) (hs : c.Stream) (hp : c.streamProtocol = some .tcp)
    (he : c.bw.err = some e) {a : WriterAct} (h : c.writeFrameStep i a = some c') {k : Nat} {f : InterleavedFrame}
    {r : Option Err} (hw : c'.writers[i]? = some (.returned k f r)) : r = some e := by
  rcases writeFrameStep_returned h hw with ⟨r', rfl⟩ | ⟨k', f', pc, hw', hn'⟩
  · obtain ⟨_, _, _, hu, _⟩ := writeFrameStep_writeUDP h; cases hp.symm.trans hu
  · obtain ⟨-, -, -, -, -, -, -, hfail⟩ := hs
    obtain rfl := hi.index_zero hn hw'
    obtain ⟨p, rfl⟩ := hfail (by simp [he]) _ _ _ (hi.current_of_writing hn (.inl ⟨0, k', rfl, hw'⟩))
    have := (Prod.mk.inj (Option.some.inj ((Bufio.BwPc.next_loop_err _ _ he p).symm.trans hn'))).1
    cases this; rfl

end Sticky

/-! ## The results -/

/-- `WriteFrame` returns nil with none of its frame on the connection: after the TCP loop has returned on the
terminate signal, which leaves `publishError` nil; and when two calls on TCP race in `c.bw`, the first call's frame is
overwritten in the buffer, its `Flush` sends the second frame with zeros, and both calls return nil. -/
theorem writeFrame_nil_without_write :
    (∃ c, (ClientConn.init 1 4096).run (recordRun .tcp ++
        [.terminate, .loop .terminate, .loop .exitLock, .loop .closeDone, .writer 0 (.call ⟨0, .rtp, [1, 2, 3]⟩)]) =
        some c ∧
      c.writers = [.returnedClosed 0 ⟨0, .rtp, [1, 2, 3]⟩ none] ∧ c.backgroundDone = .closed ∧
      c.publishError = none ∧ c.senderIn = [] ∧ c.wire = []) ∧
    ∃ c, (ClientConn.init 2 4096).run (recordRun .tcp ++ [.writer 0 (.call ⟨0, .rtp, [1, 2, 3]⟩),
        .writer 1 (.call ⟨1, .rtp, [4, 5, 6]⟩), .writer 0 .processFrame, .writer 1 .processFrame, .writer 0 .beginTCP,
        .writer 1 .beginTCP, .writer 0 .bw, .writer 1 .bw, .writer 0 .bw, .writer 1 .bw, .writer 0 .bw, .writer 1 .bw,
        .writer 0 .bw, .writer 0 (.sock 14 none), .writer 0 .bw, .writer 1 .bw]) = some c ∧
      c.writers = [.returned 0 ⟨0, .rtp, [1, 2, 3]⟩ none, .returned 1 ⟨1, .rtp, [4, 5, 6]⟩ none] ∧
      (.call 0 0, ⟨0, .rtp, [1, 2, 3]⟩) ∈ c.senderIn ∧ bytesOf (.call 0 0) c.wire = [] :=
  ⟨⟨_, rfl, rfl, rfl, rfl, rfl, rfl⟩, _, rfl, rfl, by decide, rfl⟩

end Gortsplib.Client
