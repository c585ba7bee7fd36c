import Mathlib.Algebra.BigOperators.Group.List
import Mathlib.Algebra.Order.Ring.Nat
import Gortsplib.Client.WriteFrame

/-!
# The record loop can always be terminated

Closing a connection closes `backgroundTerminate` and waits on `backgroundDone`. The record loop takes the write
lock of `publishWriteMutex` twice on its way out (for a report, and in its deferred function), and a task inside
`WriteFrame` holds the read lock across its transport write, so the wait could deadlock if some task could hold the
read lock forever, or if the loop could wait for a value on `readerDone` that never comes.

* `terminate_completes`: from every reachable state where `Record` has started a loop, on UDP or with at most one
  task calling `WriteFrame`, some run made only of the terminate signal, steps of the loop and its reader, and steps
  of the calls already inside `WriteFrame` ends with `backgroundDone` closed and no task holding the read lock; no
  write to a socket fails in that run.

The proof bounds the steps left (`ClientConn.pending`): a task inside `WriteFrame` can always move on
(`ClientConn.Progress.writer_of_holdsRLock`), and once no task holds the read lock the loop can
(`ClientConn.Progress.loop_of_noReaders`), each time lowering the bound. Inside `frame.Write(c.bw)` the only caller
always has a step that lowers its rank (`Bufio.BwPc.Ok.progress`). Two tasks on TCP can leave `c.bw` where a step of
`Write` or `Flush` panics (`b.n` past the buffer), so that case is left out. The UDP loop waits on `readerDone` only
in `drain`, which only UDP reaches (`Reach.loopProtocol`), where the reader reads or waits to send.
-/

namespace Gortsplib.Client

/-- The steps taken while the connection is closed, with no new call: the terminate signal, the record loop and its
reader, and the steps of calls already inside `WriteFrame`. -/
def Act.internal : Act → Bool
  | .terminate | .loop _ | .readFail _ => true
  | .writer _ (.call _) => false
  | .writer _ _ => true
  | _ => false

/-- No write to a socket fails in the step: every datagram is sent, and every write of `c.bw` to the connection
writes all it is given. -/
def Act.writesAll : Act → Bool
  | .writer _ (.writeUDP (some _)) | .writer _ (.sock _ (some _)) | .loop (.reportUDP (some _))
  | .loop (.reportSock _ (some _)) => false
  | _ => true

/-- The steps a task inside `WriteFrame` has left, at most, with `c.bw` at `b`. -/
def Writer.pending (b : Bufio.BufWriter Src Err) : Writer → Nat
  | .opened _ _ => 17
  | .processed _ _ => 16
  | .writing _ _ pc => pc.rank b + 1
  | _ => 0

/-- The steps the record loop at `l` has left until `backgroundDone` is closed, at most, once no task holds the read
lock; `t` is `backgroundTerminate`, `r` the reader and `b` the buffered writer. -/
def Loop.pending (t : Chan) (r : Reader) (b : Bufio.BufWriter Src Err) : Loop → Nat
  | .select => if t = .live then 7 else 6
  | .tickLock => 9
  | .report rs cur => 8 + 16 * rs.length + cur.elim 0 fun x => x.2.2.rank b + 1
  | .drain => if r = .reading then 4 else 3
  | .exitLock => 2
  | .exitClose => 1
  | _ => 0

/-- The steps left to close `backgroundDone` with no task holding the read lock, at most. -/
def ClientConn.pending (c : ClientConn) : Nat :=
  (c.writers.map (Writer.pending c.bw)).sum + c.loop.pending c.backgroundTerminate c.reader c.bw

/-- `c` has a step taken while closing, in which no write fails, that lowers the bound. -/
def ClientConn.Progress (c : ClientConn) : Prop :=
  ∃ a c', a.internal = true ∧ a.writesAll = true ∧ c.step a = some c' ∧ c'.pending < c.pending

/-! ## The bound -/

section Pending

/-- A step of task `i` that lowers its own bound, and leaves the bounds of the other tasks, lowers the sum. -/
theorem sum_pending_set_lt {ws : List Writer} {i : Nat} {w w' : Writer} {b b' : Bufio.BufWriter Src Err}
    (hw : ws[i]? = some w) (hlt : w'.pending b' < w.pending b)
    (hb : ∀ j x, j ≠ i → ws[j]? = some x → x.pending b' = x.pending b) :
    ((ws.set i w').map (Writer.pending b')).sum < (ws.map (Writer.pending b)).sum := by
  induction ws generalizing i with
  | nil => cases hw
  | cons x ws ih =>
    cases i with
    | zero =>
      cases (List.getElem?_cons_zero ▸ hw : some x = some w)
      have hrest : (ws.map (Writer.pending b')).sum = (ws.map (Writer.pending b)).sum := by
        refine congrArg List.sum (List.map_congr_left fun y hy => ?_)
        obtain ⟨j, hj⟩ := List.mem_iff_getElem?.mp hy
        exact hb (j + 1) y (by omega) (by simpa using hj)
      simp only [List.set_cons_zero, List.map_cons, List.sum_cons, hrest]
      omega
    | succ i =>
      have hrest := ih (i := i) (by simpa using hw) fun j y hj hy => hb (j + 1) y (by omega) (by simpa using hy)
      have hx := hb 0 x (by omega) (List.getElem?_cons_zero)
      simp only [List.set_cons_succ, List.map_cons, List.sum_cons, hx]
      omega

/-- With no task holding the read lock, no task has steps left. -/
theorem sum_pending_noReaders {c : ClientConn} (hr : c.noReaders = true) (b : Bufio.BufWriter Src Err) :
    (c.writers.map (Writer.pending b)).sum = 0 := by
  simp only [ClientConn.noReaders, List.all_eq_true, Bool.not_eq_true'] at hr
  refine List.sum_eq_zero fun _ hx => ?_
  obtain ⟨w, hw, rfl⟩ := List.mem_map.mp hx
  have := hr w hw
  cases w <;> simp_all [Writer.pending, Writer.holdsRLock]

theorem Loop.pending_of_unlocked {l : Loop} (h : l.holdsLock = false) (t : Chan) (r : Reader)
    (b b' : Bufio.BufWriter Src Err) : l.pending t r b' = l.pending t r b := by
  cases l <;> simp_all [Loop.holdsLock, Loop.pending]

theorem Writer.pending_writerAt_lt {k : Nat} {f : InterleavedFrame} {pc : Bufio.BwPc Err} {nx : Bufio.BwNext Err}
    {b b' : Bufio.BufWriter Src Err} (hlt : nx.rank b' < pc.rank b) :
    (writerAt k f nx).pending b' < (Writer.writing k f pc).pending b := by
  cases nx <;> simp only [writerAt, Writer.pending, Bufio.BwNext.rank] at hlt ⊢ <;> omega

theorem pending_reportAt_lt {j : Nat} {f : InterleavedFrame} {pc : Bufio.BwPc Err} {nx : Bufio.BwNext Err}
    {b b' : Bufio.BufWriter Src Err} (hlt : nx.rank b' < pc.rank b) :
    ((reportAt j f nx).elim 0 fun x => x.2.2.rank b' + 1) < pc.rank b + 1 := by
  cases nx <;> simp only [reportAt, Option.elim_some, Option.elim_none, Bufio.BwNext.rank] at hlt ⊢ <;> omega

end Pending

/-! ## Which loop runs on which protocol -/

/-- Only a UDP loop drains `readerDone`, and only a TCP loop writes a report frame through `c.bw`. -/
def ClientConn.LoopProtocol (c : ClientConn) : Prop :=
  (c.loop = .drain → c.streamProtocol = some .udp) ∧
    ∀ rs x, c.loop = .report rs (some x) → c.streamProtocol = some .tcp

section LoopProtocol

variable {c c' : ClientConn}

/-- A step of the loop keeps the protocol and the tasks, never leaves the loop unstarted, reaches `drain` only on
UDP, and starts a report frame only on TCP. -/
theorem recordLoopStep_keeps {a : LoopAct} (h : c.recordLoopStep a = some c') :
    c'.streamProtocol = c.streamProtocol ∧ c'.writers = c.writers ∧ c'.loop ≠ .none ∧
      (c.LoopProtocol → c'.LoopProtocol) := by
  have other : ∀ {l : Loop}, l ≠ .drain → (∀ rs x, l ≠ .report rs (some x)) →
      ({ c with loop := l } : ClientConn).LoopProtocol := fun hd hr =>
    ⟨fun h => absurd h hd, fun rs x h => absurd h (hr rs x)⟩
  cases a with
  | terminate =>
    obtain ⟨-, -, ⟨hu, rfl⟩ | ⟨-, rfl⟩⟩ := recordLoopStep_terminate h
    · exact ⟨rfl, rfl, nofun, fun _ => ⟨fun _ => hu, nofun⟩⟩
    · exact ⟨rfl, rfl, nofun, fun _ => other nofun nofun⟩
  | tick => obtain ⟨-, rfl⟩ := recordLoopStep_tick h; exact ⟨rfl, rfl, nofun, fun _ => other nofun nofun⟩
  | lock rs => obtain ⟨-, -, rfl⟩ := recordLoopStep_lock h; exact ⟨rfl, rfl, nofun, fun _ => other nofun nofun⟩
  | reportUDP r =>
    obtain ⟨_, _, _, -, -, rfl⟩ := recordLoopStep_reportUDP h
    exact ⟨rfl, rfl, nofun, fun _ => other nofun nofun⟩
  | beginReport =>
    obtain ⟨_, _, _, -, hp, rfl⟩ := recordLoopStep_beginReport h
    exact ⟨rfl, rfl, nofun, fun _ => ⟨nofun, fun _ _ _ => hp⟩⟩
  | reportBw =>
    obtain ⟨_, _, _, _, _, _, hl, -, rfl⟩ := recordLoopStep_reportBw h
    exact ⟨rfl, rfl, nofun, fun hc => ⟨nofun, fun _ _ _ => hc.2 _ _ hl⟩⟩
  | reportSock m e =>
    obtain ⟨_, _, _, _, _, _, _, hl, -, rfl⟩ := recordLoopStep_reportSock h
    exact ⟨rfl, rfl, nofun, fun hc => ⟨nofun, fun _ _ _ => hc.2 _ _ hl⟩⟩
  | unlock => obtain ⟨-, rfl⟩ := recordLoopStep_unlock h; exact ⟨rfl, rfl, nofun, fun _ => other nofun nofun⟩
  | receive =>
    obtain ⟨_, -, ⟨-, rfl⟩ | ⟨-, rfl⟩⟩ := recordLoopStep_receive h <;>
      exact ⟨rfl, rfl, nofun, fun _ => other nofun nofun⟩
  | exitLock =>
    obtain ⟨-, -, rfl⟩ := recordLoopStep_exitLock h; exact ⟨rfl, rfl, nofun, fun _ => other nofun nofun⟩
  | closeDone => obtain ⟨-, rfl⟩ := recordLoopStep_closeDone h; exact ⟨rfl, rfl, nofun, fun _ => other nofun nofun⟩

/-- A step taken while closing keeps the protocol and leaves the loop started. -/
theorem step_internal {a : Act} (ha : a.internal = true) (h : c.step a = some c') (hl : c.loop ≠ .none) :
    c'.streamProtocol = c.streamProtocol ∧ c'.loop ≠ .none := by
  cases a with
  | announce | setup | record => cases ha
  | terminate => obtain ⟨-, rfl⟩ := step_terminate h; exact ⟨rfl, hl⟩
  | writer i a => obtain ⟨-, -, hl', hp⟩ := writeFrameStep_published h; exact ⟨hp, hl' ▸ hl⟩
  | loop a => obtain ⟨hp, -, hl', -⟩ := recordLoopStep_keeps h; exact ⟨hp, hl'⟩
  | readFail e => obtain ⟨-, rfl⟩ := step_readFail h; exact ⟨rfl, hl⟩

end LoopProtocol

/-- On every reachable connection only a UDP loop is in `drain`, and only a TCP loop writes a report frame. -/
theorem Reach.loopProtocol {n : Nat} {c : ClientConn} (h : Reach n c) : c.LoopProtocol := by
  induction h with
  | init => exact ⟨nofun, nofun⟩
  | step a hr hs ih =>
    cases a with
    | announce u ts res => rcases step_announce hs with rfl | ⟨-, rfl⟩ <;> exact ih
    | setup p res =>
      rcases step_setup hs with rfl | ⟨hst, rfl⟩
      · exact ih
      · have hl := hr.inv.phase.loop_none hst
        exact ⟨fun hd => Loop.noConfusion (hl.symm.trans hd), fun _ _ h => Loop.noConfusion (hl.symm.trans h)⟩
    | record res =>
      rcases step_record hs with rfl | ⟨-, p, -, rfl⟩
      · exact ih
      · exact ⟨nofun, nofun⟩
    | terminate => obtain ⟨-, rfl⟩ := step_terminate hs; exact ih
    | writer i a => obtain ⟨_, _, _, _, _, _, rfl⟩ := writeFrameStep_shape hs; exact ih
    | loop a => exact (recordLoopStep_keeps hs).2.2.2 ih
    | readFail e => obtain ⟨-, rfl⟩ := step_readFail hs; exact ih

/-! ## Progress -/

section Progress

variable {n : Nat} {c c' : ClientConn}

/-- A step of task `i` inside `WriteFrame`, while the loop does not hold the write lock, that lowers the tasks'
bound. -/
theorem ClientConn.Progress.writer (i : Nat) (a : WriterAct) (hs : c.writeFrameStep i a = some c')
    (hlt : (c'.writers.map (Writer.pending c'.bw)).sum < (c.writers.map (Writer.pending c.bw)).sum)
    (hl : c.loop.holdsLock = false) (ha : (Act.writer i a).internal = true := by rfl)
    (hw : (Act.writer i a).writesAll = true := by rfl) : c.Progress := by
  refine ⟨_, c', ha, hw, hs, ?_⟩
  obtain ⟨_, _, _, _, _, _, rfl⟩ := writeFrameStep_shape hs
  unfold ClientConn.pending
  rw [Loop.pending_of_unlocked hl]
  exact Nat.add_lt_add_right hlt _

/-- A step of the loop or its reader, or the terminate signal, that keeps the tasks and lowers the loop's bound, while
no task holds the read lock. -/
theorem ClientConn.Progress.loop (hr : c.noReaders = true) (a : Act) (hs : c.step a = some c')
    (hlt : c'.loop.pending c'.backgroundTerminate c'.reader c'.bw < c.loop.pending c.backgroundTerminate c.reader c.bw)
    (ha : a.internal = true := by rfl) (hw : a.writesAll = true := by rfl) (hws : c'.writers = c.writers := by rfl) :
    c.Progress := by
  refine ⟨a, c', ha, hw, hs, ?_⟩
  unfold ClientConn.pending
  rw [hws, sum_pending_noReaders hr, sum_pending_noReaders hr]
  exact Nat.add_lt_add_left hlt _

/-- The frame write at `pc` of the only task, or of the loop, while it is the frame in progress: it moves on with a
step of its own or with a write to the connection that writes all it is given, and lowers its rank. -/
theorem ClientConn.Stream.progress (hs : c.Stream) {s : Src} {f : InterleavedFrame} {pc : Bufio.BwPc Err}
    (hc : c.current = some (s, f, pc)) :
    (∃ nx b, pc.next .unwritten .shortWrite s c.bw = some (nx, b) ∧ nx.rank b < pc.rank c.bw) ∨
      ∃ m nx b ys, pc.sock .unwritten s m none c.bw = some (nx, b, ys) ∧ nx.rank b < pc.rank c.bw := by
  obtain ⟨-, s₀, f₀, sent, -, -, hok, hfail⟩ := hs
  cases he : c.bw.err with
  | none =>
    obtain ⟨hc', -⟩ | ⟨pc₀, hc₀, hok⟩ := hok he
    · simp [hc] at hc'
    · obtain ⟨rfl, rfl, rfl⟩ : s = s₀ ∧ f = f₀ ∧ pc = pc₀ := by simpa using hc.symm.trans hc₀
      exact hok.progress _ _ he
  | some e =>
    obtain ⟨p, rfl⟩ := hfail (by simp [he]) _ _ _ hc
    exact .inl ⟨_, _, Bufio.BwPc.next_loop_err _ _ he p, by simp [Bufio.BwNext.rank, Bufio.BwPc.rank, he]⟩

/-- A task that holds the read lock can move on, on UDP or when it is the only task calling `WriteFrame`. -/
theorem ClientConn.Progress.writer_of_holdsRLock (h : Reach n c) (hser : c.streamProtocol = some .udp ∨ n ≤ 1)
    (hn : c.loop ≠ .none) {i : Nat} {w : Writer} (hw : c.writers[i]? = some w) (hr : w.holdsRLock = true) :
    c.Progress := by
  have hi := h.inv
  have hl := hi.unlocked hw hr
  cases w with
  | opened k f =>
    exact .writer i .processFrame (by simp only [ClientConn.writeFrameStep, hw]; rfl)
      (by exact sum_pending_set_lt hw (by simp [Writer.pending]) fun _ _ _ _ => rfl) hl
  | processed k f =>
    rcases hq : c.streamProtocol with _ | _ | _
    · exact absurd hq (hi.phase.started hn).2.1
    · exact .writer i (.writeUDP none) (by simp only [ClientConn.writeFrameStep, hw, hq]; rfl)
        (by exact sum_pending_set_lt hw (by simp [Writer.pending]) fun _ _ _ _ => rfl) hl
    · have := (Bufio.BwPc.loop f.bytes).rank_le (b := c.bw)
      exact .writer i .beginTCP (by simp only [ClientConn.writeFrameStep, hw, hq]; rfl)
        (by exact sum_pending_set_lt hw (by simp only [Writer.pending]; omega) fun _ _ _ _ => rfl) hl
  | writing k f pc =>
    have hn1 : n ≤ 1 := hser.resolve_left (by rw [(hi.writer i _ hw).2.2.2]; simp)
    obtain rfl := hi.index_zero hn1 hw
    have only : ∀ (b : Bufio.BufWriter Src Err) j x, j ≠ 0 → c.writers[j]? = some x → x.pending b = x.pending c.bw :=
      fun _ _ _ hj hx => absurd (hi.index_zero hn1 hx) hj
    rcases (h.stream hn1).progress (hi.current_of_writing hn1 (.inl ⟨0, k, rfl, hw⟩)) with
      ⟨nx, b, hstep, hlt⟩ | ⟨m, nx, b, ys, hstep, hlt⟩
    · exact .writer 0 .bw (by simp only [ClientConn.writeFrameStep, hw, hstep, Option.map_some']; rfl)
        (by exact sum_pending_set_lt hw (Writer.pending_writerAt_lt hlt) (only _)) hl
    · exact .writer 0 (.sock m none) (by simp only [ClientConn.writeFrameStep, hw, hstep, Option.map_some']; rfl)
        (by exact sum_pending_set_lt hw (Writer.pending_writerAt_lt hlt) (only _)) hl
  | idle | returned _ _ _ | returnedClosed _ _ _ => cases hr

/-- Once no task holds the read lock, the loop can move on until `backgroundDone` is closed, on UDP or when at most
one task calls `WriteFrame`. -/
theorem ClientConn.Progress.loop_of_noReaders (h : Reach n c) (hser : c.streamProtocol = some .udp ∨ n ≤ 1)
    (hn : c.loop ≠ .none) (hr : c.noReaders = true) (hd : c.backgroundDone ≠ .closed) : c.Progress := by
  have hp : c.PhaseAt c.loop := h.inv.phase
  obtain ⟨-, hpr, hbt⟩ := h.inv.phase.started hn
  cases hl : c.loop with
  | none => exact absurd hl hn
  | select =>
    cases ht : c.backgroundTerminate with
    | nil => exact absurd ht hbt
    | live => exact .loop hr .terminate (by simp only [ClientConn.step, ht]; rfl) (by simp [Loop.pending, hl, ht])
    | closed =>
      rcases hq : c.streamProtocol with _ | _ | _
      · exact absurd hq hpr
      · exact .loop hr (.loop .terminate) (by simp only [ClientConn.step, ClientConn.recordLoopStep, hl, ht, hq]; rfl)
          (by simp only [Loop.pending, hl, ht]; split <;> simp)
      · exact .loop hr (.loop .terminate) (by simp only [ClientConn.step, ClientConn.recordLoopStep, hl, ht, hq]; rfl)
          (by simp [Loop.pending, hl, ht])
  | tickLock =>
    exact .loop hr (.loop (.lock [])) (by simp only [ClientConn.step, ClientConn.recordLoopStep, hl, hr, ↓reduceIte]; rfl)
      (by simp [Loop.pending, hl])
  | report rs cur =>
    rcases cur with _ | ⟨j, f, pc⟩
    · rcases rs with _ | ⟨⟨t, p⟩, rs⟩
      · exact .loop hr (.loop .unlock) (by simp only [ClientConn.step, ClientConn.recordLoopStep, hl]; rfl)
          (by simp only [Loop.pending, hl]; split <;> simp)
      · rcases hq : c.streamProtocol with _ | _ | _
        · exact absurd hq hpr
        · exact .loop hr (.loop (.reportUDP none)) (by simp only [ClientConn.step, ClientConn.recordLoopStep, hl, hq]; rfl)
            (by simp [Loop.pending, hl])
        · have := (Bufio.BwPc.loop (InterleavedFrame.bytes ⟨t, .rtcp, p⟩)).rank_le (b := c.bw)
          exact .loop hr (.loop .beginReport) (by simp only [ClientConn.step, ClientConn.recordLoopStep, hl, hq]; rfl)
            (by simp only [Loop.pending, hl, Option.elim_some, Option.elim_none, List.length_cons]; omega)
    · have hn1 : n ≤ 1 := hser.resolve_left (by rw [h.loopProtocol.2 _ _ hl]; simp)
      rcases (h.stream hn1).progress (show c.current = some (.report j, f, pc) by
          simp [ClientConn.current, hl, loopFrame]) with ⟨nx, b, hstep, hnx⟩ | ⟨m, nx, b, ys, hstep, hnx⟩
      · exact .loop hr (.loop .reportBw)
          (by simp only [ClientConn.step, ClientConn.recordLoopStep, hl, hstep, Option.map_some']; rfl)
          (by simp only [Loop.pending, hl]; exact Nat.add_lt_add_left (pending_reportAt_lt hnx) _)
      · exact .loop hr (.loop (.reportSock m none))
          (by simp only [ClientConn.step, ClientConn.recordLoopStep, hl, hstep, Option.map_some']; rfl)
          (by simp only [Loop.pending, hl]; exact Nat.add_lt_add_left (pending_reportAt_lt hnx) _)
  | drain =>
    rw [hl] at hp
    rcases hp.2.2.2.2.2.1 (h.loopProtocol.1 hl) with hrd | ⟨e, hrd⟩
    · exact .loop hr (.readFail .terminated) (by simp only [ClientConn.step, hrd]; rfl) (by simp [Loop.pending, hl, hrd])
    · exact .loop hr (.loop .receive) (by simp only [ClientConn.step, ClientConn.recordLoopStep, hl, hrd]; rfl)
        (by simp [Loop.pending, hl, hrd])
  | exitLock =>
    exact .loop hr (.loop .exitLock) (by simp only [ClientConn.step, ClientConn.recordLoopStep, hl, hr, ↓reduceIte]; rfl)
      (by simp [Loop.pending, hl])
  | exitClose =>
    exact .loop hr (.loop .closeDone) (by simp only [ClientConn.step, ClientConn.recordLoopStep, hl]; rfl)
      (by simp [Loop.pending, hl])
  | exited => rw [hl] at hp; exact absurd hp.2.2.1 hd

end Progress

/-- Closing never deadlocks on UDP, or with at most one task calling `WriteFrame`: from every reachable state where
`Record` has started a loop, the terminate signal, the loop, its reader and the calls already inside `WriteFrame` can
take `backgroundDone` to closed, with no task left holding the read lock and no write to a socket failing on the
way. -/
theorem terminate_completes {n : Nat} {c : ClientConn} (h : Reach n c) (hser : c.streamProtocol = some .udp ∨ n ≤ 1)
    (hl : c.loop ≠ .none) :
    ∃ as c', as.all Act.internal = true ∧ as.all Act.writesAll = true ∧ c.run as = some c' ∧
      c'.backgroundDone = .closed ∧ c'.noReaders = true := by
  by_cases hdone : c.backgroundDone = .closed ∧ c.noReaders = true
  · exact ⟨[], c, rfl, rfl, rfl, hdone.1, hdone.2⟩
  have hprog : c.Progress := by
    by_cases hr : c.noReaders = true
    · exact .loop_of_noReaders h hser hl hr fun hd => hdone ⟨hd, hr⟩
    · simp only [ClientConn.noReaders, List.all_eq_true, Bool.not_eq_true', not_forall, Bool.not_eq_false,
        exists_prop] at hr
      obtain ⟨w, hw, hh⟩ := hr
      obtain ⟨i, hi⟩ := List.mem_iff_getElem?.mp hw
      exact .writer_of_holdsRLock h hser hl hi hh
  obtain ⟨a, c₁, ha, hwa, hs, hlt⟩ := hprog
  obtain ⟨hp, hl₁⟩ := step_internal ha hs hl
  obtain ⟨as, c', has, hwas, hr, hd, hn⟩ := terminate_completes (h.step a hs) (hp ▸ hser) hl₁
  exact ⟨a :: as, c', by simp [ha, has], by simp [hwa, hwas], by simp [ClientConn.run, hs, hr], hd, hn⟩
termination_by c.pending

/-- A TCP connection whose loop waits for the write lock while a call is inside `frame.Write(c.bw)`: the theorem
where the call must finish before the loop can report and return. -/
theorem terminate_completes_tcp_writing :
    ∃ c, (ClientConn.init 1 4096).run (recordRun .tcp ++ [.writer 0 (.call ⟨0, .rtp, [1, 2, 3]⟩),
        .writer 0 .processFrame, .writer 0 .beginTCP, .writer 0 .bw, .loop .tick]) = some c ∧ c.loop = .tickLock ∧
      c.noReaders = false ∧ (c.streamProtocol = some .udp ∨ 1 ≤ 1) ∧
      ∃ as c', as.all Act.internal = true ∧ as.all Act.writesAll = true ∧ c.run as = some c' ∧
        c'.backgroundDone = .closed ∧ c'.noReaders = true :=
  (fun hr => ⟨_, hr, rfl, rfl, .inr le_rfl,
    terminate_completes (Reach.run _ (.init _) hr) (.inr le_rfl) fun h => Loop.noConfusion h⟩) rfl

end Gortsplib.Client
