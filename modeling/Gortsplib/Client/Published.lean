import Mathlib.Logic.Relation
import Gortsplib.Client.WriteFrame

/-!
# The published state of a connection

What `WriteFrame` reads of a connection is `publishOpen` and `publishError`. Abstractly a connection is in one of
three phases (`Published`): before any record loop, live, or dead with the error each later call returns. The only
moves are `Record` starting the loop and the loop's deferred function ending it (`Published.Step`).

* `published_step`: every step of the system keeps the phase or makes one abstract move. By induction,
  `published_run`: along every run the phases follow `Published.Step`, so a connection goes `before`, `live`,
  `dead e`, each at most once, and a dead connection keeps its error (`Published.reflTransGen_dead`).
* `writeFrame_published`: the check of `publishOpen` in `WriteFrame` depends only on the phase, and the error of a
  dead connection is non-nil exactly on UDP.
-/

namespace Gortsplib.Client

/-- The phase of a connection as `WriteFrame` sees it. -/
inductive Published where
  /-- No record loop was started: calls return nil without writing. -/
  | before
  /-- `publishOpen` is set: calls write. -/
  | live
  /-- The loop has cleared `publishOpen`: calls return `e` without writing. -/
  | dead (e : Option Err)
  deriving DecidableEq, Repr

/-- The moves of the phase. -/
inductive Published.Step : Published → Published → Prop
  | start : Published.Step .before .live
  | stop (e : Option Err) : Published.Step .live (.dead e)

/-- What the check of `publishOpen` makes of call `k` with frame `f` in each phase. -/
def Published.check (k : Nat) (f : InterleavedFrame) : Published → Writer
  | .before => .returnedClosed k f none
  | .live => .opened k f
  | .dead e => .returnedClosed k f e

/-- The phase of `c`. -/
def ClientConn.published (c : ClientConn) : Published :=
  if c.publishOpen then .live else if c.loop = .none then .before else .dead c.publishError

/-- The phase at each place of the loop, with the error the loop has set. -/
def publishedAt : Loop → Option Err → Published
  | .none, _ => .before
  | .exitClose, e | .exited, e => .dead e
  | _, _ => .live

/-- A dead connection stays dead with the same error. -/
theorem Published.reflTransGen_dead {e : Option Err} {q : Published}
    (h : Relation.ReflTransGen Published.Step (.dead e) q) : q = .dead e := by
  induction h with
  | refl => rfl
  | tail _ hs ih => subst ih; cases hs

section Published

variable {n : Nat} {c c' : ClientConn}

/-- On a connection that satisfies the invariant, the phase is read off the loop's place. -/
theorem ClientConn.Phase.published (hp : c.Phase) : c.published = publishedAt c.loop c.publishError := by
  unfold ClientConn.Phase at hp
  unfold ClientConn.published
  cases hl : c.loop <;> rw [hl] at hp <;> simp [publishedAt, hp.2.1]

theorem ClientConn.Phase.checkOpen (hp : c.Phase) (f : InterleavedFrame) :
    c.checkOpen f = c.published.check c.calls f := by
  unfold ClientConn.checkOpen ClientConn.published
  by_cases ho : c.publishOpen = true
  · simp [ho, Published.check]
  · by_cases hl : c.loop = .none
    · have hq : c.PhaseAt c.loop := hp
      rw [hl] at hq
      simp [ho, hl, Published.check, hq.2.2.1]
    · simp [ho, hl, Published.check]

theorem ClientConn.Phase.published_dead (hp : c.Phase) {e : Option Err} (hd : c.published = .dead e) :
    e ≠ none ↔ c.streamProtocol = some .udp := by
  unfold ClientConn.published at hd
  split at hd
  · cases hd
  · split at hd
    · cases hd
    · cases hd
      rw [hp.publishError_closed (by simpa using ‹¬c.publishOpen = true›), and_iff_right (hp.started ‹_›).1]

/-- A step of the record loop keeps the phase, except the clearing of `publishOpen`, which ends it. -/
theorem recordLoopStep_published (hi : Inv n c) {a : LoopAct} (h : c.recordLoopStep a = some c') :
    c'.published = c.published ∨ Published.Step c.published c'.published := by
  rw [(hi.loop_step h).phase.published, hi.phase.published]
  cases a with
  | terminate =>
    obtain ⟨hl, -, ⟨-, rfl⟩ | ⟨-, rfl⟩⟩ := recordLoopStep_terminate h <;> simp [hl, publishedAt]
  | tick => obtain ⟨hl, rfl⟩ := recordLoopStep_tick h; simp [hl, publishedAt]
  | lock rs => obtain ⟨hl, -, rfl⟩ := recordLoopStep_lock h; simp [hl, publishedAt]
  | reportUDP r => obtain ⟨_, _, _, hl, -, rfl⟩ := recordLoopStep_reportUDP h; simp [hl, publishedAt]
  | beginReport => obtain ⟨_, _, _, hl, -, rfl⟩ := recordLoopStep_beginReport h; simp [hl, publishedAt]
  | reportBw => obtain ⟨_, _, _, _, _, _, hl, -, rfl⟩ := recordLoopStep_reportBw h; simp [hl, publishedAt]
  | reportSock m e => obtain ⟨_, _, _, _, _, _, _, hl, -, rfl⟩ := recordLoopStep_reportSock h; simp [hl, publishedAt]
  | unlock => obtain ⟨hl, rfl⟩ := recordLoopStep_unlock h; simp [hl, publishedAt]
  | receive =>
    obtain ⟨_, -, ⟨hl, rfl⟩ | ⟨hl, rfl⟩⟩ := recordLoopStep_receive h <;> simp [hl, publishedAt]
  | exitLock => obtain ⟨hl, -, rfl⟩ := recordLoopStep_exitLock h; rw [hl]; exact .inr (.stop _)
  | closeDone => obtain ⟨hl, rfl⟩ := recordLoopStep_closeDone h; simp [hl, publishedAt]

end Published

/-- Every step keeps the phase or makes one move of `Published.Step`: only `Record` starts it, only the record loop
ends it. -/
theorem published_step {n : Nat} {c c' : ClientConn} {a : Act} (h : Reach n c) (hs : c.step a = some c') :
    c'.published = c.published ∨ Published.Step c.published c'.published := by
  cases a with
  | announce u ts res => rcases step_announce hs with rfl | ⟨-, rfl⟩ <;> exact .inl rfl
  | setup p res => rcases step_setup hs with rfl | ⟨-, rfl⟩ <;> exact .inl rfl
  | record res =>
    rcases step_record hs with rfl | ⟨hst, p, -, rfl⟩
    · exact .inl rfl
    · rw [h.inv.phase.published, h.inv.phase.loop_none (by simp [hst])]
      exact .inr .start
  | terminate => obtain ⟨-, rfl⟩ := step_terminate hs; exact .inl rfl
  | writer i a =>
    obtain ⟨he, ho, hl, -⟩ := writeFrameStep_published hs
    exact .inl (by simp only [ClientConn.published, he, ho, hl])
  | loop a => exact recordLoopStep_published h.inv hs
  | readFail e => obtain ⟨-, rfl⟩ := step_readFail hs; exact .inl rfl

/-- Along every run from a reachable connection the phase moves by `Published.Step` only. -/
theorem published_run {n : Nat} {c c' : ClientConn} {as : List Act} (h : Reach n c) (hr : c.run as = some c') :
    Relation.ReflTransGen Published.Step c.published c'.published := by
  induction as generalizing c with
  | nil => cases hr; exact .refl
  | cons a as ih =>
    obtain ⟨c₁, hs, hr⟩ := Option.bind_eq_some.mp hr
    refine .trans ?_ (ih (h.step a hs) hr)
    rcases published_step h hs with e | hm
    · rw [e]
    · exact .single hm

/-- A UDP connection taken through `Record` and the end of its loop: the run theorem across all three phases. -/
theorem published_run_udp :
    ∃ c c', (ClientConn.init 0 4096).run (recordRun .udp).dropLast = some c ∧
      c.run [.record (.ok ⟨200, "OK"⟩), .terminate, .loop .terminate, .readFail (.net 0), .loop .receive,
        .loop .exitLock, .loop .closeDone] = some c' ∧
      c.published = .before ∧ c'.published = .dead (some .terminated) ∧
      Relation.ReflTransGen Published.Step c.published c'.published :=
  (fun h₁ => (fun h₂ => ⟨_, _, h₁, h₂, rfl, rfl, published_run (Reach.run _ (.init _) h₁) h₂⟩) rfl) rfl

/-- On every reachable connection, what the check of `publishOpen` gives a call is fixed by the phase, and a dead
connection returns an error exactly on UDP. -/
theorem writeFrame_published {n : Nat} {c : ClientConn} (h : Reach n c) :
    (∀ f, c.checkOpen f = c.published.check c.calls f) ∧
      ∀ e, c.published = .dead e → (e ≠ none ↔ c.streamProtocol = some .udp) :=
  ⟨h.inv.phase.checkOpen, fun _ => h.inv.phase.published_dead⟩

/-- A UDP connection whose loop has ended: the theorem where calls return the loop's error. -/
theorem writeFrame_published_dead :
    ∃ c, (ClientConn.init 0 4096).run (recordRun .udp ++ [.terminate, .loop .terminate, .readFail (.net 0),
        .loop .receive, .loop .exitLock, .loop .closeDone]) = some c ∧ c.published = .dead (some .terminated) ∧
      (∀ f, c.checkOpen f = c.published.check c.calls f) ∧
      ∀ e, c.published = .dead e → (e ≠ none ↔ c.streamProtocol = some .udp) :=
  (fun hr => ⟨_, hr, rfl, writeFrame_published (Reach.run _ (.init _) hr)⟩) rfl

end Gortsplib.Client
