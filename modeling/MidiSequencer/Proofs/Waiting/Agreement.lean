import MidiSequencer.Proofs.Input.Queue
import MidiSequencer.Proofs.Output.Accepted
import MidiSequencer.Proofs.Waiting.Patience

/-! # Clients of both kinds agree

A blocking and a suspending client wait for the same calls in two ways. Where each wait ends because
the descriptor is ready, both make the same attempts and answer the same. They differ where a
deadline passes: a suspending client then makes no further attempt. -/
namespace MidiSequencer

/-- What surrounds a sequencer, in the order in which a client meets it: the readings of the clock,
how each poll ends, whether the descriptor becomes ready during each suspending wait, and what
others do to the sequencer during each wait of either kind. -/
structure Surroundings (σ : Type) where
  clock : Nat → Instant
  polled : Interest → Nat → PollOutcome
  resumed : Interest → Nat → Bool
  meanwhile : Nat → σ → σ

/-- A sequencer with the calls made of it, and how often the clock was read and a client waited. -/
structure World (σ : Type) where
  sequencer : σ
  calls : Call.History := []
  readings : Nat := 0
  waits : Nat := 0

namespace World

variable {σ α : Type} (m : Machine Call Call.Answer σ) (around : Surroundings σ)

def call (c : Call) (w : World σ) : World σ :=
  { w with sequencer := (m c w.sequencer).2, calls := w.calls ++ [⟨c, (m c w.sequencer).1⟩] }

def wait (w : World σ) : World σ :=
  { w with sequencer := around.meanwhile w.waits w.sequencer, waits := w.waits + 1 }

def answer : Machine Request Request.Answer (World σ)
  | .call c, w => ((m c w.sequencer).1, w.call m c)
  | .now, w => (around.clock w.readings, { w with readings := w.readings + 1 })
  | .poll interest _, w => (around.polled interest w.waits, w.wait around)
  | .suspend interest _, w => (around.resumed interest w.waits, w.wait around)
  | .clearReady _, w => ((), w)
  | .pause _, w => ((), w)

structure Ends (p : Dialogue α) (w : World σ) (a : α) (made : Call.History) (t : σ) : Prop where
  value : (p.run (answer m around) w).1 = some a
  calls : (p.run (answer m around) w).2.calls = w.calls ++ made
  sequencer : (p.run (answer m around) w).2.sequencer = t

variable {m around} {w : World σ} {made : Call.History} {t : σ} {a : α}

theorem ends_done : Ends m around (.done a) w a [] w.sequencer :=
  ⟨rfl, (List.append_nil _).symm, rfl⟩

theorem ends_call {c : Call} {next : c.Answer → Dialogue α}
    (rest : Ends m around (next (m c w.sequencer).1) (w.call m c) a made t) :
    Ends m around (Program.ask (.call c) next) w a (⟨c, (m c w.sequencer).1⟩ :: made) t where
  value := rest.value
  calls := rest.calls.trans (List.append_assoc _ _ _)
  sequencer := rest.sequencer

theorem ends_silent {q : Request} {next : q.Answer → Dialogue α} (hq : q.isCall = false)
    (rest : Ends m around (next (answer m around q w).1) (answer m around q w).2 a made t) :
    Ends m around (Program.ask q next) w a made t where
  value := rest.value
  calls := by
    have kept : (answer m around q w).2.calls = w.calls := by
      cases q with
      | call c => cases hq
      | _ => rfl
    rw [← kept]
    exact rest.calls
  sequencer := rest.sequencer

theorem Ends.map {β : Type} {p : Dialogue α} (hp : Ends m around p w a made t) (f : α → β) :
    Ends m around (p >>= fun x => .done (f x)) w (f a) made t := by
  have runs : (p >>= fun x => .done (f x)).run (answer m around) w =
      (some (f a), (p.run (answer m around) w).2) := by
    rw [Program.run_bind, ← Prod.eta (p.run (answer m around) w), hp.value]
    rfl
  exact ⟨by rw [runs], by rw [runs]; exact hp.calls, by rw [runs]; exact hp.sequencer⟩

end World

/-- Attempts at a call that would block, with what others do to the sequencer behind each, and then
one that answers something else. -/
inductive Unblocks {σ : Type} (m : Machine Call Call.Answer σ) (meanwhile : Nat → σ → σ)
    (c : Call) : Nat → σ → Nat → c.Answer → σ → Prop where
  | atOnce {i : Nat} {s : σ} (other : (m c s).1 ≠ c.forced Status.wouldBlock) :
      Unblocks m meanwhile c i s 0 (m c s).1 (m c s).2
  | later {i k : Nat} {s t : σ} {answer : c.Answer}
      (blocks : (m c s).1 = c.forced Status.wouldBlock)
      (rest : Unblocks m meanwhile c (i + 1) (meanwhile i (m c s).2) k answer t) :
      Unblocks m meanwhile c i s (k + 1) answer t

def Call.attempts (c : Call) (blocked : Nat) (answer : c.Answer) : Call.History :=
  List.replicate blocked ⟨c, c.forced Status.wouldBlock⟩ ++ [⟨c, answer⟩]

namespace Waiting

variable {α σ : Type} {attempt : Action α} {c : Call} {check : c.Answer → Except Error α}

structure Decides (attempt : Action α) (c : Call) (check : c.Answer → Except Error α) : Prop
    extends Attempts attempt c check where
  again {answer : c.Answer} : blocked (check answer) = true → answer = c.forced Status.wouldBlock

open World

variable {m : Machine Call Call.Answer σ} {around : Surroundings σ}
  (ha : Decides attempt c check)
include ha

theorem ends_round_blocked {w : World σ} {again : Dialogue (Except Error (Option α))}
    {a : Except Error (Option α)} {made : Call.History} {t : σ}
    (blocks : (m c w.sequencer).1 = c.forced Status.wouldBlock)
    (rest : Ends m around again (w.call m c) a made t) :
    Ends m around (round attempt again) w a (⟨c, c.forced Status.wouldBlock⟩ :: made) t := by
  unfold round
  rw [ha.run, Program.ask_bind, ← blocks]
  apply ends_call
  rw [Program.done_bind, blocks, if_pos ha.blocks]
  exact rest

theorem ends_round_other {w : World σ} {again : Dialogue (Except Error (Option α))}
    (other : (m c w.sequencer).1 ≠ c.forced Status.wouldBlock) :
    Ends m around (round attempt again) w ((check (m c w.sequencer).1).map some)
      [⟨c, (m c w.sequencer).1⟩] (m c w.sequencer).2 := by
  unfold round
  rw [ha.run, Program.ask_bind]
  apply ends_call
  rw [Program.done_bind, if_neg fun hb => other (ha.again hb)]
  exact ends_done

omit ha in
theorem ends_poll {interest : Interest} {limit : Option Instant} {w : World σ}
    {next : Dialogue (Except Error (Option α))} {a : Except Error (Option α)} {made : Call.History}
    {t : σ} (inTime : InTime limit (around.clock w.readings))
    (ready : around.polled interest w.waits = .ready)
    (rest : Ends m around next
      (World.wait around { w with readings := w.readings + limit.toList.length }) a made t) :
    Ends m around (remaining limit >>= fun
      | none => .done (.ok none)
      | some left => Program.ask (.poll interest (pollTimeout left)) fun
        | .failed number => .done (.error (.poll number))
        | _ => next) w a made t := by
  have polled (left : Option Duration) (v : World σ) (hv : around.polled interest v.waits = .ready)
      (after : Ends m around next (v.wait around) a made t) :
      Ends m around (Program.ask (.poll interest (pollTimeout left)) fun
        | .failed number => .done (.error (.poll number))
        | _ => next) v a made t := by
    have reported : (answer m around (.poll interest (pollTimeout left)) v).1 =
      PollOutcome.ready := hv
    refine ends_silent rfl ?_
    rw [reported]
    exact after
  cases limit with
  | none => exact polled none w ready rest
  | some d =>
    have later : ¬ d ≤ around.clock w.readings := Nat.not_le.2 (inTime d rfl)
    refine ends_silent rfl ?_
    show Ends m around (Program.done (if d ≤ around.clock w.readings then none else _) >>= _) _ a
      made t
    rw [if_neg later, Program.done_bind]
    exact polled _ { w with readings := w.readings + 1 } ready rest

/-- By induction on the attempts: each that would block is followed by a poll that ends because the
descriptor is ready. -/
theorem ends_pollUntil {interest : Interest} {limit : Option Instant} {i k n : Nat} {s t : σ}
    {answer : c.Answer} (unblocks : Unblocks m around.meanwhile c i s k answer t) (hn : k < n)
    {w : World σ} (sequencer : w.sequencer = s) (waits : w.waits = i)
    (ready : ∀ j < k, around.polled interest (i + j) = .ready)
    (inTime : ∀ j < k, InTime limit (around.clock (w.readings + j))) :
    Ends m around (pollUntil interest limit attempt n).run w ((check answer).map some)
      (c.attempts k answer) t := by
  obtain ⟨n, rfl⟩ : ∃ l, n = l + 1 := ⟨n - 1, by omega⟩
  induction unblocks generalizing n w with
  | atOnce other =>
    subst sequencer
    rw [run_pollUntil_succ]
    exact ends_round_other ha other
  | @later i k s t answer blocks rest ih =>
    subst sequencer waits
    rw [run_pollUntil_succ]
    refine ends_round_blocked ha blocks ?_
    refine ends_poll (inTime 0 (Nat.zero_lt_succ k)) (ready 0 (Nat.zero_lt_succ k)) ?_
    obtain ⟨n, rfl⟩ : ∃ l, n = l + 1 := ⟨n - 1, by omega⟩
    refine ih rfl rfl (fun j hj => ?_) (fun j hj => ?_) n (by omega)
    · rw [Nat.add_assoc, Nat.add_comm 1 j]
      exact ready (j + 1) (Nat.succ_lt_succ hj)
    · cases limit with
      | none => exact fun d hd => by cases hd
      | some d =>
        have next := inTime (j + 1) (Nat.succ_lt_succ hj)
        rwa [Nat.add_comm j 1, ← Nat.add_assoc] at next

omit ha in
theorem ends_suspend {interest : Interest} {limit : Option Instant} {w : World σ}
    {next : Bool → Dialogue (Except Error (Option α))} {a : Except Error (Option α)}
    {made : Call.History} {t : σ} (ready : around.resumed interest w.waits = true)
    (rest : Ends m around (next true) (w.wait around) a made t) :
    Ends m around (Program.ask (.suspend interest limit) next) w a made t := by
  have reported : (answer m around (.suspend interest limit) w).1 = true := ready
  refine ends_silent rfl ?_
  rw [reported]
  exact rest

theorem ends_retryWhenReady {interest : Interest} {limit : Option Instant} {i k n : Nat} {s t : σ}
    {answer : c.Answer} (unblocks : Unblocks m around.meanwhile c i s k answer t) (hn : k < n)
    {w : World σ} (sequencer : around.meanwhile w.waits w.sequencer = s) (waits : w.waits + 1 = i)
    (ready : ∀ j ≤ k, around.resumed interest (w.waits + j) = true) :
    Ends m around (retryWhenReady interest limit attempt n).run w ((check answer).map some)
      (c.attempts k answer) t := by
  obtain ⟨n, rfl⟩ : ∃ l, n = l + 1 := ⟨n - 1, by omega⟩
  induction unblocks generalizing n w with
  | atOnce other =>
    subst sequencer
    rw [run_retryWhenReady_succ]
    exact ends_suspend (ready 0 (Nat.le_refl 0)) (ends_round_other ha other)
  | @later i k s t answer blocks rest ih =>
    subst sequencer waits
    rw [run_retryWhenReady_succ]
    refine ends_suspend (ready 0 (Nat.zero_le _)) (ends_round_blocked ha blocks ?_)
    refine ends_silent rfl ?_
    obtain ⟨n, rfl⟩ : ∃ l, n = l + 1 := ⟨n - 1, by omega⟩
    refine ih rfl rfl (fun j hj => ?_) n (by omega)
    show around.resumed interest (w.waits + 1 + j) = true
    rw [Nat.add_assoc, Nat.add_comm 1 j]
    exact ready (j + 1) (Nat.succ_le_succ hj)

omit ha in
theorem ends_deadline {timeout : Option Duration} {w : World σ} {β : Type}
    {f : Option Instant → Dialogue β} {a : β} {made : Call.History} {t : σ}
    (rest : ∀ readings, (∀ d, limitFrom timeout (around.clock w.readings) = some d →
        readings = w.readings + 1) →
      Ends m around (f (limitFrom timeout (around.clock w.readings))) { w with readings } a
        made t) :
    Ends m around (deadline timeout >>= f) w a made t := by
  cases timeout with
  | none => exact rest w.readings fun d hd => by cases hd
  | some duration =>
    by_cases none_set : duration = 0
    · subst none_set
      exact rest w.readings fun d hd => by cases hd
    · simp only [deadline, if_neg none_set]
      exact ends_silent rfl (rest (w.readings + 1) fun _ _ => rfl)

variable {interest : Interest} {timeout : Option Duration} {bound k : Nat} {s t : σ}
  {answer : c.Answer}

/-- Where every wait ends because the descriptor is ready, a client of either kind makes all
attempts, and answers what the last of them did. -/
theorem ends_wait (mode : Mode) (unblocks : Unblocks m around.meanwhile c 0 s k answer t)
    (hk : k < bound)
    (polled : ∀ j < k, around.polled interest j = .ready ∧
      InTime (limitFrom timeout (around.clock 0)) (around.clock (j + 1)))
    (resumed : ∀ j < k, around.resumed interest j = true) :
    Ends m around (wait mode interest timeout attempt bound).run { sequencer := s }
      ((check answer).map some) (c.attempts k answer) t := by
  cases mode with
  | blocking =>
    rw [run_blocking]
    refine ends_deadline fun readings read => ?_
    refine ends_pollUntil ha unblocks hk rfl rfl (fun j hj => ?_) (fun j hj d hd => ?_)
    · rw [Nat.zero_add]
      exact (polled j hj).1
    · have inTime := (polled j hj).2 d hd
      rw [read d hd]
      rwa [Nat.zero_add, Nat.add_comm 1 j]
  | suspending =>
    rw [run_suspending]
    refine ends_deadline fun readings _ => ?_
    cases unblocks with
    | atOnce other => exact ends_round_other ha other
    | @later _ k _ _ _ blocks rest =>
      refine ends_round_blocked ha blocks ?_
      refine ends_retryWhenReady ha rest (Nat.lt_of_succ_lt hk) rfl rfl fun j hj => ?_
      show around.resumed interest (0 + j) = true
      rw [Nat.zero_add]
      exact resumed j (Nat.lt_succ_of_le hj)

theorem ends_missed {d : Instant} (limit : limitFrom timeout (around.clock 0) = some d)
    (blocks : (m c s).1 = c.forced Status.wouldBlock)
    (missed : around.resumed interest 0 = false) (hb : 0 < bound) :
    Ends m around (wait .suspending interest timeout attempt bound).run { sequencer := s }
      (.ok none) [⟨c, c.forced Status.wouldBlock⟩] (around.meanwhile 0 (m c s).2) := by
  obtain ⟨bound, rfl⟩ : ∃ l, bound = l + 1 := ⟨bound - 1, by omega⟩
  rw [run_suspending]
  refine ends_deadline fun readings _ => ends_round_blocked ha blocks ?_
  rw [run_retryWhenReady_succ]
  have reported (v : World σ) (hv : v.waits = 0) :
      (World.answer m around (.suspend interest (limitFrom timeout (around.clock 0))) v).1 =
        false := by
    show around.resumed interest v.waits = false
    rw [hv]
    exact missed
  refine ends_silent rfl ?_
  rw [reported _ rfl]
  show Ends m around (if (limitFrom timeout (around.clock 0)).isSome = true then _ else _) _ _ _ _
  rw [limit]
  exact ends_done

omit ha in
theorem ends_round_refused {e : Error} (refused : attempt.run = .done (.error e))
    (he : e.isWouldBlock = false) {w : World σ} {again : Dialogue (Except Error (Option α))} :
    Ends m around (round attempt again) w (.error e) [] w.sequencer := by
  have final : ¬ blocked (Except.error e : Except Error α) = true := by simp [blocked, he]
  unfold round
  rw [refused, Program.done_bind, if_neg final]
  exact ends_done

omit ha in
theorem ends_wait_refused (mode : Mode) {e : Error} (refused : attempt.run = .done (.error e))
    (he : e.isWouldBlock = false) (hb : 0 < bound) :
    Ends m around (wait mode interest timeout attempt bound).run { sequencer := s } (.error e) []
      s := by
  obtain ⟨bound, rfl⟩ : ∃ l, bound = l + 1 := ⟨bound - 1, by omega⟩
  cases mode with
  | blocking =>
    rw [run_blocking]
    refine ends_deadline fun readings _ => ?_
    rw [run_pollUntil_succ]
    exact ends_round_refused refused he
  | suspending =>
    rw [run_suspending]
    exact ends_deadline fun readings _ => ends_round_refused refused he

end Waiting

namespace Connection

open Waiting

variable {c : Connection}

theorem decides_tryInput (hc : c.isOpen = true) :
    Decides c.tryInput .eventInput (checkAnswer .eventInput) where
  toAttempts := attempts_tryInput hc
  again {answer} hb := by
    obtain ⟨call, he⟩ := blocked_iff.1 hb
    cases answer with
    | ok e => cases he
    | error status =>
      cases he
      rfl

theorem decides_command (hc : c.isOpen = true) (q : Command) :
    Decides (c.command q) (.command q) (checkStatus (.command q)) where
  toAttempts := attempts_command hc q
  again {answer} hb := by
    obtain ⟨call, he⟩ := blocked_iff.1 hb
    unfold checkStatus at he
    split at he
    · cases he
      rfl
    · cases he

theorem run_tryInput_closed (hc : c.isOpen = false) : c.tryInput.run = .done (.error .closed) := by
  unfold tryInput Connection.call
  rw [hc]
  rfl

theorem run_command_closed (hc : c.isOpen = false) (q : Command) :
    (c.command q).run = .done (.error .closed) := by
  unfold Connection.command Connection.call
  rw [hc]
  rfl

end Connection

structure Session.Wait where
  interest : Interest
  timeout : Option Duration
  call : Call

namespace Session

def sending (direct : Bool) (record : Record) : Command :=
  if direct then .eventOutputDirect record else .eventOutput record

def wait? (s : Session) : Operation → Option Wait
  | .input timeout => some ⟨.read, timeout, .eventInput⟩
  | .output direct event routing timeout => (s.route routing).map fun route =>
    ⟨.write, timeout, .command (sending direct (event.encode route))⟩
  | .drain timeout => some ⟨.write, timeout, .command .drainOutput⟩
  | _ => none

def withMode (s : Session) (mode : Mode) : Session := { s with mode }

/-- What a waited operation answers when its time is over. -/
def nothing : Operation → Value
  | .input _ => .event? none
  | _ => .status? none

structure Performs (s : Session) (operation : Operation) (w : Wait) {α : Type}
    (f : Option α → Value) (attempt : Action α) (check : w.call.Answer → Except Error α) :
    Prop where
  performs (mode : Mode) (bound : Nat) : (s.withMode mode).perform bound operation =
    (s.withMode mode).report f (Waiting.wait mode w.interest w.timeout attempt bound)
  expired : f none = nothing operation
  decides : s.connection.isOpen = true → Waiting.Decides attempt w.call check
  closed : s.connection.isOpen = false → attempt.run = .done (.error .closed)

variable {s : Session} {operation : Operation} {w : Wait}

theorem performs_of_wait? (h : s.wait? operation = some w) : ∃ (α : Type) (f : Option α → Value)
    (attempt : Action α) (check : w.call.Answer → Except Error α),
      s.Performs operation w f attempt check := by
  cases operation with
  | input timeout =>
    cases h
    exact ⟨Event, .event?, s.connection.tryInput, _, fun _ _ => rfl, rfl,
      Connection.decides_tryInput, Connection.run_tryInput_closed⟩
  | output direct event routing timeout =>
    obtain ⟨route, hr, rfl⟩ := Option.map_eq_some_iff.1 h
    refine ⟨Status, .status?, s.connection.tryOutputRecord direct (event.encode route), _, ?_, rfl,
      fun hc => Connection.decides_command hc _, fun hc => Connection.run_command_closed hc _⟩
    intro mode bound
    have routed : (s.withMode mode).route routing = some route := hr
    simp only [perform, withSlot, routed]
    rfl
  | drain timeout =>
    cases h
    exact ⟨Status, .status?, s.connection.tryDrain, _, fun _ _ => rfl, rfl,
      fun hc => Connection.decides_command hc _, fun hc => Connection.run_command_closed hc _⟩
  | _ => cases h

theorem isDiscard_of_wait? (h : s.wait? operation = some w) : w.call.isDiscard = false := by
  cases operation with
  | input timeout =>
    cases h
    rfl
  | output direct event routing timeout =>
    obtain ⟨route, -, rfl⟩ := Option.map_eq_some_iff.1 h
    cases direct <;> rfl
  | drain timeout =>
    cases h
    rfl
  | _ => cases h

end Session

theorem Rehearsal.leaves_of_blocked {r : Rehearsal} {c : Call} (gentle : c.isDiscard = false)
    (blocks : (r.answer c).1 = c.forced Status.wouldBlock) :
    (r.answer c).2.store.input = r.store.input ∧
      (r.answer c).2.store.output = r.store.output := by
  constructor
  · have takes := (r.answer_takes gentle).input
    rw [blocks] at takes
    simpa [Call.taken, Call.taken?_forced] using takes.symm
  · obtain ⟨answers, -⟩ := Rehearsal.answers r.script.forces_true c
    cases answers with
    | forced status allowed answered kept => rw [kept]
    | worked answered kept =>
      have sent := r.store.answer_output c
      rw [← answered, blocks] at sent
      rw [kept, sent, Call.accepted, List.filterMap_cons_none (Call.accepted?_forced (by decide)),
        List.filterMap_nil, List.append_nil]

/-- What holds of waited operations in the hands of clients of both kinds, whatever the sequencer is
and whatever surrounds it. -/
structure WaitersAgree : Prop where
  /-- Where every wait ends because the descriptor is ready, before the deadline if there is one,
  and some attempt does not block, the same attempts are made, with the same answer, and the
  sequencer is left the same. -/
  ready {σ : Type} (m : Machine Call Call.Answer σ) (around : Surroundings σ) (bound : Nat)
    (s : Session) (operation : Operation) (w : Session.Wait) (before : σ) (k : Nat)
    (answer : w.call.Answer) (after : σ) :
    s.connection.isOpen = true → s.wait? operation = some w →
    Unblocks m around.meanwhile w.call 0 before k answer after → k < bound →
    (∀ j < k, around.polled w.interest j = .ready ∧
      Waiting.InTime (Waiting.limitFrom w.timeout (around.clock 0)) (around.clock (j + 1))) →
    (∀ j < k, around.resumed w.interest j = true) →
    ∃ outcome, ∀ mode, World.Ends m around ((s.withMode mode).perform bound operation)
      { sequencer := before } (outcome, s.withMode mode) (w.call.attempts k answer) after
  /-- So they do, whatever surrounds either of them, where the first attempt does not block. -/
  first {σ : Type} (m : Machine Call Call.Answer σ) (bound : Nat) (s : Session)
    (operation : Operation) (w : Session.Wait) (before : σ) :
    s.connection.isOpen = true → s.wait? operation = some w → 0 < bound →
    (m w.call before).1 ≠ w.call.forced Status.wouldBlock →
    ∃ outcome, ∀ around mode, World.Ends m around ((s.withMode mode).perform bound operation)
      { sequencer := before } (outcome, s.withMode mode) [⟨w.call, (m w.call before).1⟩]
      (m w.call before).2
  closed {σ : Type} (m : Machine Call Call.Answer σ) (around : Surroundings σ) (bound : Nat)
    (s : Session) (operation : Operation) (w : Session.Wait) (before : σ) :
    s.connection.isOpen = false → s.wait? operation = some w → 0 < bound →
    ∀ mode, World.Ends m around ((s.withMode mode).perform bound operation) { sequencer := before }
      (.error .closed, s.withMode mode) [] before
  /-- A suspending client whose first attempt blocks, and whose descriptor does not become ready by
  the deadline, makes this attempt alone and answers nothing. -/
  missed {σ : Type} (m : Machine Call Call.Answer σ) (around : Surroundings σ) (bound : Nat)
    (s : Session) (operation : Operation) (w : Session.Wait) (before : σ) (deadline : Instant) :
    s.connection.isOpen = true → s.wait? operation = some w → 0 < bound →
    Waiting.limitFrom w.timeout (around.clock 0) = some deadline →
    (m w.call before).1 = w.call.forced Status.wouldBlock →
    around.resumed w.interest 0 = false →
    World.Ends m around ((s.withMode .suspending).perform bound operation) { sequencer := before }
      (.value (Session.nothing operation), s.withMode .suspending)
      [⟨w.call, w.call.forced Status.wouldBlock⟩] (around.meanwhile 0 (m w.call before).2)
  untouched (s : Session) (operation : Operation) (w : Session.Wait) (before : Rehearsal) :
    s.wait? operation = some w →
    (before.answer w.call).1 = w.call.forced Status.wouldBlock →
    (before.answer w.call).2.store.input = before.store.input ∧
      (before.answer w.call).2.store.output = before.store.output

end MidiSequencer
