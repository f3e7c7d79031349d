import MidiSequencer.Proofs.Listing.Courses
import MidiSequencer.Proofs.Listing.Questions
import MidiSequencer.Proofs.Listing.Served
import MidiSequencer.Proofs.Output.Accepted
import MidiSequencer.Proofs.Simulation.Faults

/-! # Searches that are made to fail

Under a script that forces failures alone a search for a next entry finds what the tables have, or
it fails. In either case the tables stay as they are. Without what was forced on a search that
failed a run would have come to this search as well, and gone on from there. -/
namespace MidiSequencer

theorem Call.ne_release_of_isNext {q : Call} (searches : q.isNext = true) : q ≠ .release := by
  rintro rfl
  cases searches

def Call.named (h : Call.History) (name : String) : Nat :=
  h.countP (·.question.name == name)

theorem Call.named_cons (x : Program.Exchange Call Call.Answer) (h : Call.History)
    (name : String) :
    Call.named (x :: h) name = Call.named h name + if x.question.name == name then 1 else 0 :=
  List.countP_cons

def Scene.asked {σ χ : Type} (m : Simulator σ χ) (q : Call) (s : Scene (σ × Call.History) χ) :
    Scene (σ × Call.History) χ :=
  { s with sequencer := ((m.answer q s.sequencer.1).2,
      s.sequencer.2 ++ [⟨q, (m.answer q s.sequencer.1).1⟩]) }

theorem Scene.answer_search {σ χ : Type} (m : Simulator σ χ) {q : Call}
    (searches : q.isNext = true) (s : Scene (σ × Call.History) χ) :
    Scene.answer m.recorded (.call q) s = ((m.answer q s.sequencer.1).1, s.asked m q) := by
  cases q with
  | nextClient n => rfl
  | nextPort client n => rfl
  | _ => cases searches

theorem Scene.exists_log_run {σ χ α : Type} (m : Simulator σ χ) (q : Call)
    (s : Scene (σ × Call.History) χ) (p : Dialogue α) : ∃ later,
      (p.run (Scene.answer m.recorded) (s.asked m q)).2.sequencer.2 =
        s.sequencer.2 ++ ⟨q, (m.answer q s.sequencer.1).1⟩ :: later := by
  obtain ⟨later, hl⟩ := (m.recorded_keeps (s.asked m q).sequencer.2).run p (List.prefix_refl _)
  exact ⟨later, hl.symm.trans (List.append_assoc ..)⟩

theorem Simulator.tried {σ χ : Type} {m : Simulator σ χ} (J : σ → Prop) {store : Store}
    (search : ∀ {q : Call} {r : σ}, q.isNext = true → J r →
      ((m.answer q r).1 = (store.answer q).1 ∨
        ∃ status < 0, (m.answer q r).1 = q.forced status) ∧ J (m.answer q r).2) :
    Tried (Scene.answer m.recorded) (fun s => J s.sequencer.1) (fun s => s.sequencer.2) store where
  search {q s} searches hs := by
    obtain ⟨answered, kept⟩ := search searches hs
    rw [Scene.answer_search m searches]
    exact ⟨answered, kept, rfl⟩

namespace Store

theorem find_error {α : Type} {test : α → Bool} {l : List α} {status : Status}
    (h : find test l = .error status) : status = Status.notFound := by
  unfold find at h
  split at h
  · cases h
  · exact (Except.error.inj h).symm

theorem search_error {s : Store} {q : Call} {status : Status} (searches : q.isNext = true)
    (failed : (s.answer q).1 = q.forced status) : status = Status.notFound := by
  cases q with
  | nextClient n => exact find_error failed
  | nextPort client n => exact find_error failed
  | _ => cases searches

theorem search_store {s : Store} {q : Call} (searches : q.isNext = true) : (s.answer q).2 = s := by
  cases q with
  | nextClient n => rfl
  | nextPort client n => rfl
  | _ => cases searches

end Store

namespace Rehearsal

structure Falters (store : Store) (r : Rehearsal) : Prop where
  store : r.store = store
  script : r.script.Forces Failing

theorem search_falters {store : Store} {q : Call} {r : Rehearsal} (searches : q.isNext = true)
    (hr : Falters store r) :
    ((simulator.answer q r).1 = (store.answer q).1 ∨
      ∃ status < 0, (simulator.answer q r).1 = q.forced status) ∧
      Falters store (simulator.answer q r).2 := by
  obtain ⟨answers, script⟩ := Rehearsal.answers hr.script q
  have kept := r.store.search_store searches
  cases answers with
  | forced status allowed answered same =>
    exact ⟨.inr ⟨status, allowed, answered⟩, same.trans hr.store, script⟩
  | worked answered same =>
    rw [kept] at same
    rw [hr.store] at answered
    exact ⟨.inl answered, same.trans hr.store, script⟩

theorem tried (store : Store) : Tried (Scene.answer simulator.recorded)
    (fun s => Falters store s.sequencer.1) (fun s => s.sequencer.2) store :=
  Simulator.tried (Falters store) search_falters

/-- A search that fails, other than by finding nothing, was made to by the script. -/
theorem forced_of_fails {q : Call} {r : Rehearsal} {status : Status} (searches : q.isNext = true)
    (fails : q.Fails (r.answer q).1 status) (other : status ≠ Status.notFound) :
    r.script.forcedAt q.name 0 = some status := by
  obtain ⟨-, held, answered⟩ := fails
  obtain ⟨forced, worked, -⟩ := answer_eq held r
  cases front : r.script.forcedAt q.name 0 with
  | some s =>
    have same := (forced s front).1.symm.trans answered
    cases q with
    | nextClient n => exact congrArg some (Except.error.inj same)
    | nextPort client n => exact congrArg some (Except.error.inj same)
    | _ => cases searches
  | none =>
    have same := (worked front).1.symm.trans answered
    exact absurd (Store.search_error searches same) other

theorem search_kept {q : Call} (searches : q.isNext = true) (r : Rehearsal) :
    (r.answer q).2.store = r.store := by
  obtain ⟨forced, worked, -⟩ := answer_eq (Call.ne_release_of_isNext searches) r
  cases front : r.script.forcedAt q.name 0 with
  | some s => exact (forced s front).2
  | none => exact (worked front).2.trans (Store.search_store searches)

variable {s t : Scene (Rehearsal × Call.History) Change}

/-- Of two scenes with the same log the second one lacks what is forced on the call behind `k`
others of a name. -/
structure Apart (name : String) (k : Nat) (s t : Scene (Rehearsal × Call.History) Change) :
    Prop where
  lifted : Lifted name k s.sequencer.1 t.sequencer.1
  log : t.sequencer.2 = s.sequencer.2

theorem Apart.asked {name : String} {k : Nat} {c : Call} (held : c ≠ .release)
    (apart : Apart name (k + if c.name == name then 1 else 0) s t) :
    (simulator.answer c t.sequencer.1).1 = (simulator.answer c s.sequencer.1).1 ∧
      Apart name k (s.asked simulator c) (t.asked simulator c) := by
  obtain ⟨same, lifted⟩ := apart.lifted.answer held
  have answered : (simulator.answer c t.sequencer.1).1 = (simulator.answer c s.sequencer.1).1 :=
    same
  refine ⟨answered, lifted, ?_⟩
  show t.sequencer.2 ++ [⟨c, (simulator.answer c t.sequencer.1).1⟩] = _
  rw [answered, apart.log]
  rfl

/-- By induction on what is asked. A failure among searches was forced; without it the same searches
are made up to the one that failed, which is then answered by the store. -/
theorem run_apart {α : Type} {p : Dialogue α} {before after : Call.History}
    {x : Program.Exchange Call Call.Answer} {status : Status}
    (asks : p.Meets Request.Searches fun _ => True)
    (apart : Apart x.question.name (Call.named before x.question.name) s t)
    (made : (p.run (Scene.answer simulator.recorded) s).2.sequencer.2 =
      s.sequencer.2 ++ (before ++ x :: after))
    (fails : x.question.Fails x.answer status) (other : status ≠ Status.notFound) :
    s.sequencer.1.script.forcedAt x.question.name (Call.named before x.question.name) =
        some status ∧
      ∃ after', (p.run (Scene.answer simulator.recorded) t).2.sequencer.2 = s.sequencer.2 ++
        (before ++ ⟨x.question, (s.sequencer.1.store.answer x.question).1⟩ :: after') := by
  induction p generalizing s t before with
  | done a =>
    have nothing := List.self_eq_append_right.1 made
    simp at nothing
  | unfinished =>
    have nothing := List.self_eq_append_right.1 made
    simp at nothing
  | ask q next ih =>
    cases q with
    | call c =>
      obtain ⟨searches, rest⟩ := asks
      have held := Call.ne_release_of_isNext searches
      simp only [Program.run, Scene.answer_search simulator searches] at made ⊢
      obtain ⟨later, hl⟩ := s.exists_log_run simulator c (next (simulator.answer c s.sequencer.1).1)
      have whole := List.append_cancel_left (hl.symm.trans made)
      cases before with
      | nil =>
        obtain ⟨rfl, rfl⟩ := List.cons.inj whole
        obtain ⟨later', hl'⟩ :=
          t.exists_log_run simulator c (next (simulator.answer c t.sequencer.1).1)
        have worked : (simulator.answer c t.sequencer.1).1 = _ := apart.lifted.answer_here held
        refine ⟨forced_of_fails searches fails other, later', ?_⟩
        rw [hl', apart.log, worked]
        rfl
      | cons y before =>
        obtain ⟨rfl, rfl⟩ := List.cons.inj whole
        rw [Call.named_cons] at apart ⊢
        obtain ⟨same, apart'⟩ := apart.asked held
        obtain ⟨forced, after', made'⟩ := ih _ (rest _) apart' (made.trans (List.append_cons ..))
        have forced' : (s.sequencer.1.answer c).2.script.forcedAt _ _ = some status := forced
        have kept : (s.asked simulator c).sequencer.1.store = s.sequencer.1.store :=
          search_kept searches s.sequencer.1
        rw [forcedAt_answer held] at forced'
        rw [same, made', kept]
        exact ⟨forced', after', (List.append_cons ..).symm⟩
    | _ => cases asks.1

end Rehearsal

end MidiSequencer

namespace MidiSequencer.Native

namespace Rehearsal

theorem tried (store : Store) : Tried (Scene.answer simulator.recorded)
    (fun s => Tables.Under MidiSequencer.Rehearsal.Failing store s.sequencer.1.tables)
    (fun s => s.sequencer.2) store := by
  refine Simulator.tried
    (fun r : Rehearsal => Tables.Under MidiSequencer.Rehearsal.Failing store r.tables) ?_
  intro q r searches hr
  obtain ⟨found, kept⟩ := Tables.ensures_search (fun _ _ _ negative => negative) searches
    r.tables hr
  show ((r.answer Tables.library q).1 = (store.answer q).1 ∨
      ∃ status < 0, (r.answer Tables.library q).1 = q.forced status) ∧
    Tables.Under _ store (r.answer Tables.library q).2.tables
  rw [answer_of_isHandling Tables.library r (isHandling_of_isNext searches)]
  refine ⟨found.imp_right ?_, kept⟩
  rintro ⟨_, _, status, negative, answered⟩
  exact ⟨status, negative, answered⟩

end Rehearsal

end MidiSequencer.Native
