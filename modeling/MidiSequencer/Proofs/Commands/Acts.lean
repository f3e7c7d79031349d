import MidiSequencer.Proofs.Resources.Handles

/-! # Acts of a command

What the calls of a command do, at the connection and in the native library behind it: ports are
made, connected and deleted, and events handed over and taken. Natively a subscription may fail
before it is asked for, and only a handle that is held is closed. -/
namespace MidiSequencer.Native

variable {σ χ α β : Type}

inductive Act where
  | creates (port : Int)
  | deletes (port : Int)
  | connects (subscription : SubscribeDescriptor) (status : Status)
  | sends (record : Record) (status : Status)
  | receives (answer : Except Status Event)
  | closes

def received (answer : Status × Option Record) : Except Status Event :=
  if answer.1 < 0 then .error answer.1
  else match answer.2 with
    | none => .error Status.noSpace
    | some r => .ok r.decode

namespace Act

def ofNative : Program.Exchange NativeCall NativeCall.Answer → Option Act
  | ⟨.createPort .., status⟩ => if 0 ≤ status then some (.creates status) else none
  | ⟨.deletePort port, _⟩ => some (.deletes port)
  | ⟨.subscribe subscription, status⟩ => some (.connects subscription status)
  | ⟨.eventOutputDirect record, status⟩ => some (.sends record status)
  | ⟨.eventInput, answer⟩ => some (.receives (received answer))
  | ⟨.closeHandle, _⟩ => some .closes
  | _ => none

def ofCall : Program.Exchange Call Call.Answer → Option Act
  | ⟨.command (.createPort ..), status⟩ => if 0 ≤ status then some (.creates status) else none
  | ⟨.command (.deletePort port), _⟩ => some (.deletes port)
  | ⟨.command (.subscribe s), status⟩ => some (.connects (.ofSubscription s) status)
  | ⟨.command (.eventOutputDirect record), status⟩ => some (.sends record status)
  | ⟨.eventInput, answer⟩ => some (.receives answer)
  | ⟨.release, _⟩ => some .closes
  | _ => none

def ofLog (log : NativeCall.History) : List Act := log.filterMap ofNative

def ofCalls (calls : Call.History) : List Act := calls.filterMap ofCall

theorem ofLog_append (log more : NativeCall.History) :
    ofLog (log ++ more) = ofLog log ++ ofLog more :=
  List.filterMap_append

theorem ofCalls_append (calls more : Call.History) :
    ofCalls (calls ++ more) = ofCalls calls ++ ofCalls more :=
  List.filterMap_append

def isOptional : Act → Prop
  | .connects _ status => status < 0
  | .closes => True
  | _ => False

/-- What is seen of acts in the library. -/
inductive Shows : List Act → List Act → Prop where
  | nil : Shows [] []
  | keep {acts seen} (a : Act) : Shows acts seen → Shows (a :: acts) (a :: seen)
  | hide {acts seen} {a : Act} : a.isOptional → Shows acts seen → Shows (a :: acts) seen

namespace Shows

theorem refl (acts : List Act) : Shows acts acts := by
  induction acts with
  | nil => exact .nil
  | cons a acts ih => exact .keep a ih

variable {acts more seen later : List Act}

theorem append (first : Shows acts seen) (second : Shows more later) :
    Shows (acts ++ more) (seen ++ later) := by
  induction first with
  | nil => exact second
  | keep a _ ih => exact .keep a ih
  | hide ho _ ih => exact .hide ho ih

theorem of_append (h : Shows (acts ++ more) seen) :
    ∃ first second, seen = first ++ second ∧ Shows acts first ∧ Shows more second := by
  induction acts generalizing seen with
  | nil => exact ⟨[], seen, rfl, .nil, h⟩
  | cons a acts ih =>
    cases h with
    | keep _ rest =>
      obtain ⟨first, second, rfl, shows, others⟩ := ih rest
      exact ⟨a :: first, second, rfl, .keep a shows, others⟩
    | hide ho rest =>
      obtain ⟨first, second, rfl, shows, others⟩ := ih rest
      exact ⟨first, second, rfl, .hide ho shows, others⟩

theorem required {a : Act} (h : Shows (a :: acts) seen) (required : ¬ a.isOptional) :
    ∃ rest, seen = a :: rest ∧ Shows acts rest := by
  cases h with
  | keep _ rest => exact ⟨_, rfl, rest⟩
  | hide optional _ => exact absurd optional required

theorem sublist (h : Shows acts seen) : seen.Sublist acts := by
  induction h with
  | nil => exact .slnil
  | keep a _ ih => exact ih.cons_cons a
  | hide _ _ ih => exact ih.cons _

theorem eq_of_required (h : Shows acts seen) (required : ∀ a ∈ acts, ¬ a.isOptional) :
    seen = acts := by
  induction h with
  | nil => rfl
  | keep a _ ih =>
    rw [ih fun b hb => required b (List.mem_cons_of_mem a hb)]
  | hide ho _ ih => exact absurd ho (required _ List.mem_cons_self)

end Shows

end Act

namespace Library

open Act

/-! The native calls that serve a call do what it does. -/

/-- Adds native calls to the log that are no acts. -/
def Silent (x : StateM (σ × NativeCall.History) α) : Prop :=
  ∀ s, ofLog (x s).2.2 = ofLog s.2

theorem silent_pure (a : α) : Silent (pure a : StateM (σ × NativeCall.History) α) :=
  fun _ => rfl

theorem Silent.bind {x : StateM (σ × NativeCall.History) α}
    {f : α → StateM (σ × NativeCall.History) β} (hx : Silent x) (hf : ∀ a, Silent (f a)) :
    Silent (x >>= f) :=
  fun s => (hf _ _).trans (hx s)

variable (m : Library σ)

theorem silent_call {c : NativeCall} (hc : ∀ a, ofNative ⟨c, a⟩ = none) :
    Silent (Library.call (Machine.recorded m) c) := by
  intro s
  have added : ofLog [⟨c, (m c s.1).1⟩] = [] := List.filterMap_cons_none (hc _)
  show ofLog (s.2 ++ [⟨c, (m c s.1).1⟩]) = _
  rw [ofLog_append, added, List.append_nil]

theorem silent_withDescriptor {kind : DescriptorKind} {failed : Status → α}
    {body : StateM (σ × NativeCall.History) α} (hb : Silent body) :
    Silent (Library.withDescriptor (Machine.recorded m) kind failed body) := by
  refine (silent_call m fun _ => rfl).bind fun status => ?_
  split
  · exact silent_pure _
  · exact hb.bind fun a => (silent_call m fun _ => rfl).bind fun _ => silent_pure a

theorem ofLog_call (c : NativeCall) (s : σ × NativeCall.History) :
    ofLog (Library.call (Machine.recorded m) c s).2.2 =
      ofLog s.2 ++ (ofNative ⟨c, (m c s.1).1⟩).toList := by
  show ofLog (s.2 ++ [⟨c, (m c s.1).1⟩]) = _
  rw [ofLog_append]
  cases h : ofNative ⟨c, (m c s.1).1⟩ <;> simp [ofLog, h]

def ShowsAct (c : Call) (x : StateM (σ × NativeCall.History) c.Answer) : Prop :=
  ∀ s, ∃ seen, ofLog (x s).2.2 = ofLog s.2 ++ seen ∧ Shows (ofCall ⟨c, (x s).1⟩).toList seen

theorem Silent.showsAct {c : Call} {x : StateM (σ × NativeCall.History) c.Answer} (hx : Silent x)
    (hc : ∀ a, ofCall ⟨c, a⟩ = none) : ShowsAct c x := by
  intro s
  rw [hc]
  exact ⟨[], (hx s).trans (List.append_nil _).symm, .nil⟩

/-- A subscription is asked for only where its descriptor was allocated. -/
theorem showsAct_subscribe (subscription : Subscription) :
    ShowsAct (.command (.subscribe subscription))
      (Library.command (Machine.recorded m) (.subscribe subscription)) := by
  intro s
  have allocated : ofLog (Library.call (Machine.recorded m) (.allocate .subscribe) s).2.2 =
      ofLog s.2 := silent_call m (fun _ => rfl) s
  let status : Int := (m (.allocate .subscribe) s.1).1
  have serves : Library.command (Machine.recorded m) (.subscribe subscription) s =
      (if status < 0 then (pure status : StateM (σ × NativeCall.History) Status) else do
        let a ← Library.call (Machine.recorded m) (.subscribe (.ofSubscription subscription))
        Library.call (Machine.recorded m) (.free .subscribe)
        return a) (Library.call (Machine.recorded m) (.allocate .subscribe) s).2 := rfl
  rw [serves]
  by_cases failed : status < 0
  · rw [if_pos failed]
    exact ⟨[], allocated.trans (List.append_nil _).symm, .hide failed .nil⟩
  · rw [if_neg failed]
    let t := (Library.call (Machine.recorded m) (.allocate .subscribe) s).2
    let u := Library.call (Machine.recorded m) (.subscribe (.ofSubscription subscription)) t
    have freed : ofLog (Library.call (Machine.recorded m) (.free .subscribe) u.2).2.2 =
        ofLog u.2.2 := silent_call m (fun _ => rfl) u.2
    have asked : ofLog u.2.2 = ofLog t.2 ++ [.connects (.ofSubscription subscription) u.1] :=
      ofLog_call m _ t
    exact ⟨[.connects (.ofSubscription subscription) u.1],
      (freed.trans asked).trans (congrArg (· ++ _) allocated), .refl _⟩

theorem showsAct_command {q : Command} (hq : Call.isHandling (.command q) = false) :
    ShowsAct (.command q) (Library.command (Machine.recorded m) q) := by
  have shown {c : NativeCall} (s : σ × NativeCall.History) :
      ∃ seen, ofLog (Library.call (Machine.recorded m) c s).2.2 = ofLog s.2 ++ seen ∧
        Shows (ofNative ⟨c, (m c s.1).1⟩).toList seen :=
    ⟨_, ofLog_call m c s, .refl _⟩
  cases q with
  | openSequencer name streams mode => cases hq
  | subscribe subscription => exact showsAct_subscribe m subscription
  | createPort name capability portType => exact shown
  | deletePort port => exact shown
  | eventOutputDirect record => exact shown
  | unsubscribe subscription =>
    exact (silent_withDescriptor m (silent_call m fun _ => rfl)).showsAct fun _ => rfl
  | setQueueTempo queue tempo resolution =>
    exact (silent_withDescriptor m (silent_call m fun _ => rfl)).showsAct fun _ => rfl
  | setPortInfo port info =>
    refine Silent.showsAct (silent_withDescriptor m ?_) fun _ => rfl
    split
    · exact silent_pure _
    · exact silent_call m fun _ => rfl
  | allocQueue name =>
    refine Silent.showsAct ?_ fun _ => rfl
    cases name <;> exact silent_call m fun _ => rfl
  | _ => exact Silent.showsAct (silent_call m fun _ => rfl) fun _ => rfl

theorem eventInput_eq (s : σ) :
    m.eventInput s = (received (m .eventInput s).1, (m .eventInput s).2) := by
  unfold received
  show (if (m .eventInput s).1.1 < 0 then (pure (.error (m .eventInput s).1.1) :
    StateM σ (Except Status Event)) else _) (m .eventInput s).2 = _
  split
  · rfl
  · cases (m .eventInput s).1.2 <;> rfl

theorem showsAct_serve {c : Call} (hc : c.isHandling = false) :
    ShowsAct c (Library.serve (Machine.recorded m) c) := by
  cases c with
  | command q => exact showsAct_command m hc
  | pollDescriptors =>
    refine Silent.showsAct ((silent_call m fun _ => rfl).bind fun count => ?_) fun _ => rfl
    split
    · exact silent_pure _
    · refine (silent_call m fun _ => rfl).bind fun answer => ?_
      rcases answer with ⟨found, reported⟩
      simp only
      split <;> exact silent_pure _
  | eventInput =>
    intro s
    refine ⟨_, ?_, .refl _⟩
    rw [show Library.serve (Machine.recorded m) .eventInput s = _ from eventInput_eq _ s]
    exact ofLog_call m .eventInput s
  | release => cases hc
  | _ =>
    exact Silent.showsAct (silent_withDescriptor m ((silent_call m fun _ => rfl).bind fun _ =>
      silent_pure _)) fun _ => rfl

theorem showsAct_answer (c : Call) (s : Served (σ × NativeCall.History)) :
    let r := s.answer (Machine.recorded m) c
    ∃ seen, ofLog r.2.tables.2 = ofLog s.tables.2 ++ seen ∧
      Shows (ofCall ⟨c, r.1⟩).toList seen := by
  cases hc : c.isHandling with
  | false =>
    rw [answer_of_isHandling _ s hc]
    exact showsAct_serve m hc s.tables
  | true =>
    cases c with
    | command q =>
      cases q with
      | openSequencer name streams mode =>
        have opened : ofLog (Library.call (Machine.recorded m)
            (.openHandle name streams.code mode) s.tables).2.2 = ofLog s.tables.2 :=
          silent_call m (fun _ => rfl) s.tables
        exact ⟨[], opened.trans (List.append_nil _).symm, .nil⟩
      | _ => cases hc
    | release =>
      obtain ⟨tables, held⟩ := s
      cases held with
      | false => exact ⟨[], (List.append_nil _).symm, .hide trivial .nil⟩
      | true => exact ⟨[.closes], ofLog_call m .closeHandle tables, .refl _⟩
    | _ => cases hc

end Library

open Act

theorem served_shows (m : Library σ) (change : χ → σ → σ) :
    (Served.simulator (Machine.recorded m) (unrecorded change)).recorded.Keeps fun s =>
      Shows (ofCalls s.2) (ofLog s.1.tables.2) where
  answer c s h := by
    obtain ⟨seen, log, shows⟩ := m.showsAct_answer c s.1
    let n := Served.simulator (Machine.recorded m) (unrecorded change)
    have calls : ofCalls (n.recorded.answer c s).2.2 =
        ofCalls s.2 ++ (ofCall ⟨c, (s.1.answer (Machine.recorded m) c).1⟩).toList := by
      show ofCalls (s.2 ++ [_]) = _
      rw [ofCalls_append]
      refine congrArg _ ?_
      show List.filterMap ofCall [⟨c, (s.1.answer (Machine.recorded m) c).1⟩] = _
      cases ha : ofCall ⟨c, (s.1.answer (Machine.recorded m) c).1⟩ <;> simp [ha]
    rw [calls]
    show Shows _ (ofLog (s.1.answer (Machine.recorded m) c).2.tables.2)
    rw [log]
    exact h.append shows
  change _ _ h := h

/-- A run goes through a history of its dialogue of which the library sees the acts. -/
theorem run_shows (m : Library σ) (change : χ → σ → σ) (p : Dialogue α) (s : Scene σ χ) :
    let n := Served.simulator (Machine.recorded m) (unrecorded change)
    let r := p.run (Scene.answer n) (Scene.served s)
    ∃ h, Program.Traces p h r.1 ∧
      Shows (ofCalls (Dialogue.calls h)) (ofLog r.2.sequencer.tables.2) := by
  intro n r
  have same : r = _ := n.recorded_follows.run p (Scene.served s).recorded
  have shows := (served_shows m change).run p (s := (Scene.served s).recorded) .nil
  obtain ⟨h, ht, hl⟩ := Dialogue.run_recorded n p (Scene.served s).recorded
  rw [same]
  refine ⟨h, ht, ?_⟩
  rw [hl] at shows
  exact shows

end MidiSequencer.Native
