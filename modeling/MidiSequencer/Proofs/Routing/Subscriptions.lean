import MidiSequencer.Proofs.Routing.Operations

/-! # Subscriptions of a run

Over every run where nothing is forced the subscriptions are a set of routes, whoever else acts. -/
namespace MidiSequencer

open Rehearsal

namespace Play

abbrev routes (p : Play Rehearsal Change) : List Subscription :=
  p.scene.sequencer.store.subscriptions

/-- Nothing is forced, nothing will be, and no two routes have the same ends. -/
structure Routed (p : Play Rehearsal Change) : Prop where
  script : p.scene.sequencer.script.Forces fun _ _ => False
  awaited : p.scene.Within Change.Unforced
  distinct : (p.routes.map Subscription.ends).Nodup

section

variable {p : Play Rehearsal Change} (hp : p.Routed) (bound : Nat)
include hp

theorem Routed.step_passes {step : Step Change} (hs : step.Within Change.Unforced) :
    ∃ calls, simulator.Passes Change.Unforced p.scene.sequencer calls
        (p.step simulator bound step).2.scene.sequencer ∧
      Call.routeChanges calls = step.routeChanges p.session := by
  obtain ⟨does, -⟩ := step_does simulator bound hp.awaited hs
  cases does with
  | performs operation h result asked ht outcome session passes =>
    refine ⟨_, passes, ?_⟩
    rw [Step.routeChanges_of_performs asked, Session.perform_routeChanges ht]
  | idles asked outcome session passes =>
    exact ⟨[], passes, (Step.routeChanges_of_idle asked).symm⟩

theorem Routed.step_routes {step : Step Change} (hs : step.Within Change.Unforced) :
    (p.step simulator bound step).2.routes =
      RouteChange.applyAll p.routes (step.routeChanges p.session) := by
  obtain ⟨calls, passes, changes⟩ := hp.step_passes bound hs
  rw [routes, passes_subscriptions passes hp.script, changes]

theorem Routed.step {step : Step Change} (hs : step.Within Change.Unforced) :
    (p.step simulator bound step).2.Routed := by
  obtain ⟨-, awaited⟩ := step_does simulator bound hp.awaited hs
  obtain ⟨calls, passes, -⟩ := hp.step_passes bound hs
  refine ⟨passes_forces passes hp.script, awaited, ?_⟩
  rw [hp.step_routes bound hs]
  exact RouteChange.applyAll_nodup hp.distinct _

end

theorem Routed.run {p : Play Rehearsal Change} (hp : p.Routed) (bound : Nat)
    {steps : List (Step Change)} (hs : ∀ step ∈ steps, step.Within Change.Unforced) :
    (p.run simulator bound steps).2.Routed := by
  induction steps generalizing p with
  | nil => exact hp
  | cons step steps ih =>
    obtain ⟨first, later⟩ := List.forall_mem_cons.1 hs
    exact ih (hp.step bound first) later

section

variable {p : Play Rehearsal Change} (hp : p.Routed)
include hp

theorem Routed.moments {calls : Call.History} {t : Rehearsal}
    (passes : simulator.Passes Change.Unforced p.scene.sequencer calls t) :
    simulator.Throughout Change.Unforced p.scene.sequencer calls t fun _ u =>
      (u.store.subscriptions.map Subscription.ends).Nodup where
  passes := passes
  moments before u _ reached := by
    rw [passes_subscriptions reached hp.script]
    exact RouteChange.applyAll_nodup hp.distinct _

theorem Routed.unchanged {calls : Call.History} {t : Rehearsal}
    (passes : simulator.Passes Change.Unforced p.scene.sequencer calls t)
    (nothing : ∀ change ∈ Call.routeChanges calls, change.apply p.routes = p.routes) :
    simulator.Throughout Change.Unforced p.scene.sequencer calls t fun _ u =>
      u.store.subscriptions = p.routes where
  passes := passes
  moments before u first reached := by
    rw [passes_subscriptions reached hp.script]
    refine RouteChange.applyAll_eq_self fun change asked => nothing change ?_
    exact (first.filterMap _).subset asked

variable (bound : Nat) {step : Step Change} (hs : step.Within Change.Unforced)
include hs

theorem Routed.step_routing {operation : Operation} (asked : step.Performs p.session operation)
    {change : RouteChange} (hc : p.session.routeChange? operation = some change)
    (isOpen : p.session.connection.isOpen = true) :
    let r := p.step simulator bound step
    r.1 = some (.ofStatus change.command (change.status p.routes)) ∧
      r.2.routes = change.apply p.routes ∧ r.2.session = p.session := by
  obtain ⟨session, ⟨closed, -⟩ | ⟨-, u, status, first, answered, outcome, passes⟩⟩ :=
    step_executes hp.script hp.awaited hs asked (Session.perform_routing bound hc)
  · rw [isOpen] at closed
    cases closed
  · have same : u.store.subscriptions = p.routes := passes_subscriptions first hp.script
    rw [Store.command_routeChange, same] at answered
    rw [answered] at outcome
    refine ⟨outcome, ?_, session⟩
    refine (passes_subscriptions passes hp.script).trans ?_
    cases change <;> rfl

theorem Routed.step_unchanged
    (h : (∀ operation, step.Performs p.session operation → operation.isRouting = false) ∨
      ∀ v, (p.step simulator bound step).1 ≠ some (.value v)) :
    ∃ calls, simulator.Throughout Change.Unforced p.scene.sequencer calls
      (p.step simulator bound step).2.scene.sequencer fun _ u =>
        u.store.subscriptions = p.routes := by
  obtain ⟨calls, passes, changes⟩ := hp.step_passes bound hs
  refine ⟨calls, hp.unchanged passes fun change asked => ?_⟩
  rw [changes] at asked
  by_cases idle : ∀ operation, ¬ step.Performs p.session operation
  · rw [Step.routeChanges_of_idle idle] at asked
    cases asked
  · obtain ⟨operation, performs⟩ := not_forall_not.1 idle
    rw [Step.routeChanges_of_performs performs] at asked
    split at asked
    · next isOpen =>
      have hc := Option.mem_toList.1 asked
      rcases h with other | failed
      · have routing := Session.isRouting_of_routeChange? hc
        rw [other operation performs] at routing
        cases routing
      · obtain ⟨outcome, -⟩ := hp.step_routing bound hs performs hc isOpen
        refine RouteChange.apply_of_failed ?_
        by_contra worked
        refine failed .unit (outcome.trans (congrArg some ?_))
        exact if_neg worked
    · cases asked

theorem Routed.session_routing {operation : Operation}
    (asked : step.operation? = some operation) (hr : operation.isRouting = true) :
    (p.step simulator bound step).2.session = p.session := by
  obtain ⟨does, -⟩ := step_does simulator bound hp.awaited hs
  cases does with
  | performs o h result performs ht outcome session passes =>
    obtain rfl : operation = o := Option.some.inj (asked.symm.trans performs.operation?)
    rw [session]
    cases hc : p.session.routeChange? operation with
    | some change =>
      rw [Session.perform_routing _ hc] at ht
      rcases Session.traces_execute ht with ⟨-, -, rfl⟩ | ⟨-, status, -, rfl⟩ <;> rfl
    | none =>
      rcases Session.perform_idle bound hr hc with idle | idle
      all_goals
        rw [idle] at ht
        obtain ⟨-, rfl⟩ := Program.traces_done_iff.1 ht
        rfl
  | idles performs outcome session passes => exact session

end

structure Elsewhere (p : Play Rehearsal Change) (ends : Address × Address) (step : Step Change) :
    Prop where
  within : step.Within Change.Unforced
  elsewhere : ∃ operation, step.operation? = some operation ∧ operation.isRouting = true ∧
    ∀ change, p.session.routeChange? operation = some change → change.ends ≠ ends

theorem Elsewhere.routeChanges {p : Play Rehearsal Change} {ends : Address × Address}
    {step : Step Change} (h : p.Elsewhere ends step) :
    ∀ change ∈ step.routeChanges p.session, change.ends ≠ ends := by
  obtain ⟨operation, asked, -, other⟩ := h.elsewhere
  intro change member
  by_cases idle : ∀ o, ¬ step.Performs p.session o
  · rw [Step.routeChanges_of_idle idle] at member
    cases member
  · obtain ⟨o, performs⟩ := not_forall_not.1 idle
    obtain rfl : operation = o := Option.some.inj (asked.symm.trans performs.operation?)
    rw [Step.routeChanges_of_performs performs] at member
    split at member
    · exact other change (Option.mem_toList.1 member)
    · cases member

theorem Routed.run_elsewhere {p : Play Rehearsal Change} (hp : p.Routed) (bound : Nat)
    {ends : Address × Address} {steps : List (Step Change)}
    (hs : ∀ step ∈ steps, p.Elsewhere ends step) :
    (p.run simulator bound steps).2.session = p.session ∧
      (p.run simulator bound steps).2.routes =
        RouteChange.applyAll p.routes (steps.flatMap (Step.routeChanges p.session)) := by
  induction steps generalizing p with
  | nil => exact ⟨rfl, rfl⟩
  | cons step steps ih =>
    obtain ⟨first, later⟩ := List.forall_mem_cons.1 hs
    obtain ⟨operation, asked, routing, -⟩ := first.elsewhere
    have session := hp.session_routing bound first.within asked routing
    have same (x : Step Change) (hx : p.Elsewhere ends x) :
        (p.step simulator bound step).2.Elsewhere ends x := ⟨hx.within, session ▸ hx.elsewhere⟩
    obtain ⟨last, routes⟩ := ih (hp.step bound first.within) fun x hx => same x (later x hx)
    refine ⟨last.trans session, routes.trans ?_⟩
    rw [hp.step_routes bound first.within, session, List.flatMap_cons, RouteChange.applyAll,
      RouteChange.applyAll, RouteChange.applyAll, List.foldl_append]

theorem Routed.detour {p : Play Rehearsal Change} (hp : p.Routed) (bound : Nat)
    {add remove : Step Change} {between : List (Step Change)} {o o' : Operation}
    {made ended : Subscription} (within : add.Within Change.Unforced)
    (within' : remove.Within Change.Unforced) (asked : add.Performs p.session o)
    (adds : p.session.routeChange? o = some (.connect made))
    (worked : (p.step simulator bound add).1 = some (.value .unit))
    (others : ∀ step ∈ between, p.Elsewhere made.ends step)
    (asked' : remove.Performs p.session o')
    (removes : p.session.routeChange? o' = some (.disconnect ended))
    (same : ended.ends = made.ends) :
    let r := ((p.step simulator bound add).2.run simulator bound between).2.step simulator bound
      remove
    r.1 = some (.value .unit) ∧ r.2.routes = (p.run simulator bound between).2.routes := by
  have isOpen : p.session.connection.isOpen = true := by
    by_contra closed
    obtain ⟨-, ⟨-, refused, -⟩ | ⟨isOpen, -⟩⟩ := step_executes hp.script hp.awaited within asked
      (Session.perform_routing bound adds)
    · rw [refused] at worked
      cases worked
    · exact closed isOpen
  obtain ⟨outcome, added, session⟩ := hp.step_routing bound within asked adds isOpen
  have fresh : made.ends ∉ p.routes.map Subscription.ends := by
    intro there
    have busy : (RouteChange.connect made).status p.routes = Status.busy := if_pos there
    rw [outcome, busy] at worked
    cases worked
  have added' : (p.step simulator bound add).2.routes = p.routes ++ [made] :=
    added.trans (if_neg fresh)
  have others' (x : Step Change) (hx : x ∈ between) :
      (p.step simulator bound add).2.Elsewhere made.ends x :=
    ⟨(others x hx).within, session ▸ (others x hx).elsewhere⟩
  have quiet : ∀ change ∈ between.flatMap (Step.routeChanges p.session),
      change.ends ≠ made.ends := by
    intro change member
    obtain ⟨x, hx, member⟩ := List.mem_flatMap.1 member
    exact (others x hx).routeChanges change member
  obtain ⟨session', routes'⟩ := (hp.step bound within).run_elsewhere bound others'
  obtain ⟨-, alone⟩ := hp.run_elsewhere bound others
  have last := ((hp.step bound within).run bound fun x hx => (others x hx).within)
  rw [session] at session' routes'
  have removes' := session'.symm ▸ removes
  obtain ⟨outcome', removed, -⟩ := last.step_routing bound within' (session'.symm ▸ asked') removes'
    (session'.symm ▸ isOpen)
  have there : ended.ends ∈
      ((p.step simulator bound add).2.run simulator bound between).2.routes.map
        Subscription.ends := by
    rw [routes', same, RouteChange.mem_applyAll quiet, added', List.map_append]
    exact List.mem_append_right _ (.head _)
  constructor
  · have done : (RouteChange.disconnect ended).status
        ((p.step simulator bound add).2.run simulator bound between).2.routes = 0 := if_pos there
    rw [outcome', done]
    rfl
  · rw [removed, routes', added, alone]
    exact RouteChange.detour same fresh quiet

/-- What holds at any point of a run: the subscriptions are a set of routes. -/
structure RoutesKept (bound : Nat) (p : Play Rehearsal Change) : Prop where
  distinct : (p.routes.map Subscription.ends).Nodup
  moments {step : Step Change} : step.Within Change.Unforced →
    ∃ calls, simulator.Throughout Change.Unforced p.scene.sequencer calls
      (p.step simulator bound step).2.scene.sequencer fun _ u =>
        (u.store.subscriptions.map Subscription.ends).Nodup
  ended : ∃ calls, simulator.Throughout Change.Unforced p.scene.sequencer calls
    (p.finish simulator).sequencer fun _ u => u.store.subscriptions = p.routes
  /-- A new route stands at the end with its options; one that exists is not made again. -/
  subscribe {step : Step Change} {sender dest : Address} {binding : Binding}
    {options : SubscribeOptions} : step.Within Change.Unforced →
    step.Performs p.session (.subscribe sender dest binding) →
    p.session.options binding = some options → p.session.connection.isOpen = true →
    let r := p.step simulator bound step
    if (sender, dest) ∈ p.routes.map Subscription.ends then
      r.1 = some (.error (.service "snd_seq_subscribe_port" Status.busy)) ∧
        r.2.routes = p.routes
    else r.1 = some (.value .unit) ∧ r.2.routes = p.routes ++ [⟨sender, dest, options⟩]
  /-- Whatever the options, exactly the route with these ends is given up. -/
  unsubscribe {step : Step Change} {sender dest : Address} {binding : Binding}
    {options : SubscribeOptions} : step.Within Change.Unforced →
    step.Performs p.session (.unsubscribe sender dest binding) →
    p.session.options binding = some options → p.session.connection.isOpen = true →
    let r := p.step simulator bound step
    if (sender, dest) ∈ p.routes.map Subscription.ends then
      r.1 = some (.value .unit) ∧ ∃ front sub back, p.routes = front ++ sub :: back ∧
        sub.ends = (sender, dest) ∧ r.2.routes = front ++ back
    else r.1 = some (.error (.service "snd_seq_unsubscribe_port" Status.notFound)) ∧
      r.2.routes = p.routes
  port {slot : Nat} {port : Port} (address : Address) : p.session.port? slot = some port →
    port.isClosed = false →
    let perform := p.session.perform bound
    perform (.port slot (.connectTo address)) = perform (.subscribe port.address address {}) ∧
    perform (.port slot (.connectFrom address)) = perform (.subscribe address port.address {}) ∧
    perform (.port slot (.disconnectTo address)) =
      perform (.unsubscribe port.address address {}) ∧
    perform (.port slot (.disconnectFrom address)) =
      perform (.unsubscribe address port.address {})
  unchanged {step : Step Change} : step.Within Change.Unforced →
    (∀ operation, step.Performs p.session operation → operation.isRouting = false) ∨
      (∀ v, (p.step simulator bound step).1 ≠ some (.value v)) →
    ∃ calls, simulator.Throughout Change.Unforced p.scene.sequencer calls
      (p.step simulator bound step).2.scene.sequencer fun _ u => u.store.subscriptions = p.routes
  detour {add remove : Step Change} {between : List (Step Change)} {o o' : Operation}
    {made ended : Subscription} : add.Within Change.Unforced → remove.Within Change.Unforced →
    add.Performs p.session o → p.session.routeChange? o = some (.connect made) →
    (p.step simulator bound add).1 = some (.value .unit) →
    (∀ step ∈ between, p.Elsewhere made.ends step) →
    remove.Performs p.session o' → p.session.routeChange? o' = some (.disconnect ended) →
    ended.ends = made.ends →
    let r := ((p.step simulator bound add).2.run simulator bound between).2.step simulator bound
      remove
    r.1 = some (.value .unit) ∧ r.2.routes = (p.run simulator bound between).2.routes

theorem Routed.kept {p : Play Rehearsal Change} (hp : p.Routed) (bound : Nat) :
    p.RoutesKept bound where
  distinct := hp.distinct
  moments hs := by
    obtain ⟨calls, passes, -⟩ := hp.step_passes bound hs
    exact ⟨calls, hp.moments passes⟩
  ended := by
    obtain ⟨h, o, ht, passes⟩ := finish_passes simulator hp.awaited
    refine ⟨_, hp.unchanged passes fun change asked => ?_⟩
    rw [Session.finish_routeChanges ht] at asked
    cases asked
  subscribe {step sender dest binding options} hs asked there isOpen := by
    have hc : p.session.routeChange? (.subscribe sender dest binding) =
        some (.connect ⟨sender, dest, options⟩) := by simp [Session.routeChange?, there]
    obtain ⟨outcome, routes, -⟩ := hp.step_routing bound hs asked hc isOpen
    split
    · next exists_ =>
      have busy : (RouteChange.connect ⟨sender, dest, options⟩).status p.routes = Status.busy :=
        if_pos exists_
      rw [busy] at outcome
      exact ⟨outcome, routes.trans (if_pos exists_)⟩
    · next fresh =>
      have worked : (RouteChange.connect ⟨sender, dest, options⟩).status p.routes = 0 :=
        if_neg fresh
      rw [worked] at outcome
      exact ⟨outcome, routes.trans (if_neg fresh)⟩
  unsubscribe {step sender dest binding options} hs asked there isOpen := by
    have hc : p.session.routeChange? (.unsubscribe sender dest binding) =
        some (.disconnect ⟨sender, dest, options⟩) := by simp [Session.routeChange?, there]
    obtain ⟨outcome, routes, -⟩ := hp.step_routing bound hs asked hc isOpen
    split
    · next exists_ =>
      have worked : (RouteChange.disconnect ⟨sender, dest, options⟩).status p.routes = 0 :=
        if_pos exists_
      rw [worked] at outcome
      obtain ⟨front, sub, back, split, ends, removed⟩ :=
        RouteChange.disconnect_one hp.distinct ⟨sender, dest, options⟩ exists_
      exact ⟨outcome, front, sub, back, split, ends, routes.trans removed⟩
    · next absent =>
      have failed : (RouteChange.disconnect ⟨sender, dest, options⟩).status p.routes =
          Status.notFound := if_neg absent
      rw [failed] at outcome
      exact ⟨outcome, routes.trans (RouteChange.filter_absent absent)⟩
  port {slot port} address held isOpen := by
    have changes {o : PortOperation} {change : RouteChange}
        (told : o.routeChange? port.address = some change) :
        p.session.routeChange? (.port slot o) = some change := by
      have there : (p.session.port? slot).filter (fun p => !p.isClosed) = some port := by
        simp [held, Option.filter, isOpen]
      rw [Session.routeChange?, there]
      exact told
    refine ⟨?_, ?_, ?_, ?_⟩
    all_goals
      rw [Session.perform_routing _ (changes rfl)]
      rfl
  unchanged hs h := hp.step_unchanged bound hs h
  detour within within' asked adds worked others asked' removes same :=
    hp.detour bound within within' asked adds worked others asked' removes same

end Play

theorem Plan.start_routed {plan : Plan Change} {s : Scene Rehearsal Change}
    {p : Play Rehearsal Change} (script : s.sequencer.script.Forces fun _ _ => False)
    (awaited : s.Within Change.Unforced)
    (distinct : (s.sequencer.store.subscriptions.map Subscription.ends).Nodup)
    (hp : plan.start simulator s = .ok p) : p.Routed := by
  obtain ⟨h, -, passes, within⟩ := Dialogue.run_passes simulator plan.begin.run awaited
  unfold Plan.start at hp
  rcases hr : plan.begin.run.run (Scene.answer simulator) s with ⟨_ | e | session, scene⟩
  · rw [hr] at hp
    cases hp
  · rw [hr] at hp
    cases hp
  · rw [hr] at hp passes within
    cases hp
    refine ⟨passes_forces passes script, within, ?_⟩
    show (scene.sequencer.store.subscriptions.map Subscription.ends).Nodup
    rw [passes_subscriptions passes script]
    exact RouteChange.applyAll_nodup distinct _

/-- Over every run where nothing is forced the subscriptions are a set of routes. -/
theorem routes_kept (bound : Nat) {plan : Plan Change} {s : Scene Rehearsal Change}
    {p : Play Rehearsal Change} (script : s.sequencer.script.Forces fun _ _ => False)
    (awaited : s.Within Change.Unforced)
    (distinct : (s.sequencer.store.subscriptions.map Subscription.ends).Nodup)
    (hp : plan.start simulator s = .ok p)
    (hq : ∀ step ∈ plan.steps, step.Within Change.Unforced) :
    (p.run simulator bound plan.steps).2.RoutesKept bound :=
  ((Plan.start_routed script awaited distinct hp).run bound hq).kept bound

/-- A port is connected, and the same route cannot be made again with other options. -/
theorem routes_kept_connected :
    let plan : Plan Change :=
      { opening := .adopt "me" .duplex false
        mode := .blocking
        steps := [.perform (.createPort "out" ⟨1⟩ ⟨0⟩), .perform (.port 0 (.connectTo ⟨20, 0⟩)),
          .perform (.subscribe ⟨128, 0⟩ ⟨20, 0⟩ { options := { exclusive := true } })] }
    let s : Scene Rehearsal Change := { sequencer := { store := Store.initial 128 } }
    ∃ p : Play Rehearsal Change, s.sequencer.script.Forces (fun _ _ => False) ∧
      s.Within Change.Unforced ∧ (s.sequencer.store.subscriptions.map Subscription.ends).Nodup ∧
      plan.start simulator s = .ok p ∧ (∀ step ∈ plan.steps, step.Within Change.Unforced) ∧
      let q := (p.run simulator 1 plan.steps).2
      q.RoutesKept 1 ∧ q.routes = [⟨⟨128, 0⟩, ⟨20, 0⟩, {}⟩] := by
  intro plan s
  have script : s.sequencer.script.Forces fun _ _ => False := by simp [s, Script.Forces]
  have awaited : s.Within Change.Unforced := fun i member => by cases member
  have distinct : (s.sequencer.store.subscriptions.map Subscription.ends).Nodup := List.nodup_nil
  have unforced : ∀ step ∈ plan.steps, step.Within Change.Unforced := by simp [plan, Step.Within]
  have left : (plan.start simulator s).toOption.map
      (fun p => (p.run simulator 1 plan.steps).2.routes) =
      some [⟨⟨128, 0⟩, ⟨20, 0⟩, {}⟩] := by
    simp only [plan, s]
    rfl
  cases started : plan.start simulator s with
  | error t =>
    rw [started] at left
    cases left
  | ok p =>
    rw [started] at left
    exact ⟨p, script, awaited, distinct, rfl, unforced,
      routes_kept 1 script awaited distinct started unforced, Option.some.inj left⟩

end MidiSequencer
