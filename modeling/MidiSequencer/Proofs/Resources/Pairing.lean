import MidiSequencer.Proofs.Resources.Handles

/-! # Pairing of resources

The accounts of sessions, of commands and of native handles together. -/
namespace MidiSequencer

/-- For every simulator, whatever it answers and whatever else happens to it. -/
structure ResourcesPaired : Prop where
  sessions {σ χ : Type} (m : Simulator σ χ) (bound : Nat) (plan : Plan χ) (s : Scene σ χ) :
    match plan.start m.recorded s.recorded with
    | .ok p =>
      SessionPaired plan (p.run m.recorded bound plan.steps).1
        (p.run m.recorded bound plan.steps).2.scene.deeds
        ((p.run m.recorded bound plan.steps).2.finish m.recorded).deeds
    | .error t => SessionRefused plan t.deeds
  commands {σ χ : Type} (m : Simulator σ χ) (bound : Nat) (i : Cli.Invocation) (s : Scene σ χ)
    (report : Cli.Report) :
    let r := (i.perform bound).run (Scene.answer m.recorded) s.recorded
    r.1 = some report → Cli.CommandPaired i.config r.2.deeds
  sessionHandles {σ χ : Type} (m : Native.Library σ) (change : χ → σ → σ) (bound : Nat)
    (plan : Plan χ) (config : Config) (s : Scene σ χ) :
    let n := Native.Served.simulator (Machine.recorded m) (Native.unrecorded change)
    plan.opening = .establish config →
    match plan.start n (Native.Scene.served s) with
    | .ok p =>
      Native.ClosedOnce (Native.Scene.handling ((p.run n bound plan.steps).2.finish n))
    | .error t => Native.ClosedOnce (Native.Scene.handling t)
  commandHandles {σ χ : Type} (m : Native.Library σ) (change : χ → σ → σ) (bound : Nat)
    (i : Cli.Invocation) (s : Scene σ χ) (report : Cli.Report) :
    let n := Native.Served.simulator (Machine.recorded m) (Native.unrecorded change)
    let r := (i.perform bound).run (Scene.answer n) (Native.Scene.served s)
    r.1 = some report → Native.ClosedOnce (Native.Scene.handling r.2)

/-- Every port and queue is given back exactly once while the connection is open, and never after;
the sequencer is released exactly once, and last; so is a native handle. -/
theorem resource_pairing : ResourcesPaired where
  sessions m bound plan s := plan.session_paired m bound s
  commands m bound i s report hr := Cli.run_paired m i bound s report hr
  sessionHandles m change bound _ _ s hp := Native.session_handles m change bound hp s
  commandHandles m change bound i s report hr := Native.command_handles m change bound i s report hr

end MidiSequencer
