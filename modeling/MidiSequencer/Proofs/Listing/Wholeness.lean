import MidiSequencer.Proofs.Listing.Breaking
import MidiSequencer.Proofs.Listing.Trials

/-! # Whole listings

A listing is all or nothing. It asks for the clients one after the other, and behind each that is
not skipped for its ports; a search that fails is the last one and the outcome is its error. -/
namespace MidiSequencer

/-! A course on which nothing fails lists something. -/

section

variable {h : Call.History} {n : Int} (unbroken : ∀ x ∈ h, ∀ status, ¬ x.Breaks status)
include unbroken

theorem PortCourse.whole {client : Int} {ports : Except Error (List PortInfo)}
    (course : PortCourse client n h ports) : ∃ found, ports = .ok found := by
  induction course with
  | ended n => exact ⟨[], rfl⟩
  | failed n s negative other =>
    exact absurd ⟨rfl, ⟨negative, nofun, rfl⟩, other⟩ (unbroken _ List.mem_cons_self s)
  | found n p rest ih =>
    obtain ⟨found, rfl⟩ := ih fun x hx => unbroken x (List.mem_cons_of_mem _ hx)
    exact ⟨p :: found, rfl⟩

theorem ListingCourse.whole {f : PortFilter} {listed : Except Error (List PortInfo)}
    (course : ListingCourse f n h listed) : ∃ found, listed = .ok found := by
  induction course with
  | ended n => exact ⟨[], rfl⟩
  | failed n s negative other =>
    exact absurd ⟨rfl, ⟨negative, nofun, rfl⟩, other⟩ (unbroken _ List.mem_cons_self s)
  | skipped n c refused rest ih => exact ih fun x hx => unbroken x (List.mem_cons_of_mem _ hx)
  | visited n c accepted visit rest ih =>
    obtain ⟨found, rfl⟩ := ih fun x hx =>
      unbroken x (List.mem_cons_of_mem _ (List.mem_append_right _ hx))
    exact ⟨_, rfl⟩
  | broken n c accepted visit =>
    obtain ⟨found, broke⟩ := visit.whole fun x hx => unbroken x (List.mem_cons_of_mem _ hx)
    cases broke

end

namespace Play

variable {σ χ : Type}

/-- The listing makes the calls of a course and answers what comes of it: where no search fails,
everything that was found on the way, in order. -/
def TakesCourse (m : Simulator σ χ) (bound : Nat) (p : Play (σ × Call.History) χ) (l : Listing)
    (f : PortFilter) : Prop :=
  let r := p.perform m.recorded bound (l.operation f)
  ∃ h listed, ListingCourse f (-1) h listed ∧
    r.2.scene.sequencer.2 = p.scene.sequencer.2 ++ h ∧
    r.1 = some (.ofExcept .listing (listed.map (l.arrange f))) ∧
    ((∀ x ∈ h, ∀ status, ¬ x.Breaks status) → ∃ found, listed = .ok found)

theorem takesCourse_of_tried {m : Simulator σ χ} {I : Scene (σ × Call.History) χ → Prop}
    {store : Store} (hs : Tried (Scene.answer m.recorded) I (fun s => s.sequencer.2) store)
    {p : Play (σ × Call.History) χ} (hp : I p.scene) (hc : p.session.connection.isOpen = true)
    {bound : Nat} (clients : store.clients.length < bound) (ports : store.ports.length < bound)
    (l : Listing) (f : PortFilter) : p.TakesCourse m bound l f := by
  obtain ⟨h, listed, ended, -, logged, course⟩ :=
    Connection.achieves_allPorts hs hc f clients ports p.scene hp
  have runs : (p.session.arranged f bound (l.arrange f)).run (Scene.answer m.recorded) p.scene =
      (some (.ofExcept .listing (listed.map (l.arrange f)), p.session),
        ((p.session.connection.allPorts f bound).run.run (Scene.answer m.recorded) p.scene).2) := by
    rw [Session.arranged, Program.run_bind, ← Prod.eta (Program.run _ _ p.scene), ended]
    rfl
  refine ⟨h, listed, course, ?_, ?_, fun unbroken => course.whole unbroken⟩
  · rw [perform_scene, l.perform_operation, runs]
    exact logged
  · rw [perform_eq, l.perform_operation, runs]
    rfl

/-- What a client needs for a listing that may break off: an open connection, a script that forces
failures only, and more steps than there are records. -/
structure CanTry (p : Play (Rehearsal × Call.History) Rehearsal.Change) (bound : Nat) : Prop where
  isOpen : p.session.connection.isOpen = true
  script : p.scene.sequencer.1.script.Forces Rehearsal.Failing
  clients : p.scene.sequencer.1.store.clients.length < bound
  ports : p.scene.sequencer.1.store.ports.length < bound

/-- The same without what the script forces on the call behind `k` others of a name. -/
def lift (p : Play (Rehearsal × Call.History) Rehearsal.Change) (name : String) (k : Nat) :
    Play (Rehearsal × Call.History) Rehearsal.Change :=
  { p with scene.sequencer.1.script := p.scene.sequencer.1.script.lift name k }

end Play

structure Native.CanTry (p : Play (Native.Rehearsal × Call.History) Native.Rehearsal.Change)
    (bound : Nat) : Prop where
  isOpen : p.session.connection.isOpen = true
  script : p.scene.sequencer.1.tables.script.Forces Rehearsal.Failing
  clients : p.scene.sequencer.1.tables.kernel.clients.length < bound
  ports : p.scene.sequencer.1.tables.kernel.ports.length < bound

structure ListingWhole : Prop where
  /-- For all tables, with whatever failures are forced, the calls of a listing are those of a
  course through the clients, and of courses through the ports of those that are not skipped. -/
  course (bound : Nat) (p : Play (Rehearsal × Call.History) Rehearsal.Change) (l : Listing)
    (f : PortFilter) : p.CanTry bound → p.TakesCourse Rehearsal.simulator bound l f
  served (bound : Nat) (p : Play (Native.Rehearsal × Call.History) Native.Rehearsal.Change)
    (l : Listing) (f : PortFilter) : Native.CanTry p bound →
    p.TakesCourse Native.Rehearsal.simulator bound l f
  broken {σ χ : Type} (m : Simulator σ χ) (bound : Nat) (p : Play (σ × Call.History) χ)
    (l : Listing) (f : PortFilter) (before after : Call.History)
    (x : Program.Exchange Call Call.Answer) (status : Status) :
    let r := p.perform m.recorded bound (l.operation f)
    r.2.scene.sequencer.2 = p.scene.sequencer.2 ++ (before ++ x :: after) → x.Breaks status →
    after = [] ∧ r.1 = some (.error (.service x.question.label status))
  /-- A failure that breaks a listing off was forced. Without it the same calls are made, with the
  same answers, up to the one that failed, which the store then answers. -/
  lifted (bound : Nat) (p : Play (Rehearsal × Call.History) Rehearsal.Change) (l : Listing)
    (f : PortFilter) (before after : Call.History) (x : Program.Exchange Call Call.Answer)
    (status : Status) :
    let r := p.perform Rehearsal.simulator.recorded bound (l.operation f)
    r.2.scene.sequencer.2 = p.scene.sequencer.2 ++ (before ++ x :: after) → x.Breaks status →
    let k := Call.named before x.question.name
    let r' := (p.lift x.question.name k).perform Rehearsal.simulator.recorded bound (l.operation f)
    p.scene.sequencer.1.script.forcedAt x.question.name k = some status ∧
      ∃ after', r'.2.scene.sequencer.2 = p.scene.sequencer.2 ++
        (before ++ ⟨x.question, (p.scene.sequencer.1.store.answer x.question).1⟩ :: after')
  /-- Filters that skip the same clients ask the same, leave the same behind and fail alike,
  whatever ports they accept and in whatever order. -/
  independent {σ χ : Type} (m : Simulator σ χ) (bound : Nat) (p : Play σ χ) (l l' : Listing)
    (f g : PortFilter) : f.includeSystem = g.includeSystem →
    f.includeMidiThrough = g.includeMidiThrough →
    let r := p.perform m bound (l.operation f)
    let r' := p.perform m bound (l'.operation g)
    r.2 = r'.2 ∧ ∀ e, r.1 = some (.error e) ↔ r'.1 = some (.error e)
  /-- A command that lists prints nothing where a search fails, but reports its error, and all that
  it calls then is the release of the sequencer. -/
  command {σ χ : Type} (m : Simulator σ χ) (i : Cli.Invocation) (bound : Nat)
    (s : Scene (σ × Call.History) χ) (before after : Call.History)
    (x : Program.Exchange Call Call.Answer) (status : Status) : i.task.Lists →
    let r := (i.perform bound).run (Scene.answer m.recorded) s
    r.2.sequencer.2 = s.sequencer.2 ++ (before ++ x :: after) → x.Breaks status →
    (∀ y ∈ after, y.question = .release) ∧ ∃ report, r.1 = some report ∧ report.output = "" ∧
      report.failure = some (.failed (.service x.question.label status))

/-- No listing is cut short by a failure. -/
theorem listing_whole : ListingWhole where
  course bound p l f := by
    intro hp
    exact Play.takesCourse_of_tried (Rehearsal.tried p.scene.sequencer.1.store)
      ⟨rfl, hp.script⟩ hp.isOpen hp.clients hp.ports l f
  served bound p l f := by
    intro hp
    refine Play.takesCourse_of_tried
      (Native.Rehearsal.tried p.scene.sequencer.1.tables.kernel.store) ⟨rfl, hp.script⟩ hp.isOpen
      ?_ ?_ l f
    · simpa [Native.Kernel.store] using hp.clients
    · simpa [Native.Kernel.store] using hp.ports
  broken m bound p l f before after x status := by
    intro r made breaks
    exact Play.perform_breaks m made breaks
  lifted bound p l f before after x status := by
    intro r made breaks k r'
    have asks : (p.session.arranged f bound (l.arrange f)).Meets Request.Searches fun _ => True :=
      (p.session.connection.alike_allPorts (fun _ => rfl) bound).meets.bind fun _ _ => trivial
    have performed (q : Play (Rehearsal × Call.History) Rehearsal.Change)
        (session : q.session = p.session) :
        (q.perform Rehearsal.simulator.recorded bound (l.operation f)).2.scene =
          ((p.session.arranged f bound (l.arrange f)).run
            (Scene.answer Rehearsal.simulator.recorded) q.scene).2 := by
      rw [Play.perform_scene, session, l.perform_operation]
    have apart : Rehearsal.Apart x.question.name k p.scene (p.lift x.question.name k).scene :=
      ⟨Rehearsal.lifted_lift p.scene.sequencer.1 x.question.name k, rfl⟩
    obtain ⟨forced, after', made'⟩ := Rehearsal.run_apart asks apart (performed p rfl ▸ made)
      breaks.fails breaks.other
    have lifted := performed (p.lift x.question.name k) rfl
    exact ⟨forced, after', (congrArg (·.sequencer.2) lifted).trans made'⟩
  independent m bound p l l' f g := by
    intro system through
    exact p.perform_alike m bound (PortFilter.acceptsClient_congr system through) l l'
  command m i bound s before after x status := by
    intro lists r made breaks
    obtain ⟨closes, reported⟩ := Cli.run_breaks m lists made breaks
    exact ⟨closes, _, reported, rfl, rfl⟩

/-- The second search for a client fails, after a client that is skipped; so does the first one of a
command. -/
theorem listing_whole_broken :
    let system : ClientInfo := { clientId := 0, name := "System" }
    let store : Store :=
      { clientId := 128, clients := [system, { clientId := 20, name := "Keys" }]
        ports := [{ clientId := 20, portId := 0, capability := .readPort }] }
    let script : Script := ⟨[("query_next_client", [none, some (-5)])]⟩
    let kernel : Native.Kernel := { clients := [{ client := 20 }] }
    let session : Session := { mode := .blocking, connection := { clientId := 128 } }
    let p : Play (Rehearsal × Call.History) Rehearsal.Change :=
      { session, scene := { sequencer := ({ store, script }, []) } }
    let q : Play (Native.Rehearsal × Call.History) Native.Rehearsal.Change :=
      { session, scene := { sequencer :=
          ({ tables := { kernel, script := ⟨[("snd_seq_query_next_port", [some (-5)])]⟩ } }, []) } }
    let f : PortFilter := {}
    let g : PortFilter := { input := true, onlyConnectable := false, sort := false }
    let asked : Call.History := [⟨.nextClient (-1), .ok system⟩]
    let x : Program.Exchange Call Call.Answer := ⟨.nextClient 0, .error (-5)⟩
    let error : Error := .service x.question.label (-5)
    let r (f : PortFilter) :=
      p.perform Rehearsal.simulator.recorded 3 (Listing.byFilter.operation f)
    let s : Scene (Rehearsal × Call.History) Rehearsal.Change :=
      { sequencer := ({ store := .initial 128, script }, []) }
    let i : Cli.Invocation := { task := .clients false }
    let opening : Call.History :=
      [⟨.command (.openSequencer "default" .duplex 1), (0 : Int)⟩,
        ⟨.command (.setClientName "aseq"), (0 : Int)⟩, ⟨.command .clientId, (128 : Int)⟩,
        ⟨.pollDescriptors, .ok [Streams.duplex.interest]⟩,
        ⟨.nextClient (-1), .ok { clientId := 0, name := "System", clientType := some .kernel }⟩]
    let t := (i.perform 4).run (Scene.answer Rehearsal.simulator.recorded) s
    (p.CanTry 3 ∧ Native.CanTry q 2 ∧ x.Breaks (-5) ∧ i.task.Lists ∧
        (r f).2.scene.sequencer.2 = p.scene.sequencer.2 ++ (asked ++ [x]) ∧
        t.2.sequencer.2 = s.sequencer.2 ++ (opening ++ x :: [⟨.release, ()⟩]) ∧
        f.includeSystem = g.includeSystem ∧ f.includeMidiThrough = g.includeMidiThrough) ∧
      p.TakesCourse Rehearsal.simulator 3 .byFilter f ∧
      q.TakesCourse Native.Rehearsal.simulator 2 .byFilter f ∧
      (r f).1 = some (.error error) ∧ (r g).1 = some (.error error) ∧
      (script.forcedAt x.question.name (Call.named asked x.question.name) = some (-5) ∧
        ∃ after, ((p.lift x.question.name (Call.named asked x.question.name)).perform
          Rehearsal.simulator.recorded 3 (Listing.byFilter.operation f)).2.scene.sequencer.2 =
            p.scene.sequencer.2 ++
              (asked ++ ⟨x.question, (p.scene.sequencer.1.store.answer x.question).1⟩ :: after)) ∧
      ∃ report, t.1 = some report ∧ report.output = "" ∧
        report.failure = some (.failed error) := by
  intro system store script kernel session p q f g asked x error r s i opening t
  have canTry : p.CanTry 3 :=
    { isOpen := rfl
      script := by simp [Script.Forces, Rehearsal.Failing, p, script]
      clients := by decide
      ports := by decide }
  have canTry' : Native.CanTry q 2 :=
    { isOpen := rfl
      script := by simp [Script.Forces, Rehearsal.Failing, q]
      clients := by decide
      ports := by decide }
  have breaks : x.Breaks (-5) := ⟨rfl, ⟨by decide, nofun, rfl⟩, by decide⟩
  have lists : i.task.Lists := .inr ⟨_, rfl⟩
  have made : (r f).2.scene.sequencer.2 = p.scene.sequencer.2 ++ (asked ++ [x]) := by
    subst r p script
    rw [Play.perform_scene]
    exact rfl
  have called : t.2.sequencer.2 = s.sequencer.2 ++ (opening ++ x :: [⟨.release, ()⟩]) := by
    subst t i s script
    exact rfl
  have failed := (listing_whole.broken Rehearsal.simulator 3 p .byFilter f asked [] x (-5)
    made breaks).2
  have alike := (listing_whole.independent Rehearsal.simulator.recorded 3 p .byFilter .byFilter f g
    rfl rfl).2 error
  have unforced := listing_whole.lifted 3 p .byFilter f asked [] x (-5) made breaks
  have reported := (listing_whole.command Rehearsal.simulator i 4 s opening [⟨.release, ()⟩] x (-5)
    lists called breaks).2
  exact ⟨⟨canTry, canTry', breaks, lists, made, called, rfl, rfl⟩,
    listing_whole.course 3 p .byFilter f canTry, listing_whole.served 2 q .byFilter f canTry',
    failed, alike.1 failed, unforced, reported⟩

end MidiSequencer
