import MidiSequencer.Proofs.Opening.Decisions
import MidiSequencer.Proofs.Registry.Sessions

/-! # Port metadata is a map

Over every run on a sequencer in memory, from the opening to the end, a look-up answers what was
registered last under its key. -/
namespace MidiSequencer

open Registration Rehearsal

theorem Simulator.Passes.answered {σ χ : Type} {m : Simulator σ χ} {C : χ → Prop} {s t : σ}
    {h : Call.History} {x : Program.Exchange Call Call.Answer} (p : m.Passes C s h t)
    (hx : x ∈ h) : ∃ before u, m.Passes C s before u ∧ before ++ [x] <+: h ∧
      x.answer = (m.answer x.question u).1 := by
  induction p with
  | refl => cases hx
  | @call h t c before ih =>
    rcases List.mem_append.1 hx with hx | hx
    · obtain ⟨first, u, passes, front, answered⟩ := ih hx
      exact ⟨first, u, passes, front.trans (List.prefix_append _ _), answered⟩
    · rw [List.mem_singleton] at hx
      subst hx
      exact ⟨h, t, before, List.prefix_refl _, rfl⟩
  | change x allowed before ih => exact ih hx

/-! What the opening registers. -/

/-- A sequencer in memory before its client comes: nothing is forced, and of the ports, which have
different numbers, none is our own. -/
structure Scene.Prepared (s : Scene Rehearsal Change) : Prop where
  script : s.sequencer.script.Forces fun _ _ => False
  awaited : s.Within Change.Quiet
  ports : (s.sequencer.store.ports.map PortInfo.ids).Nodup
  foreign : ∀ p ∈ s.sequencer.store.ports, p.clientId ≠ s.sequencer.store.clientId
  nextPort : 0 ≤ s.sequencer.store.nextPort

theorem Scene.Prepared.orderly {s : Scene Rehearsal Change} (hs : s.Prepared) :
    s.sequencer.Orderly where
  script := hs.script
  tidy := ⟨hs.ports, hs.nextPort, fun p member ours => absurd ours (hs.foreign p member)⟩

def Opening.clientName : Opening → String
  | adopt clientName _ _ => clientName
  | establish config => config.clientName

/-- The calls of an opening that comes about: it registers the name, and is told its number. -/
structure Opening.Introduces (opening : Opening) (calls : Call.History) (c : Connection) :
    Prop where
  registers : Call.registrations calls = [.named opening.clientName]
  told : ⟨.command .clientId, c.clientId⟩ ∈ calls
  nonneg : 0 ≤ c.clientId

theorem Check.Decides.passed {α : Type} {front rest : List Check} {a b : α}
    {calls : Call.History} (decided : Decides front rest a calls (.ok b)) :
    b = a ∧ calls = (front ++ rest).flatMap asked ∧
      ∀ check ∈ front ++ rest, check.error = none := by
  cases decided with
  | passes passed => exact ⟨rfl, rfl, passed⟩

namespace Opening

variable {h : Dialogue.History} {c : Connection}

theorem introduces_of_passed {opening : Opening} {a : OpeningAnswers} {front : List Check}
    {calls : Call.History} {streams : Streams}
    (decided : Check.Decides front (a.taking opening.clientName streams) a.connection calls (.ok c))
    (silent : Call.registrations (front.flatMap Check.asked) = []) :
    opening.Introduces calls c := by
  obtain ⟨rfl, rfl, passed⟩ := decided.passed
  obtain ⟨-, named, nonneg, -⟩ :=
    (a.taking_passes_iff _ _).1 fun check hc => passed check (List.mem_append_right _ hc)
  have asked : (a.taking opening.clientName streams).flatMap Check.asked =
      [⟨.command (.setClientName opening.clientName), a.named⟩, ⟨.command .clientId, a.clientId⟩,
        ⟨.pollDescriptors, a.descriptors⟩] := rfl
  rw [List.flatMap_append, asked]
  constructor
  · rw [Call.registrations_append, silent, List.nil_append]
    simp [Call.registrations, Call.registration?, named]
  · exact List.mem_append_right _ (.tail _ (.head _))
  · exact nonneg

theorem introduces_adopt {clientName : String} {streams : Streams} {closedFirst : Bool}
    (ht : Program.Traces (Connection.adopt clientName streams).run h (some (.ok c))) :
    (adopt clientName streams closedFirst).Introduces (Dialogue.calls h) c := by
  obtain ⟨a, rfl, ho⟩ := Connection.traces_adopt_iff.1 ht
  rw [Dialogue.calls_requests]
  have decided : Check.Decides [] (a.taking clientName streams) a.connection
      (Check.calls [] (a.taking clientName streams)) (.ok c) :=
    Check.decides_iff.2 ⟨rfl, Option.some.inj ho⟩
  exact introduces_of_passed decided rfl

/-- A connection that is closed at once has been introduced all the same. -/
theorem Introduces.closing {opening : Opening} {calls : Call.History}
    (introduces : opening.Introduces calls c) {o : Option Connection}
    (ht : Program.Traces c.close h o) : o = some { c with isOpen := false } ∧
      opening.Introduces (calls ++ Dialogue.calls h) { c with isOpen := false } := by
  obtain ⟨ho, nothing⟩ := Session.closes_connection ht
  refine ⟨ho, ?_, List.mem_append_left _ introduces.told, introduces.nonneg⟩
  rw [Call.registrations_append, nothing, introduces.registers]
  rfl

theorem introduces {opening : Opening}
    (ht : Program.Traces opening.perform.run h (some (.ok c))) :
    opening.Introduces (Dialogue.calls h) c := by
  cases opening with
  | adopt clientName streams closedFirst =>
    unfold perform at ht
    rw [ExceptT.run_bind] at ht
    obtain ⟨h₁, x, h₂, rfl, ht₁, ht₂⟩ :=
      Program.traces_bind_of_ends (Connection.adopt_ends clientName streams) ht
    cases x with
    | error e => cases (Program.traces_done_iff.1 ht₂).2
    | ok taken =>
      have introduces : (adopt clientName streams closedFirst).Introduces _ taken :=
        introduces_adopt ht₁
      cases closedFirst with
      | false =>
        obtain ⟨rfl, hc⟩ := Program.traces_done_iff.1 ht₂
        cases hc
        rw [List.append_nil]
        exact introduces
      | true =>
        obtain ⟨h₃, closed, h₄, rfl, ht₃, ht₄⟩ :=
          Program.traces_bind_of_ends taken.does_close.ends ht₂
        obtain ⟨ho, after⟩ := introduces.closing ht₃
        obtain rfl := Option.some.inj ho
        obtain ⟨rfl, hc⟩ := Program.traces_done_iff.1 ht₄
        cases hc
        rw [List.append_nil, Dialogue.calls_append]
        exact after
  | establish config =>
    obtain ⟨a, rfl, ho⟩ := Connection.traces_establish_iff.1 ht
    rw [Dialogue.calls_requests]
    have decided : Check.Decides (a.front config) (a.taking config.clientName config.streams)
        a.connection (Check.calls (a.front config) (a.taking config.clientName config.streams))
        (.ok c) := Check.decides_iff.2 ⟨rfl, Option.some.inj ho⟩
    exact introduces_of_passed decided rfl

end Opening

theorem Rehearsal.Orderly.clientId {r t : Rehearsal} {h : Call.History} (hr : r.Orderly)
    (p : simulator.Passes Change.Quiet r h t) {id : Status}
    (told : ⟨.command .clientId, id⟩ ∈ h) : id = r.store.clientId := by
  obtain ⟨before, u, passes, -, answered⟩ := p.answered told
  obtain ⟨registers, orderly⟩ := hr.passes passes
  have answer : id = (u.store.answer (.command .clientId)).1 :=
    answered.trans (answer_unforced orderly.script _).1
  exact answer.trans registers.clientId

theorem Plan.begins {χ : Type} {plan : Plan χ} {h : Dialogue.History} {session : Session}
    (ht : Program.Traces plan.begin.run h (some (.ok session))) :
    session.ports = [] ∧ plan.opening.Introduces (Dialogue.calls h) session.connection := by
  unfold begin at ht
  rw [ExceptT.run_bind] at ht
  obtain ⟨h₁, x, h₂, rfl, ht₁, ht₂⟩ := Program.traces_bind_of_ends plan.opening.ends ht
  cases x with
  | error e => cases (Program.traces_done_iff.1 ht₂).2
  | ok c =>
    obtain ⟨rfl, hs⟩ := Program.traces_done_iff.1 ht₂
    unfold Session.start at hs
    split at hs
    · cases hs
    · cases hs
      rw [List.append_nil]
      exact ⟨rfl, Opening.introduces ht₁⟩

theorem Plan.start_tracks {plan : Plan Change} {s : Scene Rehearsal Change}
    {p : Play Rehearsal Change} (hs : s.Prepared) (hp : plan.start simulator s = .ok p) :
    p.Tracks s.sequencer.store [.named plan.opening.clientName] ∧
      0 ≤ s.sequencer.store.clientId := by
  obtain ⟨h, ht, passes, awaited⟩ := Dialogue.run_passes simulator plan.begin.run hs.awaited
  unfold Plan.start at hp
  rcases hr : plan.begin.run.run (Scene.answer simulator) s with ⟨_ | e | session, scene⟩
  · rw [hr] at hp
    cases hp
  · rw [hr] at hp
    cases hp
  · rw [hr] at hp ht passes awaited
    cases hp
    obtain ⟨ports, introduces⟩ := Plan.begins ht
    obtain ⟨registers, orderly⟩ := hs.orderly.passes passes
    have clientId := hs.orderly.clientId passes introduces.told
    have missing (slot : Nat) : session.port? slot = none := by simp [Session.port?, ports]
    refine ⟨⟨orderly, awaited, ?_, ?_⟩, clientId ▸ introduces.nonneg⟩
    · rw [← introduces.registers]
      refine mirrors_passes hs.orderly (Store.mirrors_start hs.foreign) passes ?_
      simp [introduces.registers]
    · constructor
      · exact clientId.trans registers.clientId.symm
      all_goals simp [missing]

/-! What a look-up answers. -/

theorem Address.toNat_lowByte {n : Int} (nonneg : 0 ≤ n) (fits : n ≤ 255) :
    ((lowByte n).toNat : Int) = n := by
  have same : n.emod 256 = n := Int.emod_eq_of_lt nonneg (by omega)
  unfold lowByte
  rw [same, UInt8.toNat_ofNat']
  omega

/-- An answer from the tables of ports: `notFound` is an error as any other status. -/
def Outcome.ofPort : Option PortInfo → Outcome
  | some info => .value (.port? (some info))
  | none => .error (.service "snd_seq_get_any_port_info" Status.notFound)

def Outcome.ofClient : Option ClientInfo → Outcome
  | some info => .value (.client? (some info))
  | none => .error (.service "snd_seq_get_any_client_info" Status.notFound)

theorem Store.ofExcept_portInfo (s : Store) (client port : Int) :
    Outcome.ofExcept (fun i => .port? (some i))
      (checkAnswer (.portInfo client port) (s.answer (.portInfo client port)).1) =
      .ofPort (s.port? client port) := by
  show Outcome.ofExcept _ (checkAnswer _ (find (isPort client port) s.ports)) = _
  unfold find port?
  cases s.ports.find? (isPort client port) <;> rfl

theorem Store.ofExcept_clientInfo (s : Store) (client : Int) :
    Outcome.ofExcept (fun i => .client? (some i))
      (checkAnswer (.clientInfo client) (s.answer (.clientInfo client)).1) =
      .ofClient (s.client? client) := by
  show Outcome.ofExcept _ (checkAnswer _ (find (·.clientId == client) s.clients)) = _
  unfold find client?
  cases s.clients.find? (·.clientId == client) <;> rfl

theorem Session.traces_asked {α : Type} {s : Session} {f : α → Value} {q : Call}
    {check : q.Answer → Except Error α} {h : Dialogue.History}
    {result : Option (Outcome × Session)}
    (ht : Program.Traces
      (s.report f (s.connection.call q >>= fun answer => liftM (check answer))) h result) :
    (s.connection.isOpen = false ∧ result = some (.error .closed, s)) ∨
    (s.connection.isOpen = true ∧ ∃ answer, Dialogue.calls h = [⟨q, answer⟩] ∧
      result = some (.ofExcept f (check answer), s)) := by
  unfold report Connection.call at ht
  cases isOpen : s.connection.isOpen with
  | false =>
    rw [isOpen] at ht
    exact .inl ⟨rfl, (Program.traces_done_iff.1 ht).2⟩
  | true =>
    rw [isOpen] at ht
    obtain ⟨answer, t, rfl, hd⟩ := Program.traces_ask_iff.1 ht
    obtain ⟨rfl, rfl⟩ := Program.traces_done_iff.1 hd
    exact .inr ⟨rfl, answer, rfl, rfl⟩

namespace Play

variable {start : Store} {regs : List Registration} {p : Play Rehearsal Change} {bound : Nat}
  {step : Step Change}

/-- What only asks for an entry of the tables answers that of the moment before. -/
theorem Tracks.asks (hp : p.Tracks start regs) (hs : step.Within Change.Quiet)
    {operation : Operation} (asked : step.Performs p.session operation) {α : Type} {f : α → Value}
    {q : Call} {check : q.Answer → Except Error α}
    (performed : p.session.perform bound operation = p.session.report f
      (p.session.connection.call q >>= fun answer => liftM (check answer)))
    (tabled : ∀ t : Store, t.clients = p.scene.sequencer.store.clients →
      t.ports = p.scene.sequencer.store.ports →
      (t.answer q).1 = (p.scene.sequencer.store.answer q).1) :
    (p.step simulator bound step).1 = some (if p.session.connection.isOpen
      then .ofExcept f (check (p.scene.sequencer.store.answer q).1) else .error .closed) := by
  obtain ⟨h, result, ht, outcome, -, passes⟩ :=
    step_performs simulator bound hp.awaited hs asked
  rw [performed] at ht
  rw [outcome]
  rcases Session.traces_asked ht with ⟨isOpen, rfl⟩ | ⟨isOpen, answer, calls, rfl⟩
  · rw [isOpen]
    rfl
  · rw [calls] at passes
    obtain ⟨before, u, passes, first, answered⟩ := passes.answered (.head _)
    have nothing : before = [] := by
      have length := first.length_le
      exact List.eq_nil_of_length_eq_zero (by simpa using length)
    rw [nothing] at passes
    obtain ⟨clients, ports⟩ := hp.orderly.passes_tables passes fun x hx => by cases hx
    obtain ⟨-, orderly⟩ := hp.orderly.passes passes
    have same : answer = (p.scene.sequencer.store.answer q).1 :=
      answered.trans ((answer_unforced orderly.script q).1.trans (tabled _ clients ports))
    rw [isOpen, same]
    rfl

theorem Tracks.asks_port (hp : p.Tracks start regs) (hs : step.Within Change.Quiet)
    {operation : Operation} (asked : step.Performs p.session operation) {client port : Int}
    (performed : p.session.perform bound operation = p.session.report (fun i => .port? (some i))
      (p.session.connection.call (.portInfo client port) >>= fun answer =>
        liftM (checkAnswer (.portInfo client port) answer))) :
    (p.step simulator bound step).1 = some (if p.session.connection.isOpen
      then .ofPort (p.scene.sequencer.store.port? client port) else .error .closed) := by
  rw [← Store.ofExcept_portInfo]
  refine hp.asks hs asked performed fun t _ ports => ?_
  exact congrArg (Store.find _) ports

theorem Tracks.asks_client (hp : p.Tracks start regs) (hs : step.Within Change.Quiet)
    {operation : Operation} (asked : step.Performs p.session operation) {client : Int}
    (performed : p.session.perform bound operation =
      p.session.report (fun i => .client? (some i)) (p.session.connection.clientInfo client)) :
    (p.step simulator bound step).1 = some (if p.session.connection.isOpen
      then .ofClient (p.scene.sequencer.store.client? client) else .error .closed) := by
  rw [← Store.ofExcept_clientInfo]
  refine hp.asks hs asked performed fun t clients _ => ?_
  exact congrArg (Store.find _) clients

/-- What holds at any point of a run, where `regs` has been registered since the start. -/
structure Maps (start : Store) (regs : List Registration) (bound : Nat)
    (p : Play Rehearsal Change) : Prop where
  now : start.Mirrors regs p.scene.sequencer.store
  moments {step : Step Change} : step.Within Change.Quiet →
    let r := p.step simulator bound step
    ∃ calls, Call.registrations calls = step.registrations p.session r.1 ∧
      simulator.Throughout Change.Quiet p.scene.sequencer calls r.2.scene.sequencer
        fun before u => start.Mirrors (regs ++ Call.registrations before) u.store
  ended : ∃ calls, Call.registrations calls = p.session.deletions p.session.ports ∧
    simulator.Throughout Change.Quiet p.scene.sequencer calls (p.finish simulator).sequencer
      fun before u => start.Mirrors (regs ++ Call.registrations before) u.store
  /-- What fails, or does not end within the bound, changes nothing. -/
  unchanged {step : Step Change} : step.Within Change.Quiet →
    let r := p.step simulator bound step
    (∀ v, r.1 ≠ some (.value v)) →
    ∃ calls, simulator.Throughout Change.Quiet p.scene.sequencer calls r.2.scene.sequencer
      fun _ u => u.store.clients = p.scene.sequencer.store.clients ∧
        u.store.ports = p.scene.sequencer.store.ports
  lookup {step : Step Change} {ref : PortRef} : step.Within Change.Quiet →
    step.Performs p.session (.portInfo (.ref ref)) →
    let key := ref.ids start.clientId
    (p.step simulator bound step).1 = some (if p.session.connection.isOpen
      then .ofPort (p.scene.sequencer.store.port? key.1 key.2) else .error .closed)
  slot {step : Step Change} {slot : Nat} {port : Port} : step.Within Change.Quiet →
    step.Performs p.session (.portInfo (.slot slot)) → p.session.port? slot = some port →
    start.clientId ≤ 255 → port.id ≤ 255 →
    (p.step simulator bound step).1 = some (if p.session.connection.isOpen
      then .ofPort (p.scene.sequencer.store.port? start.clientId port.id) else .error .closed)
  /-- An open port is there, and answers for itself. -/
  info {step : Step Change} {slot : Nat} {port : Port} : step.Within Change.Quiet →
    step.Performs p.session (.port slot .info) → p.session.port? slot = some port →
    port.isClosed = false → p.session.connection.isOpen = true →
    start.clientId ≤ 255 → port.id ≤ 255 →
    ∃ found, p.scene.sequencer.store.port? start.clientId port.id = some found ∧
      (p.step simulator bound step).1 = some (.value (.port? (some found)))
  /-- Our own name is the one that was set last, and other clients are as at the start. -/
  ours {step : Step Change} : step.Within Change.Quiet →
    step.Performs p.session .ownClientInfo → p.session.connection.isOpen = true →
    ∃ c, start.client? start.clientId = some c ∧
      (p.step simulator bound step).1 =
        some (.value (.client? (some { c with name := lastName c.name regs })))
  client {step : Step Change} {client : Int} : step.Within Change.Quiet →
    step.Performs p.session (.clientInfo client) → client ≠ start.clientId →
    (p.step simulator bound step).1 = some (if p.session.connection.isOpen
      then .ofClient (start.client? client) else .error .closed)

theorem Tracks.ids (hp : p.Tracks start regs) (nonneg : 0 ≤ start.clientId) {slot : Nat}
    {port : Port} (held : p.session.port? slot = some port) (fits : start.clientId ≤ 255)
    (fits' : port.id ≤ 255) (ours : Int) :
    (PortRef.any port.address).ids ours = (start.clientId, port.id) := by
  obtain ⟨client, low, -⟩ := hp.owns.owned held
  rw [hp.mirrors.clientId] at client
  show (((Address.lowByte port.client).toNat : Int), ((Address.lowByte port.id).toNat : Int)) = _
  rw [client, Address.toNat_lowByte nonneg fits, Address.toNat_lowByte low fits']

theorem Tracks.looks_up (hp : p.Tracks start regs) (hs : step.Within Change.Quiet)
    {operation : Operation} (asked : step.Performs p.session operation) {ref : PortRef}
    (performed : p.session.perform bound operation =
      p.session.report (fun i => .port? (some i)) (p.session.connection.portInfo ref)) :
    let key := ref.ids start.clientId
    (p.step simulator bound step).1 = some (if p.session.connection.isOpen
      then .ofPort (p.scene.sequencer.store.port? key.1 key.2) else .error .closed) := by
  have clientId : p.session.connection.clientId = start.clientId :=
    hp.owns.clientId.trans hp.mirrors.clientId
  have looked : (p.step simulator bound step).1 = some (if p.session.connection.isOpen
      then .ofPort (p.scene.sequencer.store.port? (ref.ids p.session.connection.clientId).1
        (ref.ids p.session.connection.clientId).2) else .error .closed) :=
    hp.asks_port hs asked performed
  rw [clientId] at looked
  exact looked

theorem Tracks.maps (hp : p.Tracks start regs) (nonneg : 0 ≤ start.clientId)
    (named : ∃ name, .named name ∈ regs) : p.Maps start regs bound where
  now := hp.mirrors
  moments := hp.moments bound
  ended := hp.finish
  unchanged := hp.unchanged bound
  lookup hs asked := hp.looks_up hs asked rfl
  slot {step slot port} hs asked held fits fits' := by
    have performed : p.session.perform bound (.portInfo (.slot slot)) =
        p.session.report (fun i => .port? (some i))
          (p.session.connection.portInfo (.any port.address)) := by
      simp only [Session.perform, held]
      rfl
    have looked := hp.looks_up hs asked performed
    rw [hp.ids nonneg held fits fits'] at looked
    exact looked
  info {step slot port} hs asked held open_ isOpen fits fits' := by
    have performed : p.session.perform bound (.port slot .info) =
        p.session.report (fun i => .port? (some i))
          (p.session.connection.portInfo (.any port.address)) := by
      simp only [Session.perform, held]
      show p.session.report _ (port.info p.session.connection) = _
      unfold Port.info Port.checkOpen
      rw [open_]
      rfl
    have looked := hp.looks_up hs asked performed
    rw [hp.ids nonneg held fits fits', isOpen] at looked
    have isSome := hp.owns.found isOpen held open_
    rw [hp.mirrors.clientId] at isSome
    obtain ⟨found, there⟩ := Option.isSome_iff_exists.1 isSome
    simp only [there] at looked
    exact ⟨found, there, looked⟩
  ours {step} hs asked isOpen := by
    obtain ⟨c, there⟩ := Option.isSome_iff_exists.1 (hp.mirrors.known named)
    have answered : (p.step simulator bound step).1 = some (if p.session.connection.isOpen
        then .ofClient (p.scene.sequencer.store.client? p.session.connection.clientId)
        else .error .closed) := hp.asks_client hs asked rfl
    have clientId : p.session.connection.clientId = start.clientId :=
      hp.owns.clientId.trans hp.mirrors.clientId
    rw [clientId, isOpen, hp.mirrors.ours, there] at answered
    exact ⟨c, there, answered⟩
  client {step client} hs asked other := by
    rw [← hp.mirrors.client?_other other]
    exact hp.asks_client hs asked rfl

end Play

/-- Port metadata behaves as a map over every run, from the opening on. -/
theorem ports_mapped (bound : Nat) {plan : Plan Change} {s : Scene Rehearsal Change}
    {p : Play Rehearsal Change} (hs : s.Prepared) (hp : plan.start simulator s = .ok p)
    (hq : ∀ step ∈ plan.steps, step.Within Change.Quiet) :
    (p.run simulator bound plan.steps).2.Maps s.sequencer.store
      (.named plan.opening.clientName :: p.registrations simulator bound plan.steps) bound := by
  obtain ⟨tracks, nonneg⟩ := Plan.start_tracks hs hp
  exact (tracks.run bound hq).maps nonneg ⟨_, .head _⟩

/-- A client that was renamed leaves a port behind, which is deleted in the end. -/
theorem ports_mapped_renamed :
    let plan : Plan Change :=
      { opening := .adopt "me" .duplex false
        mode := .blocking
        steps := [.perform (.createPort "in" ⟨0x101⟩ ⟨0⟩), .perform (.setClientName "you")] }
    let s : Scene Rehearsal Change := { sequencer := { store := Store.initial 128 } }
    ∃ p : Play Rehearsal Change, s.Prepared ∧ plan.start simulator s = .ok p ∧
      (∀ step ∈ plan.steps, step.Within Change.Quiet) ∧
      let q := (p.run simulator 1 plan.steps).2
      let regs := p.registrations simulator 1 plan.steps
      regs = [.created 0 "in" ⟨0x101⟩ ⟨0⟩, .named "you"] ∧
      q.Maps s.sequencer.store (.named "me" :: regs) 1 ∧
      (q.scene.sequencer.store.client? 128).map ClientInfo.name = some "you" ∧
      q.scene.sequencer.store.port? 128 0 =
        some { clientId := 128, name := "in", capability := ⟨1⟩, midiChannels := 16 } ∧
      (q.finish simulator).sequencer.store.port? 128 0 = none := by
  intro plan s
  have prepared : s.Prepared :=
    { script := by simp [s, Script.Forces]
      awaited := fun i member => by cases member
      ports := by decide
      foreign := by simp [s, Store.initial]
      nextPort := Int.le_refl _ }
  have quiet : ∀ step ∈ plan.steps, step.Within Change.Quiet := by simp [plan, Step.Within]
  have registers : (plan.start simulator s).toOption.map
      (fun p => p.registrations simulator 1 plan.steps) =
      some [.created 0 "in" ⟨0x101⟩ ⟨0⟩, .named "you"] := by
    simp only [plan, s]
    rfl
  have leaves : (plan.start simulator s).toOption.map
      (fun p => (p.run simulator 1 plan.steps).2.session) =
      some ⟨.blocking, { clientId := 128 }, [some { id := 0, client := 128 }], []⟩ := by
    simp only [plan, s]
    rfl
  cases started : plan.start simulator s with
  | error t =>
    rw [started] at registers
    cases registers
  | ok p =>
    rw [started] at registers leaves
    have registered := Option.some.inj registers
    have left := Option.some.inj leaves
    have maps := ports_mapped 1 prepared started quiet
    obtain ⟨calls, deleted, ended⟩ := maps.ended
    have now := maps.now
    have behind := ended.behind
    simp only [registered] at now
    simp only [registered, deleted, left] at behind
    exact ⟨p, prepared, rfl, quiet, registered, maps, congrArg _ now.ours, now.own 0, behind.own 0⟩

end MidiSequencer
