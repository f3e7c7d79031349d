import MidiSequencer.Cli.Perform
import MidiSequencer.Proofs.Listing.Loosening
import MidiSequencer.Proofs.Listing.Served

/-! # Loosened listings

A listing by a looser filter has the ports of the other one in the same order, and so has the
command that lists ports when it is told to list them all. -/
namespace MidiSequencer.Cli

open Program (Yields yields_done)

namespace ListOptions

def lines (o : ListOptions) (ports : List PortInfo) : List String :=
  if o.json then [Text.Json.list (ports.map PortInfo.fields)] else ports.map PortInfo.line

theorem filter_loosens (o : ListOptions) :
    (filter { o with all := true }).Loosens (filter { o with all := false }) where
  input := rfl
  output := rfl
  sort := rfl
  portType place h := by simp [filter, Flags.HasBit] at h
  system _ := rfl
  through h := h
  noExport h := h
  connectable h := by cases h

theorem yields_perform {σ : Type} {m : Machine Request Request.Answer σ} {I : σ → Prop}
    {store : Store} (hs : Searched m I store) {c : Connection} (hc : c.isOpen = true) {bound : Nat}
    (clients : store.clients.length < bound) (ports : store.ports.length < bound)
    (o : ListOptions) : Yields m I (o.perform bound c)
      { lines := o.lines (o.filter.arrange (store.listed o.filter)) } := by
  have lists := Connection.yields_listPorts hs hc clients ports o.filter
  unfold perform reportLines
  rw [ExceptT.run_bind, bind_assoc]
  exact lists.bind (yields_done _)

end ListOptions

theorem run_withConnection {σ : Type} (m : Machine Request Request.Answer σ) (config : Config)
    (work : Connection → Dialogue Report) (s : σ) :
    ((withConnection config work).run m s).1 =
      match (Connection.establish config).run.run m s with
      | (some (.ok c), t) => ((work c).run m t).1
      | (some (.error e), _) => some (.failed (.opening config.sequencer e))
      | (none, _) => none := by
  have closed (c : Connection) (report : Report) (t : σ) :
      ((c.close >>= fun _ => pure report : Dialogue Report).run m t).1 = some report := by
    unfold Connection.close
    cases c.isOpen <;> rfl
  unfold withConnection
  rw [Program.run_bind]
  rcases (Connection.establish config).run.run m s with ⟨_ | e | c, t⟩
  · rfl
  · rfl
  · dsimp only
    rw [Program.run_bind]
    rcases (work c).run m t with ⟨_ | report, u⟩
    · rfl
    · exact closed c report u

/-- One report of a listing has ports that the other has, in the same order, or both failed
alike. -/
inductive Thinned (o : ListOptions) : Report → Report → Prop where
  | failed (f : Failure) : Thinned o (.failed f) (.failed f)
  | listed (fewer more : List PortInfo) (sub : fewer.Sublist more) :
      Thinned o { lines := o.lines fewer } { lines := o.lines more }

theorem Thinned.lines {o : ListOptions} {fewer more : Report} (h : Thinned o fewer more)
    (ho : o.json = false) : fewer.lines.Sublist more.lines := by
  cases h with
  | failed f => exact .refl _
  | listed fewer more sub =>
    simp only [ListOptions.lines, ho]
    exact sub.map PortInfo.line

def listReport {σ : Type} (m : Machine Request Request.Answer σ) (s : σ) (i : Invocation)
    (o : ListOptions) (bound : Nat) (all : Bool) : Option Report :=
  (({ i with task := .list { o with all } }.perform bound).run m s).1

theorem thinned_listReport {σ : Type} {m : Machine Request Request.Answer σ} {s : σ}
    (i : Invocation) (o : ListOptions)
    (opened : ∀ c t, (Connection.establish i.config).run.run m s = (some (.ok c), t) →
      ∃ I store, Searched m I store ∧ I t) :
    ∃ enough, ∀ bound, enough ≤ bound → ∃ fewer more, listReport m s i o bound false = some fewer ∧
      listReport m s i o bound true = some more ∧ Thinned o fewer more := by
  have reports (bound : Nat) (all : Bool) : listReport m s i o bound all =
      match (Connection.establish i.config).run.run m s with
      | (some (.ok c), t) => ((ListOptions.perform { o with all } bound c).run m t).1
      | (some (.error e), _) => some (.failed (.opening i.config.sequencer e))
      | (none, _) => none := run_withConnection m i.config _ s
  obtain ⟨h, ht⟩ := Program.exists_traces_run m (Connection.establish i.config).run s
  generalize (Connection.establish i.config).run.run m s = opening at ht opened reports
  rcases opening with ⟨_ | e | c, t⟩
  · exact absurd ht ((Opening.establish i.config).ends h)
  · exact ⟨0, fun bound _ => ⟨_, _, reports bound false, reports bound true, .failed _⟩⟩
  · obtain ⟨I, store, searched, shown⟩ := opened c t rfl
    refine ⟨store.clients.length + store.ports.length + 1, fun bound enough => ?_⟩
    have clients : store.clients.length < bound := by omega
    have ports : store.ports.length < bound := by omega
    have listed (all : Bool) := (ListOptions.yields_perform searched
      (Connection.isOpen_of_establish ht) clients ports { o with all } t shown).1
    have thinned := o.filter_loosens.arrange_filter
      (ListOptions.filter { o with all := false }).passes
      (store.listed (ListOptions.filter { o with all := true }))
    rw [← Store.listed_eq_filter o.filter_loosens] at thinned
    refine ⟨_, _, (reports bound false).trans (listed false),
      (reports bound true).trans (listed true), .listed _ _ ?_⟩
    rw [thinned]
    exact List.filter_sublist

end MidiSequencer.Cli

namespace MidiSequencer

/-- Both are listings. The ports of the first one stand in the other in the same order, and they are
those that `f` admits. -/
def Narrowed (f : PortFilter) (o o' : Option Outcome) : Prop :=
  ∃ fewer more, o = some (.value (.listing fewer)) ∧ o' = some (.value (.listing more)) ∧
    fewer.Sublist more ∧ ∀ q, q ∈ fewer ↔ q ∈ more ∧ f.Admits (PortFilter.clientOf q) q

theorem Play.narrowed_of_searched {σ χ : Type} {m : Simulator σ χ} {I : Scene σ χ → Prop}
    {store : Store} (hs : Searched (Scene.answer m) I store) {p : Play σ χ} (hp : I p.scene)
    (hc : p.session.connection.isOpen = true) {bound : Nat}
    (clients : store.clients.length < bound) (ports : store.ports.length < bound)
    {f g : PortFilter} (hg : g.Loosens f) :
    Narrowed f (p.perform m bound (.listPorts f)).1 (p.perform m bound (.listPorts g)).1 := by
  have listing (f : PortFilter) :=
    (Play.perform_listPorts_of_searched hs hp hc clients ports f).1
  have thinned := hg.arrange_filter f.passes (store.listed g)
  rw [← Store.listed_eq_filter hg] at thinned
  refine ⟨_, _, listing f, listing g, ?_, fun q => ?_⟩
  · rw [thinned]
    exact List.filter_sublist
  · rw [thinned, List.mem_filter, PortFilter.passes_iff]

/-- A connection is opened before anything is searched, and this forces nothing. -/
theorem Rehearsal.searched_after {α : Type} (d : Dialogue α) {s : Scene Rehearsal Change}
    (script : s.sequencer.script.Forces Searchable) (within : s.Within (Change.Forces Searchable)) :
    let t := (d.run (Scene.answer simulator) s).2
    ∃ I store, Searched (Scene.answer simulator) I store ∧ I t := by
  intro t
  obtain ⟨h, -, passes, -⟩ := Dialogue.run_passes simulator d within
  exact ⟨_, _, searched t.sequencer.store, rfl, passes_forces passes script⟩

theorem Native.Rehearsal.searched_after {α : Type} (d : Dialogue α) {s : Scene Rehearsal Change}
    (script : s.sequencer.tables.script.Forces Searchable)
    (within : s.Within (Change.Forces Searchable)) :
    let t := (d.run (Scene.answer simulator) s).2
    ∃ I store, Searched (Scene.answer simulator) I store ∧ I t := by
  intro t
  obtain ⟨h, -, passes, -⟩ := Dialogue.run_passes simulator d within
  exact ⟨_, _, searched t.sequencer.tables.kernel.store, rfl, passes_forces passes script⟩

structure Native.CanList (p : Play Native.Rehearsal Native.Rehearsal.Change) (bound : Nat) :
    Prop where
  isOpen : p.session.connection.isOpen = true
  script : p.scene.sequencer.tables.script.Forces Native.Searchable
  clients : p.scene.sequencer.tables.kernel.clients.length < bound
  ports : p.scene.sequencer.tables.kernel.ports.length < bound

/-- The command that lists ports reports the same lines in the same order, whether or not it is told
to list all ports, with others in between if it is; for JSON this is so of the records. -/
def Cli.ListsMore {σ : Type} (m : Machine Request Request.Answer σ) (s : σ) (i : Invocation)
    (o : ListOptions) : Prop :=
  ∃ enough, ∀ bound, enough ≤ bound → ∃ fewer more, listReport m s i o bound false = some fewer ∧
    listReport m s i o bound true = some more ∧ Thinned o fewer more ∧
    (o.json = false → fewer.lines.Sublist more.lines)

theorem Cli.listsMore_of_searched {σ : Type} {m : Machine Request Request.Answer σ} {s : σ}
    (i : Invocation) (o : ListOptions)
    (searched : let t := ((Connection.establish i.config).run.run m s).2
      ∃ I store, Searched m I store ∧ I t) : ListsMore m s i o := by
  obtain ⟨enough, reports⟩ := thinned_listReport i o fun c t opened => by
    rwa [opened] at searched
  refine ⟨enough, fun bound hb => ?_⟩
  obtain ⟨fewer, more, first, second, thinned⟩ := reports bound hb
  exact ⟨fewer, more, first, second, thinned, thinned.lines⟩

/-- What holds of filters of which one demands less, for every sequencer in memory. -/
structure ListingLoosened : Prop where
  listing (bound : Nat) (p : Play Rehearsal Rehearsal.Change) (f g : PortFilter) :
    p.CanList bound → g.Loosens f →
    Narrowed f (p.perform Rehearsal.simulator bound (.listPorts f)).1
      (p.perform Rehearsal.simulator bound (.listPorts g)).1
  served (bound : Nat) (p : Play Native.Rehearsal Native.Rehearsal.Change) (f g : PortFilter) :
    Native.CanList p bound → g.Loosens f →
    Narrowed f (p.perform Native.Rehearsal.simulator bound (.listPorts f)).1
      (p.perform Native.Rehearsal.simulator bound (.listPorts g)).1
  /-- What the command prints is a part of what it prints when it lists all ports. -/
  command (i : Cli.Invocation) (o : Cli.ListOptions) (s : Scene Rehearsal Rehearsal.Change) :
    s.sequencer.script.Forces Rehearsal.Searchable →
    s.Within (Rehearsal.Change.Forces Rehearsal.Searchable) →
    Cli.ListsMore (Scene.answer Rehearsal.simulator) s i o
  servedCommand (i : Cli.Invocation) (o : Cli.ListOptions)
    (s : Scene Native.Rehearsal Native.Rehearsal.Change) :
    s.sequencer.tables.script.Forces Native.Searchable →
    s.Within (Native.Rehearsal.Change.Forces Native.Searchable) →
    Cli.ListsMore (Scene.answer Native.Rehearsal.simulator) s i o

/-- To loosen a filter neither loses nor reorders ports. -/
theorem listing_loosened : ListingLoosened where
  listing bound p f g := by
    intro hp hg
    exact Play.narrowed_of_searched (Rehearsal.searched p.scene.sequencer.store) ⟨rfl, hp.script⟩
      hp.isOpen hp.clients hp.ports hg
  served bound p f g := by
    intro hp hg
    refine Play.narrowed_of_searched
      (Native.Rehearsal.searched p.scene.sequencer.tables.kernel.store) ⟨rfl, hp.script⟩
      hp.isOpen ?_ ?_ hg
    · simpa [Native.Kernel.store] using hp.clients
    · simpa [Native.Kernel.store] using hp.ports
  command i o s := by
    intro script within
    exact Cli.listsMore_of_searched i o (Rehearsal.searched_after _ script within)
  servedCommand i o s := by
    intro script within
    exact Cli.listsMore_of_searched i o (Native.Rehearsal.searched_after _ script within)

/-- A port that can be connected and one that cannot, in a store and in native tables: the looser
filter lists both. -/
theorem listing_loosened_closed :
    let store : Store :=
      { clientId := 128
        clients := [{ clientId := 20, name := "Synth" }]
        ports := [{ clientId := 20, portId := 0, capability := .readPort, portType := ⟨0x2⟩ },
          { clientId := 20, portId := 1, capability := .read, portType := ⟨0x2⟩ }] }
    let kernel : Native.Kernel :=
      { clients := [{ client := 20 }]
        ports := [{ client := 20, port := 1, capability := 0x1, type := 0x2 },
          { client := 20, port := 0, capability := 0x21, type := 0x2 }] }
    let session : Session := { mode := .blocking, connection := { clientId := 128 } }
    let p : Play Rehearsal Rehearsal.Change := { session, scene := { sequencer := { store } } }
    let q : Play Native.Rehearsal Native.Rehearsal.Change :=
      { session, scene := { sequencer := { tables := { kernel } } } }
    let f : PortFilter := {}
    let g : PortFilter := { onlyConnectable := false }
    let i : Cli.Invocation := { task := .list {} }
    (p.CanList 3 ∧ Native.CanList q 3 ∧ g.Loosens f) ∧
      Narrowed f (p.perform Rehearsal.simulator 3 (.listPorts f)).1
        (p.perform Rehearsal.simulator 3 (.listPorts g)).1 ∧
      Narrowed f (q.perform Native.Rehearsal.simulator 3 (.listPorts f)).1
        (q.perform Native.Rehearsal.simulator 3 (.listPorts g)).1 ∧
      Cli.ListsMore (Scene.answer Rehearsal.simulator) p.scene i {} ∧
      Cli.ListsMore (Scene.answer Native.Rehearsal.simulator) q.scene i {} := by
  intro store kernel session p q f g i
  have canList : p.CanList 3 :=
    { isOpen := rfl
      script := fun row member => by cases member
      clients := by decide
      ports := by decide }
  have canList' : Native.CanList q 3 :=
    { isOpen := rfl
      script := fun row member => by cases member
      clients := by decide
      ports := by decide }
  have loosens : g.Loosens f :=
    { input := rfl
      output := rfl
      sort := rfl
      portType := fun _ h => h
      system := fun h => h
      through := fun h => h
      noExport := fun h => h
      connectable := fun h => by cases h }
  have quiet : p.scene.Within (Rehearsal.Change.Forces Rehearsal.Searchable) :=
    fun j member => by cases member
  have quiet' : q.scene.Within (Native.Rehearsal.Change.Forces Native.Searchable) :=
    fun j member => by cases member
  exact ⟨⟨canList, canList', loosens⟩, listing_loosened.listing 3 p f g canList loosens,
    listing_loosened.served 3 q f g canList' loosens,
    listing_loosened.command i {} p.scene canList.script quiet,
    listing_loosened.servedCommand i {} q.scene canList'.script quiet'⟩

/-- The port that cannot be connected is listed in between. -/
example :
    let port (portId : Int) (capability : PortCapabilities) (portType : UInt32) : PortInfo :=
      { clientId := 20, portId, capability, portType := ⟨portType⟩ }
    let store : Store :=
      { clientId := 128
        clients := [{ clientId := 20, name := "Synth" }]
        ports := [port 0 .readPort 0x2, port 1 .read 0x10002, port 2 .readPort 0x20002] }
    let listed (f : PortFilter) := (f.arrange (store.listed f)).map PortInfo.portId
    listed {} = [2, 0] ∧ listed { onlyConnectable := false } = [1, 2, 0] := by
  cbv

end MidiSequencer
