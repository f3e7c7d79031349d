import MidiSequencer.Proofs.Recording
import MidiSequencer.Proofs.Simulation.Scripts
import MidiSequencer.Proofs.Simulation.Stores

/-! # Tables in order

A sequencer in memory keeps its clients in the order of their numbers and its ports in that of
client and port number, whatever is called and whoever else acts. Numbers may stand there more than
once. -/
namespace MidiSequencer

namespace PortInfo

def ids (p : PortInfo) : Int × Int := (p.clientId, p.portId)

end PortInfo

namespace Store

def IdsLe (a b : Int × Int) : Prop :=
  a.1 < b.1 ∨ (a.1 = b.1 ∧ a.2 ≤ b.2)

structure Sorted (s : Store) : Prop where
  clients : s.clients.Pairwise fun a b => a.clientId ≤ b.clientId
  ports : s.ports.Pairwise fun a b => IdsLe a.ids b.ids

theorem portOrder_iff {a b : PortInfo} : portOrder a b = true ↔ IdsLe a.ids b.ids := by
  simp [portOrder, IdsLe, PortInfo.ids]

theorem initial_sorted (clientId : Int) : (initial clientId).Sorted := by
  constructor
  · simp [initial]
  · simp [initial, IdsLe, PortInfo.ids]

section

variable {α κ : Type} {key : α → κ} {R : κ → κ → Prop} {test : α → Bool} {f : α → α}
  {l l' : List α}

theorem map_updateFirst (hf : ∀ a, test a = true → key (f a) = key a)
    (h : updateFirst test f l = some l') : l'.map key = l.map key := by
  induction l generalizing l' with
  | nil => cases h
  | cons a rest ih =>
    unfold updateFirst at h
    split at h
    · next ht =>
      cases h
      simp [hf a ht]
    · obtain ⟨rest', hr, rfl⟩ := Option.map_eq_some_iff.1 h
      simp [ih hr]

theorem pairwise_updateFirst (hf : ∀ a, test a = true → key (f a) = key a)
    (sorted : l.Pairwise fun a b => R (key a) (key b)) (h : updateFirst test f l = some l') :
    l'.Pairwise fun a b => R (key a) (key b) := by
  rw [← List.pairwise_map, map_updateFirst hf h, List.pairwise_map]
  exact sorted

theorem removeAll_eq (h : removeAll test l = some l') :
    l' = l.filter (fun a => !test a) ∧ ∃ a ∈ l, test a = true := by
  unfold removeAll at h
  split at h
  · next there => exact ⟨(Option.some.inj h).symm, List.any_eq_true.1 there⟩
  · cases h

theorem pairwise_removeAll (sorted : l.Pairwise fun a b => R (key a) (key b))
    (h : removeAll test l = some l') : l'.Pairwise fun a b => R (key a) (key b) := by
  obtain ⟨rfl, -⟩ := removeAll_eq h
  exact sorted.filter _

end

variable {s : Store} (hs : s.Sorted)
include hs

theorem Sorted.addClient (c : ClientInfo) : (s.addClient c).Sorted where
  clients := by
    have trans (a b c : ClientInfo) (hab : clientOrder a b = true) (hbc : clientOrder b c = true) :
        clientOrder a c = true := by
      simp only [clientOrder, decide_eq_true_eq] at *
      omega
    have total (a b : ClientInfo) : (clientOrder a b || clientOrder b a) = true := by
      simp only [clientOrder, Bool.or_eq_true, decide_eq_true_eq]
      omega
    have sorted := List.pairwise_mergeSort trans total (s.clients ++ [c])
    exact sorted.imp of_decide_eq_true
  ports := hs.ports

theorem Sorted.addPort (p : PortInfo) : (s.addPort p).Sorted where
  clients := hs.clients
  ports := by
    have trans (a b c : PortInfo) (hab : portOrder a b = true) (hbc : portOrder b c = true) :
        portOrder a c = true := by
      simp only [portOrder_iff, IdsLe] at *
      omega
    have total (a b : PortInfo) : (portOrder a b || portOrder b a) = true := by
      simp only [Bool.or_eq_true, portOrder_iff, IdsLe]
      omega
    have sorted := List.pairwise_mergeSort trans total (s.ports ++ [p])
    exact sorted.imp portOrder_iff.1

theorem Sorted.setClientName (name : String) : (s.setClientName name).2.Sorted := by
  unfold Store.setClientName
  split
  · next clients hc =>
    have sorted : clients.Pairwise fun a b => a.clientId ≤ b.clientId :=
      pairwise_updateFirst (fun c test => by rfl) hs.clients hc
    exact ⟨sorted, hs.ports⟩
  · exact hs

theorem Sorted.setPortInfo (port : Int) (info : PortInfo) :
    (s.setPortInfo port info).2.Sorted := by
  simp only [Store.setPortInfo]
  split
  · next ports hp =>
    refine ⟨hs.clients, pairwise_updateFirst ?_ hs.ports hp⟩
    intro p test
    simp only [isPort, Bool.and_eq_true, beq_iff_eq] at test
    simp [PortInfo.ids, test]
  · exact hs

theorem Sorted.deletePort (port : Int) : (s.deletePort port).2.Sorted := by
  unfold Store.deletePort
  split
  · next ports hp => exact ⟨hs.clients, pairwise_removeAll hs.ports hp⟩
  · exact hs

theorem Sorted.of_leaves {t : Store} (same : s.Leaves t) : t.Sorted :=
  ⟨same.clients ▸ hs.clients, same.ports ▸ hs.ports⟩

theorem Sorted.send (record : Record) : (s.send record).2.Sorted := by
  obtain ⟨clients, ports⟩ := s.send_tables record
  exact ⟨clients ▸ hs.clients, ports ▸ hs.ports⟩

theorem Sorted.command (q : Command) : (s.command q).2.Sorted := by
  cases q with
  | setClientName name => exact hs.setClientName name
  | createPort name capability portType =>
    have next : Sorted { s with nextPort := s.nextPort + 1 } := ⟨hs.clients, hs.ports⟩
    exact next.addPort _
  | deletePort port => exact hs.deletePort port
  | setPortInfo port info => exact hs.setPortInfo port info
  | eventOutput record => exact hs.send record
  | eventOutputDirect record => exact hs.send record
  | _ => exact hs.of_leaves (s.command_leaves rfl rfl)

theorem Sorted.answer (c : Call) : (s.answer c).2.Sorted := by
  cases c with
  | command q => exact hs.command q
  | eventInput => exact hs.of_leaves s.takeInput_leaves
  | release => exact ⟨hs.clients, hs.ports⟩
  | _ => exact hs

theorem Sorted.foldl_addClient (clients : List ClientInfo) :
    (clients.foldl Store.addClient s).Sorted := by
  induction clients generalizing s with
  | nil => exact hs
  | cons c clients ih => exact ih (hs.addClient c)

theorem Sorted.foldl_addPort (ports : List PortInfo) : (ports.foldl Store.addPort s).Sorted := by
  induction ports generalizing s with
  | nil => exact hs
  | cons p ports ih => exact ih (hs.addPort p)

end Store

namespace Rehearsal

/-- The tables stay in order through every run. -/
theorem simulator_keeps_sorted : simulator.Keeps fun r => r.store.Sorted where
  answer c r hr := by
    obtain ⟨answers, -⟩ := Rehearsal.answers r.script.forces_true c
    cases answers with
    | forced status allowed answered store =>
      show Store.Sorted (r.answer c).2.store
      rw [store]
      exact hr
    | worked answered store =>
      show Store.Sorted (r.answer c).2.store
      rw [store]
      exact hr.answer c
  change x r hr := by
    cases x with
    | setup clients ports => exact (hr.foldl_addClient clients).foldl_addPort ports
    | removeClient client => exact ⟨hr.clients.filter _, hr.ports⟩
    | pushInput events => exact ⟨hr.clients, hr.ports⟩
    | block calls => exact ⟨hr.clients, hr.ports⟩
    | force rows => exact hr
    | clearLog => exact hr

end Rehearsal

end MidiSequencer
