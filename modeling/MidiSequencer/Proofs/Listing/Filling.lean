import Mathlib.Data.List.Nodup
import MidiSequencer.Proofs.Listing.Tables

/-! # Filling the tables

Clients and ports with numbers of their own may be added in any order: the tables are the same in
the end. -/
namespace MidiSequencer

namespace Store

def withTables (s : Store) (clients : List ClientInfo) (ports : List PortInfo) : Store :=
  { s with clients, ports }

abbrev Added := List ClientInfo × List PortInfo

def add (s : Store) (x : Added) : Store :=
  x.2.foldl addPort (x.1.foldl addClient s)

variable {s : Store}

theorem foldl_addClient_eq (clients : List ClientInfo) :
    ∃ cs, clients.foldl addClient s = s.withTables cs s.ports ∧
      cs.Perm (s.clients ++ clients) := by
  induction clients generalizing s with
  | nil => exact ⟨s.clients, rfl, by simp⟩
  | cons c clients ih =>
    obtain ⟨cs, eq, perm⟩ := ih (s := s.addClient c)
    refine ⟨cs, eq, perm.trans ?_⟩
    rw [List.append_cons]
    exact (List.mergeSort_perm _ _).append_right clients

theorem foldl_addPort_eq (ports : List PortInfo) :
    ∃ ps, ports.foldl addPort s = s.withTables s.clients ps ∧ ps.Perm (s.ports ++ ports) := by
  induction ports generalizing s with
  | nil => exact ⟨s.ports, rfl, by simp⟩
  | cons p ports ih =>
    obtain ⟨ps, eq, perm⟩ := ih (s := s.addPort p)
    refine ⟨ps, eq, perm.trans ?_⟩
    rw [List.append_cons]
    exact (List.mergeSort_perm _ _).append_right ports

theorem foldl_add_eq (added : List Added) : ∃ cs ps, added.foldl add s = s.withTables cs ps ∧
    cs.Perm (s.clients ++ added.flatMap Prod.fst) ∧
    ps.Perm (s.ports ++ added.flatMap Prod.snd) := by
  induction added generalizing s with
  | nil => exact ⟨s.clients, s.ports, rfl, by simp, by simp⟩
  | cons x added ih =>
    obtain ⟨cs₁, first, clients₁⟩ := foldl_addClient_eq (s := s) x.1
    obtain ⟨ps₁, second, ports₁⟩ := foldl_addPort_eq (s := s.withTables cs₁ s.ports) x.2
    obtain ⟨cs, ps, rest, clients, ports⟩ := ih (s := s.withTables cs₁ ps₁)
    refine ⟨cs, ps, ?_, ?_, ?_⟩
    · rw [List.foldl_cons, add, first, second]
      exact rest
    · rw [List.flatMap_cons, ← List.append_assoc]
      exact clients.trans (clients₁.append_right _)
    · rw [List.flatMap_cons, ← List.append_assoc]
      exact ports.trans (ports₁.append_right _)

theorem Sorted.foldl_add (hs : s.Sorted) (added : List Added) : (added.foldl add s).Sorted := by
  induction added generalizing s with
  | nil => exact hs
  | cons x added ih => exact ih ((hs.foldl_addClient x.1).foldl_addPort x.2)

/-- In whatever order entries with numbers of their own are added, the tables are the same. -/
theorem foldl_add_congr (hs : s.Sorted) {added added' : List Added}
    (clients : (added.flatMap Prod.fst).Perm (added'.flatMap Prod.fst))
    (ports : (added.flatMap Prod.snd).Perm (added'.flatMap Prod.snd))
    (clientsApart : ((s.clients ++ added.flatMap Prod.fst).map ClientInfo.clientId).Nodup)
    (portsApart : ((s.ports ++ added.flatMap Prod.snd).map PortInfo.ids).Nodup) :
    added.foldl add s = added'.foldl add s := by
  obtain ⟨cs, ps, eq, hc, hp⟩ := foldl_add_eq (s := s) added
  obtain ⟨cs', ps', eq', hc', hp'⟩ := foldl_add_eq (s := s) added'
  have sorted : (s.withTables cs ps).Sorted := eq ▸ hs.foldl_add added
  have sorted' : (s.withTables cs' ps').Sorted := eq' ▸ hs.foldl_add added'
  have sameClients : cs.Perm cs' := hc.trans ((clients.append_left _).trans hc'.symm)
  have samePorts : ps.Perm ps' := hp.trans ((ports.append_left _).trans hp'.symm)
  -- both tables are in order with the same entries, and no two entries stand equal
  have hcs : cs = cs' := by
    refine sameClients.eq_of_pairwise ?_ sorted.clients sorted'.clients
    intro a b ha hb hab hba
    have apart := ((hc.map ClientInfo.clientId).nodup_iff).2 clientsApart
    exact List.inj_on_of_nodup_map apart ha (sameClients.mem_iff.2 hb) (Int.le_antisymm hab hba)
  have hps : ps = ps' := by
    refine samePorts.eq_of_pairwise ?_ sorted.ports sorted'.ports
    intro a b ha hb hab hba
    have apart := ((hp.map PortInfo.ids).nodup_iff).2 portsApart
    refine List.inj_on_of_nodup_map apart ha (samePorts.mem_iff.2 hb) ?_
    simp only [IdsLe] at hab hba
    exact Prod.ext (by omega) (by omega)
  rw [eq, eq', hcs, hps]

end Store

end MidiSequencer
