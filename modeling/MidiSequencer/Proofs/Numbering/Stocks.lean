import Mathlib.Data.List.Perm.Subperm
import MidiSequencer.Proofs.Queues.Records

/-! # Numbers of ports and queues

A sequencer in memory numbers the ports of its own client and its queues in the order in which they
are made. Whatever is called, a number stands there once at most and below the next one. -/
namespace MidiSequencer

inductive Stock where
  | ports | queues
  deriving DecidableEq

namespace Stock

/-- The numbers that are in use; ports are those of the sequencer's own client. -/
def numbers : Stock → Store → List Int
  | ports, s => (s.ports.filter (·.clientId == s.clientId)).map PortInfo.portId
  | queues, s => s.queues.map QueueRecord.id

def next : Stock → Store → Int
  | ports, s => s.nextPort
  | queues, s => s.nextQueue

def makes : Stock → Command → Bool
  | ports, .createPort .. => true
  | queues, .allocQueue _ => true
  | _, _ => false

def free : Stock → Int → Command
  | ports, n => .deletePort n
  | queues, n => .freeQueue n

variable {k : Stock} {s t : Store} {n : Int}

theorem numbers_ports (s : Store) :
    ports.numbers s = ((s.ports.map PortInfo.ids).filter (·.1 == s.clientId)).map Prod.snd := by
  rw [List.filter_map, List.map_map]
  rfl

theorem mem_numbers_ports : n ∈ ports.numbers s ↔ (s.clientId, n) ∈ s.ports.map PortInfo.ids := by
  simp [numbers_ports]

theorem numbers_ports_congr (clientId : t.clientId = s.clientId)
    (ids : t.ports.map PortInfo.ids = s.ports.map PortInfo.ids) :
    ports.numbers t = ports.numbers s := by
  rw [numbers_ports, numbers_ports, clientId, ids]

theorem command_of_makes {q : Command} (hq : k.makes q = true) :
    (s.command q).1 = k.next s ∧ k.next (s.command q).2 = k.next s + 1 ∧
      (k.numbers (s.command q).2).Perm (k.numbers s ++ [k.next s]) := by
  cases k with
  | ports =>
    cases q with
    | createPort name capability portType =>
      refine ⟨rfl, rfl, ?_⟩
      have new : [s.newPort name capability portType].filter (·.clientId == s.clientId) =
          [s.newPort name capability portType] :=
        List.filter_eq_self.2 fun p hp => by simp [List.mem_singleton.1 hp, Store.newPort]
      have sorted := (List.mergeSort_perm (s.ports ++ [s.newPort name capability portType])
        Store.portOrder).filter (·.clientId == s.clientId)
      rw [List.filter_append, new] at sorted
      have numbered := sorted.map PortInfo.portId
      rw [List.map_append] at numbered
      exact numbered
    | _ => cases hq
  | queues =>
    cases q with
    | allocQueue name =>
      refine ⟨rfl, rfl, ?_⟩
      show ((s.queues ++ [_]).map QueueRecord.id).Perm _
      rw [List.map_append]
      exact .refl _
    | _ => cases hq

/-- Nothing new is numbered. The table may be in another order. -/
structure Keeps (k : Stock) (s t : Store) : Prop where
  next : k.next t = k.next s
  numbers : (k.numbers t).Subperm (k.numbers s)

theorem Keeps.of_eq (next : k.next t = k.next s) (numbers : k.numbers t = k.numbers s) :
    k.Keeps s t :=
  ⟨next, numbers ▸ List.Subperm.refl _⟩

theorem keeps_deletePort (s : Store) (n : Int) : ports.Keeps s (s.deletePort n).2 := by
  rcases s.deletePort_cases n with ⟨left, h, worked⟩ | ⟨-, failed⟩
  · obtain ⟨rfl, -⟩ := Store.removeAll_eq h
    rw [worked]
    exact ⟨rfl, ((List.filter_sublist.filter _).map _).subperm⟩
  · rw [failed]
    exact .of_eq rfl rfl

theorem keeps_freeQueue (s : Store) (n : Int) : queues.Keeps s (s.freeQueue n).2 := by
  rcases s.freeQueue_cases n with ⟨left, h, worked⟩ | ⟨-, failed⟩
  · obtain ⟨rfl, -⟩ := Store.removeAll_eq h
    rw [worked]
    exact ⟨rfl, (List.filter_sublist.map _).subperm⟩
  · rw [failed]
    exact .of_eq rfl rfl

theorem keeps_updateQueue (s : Store) (n : Int) {f : QueueRecord → QueueRecord}
    (keeps : ∀ q, (f q).id = q.id) : queues.Keeps s (s.updateQueue n f).2 := by
  rcases s.updateQueue_cases n f with ⟨changed, h, worked⟩ | ⟨-, failed⟩
  · rw [worked]
    exact .of_eq rfl (Store.map_updateFirst (fun q _ => keeps q) h)
  · rw [failed]
    exact .of_eq rfl rfl

theorem keeps_command {q : Command} (hq : k.makes q = false) : k.Keeps s (s.command q).2 := by
  cases k with
  | ports =>
    cases hr : q.registers with
    | false =>
      obtain ⟨clientId, nextPort⟩ := s.command_sameNumbers hr
      have same := congrArg (List.map PortInfo.ids) (s.command_tables hr).2
      exact .of_eq nextPort (numbers_ports_congr clientId same)
    | true =>
      cases q with
      | setClientName name =>
        rcases s.setClientName_cases name with ⟨clients, -, h⟩ | h
        · simp only [Store.command, h]
          exact .of_eq rfl rfl
        · simp only [Store.command, h]
          exact .of_eq rfl rfl
      | deletePort n => exact keeps_deletePort s n
      | setPortInfo n info =>
        have same : s.SameNumbers (s.setPortInfo n info).2 := by
          rcases s.setPortInfo_cases n info with ⟨ports, -, h⟩ | ⟨-, h⟩ <;> rw [h] <;>
            exact ⟨rfl, rfl⟩
        exact .of_eq same.2 (numbers_ports_congr same.1 (s.ids_setPortInfo n info))
      | createPort name capability portType => cases hq
      | _ => cases hr
  | queues =>
    cases hr : q.queues with
    | false =>
      obtain ⟨same, nextQueue⟩ := s.command_sameQueues hr
      exact .of_eq nextQueue (congrArg (List.map QueueRecord.id) same)
    | true =>
      cases q with
      | freeQueue n => exact keeps_freeQueue s n
      | setQueueTempo n tempo resolution => exact keeps_updateQueue s n fun _ => rfl
      | controlQueue n eventType value => exact keeps_updateQueue s n fun _ => rfl
      | allocQueue name => cases hq
      | _ => cases hr

theorem keeps_answer {c : Call} (hc : ∀ q, c = .command q → k.makes q = false) :
    k.Keeps s (s.answer c).2 := by
  cases c with
  | command q => exact keeps_command (hc q rfl)
  | eventInput =>
    cases k with
    | ports =>
      obtain ⟨clientId, nextPort⟩ := s.takeInput_sameNumbers
      have same := congrArg (List.map PortInfo.ids) s.takeInput_leaves.ports
      exact .of_eq nextPort (numbers_ports_congr clientId same)
    | queues =>
      obtain ⟨same, nextQueue⟩ := s.takeInput_sameQueues
      exact .of_eq nextQueue (congrArg (List.map QueueRecord.id) same)
  | _ => cases k <;> exact .of_eq rfl rfl

theorem free_worked (worked : 0 ≤ (s.command (k.free n)).1) :
    n ∈ k.numbers s ∧ n ∉ k.numbers (s.command (k.free n)).2 := by
  cases k with
  | ports =>
    change 0 ≤ (s.deletePort n).1 at worked
    show n ∈ _ ∧ n ∉ ports.numbers (s.deletePort n).2
    rcases s.deletePort_cases n with ⟨left, h, deleted⟩ | ⟨-, failed⟩
    · obtain ⟨rfl, p, member, found⟩ := Store.removeAll_eq h
      rw [deleted, mem_numbers_ports, mem_numbers_ports]
      refine ⟨Store.isPort_iff.1 found ▸ List.mem_map_of_mem member, fun there => ?_⟩
      obtain ⟨p, member, ids⟩ := List.mem_map.1 there
      have missed := (List.mem_filter.1 member).2
      rw [Store.isPort_iff.2 ids] at missed
      cases missed
    · rw [failed] at worked
      cases worked
  | queues =>
    change 0 ≤ (s.freeQueue n).1 at worked
    show n ∈ _ ∧ n ∉ queues.numbers (s.freeQueue n).2
    rcases s.freeQueue_cases n with ⟨left, h, freed⟩ | ⟨-, failed⟩
    · obtain ⟨rfl, q, member, found⟩ := Store.removeAll_eq h
      rw [freed]
      refine ⟨eq_of_beq found ▸ List.mem_map_of_mem member, fun there => ?_⟩
      obtain ⟨q, member, rfl⟩ := List.mem_map.1 there
      simpa using (List.mem_filter.1 member).2
    · rw [failed] at worked
      cases worked

/-- The numbers that were ever given, `ids`, are those from zero on, and what is in use is among
them. -/
structure Counts (k : Stock) (s : Store) (ids : List Int) : Prop where
  known {n : Int} : n ∈ k.numbers s → n ∈ ids
  distinct : (k.numbers s).Nodup
  next : k.next s = ids.length
  counted : ids = (List.range ids.length).map Nat.cast

namespace Counts

variable {ids : List Int}

theorem nil (unused : k.numbers s = []) (next : k.next s = 0) : k.Counts s [] where
  known h := by
    rw [unused] at h
    cases h
  distinct := unused ▸ List.nodup_nil
  next := next
  counted := rfl

theorem keep (h : k.Counts s ids) (kept : k.Keeps s t) : k.Counts t ids where
  known hn := h.known (kept.numbers.subset hn)
  distinct := by
    obtain ⟨l, same, part⟩ := kept.numbers
    exact same.nodup_iff.1 (h.distinct.sublist part)
  next := kept.next.trans h.next
  counted := h.counted

theorem bounds (h : k.Counts s ids) (hn : n ∈ ids) : 0 ≤ n ∧ n < k.next s := by
  rw [h.counted] at hn
  obtain ⟨i, hi, rfl⟩ := List.mem_map.1 hn
  rw [h.next]
  exact ⟨Int.natCast_nonneg i, Int.ofNat_lt.2 (List.mem_range.1 hi)⟩

theorem ascending (h : k.Counts s ids) : ids.Pairwise (· < ·) := by
  rw [h.counted]
  exact List.Pairwise.map _ (fun _ _ lt => Int.ofNat_lt.2 lt) List.pairwise_lt_range

theorem make (h : k.Counts s ids) {q : Command} (hq : k.makes q = true) :
    k.Counts (s.command q).2 (ids ++ [(s.command q).1]) := by
  obtain ⟨answered, next, numbers⟩ := command_of_makes (s := s) hq
  have fresh : k.next s ∉ k.numbers s := fun used =>
    Int.lt_irrefl _ (h.bounds (h.known used)).2
  rw [answered]
  constructor
  · intro n used
    rcases List.mem_append.1 (numbers.mem_iff.1 used) with old | new
    · exact List.mem_append_left _ (h.known old)
    · exact List.mem_append_right _ new
  · rw [numbers.nodup_iff]
    exact List.nodup_append_comm.1 (List.nodup_cons.2 ⟨fresh, h.distinct⟩)
  · rw [next, h.next]
    simp
  · rw [List.length_append, List.length_singleton, List.range_succ, List.map_append, ← h.counted,
      h.next]
    rfl

end Counts

end Stock

end MidiSequencer
