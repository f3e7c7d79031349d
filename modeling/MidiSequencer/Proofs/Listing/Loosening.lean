import MidiSequencer.Proofs.Listing.Exactness
import MidiSequencer.Proofs.Listing.Keys

/-! # Looser filters

A filter that demands less lists the same ports in the same order, with others in between. -/
namespace MidiSequencer

namespace PortFilter

/-- `g` asks for the same directions and order as `f`, and demands nothing that `f` does not. -/
structure Loosens (g f : PortFilter) : Prop where
  input : g.input = f.input
  output : g.output = f.output
  sort : g.sort = f.sort
  portType : ∀ place, Flags.HasBit g.portType.bits place → Flags.HasBit f.portType.bits place
  system : f.includeSystem = true → g.includeSystem = true
  through : f.includeMidiThrough = true → g.includeMidiThrough = true
  noExport : f.includeNoExport = true → g.includeNoExport = true
  connectable : g.onlyConnectable = true → f.onlyConnectable = true

variable {f g : PortFilter} {c : ClientInfo} {p : PortInfo}

theorem Loosens.direction (hg : g.Loosens f) : f.AdmitsDirection p → g.AdmitsDirection p := by
  have alone {q : Prop} (h : f.onlyConnectable = true → q) : g.onlyConnectable = true → q :=
    fun connectable => h (hg.connectable connectable)
  have either (h : if f.onlyConnectable then p.Can 0 ∧ p.Can 5 ∨ p.Can 1 ∧ p.Can 6
      else p.Can 0 ∨ p.Can 1) : if g.onlyConnectable then p.Can 0 ∧ p.Can 5 ∨ p.Can 1 ∧ p.Can 6
      else p.Can 0 ∨ p.Can 1 := by
    by_cases hc : g.onlyConnectable = true
    · rw [if_pos hc]
      rwa [if_pos (hg.connectable hc)] at h
    · rw [if_neg hc]
      split at h
      · exact h.imp And.left And.left
      · exact h
  unfold AdmitsDirection
  rw [hg.input, hg.output]
  cases f.input with
  | true =>
    cases f.output with
    | true => exact either
    | false => exact fun h => ⟨h.1, alone h.2⟩
  | false =>
    cases f.output with
    | true => exact fun h => ⟨h.1, alone h.2⟩
    | false => exact either

theorem Loosens.admits (hg : g.Loosens f) (hp : f.Admits c p) : g.Admits c p where
  system h := hg.system (hp.system h)
  through h := hg.through (hp.through h)
  portType place h := hp.portType place (hg.portType place h)
  noExport h := hg.noExport (hp.noExport h)
  direction := hg.direction hp.direction

def clientOf (q : PortInfo) : ClientInfo :=
  { clientId := q.clientId, name := q.clientName }

def passes (f : PortFilter) (q : PortInfo) : Bool :=
  f.acceptsClient (clientOf q) && f.acceptsPort q

theorem passes_iff {q : PortInfo} : f.passes q = true ↔ f.Admits (clientOf q) q := by
  rw [passes, Bool.and_eq_true, accepts_iff]

/-- To arrange and to choose by another filter may be done one after the other in either order. -/
theorem Loosens.arrange_filter (hg : g.Loosens f) (test : PortInfo → Bool) (l : List PortInfo) :
    f.arrange (l.filter test) = (g.arrange l).filter test := by
  have preferred : g.preferred = f.preferred := by
    unfold PortFilter.preferred
    rw [hg.input, hg.output]
  have inOrder : g.inOrder = f.inOrder := by
    unfold PortFilter.inOrder
    rw [preferred]
  unfold arrange
  rw [hg.sort, inOrder]
  split
  · exact (filter_mergeSort f.totalPreorder_inOrder test l).symm
  · rfl

end PortFilter

namespace Store

open PortFilter

variable {s : Store} {f g : PortFilter}

theorem passes_withName {c : ClientInfo} {p : PortInfo} (owner : p.clientId = c.clientId) :
    f.passes { p with clientName := c.name } = (f.acceptsClient c && f.acceptsPort p) := by
  have client : f.acceptsClient (clientOf { p with clientName := c.name }) = f.acceptsClient c := by
    simp only [acceptsClient, clientOf, owner]
  rw [passes, client]
  rfl

theorem listedOf_eq_filter (hg : g.Loosens f) (c : ClientInfo) :
    s.listedOf f c = (s.listedOf g c).filter f.passes := by
  unfold listedOf
  by_cases hf : f.acceptsClient c = true
  · have admitted {p : PortInfo} (hp : f.acceptsPort p = true) :
        g.acceptsClient c = true ∧ g.acceptsPort p = true :=
      accepts_iff.2 (hg.admits (accepts_iff.1 ⟨hf, hp⟩))
    have accepted (p : PortInfo) (hp : p ∈ s.portsOf c.clientId) :
        f.acceptsPort p = (f.passes { p with clientName := c.name } && g.acceptsPort p) := by
      rw [passes_withName (owner_of_mem_portsOf hp), hf, Bool.true_and]
      cases ha : f.acceptsPort p with
      | false => rfl
      | true => rw [(admitted ha).2, Bool.true_and]
    by_cases hg : g.acceptsClient c = true
    · rw [if_pos hf, if_pos hg, List.filter_map, List.filter_filter, List.filter_congr accepted]
      rfl
    · have none_accepted : (s.portsOf c.clientId).filter f.acceptsPort = [] :=
        List.filter_eq_nil_iff.2 fun p _ hp => hg (admitted hp).1
      rw [if_pos hf, if_neg hg, none_accepted]
      rfl
  · rw [if_neg hf]
    symm
    rw [List.filter_eq_nil_iff]
    intro q hq
    split at hq
    · obtain ⟨p, hp, rfl⟩ := List.mem_map.1 hq
      rw [passes_withName (owner_of_mem_portsOf (List.mem_filter.1 hp).1), Bool.and_eq_true]
      exact fun h => hf h.1
    · cases hq

theorem listed_eq_filter (hg : g.Loosens f) : s.listed f = (s.listed g).filter f.passes := by
  unfold listed
  rw [List.filter_flatMap]
  congr 1
  funext c
  exact listedOf_eq_filter hg c

end Store

end MidiSequencer
