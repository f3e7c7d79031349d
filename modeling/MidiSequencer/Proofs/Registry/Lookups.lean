import Mathlib.Data.List.Nodup
import MidiSequencer.Proofs.Listing.Tables

/-! # Looking up clients and ports

The tables of a sequencer in memory as maps: what is found under each number behind a call that
registers something. Where ports have different numbers, the order of the table does not matter. -/
namespace MidiSequencer

def PortInfo.owned (info : PortInfo) (client port : Int) : PortInfo :=
  { info with clientId := client, portId := port, clientName := "" }

namespace Store

section

variable {α : Type} {test test' : α → Bool} {f : α → α} {l l' : List α}

theorem updateFirst_eq_none_iff : updateFirst test f l = none ↔ l.find? test = none := by
  induction l with
  | nil => exact ⟨fun _ => rfl, fun _ => rfl⟩
  | cons a rest ih =>
    unfold updateFirst
    cases ha : test a <;> simp [ha, ih]

theorem find?_updateFirst (hf : ∀ a, test a = true → test (f a) = true)
    (h : updateFirst test f l = some l') : l'.find? test = (l.find? test).map f := by
  induction l generalizing l' with
  | nil => cases h
  | cons a rest ih =>
    unfold updateFirst at h
    split at h
    · next ha =>
      cases h
      simp [ha, hf a ha]
    · next ha =>
      obtain ⟨rest', hr, rfl⟩ := Option.map_eq_some_iff.1 h
      simp [ha, ih hr]

theorem find?_updateFirst_other
    (other : ∀ a, test a = true → test' a = false ∧ test' (f a) = false)
    (h : updateFirst test f l = some l') : l'.find? test' = l.find? test' := by
  induction l generalizing l' with
  | nil => cases h
  | cons a rest ih =>
    unfold updateFirst at h
    split at h
    · next ha =>
      cases h
      simp [other a ha]
    · obtain ⟨rest', hr, rfl⟩ := Option.map_eq_some_iff.1 h
      simp [List.find?_cons, ih hr]

theorem filter_updateFirst_other
    (other : ∀ a, test a = true → test' a = false ∧ test' (f a) = false)
    (h : updateFirst test f l = some l') : l'.filter test' = l.filter test' := by
  induction l generalizing l' with
  | nil => cases h
  | cons a rest ih =>
    unfold updateFirst at h
    split at h
    · next ha =>
      cases h
      simp [other a ha]
    · obtain ⟨rest', hr, rfl⟩ := Option.map_eq_some_iff.1 h
      simp [List.filter_cons, ih hr]

theorem removeAll_eq_none_iff : removeAll test l = none ↔ l.find? test = none := by
  unfold removeAll
  split
  · next h => simp [List.find?_eq_none] at h ⊢; exact h
  · next h => simpa using h

theorem find?_removeAll (h : removeAll test l = some l') : l'.find? test = none := by
  obtain ⟨rfl, -⟩ := removeAll_eq h
  simp

theorem find?_removeAll_other (other : ∀ a, test a = true → test' a = false)
    (h : removeAll test l = some l') : l'.find? test' = l.find? test' := by
  obtain ⟨rfl, -⟩ := removeAll_eq h
  rw [List.find?_filter]
  congr
  funext a
  cases ha : test a <;> simp [other, ha]

end

variable (s : Store)

def client? (client : Int) : Option ClientInfo :=
  s.clients.find? (·.clientId == client)

def port? (client port : Int) : Option PortInfo :=
  s.ports.find? (isPort client port)

def newPort (name : String) (capability : PortCapabilities) (portType : PortType) : PortInfo :=
  { clientId := s.clientId, portId := s.nextPort, name
    capability := capability.truncate, portType := portType.truncate, midiChannels := 16 }

/-- The ports have different numbers, and the next port of our own has a new one. -/
structure Tidy : Prop where
  ports : (s.ports.map PortInfo.ids).Nodup
  nextPort : 0 ≤ s.nextPort
  own : ∀ p ∈ s.ports, p.clientId = s.clientId → p.portId < s.nextPort

variable {s} {client port n : Int}

theorem isPort_iff {p : PortInfo} : isPort client port p = true ↔ p.ids = (client, port) := by
  simp [isPort, PortInfo.ids]

theorem isPort_other {port' client' : Int} (h : ¬ (client' = client ∧ port' = port))
    {p : PortInfo} (hp : isPort client port p = true) : isPort client' port' p = false := by
  rw [isPort_iff] at hp
  rw [← Bool.not_eq_true, isPort_iff, hp, Prod.mk.injEq]
  exact fun ⟨hc, hn⟩ => h ⟨hc.symm, hn.symm⟩

theorem Tidy.port?_eq_some_iff (hs : s.Tidy) {p : PortInfo} :
    s.port? client port = some p ↔ p ∈ s.ports ∧ p.ids = (client, port) := by
  constructor
  · intro h
    exact ⟨List.mem_of_find?_eq_some h, isPort_iff.1 (List.find?_some h)⟩
  · rintro ⟨member, ids⟩
    have found : (s.port? client port).isSome = true :=
      List.find?_isSome.2 ⟨p, member, isPort_iff.2 ids⟩
    obtain ⟨q, hq⟩ := Option.isSome_iff_exists.1 found
    have same : q.ids = p.ids := (isPort_iff.1 (List.find?_some hq)).trans ids.symm
    rw [hq, List.inj_on_of_nodup_map hs.ports (List.mem_of_find?_eq_some hq) member same]

theorem mem_createPort {name : String} {capability : PortCapabilities} {portType : PortType}
    {p : PortInfo} : p ∈ (s.createPort name capability portType).2.ports ↔
      p ∈ s.ports ∨ p = s.newPort name capability portType := by
  show p ∈ (s.ports ++ [s.newPort name capability portType]).mergeSort portOrder ↔ _
  rw [(List.mergeSort_perm _ _).mem_iff, List.mem_append, List.mem_singleton]

theorem Tidy.createPort (hs : s.Tidy) (name : String) (capability : PortCapabilities)
    (portType : PortType) : (s.createPort name capability portType).2.Tidy where
  ports := by
    have fresh : (s.newPort name capability portType).ids ∉ s.ports.map PortInfo.ids := by
      intro there
      obtain ⟨p, member, same⟩ := List.mem_map.1 there
      obtain ⟨client, port⟩ := Prod.mk.inj same
      have below := hs.own p member client
      rw [port] at below
      exact Int.lt_irrefl _ below
    show (List.map PortInfo.ids (List.mergeSort _ portOrder)).Nodup
    rw [((List.mergeSort_perm _ _).map PortInfo.ids).nodup_iff, List.map_append]
    exact List.nodup_append_comm.1 (List.nodup_cons.2 ⟨fresh, hs.ports⟩)
  nextPort := Int.le_add_one hs.nextPort
  own p member ours := by
    rcases mem_createPort.1 member with old | rfl
    · exact Int.lt_trans (hs.own p old ours) (Int.lt_succ _)
    · exact Int.lt_succ _

theorem Tidy.port?_createPort (hs : s.Tidy) (name : String) (capability : PortCapabilities)
    (portType : PortType) : (s.createPort name capability portType).2.port? client port =
      if client = s.clientId ∧ port = s.nextPort then some (s.newPort name capability portType)
      else s.port? client port := by
  have after := hs.createPort name capability portType
  split
  · next here =>
    obtain ⟨rfl, rfl⟩ := here
    exact after.port?_eq_some_iff.2 ⟨mem_createPort.2 (.inr rfl), rfl⟩
  · next other =>
    refine Option.ext fun p => ?_
    rw [after.port?_eq_some_iff, hs.port?_eq_some_iff, mem_createPort]
    refine and_congr_left fun ids => or_iff_left ?_
    rintro rfl
    obtain ⟨rfl, rfl⟩ := Prod.mk.inj ids
    exact other ⟨rfl, rfl⟩

/-! What comes of the other calls that register something. A failure changes nothing. -/

variable (s)

theorem deletePort_cases (n : Int) :
    (∃ ports, removeAll (isPort s.clientId n) s.ports = some ports ∧
      s.deletePort n = (0, { s with ports })) ∨
    (s.port? s.clientId n = none ∧ s.deletePort n = (Status.notFound, s)) := by
  unfold deletePort
  split
  · next ports h => exact .inl ⟨ports, h, rfl⟩
  · next h => exact .inr ⟨removeAll_eq_none_iff.1 h, rfl⟩

theorem setPortInfo_cases (n : Int) (info : PortInfo) :
    (∃ ports, updateFirst (isPort s.clientId n) (fun _ => info.owned s.clientId n) s.ports =
        some ports ∧ s.setPortInfo n info = (0, { s with ports })) ∨
    (s.port? s.clientId n = none ∧ s.setPortInfo n info = (Status.notFound, s)) := by
  cases h : updateFirst (isPort s.clientId n) (fun _ => info.owned s.clientId n) s.ports with
  | some ports =>
    refine .inl ⟨ports, rfl, ?_⟩
    unfold PortInfo.owned at h
    simp only [setPortInfo, h]
  | none =>
    refine .inr ⟨updateFirst_eq_none_iff.1 h, ?_⟩
    unfold PortInfo.owned at h
    simp only [setPortInfo, h]

theorem setClientName_cases (name : String) :
    (∃ clients, updateFirst (·.clientId == s.clientId) (fun c => { c with name }) s.clients =
        some clients ∧ s.setClientName name = (0, { s with clients })) ∨
    s.setClientName name = (Status.notFound, s) := by
  unfold setClientName
  split
  · next clients h => exact .inl ⟨clients, h, rfl⟩
  · exact .inr rfl

theorem port?_deletePort (n : Int) : (s.deletePort n).2.port? client port =
    if client = s.clientId ∧ port = n then none else s.port? client port := by
  rcases s.deletePort_cases n with ⟨ports, h, worked⟩ | ⟨missing, failed⟩
  · rw [worked]
    split
    · next here =>
      obtain ⟨rfl, rfl⟩ := here
      exact find?_removeAll h
    · next other => exact find?_removeAll_other (fun p hp => isPort_other other hp) h
  · rw [failed]
    split
    · next here =>
      obtain ⟨rfl, rfl⟩ := here
      exact missing
    · rfl

variable {s}

theorem port?_setPortInfo {n : Int} {info : PortInfo} (worked : 0 ≤ (s.setPortInfo n info).1) :
    (s.setPortInfo n info).2.port? client port =
      if client = s.clientId ∧ port = n then some (info.owned s.clientId n)
      else s.port? client port := by
  rcases s.setPortInfo_cases n info with ⟨ports, h, set⟩ | ⟨-, failed⟩
  · rw [set]
    have here (p : PortInfo) : isPort s.clientId n (info.owned s.clientId n) = true :=
      isPort_iff.2 rfl
    split
    · next at_ =>
      obtain ⟨rfl, rfl⟩ := at_
      have found : s.port? s.clientId port ≠ none := by
        rw [port?, Ne, ← updateFirst_eq_none_iff, h]
        exact Option.some_ne_none _
      obtain ⟨p, hp⟩ := Option.ne_none_iff_exists'.1 found
      exact (find?_updateFirst (fun p _ => here p) h).trans (congrArg (Option.map _) hp)
    · next other =>
      exact find?_updateFirst_other
        (fun p hp => ⟨isPort_other other hp, isPort_other other (here p)⟩) h
  · rw [failed] at worked
    cases worked

theorem client?_setClientName {name : String} (worked : 0 ≤ (s.setClientName name).1) :
    (s.setClientName name).2.client? client =
      if client = s.clientId then (s.client? client).map fun c => { c with name }
      else s.client? client := by
  rcases s.setClientName_cases name with ⟨clients, h, set⟩ | failed
  · rw [set]
    split
    · next here =>
      subst here
      exact find?_updateFirst (fun c hc => hc) h
    · next other =>
      refine find?_updateFirst_other (fun c hc => ?_) h
      have ours : c.clientId = s.clientId := eq_of_beq hc
      simpa [ours] using fun h => other h.symm
  · rw [failed] at worked
    cases worked

theorem Tidy.deletePort (hs : s.Tidy) (n : Int) : (s.deletePort n).2.Tidy := by
  rcases s.deletePort_cases n with ⟨ports, h, worked⟩ | ⟨-, failed⟩
  · obtain ⟨rfl, -⟩ := removeAll_eq h
    rw [worked]
    exact ⟨hs.ports.sublist (List.filter_sublist.map _), hs.nextPort,
      fun p hp => hs.own p (List.mem_of_mem_filter hp)⟩
  · rw [failed]
    exact hs

/-- A snapshot that is stored for a port does not change by what numbers it stands. -/
theorem ids_setPortInfo (s : Store) (n : Int) (info : PortInfo) :
    (s.setPortInfo n info).2.ports.map PortInfo.ids = s.ports.map PortInfo.ids := by
  rcases s.setPortInfo_cases n info with ⟨ports, h, worked⟩ | ⟨-, failed⟩
  · rw [worked]
    exact map_updateFirst (f := fun _ => info.owned s.clientId n)
      (fun p hp => (isPort_iff.1 hp).symm) h
  · rw [failed]

theorem Tidy.setPortInfo (hs : s.Tidy) (n : Int) (info : PortInfo) :
    (s.setPortInfo n info).2.Tidy := by
  have ids := s.ids_setPortInfo n info
  rcases s.setPortInfo_cases n info with ⟨ports, -, worked⟩ | ⟨-, failed⟩
  · rw [worked] at ids ⊢
    refine ⟨ids.symm ▸ hs.ports, hs.nextPort, fun p member ours => ?_⟩
    have there : p.ids ∈ s.ports.map PortInfo.ids := ids ▸ List.mem_map_of_mem member
    obtain ⟨q, old, same⟩ := List.mem_map.1 there
    obtain ⟨client, port⟩ := Prod.mk.inj same
    rw [← port]
    exact hs.own q old (client.trans ours)
  · rw [failed]
    exact hs

end Store

end MidiSequencer
