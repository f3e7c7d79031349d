import MidiSequencer.Native.Rehearsal
import MidiSequencer.Proofs.Resources.Commands

/-! # Native handles

Behind a connection that is served by a native library, a handle that opening delivered is closed
once, by the last native call of all. -/
namespace MidiSequencer

def Call.isHandling : Call → Bool
  | .command (.openSequencer ..) => true
  | .release => true
  | _ => false

theorem Deed.ofCall_of_isHandling {c : Call} (hc : c.isHandling = false) (a : c.Answer) :
    (Deed.ofCall c a).isOpening = false ∧ Deed.ofCall c a ≠ .releases := by
  cases c with
  | command c =>
    cases c with
    | openSequencer name streams mode => cases hc
    | createPort name capability portType =>
      simp only [Deed.ofCall]
      split <;> simp [Deed.isOpening]
    | allocQueue name =>
      simp only [Deed.ofCall]
      split <;> simp [Deed.isOpening]
    | _ => simp [Deed.ofCall, Deed.isOpening]
  | release => cases hc
  | _ => simp [Deed.ofCall, Deed.isOpening]

end MidiSequencer

namespace MidiSequencer.Native

variable {σ χ α β : Type}

abbrev NativeCall.History := Program.History NativeCall NativeCall.Answer

inductive Handling where
  | delivers
  | misses
  | closes
  | other
  deriving DecidableEq

namespace Handling

/-- Opening delivers a handle only if it succeeds. -/
def ofCall : (c : NativeCall) → c.Answer → Handling
  | .openHandle .., answer => if 0 ≤ answer.1 ∧ answer.2 = true then delivers else misses
  | .closeHandle, _ => closes
  | _, _ => other

end Handling

def NativeCall.handling (log : NativeCall.History) : List Handling :=
  log.map fun x => Handling.ofCall x.question x.answer

/-- A handle that was delivered is closed by the last call of all, and none is closed before or
otherwise. -/
structure ClosedOnce (calls : List Handling) : Prop where
  delivered : .delivers ∈ calls → ∃ before, calls = before ++ [.closes] ∧ .closes ∉ before
  missed : .delivers ∉ calls → .closes ∉ calls

/-- The native calls that serve the calls of a connection; at the end a handle is held or not. -/
inductive Serves : List Deed → List Handling → Bool → Prop where
  | nil : Serves [] [] false
  | opens {deeds calls held} (delivered : Bool) : Serves deeds calls held →
      Serves (deeds ++ [.opens]) (calls ++ [if delivered then .delivers else .misses]) delivered
  | refuses {deeds calls held} (delivered : Bool) : Serves deeds calls held →
      Serves (deeds ++ [.refuses]) (calls ++ [.misses]) delivered
  | releases {deeds calls held} : Serves deeds calls held →
      Serves (deeds ++ [.releases]) (calls ++ if held then [.closes] else []) false
  | call {deeds calls held d inner} : Serves deeds calls held → d.isOpening = false →
      d ≠ .releases → (∀ x ∈ inner, x = .other) → Serves (deeds ++ [d]) (calls ++ inner) held

namespace Serves

variable {deeds : List Deed} {calls : List Handling} {held : Bool}

theorem eq_nil (h : Serves deeds calls held) (hd : deeds = []) : calls = [] := by
  cases h with
  | nil => rfl
  | _ => simp at hd

theorem eq_nil_of_opensFirst {d : Deed} (hd : d.isOpening = true)
    (hf : OpensFirst (deeds ++ [d])) : deeds = [] := by
  cases deeds with
  | nil => rfl
  | cons first rest =>
    have := hf d (List.mem_append_right rest List.mem_cons_self)
    simp [hd] at this

theorem opensFirst_of_append {rest : List Deed} (hf : OpensFirst (deeds ++ rest)) :
    OpensFirst deeds := by
  intro d hd
  cases deeds with
  | nil => cases hd
  | cons first deeds => exact hf d (List.mem_append_left _ hd)

theorem running (h : Serves deeds calls held) (hf : OpensFirst deeds) (hr : .releases ∉ deeds) :
    .closes ∉ calls ∧ (.delivers ∈ calls ↔ .opens ∈ deeds ∧ held = true) := by
  induction h with
  | nil => simp
  | opens delivered h ih =>
    have first := eq_nil_of_opensFirst rfl hf
    rw [h.eq_nil first]
    cases delivered <;> simp
  | refuses delivered h ih =>
    have first := eq_nil_of_opensFirst rfl hf
    rw [h.eq_nil first, first]
    simp
  | releases h ih => simp at hr
  | @call deeds calls held d inner h hd hne others ih =>
    have fresh : .releases ∉ deeds := fun hm => hr (List.mem_append_left _ hm)
    obtain ⟨closed, iff⟩ := ih (opensFirst_of_append hf) fresh
    constructor
    · intro hm
      rcases List.mem_append.1 hm with hm | hm
      · exact closed hm
      · cases others _ hm
    · have left : .delivers ∈ calls ++ inner ↔ .delivers ∈ calls := by
        constructor
        · intro hm
          rcases List.mem_append.1 hm with hm | hm
          · exact hm
          · cases others _ hm
        · exact List.mem_append_left _
      have right : Deed.opens ∈ deeds ++ [d] ↔ Deed.opens ∈ deeds := by
        constructor
        · intro hm
          rcases List.mem_append.1 hm with hm | hm
          · exact hm
          · rw [← List.mem_singleton.1 hm] at hd
            cases hd
        · exact List.mem_append_left _
      rw [left, right]
      exact iff

theorem closedOnce {config : Config} (h : Serves deeds calls held) (hf : OpensFirst deeds)
    (hr : Released (.establish config) deeds) : ClosedOnce calls := by
  by_cases ho : .opens ∈ deeds
  · obtain ⟨before, hd, fresh⟩ := hr.held ho
    cases h with
    | nil => cases ho
    | opens delivered h => simp at hd
    | refuses delivered h => simp at hd
    | call h hi hne others => exact absurd (List.append_inj_right' hd rfl) (by simpa using hne)
    | @releases deeds calls held h =>
      obtain rfl : deeds = before := List.append_inj_left' hd rfl
      obtain ⟨closed, iff⟩ := h.running (opensFirst_of_append hf) fresh
      have opened : .opens ∈ deeds := by simpa using ho
      cases held with
      | true =>
        have delivered : .delivers ∈ calls := iff.2 ⟨opened, rfl⟩
        constructor
        · intro _
          exact ⟨calls, rfl, closed⟩
        · intro hn
          exact absurd (List.mem_append_left _ delivered) hn
      | false =>
        have missed : .delivers ∉ calls := by simp [iff]
        rw [if_neg (by simp), List.append_nil]
        constructor
        · intro hm
          exact absurd hm missed
        · intro _
          exact closed
  · obtain ⟨closed, iff⟩ := h.running hf (hr.refused ho)
    constructor
    · intro hm
      exact absurd (iff.1 hm).1 ho
    · intro _
      exact closed

end Serves

/-- Does what `x` does, and adds native calls to the log that leave the handle alone. -/
def Records (x' : StateM (σ × NativeCall.History) α) (x : StateM σ α) : Prop :=
  ∀ s, ∃ calls, x' s = ((x s.1).1, (x s.1).2, s.2 ++ calls) ∧
    ∀ c ∈ NativeCall.handling calls, c = .other

theorem records_pure (a : α) : Records (pure a : StateM (σ × NativeCall.History) α) (pure a) := by
  intro s
  refine ⟨[], ?_, List.forall_mem_nil _⟩
  rw [List.append_nil]
  rfl

theorem records_bind {x' : StateM (σ × NativeCall.History) α} {x : StateM σ α}
    {f' : α → StateM (σ × NativeCall.History) β} {f : α → StateM σ β} (hx : Records x' x)
    (hf : ∀ a, Records (f' a) (f a)) : Records (x' >>= f') (x >>= f) := by
  intro s
  obtain ⟨calls, h, others⟩ := hx s
  obtain ⟨rest, h', others'⟩ := hf (x s.1).1 ((x s.1).2, s.2 ++ calls)
  refine ⟨calls ++ rest, ?_, fun c hc => ?_⟩
  · have step : (x' >>= f') s = f' (x' s).1 (x' s).2 := rfl
    rw [step, h, h', List.append_assoc]
    rfl
  · rw [NativeCall.handling, List.map_append] at hc
    rcases List.mem_append.1 hc with hc | hc
    · exact others c hc
    · exact others' c hc

section

variable (m : Library σ)

theorem records_call {c : NativeCall} (hc : ∀ a, Handling.ofCall c a = .other) :
    Records (Library.call (Machine.recorded m) c) (m.call c) := by
  intro s
  refine ⟨[⟨c, (m c s.1).1⟩], rfl, fun x hx => ?_⟩
  rw [List.mem_singleton.1 hx]
  exact hc _

theorem records_withDescriptor {kind : DescriptorKind} {failed : Status → α}
    {body' : StateM (σ × NativeCall.History) α} {body : StateM σ α} (hb : Records body' body) :
    Records (Library.withDescriptor (Machine.recorded m) kind failed body')
      (m.withDescriptor kind failed body) := by
  apply records_bind (records_call m fun _ => rfl)
  intro status
  split
  · exact records_pure _
  · exact records_bind hb fun _ => records_bind (records_call m fun _ => rfl) fun _ =>
      records_pure _

theorem records_command {c : Command} (hc : Call.isHandling (.command c) = false) :
    Records (Library.command (Machine.recorded m) c) (m.command c) := by
  cases c with
  | openSequencer name streams mode => cases hc
  | allocQueue name => cases name <;> exact records_call m fun _ => rfl
  | setQueueTempo queue tempo resolution =>
    exact records_withDescriptor m (records_call m fun _ => rfl)
  | setPortInfo port info =>
    apply records_withDescriptor
    split
    · exact records_pure _
    · exact records_call m fun _ => rfl
  | subscribe s => exact records_withDescriptor m (records_call m fun _ => rfl)
  | unsubscribe s => exact records_withDescriptor m (records_call m fun _ => rfl)
  | _ => exact records_call m fun _ => rfl

theorem records_serve {c : Call} (hc : c.isHandling = false) :
    Records (Library.serve (Machine.recorded m) c) (m.serve c) := by
  cases c with
  | command c => exact records_command m hc
  | pollDescriptors =>
    apply records_bind (records_call m fun _ => rfl)
    intro count
    split
    · exact records_pure _
    · apply records_bind (records_call m fun _ => rfl)
      rintro ⟨found, reported⟩
      simp only
      split <;> exact records_pure _
  | eventInput =>
    apply records_bind (records_call m fun _ => rfl)
    rintro ⟨status, record⟩
    simp only
    split
    · exact records_pure _
    · cases record <;> exact records_pure _
  | release => cases hc
  | _ =>
    exact records_withDescriptor m (records_bind (records_call m fun _ => rfl) fun _ =>
      records_pure _)

end

/-- Changes behind the library are not calls of it. -/
def unrecorded (change : χ → σ → σ) (x : χ) (s : σ × NativeCall.History) : σ × NativeCall.History :=
  (change x s.1, s.2)

theorem answer_of_isHandling (m : Library σ) (s : Served σ) {c : Call}
    (hc : c.isHandling = false) :
    s.answer m c = ((m.serve c s.tables).1, { s with tables := (m.serve c s.tables).2 }) := by
  cases c with
  | command c => cases c <;> first | rfl | cases hc
  | release => cases hc
  | _ => rfl

theorem Serves.openSequencer (m : Library σ) {deeds : List Deed}
    {s : Served (σ × NativeCall.History)}
    (h : Serves deeds (NativeCall.handling s.tables.2) s.held) (name : String) (streams : Streams)
    (mode : Int) :
    let r := s.answer (Machine.recorded m) (.command (.openSequencer name streams mode))
    Serves (deeds ++ [Deed.ofCall (.command (.openSequencer name streams mode)) r.1])
      (NativeCall.handling r.2.tables.2) r.2.held := by
  intro r
  obtain ⟨⟨status, delivered⟩, hm⟩ :
      ∃ a, (m (.openHandle name streams.code mode) s.tables.1).1 = a := ⟨_, rfl⟩
  have answered : r.1 = status := congrArg Prod.fst hm
  have held : r.2.held = delivered := congrArg Prod.snd hm
  have log : r.2.tables.2 =
      s.tables.2 ++ [⟨.openHandle name streams.code mode, (status, delivered)⟩] := by
    rw [← hm]
    rfl
  have deed : Deed.ofCall (.command (.openSequencer name streams mode)) r.1 =
      if status < 0 then .refuses else .opens := by
    rw [answered]
    rfl
  have calls : NativeCall.handling r.2.tables.2 = NativeCall.handling s.tables.2 ++
      [if 0 ≤ status ∧ delivered = true then .delivers else .misses] := by
    rw [log, NativeCall.handling, List.map_append]
    rfl
  rw [deed, calls, held]
  by_cases hs : status < 0
  · rw [if_pos hs, if_neg fun hx => Int.not_le.2 hs hx.1]
    exact h.refuses delivered
  · have next := h.opens delivered
    simpa [hs, Int.not_lt.1 hs] using next

theorem Serves.release (m : Library σ) {deeds : List Deed} {s : Served (σ × NativeCall.History)}
    (h : Serves deeds (NativeCall.handling s.tables.2) s.held) :
    let r := s.answer (Machine.recorded m) .release
    Serves (deeds ++ [.releases]) (NativeCall.handling r.2.tables.2) r.2.held := by
  intro r
  obtain ⟨⟨state, log⟩, held⟩ := s
  have next := h.releases
  cases held with
  | false =>
    rw [if_neg (by simp), List.append_nil] at next
    exact next
  | true =>
    have calls : NativeCall.handling r.2.tables.2 = NativeCall.handling log ++ [.closes] :=
      List.map_append
    rw [calls]
    exact next

theorem Serves.answer (m : Library σ) {deeds : List Deed} {s : Served (σ × NativeCall.History)}
    (h : Serves deeds (NativeCall.handling s.tables.2) s.held) (c : Call) :
    let r := s.answer (Machine.recorded m) c
    Serves (deeds ++ [Deed.ofCall c r.1]) (NativeCall.handling r.2.tables.2) r.2.held := by
  cases hc : c.isHandling with
  | false =>
    obtain ⟨calls, served, others⟩ := records_serve m hc s.tables
    obtain ⟨opening, releasing⟩ :=
      Deed.ofCall_of_isHandling hc (m.serve c s.tables.1).1
    have next := h.call opening releasing others
    rw [NativeCall.handling, NativeCall.handling, ← List.map_append] at next
    rw [answer_of_isHandling _ s hc, served]
    exact next
  | true =>
    cases c with
    | command c =>
      cases c with
      | openSequencer name streams mode => exact h.openSequencer m name streams mode
      | _ => cases hc
    | release => exact h.release m
    | _ => cases hc

/-- The library with its calls written down, behind a connection whose calls are written down. -/
theorem served_keeps (m : Library σ) (change : χ → σ → σ) :
    (Served.simulator (Machine.recorded m) (unrecorded change)).recorded.Keeps fun s =>
      Serves (Call.deeds s.2) (NativeCall.handling s.1.tables.2) s.1.held where
  answer c s h := by
    have next := Serves.answer m h c
    let n := Served.simulator (Machine.recorded m) (unrecorded change)
    have log : Call.deeds (n.recorded.answer c s).2.2 =
        Call.deeds s.2 ++ [Deed.ofCall c (s.1.answer (Machine.recorded m) c).1] :=
      Call.deeds_append _ _
    rw [log]
    exact next
  change _ _ h := h

/-- The scene of a library from which no handle was opened yet. -/
def Scene.served (s : Scene σ χ) : Scene (Served (σ × NativeCall.History)) χ :=
  s.map fun x => { tables := (x, []) }

def Scene.handling (s : Scene (Served (σ × NativeCall.History)) χ) : List Handling :=
  NativeCall.handling s.sequencer.tables.2

section

variable (m : Library σ) (change : χ → σ → σ)

theorem session_handles (bound : Nat) {plan : Plan χ} {config : Config}
    (hp : plan.opening = .establish config) (s : Scene σ χ) :
    let n := Served.simulator (Machine.recorded m) (unrecorded change)
    match plan.start n (Scene.served s) with
    | .ok p => ClosedOnce (Scene.handling ((p.run n bound plan.steps).2.finish n))
    | .error t => ClosedOnce (Scene.handling t) := by
  intro n
  have follows := n.recorded_follows
  have keeps := served_keeps m change
  have paired := plan.session_paired n bound (Scene.served s)
  have kept := keeps.start plan (s := (Scene.served s).recorded) .nil
  have same := follows.start plan (Scene.served s).recorded
  rw [show ((Scene.served s).recorded).map Prod.fst = Scene.served s from rfl] at same
  rw [same]
  cases hs : plan.start n.recorded (Scene.served s).recorded with
  | ok p =>
    rw [hs] at paired kept
    have last := keeps.finish (keeps.runSteps bound plan.steps kept)
    have released := paired.released
    rw [hp] at released
    simp only [follows.runSteps, follows.finish]
    exact last.closedOnce paired.front released
  | error t =>
    rw [hs] at paired kept
    have released := paired.released
    rw [hp] at released
    exact Serves.closedOnce kept paired.front released

theorem command_handles (bound : Nat) (i : Cli.Invocation) (s : Scene σ χ) (report : Cli.Report) :
    let n := Served.simulator (Machine.recorded m) (unrecorded change)
    let r := (i.perform bound).run (Scene.answer n) (Scene.served s)
    r.1 = some report → ClosedOnce (Scene.handling r.2) := by
  intro n r hr
  have follows := n.recorded_follows
  have same := follows.run (i.perform bound) (Scene.served s).recorded
  have ended : ((i.perform bound).run (Scene.answer n.recorded) (Scene.served s).recorded).1 =
      some report := by
    rw [← hr]
    exact (congrArg Prod.fst same).symm
  have paired := Cli.run_paired n i bound (Scene.served s) report ended
  have last := (served_keeps m change).run (i.perform bound) (s := (Scene.served s).recorded) .nil
  have scene : r.2 = _ := congrArg Prod.snd same
  rw [scene]
  exact last.closedOnce paired.front paired.released

end

end MidiSequencer.Native
