import MidiSequencer.Proofs.Commands.Acts
import MidiSequencer.Proofs.Opening.Names
import MidiSequencer.Proofs.Registry.Operations

/-! # Commands on a port of their own

A command that works with a port makes it first, deletes it once its work is over, and then closes
its connection, whatever comes of the work. -/
namespace MidiSequencer.Cli

open Native (Act)
open Native.Act (ofCalls ofCalls_append Shows)
open Program (Traces)

/-- The acts of a command and its report, given what its work does and reports. -/
inductive OnPort (work : Port → List Act → Option Report → Prop) :
    List Act → Option Report → Prop where
  | unmade {acts} (failure : Failure) (closed : ∀ a ∈ acts, a = .closes) :
      OnPort work acts (some (.failed failure))
  | made {p acts report closing} (done : work p acts (some report))
      (closed : closing = [] ∨ closing = [.closes]) :
      OnPort work (.creates p.id :: acts ++ .deletes p.id :: closing) (some report)
  | cut {p acts} (begun : work p acts none) : OnPort work (.creates p.id :: acts) none

section

variable {h : Dialogue.History} {c : Connection} {p : Port}

theorem closes_of_opening {o : Option (Except Error Connection)} {config : Config}
    (ht : Traces (Connection.establish config).run h o) :
    ∀ a ∈ ofCalls (Dialogue.calls h), a = .closes := by
  intro a ha
  obtain ⟨⟨c, answer⟩, hx, act⟩ := List.mem_filterMap.1 ha
  have named : c.name ∈ Opening.callNames :=
    (Opening.names_establish config).question ht _ (Dialogue.mem_calls hx)
  cases c with
  | command q =>
    cases q <;> simp [Opening.callNames, Call.name, Command.name] at named <;> cases act
  | release =>
    cases act
    rfl
  | _ => simp [Opening.callNames, Call.name] at named <;> cases act

theorem opened_without_acts {config : Config}
    (ht : Traces (Connection.establish config).run h (some (.ok c))) :
    ofCalls (Dialogue.calls h) = [] := by
  have isOpen := Connection.isOpen_of_establish ht
  obtain ⟨-, -, ⟨c', ho, -, fresh, -⟩ | ⟨e, ho, -⟩⟩ := Opening.establish_leaves ht
  · cases ho
    refine List.eq_nil_iff_forall_not_mem.2 fun a ha => ?_
    obtain rfl := closes_of_opening ht a ha
    obtain ⟨x, hx, act⟩ := List.mem_filterMap.1 ha
    refine fresh isOpen (List.mem_map.2 ⟨x, hx, ?_⟩)
    obtain ⟨c, answer⟩ := x
    cases c with
    | command q => cases q <;> simp [Act.ofCall, ite_eq_iff] at act
    | release => rfl
    | _ => cases act
  · cases ho

theorem deletes_of_drop (hc : c.isOpen = true) (open_ : p.isClosed = false) {β : Type} {b : β}
    {o : Option β} (ht : Traces (p.drop c >>= fun _ => .done b) h o) :
    ofCalls (Dialogue.calls h) = [.deletes p.id] ∧ o = some b := by
  unfold Port.drop Port.close at ht
  rw [if_neg (by simp [hc, open_]), bind_assoc, bind_assoc] at ht
  have ordered := Action.orders_execute c (.deletePort p.id)
  obtain ⟨h₁, r, h₂, rfl, ht₁, ht₂⟩ := Program.traces_bind_of_ends ordered.ends ht
  obtain ⟨status, rfl, -⟩ := Connection.traces_execute hc ht₁
  obtain ⟨rfl, rfl⟩ := Program.traces_done_iff.1 ht₂
  exact ⟨rfl, rfl⟩

variable {name : String} {capability : PortCapabilities}
  {work : Connection → Port → Dialogue Report}
  {does : Port → List Act → Option Report → Prop} {o : Option Report}

theorem acts_withPort (hc : c.isOpen = true)
    (hw : ∀ p {h o}, Traces (work c p) h o → does p (ofCalls (Dialogue.calls h)) o)
    (ht : Traces (withPort c name capability (work c)) h o) :
    (ofCalls (Dialogue.calls h) = [] ∧ ∃ f, o = some (.failed f)) ∨
      ∃ p acts, does p acts o ∧ ofCalls (Dialogue.calls h) =
        .creates p.id :: acts ++ if o.isSome then [.deletes p.id] else [] := by
  have ordered : Action.Orders (.createPort name capability .program)
      (fun id => ({ id, client := c.clientId } : Port)) (c.createPort name capability .program) :=
    Action.orders_named ((Action.orders_command c _).return _)
  obtain ⟨h₁, r, h₂, rfl, ht₁, ht₂⟩ := Program.traces_bind_of_ends ordered.ends ht
  rw [Dialogue.calls_append, ofCalls_append]
  rcases ordered h₁ _ ht₁ with ⟨e, he, fails⟩ | ⟨id, positive, hr, one⟩
  · cases he
    obtain ⟨rfl, rfl⟩ := Program.traces_done_iff.1 ht₂
    refine .inl ⟨?_, _, rfl⟩
    refine List.append_eq_nil_iff.2 ⟨List.filterMap_eq_nil_iff.2 fun x hx => ?_, rfl⟩
    obtain ⟨status, rfl, negative⟩ := fails x hx
    exact if_neg (Int.not_le.2 negative)
  · cases hr
    have created : ofCalls (Dialogue.calls h₁) = [.creates id] := by
      rw [one]
      exact List.filterMap_cons_some (if_pos positive)
    rw [created]
    rcases Program.traces_bind_iff.1 ht₂ with ⟨h₃, report, h₄, rfl, ht₃, ht₄⟩ | ⟨rfl, cut⟩
    · obtain ⟨deleted, rfl⟩ := deletes_of_drop hc rfl ht₄
      refine .inr ⟨⟨id, c.clientId, false⟩, _, hw _ ht₃, ?_⟩
      rw [Dialogue.calls_append, ofCalls_append, deleted]
      rfl
    · exact .inr ⟨⟨id, c.clientId, false⟩, _, hw _ cut, (List.append_nil _).symm⟩

theorem onPort_withConnection (does : Port → List Act → Option Report → Prop) {config : Config}
    (hw : ∀ c p {h o}, c.isOpen = true → Traces (work c p) h o →
      does p (ofCalls (Dialogue.calls h)) o)
    (ht : Traces (withConnection config fun c => withPort c name capability (work c)) h o) :
    OnPort does (ofCalls (Dialogue.calls h)) o := by
  obtain ⟨h₁, x, h₂, rfl, ht₁, ht₂⟩ :=
    Program.traces_bind_of_ends (Opening.establish config).ends ht
  cases x with
  | error e =>
    obtain ⟨rfl, rfl⟩ := Program.traces_done_iff.1 ht₂
    rw [List.append_nil]
    exact .unmade _ (closes_of_opening ht₁)
  | ok c =>
    have isOpen := Connection.isOpen_of_establish ht₁
    rw [Dialogue.calls_append, ofCalls_append, opened_without_acts ht₁, List.nil_append]
    rcases Program.traces_bind_iff.1 ht₂ with ⟨h₃, report, h₄, rfl, ht₃, ht₄⟩ | ⟨rfl, cut⟩
    · obtain ⟨released, rfl⟩ := Connection.traces_close isOpen ht₄
      have closed : ofCalls (Dialogue.calls h₄) = [.closes] := congrArg ofCalls released
      rw [Dialogue.calls_append, ofCalls_append, closed]
      rcases acts_withPort isOpen (fun p => hw c p isOpen) ht₃ with
        ⟨nothing, f, hf⟩ | ⟨p, acts, done, made⟩
      · cases hf
        rw [nothing]
        exact .unmade f fun a ha => List.mem_singleton.1 ha
      · rw [made, List.append_assoc]
        exact .made done (.inr rfl)
    · rcases acts_withPort isOpen (fun p => hw c p isOpen) cut with
        ⟨-, f, hf⟩ | ⟨p, acts, begun, made⟩
      · cases hf
      · rw [made, if_neg (by simp), List.append_nil]
        exact .cut begun

end

theorem OnPort.shows {does seen : Port → List Act → Option Report → Prop} {acts shown : List Act}
    {o : Option Report} (h : OnPort does acts o) (shows : Shows acts shown)
    (hs : ∀ p {acts shown o}, does p acts o → Shows acts shown → seen p shown o) :
    OnPort seen shown o := by
  cases h with
  | unmade failure closed => exact .unmade failure fun a ha => closed a (shows.sublist.subset ha)
  | made done closed =>
    obtain ⟨first, rest, rfl, begins, ends⟩ := shows.of_append
    obtain ⟨work, rfl, works⟩ := begins.required id
    obtain ⟨last, rfl, closes⟩ := ends.required id
    refine .made (hs _ done works) ?_
    rcases closed with rfl | rfl
    · exact .inl (List.sublist_nil.1 closes.sublist)
    · exact List.sublist_singleton.1 closes.sublist
  | cut begun =>
    obtain ⟨work, rfl, works⟩ := shows.required id
    exact .cut (hs _ begun works)

theorem onPort_run {σ χ : Type} (m : Native.Library σ) (change : χ → σ → σ) (s : Scene σ χ)
    (does : Port → List Act → Option Report → Prop) {p : Dialogue Report} {config : Config}
    {name : String} {capability : PortCapabilities} {work : Connection → Port → Dialogue Report}
    (performs : p = withConnection config fun c => withPort c name capability (work c))
    (hw : ∀ c p {h o}, c.isOpen = true → Traces (work c p) h o →
      does p (ofCalls (Dialogue.calls h)) o)
    (hs : ∀ p {acts shown o}, does p acts o → Shows acts shown → does p shown o) :
    let n := Native.Served.simulator (Machine.recorded m) (Native.unrecorded change)
    let r := p.run (Scene.answer n) (Native.Scene.served s)
    OnPort does (Act.ofLog r.2.sequencer.tables.2) r.1 := by
  intro n r
  obtain ⟨h, ht, shows⟩ : ∃ h, Traces p h r.1 ∧
      Shows (ofCalls (Dialogue.calls h)) (Act.ofLog r.2.sequencer.tables.2) :=
    Native.run_shows m change p s
  rw [performs] at ht
  exact (onPort_withConnection does hw ht).shows shows hs

end MidiSequencer.Cli
