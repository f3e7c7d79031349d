import MidiSequencer.Cli.Perform
import MidiSequencer.Proofs.Resources.Sessions

/-! # Accounts of commands

A command gives back the port it made and closes the connection it opened, however its work
ended. -/
namespace MidiSequencer.Cli

open Connection

/-! The work of the commands asks plain calls only. -/

section

variable {c : Connection}

theorem asks_reportLines {failure : Error → Failure} {a : Action (List String)}
    (ha : c.Asks a.run) : c.Asks (reportLines failure a) := by
  apply asks_bind ha
  intro result
  cases result <;> exact asks_done _

theorem asks_list (o : ListOptions) (steps : Nat) : c.Asks (o.perform steps c) :=
  asks_reportLines (asks_sequence (asks_listPorts _ _) fun _ => asks_done _)

theorem asks_clients (json : Bool) (steps : Nat) : c.Asks (performClients json steps c) :=
  asks_reportLines (asks_sequence (asks_fold asks_nextClient (fun _ _ => asks_done _) _ _ _)
    fun _ => asks_done _)

theorem asks_connectAll (p : Port) (sources : List Address) :
    c.Asks (DumpOptions.connectAll p c sources) := by
  induction sources with
  | nil => exact asks_done _
  | cons sender rest ih =>
    apply asks_bind (asks_sequence (asks_checked _) fun _ => asks_execute rfl)
    intro result
    cases result with
    | ok _ => exact ih
    | error e => exact asks_done _

theorem asks_listen (mode : Mode) (timeout : Option Duration) (attempts steps : Nat)
    (lines : List String) : c.Asks (DumpOptions.listen c mode timeout attempts steps lines) := by
  induction steps generalizing lines with
  | zero => trivial
  | succ steps ih =>
    apply asks_bind (asks_wait asks_tryInput _ _ _ _)
    intro result
    rcases result with err | (_ | e)
    · exact asks_done _
    · exact asks_done _
    · exact ih _

theorem asks_sendDirect (e : Event) (route : Route) (late : Failure) (attempts : Nat) :
    c.Asks (SendOptions.sendDirect c e route late attempts) := by
  apply asks_bind (asks_wait (asks_tryOutputRecord _ _) _ _ _ _)
  intro result
  rcases result with err | (_ | status) <;> exact asks_done _

end

/-- The deeds of a command between its opening and its closing: nothing at all, or a port of its own
that is given back in the end. -/
inductive Work : List Deed → Bool → Prop where
  | plain {deeds finished} : (∀ d ∈ deeds, d = .other) → Work deeds finished
  | port {deeds} (finished : Bool) (id : Int) : (∀ d ∈ deeds, d = .other) →
      Work (.makes .port id :: deeds ++ if finished then [.returns .port id] else []) finished

theorem Work.mem {deeds : List Deed} {finished : Bool} (hw : Work deeds finished) {d : Deed}
    (hd : d ∈ deeds) : d = .other ∨ ∃ id, d = .makes .port id ∨ d = .returns .port id := by
  cases hw with
  | plain others => exact .inl (others d hd)
  | port _ id others =>
    rcases List.mem_append.1 hd with hd | hd
    · rcases List.mem_cons.1 hd with hd | hd
      · exact .inr ⟨id, .inl hd⟩
      · exact .inl (others d hd)
    · cases finished with
      | false => cases hd
      | true => exact .inr ⟨id, .inr (List.mem_singleton.1 hd)⟩

theorem Work.settles {deeds before : List Deed} (hw : Work deeds true) {r : Resource}
    (h : Settles r before [] []) : ∃ objects settled, Settles r (before ++ deeds) objects settled ∧
      ∀ k < objects.length, k ∈ settled := by
  cases r with
  | queue =>
    refine ⟨[], [], h.append_others fun d hd => ?_, by simp⟩
    rcases hw.mem hd with rfl | ⟨id, rfl | rfl⟩ <;> rfl
  | port =>
    cases hw with
    | plain others => exact ⟨[], [], h.append_others fun d hd => others d hd ▸ rfl, by simp⟩
    | port _ id others =>
      have made := (h.makes id).append_others fun d hd => others d hd ▸ rfl
      have settled := made.returns 0 rfl (by simp)
      exact ⟨[id], [0], by simpa using settled, by simp⟩

theorem Work.releases_not_mem {deeds : List Deed} {finished : Bool} (hw : Work deeds finished) :
    .releases ∉ deeds := by
  intro hd
  rcases hw.mem hd with h | ⟨id, h | h⟩ <;> cases h

theorem Work.isOpening {deeds : List Deed} {finished : Bool} (hw : Work deeds finished) :
    ∀ d ∈ deeds, d.isOpening = false := by
  intro d hd
  rcases hw.mem hd with rfl | ⟨id, rfl | rfl⟩ <;> rfl

theorem work_of_asks {c : Connection} {p : Dialogue Report} (hp : c.Asks p)
    {h : Dialogue.History} {o : Option Report} (ht : Program.Traces p h o) :
    Work (Call.deeds (Dialogue.calls h)) o.isSome :=
  .plain (hp.deeds ht)

theorem work_withPort {c : Connection} (hc : c.isOpen = true) {name : String}
    {capability : PortCapabilities} {work : Port → Dialogue Report} (hw : ∀ p, c.Asks (work p))
    {h : Dialogue.History} {o : Option Report}
    (ht : Program.Traces (withPort c name capability work) h o) :
    Work (Call.deeds (Dialogue.calls h)) o.isSome := by
  have makes := makes_port (c := c) name capability .program
  obtain ⟨h₁, x, h₂, rfl, ht₁, ht₂⟩ := Program.traces_bind_of_ends makes.ends ht
  rcases makes h₁ _ ht₁ with ⟨e, he, others, -⟩ | ⟨-, id, made, hid⟩
  · cases he
    obtain ⟨rfl, rfl⟩ := Program.traces_done_iff.1 ht₂
    rw [List.append_nil]
    exact .plain others
  · cases hid
    rw [Dialogue.calls_append, Call.deeds_append, made]
    -- the work may be cut short, and then nothing is given back yet
    rcases Program.traces_bind_iff.1 ht₂ with ⟨h₃, report, h₄, rfl, ht₃, ht₄⟩ | ⟨rfl, cut⟩
    · have drops := Dialogue.does_return (f := fun _ => report) (S := fun _ => True)
        (Port.does_drop { id, client := c.clientId } c) fun _ _ => trivial
      obtain ⟨returned, a, rfl, -⟩ := drops h₄ o ht₄
      rw [Dialogue.calls_append, Call.deeds_append, returned]
      simpa [returning, Port.held, hc] using Work.port true id ((hw _).deeds ht₃)
    · simpa using Work.port false id ((hw _).deeds cut)

def Cleared (deeds : List Deed) : Prop :=
  ∀ r, ∃ objects settled, Settles r deeds objects settled ∧ ∀ k < objects.length, k ∈ settled

theorem cleared_of_untouched {deeds : List Deed} (h : Untouched deeds) : Cleared deeds :=
  fun r => ⟨[], [], h.settles r, by simp⟩

structure CommandPaired (config : Config) (deeds : List Deed) : Prop where
  account : Cleared deeds
  released : Released (.establish config) deeds
  front : OpensFirst deeds

theorem withConnection_paired {config : Config} {work : Connection → Dialogue Report}
    (hw : ∀ c, c.isOpen = true → ∀ h o, Program.Traces (work c) h o →
      Work (Call.deeds (Dialogue.calls h)) o.isSome) {h : Dialogue.History} {report : Report}
    (ht : Program.Traces (withConnection config work) h (some report)) :
    CommandPaired config (Call.deeds (Dialogue.calls h)) := by
  obtain ⟨h₁, x, h₂, rfl, ht₁, ht₂⟩ :=
    Program.traces_bind_of_ends (Opening.establish config).ends ht
  obtain ⟨untouched, front, ⟨c, ho, delivers, fresh, -⟩ | ⟨e, ho, released⟩⟩ :=
    Opening.establish_leaves ht₁
  · cases ho
    have hc := isOpen_of_establish ht₁
    rcases Program.traces_bind_iff.1 ht₂ with ⟨h₃, r, h₄, rfl, ht₃, ht₄⟩ | ⟨hn, -⟩
    · have closes := Dialogue.does_return (f := fun _ => r) (S := fun _ => True)
        c.does_close fun _ _ => trivial
      rw [if_pos hc] at closes
      have done : Work (Call.deeds (Dialogue.calls h₃)) true := hw c hc h₃ _ ht₃
      have all : Call.deeds (Dialogue.calls (h₁ ++ (h₃ ++ h₄))) =
          Call.deeds (Dialogue.calls h₁) ++ (Call.deeds (Dialogue.calls h₃) ++ [.releases]) := by
        simp only [Dialogue.calls_append, Call.deeds_append, (closes h₄ _ ht₄).1]
      rw [all]
      constructor
      · intro r
        obtain ⟨objects, settled, hs, back⟩ := done.settles (untouched.settles r)
        rw [← List.append_assoc]
        exact ⟨objects, settled, hs.other rfl, back⟩
      · constructor
        · intro _
          exact .of (fresh hc) done.releases_not_mem
        · intro hn
          exact absurd (List.mem_append_left _ delivers) hn
      · rw [← List.append_assoc]
        exact (front.append done.isOpening).append releases_isOpening
    · cases hn
  · cases ho
    obtain ⟨rfl, -⟩ := Program.traces_done_iff.1 ht₂
    rw [List.append_nil]
    exact ⟨cleared_of_untouched untouched, released, front⟩

theorem refused_paired {config : Config} {failure : Failure} {h : Dialogue.History}
    {report : Report}
    (ht : Program.Traces (.done (.failed failure) : Dialogue Report) h (some report)) :
    CommandPaired config (Call.deeds (Dialogue.calls h)) := by
  obtain ⟨rfl, -⟩ := Program.traces_done_iff.1 ht
  exact ⟨fun r => ⟨[], [], .nil, by simp⟩, ⟨nofun, fun _ => List.not_mem_nil⟩,
    List.forall_mem_nil _⟩

theorem Invocation.perform_paired {i : Invocation} {bound : Nat} {h : Dialogue.History}
    {report : Report} (ht : Program.Traces (i.perform bound) h (some report)) :
    CommandPaired i.config (Call.deeds (Dialogue.calls h)) := by
  unfold Invocation.perform at ht
  split at ht
  · exact withConnection_paired (fun c _ h o => work_of_asks (asks_list _ _)) ht
  · exact withConnection_paired (fun c _ h o => work_of_asks (asks_clients _ _)) ht
  · split at ht
    · refine withConnection_paired (fun c hc h o => work_withPort hc fun p => ?_) ht
      apply asks_bind (asks_connectAll p _)
      intro failure
      cases failure with
      | none => exact asks_listen _ _ _ _ _
      | some f => exact asks_done _
    · exact refused_paired ht
  · split at ht
    · refine withConnection_paired (fun c hc h o => work_withPort hc fun p => ?_) ht
      apply asks_bind (asks_sendDirect _ _ _ _)
      intro failure
      cases failure with
      | none =>
        exact asks_bind (asks_query (.pause _) trivial) fun _ =>
          asks_bind (asks_sendDirect _ _ _ _) fun _ => asks_done _
      | some f => exact asks_done _
    · exact refused_paired ht
  · refine withConnection_paired (fun c _ h o => work_of_asks (c := c) (asks_reportLines ?_)) ht
    exact asks_sequence (asks_execute rfl) fun _ => asks_done _
  · refine withConnection_paired (fun c _ h o => work_of_asks (c := c) (asks_reportLines ?_)) ht
    exact asks_sequence (asks_execute rfl) fun _ => asks_done _

/-- Whatever a command meets with, it leaves nothing behind. -/
theorem run_paired {σ χ : Type} (m : Simulator σ χ) (i : Invocation) (bound : Nat)
    (s : Scene σ χ) (report : Report)
    (hr : ((i.perform bound).run (Scene.answer m.recorded) s.recorded).1 = some report) :
    CommandPaired i.config
      ((i.perform bound).run (Scene.answer m.recorded) s.recorded).2.deeds := by
  obtain ⟨h, ht, hd⟩ := Dialogue.run_deeds m (i.perform bound) s.recorded
  rw [hr] at ht
  rw [hd]
  exact Invocation.perform_paired ht

end MidiSequencer.Cli
