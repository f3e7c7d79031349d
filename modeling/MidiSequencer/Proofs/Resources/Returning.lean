import MidiSequencer.Proofs.Resources.Asking

/-! # Making and giving back

The deeds of the operations that make an object, give objects back or release the sequencer. Giving
back always ends, and what it does never depends on an answer. -/
namespace MidiSequencer

/-- The deeds of a dialogue, when they are the same whatever the answers are. -/
def Dialogue.Does {α : Type} (p : Dialogue α) (deeds : List Deed) (R : α → Prop) : Prop :=
  ∀ h o, Program.Traces p h o → Call.deeds (Dialogue.calls h) = deeds ∧ ∃ a, o = some a ∧ R a

section

variable {α β : Type}

theorem Dialogue.does_done {R : α → Prop} {a : α} (ha : R a) :
    Dialogue.Does (.done a) [] R := by
  intro h o ht
  obtain ⟨rfl, rfl⟩ := Program.traces_done_iff.1 ht
  exact ⟨rfl, a, rfl, ha⟩

theorem Dialogue.Does.ends {p : Dialogue α} {deeds : List Deed} {R : α → Prop}
    (hp : Dialogue.Does p deeds R) (h : Dialogue.History) : ¬ Program.Traces p h none := by
  intro ht
  obtain ⟨-, a, ha, -⟩ := hp h none ht
  cases ha

theorem Dialogue.does_bind {p : Dialogue α} {f : α → Dialogue β} {R : α → Prop} {S : β → Prop}
    {deeds rest : List Deed} (hp : Dialogue.Does p deeds R)
    (hf : ∀ a, R a → Dialogue.Does (f a) rest S) : Dialogue.Does (p >>= f) (deeds ++ rest) S := by
  intro h o ht
  obtain ⟨h₁, a, h₂, rfl, ht₁, ht₂⟩ := Program.traces_bind_of_ends hp.ends ht
  obtain ⟨done, b, hb, hr⟩ := hp h₁ _ ht₁
  cases hb
  obtain ⟨next, value⟩ := hf a hr h₂ o ht₂
  refine ⟨?_, value⟩
  rw [Dialogue.calls_append, Call.deeds_append, done, next]

theorem Dialogue.does_return {p : Dialogue α} {R : α → Prop} {S : β → Prop} {deeds : List Deed}
    {f : α → β} (hp : Dialogue.Does p deeds R) (hf : ∀ a, R a → S (f a)) :
    Dialogue.Does (p >>= fun a => .done (f a)) deeds S := by
  simpa using Dialogue.does_bind hp fun a ha => Dialogue.does_done (a := f a) (hf a ha)

end

namespace Connection

variable (c : Connection)

theorem run_command (q : Command) : (c.command q).run =
    if c.isOpen then .ask (.call (.command q)) fun status =>
      .done (checkStatus (.command q) status)
    else .done (.error .closed) := by
  unfold Connection.command Connection.call
  split <;> rfl

theorem run_execute (q : Command) : (c.execute q).run =
    if c.isOpen then .ask (.call (.command q)) fun status =>
      .done ((checkStatus (.command q) status).map fun _ => ())
    else .done (.error .closed) := by
  unfold execute
  rw [ExceptT.run_bind, run_command]
  split
  · rw [Program.ask_bind]
    refine congrArg _ (funext fun status => ?_)
    rw [Program.done_bind]
    cases checkStatus (.command q) status <;> rfl
  · rfl

theorem traces_command {q : Command} {h : Dialogue.History} {o : Option (Except Error Status)}
    (ht : Program.Traces (c.command q).run h o) :
    (c.isOpen = false ∧ h = [] ∧ o = some (.error .closed)) ∨
    (c.isOpen = true ∧ ∃ status : Status, h = [⟨.call (.command q), status⟩] ∧
      o = some (checkStatus (.command q) status)) := by
  rw [run_command] at ht
  split at ht
  · next hc =>
    obtain ⟨status, t, rfl, hd⟩ := Program.traces_ask_iff.1 ht
    obtain ⟨rfl, rfl⟩ := Program.traces_done_iff.1 hd
    exact .inr ⟨hc, status, rfl, rfl⟩
  · next hc =>
    obtain ⟨rfl, rfl⟩ := Program.traces_done_iff.1 ht
    exact .inl ⟨by simpa using hc, rfl, rfl⟩

variable {c} in
theorem traces_execute (hc : c.isOpen = true) {q : Command} {h : Dialogue.History}
    {o : Option (Except Error Unit)} (ht : Program.Traces (c.execute q).run h o) :
    ∃ status : Status, h = [⟨.call (.command q), status⟩] ∧ o = some (if status < 0 then
      .error (.service (Call.label (.command q)) status) else .ok ()) := by
  rw [run_execute, if_pos hc] at ht
  obtain ⟨status, t, rfl, done⟩ := Program.traces_ask_iff.1 ht
  obtain ⟨rfl, rfl⟩ := Program.traces_done_iff.1 done
  refine ⟨status, rfl, congrArg some ?_⟩
  unfold checkStatus
  split <;> rfl

theorem command_ends (q : Command) (h : Dialogue.History) :
    ¬ Program.Traces (c.command q).run h none := by
  intro ht
  rcases c.traces_command ht with ⟨-, -, ho⟩ | ⟨-, status, -, ho⟩ <;> cases ho

variable {α β : Type}

/-- Fails without a deed, or makes one object, whose number it hands on. -/
def Makes (r : Resource) (wrap : Int → α) (a : Action α) : Prop :=
  ∀ h o, Program.Traces a.run h o →
    (∃ e, o = some (.error e) ∧ (∀ d ∈ Call.deeds (Dialogue.calls h), d = .other) ∧
      (c.isOpen = false → Dialogue.calls h = [])) ∨
    (c.isOpen = true ∧ ∃ id, Call.deeds (Dialogue.calls h) = [.makes r id] ∧
      o = some (.ok (wrap id)))

variable {c}

theorem traces_close (hc : c.isOpen = true) {b : β} {h : Dialogue.History} {o : Option β}
    (ht : Program.Traces (c.close >>= fun _ => .done b) h o) :
    Dialogue.calls h = [⟨.release, ()⟩] ∧ o = some b := by
  unfold Connection.close at ht
  rw [hc] at ht
  obtain ⟨answer, t, rfl, hd⟩ := Program.traces_ask_iff.1 ht
  obtain ⟨rfl, rfl⟩ := Program.traces_done_iff.1 hd
  exact ⟨rfl, rfl⟩

theorem Makes.ends {r : Resource} {wrap : Int → α} {a : Action α} (ha : c.Makes r wrap a)
    (h : Dialogue.History) : ¬ Program.Traces a.run h none := by
  intro ht
  rcases ha h none ht with ⟨e, ho, -⟩ | ⟨-, id, -, ho⟩ <;> cases ho

theorem makes_command {r : Resource} {q : Command}
    (hq : ∀ status : Status, Deed.ofCall (.command q) status =
      if status < 0 then .other else .makes r status) :
    c.Makes r (fun id => id) (c.command q) := by
  intro h o ht
  rcases c.traces_command ht with ⟨hc, rfl, rfl⟩ | ⟨hc, status, rfl, rfl⟩
  · exact .inl ⟨_, rfl, by simp [Dialogue.calls, Call.deeds], fun _ => rfl⟩
  · by_cases hs : status < 0
    · refine .inl ⟨.service (Call.command q).label status, by simp [checkStatus, hs], ?_,
        by simp [hc]⟩
      simp [Dialogue.calls, Call.deeds, hq, hs]
    · exact .inr ⟨hc, status, by simp [Dialogue.calls, Call.deeds, hq, hs],
        by simp [checkStatus, hs]⟩

theorem makes_checked {r : Resource} {wrap : Int → α} (e : Except Error β) {f : β → Action α}
    (hf : ∀ b, c.Makes r wrap (f b)) : c.Makes r wrap (liftM e >>= f) := by
  cases e with
  | error e =>
    intro h o ht
    obtain ⟨rfl, rfl⟩ := Program.traces_done_iff.1 ht
    exact .inl ⟨e, rfl, by simp [Dialogue.calls, Call.deeds], fun _ => rfl⟩
  | ok b => exact hf b

theorem makes_return {r : Resource} {a : Action Int} (ha : c.Makes r (fun id => id) a)
    (wrap : Int → α) : c.Makes r wrap (a >>= fun id => pure (wrap id)) := by
  intro h o ht
  rw [ExceptT.run_bind] at ht
  obtain ⟨h₁, result, h₂, rfl, ht₁, ht₂⟩ := Program.traces_bind_of_ends ha.ends ht
  rcases ha h₁ _ ht₁ with ⟨e, he, others, closed⟩ | ⟨hc, id, deeds, hid⟩
  · cases he
    obtain ⟨rfl, rfl⟩ := Program.traces_done_iff.1 ht₂
    rw [List.append_nil]
    exact .inl ⟨e, rfl, others, closed⟩
  · cases hid
    obtain ⟨rfl, rfl⟩ := Program.traces_done_iff.1 ht₂
    rw [List.append_nil]
    exact .inr ⟨hc, id, deeds, rfl⟩

theorem makes_port (name : String) (capability : PortCapabilities) (portType : PortType) :
    c.Makes .port (fun id => { id, client := c.clientId })
      (c.createPort name capability portType) :=
  makes_checked _ fun _ => makes_return (makes_command fun _ => rfl) _

theorem makes_queue (name : Option String) :
    c.Makes .queue (fun id => { id }) (c.createQueue name) :=
  makes_checked _ fun _ => makes_return (makes_command fun _ => rfl) _

def returning (c : Connection) (r : Resource) (x : Held) : List Deed :=
  if c.isOpen && !x.isClosed then [.returns r x.id] else []

theorem does_execute {q : Command} (hc : c.isOpen = true) {d : Deed}
    (hq : ∀ status : Status, Deed.ofCall (.command q) status = d) :
    Dialogue.Does (c.execute q).run [d] fun _ => True := by
  intro h o ht
  unfold execute at ht
  rw [ExceptT.run_bind] at ht
  obtain ⟨h₁, result, h₂, rfl, ht₁, ht₂⟩ := Program.traces_bind_of_ends (c.command_ends q) ht
  rcases c.traces_command ht₁ with ⟨hn, -⟩ | ⟨-, status, rfl, -⟩
  · simp [hc] at hn
  · cases result <;> obtain ⟨rfl, rfl⟩ := Program.traces_done_iff.1 ht₂ <;>
      exact ⟨by simp [Dialogue.calls, Call.deeds, hq], _, rfl, trivial⟩

theorem does_close (c : Connection) :
    Dialogue.Does c.close (if c.isOpen then [.releases] else []) fun c' => c'.isOpen = false := by
  unfold Connection.close
  split
  · intro h o ht
    obtain ⟨_, t, rfl, hd⟩ := Program.traces_ask_iff.1 ht
    obtain ⟨rfl, rfl⟩ := Program.traces_done_iff.1 hd
    exact ⟨rfl, _, rfl, rfl⟩
  · next hc => exact Dialogue.does_done (by simpa using hc)

end Connection

namespace Connection

theorem does_giveBack (c : Connection) {α : Type} (r : Resource) (x : Held) {q : Command}
    (hq : ∀ status : Status, Deed.ofCall (.command q) status = .returns r x.id) (closed : α) :
    Dialogue.Does
      (if x.isClosed || !c.isOpen then .done (.ok (), closed)
        else (c.execute q).run >>= fun result => .done (result, closed))
      (c.returning r x) fun y => y.2 = closed := by
  unfold returning
  cases hc : c.isOpen <;> cases hx : x.isClosed
  case true.false =>
    exact Dialogue.does_return (does_execute hc hq) fun _ _ => rfl
  all_goals exact Dialogue.does_done rfl

end Connection

def Port.held (p : Port) : Held := ⟨p.id, p.isClosed⟩

def Queue.held (q : Queue) : Held := ⟨q.id, q.isClosed⟩

theorem Port.does_close (p : Port) (c : Connection) :
    Dialogue.Does (p.close c) (c.returning .port p.held) fun y =>
      y.2 = { p with isClosed := true } :=
  c.does_giveBack .port p.held (fun _ => rfl) _

theorem Queue.does_close (q : Queue) (c : Connection) :
    Dialogue.Does (q.close c) (c.returning .queue q.held) fun y =>
      y.2 = { q with isClosed := true } :=
  c.does_giveBack .queue q.held (fun _ => rfl) _

theorem Port.does_drop (p : Port) (c : Connection) :
    Dialogue.Does (p.drop c) (c.returning .port p.held) fun _ => True :=
  Dialogue.does_return (p.does_close c) fun _ _ => trivial

theorem Queue.does_drop (q : Queue) (c : Connection) :
    Dialogue.Does (q.drop c) (c.returning .queue q.held) fun _ => True :=
  Dialogue.does_return (q.does_close c) fun _ _ => trivial

/-! What a session holds. -/

structure Holdings where
  isOpen : Bool
  shelf : Resource → Shelf

namespace Holdings

def put (H : Holdings) (r : Resource) (shelf : Shelf) : Holdings :=
  { H with shelf := fun r' => if r' = r then shelf else H.shelf r' }

def clearing (H : Holdings) : List Deed :=
  (H.shelf .port).dues.map (.returns .port) ++ (H.shelf .queue).dues.map (.returns .queue)

/-- Closing the connection, for a suspending client after everything on it. -/
def closing (mode : Mode) (H : Holdings) : List Deed :=
  if H.isOpen then
    (match mode with
      | .blocking => []
      | .suspending => H.clearing) ++ [.releases]
  else []

end Holdings

namespace Session

variable (s : Session)

def holdings : Holdings where
  isOpen := s.connection.isOpen
  shelf
    | .port => s.ports.map (·.map Port.held)
    | .queue => s.queues.map (·.map Queue.held)

variable {s}

theorem does_dropAll {α : Type} {drop : α → Connection → Dialogue Unit} {r : Resource}
    {held : α → Held} {c : Connection}
    (hd : ∀ a, Dialogue.Does (drop a c) (c.returning r (held a)) fun _ => True)
    (slots : List (Option α)) :
    Dialogue.Does (dropAll drop c slots)
      (if c.isOpen then (Shelf.dues (slots.map (·.map held))).map (.returns r) else [])
      fun _ => True := by
  induction slots with
  | nil => cases c.isOpen <;> exact Dialogue.does_done trivial
  | cons place rest ih =>
    cases place with
    | none => exact ih
    | some a =>
      have both := Dialogue.does_bind (hd a) fun _ _ => ih
      unfold Connection.returning at both
      unfold Shelf.dues at both ⊢
      cases hc : c.isOpen <;> cases ha : (held a).isClosed <;>
        simpa [dropAll, hc, ha] using both

theorem does_clear (s : Session) :
    Dialogue.Does s.clear (if s.connection.isOpen then s.holdings.clearing else []) fun s' =>
      s' = { s with ports := [], queues := [] } := by
  have both := Dialogue.does_bind (does_dropAll (fun p => p.does_drop s.connection) s.ports)
    fun _ _ => Dialogue.does_return (f := fun _ => { s with ports := [], queues := [] })
      (S := fun s' => s' = { s with ports := [], queues := [] })
      (does_dropAll (fun q => q.does_drop s.connection) s.queues) fun _ _ => rfl
  unfold Holdings.clearing
  cases hc : s.connection.isOpen <;> simp only [hc] at both <;> exact both

theorem does_release (s : Session) :
    Dialogue.Does (s.connection.close >>= fun c => .done { s with connection := c })
      (if s.connection.isOpen then [.releases] else []) fun s' =>
      s'.mode = s.mode ∧ s'.connection.isOpen = false :=
  Dialogue.does_return s.connection.does_close fun _ hc => ⟨rfl, hc⟩

theorem does_finish (s : Session) :
    Dialogue.Does s.finish (s.holdings.closing .suspending) fun s' =>
      s'.mode = s.mode ∧ s'.connection.isOpen = false := by
  have release (s' : Session) (hs : s' = { s with ports := [], queues := [] }) :
      Dialogue.Does (s'.connection.close >>= fun c => .done { s' with connection := c })
        (if s.connection.isOpen then [.releases] else []) fun s' =>
        s'.mode = s.mode ∧ s'.connection.isOpen = false := by
    subst hs
    exact does_release { s with ports := [], queues := [] }
  have both := Dialogue.does_bind s.does_clear release
  unfold Holdings.closing
  cases hc : s.connection.isOpen <;> simp only [hc, holdings] at both ⊢ <;> exact both

theorem does_close (s : Session) :
    Dialogue.Does s.close (s.holdings.closing s.mode) fun s' =>
      s'.mode = s.mode ∧ s'.connection.isOpen = false := by
  obtain ⟨mode, c, ports, queues⟩ := s
  cases mode with
  | blocking => exact does_release ⟨.blocking, c, ports, queues⟩
  | suspending => exact does_finish ⟨.suspending, c, ports, queues⟩

end Session

end MidiSequencer
