import MidiSequencer.Proofs.Resources.Standing

/-! # Openings

How a session gets its connection. Whoever holds the sequencer when this fails has released it
again. -/
namespace MidiSequencer

/-- An open sequencer is taken over, and the connection perhaps closed at once; or one is opened. -/
inductive Opening where
  | adopt (clientName : String) (streams : Streams) (closedFirst : Bool)
  | establish (config : Config)

namespace Opening

def perform : Opening → Action Connection
  | adopt clientName streams closedFirst => do
    let c ← Connection.adopt clientName streams
    if closedFirst then ExceptT.lift c.close else return c
  | establish config => Connection.establish config

def Delivers : Opening → List Deed → Prop
  | adopt .., _ => True
  | establish _, deeds => .opens ∈ deeds

end Opening

structure Released (opening : Opening) (deeds : List Deed) : Prop where
  held : opening.Delivers deeds → Concluded deeds
  refused : ¬ opening.Delivers deeds → .releases ∉ deeds

def Untouched (deeds : List Deed) : Prop :=
  ∀ d ∈ deeds, ∀ r, d.concerns r = false

theorem Untouched.append {deeds rest : List Deed} (hd : Untouched deeds) (hr : Untouched rest) :
    Untouched (deeds ++ rest) := by
  intro d hm
  rcases List.mem_append.1 hm with hm | hm
  · exact hd d hm
  · exact hr d hm

theorem untouched_of_others {deeds : List Deed} (hd : ∀ d ∈ deeds, d = .other) :
    Untouched deeds := by
  intro d hm r
  rw [hd d hm]
  rfl

theorem Untouched.settles {deeds : List Deed} (hd : Untouched deeds) (r : Resource) :
    Settles r deeds [] [] := by
  simpa using Settles.nil.append_others fun d hm => hd d hm r

def Dialogue.Plainly {α : Type} (p : Dialogue α) (R : α → Prop) : Prop :=
  ∀ h o, Program.Traces p h o →
    (∀ d ∈ Call.deeds (Dialogue.calls h), d = .other) ∧ ∃ a, o = some a ∧ R a

section

variable {α β : Type} {R : α → Prop} {S : β → Prop}

theorem Dialogue.plainly_done {a : α} (ha : R a) : Dialogue.Plainly (.done a) R := by
  intro h o ht
  obtain ⟨rfl, rfl⟩ := Program.traces_done_iff.1 ht
  exact ⟨by simp [Dialogue.calls, Call.deeds], a, rfl, ha⟩

theorem Dialogue.Plainly.ends {p : Dialogue α} (hp : Dialogue.Plainly p R)
    (h : Dialogue.History) : ¬ Program.Traces p h none := by
  intro ht
  obtain ⟨-, a, ha, -⟩ := hp h none ht
  cases ha

theorem Dialogue.plainly_bind {p : Dialogue α} {f : α → Dialogue β} (hp : Dialogue.Plainly p R)
    (hf : ∀ a, R a → Dialogue.Plainly (f a) S) : Dialogue.Plainly (p >>= f) S := by
  intro h o ht
  obtain ⟨h₁, a, h₂, rfl, ht₁, ht₂⟩ := Program.traces_bind_of_ends hp.ends ht
  obtain ⟨first, b, hb, hr⟩ := hp h₁ _ ht₁
  cases hb
  obtain ⟨second, value⟩ := hf a hr h₂ o ht₂
  refine ⟨fun d hd => ?_, value⟩
  rw [Dialogue.calls_append, Call.deeds_append] at hd
  rcases List.mem_append.1 hd with hd | hd
  · exact first d hd
  · exact second d hd

theorem Action.plainly_perform {c : Call} (hc : c.isPlain = true) :
    Dialogue.Plainly (Action.perform c).run fun _ => True := by
  intro h o ht
  obtain ⟨answer, t, rfl, hd⟩ := Program.traces_ask_iff.1 ht
  obtain ⟨rfl, rfl⟩ := Program.traces_done_iff.1 hd
  refine ⟨fun d hd => ?_, _, rfl, trivial⟩
  rw [List.mem_singleton.1 hd]
  exact Deed.ofCall_of_isPlain hc answer

theorem Action.plainly_sequence {a : Action α} {f : α → Action β} {S : Except Error β → Prop}
    (ha : Dialogue.Plainly a.run fun _ => True) (hf : ∀ x, Dialogue.Plainly (f x).run S)
    (he : ∀ e, S (.error e)) : Dialogue.Plainly (a >>= f).run S := by
  rw [ExceptT.run_bind]
  apply Dialogue.plainly_bind ha
  intro result _
  cases result with
  | ok x => exact hf x
  | error e => exact Dialogue.plainly_done (he e)

theorem Action.plainly_checked {e : Except Error α} {f : α → Action β} {S : Except Error β → Prop}
    (hf : ∀ x, Dialogue.Plainly (f x).run S) (he : ∀ e, S (.error e)) :
    Dialogue.Plainly (liftM e >>= f : Action β).run S :=
  Action.plainly_sequence (Dialogue.plainly_done trivial) hf he

end

namespace Connection

theorem plainly_register (clientName : String) (streams : Streams) :
    Dialogue.Plainly (register clientName streams).run fun x =>
      ∀ c, x = .ok c → c.isOpen = true := by
  refine Action.plainly_checked (fun name => ?_) nofun
  refine Action.plainly_sequence (Action.plainly_perform rfl) (fun status => ?_) nofun
  refine Action.plainly_checked (fun _ => ?_) nofun
  refine Action.plainly_sequence (Action.plainly_perform rfl) (fun status => ?_) nofun
  refine Action.plainly_checked (fun clientId => ?_) nofun
  refine Action.plainly_sequence (Action.plainly_perform rfl) (fun answer => ?_) nofun
  refine Action.plainly_checked (fun reported => ?_) nofun
  refine Action.plainly_checked (fun _ => ?_) nofun
  refine Dialogue.plainly_done ?_
  rintro c ⟨⟩
  rfl

theorem run_adopt (clientName : String) (streams : Streams) :
    (adopt clientName streams).run = (register clientName streams).run >>= fun
      | .ok c => .done (.ok c)
      | .error e => .ask (.call .release) fun _ => .done (.error e) := by
  refine congrArg (Program.bind _) (funext fun x => ?_)
  cases x <;> rfl

/-- A connection that comes about is open, and a sequencer without one is released. -/
theorem traces_adopt {clientName : String} {streams : Streams} {h : Dialogue.History}
    {o : Option (Except Error Connection)}
    (ht : Program.Traces (adopt clientName streams).run h o) :
    ∃ before, (∀ d ∈ before, d = .other) ∧
      ((∃ c, o = some (.ok c) ∧ c.isOpen = true ∧ Call.deeds (Dialogue.calls h) = before) ∨
      (∃ e, o = some (.error e) ∧ Call.deeds (Dialogue.calls h) = before ++ [.releases])) := by
  rw [run_adopt] at ht
  have plainly := plainly_register clientName streams
  obtain ⟨h₁, x, h₂, rfl, ht₁, ht₂⟩ := Program.traces_bind_of_ends plainly.ends ht
  obtain ⟨others, y, hy, isOpen⟩ := plainly h₁ _ ht₁
  cases hy
  refine ⟨_, others, ?_⟩
  cases x with
  | ok c =>
    obtain ⟨rfl, rfl⟩ := Program.traces_done_iff.1 ht₂
    exact .inl ⟨c, rfl, isOpen c rfl, by simp⟩
  | error e =>
    obtain ⟨answer, t, rfl, hd⟩ := Program.traces_ask_iff.1 ht₂
    obtain ⟨rfl, rfl⟩ := Program.traces_done_iff.1 hd
    exact .inr ⟨e, rfl, by simp [Dialogue.calls, Call.deeds, Deed.ofCall]⟩

theorem adopt_ends (clientName : String) (streams : Streams) (h : Dialogue.History) :
    ¬ Program.Traces (adopt clientName streams).run h none := by
  intro ht
  obtain ⟨before, -, ⟨c, ho, -⟩ | ⟨e, ho, -⟩⟩ := traces_adopt ht <;> cases ho

theorem run_establish {config : Config} {sequencer : String}
    (hn : checkName config.sequencer = .ok sequencer) :
    (establish config).run =
      .ask (.call (.command (.openSequencer sequencer config.streams config.mode)))
        fun (status : Status) =>
          if status < 0 then .done (.error (.service "snd_seq_open" status))
          else (adopt config.clientName config.streams).run := by
  have checked (x : Except Error Status) :
      ((liftM x : Action Status) >>= fun _ => adopt config.clientName config.streams).run =
        match x with
        | .ok _ => (adopt config.clientName config.streams).run
        | .error e => .done (.error e) := by
    cases x <;> rfl
  unfold establish
  rw [hn]
  refine congrArg (Program.ask _) (funext fun (status : Status) => (checked _).trans ?_)
  by_cases hs : status < 0
  · simp only [checkStatus, if_pos hs]
    rfl
  · simp only [checkStatus, if_neg hs]

theorem traces_establish {config : Config} {h : Dialogue.History}
    {o : Option (Except Error Connection)} (ht : Program.Traces (establish config).run h o) :
    (∃ e, o = some (.error e) ∧
      (Call.deeds (Dialogue.calls h) = [] ∨ Call.deeds (Dialogue.calls h) = [.refuses])) ∨
    ∃ before, (∀ d ∈ before, d = .other) ∧
      ((∃ c, o = some (.ok c) ∧ c.isOpen = true ∧
        Call.deeds (Dialogue.calls h) = .opens :: before) ∨
      (∃ e, o = some (.error e) ∧
        Call.deeds (Dialogue.calls h) = .opens :: (before ++ [.releases]))) := by
  cases hn : checkName config.sequencer with
  | error e =>
    unfold establish at ht
    rw [hn] at ht
    obtain ⟨rfl, rfl⟩ := Program.traces_done_iff.1 ht
    exact .inl ⟨e, rfl, .inl rfl⟩
  | ok sequencer =>
    rw [run_establish hn] at ht
    obtain ⟨status, t, rfl, hd⟩ := Program.traces_ask_iff.1 ht
    have first : Call.deeds (Dialogue.calls (⟨.call (.command (.openSequencer sequencer
        config.streams config.mode)), status⟩ :: t)) =
        (if status < 0 then .refuses else .opens) :: Call.deeds (Dialogue.calls t) := rfl
    rw [first]
    by_cases hs : status < 0
    · rw [if_pos hs] at hd ⊢
      obtain ⟨rfl, rfl⟩ := Program.traces_done_iff.1 hd
      exact .inl ⟨_, rfl, .inr rfl⟩
    · rw [if_neg hs] at hd ⊢
      obtain ⟨before, others, ⟨c, ho, hc, hb⟩ | ⟨e, ho, hb⟩⟩ := traces_adopt hd
      · exact .inr ⟨before, others, .inl ⟨c, ho, hc, by rw [hb]⟩⟩
      · exact .inr ⟨before, others, .inr ⟨e, ho, by rw [hb]⟩⟩

theorem isOpen_of_establish {config : Config} {h : Dialogue.History} {c : Connection}
    (ht : Program.Traces (establish config).run h (some (.ok c))) : c.isOpen = true := by
  rcases traces_establish ht with ⟨e, he, -⟩ | ⟨_, _, ⟨c', hc, isOpen, -⟩ | ⟨e, he, -⟩⟩
  · cases he
  · cases hc
    exact isOpen
  · cases he

theorem does_lift_close {c : Connection} (hc : c.isOpen = true) :
    Dialogue.Does (ExceptT.lift c.close : Action Connection).run [.releases] fun x =>
      ∃ c', x = .ok c' ∧ c'.isOpen = false := by
  have closes := c.does_close
  rw [if_pos hc] at closes
  exact Dialogue.does_return closes fun c' hc' => ⟨c', rfl, hc'⟩

end Connection

theorem Concluded.of_others {before : List Deed} (hb : ∀ d ∈ before, d = .other) :
    Concluded (before ++ [.releases]) :=
  ⟨before, rfl, fun hd => by cases hb _ hd⟩

theorem untouched_singleton {d : Deed} (hd : ∀ r, d.concerns r = false) : Untouched [d] := by
  intro d' hm
  rw [List.mem_singleton.1 hm]
  exact hd

theorem opensFirst_cons {f : Deed} {before : List Deed} (hb : ∀ d ∈ before, d = .other)
    {rest : List Deed} (hr : ∀ d ∈ rest, d.isOpening = false) :
    OpensFirst (f :: (before ++ rest)) := by
  intro d hd
  rcases List.mem_append.1 hd with hd | hd
  · rw [hb d hd]
    rfl
  · exact hr d hd

theorem opensFirst_of_others {before : List Deed} (hb : ∀ d ∈ before, d = .other)
    {rest : List Deed} (hr : ∀ d ∈ rest, d.isOpening = false) : OpensFirst (before ++ rest) := by
  apply OpensFirst.append _ hr
  intro d hd
  rw [hb d (List.mem_of_mem_tail hd)]
  rfl

theorem releases_isOpening : ∀ d ∈ [Deed.releases], d.isOpening = false := by
  intro d hd
  rw [List.mem_singleton.1 hd]
  rfl

structure Opening.Left (opening : Opening) (deeds : List Deed)
    (o : Option (Except Error Connection)) : Prop where
  untouched : Untouched deeds
  front : OpensFirst deeds
  result : (∃ c, o = some (.ok c) ∧ opening.Delivers deeds ∧
      (c.isOpen = true → .releases ∉ deeds) ∧ (c.isOpen = false → Concluded deeds)) ∨
    (∃ e, o = some (.error e) ∧ Released opening deeds)

theorem Opening.adopt_leaves {clientName : String} {streams : Streams} {closedFirst : Bool}
    {h : Dialogue.History} {o : Option (Except Error Connection)}
    (ht : Program.Traces (Opening.adopt clientName streams closedFirst).perform.run h o) :
    (Opening.adopt clientName streams closedFirst).Left (Call.deeds (Dialogue.calls h)) o := by
  unfold Opening.perform at ht
  rw [ExceptT.run_bind] at ht
  obtain ⟨h₁, x, h₂, rfl, ht₁, ht₂⟩ :=
    Program.traces_bind_of_ends (Connection.adopt_ends clientName streams) ht
  obtain ⟨before, others, result⟩ := Connection.traces_adopt ht₁
  have untouched := untouched_of_others others
  have untouched' : Untouched (before ++ [.releases]) :=
    untouched.append (untouched_singleton fun _ => rfl)
  have front := opensFirst_of_others others releases_isOpening
  rcases result with ⟨c, ho, hc, hb⟩ | ⟨e, ho, hb⟩
  · cases ho
    rw [Dialogue.calls_append, Call.deeds_append, hb]
    cases closedFirst with
    | false =>
      obtain ⟨rfl, rfl⟩ := Program.traces_done_iff.1 ht₂
      have front := opensFirst_of_others others (List.forall_mem_nil _)
      have fresh : .releases ∉ before := fun hd => by cases others _ hd
      have nothing : Call.deeds (Dialogue.calls []) = [] := rfl
      rw [List.append_nil] at front
      rw [nothing, List.append_nil]
      exact ⟨untouched, front, .inl ⟨c, rfl, trivial, fun _ => fresh, by simp [hc]⟩⟩
    | true =>
      obtain ⟨released, _, rfl, c', rfl, hc'⟩ := Connection.does_lift_close hc h₂ o ht₂
      rw [released]
      exact ⟨untouched', front, .inl ⟨c', rfl, trivial, by simp [hc'], fun _ => .of_others others⟩⟩
  · cases ho
    obtain ⟨rfl, rfl⟩ := Program.traces_done_iff.1 ht₂
    rw [List.append_nil, hb]
    exact ⟨untouched', front,
      .inr ⟨e, rfl, fun _ => .of_others others, fun hd => absurd trivial hd⟩⟩

theorem Opening.establish_leaves {config : Config} {h : Dialogue.History}
    {o : Option (Except Error Connection)}
    (ht : Program.Traces (Opening.establish config).perform.run h o) :
    (Opening.establish config).Left (Call.deeds (Dialogue.calls h)) o := by
  rcases Connection.traces_establish ht with ⟨e, rfl, hd⟩ | ⟨before, others, h⟩
  · have released : Released (.establish config) (Call.deeds (Dialogue.calls h)) := by
      constructor
      · intro delivers
        rcases hd with hd | hd <;> simp [Opening.Delivers, hd] at delivers
      · intro _
        rcases hd with hd | hd <;> simp [hd]
    refine ⟨?_, ?_, .inr ⟨e, rfl, released⟩⟩
    · rcases hd with hd | hd
      · rw [hd]
        exact List.forall_mem_nil _
      · rw [hd]
        exact untouched_singleton fun _ => rfl
    · rcases hd with hd | hd <;> simp [OpensFirst, hd]
  · have front : Untouched (.opens :: before) :=
      (untouched_singleton fun _ => rfl).append (untouched_of_others others)
    have fresh : .releases ∉ Deed.opens :: before := by
      intro hd
      rcases List.mem_cons.1 hd with hd | hd
      · cases hd
      · cases others _ hd
    rcases h with ⟨c, rfl, hc, hb⟩ | ⟨e, rfl, hb⟩
    · have first := opensFirst_cons (f := .opens) others (List.forall_mem_nil _)
      rw [List.append_nil] at first
      rw [hb]
      exact ⟨front, first, .inl ⟨c, rfl, List.mem_cons_self, fun _ => fresh, by simp [hc]⟩⟩
    · have first := opensFirst_cons (f := .opens) others releases_isOpening
      have held : Deed.opens ∈ Deed.opens :: before ++ [.releases] :=
        List.mem_append_left _ List.mem_cons_self
      rw [hb]
      exact ⟨front.append (untouched_singleton fun _ => rfl), first,
        .inr ⟨e, rfl, fun _ => ⟨_, rfl, fresh⟩, fun hn => absurd held hn⟩⟩

theorem Opening.leaves {opening : Opening} {h : Dialogue.History}
    {o : Option (Except Error Connection)} (ht : Program.Traces opening.perform.run h o) :
    opening.Left (Call.deeds (Dialogue.calls h)) o := by
  cases opening with
  | adopt clientName streams closedFirst => exact Opening.adopt_leaves ht
  | establish config => exact Opening.establish_leaves ht

theorem Opening.ends (opening : Opening) (h : Dialogue.History) :
    ¬ Program.Traces opening.perform.run h none := by
  intro ht
  obtain ⟨-, -, ⟨c, ho, -⟩ | ⟨e, ho, -⟩⟩ := Opening.leaves ht <;> cases ho

variable {χ : Type}

structure Plan (χ : Type) where
  opening : Opening
  mode : Mode
  steps : List (Step χ)

namespace Plan

def begin (plan : Plan χ) : Action Session := do
  let c ← plan.opening.perform
  Session.start plan.mode c

theorem traces_begin {plan : Plan χ} {h : Dialogue.History} {o : Option (Except Error Session)}
    (ht : Program.Traces plan.begin.run h o) :
    (∃ s, o = some (.ok s) ∧ s.mode = plan.mode ∧
      plan.opening.Delivers (Call.deeds (Dialogue.calls h)) ∧
      Standing (χ := χ) plan.mode [] (Call.deeds (Dialogue.calls h)) s.holdings) ∨
    (∃ e, o = some (.error e) ∧ Released plan.opening (Call.deeds (Dialogue.calls h)) ∧
      Untouched (Call.deeds (Dialogue.calls h)) ∧ OpensFirst (Call.deeds (Dialogue.calls h))) := by
  unfold begin at ht
  rw [ExceptT.run_bind] at ht
  obtain ⟨h₁, x, h₂, rfl, ht₁, ht₂⟩ := Program.traces_bind_of_ends plan.opening.ends ht
  obtain ⟨untouched, front, ⟨c, ho, delivers, fresh, concluded⟩ | ⟨e, ho, released⟩⟩ :=
    Opening.leaves ht₁
  · cases ho
    obtain ⟨rfl, rfl⟩ := Program.traces_done_iff.1 ht₂
    rw [List.append_nil]
    unfold Session.start
    by_cases hs : plan.mode = .suspending ∧ c.isOpen = false
    · rw [if_pos hs]
      have released : Released plan.opening (Call.deeds (Dialogue.calls h₁)) :=
        ⟨fun _ => concluded hs.2, fun hn => absurd delivers hn⟩
      exact .inr ⟨_, rfl, released, untouched, front⟩
    · rw [if_neg hs]
      refine .inl ⟨_, rfl, rfl, delivers, ?_⟩
      constructor
      · exact front
      · intro r
        refine ⟨[], [], untouched.settles r, rfl, by simp, fun _ => ?_⟩
        constructor
        · cases r <;> rfl
        · cases r <;> simp [Session.holdings]
      · intro hc
        exact ⟨fresh hc, by simp [performed], by simp [GivenBack, performed]⟩
      · intro hc
        exact ⟨concluded hc, .inr fun _ => rfl⟩
  · cases ho
    obtain ⟨rfl, rfl⟩ := Program.traces_done_iff.1 ht₂
    rw [List.append_nil]
    exact .inr ⟨e, rfl, released, untouched, front⟩

end Plan

end MidiSequencer
