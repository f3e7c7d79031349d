import MidiSequencer.Proofs.Resources.Openings

/-! # Calls of an opening

Whatever is answered, an opening makes calls of five names only. -/
namespace MidiSequencer

def Opening.callNames : List String :=
  ["open", "set_client_name", "client_id", "poll_descriptors", "close"]

def Request.Named (names : List String) : Request → Prop
  | .call c => c.name ∈ names
  | _ => False

namespace Opening

abbrev Names {α : Type} (p : Dialogue α) : Prop :=
  p.Meets (Request.Named callNames) fun _ => True

theorem names_perform {c : Call} (hc : c.name ∈ callNames) : Names (Action.perform c).run :=
  ⟨hc, fun _ => trivial⟩

theorem names_checked {α β : Type} {e : Except Error α} {f : α → Action β}
    (hf : ∀ a, Names (f a).run) : Names (liftM e >>= f : Action β).run :=
  Action.meets_sequence (by cases e <;> trivial) hf

theorem names_register (clientName : String) (streams : Streams) :
    Names (Connection.register clientName streams).run := by
  refine names_checked fun name => ?_
  refine Action.meets_sequence (names_perform (.tail _ (.head _))) fun status => ?_
  refine names_checked fun _ => ?_
  refine Action.meets_sequence (names_perform (.tail _ (.tail _ (.head _)))) fun status => ?_
  refine names_checked fun clientId => ?_
  have described : Call.pollDescriptors.name ∈ callNames := .tail _ (.tail _ (.tail _ (.head _)))
  refine Action.meets_sequence (names_perform described) fun answer => ?_
  exact names_checked fun reported => names_checked fun _ => trivial

theorem named_release : Request.Named callNames (.call .release) :=
  .tail _ (.tail _ (.tail _ (.tail _ (.head _))))

theorem names_adopt (clientName : String) (streams : Streams) :
    Names (Connection.adopt clientName streams).run := by
  rw [Connection.run_adopt]
  refine (names_register clientName streams).bind fun result _ => ?_
  cases result with
  | ok c => trivial
  | error e => exact ⟨named_release, fun _ => trivial⟩

theorem names_establish (config : Config) : Names (Connection.establish config).run := by
  unfold Connection.establish
  refine names_checked fun sequencer => ?_
  refine Action.meets_sequence (names_perform (.head _)) fun status => ?_
  exact names_checked fun _ => names_adopt config.clientName config.streams

theorem names_close (c : Connection) : Names c.close := by
  unfold Connection.close
  split
  · exact ⟨named_release, fun _ => trivial⟩
  · trivial

theorem names_opening (opening : Opening) : Names opening.perform.run := by
  cases opening with
  | adopt clientName streams closedFirst =>
    refine Action.meets_sequence (names_adopt clientName streams) fun c => ?_
    cases closedFirst with
    | false => trivial
    | true => exact (names_close c).bind fun _ _ => trivial
  | establish config => exact names_establish config

end Opening

/-- Until the session starts only the opening makes calls. -/
theorem Plan.begin_names {χ : Type} {plan : Plan χ} {h : Dialogue.History}
    {o : Option (Except Error Session)} (ht : Program.Traces plan.begin.run h o) :
    ∀ x ∈ Dialogue.calls h, x.question.name ∈ Opening.callNames := by
  have names : Opening.Names plan.begin.run :=
    Action.meets_sequence (Opening.names_opening plan.opening) fun c => by
      cases hs : Session.start plan.mode c <;> trivial
  intro x hx
  exact names.question ht _ (Dialogue.mem_calls hx)

end MidiSequencer
