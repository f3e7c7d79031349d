import MidiSequencer.Proofs.Resources.Turns

/-! # How an account stands in the course of a session

Which objects were given back is read off the operations that were performed. This holds after every
step, and it decides what is left for the end of the session. -/
namespace MidiSequencer

variable {χ : Type}

def performed (entries : List (Step χ × Option Outcome)) : List Operation :=
  entries.filterMap fun e => e.1.operation?.filter fun _ => e.2.any Outcome.isDone

def made (r : Resource) (entries : List (Step χ × Option Outcome)) : List (Int × Nat) :=
  entries.filterMap fun e => e.2.bind (Outcome.made? r)

/-- Closed or dropped while the connection was open, or given up by a suspending client that closed
the connection. -/
def GivenBack (mode : Mode) (operations : List Operation) (r : Resource) (k : Nat) : Prop :=
  (∃ o ∈ operations.takeWhile fun o => !o.isClose, o.ends r k = true) ∨
  (mode = .suspending ∧ ∃ o ∈ operations, o.isClose = true)

/-- The objects in the account are those that the steps made, in the order of their slots, and those
settled are those given back. -/
def Paired (deeds : List Deed) (entries : List (Step χ × Option Outcome))
    (back : Resource → Nat → Prop) : Prop :=
  ∀ r, ∃ objects settled, Settles r deeds objects settled ∧ made r entries = objects.zipIdx ∧
    ∀ k < objects.length, k ∈ settled ↔ back r k

theorem exists_takeWhile_append {α : Type} {p : α → Bool} {P : α → Prop} {l : List α} {a : α} :
    (∃ x ∈ (l ++ [a]).takeWhile p, P x) ↔
      (∃ x ∈ l.takeWhile p, P x) ∨ ((∀ x ∈ l, p x = true) ∧ p a = true ∧ P a) := by
  induction l with
  | nil => cases ha : p a <;> simp [ha]
  | cons b l ih =>
    cases hb : p b
    · simp [hb]
    · simp only [List.cons_append, List.takeWhile_cons, hb, if_true, List.mem_cons, or_and_right,
        exists_or, exists_eq_left, forall_eq_or_imp, ih, true_and, or_assoc]

section

variable {mode : Mode} {operations : List Operation} {o : Operation} {r : Resource} {k : Nat}

theorem givenBack_append : GivenBack mode (operations ++ [o]) r k ↔ GivenBack mode operations r k ∨
    ((∀ x ∈ operations, x.isClose = false) ∧ o.isClose = false ∧ o.ends r k = true) ∨
    (mode = .suspending ∧ o.isClose = true) := by
  unfold GivenBack
  rw [exists_takeWhile_append]
  simp only [Bool.not_eq_true', List.mem_append, List.mem_singleton]
  constructor
  · rintro ((h | h) | ⟨hm, x, hx | rfl, hc⟩)
    · exact .inl (.inl h)
    · exact .inr (.inl h)
    · exact .inl (.inr ⟨hm, x, hx, hc⟩)
    · exact .inr (.inr ⟨hm, hc⟩)
  · rintro ((h | ⟨hm, x, hx, hc⟩) | h | ⟨hm, hc⟩)
    · exact .inl (.inl h)
    · exact .inr ⟨hm, x, .inl hx, hc⟩
    · exact .inl (.inr h)
    · exact .inr ⟨hm, o, .inr rfl, hc⟩

theorem givenBack_append_inert (ho : o.Inert) :
    GivenBack mode (operations ++ [o]) r k ↔ GivenBack mode operations r k := by
  simp [givenBack_append, ho.1, ho.2 r k]

theorem givenBack_append_closed (hc : ∃ x ∈ operations, x.isClose = true) :
    GivenBack mode (operations ++ [o]) r k ↔ GivenBack mode operations r k := by
  obtain ⟨x, hx, hc⟩ := hc
  rw [givenBack_append]
  constructor
  · rintro (h | ⟨h, -⟩ | ⟨hm, -⟩)
    · exact h
    · simp [h x hx] at hc
    · exact .inr ⟨hm, x, hx, hc⟩
  · exact .inl

end

/-- What holds after the steps of `entries`, when `H` is what the session holds. -/
structure Standing (mode : Mode) (entries : List (Step χ × Option Outcome)) (deeds : List Deed)
    (H : Holdings) : Prop where
  front : OpensFirst deeds
  account : ∀ r, ∃ objects settled, Settles r deeds objects settled ∧
    made r entries = objects.zipIdx ∧
    (∀ k < objects.length, k ∈ settled ↔ GivenBack mode (performed entries) r k) ∧
    (H.isOpen = true → (H.shelf r).Agrees objects settled)
  running : H.isOpen = true → .releases ∉ deeds ∧ (∀ o ∈ performed entries, o.isClose = false) ∧
    ∀ r k, GivenBack mode (performed entries) r k → k < (H.shelf r).length
  finished : H.isOpen = false → Concluded deeds ∧
    ((∃ o ∈ performed entries, o.isClose = true) ∨ ∀ r, made r entries = [])

theorem Standing.paired {mode : Mode} {entries : List (Step χ × Option Outcome)}
    {deeds : List Deed} {H : Holdings} (h : Standing mode entries deeds H) :
    Paired deeds entries (GivenBack mode (performed entries)) := by
  intro r
  obtain ⟨objects, settled, hs, hm, hb, -⟩ := h.account r
  exact ⟨objects, settled, hs, hm, hb⟩

theorem performed_append (entries : List (Step χ × Option Outcome)) (e : Step χ × Option Outcome) :
    performed (entries ++ [e]) = performed entries ++ performed [e] :=
  List.filterMap_append

theorem made_append (r : Resource) (entries : List (Step χ × Option Outcome))
    (e : Step χ × Option Outcome) : made r (entries ++ [e]) = made r entries ++ made r [e] :=
  List.filterMap_append

theorem made_append_of_nil {r : Resource} {e : Step χ × Option Outcome} (hm : made r [e] = [])
    (entries : List (Step χ × Option Outcome)) : made r (entries ++ [e]) = made r entries := by
  rw [made_append, hm, List.append_nil]

theorem forall_performed_append {P : Operation → Prop} {entries : List (Step χ × Option Outcome)}
    {e : Step χ × Option Outcome} (h : ∀ o ∈ performed entries, P o)
    (he : ∀ o ∈ performed [e], P o) : ∀ o ∈ performed (entries ++ [e]), P o := by
  rw [performed_append]
  exact List.forall_mem_append.2 ⟨h, he⟩

theorem exists_performed_append {P : Operation → Prop} {entries : List (Step χ × Option Outcome)}
    (h : ∃ o ∈ performed entries, P o) (e : Step χ × Option Outcome) :
    ∃ o ∈ performed (entries ++ [e]), P o := by
  obtain ⟨o, ho, hP⟩ := h
  rw [performed_append]
  exact ⟨o, List.mem_append_left _ ho, hP⟩

theorem eq_nil_of_made {r : Resource} {entries : List (Step χ × Option Outcome)}
    {objects : List Int} (h : made r entries = objects.zipIdx) (hn : made r entries = []) :
    objects = [] := by
  rw [hn] at h
  exact List.zipIdx_eq_nil_iff.1 h.symm

theorem performed_singleton {step : Step χ} {operation : Operation} {outcome : Outcome}
    (hs : step.operation? = some operation) (ho : outcome.isDone = true) :
    performed [(step, some outcome)] = [operation] := by
  simp [performed, hs, ho]

theorem Holdings.closing_of_closed (H : Holdings) (ho : H.isOpen = false) (mode : Mode) :
    H.closing mode = [] := by
  unfold Holdings.closing
  simp [ho]

theorem Holdings.closing_blocking (H : Holdings) (ho : H.isOpen = true) :
    H.closing .blocking = [.releases] :=
  if_pos ho

theorem Holdings.closing_suspending (H : Holdings) (ho : H.isOpen = true) :
    H.closing .suspending = H.clearing ++ [.releases] :=
  if_pos ho

theorem Holdings.releases_not_mem_clearing (H : Holdings) : .releases ∉ H.clearing := by
  simp [Holdings.clearing]

theorem Holdings.isOpening_closing (H : Holdings) (mode : Mode) :
    ∀ d ∈ H.closing mode, d.isOpening = false := by
  have cleared : ∀ d ∈ H.clearing, d.isOpening = false := by
    intro d hd
    rcases List.mem_append.1 hd with hd | hd
    all_goals
      obtain ⟨id, -, rfl⟩ := List.mem_map.1 hd
      rfl
  intro d hd
  cases ho : H.isOpen with
  | false =>
    rw [H.closing_of_closed ho] at hd
    cases hd
  | true =>
    cases mode with
    | blocking =>
      rw [H.closing_blocking ho] at hd
      exact List.mem_singleton.1 hd ▸ rfl
    | suspending =>
      rw [H.closing_suspending ho] at hd
      rcases List.mem_append.1 hd with hd | hd
      · exact cleared d hd
      · exact List.mem_singleton.1 hd ▸ rfl

theorem Settles.clearing {r : Resource} {deeds : List Deed} {objects : List Int}
    {settled : List Nat} (h : Settles r deeds objects settled) {H : Holdings}
    (ha : (H.shelf r).Agrees objects settled) :
    ∃ settled', Settles r (deeds ++ H.clearing) objects settled' ∧
      ∀ k < objects.length, k ∈ settled' := by
  unfold Holdings.clearing
  rw [← List.append_assoc]
  cases r with
  | port =>
    obtain ⟨settled', hs, all⟩ := h.clear ha
    refine ⟨settled', hs.append_others fun d hd => ?_, all⟩
    obtain ⟨id, -, rfl⟩ := List.mem_map.1 hd
    rfl
  | queue =>
    refine (h.append_others fun d hd => ?_).clear ha
    obtain ⟨id, -, rfl⟩ := List.mem_map.1 hd
    rfl

theorem Concluded.of {deeds rest : List Deed} (hd : .releases ∉ deeds) (hr : .releases ∉ rest) :
    Concluded (deeds ++ (rest ++ [.releases])) :=
  ⟨deeds ++ rest, (List.append_assoc _ _ _).symm, by simp [hd, hr]⟩

namespace Standing

variable {mode : Mode} {entries : List (Step χ × Option Outcome)} {deeds : List Deed}
  {H : Holdings} {e : Step χ × Option Outcome} {operation : Operation}

theorem idle (h : Standing mode entries deeds H) {rest : List Deed}
    (hp : performed [e] = [] ∨ ∃ o, performed [e] = [o] ∧ o.Inert) (hm : ∀ r, made r [e] = [])
    (others : ∀ d ∈ rest, d = .other) (closed : H.isOpen = false → rest = []) :
    Standing mode (entries ++ [e]) (deeds ++ rest) H := by
  have back : ∀ r k, GivenBack mode (performed (entries ++ [e])) r k ↔
      GivenBack mode (performed entries) r k := by
    intro r k
    rw [performed_append]
    rcases hp with hp | ⟨o, hp, hi⟩
    · rw [hp, List.append_nil]
    · rw [hp, givenBack_append_inert hi]
  have same : ∀ r, made r (entries ++ [e]) = made r entries :=
    fun r => made_append_of_nil (hm r) entries
  have noClose : ∀ o ∈ performed [e], o.isClose = false := by
    intro o ho
    rcases hp with hp | ⟨x, hp, hi⟩
    · rw [hp] at ho
      cases ho
    · rw [hp, List.mem_singleton] at ho
      exact ho ▸ hi.1
  constructor
  · apply h.front.append
    intro d hd
    rw [others d hd]
    rfl
  · intro r
    obtain ⟨objects, settled, hs, ho, hb, ha⟩ := h.account r
    refine ⟨objects, settled, hs.append_others fun d hd => ?_, (same r).trans ho, ?_, ha⟩
    · rw [others d hd]
      rfl
    · exact fun k hk => (hb k hk).trans (back r k).symm
  · intro hc
    obtain ⟨fresh, before, bound⟩ := h.running hc
    refine ⟨?_, forall_performed_append before noClose, ?_⟩
    · intro hd
      rcases List.mem_append.1 hd with hd | hd
      · exact fresh hd
      · cases others _ hd
    · intro r k hk
      exact bound r k ((back r k).1 hk)
  · intro hc
    obtain ⟨concluded, hx⟩ := h.finished hc
    rw [closed hc, List.append_nil]
    refine ⟨concluded, ?_⟩
    rcases hx with hx | hn
    · exact .inl (exists_performed_append hx e)
    · exact .inr fun r => (same r).trans (hn r)

theorem make (h : Standing mode entries deeds H) (r : Resource) (id : Int)
    (hc : H.isOpen = true) (hi : operation.Inert) (hp : performed [e] = [operation])
    (hm : made r [e] = [(id, (H.shelf r).length)]) (others : ∀ r', r' ≠ r → made r' [e] = []) :
    Standing mode (entries ++ [e]) (deeds ++ [.makes r id])
      (H.put r (H.shelf r ++ [some ⟨id, false⟩])) := by
  have back : ∀ r k, GivenBack mode (performed (entries ++ [e])) r k ↔
      GivenBack mode (performed entries) r k := by
    intro r k
    rw [performed_append, hp, givenBack_append_inert hi]
  obtain ⟨fresh, noClose, bound⟩ := h.running hc
  constructor
  · apply h.front.append
    intro d hd
    rw [List.mem_singleton.1 hd]
    rfl
  · intro r'
    obtain ⟨objects, settled, hs, ho, hb, ha⟩ := h.account r'
    by_cases hr : r' = r
    · subst hr
      refine ⟨objects ++ [id], settled, hs.makes id, ?_, fun k hk => ?_, fun _ => ?_⟩
      · rw [made_append, ho, hm, (ha hc).length, List.zipIdx_append]
        simp
      · rw [back]
        by_cases hk' : k < objects.length
        · exact hb k hk'
        · constructor
          · exact fun hx => absurd (hs.lt_length k hx) hk'
          · exact fun hx => absurd ((ha hc).length ▸ bound r' k hx) hk'
      · simpa [Holdings.put] using (ha hc).make hs.lt_length id
    · refine ⟨objects, settled, hs.other ?_, ?_, fun k hk => (hb k hk).trans (back r' k).symm, ?_⟩
      · simpa [Deed.concerns] using Ne.symm hr
      · rw [made_append, others r' hr, List.append_nil, ho]
      · simpa [Holdings.put, hr] using ha
  · intro _
    refine ⟨by simpa using fresh, forall_performed_append noClose ?_, fun r' k hk => ?_⟩
    · rw [hp]
      exact List.forall_mem_singleton.2 hi.1
    · have := bound r' k ((back r' k).1 hk)
      by_cases hr : r' = r
      · subst hr
        simp [Holdings.put]
        omega
      · simpa [Holdings.put, hr] using this
  · intro hn
    simp [Holdings.put, hc] at hn

theorem rest (h : Standing mode entries deeds H) (ho : H.isOpen = false) {H' : Holdings}
    (closed : H'.isOpen = false) (hp : performed [e] = [operation])
    (hm : ∀ r', made r' [e] = []) : Standing mode (entries ++ [e]) deeds H' := by
  have same : ∀ r, made r (entries ++ [e]) = made r entries :=
    fun r => made_append_of_nil (hm r) entries
  obtain ⟨concluded, hx⟩ := h.finished ho
  constructor
  · exact h.front
  · intro r'
    obtain ⟨objects, settled, hs, hmade, hb, -⟩ := h.account r'
    refine ⟨objects, settled, hs, (same r').trans hmade, fun j hj => ?_,
      fun hn => by simp [closed] at hn⟩
    rcases hx with hx | hx
    · rw [performed_append, hp, givenBack_append_closed hx]
      exact hb j hj
    · have none_made := eq_nil_of_made hmade (hx r')
      simp [none_made] at hj
  · intro hn
    simp [closed] at hn
  · intro _
    refine ⟨concluded, ?_⟩
    rcases hx with hx | hn
    · exact .inl (exists_performed_append hx e)
    · exact .inr fun r' => (same r').trans (hn r')

theorem finish (h : Standing mode entries deeds H) (ho : H.isOpen = true) {r : Resource}
    {k : Nat} {x : Held} {place : Option Held}
    (ends : ∀ r' k', operation.ends r' k' = true ↔ r' = r ∧ k' = k)
    (hc : operation.isClose = false) (held : (H.shelf r)[k]? = some (some x))
    (left : place = none ∨ place = some { x with isClosed := true })
    (hp : performed [e] = [operation]) (hm : ∀ r', made r' [e] = []) :
    Standing mode (entries ++ [e]) (deeds ++ if x.isClosed then [] else [.returns r x.id])
      (H.put r ((H.shelf r).set k place)) := by
  obtain ⟨fresh, noClose, bound⟩ := h.running ho
  have back : ∀ r' j, GivenBack mode (performed (entries ++ [e])) r' j ↔
      GivenBack mode (performed entries) r' j ∨ (r' = r ∧ j = k) := by
    intro r' j
    rw [performed_append, hp, givenBack_append, ends, hc]
    simp only [Bool.false_eq_true, and_false, or_false, true_and]
    exact or_congr_right (and_iff_right noClose)
  constructor
  · apply h.front.append
    intro d hd
    cases hx : x.isClosed with
    | true => simp [hx] at hd
    | false =>
      rw [hx, if_neg (by simp)] at hd
      rw [List.mem_singleton.1 hd]
      rfl
  · intro r'
    obtain ⟨objects, settled, hs, hmade, hb, ha⟩ := h.account r'
    have same : made r' (entries ++ [e]) = objects.zipIdx :=
      (made_append_of_nil (hm r') entries).trans hmade
    by_cases hr : r' = r
    · subst hr
      obtain ⟨settled', hs', mem⟩ := hs.finish (ha ho) held
      refine ⟨objects, settled', hs', same, fun j hj => ?_, fun _ => ?_⟩
      · rw [mem, back, hb j hj]
        simp
      · simpa [Holdings.put] using (ha ho).finish held left mem
    · refine ⟨objects, settled, hs.append_others fun d hd => ?_, same, fun j hj => ?_, ?_⟩
      · cases hx : x.isClosed <;> simp [hx] at hd
        simpa [hd, Deed.concerns] using Ne.symm hr
      · rw [back, hb j hj]
        simp [hr]
      · simpa [Holdings.put, hr] using ha
  · intro _
    refine ⟨?_, forall_performed_append noClose ?_, fun r' j hj => ?_⟩
    · cases x.isClosed <;> simpa using fresh
    · rw [hp]
      exact List.forall_mem_singleton.2 hc
    · by_cases hr : r' = r
      · subst hr
        simp only [Holdings.put, if_true, List.length_set]
        rcases (back r' j).1 hj with hj | ⟨-, rfl⟩
        · exact bound r' j hj
        · exact (List.getElem?_eq_some_iff.1 held).1
      · simp only [Holdings.put, if_neg hr]
        rcases (back r' j).1 hj with hj | ⟨heq, -⟩
        · exact bound r' j hj
        · exact absurd heq hr
  · intro hn
    simp [Holdings.put, ho] at hn

theorem close (h : Standing mode entries deeds H) {H' : Holdings}
    (hc : operation.isClose = true) (closed : H'.isOpen = false)
    (hp : performed [e] = [operation]) (hm : ∀ r, made r [e] = []) :
    Standing mode (entries ++ [e]) (deeds ++ H.closing mode) H' := by
  cases ho : H.isOpen with
  | false =>
    rw [H.closing_of_closed ho, List.append_nil]
    exact h.rest ho closed hp hm
  | true =>
    obtain ⟨fresh, -, -⟩ := h.running ho
    have back : ∀ r k, GivenBack mode (performed (entries ++ [e])) r k ↔
        GivenBack mode (performed entries) r k ∨ mode = .suspending := by
      intro r k
      simp [performed_append, hp, givenBack_append, hc]
    refine ⟨h.front.append (H.isOpening_closing mode), fun r => ?_,
      fun hn => by simp [closed] at hn, fun _ => ⟨?_, .inl ?_⟩⟩
    · obtain ⟨objects, settled, hs, hmade, hb, ha⟩ := h.account r
      have same : made r (entries ++ [e]) = objects.zipIdx :=
        (made_append_of_nil (hm r) entries).trans hmade
      cases mode with
      | blocking =>
        rw [H.closing_blocking ho]
        refine ⟨objects, settled, hs.other rfl, same, fun k hk => ?_,
          fun hn => by simp [closed] at hn⟩
        rw [back, hb k hk]
        simp
      | suspending =>
        obtain ⟨settled', hs', all⟩ := hs.clearing (ha ho)
        rw [H.closing_suspending ho, ← List.append_assoc]
        refine ⟨objects, settled', hs'.other rfl, same, fun k hk => ?_,
          fun hn => by simp [closed] at hn⟩
        rw [back]
        simp [all k hk]
    · cases mode with
      | blocking =>
        rw [H.closing_blocking ho]
        exact ⟨deeds, rfl, fresh⟩
      | suspending =>
        rw [H.closing_suspending ho]
        exact Concluded.of fresh H.releases_not_mem_clearing
    · exact ⟨operation, by simp [performed_append, hp], hc⟩

theorem turn (h : Standing mode entries deeds H) {step : Step χ} {rest : List Deed}
    {outcome : Option Outcome} {H' : Holdings} (hs : step.operation? = some operation)
    (ht : Turn mode operation H rest outcome H') :
    Standing mode (entries ++ [(step, outcome)]) (deeds ++ rest) H' := by
  cases ht with
  | idle others closed made inert =>
    refine h.idle ?_ (fun r => ?_) others closed
    · cases outcome with
      | none => exact .inl (by simp [performed, hs])
      | some o =>
        by_cases hd : o.isDone = true
        · exact .inr ⟨operation, performed_singleton hs hd, inert o rfl hd⟩
        · exact .inl (by simp [performed, hs, hd])
    · cases outcome with
      | none => rfl
      | some o => simp [MidiSequencer.made, made o rfl r]
  | @make outcome r id isOpen made others inert =>
    have done : outcome.isDone = true := by
      cases outcome with
      | value v => rfl
      | _ => cases r <;> simp [Outcome.made?] at made
    refine h.make r id isOpen inert (performed_singleton hs done) ?_ fun r' hr => ?_
    · simp [MidiSequencer.made, made]
    · simp [MidiSequencer.made, others r' hr]
  | @finish outcome r k x place ends open_ held left done made =>
    have none_made : ∀ r', MidiSequencer.made r' [(step, some outcome)] = [] := by
      intro r'
      simp [MidiSequencer.made, made r']
    cases ho : H.isOpen with
    | false =>
      rw [Bool.false_and, if_neg (by simp), List.append_nil]
      exact h.rest ho ho (performed_singleton hs done) none_made
    | true =>
      have next := h.finish ho ends open_ held left (performed_singleton hs done) none_made
      cases hx : x.isClosed <;> simpa [hx] using next
  | close isClose closed =>
    exact h.close isClose closed (performed_singleton hs rfl) fun r => by cases r <;> rfl

theorem ended (h : Standing mode entries deeds H) :
    OpensFirst (deeds ++ H.closing .suspending) ∧ Concluded (deeds ++ H.closing .suspending) ∧
    Paired (deeds ++ H.closing .suspending) entries fun r k =>
      GivenBack mode (performed entries) r k ∨ ∀ o ∈ performed entries, o.isClose = false := by
  refine ⟨h.front.append (H.isOpening_closing .suspending), ?_⟩
  cases ho : H.isOpen with
  | false =>
    rw [H.closing_of_closed ho, List.append_nil]
    obtain ⟨concluded, hx⟩ := h.finished ho
    refine ⟨concluded, fun r => ?_⟩
    obtain ⟨objects, settled, hs, hmade, hb, -⟩ := h.account r
    refine ⟨objects, settled, hs, hmade, fun k hk => ?_⟩
    rw [hb k hk]
    refine ⟨.inl, fun hback => ?_⟩
    rcases hback, hx with ⟨hback | none_closed, ⟨o, hmem, hc⟩ | hx⟩
    · exact hback
    · exact hback
    · simp [none_closed o hmem] at hc
    · have none_made := eq_nil_of_made hmade (hx r)
      simp [none_made] at hk
  | true =>
    obtain ⟨fresh, noClose, -⟩ := h.running ho
    rw [H.closing_suspending ho]
    refine ⟨Concluded.of fresh H.releases_not_mem_clearing, fun r => ?_⟩
    obtain ⟨objects, settled, hs, hmade, -, ha⟩ := h.account r
    obtain ⟨settled', hs', all⟩ := hs.clearing (ha ho)
    rw [← List.append_assoc]
    exact ⟨objects, settled', hs'.other rfl, hmade, fun k hk =>
      ⟨fun _ => .inr noClose, fun _ => all k hk⟩⟩

end Standing

end MidiSequencer
