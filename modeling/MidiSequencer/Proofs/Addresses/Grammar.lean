import MidiSequencer.Address
import MidiSequencer.Proofs.Addresses.Numerals

/-! # The texts of addresses

Which texts stand for an address, blanks at their ends aside: two symbolic names, a number, and two
numbers around a colon. Parsing accepts these and no others, and reads back what is written for an
address, also behind zeros and a plus sign. -/
namespace MidiSequencer

namespace Text

section

variable {c : Char} {s before after : List Char}

theorem ne_of_absent (absent : c ∉ s) : ∀ x ∈ s, (x == c) = false := by
  intro x hx
  exact beq_false_of_ne fun same => absent (same ▸ hx)

theorem splitFirst_absent (absent : c ∉ s) : splitFirst (· == c) s = (s, none) :=
  splitFirst_of_all (ne_of_absent absent)

theorem splitFirst_around (absent : c ∉ before) :
    splitFirst (· == c) (before ++ c :: after) = (before, some after) :=
  splitFirst_append (ne_of_absent absent) (beq_self_eq_true c)

end

end Text

namespace Address

open Text (Numeral Trimmed isBlank decimal)

/-- The texts that stand for an address. A number by itself is that of a client. -/
inductive Written : List Char → Address → Prop where
  | subscribers : Written "subscribers".toList ⟨254, 253⟩
  | broadcast : Written "broadcast".toList ⟨255, 255⟩
  | client {s : List Char} {c : UInt8} : Numeral s c.toNat → Written s ⟨c, 0⟩
  | pair {s t : List Char} {c p : UInt8} :
      Numeral s c.toNat → Numeral t p.toNat → Written (s ++ ':' :: t) ⟨c, p⟩

def padded (sign : Bool) (zeros : Nat) (n : UInt8) : List Char :=
  (if sign then ['+'] else []) ++ (List.replicate zeros '0' ++ (decimal n.toNat).toList)

theorem numeral_padded (sign : Bool) (zeros : Nat) (n : UInt8) :
    Numeral (padded sign zeros n) n.toNat := by
  have digits := (Text.digits_decimal n.toNat).zeros zeros
  cases sign with
  | true => exact .plus digits
  | false => exact .plain digits

variable {s t : List Char} {a : Address}

theorem readNumbers_eq_some_iff :
    ((Text.readByte (Text.splitFirst (· == ':') s).1).bind fun c =>
      (Text.readByte ((Text.splitFirst (· == ':') s).2.getD ['0'])).bind fun p =>
        some (Address.mk c p)) = some a ↔
      (Numeral s a.client.toNat ∧ a.port = 0) ∨
        ∃ x y, s = x ++ ':' :: y ∧ Numeral x a.client.toNat ∧ Numeral y a.port.toNat := by
  have zero : Text.readByte ['0'] = some 0 := by decide
  simp only [Option.bind_eq_some_iff, Option.some.injEq]
  constructor
  · rintro ⟨c, client, p, port, rfl⟩
    by_cases there : ':' ∈ s
    · obtain ⟨x, y, rfl, absent⟩ := List.eq_append_cons_of_mem there
      rw [Text.splitFirst_around absent] at client port
      exact .inr ⟨x, y, rfl, Text.readByte_eq_some_iff.1 client, Text.readByte_eq_some_iff.1 port⟩
    · rw [Text.splitFirst_absent there] at client port
      have none_given : p = 0 := (Option.some.inj (zero.symm.trans port)).symm
      exact .inl ⟨Text.readByte_eq_some_iff.1 client, none_given⟩
  · rintro (⟨numeral, port⟩ | ⟨x, y, rfl, client, port⟩)
    · rw [Text.splitFirst_absent numeral.no_colon]
      exact ⟨a.client, Text.readByte_eq_some_iff.2 numeral, 0, zero, by rw [← port]⟩
    · rw [Text.splitFirst_around client.no_colon]
      exact ⟨a.client, Text.readByte_eq_some_iff.2 client, a.port,
        Text.readByte_eq_some_iff.2 port, rfl⟩

theorem numbers_iff_written (subscribers : s ≠ "subscribers".toList)
    (broadcast : s ≠ "broadcast".toList) :
    (Numeral s a.client.toNat ∧ a.port = 0) ∨
      (∃ x y, s = x ++ ':' :: y ∧ Numeral x a.client.toNat ∧ Numeral y a.port.toNat) ↔
      Written s a := by
  constructor
  · rintro (⟨numeral, port⟩ | ⟨x, y, rfl, client, port⟩)
    · obtain ⟨c, p⟩ := a
      obtain rfl : p = 0 := port
      exact .client numeral
    · exact .pair client port
  · intro written
    cases written with
    | subscribers => exact absurd rfl subscribers
    | broadcast => exact absurd rfl broadcast
    | client numeral => exact .inl ⟨numeral, rfl⟩
    | pair client port => exact .inr ⟨_, _, rfl, client, port⟩

theorem written_name {name : String} (no_numeral : Text.readNumber name.toList = none)
    (no_colon : ':' ∉ name.toList) (written : Written name.toList a) :
    (name = "subscribers" ∧ a = ⟨254, 253⟩) ∨ (name = "broadcast" ∧ a = ⟨255, 255⟩) := by
  generalize hs : name.toList = s at written
  cases written with
  | subscribers => exact .inl ⟨String.toList_inj.1 hs, rfl⟩
  | broadcast => exact .inr ⟨String.toList_inj.1 hs, rfl⟩
  | client numeral =>
    rw [hs, Text.readNumber_eq_some_iff.2 numeral] at no_numeral
    cases no_numeral
  | pair client port =>
    rw [hs] at no_colon
    exact absurd (by simp) no_colon

theorem read_eq_some_iff : read s = some a ↔ Written s a := by
  unfold read
  split
  · next h =>
    subst h
    constructor
    · intro read
      cases read
      exact .subscribers
    · intro written
      rcases written_name (by decide) (by decide) written with ⟨-, rfl⟩ | ⟨other, -⟩
      · rfl
      · exact absurd other (by decide)
  · next subscribers =>
    split
    · next h =>
      subst h
      constructor
      · intro read
        cases read
        exact .broadcast
      · intro written
        rcases written_name (by decide) (by decide) written with ⟨other, -⟩ | ⟨-, rfl⟩
        · exact absurd other (by decide)
        · rfl
    · next broadcast =>
      rw [← numbers_iff_written subscribers broadcast]
      exact readNumbers_eq_some_iff

theorem parse_eq_of_trimmed {text : String} (h : Trimmed text.toList t) :
    parse text = match read t with
      | some a => .ok a
      | none => .error (.usage (.address (String.ofList t))) := by
  obtain rfl := h.eq_trim
  rfl

theorem trimmed_pair {left right x y : List Char} {c p : Nat}
    (blankLeft : ∀ c ∈ left, isBlank c = true) (blankRight : ∀ c ∈ right, isBlank c = true)
    (client : Numeral x c) (port : Numeral y p) :
    Trimmed (left ++ (x ++ ':' :: y) ++ right) (x ++ ':' :: y) := by
  have no_blank : ∀ d ∈ x ++ ':' :: y, isBlank d = false := by
    intro d hd
    rcases List.mem_append.1 hd with hd | hd
    · exact client.no_blank d hd
    rcases List.mem_cons.1 hd with rfl | hd
    · decide
    · exact port.no_blank d hd
  exact ⟨⟨left, right, rfl, blankLeft, blankRight⟩,
    fun d hd => no_blank d (List.mem_of_head? hd), fun d hd => no_blank d (List.mem_of_getLast? hd)⟩

/-- Parsing, for every text, and for what is written for an address, with blanks around it and zeros
and signs before its numbers. -/
theorem parse_grammar :
    (∀ text : String, ∃ t, Trimmed text.toList t ∧
      (∀ a, parse text = .ok a ↔ Written t a) ∧
      (∀ e, parse text = .error e ↔
        (∀ a, ¬ Written t a) ∧ e = .usage (.address (String.ofList t))) ∧
      (Error.usage (.address (String.ofList t))).message =
        "invalid argument: invalid address " ++ Text.quote t) ∧
    ∀ a : Address,
      a.text.toList = (decimal a.client.toNat).toList ++ ':' :: (decimal a.port.toNat).toList ∧
      ∀ left right, (∀ c ∈ left, isBlank c = true) → (∀ c ∈ right, isBlank c = true) →
        ∀ sign zeros sign' zeros', parse (String.ofList (left ++
          (padded sign zeros a.client ++ ':' :: padded sign' zeros' a.port) ++ right)) = .ok a := by
  refine ⟨fun text => ?_, fun a => ⟨?_, ?_⟩⟩
  · have trimmed := Text.trimmed_trim text.toList
    refine ⟨_, trimmed, ?_, ?_, ?_⟩
    · intro a
      rw [parse_eq_of_trimmed trimmed, ← read_eq_some_iff]
      cases read (Text.trim text.toList) <;> simp
    · intro e
      rw [parse_eq_of_trimmed trimmed]
      simp only [← read_eq_some_iff]
      cases read (Text.trim text.toList) <;> simp [eq_comm]
    · show "invalid argument: " ++ ("invalid address " ++ Text.quote (String.ofList _).toList) = _
      rw [String.toList_ofList, ← String.append_assoc]
      rfl
  · simp [text]
  · intro left right blankLeft blankRight sign zeros sign' zeros'
    have client := numeral_padded sign zeros a.client
    have port := numeral_padded sign' zeros' a.port
    have trimmed := trimmed_pair blankLeft blankRight client port
    rw [← String.toList_ofList (l := left ++ _ ++ right)] at trimmed
    rw [parse_eq_of_trimmed trimmed, read_eq_some_iff.2 (.pair client port)]

/-- A no-break space, zeros and signs before the numbers, and a blank and a line feed behind. -/
theorem parse_grammar_padded : parse "\u00a0+00128:+3 \n" = .ok ⟨128, 3⟩ := by
  have written : "\u00a0+00128:+3 \n" = String.ofList (['\u00a0'] ++
      (padded true 2 128 ++ ':' :: padded true 0 3) ++ [' ', '\n']) := by decide
  have before : ∀ c ∈ ['\u00a0'], isBlank c = true := by simp [isBlank]
  have behind : ∀ c ∈ [' ', '\n'], isBlank c = true := by simp [isBlank]
  obtain ⟨-, reads⟩ := parse_grammar.2 ⟨128, 3⟩
  rw [written]
  exact reads ['\u00a0'] [' ', '\n'] before behind true 2 true 0

end Address

end MidiSequencer
