import MidiSequencer.Filter

/-! # Admission to a listing

Which ports a filter lets through, bit by bit of what they can do and what they are. -/
namespace MidiSequencer

namespace Flags

def HasBit (bits : UInt32) (place : Nat) : Prop :=
  bits.toNat.testBit place = true

theorem contains_iff {bits part : UInt32} :
    contains bits part = true ↔ ∀ place, HasBit part place → HasBit bits place := by
  unfold contains HasBit
  rw [beq_iff_eq, ← UInt32.toNat_inj, UInt32.toNat_and]
  constructor
  · intro h place hp
    rw [← h, Nat.testBit_and] at hp
    exact (Bool.and_eq_true_iff.1 hp).1
  · intro h
    apply Nat.eq_of_testBit_eq
    intro place
    rw [Nat.testBit_and]
    cases hp : part.toNat.testBit place with
    | false => exact Bool.and_false _
    | true => rw [h place hp, Bool.and_self]

theorem contains_single {bits part : UInt32} {place : Nat}
    (hp : part.toNat = Nat.pow 2 place) : contains bits part = true ↔ HasBit bits place := by
  have only (i : Nat) : HasBit part i ↔ place = i := by
    have bit : (Nat.pow 2 place).testBit i = decide (place = i) := Nat.testBit_two_pow
    rw [HasBit, hp, bit, decide_eq_true_iff]
  rw [contains_iff]
  constructor
  · intro h
    exact h place ((only place).2 rfl)
  · intro h i hi
    rw [← (only i).1 hi]
    exact h

end Flags

namespace PortInfo

open Flags

/-- The capability at a place of the word is given; the places are those of the names in the table
of capabilities. -/
def Can (p : PortInfo) (place : Nat) : Prop := HasBit p.capability.bits place

variable (p : PortInfo)

theorem canRead_iff : p.canRead = true ↔ p.Can 0 := contains_single rfl
theorem canWrite_iff : p.canWrite = true ↔ p.Can 1 := contains_single rfl
theorem canSubscribeRead_iff : p.canSubscribeRead = true ↔ p.Can 5 := contains_single rfl
theorem canSubscribeWrite_iff : p.canSubscribeWrite = true ↔ p.Can 6 := contains_single rfl

theorem noExport_iff : p.capability.contains .noExport = true ↔ p.Can 7 :=
  contains_single (rfl : PortCapabilities.noExport.bits.toNat = Nat.pow 2 7)

end PortInfo

namespace PortFilter

/-- The directions that a filter asks for: for input alone a port is read, for output alone it is
written, else either will do; what has to be connectable can be subscribed to as well. -/
def AdmitsDirection (f : PortFilter) (p : PortInfo) : Prop :=
  match f.input, f.output with
  | true, false => p.Can 0 ∧ (f.onlyConnectable = true → p.Can 5)
  | false, true => p.Can 1 ∧ (f.onlyConnectable = true → p.Can 6)
  | _, _ =>
    if f.onlyConnectable then p.Can 0 ∧ p.Can 5 ∨ p.Can 1 ∧ p.Can 6 else p.Can 0 ∨ p.Can 1

structure Admits (f : PortFilter) (c : ClientInfo) (p : PortInfo) : Prop where
  system : c.clientId = 0 → f.includeSystem = true
  through : c.name = "Midi Through" → f.includeMidiThrough = true
  portType : ∀ place, Flags.HasBit f.portType.bits place → Flags.HasBit p.portType.bits place
  noExport : p.Can 7 → f.includeNoExport = true
  direction : f.AdmitsDirection p

variable {f : PortFilter} {c : ClientInfo} {p : PortInfo}

theorem acceptsClient_iff : f.acceptsClient c = true ↔
    (c.clientId = 0 → f.includeSystem = true) ∧
      (c.name = "Midi Through" → f.includeMidiThrough = true) := by
  unfold acceptsClient midiThrough
  simp only [Bool.and_eq_true, Bool.or_eq_true, bne_iff_ne, ne_eq, Decidable.imp_iff_not_or]

theorem acceptsDirection_iff : f.acceptsDirection p = true ↔ f.AdmitsDirection p := by
  unfold acceptsDirection AdmitsDirection readable writable
  cases f.input <;> cases f.output <;> cases f.onlyConnectable <;>
    simp [PortInfo.canRead_iff, PortInfo.canWrite_iff, PortInfo.canSubscribeRead_iff,
      PortInfo.canSubscribeWrite_iff]

theorem accepts_iff : f.acceptsClient c = true ∧ f.acceptsPort p = true ↔ f.Admits c p := by
  unfold acceptsPort
  rw [acceptsClient_iff, Bool.and_eq_true, Bool.and_eq_true, acceptsDirection_iff]
  have typed : p.portType.contains f.portType = true ↔
      ∀ place, Flags.HasBit f.portType.bits place → Flags.HasBit p.portType.bits place :=
    Flags.contains_iff
  have exported : (!p.capability.contains .noExport || f.includeNoExport) = true ↔
      (p.Can 7 → f.includeNoExport = true) := by
    rw [← p.noExport_iff]
    cases p.capability.contains .noExport <;> simp
  rw [typed, exported]
  constructor
  · rintro ⟨⟨system, through⟩, ⟨portType, noExport⟩, direction⟩
    exact ⟨system, through, portType, noExport, direction⟩
  · rintro ⟨system, through, portType, noExport, direction⟩
    exact ⟨⟨system, through⟩, ⟨portType, noExport⟩, direction⟩

end PortFilter

end MidiSequencer
