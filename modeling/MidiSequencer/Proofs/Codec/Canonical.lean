import MidiSequencer.Proofs.Codec.RoundTrip

/-! # Canonical records

A record that is read and written again loses what nobody reads: unused bits of the flags, bytes
outside the layout of its type, and a time without a queue. What is left is its canonical form,
which reads like the record itself. -/
namespace MidiSequencer

/-- The data bytes, numbered from 0, that the layout of a kind reads. -/
def Kind.reads : Kind → Nat → Bool
  | .result _, i => i < 8
  | .note _, i => i < 8
  | .control _, i => i = 0 || 4 ≤ i
  | .queue .setPositionTime, i => i = 0 || 4 ≤ i
  | .queue .queueSkew, i => i = 0 || 4 ≤ i
  | .queue _, i => i = 0 || (4 ≤ i && i < 8)
  | .endpoint _, i => i < 2
  | .link _, i => i < 4
  | _, _ => false

def Word.mask (keep : Nat → Bool) (w : Word) : Word :=
  ⟨if keep 0 then w.b0 else 0, if keep 1 then w.b1 else 0, if keep 2 then w.b2 else 0,
    if keep 3 then w.b3 else 0⟩

def Payload.mask (keep : Nat → Bool) (p : Payload) : Payload :=
  { first := p.first.mask keep
    second := p.second.mask fun i => keep (i + 4)
    third := p.third.mask fun i => keep (i + 8) }

namespace Record

/-- The marks for relative times and high priority, that for real time if there is a queue, and the
length bits of the type. -/
def canonicalFlags (r : Record) : UInt8 :=
  (if r.type = 130 then variableLength else fixedLength) |||
  (r.flags &&& relativeFlag) ||| (r.flags &&& highPriorityFlag) |||
  (if r.queue = 253 then 0 else r.flags &&& realTimeFlag)

def canonicalTime (r : Record) : Stamp :=
  if r.queue = 253 then {}
  else if r.hasFlag realTimeFlag then r.time
  else { first := r.time.first }

def canonicalData (r : Record) : Payload :=
  if r.type = 130 then { first := .ofUInt32 (.ofNat r.payload.length) }
  else r.data.mask (Kind.ofCode r.type).reads

def canonical (r : Record) : Record :=
  { type := r.type
    flags := r.canonicalFlags
    tag := r.tag
    queue := r.queue
    time := r.canonicalTime
    source := r.source
    dest := if r.dest.client = 254 then ⟨254, 253⟩ else r.dest
    data := r.canonicalData
    ext := if r.type = 130 then some r.payload else none }

theorem mark_eq (flags : UInt8) :
    ∀ mark ∈ [realTimeFlag, relativeFlag, highPriorityFlag],
      (if flags &&& mark != 0 then mark else 0) = flags &&& mark := by
  have h : ∀ n : Fin 256, ∀ mark ∈ [realTimeFlag, relativeFlag, highPriorityFlag],
      (if UInt8.ofFin n &&& mark != 0 then mark else 0) = UInt8.ofFin n &&& mark := by
    decide +kernel
  simpa using h flags.toFin

theorem kind_decodeAs (r : Record) (kind : Kind) : (r.decodeAs kind).kind = kind := by
  cases kind <;> rfl

theorem ext_decodeAs (r : Record) (kind : Kind) :
    (r.decodeAs kind).ext = if kind = .sysEx then some r.payload else none := by
  cases kind <;> rfl

theorem encode_decodeAs (r : Record) {kind : Kind} (h : kind ≠ .sysEx) :
    (r.decodeAs kind).encode = r.data.mask kind.reads := by
  cases kind with
  | sysEx => exact absurd rfl h
  | queue k =>
    cases k <;>
      simp [decodeAs, EventData.encode, QueueData.encode, QueueData.decode, QueueParam.ofWords,
        QueueParam.toWords, RealTime.ofWords, RealTime.toWords, Payload.mask, Word.mask,
        Kind.reads, Word.zero]
  | _ =>
    simp [decodeAs, EventData.encode, ResultData.encode, ResultData.decode, NoteData.encode,
      NoteData.decode, ControlData.encode, ControlData.decode, Link.encode, Link.decode,
      Payload.mask, Word.mask, Kind.reads] <;> rfl

theorem length_payload_lt (r : Record) : r.payload.length < UInt32.size := by
  have h := r.data.first.toUInt32.toNat_lt_size
  unfold payload statedLength
  split
  · rw [List.length_take]
    exact Nat.lt_of_le_of_lt (Nat.min_le_left _ _) h
  · decide

theorem type_encode_decode (r : Record) : r.decode.encode.type = r.type := by
  change (r.decodeAs (.ofCode r.type)).kind.code = r.type
  rw [kind_decodeAs, Kind.code_ofCode]

theorem ext_encode_decode (r : Record) :
    r.decode.encode.ext = if r.type = 130 then some r.payload else none := by
  change (r.decodeAs (.ofCode r.type)).ext = _
  simp only [ext_decodeAs, Kind.ofCode_eq_sysEx]

theorem data_encode_decode (r : Record) : r.decode.encode.data = r.canonicalData := by
  change (r.decodeAs (.ofCode r.type)).encode = _
  by_cases h : r.type = 130
  · rw [Kind.ofCode_eq_sysEx.2 h, canonicalData, if_pos h]
    rfl
  · rw [encode_decodeAs r (mt Kind.ofCode_eq_sysEx.1 h), canonicalData, if_neg h]

theorem time_encode_decode (r : Record) : r.decode.encode.time = r.canonicalTime := by
  change (r.decode.time.map Timestamp.encode).getD {} = _
  simp only [decode, canonicalTime, directQueue]
  by_cases hq : r.queue = 253
  · simp [hq]
  · by_cases ht : r.hasFlag realTimeFlag = true <;>
      simp [hq, ht, decodeTime, Timestamp.encode, RealTime.ofWords, RealTime.toWords]

theorem flags_encode_decode (r : Record) : r.decode.encode.flags = r.canonicalFlags := by
  have hv : r.decode.data.isVariable = decide (r.type = 130) := by
    change (r.decodeAs (.ofCode r.type)).ext.isSome = _
    simp only [ext_decodeAs, Kind.ofCode_eq_sysEx]
    by_cases h : r.type = 130 <;> simp [h]
  have ht : r.decode.time.any Timestamp.isReal =
      (decide (r.queue ≠ 253) && r.hasFlag realTimeFlag) := by
    by_cases hq : r.queue = 253
    · simp [decode, directQueue, hq]
    · by_cases ht : r.hasFlag realTimeFlag = true <;>
        simp [decode, directQueue, hq, ht, decodeTime, Timestamp.isReal]
  have hm := mark_eq r.flags
  have hr : (if r.hasFlag relativeFlag then relativeFlag else 0) = r.flags &&& relativeFlag :=
    hm relativeFlag (by simp)
  have hp : (if r.hasFlag highPriorityFlag then highPriorityFlag else 0) =
      r.flags &&& highPriorityFlag :=
    hm highPriorityFlag (by simp)
  have hl : (if r.hasFlag realTimeFlag then realTimeFlag else 0) = r.flags &&& realTimeFlag :=
    hm realTimeFlag (by simp)
  change r.decode.flags = _
  rw [Event.flags, hv, ht, canonicalFlags, ← hr, ← hp, ← hl]
  by_cases hq : r.queue = 253
  · by_cases hk : r.type = 130 <;> simp [hq, hk, decode]
  · by_cases hk : r.type = 130 <;> simp [hq, hk, decode] <;> rfl

theorem encode_decode (r : Record) : r.decode.encode = r.canonical := by
  have hq : r.decode.encode.queue = r.queue := by
    change r.decode.queue.getD directQueue = r.queue
    by_cases h : r.queue = directQueue <;> simp [decode, h]
  have hd : r.decode.encode.dest = r.canonical.dest := by
    change r.decode.dest.getD Address.allSubscribers = _
    by_cases h : r.dest.client = 254 <;>
      simp [decode, canonical, Address.subscribers, Address.allSubscribers, Address.unknown, h]
  change (⟨r.decode.encode.type, r.decode.encode.flags, r.tag, r.decode.encode.queue,
    r.decode.encode.time, r.source, r.decode.encode.dest, r.decode.encode.data,
    r.decode.encode.ext⟩ : Record) = r.canonical
  rw [type_encode_decode, flags_encode_decode, hq, time_encode_decode, hd, data_encode_decode,
    ext_encode_decode]
  rfl

theorem normal_data_decode (r : Record) : r.decode.data.normal = r.decode.data := by
  change (r.decodeAs (.ofCode r.type)).normal = r.decodeAs (.ofCode r.type)
  cases hk : Kind.ofCode r.type with
  | queue k => cases k <;> simp [decodeAs, EventData.normal, QueueData.decode,
      QueueParam.ofWords, QueueParam.shaped, QueueParam.words, RealTime.ofWords, Word.toInt32]
  | sysEx =>
    have h := length_payload_lt r
    simp only [decodeAs, EventData.normal, Nat.mod_eq_of_lt h, List.take_length]
  | other code =>
    have hc : r.type = code := by rw [← Kind.code_ofCode r.type, hk]; rfl
    rw [decodeAs, EventData.normal, ← hc, hk, hc]
    rfl
  | _ => rfl

theorem normal_decode (r : Record) : r.decode.normal = r.decode := by
  have hq : r.decode.normalQueue {} = r.decode.queue := by
    change r.decode.queue.filter (· != 253) = r.decode.queue
    by_cases h : r.queue = directQueue <;> simp_all [decode, directQueue, Option.filter]
  have hd : r.decode.normalDest {} = r.decode.dest := by
    change r.decode.dest.filter (·.client != 254) = r.decode.dest
    by_cases h : r.dest.client = 254 <;> simp [decode, Address.subscribers, Option.filter, h]
  have ht : r.decode.queue.map (fun _ => r.decode.time.getD (.tick 0)) = r.decode.time := by
    by_cases h : r.queue = directQueue <;> simp [decode, h]
  rw [Event.normal, normal_data_decode, hq, hd, ht]
  rfl

/-- Writing what was read once more changes nothing: the record has its canonical form, reads as
before, and a payload keeps its bytes and its length. -/
theorem reencoding_canonical_form (r : Record) :
    r.decode.encode = r.canonical ∧
    r.decode.encode.decode = r.decode ∧
    r.decode.encode.decode.encode = r.decode.encode ∧
    (r.type = 130 → r.decode.encode.payload = r.payload ∧
      r.decode.encode.statedLength = r.payload.length) := by
  have hr : r.decode.encode.decode = r.decode := by
    rw [Event.decode_encode, normal_decode]
  refine ⟨encode_decode r, hr, by rw [hr], fun h => ?_⟩
  have hd : r.decode.data = .sysEx r.payload := by
    change r.decodeAs (.ofCode r.type) = _
    rw [Kind.ofCode_eq_sysEx.2 h]
    rfl
  have hl := length_payload_lt r
  constructor
  · rw [Event.payload_encode_sysEx _ _ hd, Nat.mod_eq_of_lt hl, List.take_length]
  · rw [statedLength, data_encode_decode, canonicalData, if_pos h, Word.toUInt32_ofUInt32,
      UInt32.toNat_ofNat', Nat.mod_eq_of_lt hl]

/-- Bits without a meaning go, and so do the bytes that a note does not use. -/
example :
    let r : Record :=
      { type := 6, flags := 0xff, tag := 9, queue := 253, time := ⟨⟨1, 2, 3, 4⟩, ⟨5, 6, 7, 8⟩⟩
        source := ⟨128, 0⟩, dest := ⟨254, 7⟩, ext := none
        data := ⟨⟨1, 60, 100, 0⟩, ⟨9, 0, 0, 0⟩, ⟨1, 2, 3, 4⟩⟩ }
    r.canonical =
      { r with flags := 18, time := {}, dest := ⟨254, 253⟩
               data := ⟨⟨1, 60, 100, 0⟩, ⟨9, 0, 0, 0⟩, .zero⟩ } := by
  decide

end Record

end MidiSequencer
