/-! # Kinds of events

Events fall into families that share a layout. Each kind has a name and a type number, and every
type number belongs to exactly one kind: those without a decoder of their own are `other`.
-/
namespace MidiSequencer

inductive ResultKind where
  | system | result
  deriving DecidableEq

inductive NoteKind where
  | note | noteOn | noteOff | keyPressure
  deriving DecidableEq

inductive ControlKind where
  | controlChange | programChange | channelPressure | pitchBend | control14
  | nonRegisteredParameter | registeredParameter | songPosition | songSelect | quarterFrame
  | timeSignature | keySignature
  deriving DecidableEq

inductive QueueKind where
  | start | continue | stop | setPositionTick | setPositionTime | tempo | clock | tick | queueSkew
  | syncPosition
  deriving DecidableEq

inductive SignalKind where
  | tuneRequest | reset | activeSensing
  deriving DecidableEq

inductive EndpointKind where
  | clientStart | clientExit | clientChange | portStart | portExit | portChange
  deriving DecidableEq

inductive LinkKind where
  | portSubscribed | portUnsubscribed
  deriving DecidableEq

inductive Kind where
  | result (kind : ResultKind)
  | note (kind : NoteKind)
  | control (kind : ControlKind)
  | queue (kind : QueueKind)
  | signal (kind : SignalKind)
  | endpoint (kind : EndpointKind)
  | link (kind : LinkKind)
  | sysEx
  | other (code : UInt8)
  deriving DecidableEq

namespace Kind

def code : Kind → UInt8
  | result .system => 0
  | result .result => 1
  | note .note => 5
  | note .noteOn => 6
  | note .noteOff => 7
  | note .keyPressure => 8
  | control .controlChange => 10
  | control .programChange => 11
  | control .channelPressure => 12
  | control .pitchBend => 13
  | control .control14 => 14
  | control .nonRegisteredParameter => 15
  | control .registeredParameter => 16
  | control .songPosition => 20
  | control .songSelect => 21
  | control .quarterFrame => 22
  | control .timeSignature => 23
  | control .keySignature => 24
  | queue .start => 30
  | queue .continue => 31
  | queue .stop => 32
  | queue .setPositionTick => 33
  | queue .setPositionTime => 34
  | queue .tempo => 35
  | queue .clock => 36
  | queue .tick => 37
  | queue .queueSkew => 38
  | queue .syncPosition => 39
  | signal .tuneRequest => 40
  | signal .reset => 41
  | signal .activeSensing => 42
  | endpoint .clientStart => 60
  | endpoint .clientExit => 61
  | endpoint .clientChange => 62
  | endpoint .portStart => 63
  | endpoint .portExit => 64
  | endpoint .portChange => 65
  | link .portSubscribed => 66
  | link .portUnsubscribed => 67
  | sysEx => 130
  | other code => code

/-- The kinds with a decoder of their own. -/
def decoded : List Kind :=
  [ .result .system, .result .result, .note .note, .note .noteOn, .note .noteOff,
    .note .keyPressure, .control .controlChange, .control .programChange, .control .channelPressure,
    .control .pitchBend, .control .control14, .control .nonRegisteredParameter,
    .control .registeredParameter, .control .songPosition, .control .songSelect,
    .control .quarterFrame, .control .timeSignature, .control .keySignature, .queue .start,
    .queue .continue, .queue .stop, .queue .setPositionTick, .queue .setPositionTime,
    .queue .tempo, .queue .clock, .queue .tick, .queue .queueSkew, .queue .syncPosition,
    .signal .tuneRequest, .signal .reset, .signal .activeSensing, .endpoint .clientStart,
    .endpoint .clientExit, .endpoint .clientChange, .endpoint .portStart, .endpoint .portExit,
    .endpoint .portChange, .link .portSubscribed, .link .portUnsubscribed, .sysEx ]

def ofCode (code : UInt8) : Kind :=
  (decoded.find? fun kind => kind.code == code).getD (.other code)

def name : Kind → String
  | result .system => "System"
  | result .result => "Result"
  | note .note => "Note"
  | note .noteOn => "NoteOn"
  | note .noteOff => "NoteOff"
  | note .keyPressure => "KeyPressure"
  | control .controlChange => "ControlChange"
  | control .programChange => "ProgramChange"
  | control .channelPressure => "ChannelPressure"
  | control .pitchBend => "PitchBend"
  | control .control14 => "Control14"
  | control .nonRegisteredParameter => "NonRegisteredParameter"
  | control .registeredParameter => "RegisteredParameter"
  | control .songPosition => "SongPosition"
  | control .songSelect => "SongSelect"
  | control .quarterFrame => "QuarterFrame"
  | control .timeSignature => "TimeSignature"
  | control .keySignature => "KeySignature"
  | queue .start => "Start"
  | queue .continue => "Continue"
  | queue .stop => "Stop"
  | queue .setPositionTick => "SetPositionTick"
  | queue .setPositionTime => "SetPositionTime"
  | queue .tempo => "Tempo"
  | queue .clock => "Clock"
  | queue .tick => "Tick"
  | queue .queueSkew => "QueueSkew"
  | queue .syncPosition => "SyncPosition"
  | signal .tuneRequest => "TuneRequest"
  | signal .reset => "Reset"
  | signal .activeSensing => "ActiveSensing"
  | endpoint .clientStart => "ClientStart"
  | endpoint .clientExit => "ClientExit"
  | endpoint .clientChange => "ClientChange"
  | endpoint .portStart => "PortStart"
  | endpoint .portExit => "PortExit"
  | endpoint .portChange => "PortChange"
  | link .portSubscribed => "PortSubscribed"
  | link .portUnsubscribed => "PortUnsubscribed"
  | sysEx => "SysEx"
  | other _ => "Generic"

def ofName (s : String) : Option Kind :=
  decoded.find? fun kind => kind.name == s

theorem code_ofCode (c : UInt8) : (ofCode c).code = c := by
  unfold ofCode
  cases h : decoded.find? (fun kind => kind.code == c) with
  | none => rfl
  | some kind => simpa using List.find?_some h

theorem ofCode_code : ∀ kind ∈ decoded, ofCode kind.code = kind := by
  decide

theorem mem_decoded {kind : Kind} (h : ∀ code, kind ≠ .other code) : kind ∈ decoded := by
  cases kind with
  | result k => cases k <;> decide
  | note k => cases k <;> decide
  | control k => cases k <;> decide
  | queue k => cases k <;> decide
  | signal k => cases k <;> decide
  | endpoint k => cases k <;> decide
  | link k => cases k <;> decide
  | sysEx => decide
  | other code => exact absurd rfl (h code)

theorem ofCode_code_of_ne {kind : Kind} (h : ∀ code, kind ≠ .other code) :
    ofCode kind.code = kind :=
  ofCode_code kind (mem_decoded h)

theorem ofCode_eq_sysEx {code : UInt8} : ofCode code = sysEx ↔ code = 130 := by
  constructor
  · intro h
    rw [← code_ofCode code, h]
    rfl
  · rintro rfl
    decide

end Kind

end MidiSequencer
