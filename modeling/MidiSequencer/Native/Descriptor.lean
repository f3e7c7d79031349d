import MidiSequencer.Info
import MidiSequencer.Text.Utf8

/-! # Native descriptors

The descriptors through which the native library passes metadata: plain numbers, and names as bytes
that need not be well-formed text. A snapshot is read from a descriptor field by field; written to
one, it leaves out what only the sequencer decides.
-/
namespace MidiSequencer.Native

/-- A name as bytes; `none` is the null pointer. -/
abbrev RawName := Option (List UInt8)

def readName : RawName → String
  | none => ""
  | some bytes => String.ofList (Text.Utf8.decode bytes)

def writeName (name : String) : RawName :=
  some (Text.Utf8.encode name.toList)

structure ClientDescriptor where
  client : Int := 0
  name : RawName := none
  broadcastFilter : Int := 0
  errorBounce : Int := 0
  type : Int := 0
  numPorts : Int := 0
  eventLost : Int := 0
  card : Int := 0
  pid : Int := 0
  deriving DecidableEq

structure PortDescriptor where
  client : Int := 0
  port : Int := 0
  name : RawName := none
  capability : UInt32 := 0
  type : UInt32 := 0
  midiChannels : Int := 0
  midiVoices : Int := 0
  synthVoices : Int := 0
  readUse : Int := 0
  writeUse : Int := 0
  portSpecified : Int := 0
  timestamping : Int := 0
  timestampReal : Int := 0
  timestampQueue : Int := 0
  deriving DecidableEq

structure TempoDescriptor where
  tempo : UInt32 := 0
  resolution : Int := 0
  deriving DecidableEq

structure SubscribeDescriptor where
  sender : Address
  dest : Address
  queue : Option Int := none
  exclusive : Int := 0
  timeUpdate : Int := 0
  timeReal : Int := 0
  deriving DecidableEq

/-- A truth value as the native library stores it; only 1 reads as true. -/
def ofBool (b : Bool) : Int := if b then 1 else 0

def ClientDescriptor.read (d : ClientDescriptor) : ClientInfo :=
  { clientId := d.client
    name := readName d.name
    broadcastFilter := d.broadcastFilter == 1
    errorBounce := d.errorBounce == 1
    clientType := ClientType.ofInt? d.type
    numPorts := d.numPorts
    eventLost := d.eventLost
    card := ClientInfo.cardOfInt d.card
    pid := ClientInfo.pidOfInt d.pid }

def PortDescriptor.read (d : PortDescriptor) : PortInfo :=
  { clientId := d.client
    portId := d.port
    name := readName d.name
    capability := PortCapabilities.truncate ⟨d.capability⟩
    portType := PortType.truncate ⟨d.type⟩
    midiChannels := d.midiChannels
    midiVoices := d.midiVoices
    synthVoices := d.synthVoices
    readUse := d.readUse
    writeUse := d.writeUse
    portSpecified := d.portSpecified == 1
    timestamping := d.timestamping == 1
    timestampReal := d.timestampReal == 1
    timestampQueue := d.timestampQueue }

/-- Stores what a caller may choose; numbers and use counts stay as they are. -/
def PortDescriptor.write (d : PortDescriptor) (info : PortInfo) : PortDescriptor :=
  { d with
    name := writeName info.name
    capability := info.capability.bits
    type := info.portType.bits
    midiChannels := info.midiChannels
    midiVoices := info.midiVoices
    synthVoices := info.synthVoices
    portSpecified := ofBool info.portSpecified
    timestamping := ofBool info.timestamping
    timestampReal := ofBool info.timestampReal
    timestampQueue := info.timestampQueue }

def SubscribeDescriptor.ofSubscription (s : Subscription) : SubscribeDescriptor :=
  { sender := s.sender
    dest := s.dest
    queue := s.options.queue.map fun q => q.toNat
    exclusive := ofBool s.options.exclusive
    timeUpdate := ofBool s.options.timeUpdate
    timeReal := ofBool s.options.timeReal }

end MidiSequencer.Native
