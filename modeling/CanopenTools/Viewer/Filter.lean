import Mathlib.Data.Nat.Notation

/-!
# Messages and filters of the viewer

`MessageCached` is a received message with what the crate `oze_canopen` makes of it, and an index
that the driver counts up. `DataFilter` and `GlobalFilter` decide which messages are filtered out.
The crates `oze_canopen` and `regex` are not part of the repository: what the viewer gets from the
first is the structure `Canopen`, and a regular expression is what it matches.

Indices are natural numbers; the driver would have to store 2 ^ 64 messages to count past its `u64`.
-/

set_option autoImplicit false
set_option relaxedAutoImplicit false

namespace CanopenTools.Viewer

/-! ### Messages -/

/-- A point of the monotonic clock. -/
abbrev Instant : Type := ℕ

/-- A message from the CAN interface. -/
structure RxMessage where
  timestamp : Instant
  cobId : ℕ
  data : List UInt8
  dlc : ℕ
  deriving DecidableEq, Repr

/-- The types of messages that `oze_canopen` tells apart. -/
inductive RxMessageType
  | sdoTx
  | sdoRx
  | pdo
  | sync
  | nmt
  | lss
  | guarding
  | emcy
  | unknown
  deriving DecidableEq, Repr

/-- What `oze_canopen` makes of a message. -/
structure Canopen where
  parsedNodeId : RxMessage → Option ℕ
  parsedType : RxMessage → RxMessageType
  cobIdToString : RxMessage → String
  dataToHex : RxMessage → String

/-- A message as the driver keeps it. -/
structure MessageCached where
  index : ℕ
  msg : RxMessage
  parsedNodeId : Option ℕ
  parsedType : RxMessageType
  cobStr : String
  hexStr : String
  deriving DecidableEq, Repr

/-- `MessageCached::new`. -/
def MessageCached.new (canopen : Canopen) (index : ℕ) (msg : RxMessage) : MessageCached where
  index := index
  msg := msg
  parsedNodeId := canopen.parsedNodeId msg
  parsedType := canopen.parsedType msg
  cobStr := canopen.cobIdToString msg
  hexStr := canopen.dataToHex msg

/-- `MessageCached::get_timestamp`. -/
def MessageCached.getTimestamp (message : MessageCached) : Instant := message.msg.timestamp

/-! ### Filters -/

/-- A regular expression. -/
structure Regex where
  isMatch : String → Bool

/-- A filter on the node id, the COB id and the data. -/
structure DataFilter where
  regex : Option Regex
  nodeId : Option ℕ
  regexCob : Option Regex

/-- `DataFilter::filter`: whether a message is filtered out. -/
def DataFilter.filter (filter : DataFilter) (message : MessageCached) : Bool :=
  if filter.nodeId.isSome && message.parsedNodeId != filter.nodeId then true
  else if filter.regexCob.any fun regex ↦ !regex.isMatch message.cobStr then true
  else filter.regex.any fun regex ↦ !regex.isMatch message.hexStr

/-- The flags for types of messages. -/
abbrev Flags : Type := BitVec 8

namespace Flags

def none : Flags := 0b00000000#8
def sync : Flags := 0b00000001#8
def pdo : Flags := 0b00000010#8
def sdo : Flags := 0b00000100#8
def nmt : Flags := 0b00001000#8
def lss : Flags := 0b00010000#8
def emcy : Flags := 0b00100000#8
def guard : Flags := 0b01000000#8
def unknown : Flags := 0b10000000#8

/-- Whether all flags of `other` are set. -/
def contains (flags other : Flags) : Bool := flags &&& other == other

end Flags

/-- A filter on data and on types of messages. -/
structure GlobalFilter where
  ignoreType : Flags
  data : DataFilter

/-- `GlobalFilter::filter`: whether a message is filtered out. -/
def GlobalFilter.filter (filter : GlobalFilter) (message : MessageCached) : Bool :=
  if filter.data.filter message then true
  else
    match message.parsedType with
    | .sdoTx | .sdoRx => filter.ignoreType.contains .sdo
    | .pdo => filter.ignoreType.contains .pdo
    | .sync => filter.ignoreType.contains .sync
    | .nmt => filter.ignoreType.contains .nmt
    | .lss => filter.ignoreType.contains .lss
    | .guarding => filter.ignoreType.contains .guard
    | .emcy => filter.ignoreType.contains .emcy
    | .unknown => filter.ignoreType.contains .unknown

/-- `GlobalFilter::default` filters nothing out. -/
def GlobalFilter.default : GlobalFilter := ⟨.none, ⟨Option.none, Option.none, Option.none⟩⟩

end CanopenTools.Viewer
