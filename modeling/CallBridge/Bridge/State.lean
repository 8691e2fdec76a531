import CallBridge.Argument.Basic

/-!
# State of a bridge's channel
-/

namespace CallBridge

/-- State of the outbound side: connecting or open, and never back. -/
inductive ChannelState where
  | connecting
  | opened
deriving DecidableEq

namespace ChannelState

def title : ChannelState → String
  | .connecting => "Connecting"
  | .opened => "Open"

def name : ChannelState → String
  | .connecting => "connecting"
  | .opened => "open"

def description : ChannelState → String
  | .connecting => "Channel is connecting; outbound calls are buffered"
  | .opened => "Channel is open"

def isOpen (s : ChannelState) : Bool := s = .opened

def canBecome (s target : ChannelState) : Bool := s = .connecting && target = .opened

def ofJson (v : Json) : Except Mismatch ChannelState :=
  Argument.decodeVariant ("connecting", .connecting) ("open", .opened) v

def initial : ChannelState := .connecting

end ChannelState

end CallBridge
