namespace CardReader

/-- Class of a failure. -/
inductive FaultKind where
  | transport
  | framing
  | authentication
  | protocolStatus
  | timeout
  | usage
  deriving DecidableEq

def FaultKind.name : FaultKind → String
  | .transport => "Transport"
  | .framing => "Framing"
  | .authentication => "Authentication"
  | .protocolStatus => "ProtocolStatus"
  | .timeout => "Timeout"
  | .usage => "Usage"

end CardReader
