namespace CardReader

/-- Why a link cannot be opened or used. -/
inductive LinkError where
  | notConnected
  | alreadyConnected
  | connectionTimeout
  | connectionClosed
  | io (text : String)
  | invalidAddress (text : String)
  | serial (port text : String)
  deriving DecidableEq

def LinkError.message : LinkError → String
  | .notConnected => "transport is not open"
  | .alreadyConnected => "transport is already open"
  | .connectionTimeout => "timed out while opening the connection"
  | .connectionClosed => "peer closed the connection"
  | .io text => "i/o failure: " ++ text
  | .invalidAddress text => "cannot resolve " ++ text
  | .serial port text => "serial port " ++ port ++ ": " ++ text

end CardReader
