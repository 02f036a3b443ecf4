namespace CardReader

/-- Settings of the library. -/
structure Settings where
  logEnabled : Bool := true
  seeInsertionLog : Bool := false
  seeRemovalLog : Bool := false
  seeWireLog : Bool := false
  detectPorts : Bool := false
  detectionTimeout : Nat := 400
  retryConfiguration : Bool := false
  retryDelay : Nat := 500
  dataTimeout : Nat := 3000
  deriving DecidableEq

end CardReader
