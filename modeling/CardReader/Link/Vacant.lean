import CardReader.Link.Basic

namespace CardReader

/-- Line parameters of a serial port; eight data bits, no parity, one stop bit. -/
structure LineSettings where
  baud : UInt32
  deriving DecidableEq

/-- Rate, data bits, parity and stop bits. -/
def LineSettings.text (l : LineSettings) : String := toString l.baud.toNat ++ " Eight None One"

/-- An endpoint without a device: a serial port, with the delay before a second try if there is
one, or a socket, with the time that opening it may take. -/
inductive VacantLink where
  | serial (port : String) (line : LineSettings) (retry : Option Nat)
  | socket (host : String) (port : UInt16) (patience : Nat)
  deriving DecidableEq

namespace VacantLink

def name : VacantLink → String
  | .serial port _ _ => port
  | .socket host port _ => host ++ ":" ++ toString port.toNat

/-- A missing port is tried once more after the delay; a socket that nobody answers times out. -/
def connect : VacantLink → Outcome VacantLink Unit
  | .serial port line retry =>
    ⟨.error (.serial port "No such file or directory"), .serial port line retry, retry.getD 0⟩
  | .socket host port patience =>
    ⟨.error .connectionTimeout, .socket host port patience, patience⟩

instance : Link VacantLink where
  name := name
  isOpen _ := false
  connect _ := connect
  disconnect _ s := ⟨.ok (), s, 0⟩
  send _ _ s := ⟨.error .notConnected, s, 0⟩
  receive _ _ s := ⟨.error .notConnected, s, 0⟩
  backlog _ := 0
  backlog_receive _ _ _ _ h := by simp at h

end VacantLink

end CardReader
