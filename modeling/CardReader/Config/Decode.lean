import CardReader.Config.Mode
import CardReader.Config.Validation
import CardReader.Toml.Document

namespace CardReader

open Toml

/-- Why a value does not fit. -/
inductive Misfit where
  | missing (field : String)
  | unknownWord (word : String) (expected : List String)
  | wrongType (found : Value) (expected : String)
  | wrongNumber (n : Int) (expected : String)
  | wrongLength (length : Nat) (expected : String)
  | noWord
  | noElement
  | manyElements
  | notEmpty (listed : Bool)
  | notTable (found : String)
  | badMode (cause : ConfigError)

namespace Misfit

def quoted (word : String) : String := "`" ++ word ++ "`"

def choices : List String → String
  | [a, b] => quoted a ++ " or " ++ quoted b
  | words => "one of " ++ ", ".intercalate (words.map quoted)

def message : Misfit → String
  | .missing field => "missing field " ++ quoted field
  | .unknownWord word expected =>
    "unknown variant " ++ quoted word ++ ", expected " ++ choices expected
  | .wrongType found expected => "invalid type: " ++ found.shown ++ ", expected " ++ expected
  | .wrongNumber n expected =>
    "invalid value: " ++ (Value.integer n).shown ++ ", expected " ++ expected
  | .wrongLength length expected =>
    "invalid length " ++ toString length ++ ", expected " ++ expected
  | .noWord => "wanted string or table"
  | .noElement => "wanted exactly 1 element, found 0 elements"
  | .manyElements => "wanted exactly 1 element, more than 1 element"
  | .notEmpty listed => if listed then "expected empty array" else "expected empty table"
  | .notTable found => "expected table, found " ++ found
  | .badMode cause => cause.message

end Misfit

/-- What a value is read as, or why it does not fit. -/
abbrev Fit (α : Type) := Except Misfit α

namespace Decode

def boolean : Value → Fit Bool
  | .boolean b => .ok b
  | v => .error (.wrongType v "a boolean")

def text : Value → Fit String
  | .string s => .ok s
  | v => .error (.wrongType v "a string")

def number (name : String) (limit : Nat) : Value → Fit Nat
  | .integer n => if 0 ≤ n ∧ n < limit then .ok n.toNat else .error (.wrongNumber n name)
  | v => .error (.wrongType v name)

def byte (v : Value) : Fit UInt8 := UInt8.ofNat <$> number "u8" 0x100 v
def short (v : Value) : Fit UInt16 := UInt16.ofNat <$> number "u16" 0x10000 v
def word (v : Value) : Fit UInt32 := UInt32.ofNat <$> number "u32" 0x100000000 v
def span (v : Value) : Fit Nat := number "u64" 0x10000000000000000 v

def choice (all : List α) (name : α → String) (word : String) : Fit α :=
  match all.find? fun a => name a == word with
  | some a => .ok a
  | none => .error (.unknownWord word (all.map name))

/-- What a word may hold in place of nothing. -/
def nothing : Value → Fit Unit
  | .tables items => if items.isEmpty then .ok () else .error (.notEmpty true)
  | .list items => if items.isEmpty then .ok () else .error (.notEmpty false)
  | .table _ es => if es.isEmpty then .ok () else .error (.notEmpty false)
  | .string _ => .error (.notTable "string")
  | .integer _ => .error (.notTable "integer")
  | .float _ => .error (.notTable "float")
  | .boolean _ => .error (.notTable "boolean")
  | .time => .error (.notTable "datetime")

/-- One of a few words, by itself or as the only key of a table that holds nothing. -/
def chosen (all : List α) (name : α → String) : Value → Fit α
  | .string word => choice all name word
  | .table _ [] => .error .noElement
  | .table _ [(word, v)] => do
    let a ← choice all name word
    nothing v
    return a
  | .table _ _ => .error .manyElements
  | _ => .error .noWord

/-- Reads entries, or the items of a list in the order of `names`, onto `start`. The first one that
does not fit counts. -/
def record (title : String) (names : List String) (field : α → String → Value → Fit α) (start : α) :
    Value → Fit α
  | .table _ es => es.foldlM (fun a e => field a e.1 e.2) start
  | .list items | .tables items =>
    (names.zip items).foldlM (fun a e => field a e.1 e.2) start
  | .time => .ok start
  | v => .error (.wrongType v ("struct " ++ title))

def settingsField (s : Settings) (key : String) (v : Value) : Fit Settings := do
  match key with
  | "log_enabled" => return { s with logEnabled := ← boolean v }
  | "see_wait_insertion_log" => return { s with seeInsertionLog := ← boolean v }
  | "see_wait_removal_log" => return { s with seeRemovalLog := ← boolean v }
  | "see_communication_log" => return { s with seeWireLog := ← boolean v }
  | "auto_detect_enabled" => return { s with detectPorts := ← boolean v }
  | "auto_detection_timeout_ms" => return { s with detectionTimeout := ← span v }
  | "configuration_retry_enabled" => return { s with retryConfiguration := ← boolean v }
  | "configuration_retry_timeout_ms" => return { s with retryDelay := ← span v }
  | "data_transport_timeout_ms" => return { s with dataTimeout := ← span v }
  | _ => return s

def settings : Value → Fit Settings :=
  record "Settings"
    ["log_enabled", "see_wait_insertion_log", "see_wait_removal_log", "see_communication_log",
      "auto_detect_enabled", "auto_detection_timeout_ms", "configuration_retry_enabled",
      "configuration_retry_timeout_ms", "data_transport_timeout_ms"]
    settingsField {}

def mode (v : Value) : Fit Stid.Mode := do
  let name ← text v
  match Stid.Mode.parse name with
  | .ok m => return m
  | .error e => throw (.badMode e)

def wiring : Value → Fit Stid.Wiring := chosen [.rs232, .rs485] Stid.Wiring.word

def stidField (o : StidOptions) (key : String) (v : Value) : Fit StidOptions := do
  match key with
  | "communication_mode" => return { o with mode := ← mode v }
  | "communication_type" => return { o with wiring := ← wiring v }
  | "rs485_address" => return { o with address := ← byte v }
  | "hmac_key" => return { o with hmacKey := ← text v }
  | "aes_key" => return { o with aesKey := ← text v }
  | _ => return o

def stid : Value → Fit StidOptions :=
  record "StidStrOptions"
    ["communication_mode", "communication_type", "rs485_address", "hmac_key", "aes_key"]
    stidField {}

def rplethField (o : RplethOptions) (key : String) (v : Value) : Fit RplethOptions := do
  match key with
  | "csn_length" => return { o with csnLength := ← word v }
  | "csn_offset" => return { o with csnOffset := ← word v }
  | _ => return o

def rpleth : Value → Fit RplethOptions :=
  record "RplethOptions" ["csn_length", "csn_offset"] rplethField {}

def osdpField (o : OsdpOptions) (key : String) (v : Value) : Fit OsdpOptions := do
  match key with
  | "address" => return { o with address := ← byte v }
  | _ => return o

def osdp : Value → Fit OsdpOptions := record "OsdpOptions" ["address"] osdpField {}

/-- Entries of an endpoint that were read so far. -/
structure EndpointDraft where
  port : Option String := none
  baud : Option UInt32 := none
  host : Option String := none
  socket : Option UInt16 := none

/-- The kinds of endpoint. -/
inductive EndpointKind where
  | serial
  | tcp
  deriving DecidableEq

namespace EndpointKind

def name : EndpointKind → String
  | .serial => "serial"
  | .tcp => "tcp"

def fields : EndpointKind → List String
  | .serial => ["port", "baud_rate"]
  | .tcp => ["host", "port"]

/-- Reads the kind of an endpoint. -/
def ofValue : Value → Fit EndpointKind
  | .string word => choice [.serial, .tcp] name word
  | v => .error (.wrongType v "variant identifier")

end EndpointKind

def endpointField (kind : EndpointKind) (d : EndpointDraft) (key : String) (v : Value) :
    Fit EndpointDraft := do
  match kind, key with
  | .serial, "port" => return { d with port := some (← text v) }
  | .serial, "baud_rate" => return { d with baud := some (← word v) }
  | .tcp, "host" => return { d with host := some (← text v) }
  | .tcp, "port" => return { d with socket := some (← short v) }
  | _, _ => return d

/-- An endpoint of which everything was read. -/
def endpointOf (kind : EndpointKind) (d : EndpointDraft) : Fit Endpoint :=
  match kind, d.host, d.socket with
  | .serial, _, _ => .ok (.serial d.port d.baud)
  | .tcp, some host, some port => .ok (.tcp host port)
  | .tcp, none, _ => .error (.missing "host")
  | .tcp, some _, none => .error (.missing "port")

/-- Reads the entries of an endpoint from a list. -/
def endpointItems (kind : EndpointKind) (items : List Value) : Fit Endpoint := do
  let fields := kind.fields
  let d ← (fields.zip items).foldlM (fun d e => endpointField kind d e.1 e.2) {}
  if kind = .tcp ∧ items.length < fields.length then
    throw (.wrongLength items.length "struct variant EndpointConfig::Tcp with 2 elements")
  if fields.length < items.length then
    throw (.wrongLength items.length (toString fields.length ++ " elements in sequence"))
  endpointOf kind d

/-- Reads an endpoint; the entry for its kind is read before all others. -/
def endpoint : Value → Fit Endpoint
  | .table _ es => do
    match es.lookup "type" with
    | none => throw (.missing "type")
    | some v =>
      let kind ← EndpointKind.ofValue v
      let d ← (es.filter fun e => e.1 != "type").foldlM (fun d e => endpointField kind d e.1 e.2) {}
      endpointOf kind d
  | .list items | .tables items =>
    match items with
    | [] => .error (.missing "type")
    | v :: rest => do endpointItems (← EndpointKind.ofValue v) rest
  | .time => .error (.missing "type")
  | v => .error (.wrongType v "internally tagged enum EndpointConfig")

/-- Entries of a reader that were read so far. -/
structure ReaderDraft where
  family : Option Family := none
  endpoint : Endpoint := .serial none none
  stid : StidOptions := {}
  rpleth : RplethOptions := {}
  osdp : OsdpOptions := {}

def readerField (d : ReaderDraft) (key : String) (v : Value) : Fit ReaderDraft := do
  match key with
  | "kind" => return { d with family := some (← chosen Family.all Family.word v) }
  | "endpoint" => return { d with endpoint := ← endpoint v }
  | "stidstr" => return { d with stid := ← stid v }
  | "rpleth" => return { d with rpleth := ← rpleth v }
  | "osdp" => return { d with osdp := ← osdp v }
  | _ => return d

/-- Reads a reader; only its kind must be there. -/
def reader (v : Value) : Fit ReaderConfig := do
  let d ← record "ReaderConfig" ["kind", "endpoint", "stidstr", "rpleth", "osdp"] readerField {} v
  match d.family, v with
  | some family, _ => return ⟨family, d.endpoint, d.stid, d.rpleth, d.osdp⟩
  | none, .list _ | none, .tables _ =>
    throw (.wrongLength 0 "struct ReaderConfig with 5 elements")
  | none, _ => throw (.missing "kind")

def readers : Value → Fit (List ReaderConfig)
  | .list items | .tables items => items.mapM reader
  | v => .error (.wrongType v "a sequence")

def configField (c : Config) (key : String) (v : Value) : Fit Config := do
  match key with
  | "settings" => return { c with settings := ← settings v }
  | "reader" => return { c with readers := ← readers v }
  | _ => return c

def config (es : Entries) : Fit Config := es.foldlM (fun c e => configField c e.1 e.2) {}

end Decode

/-- Why a text is no configuration. -/
inductive ConfigFault where
  | notToml
  | misfit (cause : Misfit)
  | refused (cause : ConfigError)

/-- The configuration that a document holds, if it is sound. -/
def Config.ofToml (document : String) : Except ConfigFault Config :=
  match Toml.parse document with
  | none => .error .notToml
  | some es =>
    match Decode.config es with
    | .error e => .error (.misfit e)
    | .ok c =>
      match c.validate with
      | .error e => .error (.refused e)
      | .ok _ => .ok c

def Misfit.report (e : Misfit) : String := "Invalid TOML configuration: " ++ e.message

end CardReader
