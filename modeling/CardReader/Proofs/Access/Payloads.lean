import CardReader.Osdp.Device
import CardReader.Proofs.Access.Stid
import CardReader.Proofs.Stid.Handshake
import CardReader.Stid.Report

namespace CardReader.Access

section

open Stid

def readInformation (data : Bytes) : Try ReaderError Information :=
  if data.length < 5 then report (.badResponse (.shortInformation data.length))
  else do
    let version ← byteAt data 0
    let baudCode ← byteAt data 1
    let address ← byteAt data 2
    let volts ← byteAt data 3
    let tenths ← byteAt data 4
    return ⟨version, baudCode, address, volts, tenths⟩

def readTamper (data : Bytes) : Try ReaderError TamperSwitch :=
  if data.length < 3 then report (.badResponse (.shortTamper data.length))
  else do
    let enabled ← byteAt data 0
    let behavior ← lift (TamperBehavior.ofCode (← byteAt data 1))
    let changed ← byteAt data 2
    return ⟨enabled == 1, behavior, changed == 1⟩

/-- The card whose identifier is the `n` bytes from a position on. -/
def readCard (cardType : String) (data : Bytes) (start n : Nat) : Try ReaderError (Option Chip) :=
  if n = 0 then return none
  else
    match slice? data start (start + n) with
    | some identifier => return some ⟨cardType, identifier⟩
    | none => report (.badResponse (.cutIdentifier n))

def readScanA (data : Bytes) : Try ReaderError (Option Chip) :=
  match data.head? with
  | none => report (.badResponse .emptyScanA)
  | some found =>
    if found ≠ 1 then return none
    else if data.length ≤ 5 then report (.badResponse (.shortScanA data.length))
    else do
      let hi ← byteAt data 1
      let lo ← byteAt data 2
      let n ← byteAt data 4
      readCard (Scan.cardType (Bytes.word hi lo)) data 5 n.toNat

def readScanB (data : Bytes) : Try ReaderError (Option Chip) :=
  match data.head? with
  | none => report (.badResponse .emptyScanB)
  | some found =>
    if found ≠ 1 then return none
    else readCard "UNKNOWN" data 2 (data[1]?.getD 0).toNat

/-- Takes the reply of the signed-mode handshake apart, and derives the key. -/
def readNonces (h : HmacHandshake) (reply : Bytes) : Try SessionError Bytes :=
  match h.key with
  | none => report (.missing .handshakeKey)
  | some key => do
    let plain ← lift (ofCipher (Cbc.decrypt key.toList Block.zero.toList reply))
    if plain.length ≠ 2 * Block.size then
      report (.badResponseLength (2 * Block.size) plain.length)
    else
      let host ← slice plain 0 Block.size
      if host ≠ h.nonce.toList then report .nonceMismatch
      else
        let reader ← slice plain Block.size plain.length
        match Block.ofList? reader with
        | some nonce => return signatureKey h.nonce nonce
        | none => report (.badResponseLength Block.size reader.length)

theorem readInformation_eq (data : Bytes) :
    readInformation data = lift (Information.ofPayload data) := by
  rcases data with _ | ⟨a, _ | ⟨b, _ | ⟨c, _ | ⟨d, _ | ⟨e, rest⟩⟩⟩⟩⟩
  · rfl
  · rfl
  · rfl
  · rfl
  · rfl
  · unfold readInformation
    rw [if_neg (by simp), byteAt_eq (by simp), byteAt_eq (by simp), byteAt_eq (by simp),
      byteAt_eq (by simp), byteAt_eq (by simp)]
    rfl

theorem readTamper_eq (data : Bytes) : readTamper data = lift (TamperSwitch.ofPayload data) := by
  rcases data with _ | ⟨enabled, _ | ⟨behavior, _ | ⟨changed, rest⟩⟩⟩
  · rfl
  · rfl
  · rfl
  · unfold readTamper TamperSwitch.ofPayload
    rw [if_neg (by simp), byteAt_eq (by simp), byteAt_eq (by simp), byteAt_eq (by simp), lift_bind]
    rfl

theorem readCard_eq (cardType : String) {data : Bytes} {start : Nat} (n : Nat) :
    readCard cardType data start n = lift (Scan.card cardType n (data.drop start)) := by
  unfold readCard Scan.card slice?
  rw [lift_ite]
  refine ite_congr rfl (fun _ => rfl) fun hn => ?_
  rw [List.length_drop, lift_ite, Nat.add_sub_cancel_left]
  by_cases hlong : data.length - start < n
  · rw [if_pos hlong, if_neg (by omega)]
    rfl
  · rw [if_neg hlong, if_pos (by omega)]
    rfl

theorem readScanA_eq (data : Bytes) : readScanA data = lift (Scan.typeA data) := by
  cases data with
  | nil => rfl
  | cons found rest =>
    unfold readScanA Scan.typeA
    dsimp only [List.head?_cons]
    rw [lift_ite]
    refine ite_congr rfl (fun _ => rfl) fun _ => ?_
    rcases rest with _ | ⟨hi, _ | ⟨lo, _ | ⟨sak, _ | ⟨n, _ | ⟨first, rest⟩⟩⟩⟩⟩
    · rfl
    · rfl
    · rfl
    · rfl
    · rfl
    · rw [if_neg (by simp), byteAt_eq (by simp), byteAt_eq (by simp), byteAt_eq (by simp)]
      exact readCard_eq _ _

theorem readScanB_eq (data : Bytes) : readScanB data = lift (Scan.typeB data) := by
  cases data with
  | nil => rfl
  | cons found rest =>
    unfold readScanB Scan.typeB
    dsimp only [List.head?_cons]
    rw [lift_ite]
    refine ite_congr rfl (fun _ => rfl) fun _ => ?_
    rw [readCard_eq]
    cases rest with
    | nil => rfl
    | cons n rest => rfl

theorem readNonces_eq (h : HmacHandshake) (reply : Bytes) :
    readNonces h reply = lift (h.finish reply) := by
  unfold readNonces HmacHandshake.finish
  cases h.key with
  | none => rfl
  | some key =>
    dsimp only
    rw [lift_bind]
    refine congrArg _ (funext fun plain => ?_)
    rw [lift_guarded]
    refine ite_congr rfl (fun _ => rfl) fun hlength => ?_
    -- Two blocks are a pair of nonces.
    obtain ⟨host, reader, rfl⟩ : ∃ host reader : Block, plain = host.toList ++ reader.toList :=
      ⟨_, _, Block.toList_pair plain (not_not.mp hlength)⟩
    have hhost : (slice (host.toList ++ reader.toList) 0 Block.size : Try SessionError Bytes) =
        .ok host.toList := rfl
    have hreader : (slice (host.toList ++ reader.toList) Block.size
        (host.toList ++ reader.toList).length : Try SessionError Bytes) = .ok reader.toList := rfl
    have hsame : host.toList ≠ h.nonce.toList ↔ host ≠ h.nonce :=
      not_congr ⟨Block.eq_of_toList, congrArg _⟩
    rw [lift_guarded, hhost, Run.ok_bind, hreader, Run.ok_bind, Block.ofPrefix_toList_append,
      Block.drop_toList_append, Block.ofList?_toList]
    refine ite_congr (propext hsame) (fun _ => rfl) fun _ => rfl

end

section

open Osdp

def readIdentity (data : Bytes) : Try ReaderError Identity :=
  if data.length < 12 then report (.badResponse (.shortIdentity data.length))
  else do
    let v0 ← byteAt data 0
    let v1 ← byteAt data 1
    let v2 ← byteAt data 2
    let model ← byteAt data 3
    let version ← byteAt data 4
    let s0 ← byteAt data 5
    let s1 ← byteAt data 6
    let s2 ← byteAt data 7
    let s3 ← byteAt data 8
    let f0 ← byteAt data 9
    let f1 ← byteAt data 10
    let f2 ← byteAt data 11
    return ⟨(v0, v1, v2), model, version, serialNumber s0 s1 s2 s3, (f0, f1, f2)⟩

def readReport (reply : Answer) : Try ReaderError Device.Report :=
  let data := reply.data
  if reply.status = ackReply then return .nothing
  else if reply.status = rawReply ∧ 4 < data.length then do
    return .card (← slice data 4 data.length)
  else if reply.status = formattedReply ∧ 3 < data.length then do
    return .card (← slice data 3 data.length)
  else if reply.status = extendedReply ∧ data[1]? = some 0x01 then do
    return .card (← slice data 2 data.length)
  else if reply.status = extendedReply then return .nothing
  else if reply.status = localStatusReply then
    return .tamper (match data.head? with | some first => first != 0 | none => false)
  else report (.badResponse (.pollReply reply.status))

theorem readIdentity_eq (data : Bytes) : readIdentity data = lift (Identity.ofPayload data) := by
  rcases data with _ | ⟨v0, _ | ⟨v1, _ | ⟨v2, _ | ⟨model, _ | ⟨version, _ | ⟨s0, _ | ⟨s1, _ |
    ⟨s2, _ | ⟨s3, _ | ⟨f0, _ | ⟨f1, _ | ⟨f2, rest⟩⟩⟩⟩⟩⟩⟩⟩⟩⟩⟩⟩
  iterate 12 rfl
  unfold readIdentity
  rw [if_neg (by simp), byteAt_eq (by simp), byteAt_eq (by simp), byteAt_eq (by simp),
    byteAt_eq (by simp), byteAt_eq (by simp), byteAt_eq (by simp), byteAt_eq (by simp),
    byteAt_eq (by simp), byteAt_eq (by simp), byteAt_eq (by simp), byteAt_eq (by simp),
    byteAt_eq (by simp)]
  rfl

/-- What a poll reports is read by position as by the cursor. -/
theorem readReport_eq (reply : Answer) : readReport reply = lift (Device.report reply) := by
  unfold readReport Device.report
  dsimp only
  rw [lift_ite]
  refine ite_congr rfl (fun _ => rfl) fun _ => ?_
  rw [lift_ite]
  refine ite_congr rfl (fun h => ?_) fun _ => ?_
  · rw [slice_rest (Nat.le_of_lt h.2)]
    rfl
  rw [lift_ite]
  refine ite_congr rfl (fun h => ?_) fun _ => ?_
  · rw [slice_rest (Nat.le_of_lt h.2)]
    rfl
  by_cases hextended : reply.status = extendedReply
  · rw [if_pos hextended, if_pos hextended]
    by_cases hcard : reply.data[1]? = some 0x01
    · obtain ⟨hlength, -⟩ := List.getElem?_eq_some_iff.mp hcard
      rw [if_pos ⟨hextended, hcard⟩, if_pos hcard, slice_rest hlength]
      rfl
    · rw [if_neg (fun h => hcard h.2), if_neg hcard]
      rfl
  · rw [if_neg (fun h => hextended h.1), if_neg hextended, if_neg hextended, lift_ite]
    refine ite_congr rfl (fun _ => ?_) fun _ => rfl
    cases reply.data with
    | nil => rfl
    | cons first rest => rfl

end

end CardReader.Access
