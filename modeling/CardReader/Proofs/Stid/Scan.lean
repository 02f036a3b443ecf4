import CardReader.Link.Scripted
import CardReader.Proofs.Channel
import CardReader.Proofs.Stid.Peer
import CardReader.Stid.Device

namespace CardReader.Stid

open Run Act

namespace Scan

/-- A 14443A answer that brings a card: its answer to the request, its acknowledgement, how long its
identifier is, and what there is of it. -/
def foundA (atqa : UInt16) (sak : UInt8) (n : Nat) (part : Bytes) : Bytes :=
  1 :: Bytes.bigEndian atqa ++ [sak, UInt8.ofNat n] ++ part

/-- A 14443B answer that brings a card: how long its identifier is, and what there is of it. -/
def foundB (n : Nat) (part : Bytes) : Bytes := [1, UInt8.ofNat n] ++ part

variable {uid part : Bytes} {k : Nat}

theorem card_whole (cardType : String) (uid : Bytes) :
    card cardType uid.length uid = .ok (if uid = [] then none else some ⟨cardType, uid⟩) := by
  unfold card
  by_cases huid : uid = []
  · rw [if_pos huid, if_pos (List.length_eq_zero_iff.mpr huid)]
  · rw [if_neg huid, if_neg (mt List.length_eq_zero_iff.mp huid), if_neg (Nat.lt_irrefl _),
      List.take_length]

theorem card_cut (cardType : String) (h : k < uid.length) :
    card cardType uid.length (uid.take k) = .error (.badResponse (.cutIdentifier uid.length)) := by
  unfold card
  rw [if_neg (Nat.ne_of_gt (Nat.zero_lt_of_lt h)), if_pos (by rw [List.length_take]; omega)]

/-- With a byte of the identifier there, the announced length decides. -/
theorem typeA_found (atqa : UInt16) (sak : UInt8) {n : Nat} (hn : n ≤ 255) (hpart : part ≠ []) :
    typeA (foundA atqa sak n part) = card (cardType atqa) n part := by
  obtain ⟨first, rest, rfl⟩ := List.exists_cons_of_ne_nil hpart
  change card (cardType (Bytes.word (Bytes.high atqa) (Bytes.low atqa))) (UInt8.ofNat n).toNat
    (first :: rest) = _
  rw [Bytes.word_high_low, UInt8.toNat_ofNat_of_lt' (Nat.lt_succ_of_le hn)]

/-- Without one the answer is too short, also if none is announced. -/
theorem typeA_short (atqa : UInt16) (sak : UInt8) (n : Nat) :
    typeA (foundA atqa sak n []) = .error (.badResponse (.shortScanA 5)) := rfl

theorem typeA_cut (atqa : UInt16) (sak : UInt8) (huid : uid.length ≤ 255) (h : k < uid.length) :
    ∃ cause, typeA (foundA atqa sak uid.length (uid.take k)) = .error (.badResponse cause) := by
  by_cases hpart : uid.take k = []
  · rw [hpart]
    exact ⟨_, typeA_short atqa sak uid.length⟩
  · rw [typeA_found atqa sak huid hpart]
    exact ⟨_, card_cut _ h⟩

theorem typeB_found {n : Nat} (hn : n ≤ 255) (part : Bytes) :
    typeB (foundB n part) = card "UNKNOWN" n part := by
  change card "UNKNOWN" (UInt8.ofNat n).toNat part = _
  rw [UInt8.toNat_ofNat_of_lt' (Nat.lt_succ_of_le hn)]

end Scan

namespace Device

open Scan

variable {σ : Type} [Link σ] {b : Bench σ Device} {answer : Answer}

theorem scanA_answered (h : outcome (send scanACode [0x00] b) = .ok answer) :
    outcome (scanA b) = typeA answer.data := by
  unfold scanA
  rw [bind_outcome_ok h]
  cases typeA answer.data <;> rfl

theorem scanB_answered (h : outcome (send scanBCode [] b) = .ok answer) :
    outcome (scanB b) = typeB answer.data := by
  unfold scanB
  rw [bind_outcome_ok h]
  cases typeB answer.data <;> rfl

/-- A 14443B scan is made if and only if the 14443A scan ends without a card. -/
theorem chipInAir_scans (b : Bench σ Device) :
    chipInAir b =
      match scanA b with
      | .ok none c => scanB c
      | out => out := by
  unfold chipInAir
  cases hscan : (scanA b : EStateM.Result ReaderError (Bench σ Device) (Option Chip)) with
  | error e c => rw [bind_error hscan]
  | ok seen c =>
    rw [bind_ok hscan]
    cases seen <;> rfl

/-- A scan whose answer brings the identifier that it announces reports the card. If it announces
none, there is no card for a 14443B scan, while a 14443A scan refuses its answer, which is one byte
too short for it. An answer that brings less than it announces is refused. A look for a card reports
what the 14443A scan found, or else what the 14443B scan comes to. -/
theorem scans_decoded (b : Bench σ Device) (atqa : UInt16) (sak status : UInt8) (uid : Bytes)
    (huid : uid.length ≤ 255) :
    (outcome (send scanACode [0x00] b) = .ok ⟨foundA atqa sak uid.length uid, status⟩ →
      (uid ≠ [] → outcome (scanA b) = .ok (some ⟨cardType atqa, uid⟩)) ∧
      (uid = [] → outcome (scanA b) = .error (.badResponse (.shortScanA 5)))) ∧
    (∀ k < uid.length,
      outcome (send scanACode [0x00] b) = .ok ⟨foundA atqa sak uid.length (uid.take k), status⟩ →
        ∃ cause, outcome (scanA b) = .error (.badResponse cause)) ∧
    (outcome (send scanBCode [] b) = .ok ⟨foundB uid.length uid, status⟩ →
      outcome (scanB b) = .ok (if uid = [] then none else some ⟨"UNKNOWN", uid⟩)) ∧
    (∀ k < uid.length,
      outcome (send scanBCode [] b) = .ok ⟨foundB uid.length (uid.take k), status⟩ →
        ∃ cause, outcome (scanB b) = .error (.badResponse cause)) ∧
    (∀ chip c, scanA b = .ok (some chip) c → chipInAir b = .ok (some chip) c) ∧
    (∀ c, scanA b = .ok none c → chipInAir b = scanB c) ∧
    ∀ e c, scanA b = .error e c → chipInAir b = .error e c := by
  refine ⟨fun h => ⟨fun hsome => ?_, ?_⟩, fun k hk h => ?_, fun h => ?_, fun k hk h => ?_,
    fun chip c h => ?_, fun c h => ?_, fun e c h => ?_⟩
  · rw [scanA_answered h, typeA_found atqa sak huid hsome, card_whole, if_neg hsome]
  · rintro rfl
    exact (scanA_answered h).trans (typeA_short atqa sak 0)
  · rw [scanA_answered h]
    exact typeA_cut atqa sak huid hk
  · rw [scanB_answered h, typeB_found huid, card_whole]
  · rw [scanB_answered h, typeB_found huid]
    exact ⟨_, card_cut "UNKNOWN" hk⟩
  all_goals rw [chipInAir_scans, h]

/-- A host in plain mode at a reader that answers the next commands, each by its code and data. -/
def facing (answers : List (UInt16 × Bytes)) : Bench ScriptedLink Device where
  world := {}
  channel :=
    .onLink
      { name := "gate"
        connected := true
        reactions := answers.map fun answer =>
          .deliver [(0, .chunk (Peer.frame {} (Peer.answer .reader answer.1 answer.2 0)))] } 200
  driver := { framer := {}, configured := .plain, hmacKey := [], aesKey := [] }

/-- An identifier of one byte, and one of ten of which the last is missing. -/
theorem scans_decoded_odd :
    let card := facing [(scanACode, foundA 0x0344 0x20 1 [0xA5])]
    let uid : Bytes := [1, 2, 3, 4, 5, 6, 7, 8, 9, 10]
    let cut := facing [(scanBCode, foundB 10 (uid.take 9))]
    [(0xA5 : UInt8)].length ≤ 255 ∧ uid.length ≤ 255 ∧
      outcome (send scanACode [0x00] card) = .ok ⟨foundA 0x0344 0x20 1 [0xA5], 0⟩ ∧
      outcome (scanA card) = .ok (some ⟨"DESFireEV1", [0xA5]⟩) ∧
      outcome (send scanBCode [] cut) = .ok ⟨foundB 10 (uid.take 9), 0⟩ ∧
      ∃ cause, outcome (scanB cut) = .error (.badResponse cause) := by
  intro card uid cut
  have hcard : outcome (send scanACode [0x00] card) = .ok ⟨foundA 0x0344 0x20 1 [0xA5], 0⟩ := by
    decide +kernel
  have hcut : outcome (send scanBCode [] cut) = .ok ⟨foundB 10 (uid.take 9), 0⟩ := by
    decide +kernel
  have hwhole := (scans_decoded card 0x0344 0x20 0 [0xA5] (by decide)).1 hcard
  have hpart := scans_decoded cut 0 0 0 uid (by decide)
  exact ⟨by decide, by decide, hcard, hwhole.1 (by decide), hcut, hpart.2.2.2.1 9 (by decide) hcut⟩

/-- A card without an identifier in a 14443A answer is not taken for no card, and a 14443B card
behind it is not looked for. -/
theorem blank_card_refused :
    let b := facing [(scanACode, foundA 0x0004 0x08 0 []), (scanBCode, foundB 2 [0xCA, 0xFE])]
    outcome (send scanACode [0x00] b) = .ok ⟨foundA 0x0004 0x08 0 [], 0⟩ ∧
      outcome (scanA b) ≠ .ok none ∧
      outcome (chipInAir b) = .error (.badResponse (.shortScanA 5)) := by
  decide +kernel

end Device

end CardReader.Stid
