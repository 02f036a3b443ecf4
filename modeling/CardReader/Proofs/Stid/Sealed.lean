import CardReader.Proofs.Stid.Exchange

namespace CardReader.Stid

open Run

namespace Framer

/-- A command in a frame for the line and the mode of a host, enciphered and signed as the mode asks
under the keys of a session. -/
structure Sealed (f : Framer) (keys : Keys) (code : UInt16) (data body message raw : Bytes) :
    Prop where
  framed : raw = Peer.frame f message
  signed : f.mode.isSigned →
    ∃ key, keys.hmac = some key ∧ message = body ++ (Sha1.mac key body).take 10
  unsigned : ¬ f.mode.isSigned → message = body
  ciphered : f.mode.isCiphered → ∃ key initial, keys.aes = some key ∧
    body = Cbc.encipher key initial (Peer.request f.type code data) ++ initial.toList
  unciphered : ¬ f.mode.isCiphered → body = Peer.request f.type code data

theorem ofSession_ok {α : Type} {out : Except SessionError α} {f g : Framer} {a : α}
    (h : ofSession out f = .ok a g) : out = .ok a ∧ g = f := by
  cases out with
  | ok b =>
    injection h with hb hf
    exact ⟨congrArg Except.ok hb, hf.symm⟩
  | error e => contradiction

theorem hmacKey_ok {k : Keys} {key : Bytes} (h : k.hmacKey = .ok key) : k.hmac = some key := by
  unfold Keys.hmacKey at h
  cases hk : k.hmac with
  | some held =>
    rw [hk] at h
    rw [Except.ok.inj h]
  | none =>
    rw [hk] at h
    contradiction

theorem aesKey_ok {k : Keys} {key : Block} (h : k.aesKey = .ok key) : k.aes = some key := by
  unfold Keys.aesKey at h
  cases hk : k.aes with
  | some held =>
    rw [hk] at h
    rw [Except.ok.inj h]
  | none =>
    rw [hk] at h
    contradiction

theorem cipher_alike (message : Bytes) : Keeps Alike (cipher message) :=
  cipher_keeps closed_alike (fun f nonces => ⟨f.chained, f.lastCode, nonces, rfl⟩)
    (fun f chained => ⟨chained, f.lastCode, f.nonces, rfl⟩) message

theorem cipher_ok {f g : Framer} {message body : Bytes} (h : cipher message f = .ok body g) :
    ∃ key initial, f.keys.aes = some key ∧
      body = Cbc.encipher key initial message ++ initial.toList := by
  rw [cipher_run] at h
  obtain ⟨start, t, hstart, h⟩ := of_bind_ok h
  obtain ⟨-, rfl⟩ := ofSession_ok hstart
  rw [cipherFrom, get_bind_run] at h
  obtain ⟨key, u, hkey, h⟩ := of_bind_ok h
  injection h with hbody
  exact ⟨key, start, aesKey_ok (ofSession_ok hkey).1, hbody.symm⟩

theorem addSignature_ok {f g : Framer} {body message : Bytes}
    (h : addSignature body f = .ok message g) :
    ∃ key, f.keys.hmac = some key ∧ message = body ++ (Sha1.mac key body).take 10 := by
  unfold addSignature at h
  rw [get_bind_run] at h
  obtain ⟨key, t, hkey, ht⟩ := of_bind_ok h
  injection ht with hmessage
  exact ⟨key, hmacKey_ok (ofSession_ok hkey).1, hmessage.symm⟩

theorem hide_ok {f t : Framer} {plain body : Bytes}
    (h : (if f.mode.isCiphered then cipher plain else pure plain) f = .ok body t) :
    Alike f t ∧
      (f.mode.isCiphered → ∃ key initial, f.keys.aes = some key ∧
        body = Cbc.encipher key initial plain ++ initial.toList) ∧
      (¬ f.mode.isCiphered → body = plain) := by
  by_cases hc : f.mode.isCiphered
  · rw [if_pos hc] at h
    exact ⟨(cipher_alike plain).of_ok h, fun _ => cipher_ok h, fun hn => absurd hc hn⟩
  · rw [if_neg hc] at h
    injection h with hbody ht
    rw [← ht]
    exact ⟨closed_alike.refl f, fun hn => absurd hn hc, fun _ => hbody.symm⟩

theorem countersign_ok {mode : Mode} {t g : Framer} {body message : Bytes}
    (h : (if mode.isSigned then addSignature body else pure body) t = .ok message g) :
    (mode.isSigned →
        ∃ key, t.keys.hmac = some key ∧ message = body ++ (Sha1.mac key body).take 10) ∧
      (¬ mode.isSigned → message = body) := by
  by_cases hs : mode.isSigned
  · rw [if_pos hs] at h
    exact ⟨fun _ => addSignature_ok h, fun hn => absurd hs hn⟩
  · rw [if_neg hs] at h
    injection h with hmessage
    exact ⟨fun hn => absurd hn hs, fun _ => hmessage.symm⟩

/-- What a mode protects, it enciphers and signs under keys that the host holds. -/
theorem protect_ok {f g : Framer} {code : UInt16} {data message : Bytes}
    (h : protect f.mode code data f = .ok message g) :
    ∃ body, Sealed f f.keys code data body message (Peer.frame f message) := by
  by_cases hd : data.length ≤ 65535
  · rw [protect_eq f.mode code data hd, get_bind_run] at h
    obtain ⟨body, t, hhide, hsign⟩ := of_bind_ok h
    obtain ⟨⟨chained, lastCode, nonces, rfl⟩, hciphered, hunciphered⟩ := hide_ok hhide
    obtain ⟨hsigned, hunsigned⟩ := countersign_ok hsign
    exact ⟨body, rfl, hsigned, hunsigned, hciphered, hunciphered⟩
  · rw [protect_too_large f.mode code data (by omega)] at h
    contradiction

/-- Whatever a host frames, it frames in its mode and protects under its keys. -/
theorem encode_command_ok {f g : Framer} {code : UInt16} {data raw : Bytes}
    (h : encode (command code data) f = .ok raw g) :
    ∃ body message, Sealed f f.keys code data body message raw := by
  rw [encode_eq] at h
  obtain ⟨message, t, hprotect, hframe⟩ := of_bind_ok h
  have halike := (protect_keeps closed_alike (fun _ => cipher_alike) code data).of_ok hprotect
  obtain ⟨chained, lastCode, nonces, rfl⟩ := halike
  obtain ⟨body, hsealed⟩ := protect_ok (f := { f with lastCode := code }) hprotect
  refine ⟨body, message, ?_, hsealed.signed, hsealed.unsigned, hsealed.ciphered,
    hsealed.unciphered⟩
  by_cases hlong : lengthLimit < message.length
  · rw [if_pos hlong] at hframe
    contradiction
  · rw [if_neg hlong, get_bind_run] at hframe
    injection hframe with hraw
    rw [← hraw, ← Peer.enframe_eq]
    rfl

theorem command_word (hi lo : UInt8) (data : Bytes) :
    command (Bytes.word hi lo) data = hi :: lo :: data := by
  rw [command, Bytes.bigEndian, Bytes.high_word, Bytes.low_word]
  rfl

theorem encode_ok {f g : Framer} {bytes raw : Bytes} (h : encode bytes f = .ok raw g) :
    ∃ code data, bytes = command code data := by
  match bytes with
  | [] => contradiction
  | [_] => contradiction
  | hi :: lo :: data => exact ⟨Bytes.word hi lo, data, (command_word hi lo data).symm⟩

theorem Sealed.bare {f : Framer} {keys : Keys} {code : UInt16} {data body message raw : Bytes}
    (h : Sealed f keys code data body message raw) (hs : ¬ f.mode.isSigned)
    (hc : ¬ f.mode.isCiphered) : raw = Peer.frame f (Peer.request f.type code data) := by
  rw [h.framed, h.unsigned hs, h.unciphered hc]

end Framer

end CardReader.Stid
